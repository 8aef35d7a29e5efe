import ContestExchange.Capture.Action
import ContestExchange.Morse.Report
import ContestExchange.Morse.Speed

namespace ContestExchange

/-!
# Requests to the station

Around the exchange field there is a station with a keyer speed and a received report of its own.
It turns each action into requests: what to send, and what to show.  Stepping the speed or the
report is the station's own affair, and only the outcome is set and shown.
-/

/-- Something to be shown to the operator. -/
inductive Notice where
  | field (name text : Text)
  | message (text : Text)
  | exchange (text : Text) (cursor : Int)
  | call (call : Text)
  | speed (wpm : Nat)
  | report (text : Text)
deriving DecidableEq

/-- Something to be done by the station. -/
inductive Request where
  | sendMessage (slot : Int)
  | sendCall (call : Text)
  | playVoice (slot : Int)
  | stopTransmission
  | addSpot
  | qtcPanel (panel : Text)
  | keyer
  | setSpeed (wpm : Nat)
  | display (notice : Notice)
deriving DecidableEq

/-- The speed and the report of a station. -/
structure Rig where
  speed : Speed := .standard
  report : Report := .best

namespace Rig

/-- Steps the speed. -/
def stepSpeed (rig : Rig) : Direction → Rig
  | .up => { rig with speed := rig.speed.raise }
  | .down => { rig with speed := rig.speed.lower }

/-- Steps the report. -/
def stepReport (rig : Rig) : Direction → Rig
  | .up => { rig with report := rig.report.raise }
  | .down => { rig with report := rig.report.lower }

/-- The text of the report. -/
def reportText (rig : Rig) : Text := rig.report.text?.getD []

/-- Turns an action into requests. -/
def serve (rig : Rig) : Action → Rig × List Request
  | .sendMessage slot => (rig, [.sendMessage slot])
  | .sendCall call => (rig, [.sendCall call])
  | .playVoice slot => (rig, [.playVoice slot])
  | .stopTransmission => (rig, [.stopTransmission])
  | .addSpot => (rig, [.addSpot])
  | .qtc panel => (rig, [.qtcPanel panel])
  | .keyer => (rig, [.keyer])
  | .speed direction =>
      let rig := rig.stepSpeed direction
      (rig, [.setSpeed rig.speed.wpm, .display (.speed rig.speed.wpm)])
  | .report direction =>
      let rig := rig.stepReport direction
      (rig, [.display (.report rig.reportText)])
  | .idle => (rig, [])
  | .preview name text => (rig, [.display (.field name text)])
  | .notify message => (rig, [.display (.message message)])
  | .updateCall call => (rig, [.display (.call call)])
  | .refresh text cursor => (rig, [.display (.exchange text cursor)])

/-- Turns actions into requests, in order. -/
def serveAll (rig : Rig) : List Action → Rig × List Request
  | [] => (rig, [])
  | action :: rest =>
      let (served, requests) := rig.serve action
      let (last, following) := served.serveAll rest
      (last, requests ++ following)

end Rig
end ContestExchange
