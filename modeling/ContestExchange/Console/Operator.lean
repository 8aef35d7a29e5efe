import ContestExchange.Capture.Request
import ContestExchange.Capture.Session
import ContestExchange.Morse.Message
import ContestExchange.Morse.Outbox
import ContestExchange.Station.Config

namespace ContestExchange

/-!
# The operator's side

The operator works a station with a configuration, a rig and perhaps a player for the sidetone.
Requests are turned into what the operator gets to see: lines about what is done, and notices for
the display.  The last accepted exchange of every call is remembered, and each one counts the serial
number up.
-/

/-- The player of keyed messages. -/
structure Player where
  wpm : Quantity
  outbox : Outbox := {}

/-- What the operator gets to see. -/
inductive Output where
  | line (text : Text)
  | notice (notice : Notice)
deriving DecidableEq

/-- The operator's side of a contest.  The last accepted exchange of each call is kept, in the order in
which the calls came. -/
structure Operator where
  config : Config
  rig : Rig
  player : Option Player := none
  contact : Contact := {}
  serial : Int := 1
  recalled : List (Text × Text) := []
  spots : List Text := []

namespace Operator

/-- An operator who starts with a configuration. -/
def create (config : Config) (player : Option Player) : Operator :=
  { config := config
    rig := { speed := .ofWpm config.keyer.wpm }
    player := player }

/-! ## Remembering -/

/-- The last accepted exchange of a call; empty text if there is none. -/
def remembered (operator : Operator) (call : Text) : Text :=
  ((operator.recalled.find? fun entry => entry.1 == call).map (·.2)).getD []

/-- Sets the exchange of a call, which keeps its place among the calls. -/
def setRecalled (recalled : List (Text × Text)) (call exchange : Text) : List (Text × Text) :=
  if recalled.any fun entry => entry.1 == call then
    recalled.map fun entry => if entry.1 == call then (call, exchange) else entry
  else recalled ++ [(call, exchange)]

/-- Remembers an accepted exchange with a call. -/
def remember (operator : Operator) (result : CaptureResult) : Operator :=
  if result.isAccepted && !result.call.isEmpty then
    { operator with
      recalled := setRecalled operator.recalled result.call result.exchange
      serial := operator.serial + 1 }
  else operator

/-! ## Sending -/

/-- The line about a message that is sent. -/
def sendingLine (operator : Operator) (message : Text) : Text :=
  let seconds :=
    Message.secondsOfDots (Message.dots message []) (.ofInt operator.rig.speed.wpm)
  Text.ofString "TX " ++ message ++ Text.ofString " (" ++ Decimal.fixedText 1 seconds ++
    Text.ofString "s)"

/-- Changes the player, if there is one. -/
def withPlayer (operator : Operator) (change : Player → Player) : Operator :=
  { operator with player := operator.player.map change }

/-- Sends a message; a blank one is nothing to send. -/
def send (operator : Operator) (message : Text) : Operator × List Output :=
  if Text.isAllBlank message then (operator, [])
  else
    (operator.withPlayer fun player => { player with outbox := player.outbox.send message },
     [.line (operator.sendingLine message)])

/-- A prepared message, filled in. -/
def prepared (operator : Operator) (slot : Int) : Text :=
  Message.fill (Message.slot operator.config.keyer.messages slot) operator.config.station.myCall
    operator.contact.call operator.serial

/-- Stops what is being sent. -/
def stop (operator : Operator) : Operator :=
  operator.withPlayer fun player => { player with outbox := player.outbox.silence }

/-- Spots the station being worked, if there is one. -/
def spot (operator : Operator) : Operator × List Output :=
  let call := operator.contact.call
  if call.isEmpty then (operator, [])
  else
    ({ operator with spots := operator.spots ++ [call] },
     [.line (Text.ofString "Spot added: " ++ call)])

/-- Uses a speed from now on, in the configuration too. -/
def setSpeed (operator : Operator) (wpm : Quantity) : Operator :=
  let config :=
    { operator.config with keyer := { operator.config.keyer with wpm := wpm } }
  { operator with config := config }.withPlayer fun player => { player with wpm := wpm }

/-- The line about something that the station cannot do. -/
def missing (before : String) (what : Text) (behind : String) : Output :=
  .line (Text.ofString before ++ what ++ Text.ofString behind)

/-! ## Requests and actions -/

/-- Does what a request asks for. -/
def serve (operator : Operator) : Request → Operator × List Output
  | .sendMessage slot => operator.send (operator.prepared slot)
  | .sendCall call => operator.send call
  | .playVoice slot =>
      (operator, [missing "Voice message " (Decimal.intText slot) " not available."])
  | .stopTransmission => (operator.stop, [])
  | .addSpot => operator.spot
  | .qtcPanel panel => (operator, [missing "QTC " panel " panel not available."])
  | .keyer => (operator, [.line (Text.ofString "Keyboard keyer not available.")])
  | .setSpeed wpm => (operator.setSpeed (.whole wpm), [])
  | .display notice => (operator, [.notice notice])

/-- Does what requests ask for, in order. -/
def serveAll (operator : Operator) : List Request → Operator × List Output
  | [] => (operator, [])
  | request :: rest =>
      let (served, outputs) := operator.serve request
      let (last, following) := served.serveAll rest
      (last, outputs ++ following)

/-- Performs actions, in order. -/
def perform (operator : Operator) : List Action → Operator × List Output
  | [] => (operator, [])
  | action :: rest =>
      let (rig, requests) := operator.rig.serve action
      let (served, outputs) := { operator with rig := rig }.serveAll requests
      let (last, following) := served.perform rest
      (last, outputs ++ following)

end Operator
end ContestExchange
