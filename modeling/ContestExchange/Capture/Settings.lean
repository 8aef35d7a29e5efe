import ContestExchange.Text.Basic

namespace ContestExchange

/-!
# Capture settings

The operator's choices that bear on the exchange field: the call, the mode of the transceiver, how
Enter and the plus sign behave, and what the paging keys change.
-/

/-- The mode of the transceiver. -/
inductive Mode where
  | cw
  | ssb
  | digi
deriving DecidableEq, Repr

namespace Mode

/-- The name of a mode. -/
def name : Mode → Text
  | .cw => Text.ofString "CW"
  | .ssb => Text.ofString "SSB"
  | .digi => Text.ofString "DIGI"

/-- All modes. -/
def all : List Mode := [.cw, .ssb, .digi]

/-- The mode of a name. -/
def named? (name : Text) : Option Mode := all.find? fun mode => mode.name == name

/-- Whether messages are sent as text and not as recorded voice. -/
def isKeyed : Mode → Bool
  | .cw | .digi => true
  | .ssb => false

end Mode

/-- In which directions QSO records are passed on. -/
inductive QtcDirection where
  | off
  | recv
  | send
  | both
deriving DecidableEq, Repr

namespace QtcDirection

/-- The name of a direction. -/
def name : QtcDirection → Text
  | .off => Text.ofString "off"
  | .recv => Text.ofString "recv"
  | .send => Text.ofString "send"
  | .both => Text.ofString "both"

/-- All directions. -/
def all : List QtcDirection := [.off, .recv, .send, .both]

/-- The direction of a name. -/
def named? (name : Text) : Option QtcDirection := all.find? fun direction => direction.name == name

end QtcDirection

/-- The choices that bear on the exchange field. -/
structure CaptureSettings where
  myCall : Text := Text.ofString "N0CALL"
  mode : Mode := .cw
  ctCompatible : Bool := false
  callUpdate : Bool := true
  changeReport : Bool := false
  qtc : QtcDirection := .off
  voiceCallSlot : Int := 5

end ContestExchange
