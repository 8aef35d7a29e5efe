import ContestExchange.Extraction.Result

namespace ContestExchange

/-!
# Actions

A key in the exchange field can ask for something outside of it: to send a message, to turn the
speed up, to show a text.  The field itself does none of that.  It answers with a list of actions
in the order in which they are to be carried out.
-/

/-- The two ways in which a scale can be stepped. -/
inductive Direction where
  | up
  | down
deriving DecidableEq, Repr

/-- What is done with QSO records. -/
inductive QtcRole where
  | recv
  | send
deriving DecidableEq, Repr

/-- The name of what is done with QSO records. -/
def QtcRole.name : QtcRole → Text
  | .recv => Text.ofString "recv"
  | .send => Text.ofString "send"

/-- What a key asks for outside the exchange field. -/
inductive Action where
  | sendMessage (slot : Int)
  | sendCall (call : Text)
  | playVoice (slot : Int)
  | stopTransmission
  | addSpot
  | qtc (panel : Text)
  | keyer
  | speed (direction : Direction)
  | report (direction : Direction)
  | idle
  | preview (field text : Text)
  | notify (message : Text)
  | updateCall (call : Text)
  | refresh (text : Text) (cursor : Int)
deriving DecidableEq

namespace Action

/-- The action that shows a preview. -/
def ofPreview (preview : Preview) : Action := .preview preview.1 preview.2

/-- The action that opens the panel in which QSO records are received or sent. -/
def ofRole (role : QtcRole) : Action := .qtc role.name

end Action
end ContestExchange
