import ContestExchange.Number.Decimal

namespace ContestExchange

/-!
# The capture log

A capture notes what happens to the exchange.  Each note is kept with the state in which it was
made; the time at which it was made is left out.  The log is bounded: when it outgrows its limit the
older part is dropped.
-/

/-- The state of a capture. -/
inductive CaptureState where
  | idle
  | collecting
  | editing
  | complete
  | back
  | rejected
  | aborted
deriving DecidableEq, Repr

namespace CaptureState

/-- The name of a state. -/
def name : CaptureState → Text
  | .idle => Text.ofString "IDLE"
  | .collecting => Text.ofString "COLLECTING"
  | .editing => Text.ofString "EDITING"
  | .complete => Text.ofString "COMPLETE"
  | .back => Text.ofString "BACK"
  | .rejected => Text.ofString "REJECTED"
  | .aborted => Text.ofString "ABORTED"

/-- Whether a capture ends in a state. -/
def isFinal : CaptureState → Bool
  | .complete | .back | .rejected | .aborted => true
  | .idle | .collecting | .editing => false

end CaptureState

/-- What an exchange still lacks. -/
inductive Prompt where
  | ofSection
  | ofLocator
  | ofStateProvince
deriving DecidableEq, Repr

/-- How an operator is asked for what is lacking. -/
def Prompt.message : Prompt → Text
  | .ofSection => Text.ofString "section?"
  | .ofLocator => Text.ofString "locator?"
  | .ofStateProvince => Text.ofString "state/prov?"

/-- Something worth noting about a capture. -/
inductive Note where
  | prefillIgnored (text : Text) (width : Nat)
  | started (call : Text)
  | callCorrected (before after : Text)
  | editing
  | serialAligned (text : Text)
  | prompted (prompt : Prompt) (text : Text)
  | sectionMissing (text : Text)
  | stateProvinceMissing
  | finished (text : Text) (state : CaptureState)
  | aborted
deriving DecidableEq

namespace Note

/-- A call, or a dash where there is none. -/
def shownCall (call : Text) : Text := Text.orElse ['-'] call

/-- A text between single quotes. -/
def quoted (text : Text) : Text := '\'' :: text ++ ['\'']

/-- How serious a note is. -/
def level : Note → Text
  | .prefillIgnored _ _ => Text.ofString "WARN"
  | .prompted _ _ | .sectionMissing _ | .stateProvinceMissing => Text.ofString "ERR"
  | .started _ | .callCorrected _ _ | .editing | .serialAligned _ | .finished _ _ | .aborted =>
      Text.ofString "INFO"

/-- The wording of a note. -/
def message : Note → Text
  | .prefillIgnored text width =>
      Text.ofString "Prefill " ++ quoted text ++ Text.ofString " does not fit " ++
        Decimal.natText width ++ Text.ofString " characters; ignored."
  | .started call => Text.ofString "Exchange capture started for " ++ shownCall call
  | .callCorrected before after =>
      Text.ofString "Call corrected " ++ shownCall before ++ Text.ofString " -> " ++ after
  | .editing => Text.ofString "Edit exchange"
  | .serialAligned text => Text.ofString "Serial aligned to " ++ quoted text
  | .prompted prompt text => prompt.message ++ ' ' :: quoted text
  | .sectionMissing text => Text.ofString "Section missing in " ++ quoted text
  | .stateProvinceMissing => Text.ofString "State/province missing"
  | .finished text state =>
      Text.ofString "Exchange " ++ quoted text ++ Text.ofString " finished (" ++ state.name ++ [')']
  | .aborted => Text.ofString "Exchange capture aborted"

end Note

/-- A note and the state in which it was made. -/
structure LogEntry where
  state : CaptureState
  note : Note
deriving DecidableEq

/-- The notes of a capture, the latest one last. -/
abbrev Log := List LogEntry

namespace Log

/-- The most entries that are kept. -/
def limit : Nat := 2000

/-- How many of the latest entries remain when there are too many. -/
def remainder : Nat := 1000

/-- Adds an entry. -/
def record (log : Log) (entry : LogEntry) : Log :=
  let longer := log ++ [entry]
  if limit < longer.length then longer.drop (longer.length - remainder) else longer

end Log
end ContestExchange
