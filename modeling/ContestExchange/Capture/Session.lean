import ContestExchange.Capture.Action
import ContestExchange.Capture.Log
import ContestExchange.Capture.Settings
import ContestExchange.Exchange.Contact
import ContestExchange.Exchange.Editor
import ContestExchange.Extraction.Extractor

namespace ContestExchange

/-!
# Capturing an exchange

A capture session holds the exchange line of one contact and takes one key after the other.  While
the exchange is collected, keys append to the line, send messages, or ask for the exchange to be
completed; from there it can be edited in place.  A session ends when the exchange is accepted,
rejected or left for the call field, or when no more keys arrive.

A session draws nothing and waits for nothing.  Starting it, a key and its end each give the session
afterwards and a transition: the state reached, the key it was reached with, and the actions to be
carried out around the field.  The only failure is that of reading the exchange.
-/

/-- One exchange being captured. -/
structure CaptureSession where
  rule : Rule
  extractor : Extractor
  settings : CaptureSettings
  buffer : Buffer
  contact : Contact
  state : CaptureState
  reading : Option Extraction
  cursor : Option Nat
  lastKey : Key
  log : Log

/-- What starting, a key or the end brings about. -/
structure Transition where
  state : CaptureState
  key : Key := 0
  actions : List Action := []

/-- Whether a transition ends the capture. -/
def Transition.isFinal (transition : Transition) : Bool := transition.state.isFinal

/-- What a capture comes to, with the key that counts as its last one. -/
structure CaptureResult where
  key : Key
  status : CaptureState
  exchange : Text
  reading : Extraction
  call : Text

/-- Whether the exchange was accepted. -/
def CaptureResult.isAccepted (result : CaptureResult) : Bool := result.status == .complete

namespace CaptureSession

/-- A session that nothing has happened in yet. -/
def create (rule : Rule) (extractor : Extractor) (settings : CaptureSettings)
    (contact : Contact) : Except Fault CaptureSession :=
  (Buffer.create rule.width []).map fun buffer =>
    { rule := rule
      extractor := extractor
      settings := settings
      buffer := buffer
      contact := contact
      state := .idle
      reading := none
      cursor := none
      lastKey := 0
      log := [] }

/-- What was last read, with every part empty as long as nothing was. -/
def latestReading (session : CaptureSession) : Extraction := session.reading.getD {}

/-- What the capture comes to as it stands. -/
def result (session : CaptureSession) : CaptureResult :=
  { key := session.lastKey
    status := session.state
    exchange := session.buffer.text
    reading := session.latestReading
    call := session.contact.call }

/-- Notes something under the present state. -/
def note (session : CaptureSession) (note : Note) : CaptureSession :=
  { session with log := session.log.record ⟨session.state, note⟩ }

/-- The action that shows the line: the cursor is the editor's, or stands behind the line. -/
def refresh (session : CaptureSession) : Action :=
  .refresh session.buffer.text (session.cursor.getD session.buffer.length : Nat)

/-! ## Reading while typing -/

/-- The call that the exchange corrects the contact's to, if it does. -/
def correction? (session : CaptureSession) (reading : Extraction) : Option Text :=
  if session.settings.callUpdate && 3 ≤ reading.correction.length &&
      reading.correction != session.contact.call then
    some reading.correction
  else
    none

/-- Takes over the call that a reading corrects the contact's to. -/
def correctCall (session : CaptureSession) (reading : Extraction) :
    CaptureSession × List Action :=
  match session.correction? reading with
  | none => (session, [])
  | some call =>
      let noted := session.note (.callCorrected session.contact.call call)
      ({ noted with contact := { noted.contact with call := call } }, [.updateCall call])

/-- Reads the line while it is being typed: the fields are shown, the call is corrected. -/
def validate (session : CaptureSession) : Except Fault (CaptureSession × List Action) :=
  match session.extractor.extract true session.buffer.text with
  | .error fault => .error fault
  | .ok reading =>
      let (session, corrections) := { session with reading := some reading }.correctCall reading
      .ok (session, reading.previews.map .ofPreview ++ corrections)

/-- Reads the line again if its contest asks for that and `needed` says that it has to be. -/
def validateIf (session : CaptureSession) (needed : Bool) :
    Except Fault (CaptureSession × List Action) :=
  if session.rule.isLive && needed then session.validate else .ok (session, [])

/-! ## Starting -/

/-- The zone or the continent that an exchange starts with when nothing else is known. -/
def knownStart (session : CaptureSession) : Text :=
  let contact := session.contact
  if contact.call.isEmpty then []
  else
    let zone :=
      match session.rule.zonePrefill with
      | .none => []
      | .cq => contact.cqZone
      | .itu => contact.ituZone
    if zone.isEmpty && session.rule.continentPrefill then contact.continent else zone

/-- The text that an exchange starts with: the one asked for, else the recalled one where the
contest recalls exchanges, else what is known about the contact. -/
def startText (session : CaptureSession) (prefill recalled : Text) : Text :=
  let wanted := Text.upper prefill
  let brought :=
    if wanted.isEmpty && session.rule.recallExchange then Text.upper recalled else wanted
  if brought.isEmpty then session.knownStart else brought

/-- Puts the text to start with into the line, unless it does not fit. -/
def fill (session : CaptureSession) (text : Text) : CaptureSession :=
  let (fitted, buffer) := session.buffer.replace text
  if fitted then { session with buffer := buffer }
  else
    { session.note (.prefillIgnored text session.buffer.width) with
      buffer := session.buffer.clear }

/-- Starts a capture, whatever came before it. -/
def start (session : CaptureSession) (prefill recalled : Text) :
    Except Fault (CaptureSession × Transition) :=
  let filled := session.fill (session.startText prefill recalled)
  let opened := { filled with state := .collecting, reading := none, cursor := none }
  let noted := opened.note (.started opened.contact.call)
  match noted.validateIf true with
  | .error fault => .error fault
  | .ok (session, actions) =>
      .ok (session, { state := session.state, actions := actions ++ [session.refresh] })

/-! ## Staying and ending -/

/-- The transition of a key that leaves the capture open. -/
def stay (session : CaptureSession) (actions : List Action) : CaptureSession × Transition :=
  (session, ⟨session.state, session.lastKey, actions ++ [session.refresh]⟩)

/-- Reads the line if it has not been read since the start. -/
def readOnce (session : CaptureSession) : Except Fault CaptureSession :=
  match session.reading with
  | some _ => .ok session
  | none =>
      (session.extractor.extract false session.buffer.text).map fun reading =>
        { session with reading := some reading }

/-- Ends the capture in a state, with the key that counts as the last one. -/
def finish (session : CaptureSession) (state : CaptureState) (key : Key)
    (actions : List Action) : Except Fault (CaptureSession × Transition) :=
  match { session with state := state, lastKey := key, cursor := none }.readOnce with
  | .error fault => .error fault
  | .ok session =>
      let session := session.note (.finished session.buffer.text state)
      .ok (session, ⟨state, key, actions ++ [session.refresh]⟩)

/-- Ends the capture because there are no more keys. -/
def abort (session : CaptureSession) : CaptureSession × Transition :=
  let session := { session with state := .aborted }.note .aborted
  (session, { state := session.state, key := session.lastKey })

/-- Asks for what is lacking and stays. -/
def ask (session : CaptureSession) (prompt : Prompt) (actions : List Action) :
    CaptureSession × Transition :=
  (session.note (.prompted prompt session.buffer.text)).stay (actions ++ [.notify prompt.message])

/-! ## Completing -/

/-- Whether the serial of this contact is padded. -/
def padsSerial (session : CaptureSession) : Bool :=
  session.rule.padding != .none && (!session.rule.padForeignOnly || session.contact.foreign)

/-- Pads the serial of the line. -/
def alignSerial (session : CaptureSession) : CaptureSession :=
  let text := session.buffer.text
  let padded := Serial.pad session.rule.padding (some session.buffer.width) text
  if padded == text then session
  else
    let (fitted, buffer) := session.buffer.replace padded
    if fitted then { session with buffer := buffer }.note (.serialAligned padded) else session

/-- Whether a digital exchange is too short to name a state or province. -/
def lacksStateProvince (session : CaptureSession) : Bool :=
  session.rule.strategy == .zone && session.settings.mode == .digi &&
    session.rule.stateProvinceCountries.contains session.contact.country &&
    session.buffer.length < 5

/-- Accepts, rejects or asks on, when a key completes the exchange and it has been read. -/
def conclude (session : CaptureSession) (reading : Extraction) (key : Key)
    (actions : List Action) : Except Fault (CaptureSession × Transition) :=
  let rule := session.rule
  let isValid := session.extractor.isComplete reading
  let isEnough := key == .tab || isValid
  if rule.strategy == .sweepstakes && !isEnough then
    .ok (session.ask .ofSection actions)
  else if rule.requiresSection && !isEnough then
    if rule.serialOrSection && !session.contact.countryHasSections then
      session.finish .complete key actions
    else
      (session.note (.sectionMissing session.buffer.text)).finish .rejected key
        (actions ++ [.notify Prompt.ofSection.message])
  else if rule.strategy == .grid && !isValid then
    .ok (session.ask .ofLocator actions)
  else if session.lacksStateProvince then
    let asked := actions ++ [.notify Prompt.ofStateProvince.message]
    if key.isFinalizing then .ok ((session.note .stateProvinceMissing).stay asked)
    else session.finish .complete key asked
  else
    session.finish .complete key actions

/-- Completes the exchange with a key: the serial is padded, the line is read, and then it is
accepted, rejected or asked about. -/
def complete (session : CaptureSession) (key : Key) (actions : List Action) :
    Except Fault (CaptureSession × Transition) :=
  let aligned := if session.padsSerial then session.alignSerial else session
  match aligned.extractor.extract false aligned.buffer.text with
  | .error fault => .error fault
  | .ok reading => { aligned with reading := some reading }.conclude reading key actions

/-! ## Collecting -/

/-- What a key does at first sight: it is settled, it goes back to the call field, or it is passed on,
as itself or as the key that it stands for, and may still type or complete. -/
inductive Response where
  | settled (session : CaptureSession) (actions : List Action)
  | backed (session : CaptureSession) (actions : List Action)
  | passed (session : CaptureSession) (actions : List Action) (key : Key)

/-- The key that stands for no key. -/
def noKey : Key := 0

/-- The key of an Enter or a plus sign that the exchange is too empty for. -/
def refusedKey : Key := -1

/-- The actions that pass QSO records on for Control-Q. -/
def receivingActions (direction : QtcDirection) : List Action :=
  match direction with
  | .recv | .both => [.ofRole .recv]
  | .send => [.ofRole .send]
  | .off => []

/-- The actions that pass QSO records on for Control-S. -/
def sendingActions (direction : QtcDirection) : List Action :=
  match direction with
  | .send | .both => [.ofRole .send]
  | .recv | .off => []

/-- The action of a paging key. -/
def adjustment (settings : CaptureSettings) (direction : Direction) : Action :=
  if settings.changeReport then .report direction
  else if settings.mode == .cw then .speed direction
  else .idle

/-- The action that sends the own call. -/
def ownCall (settings : CaptureSettings) : Action :=
  if settings.mode.isKeyed then .sendCall settings.myCall else .playVoice settings.voiceCallSlot

/-- Escape stops sending and empties the line; on an empty line it goes back. -/
def escaped (session : CaptureSession) : Response :=
  if session.buffer.isEmpty then .backed session [.stopTransmission]
  else .passed { session with buffer := session.buffer.clear } [.stopTransmission] noKey

/-- The plus sign logs and sends where that is wanted, else it is a character. -/
def plused (session : CaptureSession) : Response :=
  if session.settings.ctCompatible && 2 < session.contact.call.length then
    if session.buffer.isEmpty then .passed session [] refusedKey
    else .passed session [.sendMessage 3] .backslash
  else .passed session [] .plus

/-- Starts editing in place, if there is something to edit. -/
def edited (session : CaptureSession) (position : Option Int) : Response :=
  if session.buffer.isEmpty then .settled session []
  else
    let editor := Editor.start session.buffer position
    .settled ({ session with cursor := some editor.cursor, state := .editing }.note .editing) []

/-- Enter completes; where it logs at once, or outside contests, it needs a line to log. -/
def entered (session : CaptureSession) (key : Key) : Response :=
  if session.settings.ctCompatible || !session.rule.isContest then
    .passed session [] (if session.buffer.isEmpty then refusedKey else .backslash)
  else .passed session [] key

/-- What a key does at first sight while the exchange is collected. -/
def respond (session : CaptureSession) (key : Key) : Response :=
  let settings := session.settings
  if key = .ctrlQ then .settled session (receivingActions settings.qtc)
  else if key = .ctrlS then .settled session (sendingActions settings.qtc)
  else if key = .ctrlA then
    .backed { session with buffer := session.buffer.clear } [.addSpot]
  else if key = .escape then session.escaped
  else if key = .backspace then .passed { session with buffer := session.buffer.pop.2 } [] key
  else if key = .plus then session.plused
  else if key = .insert then
    .passed session (if settings.ctCompatible then [.sendMessage 2] else []) key
  else if key = Key.function 1 then .passed session [ownCall settings] key
  else if Key.function 2 ≤ key ∧ key ≤ Key.function 11 then
    .passed session [.sendMessage (key - Key.function 1)] key
  else if Key.altZero ≤ key ∧ key ≤ Key.altNine then
    .passed session [.sendMessage (key - Key.altZero + 14)] key
  else if key = .home then session.edited (some 0)
  else if key = .left then session.edited none
  else if key = .pageUp then .passed session [adjustment settings .up] key
  else if key = .pageDown then .passed session [adjustment settings .down] key
  else if key = .comma ∨ key = .ctrlK then .passed session [.keyer] noKey
  else if key.isEnter then session.entered key
  else .passed session [] key

/-- Appends the character of a key that types one, if there is room for it. -/
def type (session : CaptureSession) (key : Key) : CaptureSession :=
  if key.isTyped && !session.buffer.isFull then
    { session with buffer := (session.buffer.append [key.toChar]).2 }
  else session

/-- Takes a key while the exchange is collected. -/
def collect (session : CaptureSession) (key : Key) :
    Except Fault (CaptureSession × Transition) :=
  match session.respond key with
  | .settled settled actions => .ok (settled.stay actions)
  | .backed backed actions => backed.finish .back .tab actions
  | .passed passed actions resolved =>
      let resolved := resolved.promote
      let typed := passed.type resolved
      let isNews := typed.buffer.text != session.buffer.text || typed.reading.isNone
      match typed.validateIf isNews with
      | .error fault => .error fault
      | .ok (session, shown) =>
          if resolved.isCompleting then session.complete resolved (actions ++ shown)
          else .ok (session.stay (actions ++ shown))

/-! ## Editing -/

/-- Takes a key while the exchange is edited in place. -/
def edit (session : CaptureSession) (cursor : Nat) (key : Key) :
    Except Fault (CaptureSession × Transition) :=
  let (goesOn, editor) := (Editor.mk session.buffer cursor false).handle key
  let edited := { session with buffer := editor.buffer, cursor := some editor.cursor }
  match edited.validateIf (edited.buffer.text != session.buffer.text) with
  | .error fault => .error fault
  | .ok (edited, shown) =>
      if goesOn then .ok (edited.stay shown)
      else .ok ({ edited with cursor := none, state := .collecting }.stay shown)

/-! ## Stepping -/

/-- Starts a session that has not been started. -/
def ensureStarted (session : CaptureSession) : Except Fault CaptureSession :=
  if session.state = .idle then (session.start [] []).map (·.1) else .ok session

/-- Takes a key in a started session.  After the end keys do nothing any more. -/
def take (session : CaptureSession) (key : Key) : Except Fault (CaptureSession × Transition) :=
  if session.state.isFinal then
    .ok (session, { state := session.state, key := session.lastKey })
  else
    let session := { session with lastKey := key }
    match session.state, session.cursor with
    | .editing, some cursor => session.edit cursor key
    | .editing, none => { session with state := .collecting }.collect key
    | _, _ => session.collect key

/-- Takes a key; the first one starts the capture if nothing has. -/
def step (session : CaptureSession) (key : Key) : Except Fault (CaptureSession × Transition) :=
  match session.ensureStarted with
  | .error fault => .error fault
  | .ok session => session.take key

end CaptureSession
end ContestExchange
