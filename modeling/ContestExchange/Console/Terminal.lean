import ContestExchange.Capture.Drive
import ContestExchange.Capture.Record
import ContestExchange.Console.Display
import ContestExchange.Console.Engine
import ContestExchange.Console.Operator

namespace ContestExchange

/-!
# Working a contest in a terminal

In a terminal the call is entered first, key by key, and then its exchange is captured; after that
comes the next call.  Escape on an empty call ends.  Whenever a key is waited for, the screen is
kept as a frame, so a session in a terminal is known by its frames.
-/

/-- A contest that is worked in a terminal, with its frames so far, the latest first. -/
structure Terminal where
  engine : Engine
  operator : Operator
  display : Display
  frames : List Screen := []
  sessions : List CaptureSession := []

namespace Terminal

/-- The milliseconds to wait for a key. -/
def pollInterval (terminal : Terminal) : Int :=
  (terminal.operator.config.console.pollInterval.mul (.ofInt 1000)).truncate

/-- Changes the display. -/
def withDisplay (terminal : Terminal) (change : Display → Display) : Terminal :=
  { terminal with display := change terminal.display }

/-- Waits for a key. -/
def await (terminal : Terminal) : Terminal :=
  let waiting := terminal.withDisplay (·.await terminal.pollInterval)
  { waiting with frames := waiting.display.screen :: waiting.frames }

/-- Shows an output; a line is shown as a message. -/
def showOutput (display : Display) : Output → Display
  | .line text => display.showMessage text
  | .notice notice => display.present notice

/-- Performs the actions of a capture. -/
def perform (terminal : Terminal) (contact : Contact) (actions : List Action) : Terminal :=
  let (operator, outputs) := { terminal.operator with contact := contact }.perform actions
  { terminal with operator := operator, display := outputs.foldl showOutput terminal.display }

/-- A capture in a terminal. -/
def surroundings : Surroundings Terminal :=
  { remembered := fun terminal call => (terminal, terminal.operator.remembered call)
    perform := perform
    await := await
    tick := fun terminal => terminal.withDisplay .tick
    tickTerminal := id }

/-! ## Entering a call -/

/-- The longest call that can be entered. -/
def longestCall : Nat := 12

/-- The call after a key that neither completes it nor leaves. -/
def editedCall (call : Text) (key : Key) : Text :=
  if key = .escape then []
  else if key = .backspace then call.dropLast
  else
    let key := key.promote
    if key.isTyped && key != .ofChar ' ' && call.length < longestCall then call ++ [key.toChar]
    else call

/-- How entering a call came out. -/
inductive Entry where
  | ended (terminal : Terminal)
  | left (terminal : Terminal) (unread : List (Option Key))
  | entered (terminal : Terminal) (call : Text) (unread : List (Option Key))

/-- Takes keys for the call until it is entered. -/
def readCall (terminal : Terminal) (call : Text) : List (Option Key) → Entry
  | [] => .ended terminal.await
  | arrived :: rest =>
      let ticked := terminal.await.withDisplay .tick
      match arrived with
      | none => ticked.readCall call rest
      | some key =>
          if key = .escape ∧ call = [] then .left ticked rest
          else if key.isCompleting ∧ call ≠ [] then .entered ticked call rest
          else
            let call := if key.isCompleting then call else editedCall call key
            (ticked.withDisplay (·.showCall call)).readCall call rest

/-- Entering a call takes at least one key. -/
theorem length_unread_readCall {terminal entered : Terminal} {call found : Text}
    {keys unread : List (Option Key)}
    (outcome : readCall terminal call keys = .entered entered found unread) :
    unread.length < keys.length := by
  induction keys generalizing terminal call with
  | nil => simp [readCall] at outcome
  | cons arrived rest hypothesis =>
      simp only [readCall] at outcome
      simp only [List.length_cons]
      split at outcome
      · exact Nat.lt_succ_of_lt (hypothesis outcome)
      · split at outcome
        · simp at outcome
        · split at outcome
          · simp only [Entry.entered.injEq] at outcome
            obtain ⟨_, _, same⟩ := outcome
            subst same
            exact Nat.lt_succ_self _
          · exact Nat.lt_succ_of_lt (hypothesis outcome)

/-! ## Contacts -/

/-- The message about a capture that came to a decision. -/
def decisionMessage (result : CaptureResult) : Text :=
  result.status.name ++ Text.ofString ": " ++ result.call ++ ' ' ::
    Text.orElse result.exchange result.reading.normalized

/-- What a capture leaves behind: the display is ready for the next call, which starts empty after
a decision and otherwise with the call as it stands. -/
def conclude (terminal : Terminal) (session : CaptureSession) : Terminal × Text :=
  let result := session.result
  let operator := { terminal.operator with contact := session.contact }
  let recorded :=
    { terminal with
      operator := operator.remember result
      sessions := terminal.sessions ++ [session] }
  let isDecided := result.status == .complete || result.status == .rejected
  let told :=
    if isDecided then recorded.withDisplay (·.showMessage (decisionMessage result)) else recorded
  (told.withDisplay (·.showExchange [] 0), if isDecided then [] else result.call)

/-- Where a session in a terminal left off, and what kept it from its end, if anything did. -/
structure Finish where
  terminal : Terminal
  unread : List (Option Key)
  fault : Option Fault

/-- Shows a call and takes keys for it. -/
def promptCall (terminal : Terminal) (call : Text) (keys : List (Option Key)) : Entry :=
  (terminal.withDisplay (·.showCall call)).readCall call keys

/-- Works contact after contact. -/
def follow (terminal : Terminal) (call : Text) (keys : List (Option Key)) : Finish :=
  match _reached : terminal.promptCall call keys with
  | .ended ended => ⟨ended, [], some .endOfInput⟩
  | .left left unread => ⟨left, unread, none⟩
  | .entered entered call unread =>
      let contact := { entered.operator.contact with call := call }
      match entered.engine.session entered.operator.config contact with
      | .error fault => ⟨entered, unread, some fault⟩
      | .ok session =>
          let outcome := Capture.run surroundings entered session [] unread
          match outcome.session with
          | .error fault => ⟨outcome.world, outcome.unread, some fault⟩
          | .ok session =>
              let (next, call) := outcome.world.conclude session
              next.follow call outcome.unread
termination_by keys.length
decreasing_by
  exact Nat.lt_of_le_of_lt (Capture.length_unread_run ..) (length_unread_readCall _reached)

/-! ## Running -/

/-- The message about the missing sidetone. -/
def soundMessage : Text := Text.ofString "sounddevice not installed; CW sidetone disabled."

/-- The screen as a terminal gives it to a session. -/
def openScreen (height width : Nat) : Screen :=
  ((Screen.ofSize height width).signal .metaKeys).signal .showCursor

/-- Opens a session on a screen: the frame, and the messages of loading the contest. -/
def start (engine : Engine) (config : Config) (messages : List Text) (screen : Screen) :
    Terminal :=
  let display : Display :=
    { screen := screen.signal .keypad
      contest := engine.rule.name
      myCall := config.station.myCall }
  { engine := engine
    operator := .create config none
    display := (messages ++ [soundMessage]).foldl Display.showMessage display.drawFrame }

/-- The file that the captures are exported to. -/
def exportPath (stamp : Text) : Text :=
  Text.ofString "logs/exchange_session_" ++ stamp ++ Text.ofString ".json"

/-- What a session in a terminal comes to: its frames in order, and the configuration and the files
at its end. -/
structure Ending where
  frames : List Screen
  unread : List (Option Key)
  result : Except Fault (Config × Store)

/-- Exports the captures, if there are any. -/
def exportSessions (terminal : Terminal) (store : Store) (stamp : Text) : Except Fault Store :=
  if terminal.sessions.isEmpty then .ok store
  else
    store.writeBelow (Text.ofString "logs") (exportPath stamp)
      (CaptureSession.exportDocument terminal.engine.rule.name terminal.sessions)

/-- Works a contest in a terminal of some size. -/
def run (config : Config) (store : Store) (stamp : Text) (height width : Nat)
    (keys : List (Option Key)) : Ending :=
  let screen := openScreen height width
  let loading := Engine.load config store
  match loading.result with
  | .error fault => ⟨[screen], keys, .error fault⟩
  | .ok engine =>
      let finish := (start engine config loading.messages screen).follow [] keys
      let terminal := finish.terminal
      { frames := terminal.frames.reverse ++ [terminal.display.screen]
        unread := finish.unread
        result :=
          match finish.fault with
          | some fault => .error fault
          | none =>
              (terminal.exportSessions store stamp).map fun store =>
                (terminal.operator.config, store) }

end Terminal
end ContestExchange
