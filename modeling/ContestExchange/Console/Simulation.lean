import ContestExchange.Capture.Drive
import ContestExchange.Capture.Record
import ContestExchange.Console.Engine
import ContestExchange.Console.KeyLine
import ContestExchange.Console.Operator
import ContestExchange.Text.Line

namespace ContestExchange

/-!
# Working a contest from typed lines

Without a terminal a contest is worked line by line.  A line is an exchange with its keys, or one of
three commands: `/call` enters the station to be worked, `/export` writes the captures so far into a
file, and `/quit` ends.  Everything the operator gets to see is printed.
-/

/-- A contest that is worked from typed lines. -/
structure Simulation where
  engine : Engine
  operator : Operator
  sessions : List CaptureSession := []

namespace Simulation

/-! ## Printing -/

/-- A line that is printed. -/
def printed (line : Text) : Text := line ++ ['\n']

/-- Lines that are printed. -/
def printedLines (lines : List Text) : Text := lines.flatMap printed

/-- The lines of a notice. -/
def noticeLines : Notice → List Text
  | .field name text => [Text.ofString "  " ++ name ++ Text.ofString ": " ++ text]
  | .message text => [Text.ofString "ERR " ++ text]
  | .exchange _ _ => []
  | .call call => [Text.ofString "CALL " ++ call]
  | .speed wpm => [Text.ofString "WPM " ++ Decimal.natText wpm]
  | .report text => [Text.ofString "RST " ++ text]

/-- The lines of an output. -/
def outputLines : Output → List Text
  | .line text => [text]
  | .notice notice => noticeLines notice

/-- What asks for the next line. -/
def prompt : Text := Text.ofString "exch> "

/-- The line that opens the simulation. -/
def greeting (rule : Rule) : Text :=
  Text.ofString "Simulation mode (stdin), contest " ++ rule.name ++
    Text.ofString ". Commands: /call CALL [cq itu cont country] /export /quit"

/-- The lines about a finished capture. -/
def resultLines (result : CaptureResult) : List Text :=
  let state := Text.ofString "state: " ++ result.status.name
  if result.isAccepted then
    let exchange := Text.orElse result.exchange result.reading.normalized
    let multiplier := result.reading.multiplier
    [state, Text.ofString "exchange: " ++ exchange] ++
      (if multiplier.isEmpty then [] else [Text.ofString "mult: " ++ multiplier])
  else [state]

/-! ## Captures -/

/-- The operator's side during a capture, and what was printed meanwhile. -/
structure Printer where
  operator : Operator
  lines : List Text := []

/-- A capture that prints what the operator gets to see. -/
def surroundings : Surroundings Printer :=
  { remembered := fun printer call => (printer, printer.operator.remembered call)
    perform := fun printer contact actions =>
      let (operator, outputs) := { printer.operator with contact := contact }.perform actions
      ⟨operator, printer.lines ++ outputs.flatMap outputLines⟩
    await := id
    tick := id
    tickTerminal := id }

/-! ## Lines -/

/-- What a line brings about.  Behind the last line no simulation goes on. -/
structure Reply where
  output : Text
  next : Except Fault (Option (Simulation × Store))

/-- The file that captures are exported to. -/
def exportPath (stamp : Text) : Text :=
  Text.ofString "logs/exchange_session_sim_" ++ stamp ++ Text.ofString ".json"

/-- Exports the captures so far. -/
def exportSessions (simulation : Simulation) (store : Store) (stamp : Text) : Reply :=
  let document :=
    CaptureSession.exportDocument simulation.engine.rule.name simulation.sessions
  match store.writeBelow (Text.ofString "logs") (exportPath stamp) document with
  | .error fault => ⟨[], .error fault⟩
  | .ok store =>
      ⟨printed (Text.ofString "Exported to " ++ exportPath stamp), .ok (some (simulation, store))⟩

/-- Enters the station to be worked. -/
def enterCall (simulation : Simulation) (store : Store) (words : List Text) : Reply :=
  let contact := simulation.operator.contact.enter words
  let operator := { simulation.operator with contact := contact }
  ⟨printed (Text.ofString "CALL " ++ contact.call),
   .ok (some ({ simulation with operator := operator }, store))⟩

/-- Captures the exchange of a line. -/
def capture (simulation : Simulation) (store : Store) (line : Text) : Reply :=
  let operator := simulation.operator
  match simulation.engine.session operator.config operator.contact with
  | .error fault => ⟨[], .error fault⟩
  | .ok session =>
      let outcome :=
        Capture.run surroundings ⟨operator, []⟩ session [] ((KeyLine.keysOf line).map some)
      match outcome.session with
      | .error fault => ⟨printedLines outcome.world.lines, .error fault⟩
      | .ok session =>
          let result := session.result
          let operator := { outcome.world.operator with contact := session.contact }
          ⟨printedLines (outcome.world.lines ++ resultLines result),
           .ok (some
            ({ simulation with
                operator := operator.remember result
                sessions := simulation.sessions ++ [session] }, store))⟩

/-- Takes a typed line; a blank one changes nothing. -/
def takeLine (simulation : Simulation) (store : Store) (stamp line : Text) : Reply :=
  match Text.words line with
  | [] => ⟨[], .ok (some (simulation, store))⟩
  | word :: words =>
      let command := Text.lower word
      if command = Text.ofString "/quit" then ⟨[], .ok none⟩
      else if command = Text.ofString "/call" then simulation.enterCall store words
      else if command = Text.ofString "/export" then simulation.exportSessions store stamp
      else simulation.capture store line

/-! ## Opening -/

/-- What loading a contest prints, and the simulation of it. -/
structure Opening where
  output : Text
  simulation : Except Fault Simulation

/-- Opens the simulation of a contest: the messages of loading it, and the greeting. -/
def opening (config : Config) (store : Store) : Opening :=
  let loading := Engine.load config store
  let messages := printedLines loading.messages
  match loading.result with
  | .error fault => ⟨messages, .error fault⟩
  | .ok engine =>
      ⟨messages ++ printed (greeting engine.rule),
       .ok { engine := engine, operator := .create config none }⟩

end Simulation
end ContestExchange
