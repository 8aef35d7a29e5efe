import ContestExchange.Console.Program
import ContestExchange.Document.Flow
import Std.Time.Format

namespace ContestExchange
namespace CommandLine

/-!
# The command line

Here the program meets the world: its files are read before it starts, each line is printed and
typed in turn, and what it wrote is put into the file system after each stage.  Whatever it prints
or writes is settled by `Program`.  Documents are in the flow style.

Much of what a station has is left out.  There is no terminal to draw on, so a contest is worked from
typed lines, and no speaker, so what is keyed is only told.  What cannot be looked up counts as
missing, and so does what lies in a folder that is closed.

Before that, these are left out: the time of a note (`Log`), cutting off what is being played
(`Outbox`), how exact levels are (`Sidetone`), links, leave to write and what cannot be written
(`Store`), and values that are part of themselves (`Value`).  The form of documents, the memory for
sounds and the speaker are given to what uses them.
-/

/-! ## Files -/

/-- The form of the documents in the files. -/
def form : DocumentForm := Flow.form 900

/-- What stands under a path, if anything does; what is there and cannot be read is locked. -/
def stored? (path : String) : IO (Option Stored) := do
  match ← (IO.FS.readBinFile path).toBaseIO with
  | .ok content => return some (.file (.bytes content.toList))
  | .error _ =>
      match ← (IO.FS.realPath path).toBaseIO with
      | .ok place => return some (if ← place.isDir then .folder else .file .locked)
      | .error _ => return none

/-- What stands under some paths. -/
def readAll (paths : List Text) : IO Store := do
  let files ← paths.filterMapM fun path => do
    return (← stored? (String.ofList path)).map fun stored => (path, stored)
  return .ofFiles form files

/-- The files that the program looks at: which ones they are, the configuration tells, so that is
read first. -/
def readFiles (arguments : List Text) : IO Store := do
  let known ← readAll (Program.paths arguments (.empty form))
  readAll (Program.paths arguments known)

/-- Puts the folders and documents of a store into the file system; what was only read is there
already. -/
def writeFiles (store : Store) : IO Unit := do
  for (place, stored) in store.entries do
    let path := String.ofList place.path
    match stored with
    | .folder => IO.FS.createDirAll path
    | .file (.document content) => IO.FS.writeFile path (String.ofList (form.write content))
    | .file _ | .closed _ | .lost _ => pure ()

/-! ## Stages -/

/-- The stamp of the present moment, in universal time. -/
def stamp : IO Text := do
  let seconds := (← Std.Time.Timestamp.now).toSecondsSinceUnixEpoch
  let moment := Std.Time.PlainDateTime.ofWallTime (.ofSeconds seconds)
  return Text.ofString (moment.format "uuuuMMdd" ++ "T" ++ moment.format "HHmmss" ++ "Z")

/-- Prints a text. -/
def print (output : Text) : IO Unit := do
  let stream ← IO.getStdout
  stream.putStr (String.ofList output)
  stream.flush

/-- The next line, without the mark of its end, unless there are no more lines. -/
def readLine? : IO (Option Text) := do
  let line := Text.ofString (← (← IO.getStdin).getLine)
  return if line.isEmpty then none else (Text.typedLines line).head?

/-- Goes on from a stage to the end. -/
partial def follow (stamp : Text) (progress : Program.Progress) : IO Program.Ending := do
  print progress.output
  match progress.stage with
  | .ended ending => return ending
  | .typing simulation store path =>
      writeFiles store
      match ← readLine? with
      | some line => follow stamp (Program.takeLine stamp simulation store path line)
      | none =>
          print Program.endLine
          return Program.savedEnding simulation.operator.config store path

/-- The code of an end; a fault is told first. -/
def exitCode : Except Fault Nat → IO UInt32
  | .ok code => return UInt32.ofNat code
  | .error fault => do
      let message := fault.message?.getD (Text.ofString "A file or a setting cannot be used.")
      IO.eprintln (String.ofList message)
      return 1

/-- Names the options where the arguments are refused. -/
def tellRefusal (arguments : List Text) : IO Unit :=
  match Arguments.parse arguments with
  | .ok _ => return
  | .error _ => IO.eprintln (String.ofList Arguments.usage)

/-- Runs the program. -/
def run (arguments : List Text) : IO UInt32 := do
  tellRefusal arguments
  let stamp ← stamp
  let store ← readFiles arguments
  let input : Program.Input := { arguments := arguments, store := store, stamp := stamp }
  let ending ← follow stamp (Program.start input)
  writeFiles ending.store
  exitCode ending.exit

end CommandLine
end ContestExchange

/-- Works contests from the command line. -/
def main (arguments : List String) : IO UInt32 :=
  ContestExchange.CommandLine.run (arguments.map ContestExchange.Text.ofString)
