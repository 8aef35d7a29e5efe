import ContestExchange.Console.Arguments
import ContestExchange.Console.Simulation
import ContestExchange.Console.Terminal

namespace ContestExchange
namespace Program

/-!
# The program

The program reads its arguments and the configuration, lets the arguments override what is
configured, and then lists the contests, works a contest from typed lines, or works it in a
terminal.  After working a contest the configuration is saved.

A program is a value: what it is given is a structure, and so is what it comes to.  From typed lines
it is worked stage by stage, so that what is printed is known before the next line is typed.  What
cannot be done ends it with the fault.
-/

/-- What a program is given at its start. -/
structure Input where
  arguments : List Text
  store : Store
  stamp : Text
  terminal : Option (Nat × Nat) := none
  keys : List (Option Key) := []

/-- What a program comes to: the code it exits with or the fault it ends by, the files, and if it had a
terminal the screens and the keys that were not looked at. -/
structure Ending where
  exit : Except Fault Nat
  store : Store
  frames : List Screen := []
  unread : Option (List (Option Key)) := none

/-- How far a program has come: a line is to be typed, and the path is where the configuration will be
saved, or it is at its end. -/
inductive Stage where
  | typing (simulation : Simulation) (store : Store) (path : Text)
  | ended (ending : Ending)

/-- What is printed on the way to a stage, and the stage. -/
structure Progress where
  output : Text
  stage : Stage

/-- The end with a code, after something is printed. -/
def ended (output : Text) (exit : Except Fault Nat) (store : Store) : Progress :=
  ⟨output, .ended { exit := exit, store := store }⟩

/-! ## Overriding the configuration -/

/-- A file that an argument names, else the configured one. -/
def fileOr (named : Text) (configured : Value) : Value :=
  if named.isEmpty then configured else .text named

/-- A switch that an argument sets, else the configured one. -/
def flagOr (isGiven flag : Bool) (configured : Value) : Value :=
  if isGiven then .bool flag else configured

/-- The configuration with what the arguments override. -/
def override (arguments : Arguments) (config : Config) : Except Fault Config := do
  let wpm ← arguments.wpm
  return {
    station :=
      { config.station with
        myCall := Text.orElse config.station.myCall (Text.upper arguments.myCall)
        mode := arguments.mode.getD config.station.mode }
    contest :=
      { config.contest with
        name :=
          if arguments.contest.isEmpty then config.contest.name
          else Text.upper (Text.trim arguments.contest)
        rulesFile := fileOr arguments.rules config.contest.rulesFile
        templatesFile := fileOr arguments.templates config.contest.templatesFile
        multipliersFile := fileOr arguments.multipliers config.contest.multipliersFile }
    keyer :=
      { config.keyer with wpm := (wpm.map fun wpm => .whole (max 1 wpm)).getD config.keyer.wpm }
    console :=
      { config.console with
        ctCompatible := flagOr arguments.ctCompatible true config.console.ctCompatible
        callUpdate := flagOr arguments.noCallUpdate false config.console.callUpdate
        changeReport := flagOr arguments.changeReport true config.console.changeReport
        qtc := arguments.qtc.getD config.console.qtc } }

/-! ## Listing the contests -/

/-- The line about a contest, unless its width has too many digits to be written out. -/
def contestLine (rule : RuleOf Value) : Except Fault Text :=
  (Value.intText rule.width).map fun width =>
    Text.ofString "  " ++ Text.alignLeft 16 rule.name ++ ' ' ::
      Text.alignLeft 15 rule.strategy.name ++ Text.ofString " width=" ++ width

/-- The lines before the first fault, and what listing them comes to. -/
def contestLines : List (RuleOf Value) → List Text × Except Fault Nat
  | [] => ([], .ok 0)
  | rule :: rest =>
      match contestLine rule with
      | .error fault => ([], .error fault)
      | .ok line => (line :: (contestLines rest).1, (contestLines rest).2)

/-- Lists the contests by name. -/
def listContests (config : Config) (store : Store) : Progress :=
  match RuleBook.load store config.contest.rulesFile with
  | .error fault => ended [] (.error fault) store
  | .ok (book, warning) =>
      let (lines, exit) :=
        contestLines (book.rules.mergeSort fun left right => Text.le left.name right.name)
      ended (Simulation.printedLines (warning.toList ++ lines)) exit store

/-! ## Working a contest -/

/-- What a program comes to when the configuration is saved at its end, which may fail. -/
def savedEnding (config : Config) (store : Store) (path : Text) : Ending :=
  match config.save store path with
  | .error fault => { exit := .error fault, store := store }
  | .ok store => { exit := .ok 0, store := store }

/-- The stage in which the next line is asked for. -/
def asking (output : Text) (simulation : Simulation) (store : Store) (path : Text) : Progress :=
  ⟨output ++ Simulation.prompt, .typing simulation store path⟩

/-- Opens a contest that is worked from typed lines. -/
def simulate (config : Config) (store : Store) (path : Text) : Progress :=
  let opening := Simulation.opening config store
  match opening.simulation with
  | .error fault => ended opening.output (.error fault) store
  | .ok simulation => asking opening.output simulation store path

/-- Takes a typed line. -/
def takeLine (stamp : Text) (simulation : Simulation) (store : Store) (path line : Text) :
    Progress :=
  let reply := simulation.takeLine store stamp line
  match reply.next with
  | .error fault => ended reply.output (.error fault) store
  | .ok none => ⟨reply.output, .ended (savedEnding simulation.operator.config store path)⟩
  | .ok (some (next, store)) => asking reply.output next store path

/-- What is printed when there are no more lines. -/
def endLine : Text := ['\n']

/-- What is printed where there is no terminal. -/
def noTerminalLine : Text :=
  Text.ofString "curses is not available on this platform. Use --simulate for stdin mode."

/-- Works a contest in the terminal. -/
def operate (input : Input) (config : Config) (store : Store) (path : Text) : Progress :=
  match input.terminal with
  | none => ended (Simulation.printed noTerminalLine) (.ok 2) store
  | some (height, width) =>
      let work := Terminal.run config store input.stamp height width input.keys
      let ending : Ending :=
        match work.result with
        | .error fault => { exit := .error fault, store := store }
        | .ok (config, store) => savedEnding config store path
      ⟨[], .ended { ending with frames := work.frames, unread := some work.unread }⟩

/-! ## Running -/

/-- Starts what the arguments ask for with a configuration, which is saved under a path. -/
def serve (input : Input) (arguments : Arguments) (config : Config) (store : Store)
    (path : Text) : Progress :=
  if arguments.listContests then listContests config store
  else if arguments.simulate then simulate config store path
  else operate input config store path

/-- Loads the configuration and starts what the arguments ask for. -/
def configure (input : Input) (arguments : Arguments) : Progress :=
  match arguments.config with
  | .error fault => ended [] (.error fault) input.store
  | .ok path =>
      match Config.load input.store path with
      | .error fault => ended [] (.error fault) input.store
      | .ok (loaded, store) =>
          match override arguments loaded with
          | .error fault => ended [] (.error fault) store
          | .ok config => serve input arguments config store path

/-- Starts the program. -/
def start (input : Input) : Progress :=
  match Arguments.parse input.arguments with
  | .error .help => ended [] (.ok 0) input.store
  | .error .misuse => ended [] (.ok 2) input.store
  | .ok arguments => configure input arguments

/-- Goes on from a stage with the lines that are typed. -/
def follow (stamp : Text) : Stage → List Text → Text × Ending
  | .ended ending, _ => ([], ending)
  | .typing simulation store path, [] =>
      (endLine, savedEnding simulation.operator.config store path)
  | .typing simulation store path, line :: rest =>
      let progress := takeLine stamp simulation store path line
      let (output, ending) := follow stamp progress.stage rest
      (progress.output ++ output, ending)

/-- Runs the program over the lines that are typed: what it prints, and what it comes to. -/
def run (input : Input) (lines : List Text) : Text × Ending :=
  let progress := start input
  let (output, ending) := follow input.stamp progress.stage lines
  (progress.output ++ output, ending)

/-! ## Files -/

/-- The paths of the files about a contest. -/
def contestPaths (depth : Nat) (contest : ContestConfig) : List Text :=
  [contest.rulesFile, contest.templatesFile, contest.multipliersFile].filterMap fun setting =>
    (RuleBook.pathOf depth setting).toOption

/-- The paths that a program looks at, as far as the files known so far tell, with all that is
passed on the way along them. -/
def paths (arguments : List Text) (store : Store) : List Text :=
  match Arguments.parse arguments with
  | .error _ => []
  | .ok arguments =>
      let config := arguments.config.toOption.toList
      let loaded := config.filterMap fun path => (Config.load store path).toOption
      let configs := loaded.filterMap fun loaded => (override arguments loaded.1).toOption
      let named := configs.flatMap fun config => contestPaths store.form.depth config.contest
      (config ++ Text.ofString "logs" :: named).flatMap Path.along

end Program
end ContestExchange
