import ContestExchange.Capture.Settings
import ContestExchange.Fault
import ContestExchange.Number.Literal

namespace ContestExchange

/-!
# Command line arguments

Options are written with two hyphens, and a unique start of a name is enough.  The value of an
option follows as the next argument, or behind an equals sign.  An argument with a hyphen in front
is a value only if it is a negative number or has a blank in it.  Two hyphens behind an equals sign
are no value: they take back what was given before.

All arguments are told apart before any is acted upon, so a start that fits several names is refused
first.  Then the options are taken in order; asking for help ends that at once, and arguments that
belong to no option are refused at the very end.
-/

/-- The options. -/
inductive OptionName where
  | config
  | simulate
  | listContests
  | contest
  | rules
  | templates
  | multipliers
  | myCall
  | mode
  | wpm
  | ctCompatible
  | noCallUpdate
  | changeReport
  | qtc
  | help
deriving DecidableEq, Repr

namespace OptionName

/-- An option as it is written. -/
def written : OptionName → Text
  | .config => Text.ofString "--config"
  | .simulate => Text.ofString "--simulate"
  | .listContests => Text.ofString "--list-contests"
  | .contest => Text.ofString "--contest"
  | .rules => Text.ofString "--rules"
  | .templates => Text.ofString "--templates"
  | .multipliers => Text.ofString "--multipliers"
  | .myCall => Text.ofString "--my-call"
  | .mode => Text.ofString "--mode"
  | .wpm => Text.ofString "--wpm"
  | .ctCompatible => Text.ofString "--ct-compat"
  | .noCallUpdate => Text.ofString "--no-call-update"
  | .changeReport => Text.ofString "--change-rst"
  | .qtc => Text.ofString "--qtc"
  | .help => Text.ofString "--help"

/-- All options. -/
def all : List OptionName :=
  [.config, .simulate, .listContests, .contest, .rules, .templates, .multipliers, .myCall, .mode,
   .wpm, .ctCompatible, .noCallUpdate, .changeReport, .qtc, .help]

/-- The option that is written in full. -/
def exactly? (text : Text) : Option OptionName := all.find? fun name => name.written == text

/-- The options whose names start with a text. -/
def startingWith (text : Text) : List OptionName :=
  all.filter fun name => text.isPrefixOf name.written

/-- Whether an option has a value. -/
def hasValue : OptionName → Bool
  | .simulate | .listContests | .ctCompatible | .noCallUpdate | .changeReport | .help => false
  | _ => true

end OptionName

/-- What the arguments ask for. -/
structure Arguments where
  config : Except Fault Text := .ok (Text.ofString "config.yaml")
  simulate : Bool := false
  listContests : Bool := false
  contest : Text := []
  rules : Text := []
  templates : Text := []
  multipliers : Text := []
  myCall : Text := []
  mode : Option Mode := none
  wpm : Except Fault (Option Int) := .ok none
  ctCompatible : Bool := false
  noCallUpdate : Bool := false
  changeReport : Bool := false
  qtc : Option QtcDirection := none

/-- Why nothing is done. -/
inductive Refusal where
  | help
  | misuse
deriving DecidableEq, Repr

namespace Arguments

/-! ## Telling arguments apart -/

/-- What an argument is. -/
inductive Piece where
  | plain (text : Text)
  | option (name : OptionName) (value : Option Text)
  | unknown
  | separator

/-- Whether a text is a hyphen and a decimal number without an exponent, perhaps with the end of a
line behind it. -/
def isNegativeNumber (text : Text) : Bool :=
  match Text.dropOneLast '\n' text with
  | '-' :: rest =>
      let whole := rest.takeWhile Text.isDecimal
      match rest.dropWhile Text.isDecimal with
      | [] => !whole.isEmpty
      | '.' :: fraction => !fraction.isEmpty && fraction.all Text.isDecimal
      | _ => false
  | _ => false

/-- The short form of asking for help.  Its letter may be repeated behind the single hyphen, also
behind an equals sign. -/
def shortHelp? : Text → Option Piece
  | '-' :: 'h' :: rest =>
      let repeated :=
        match rest with
        | '=' :: letter :: others => letter :: others
        | others => others
      if repeated.all (· == 'h') then some (.option .help none)
      else some (.option .help (some repeated))
  | _ => none

/-- What an argument is that is no option written in full: an option by the start of its name, a
value with a hyphen in front, or nothing known. -/
def abbreviated (argument name : Text) (value : Option Text) : Except Refusal Piece :=
  let found := if (Text.ofString "--").isPrefixOf name then OptionName.startingWith name else []
  match found, shortHelp? argument with
  | [option], _ => .ok (.option option value)
  | _ :: _ :: _, _ => .error .misuse
  | [], some piece => .ok piece
  | [], none =>
      if isNegativeNumber argument || argument.contains ' ' then .ok (.plain argument)
      else .ok .unknown

/-- What an argument with a hyphen in front is. -/
def hyphenated (argument : Text) : Except Refusal Piece :=
  let name := Text.before '=' argument
  let value :=
    if name.length < argument.length then some (argument.drop (name.length + 1)) else none
  match OptionName.exactly? name with
  | some option => .ok (.option option value)
  | none => abbreviated argument name value

/-- What an argument is. -/
def pieceOf (argument : Text) : Except Refusal Piece :=
  if argument.head? = some '-' ∧ argument ≠ ['-'] then hyphenated argument
  else .ok (.plain argument)

/-- What the arguments are. -/
def piecesOf : List Text → Except Refusal (List Piece)
  | [] => .ok []
  | argument :: rest =>
      if argument = Text.ofString "--" then .ok (.separator :: rest.map .plain)
      else do
        let piece ← pieceOf argument
        return piece :: (← piecesOf rest)

/-! ## Taking options -/

/-- Takes an option without a value. -/
def takeFlag (arguments : Arguments) : OptionName → Except Refusal Arguments
  | .simulate => .ok { arguments with simulate := true }
  | .listContests => .ok { arguments with listContests := true }
  | .ctCompatible => .ok { arguments with ctCompatible := true }
  | .noCallUpdate => .ok { arguments with noCallUpdate := true }
  | .changeReport => .ok { arguments with changeReport := true }
  | .help => .error .help
  | _ => .error .misuse

/-- Something that has to be found. -/
def needed {Choice : Type} : Option Choice → Except Refusal Choice
  | some choice => .ok choice
  | none => .error .misuse

/-- Takes an option with its value. -/
def takeValue (arguments : Arguments) (name : OptionName) (value : Text) :
    Except Refusal Arguments :=
  match name with
  | .config => .ok { arguments with config := .ok value }
  | .contest => .ok { arguments with contest := value }
  | .rules => .ok { arguments with rules := value }
  | .templates => .ok { arguments with templates := value }
  | .multipliers => .ok { arguments with multipliers := value }
  | .myCall => .ok { arguments with myCall := value }
  | .mode => (needed (Mode.named? value)).map fun mode => { arguments with mode := some mode }
  | .wpm =>
      (needed (Literal.integer? value)).map fun wpm => { arguments with wpm := .ok (some wpm) }
  | .qtc =>
      (needed (QtcDirection.named? value)).map fun qtc => { arguments with qtc := some qtc }
  | _ => .error .misuse

/-- Takes the value of an option back.  There has to be a file of the configuration, and a speed
that is taken back is none to key with. -/
def takeBack (arguments : Arguments) : OptionName → Except Refusal Arguments
  | .config => .ok { arguments with config := .error .wrongKind }
  | .contest => .ok { arguments with contest := [] }
  | .rules => .ok { arguments with rules := [] }
  | .templates => .ok { arguments with templates := [] }
  | .multipliers => .ok { arguments with multipliers := [] }
  | .myCall => .ok { arguments with myCall := [] }
  | .mode => .ok { arguments with mode := none }
  | .wpm => .ok { arguments with wpm := .error .wrongKind }
  | .qtc => .ok { arguments with qtc := none }
  | _ => .error .misuse

/-- Takes an option with what stands behind its equals sign. -/
def takeAttached (arguments : Arguments) (name : OptionName) (value : Text) :
    Except Refusal Arguments :=
  if value = Text.ofString "--" then arguments.takeBack name else arguments.takeValue name value

/-- Takes the options in order; `isMisused` tells that an argument belonged to none of them. -/
def takeAll (arguments : Arguments) (isMisused : Bool) : List Piece → Except Refusal Arguments
  | [] => if isMisused then .error .misuse else .ok arguments
  | .plain _ :: rest | .unknown :: rest | .separator :: rest => arguments.takeAll true rest
  | .option name (some value) :: rest =>
      match arguments.takeAttached name value with
      | .error refusal => .error refusal
      | .ok arguments => arguments.takeAll isMisused rest
  | .option name none :: rest =>
      if name.hasValue then
        match rest with
        | .plain value :: rest =>
            match arguments.takeValue name value with
            | .error refusal => .error refusal
            | .ok arguments => arguments.takeAll isMisused rest
        | _ => .error .misuse
      else
        match arguments.takeFlag name with
        | .error refusal => .error refusal
        | .ok arguments => arguments.takeAll isMisused rest

/-- The line that names the options. -/
def usage : Text :=
  Text.ofString "options: " ++ Text.joined [' '] (OptionName.all.map OptionName.written)

/-- What the arguments ask for. -/
def parse (arguments : List Text) : Except Refusal Arguments := do
  takeAll {} false (← piecesOf arguments)

end Arguments
end ContestExchange
