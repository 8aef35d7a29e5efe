import ContestExchange.Document.Conversion
import ContestExchange.Exchange.Rule
import ContestExchange.Station.Store
import ContestExchange.Text.Blank
import ContestExchange.Text.Capital

namespace ContestExchange

/-!
# The rule book

A rule book has the built-in rules and those that a rule document defines.  A definition changes the
rule of its name, or a blank rule when there is none yet, and a later definition of the same name
changes what the earlier one left.  A definition is taken over as a whole or not at all: one with an
unusable strategy, padding, zone or width changes nothing and is named in a warning.  What does not
look like a definition is passed over.

Switches keep the document's values, and names are kept in capitals.

A setting that has to be a word or the name of a country takes the text of its value, which not every
value has.  What has none keeps the rules from being loaded, and so do countries that cannot be gone
through and a width too large to be an integer.
-/

/-- The rules by name: the built-in ones first, then the others in the order of their definition. -/
structure RuleBook where
  rules : List (RuleOf Value)

namespace RuleBook

/-- The built-in rules. -/
def builtIn : RuleBook := ⟨Rule.builtIn.map (RuleOf.map Value.bool)⟩

/-- The rule of a name. -/
def find? (book : RuleBook) (name : Text) : Option (RuleOf Value) :=
  book.rules.find? fun rule => rule.name == name

/-- Puts a rule under its name. -/
def put (book : RuleBook) (rule : RuleOf Value) : RuleBook :=
  if book.rules.any fun known => known.name == rule.name then
    ⟨book.rules.map fun known => if known.name == rule.name then rule else known⟩
  else ⟨book.rules ++ [rule]⟩

/-- The names, in order. -/
def names (book : RuleBook) : List Text := book.rules.map RuleOf.name

/-- The rule that a definition of a name starts from. -/
def startOf (book : RuleBook) (name : Text) : RuleOf Value :=
  (book.find? name).getD ((Rule.blank name).map Value.bool)

/-- The general rule, or a blank one if it has been removed. -/
def general (book : RuleBook) : RuleOf Value :=
  (book.find? Rule.generalName).getD ((Rule.blank Rule.generalName).map Value.bool)

/-- The rule of a name as an operator gives it; an unknown name has the general rule. -/
def ruleOf (book : RuleBook) (name : Text) : RuleOf Value :=
  (book.find? (Text.upper (Text.trim name))).getD book.general

/-! ## Definitions -/

/-- A setting that is one of several words: blanks around it and capitals do not matter. -/
def wordOf (depth : Nat) (value : Value) : Except Fault Text :=
  (value.toText depth).map fun text => Text.lower (Text.trim text)

/-- What a definition lists as countries: a single one may stand without a list. -/
def listedValues : Value → Except Fault (List Value)
  | .text name => .ok [.text name]
  | value => value.elementsIfSet

/-- Countries as a definition lists them. -/
def countriesOf (depth : Nat) (value : Value) : Except Fault (List Text) := do
  return (← Value.toTexts depth (← listedValues value)).map fun name => Text.upper (Text.trim name)

/-- The value of a field in a definition, if it has one. -/
def changeOf (fields : List (Value × Value)) (name : String) : Option Value :=
  Value.lookup? fields (Text.ofString name)

/-- A field in a definition, else the value before. -/
def changed (fields : List (Value × Value)) (name : String) (before : Value) : Value :=
  (changeOf fields name).getD before

/-- The countries of a definition, else those before. -/
def changedCountries (depth : Nat) (fields : List (Value × Value)) (before : List Text) :
    Except Fault (List Text) :=
  match changeOf fields "state_province_countries" with
  | some value => countriesOf depth value
  | none => .ok before

/-- A field that is one of several words, if its word is one of them. -/
def changedWord {Choice : Type} (depth : Nat) (fields : List (Value × Value)) (name : String)
    (named? : Text → Option Choice) (before : Choice) : Except Fault (Option Choice) :=
  match changeOf fields name with
  | some value => (wordOf depth value).map named?
  | none => .ok (some before)

/-- The width of a definition, else the one before; nothing for a value that is no width. -/
def changedWidth (fields : List (Value × Value)) (before : Int) : Except Fault (Option Int) :=
  match changeOf fields "exchange_width" with
  | none => .ok (some before)
  | some value =>
      match value.toInt with
      | .ok width => .ok (some width)
      | .error .tooLarge => .error .tooLarge
      | .error _ => .ok none

/-- The rule that a definition makes of another one, if all of its fields are usable. -/
def define (depth : Nat) (start : RuleOf Value) (fields : List (Value × Value)) :
    Except Fault (Option (RuleOf Value)) := do
  let countries ← changedCountries depth fields start.stateProvinceCountries
  let strategy? ← changedWord depth fields "strategy" Strategy.named? start.strategy
  let padding? ← changedWord depth fields "serial_padding" Padding.named? start.padding
  let zonePrefill? ← changedWord depth fields "zone_prefill" ZonePrefill.named? start.zonePrefill
  let width? ← changedWidth fields start.width
  match strategy?, padding?, zonePrefill?, width? with
  | some strategy, some padding, some zonePrefill, some width =>
      if width < 1 then return none
      else
        return some
          { name := start.name
            strategy := strategy
            width := width
            recallExchange := changed fields "recall_exchange" start.recallExchange
            padding := padding
            padForeignOnly := changed fields "pad_foreign_only" start.padForeignOnly
            serialOrSection := changed fields "serial_or_section" start.serialOrSection
            locatorCheck := changed fields "locator_check" start.locatorCheck
            zonePrefill := zonePrefill
            continentPrefill := changed fields "continent_prefill" start.continentPrefill
            stateProvinceCountries := countries
            isContest := changed fields "is_contest" start.isContest }
  | _, _, _, _ => return none

/-- The name and the fields of an entry that looks like a definition. -/
def definition? : Value × Value → Option (Text × List (Value × Value))
  | (.text written, .mapping fields) =>
      let name := Text.upper (Text.trim written)
      if name.isEmpty then none else some (name, fields)
  | _ => none

/-- The definitions in a mapping. -/
def definitionsOf (entries : List (Value × Value)) : List (Text × List (Value × Value)) :=
  entries.filterMap definition?

/-- Takes definitions over, one after the other; the answer has the names of the unusable ones. -/
def defineAll (book : RuleBook) (depth : Nat) :
    List (Text × List (Value × Value)) → Except Fault (RuleBook × List Text)
  | [] => .ok (book, [])
  | (name, fields) :: rest =>
      match define depth (book.startOf name) fields with
      | .error fault => .error fault
      | .ok (some rule) => (book.put rule).defineAll depth rest
      | .ok none => (book.defineAll depth rest).map fun defined => (defined.1, name :: defined.2)

/-- The definitions of a document, which may stand under a heading of their own; nothing for a
document of any other shape. -/
def definitions? (document : Value) : Option (List (Text × List (Value × Value))) :=
  match document with
  | .mapping entries =>
      match (Value.lookup? entries (Text.ofString "contests")).getD document with
      | .mapping definitions => some (definitionsOf definitions)
      | _ => none
  | other => if other.isSet then none else some []

/-! ## Loading -/

/-- A path between two parts of a sentence. -/
def sentence (before : String) (path : Text) (behind : String) : Text :=
  Text.ofString before ++ Path.normal path ++ Text.ofString behind

/-- The warning that names unusable definitions. -/
def warningOf (names : List Text) : Option Text :=
  if names.isEmpty then none
  else
    some (Text.ofString "Ignored invalid contest definitions: " ++
      Text.joined [',', ' '] names ++ ['.'])

/-- The rule book of a document. -/
def ofDocument (depth : Nat) (path : Text) (document : Value) : Except Fault (RuleBook × Option Text) :=
  match definitions? document with
  | none =>
      .ok (builtIn,
        some (sentence "Contest file has invalid root: " path ". Using built-in rules."))
  | some definitions =>
      (builtIn.defineAll depth definitions).map fun defined => (defined.1, warningOf defined.2)

/-- The path that a setting gives; blank text gives none. -/
def pathOf (depth : Nat) (setting : Value) : Except Fault Text :=
  if setting.isSet then (setting.toText depth).map Text.trim else .ok []

/-- The rule book of a file, with a warning where it is not what was asked for.  A star stands for
what exactly makes a file unreadable. -/
def load (store : Store) (setting : Value) : Except Fault (RuleBook × Option Text) := do
  let path ← pathOf store.form.depth setting
  let instead (before behind : String) : RuleBook × Option Text :=
    (builtIn, some (sentence before path behind))
  if path.isEmpty then
    return (builtIn, none)
  else if !(← store.exists? path) then
    return instead "Contest file not found: " ". Using built-in rules."
  else
    match store.readDocument path with
    | .error _ =>
        return instead "Contest file could not be read: " " (*). Using built-in rules."
    | .ok document => ofDocument store.form.depth path document

end RuleBook
end ContestExchange
