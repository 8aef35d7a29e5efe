import ContestExchange.Capture.Session
import ContestExchange.Station.Config
import ContestExchange.Station.RuleBook
import ContestExchange.Station.TemplateFile

namespace ContestExchange

/-!
# The contest in use

Before the first contact the rule, the templates and the multipliers of the configured contest are
loaded.  Wherever something else is used than was asked for, there is a message about it.  A list of
multipliers that cannot be read keeps the contest from being worked, and so does a path that no file
can have.
-/

/-- What is needed to work a contest. -/
structure Engine where
  rule : Rule
  extractor : Extractor

namespace Engine

/-- An engine being loaded: the messages so far and what came of it. -/
structure Loading (Result : Type) where
  messages : List Text
  result : Except Fault Result

/-- The path of the multipliers that a setting gives.  Bytes are no path, unless they are blank. -/
def multipliersPath (setting : Value) : Except Fault Text :=
  match setting with
  | .text path => .ok (Text.trim path)
  | .bytes content =>
      if (Value.spelling content).all Literal.isOuterBlank then .ok [] else .error .wrongKind
  | other => if other.isSet then .error .withoutParts else .ok []

/-- The message about a contest that has no rule. -/
def contestMessages (wanted : Text) (rule : RuleOf Value) : List Text :=
  if rule.name == wanted then []
  else [Text.ofString "Unknown contest " ++ wanted ++ Text.ofString "; using " ++ rule.name ++
    ['.']]

/-- Loads the multipliers, with a message about their number. -/
def loadMultipliers (store : Store) (setting : Value) :
    Except Fault (MultiplierTable × List Text) :=
  match multipliersPath setting with
  | .error fault => .error fault
  | .ok path =>
      if path.isEmpty then .ok (.empty, [])
      else
        (store.readText path).map fun content =>
          let table := MultiplierTable.ofText content
          (table, [Text.ofString "Multipliers loaded: " ++ Decimal.natText table.size ++
            Text.ofString " from " ++ path])

/-- Loads everything for the contest of a configuration. -/
def load (config : Config) (store : Store) : Loading Engine :=
  match RuleBook.load store config.contest.rulesFile with
  | .error fault => ⟨[], .error fault⟩
  | .ok (book, warning) =>
      let rule := book.ruleOf config.contest.name
      let messages := warning.toList ++ contestMessages config.contest.name rule
      match TemplateFile.load store config.contest.templatesFile with
      | .error fault => ⟨messages, .error fault⟩
      | .ok (templates, warning) =>
          let messages := messages ++ warning.toList
          match loadMultipliers store config.contest.multipliersFile with
          | .error fault => ⟨messages, .error fault⟩
          | .ok (table, counted) =>
              let rule := rule.map Value.isSet
              ⟨messages ++ counted, .ok ⟨rule, .ofRule rule table templates⟩⟩

/-- A session for a contact. -/
def session (engine : Engine) (config : Config) (contact : Contact) :
    Except Fault CaptureSession :=
  CaptureSession.create engine.rule engine.extractor config.captureSettings contact

end Engine
end ContestExchange
