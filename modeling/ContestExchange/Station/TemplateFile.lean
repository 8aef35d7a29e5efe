import ContestExchange.Exchange.Template
import ContestExchange.Station.RuleBook

namespace ContestExchange
namespace TemplateFile

/-!
# Template files

A template document may replace each of the four groups of templates.  A group is a list or a pair, or
a single template; what is no template in it is passed over, and a group without any template keeps
the built-in ones.  Of calls only the built-in shapes are taken, because a shape has to fit the
length of the call that it finds.
-/

/-- The template that a value of a group spells. -/
def template? : Value → Option Template
  | .text written =>
      let row := Text.lower (Text.trim written)
      if row.isEmpty then none else Template.ofText? row
  | _ => none

/-- The templates that a group spells. -/
def templatesOf : Value → List Template
  | .text written => (template? (.text written)).toList
  | .list items => items.filterMap template?
  | .pair first second => [first, second].filterMap template?
  | _ => []

/-- A group of a document, or the built-in one when the document has no template for it. -/
def group (groups : List (Value × Value)) (name : String) (isUsable : Template → Bool)
    (builtIn : List Template) : List Template :=
  let found :=
    (templatesOf ((Value.lookup? groups (Text.ofString name)).getD .null)).filter isUsable
  if found.isEmpty then builtIn else found

/-- The templates of the groups in a document. -/
def ofGroups (groups : List (Value × Value)) : TemplateSet :=
  let builtIn := TemplateSet.builtIn
  { serials := group groups "serial" (fun _ => true) builtIn.serials
    sections := group groups "section" (fun _ => true) builtIn.sections
    genericSections := group groups "generic_section" (fun _ => true) builtIn.genericSections
    callsigns :=
      group groups "callsign" (TemplateSet.callShapes.contains ·) builtIn.callsigns }

/-- The templates of a document, with a warning where it is not one of templates. -/
def ofDocument (path : Text) (document : Value) : TemplateSet × Option Text :=
  let refused (before : String) : TemplateSet × Option Text :=
    (.builtIn, some (RuleBook.sentence before path ". Using built-in defaults."))
  match document with
  | .mapping entries =>
      match (Value.lookup? entries (Text.ofString "templates")).getD document with
      | .mapping groups => (ofGroups groups, none)
      | _ => refused "Template file has invalid root: "
  | other =>
      if other.isSet then refused "Template file has invalid format: "
      else (ofGroups [], none)

/-- The templates of a file, with a warning where it is not what was asked for.  A star stands for
what exactly makes a file unreadable. -/
def load (store : Store) (setting : Value) : Except Fault (TemplateSet × Option Text) := do
  let path ← RuleBook.pathOf store.form.depth setting
  let instead (before behind : String) : TemplateSet × Option Text :=
    (.builtIn, some (RuleBook.sentence before path behind))
  if path.isEmpty then
    return (.builtIn, none)
  else if !(← store.exists? path) then
    return instead "Template file not found: " ". Using built-in defaults."
  else
    match store.readDocument path with
    | .error _ =>
        return instead "Template file could not be read: " " (*). Using built-in defaults."
    | .ok document => return ofDocument path document

end TemplateFile
end ContestExchange
