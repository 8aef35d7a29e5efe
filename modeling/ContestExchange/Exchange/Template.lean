import ContestExchange.Exchange.Symbol

namespace ContestExchange

/-!
# Templates

A template is a row of symbols.  Templates come in four groups: where a serial number may stand,
where a section may stand, where a section may stand in an exchange without a serial, and the
shapes of calls.  Within a group a later template overrides an earlier one.
-/

/-- A row of symbols to be found on a line. -/
abbrev Template := List Symbol

namespace Template

/-- The template of a written row of letters, if all of them stand for symbols. -/
def ofText? (written : Text) : Option Template := written.mapM Symbol.ofCode?

/-- A template as it is written. -/
def toText (template : Template) : Text := template.map Symbol.code

/-- The length of the call inside a call's shape: all but the delimiter at either end. -/
def callLength {Mark : Type} (shape : List Mark) : Int := (shape.length : Int) - 2

end Template

/-- The four groups of templates. -/
structure TemplateSet where
  serials : List Template
  sections : List Template
  genericSections : List Template
  callsigns : List Template

namespace TemplateSet

/-- The five shapes of calls that an exchange is scanned for. -/
def callShapes : List Template :=
  [[.blank, .letter, .figure, .letter, .letter, .blank],
   [.blank, .letter, .letter, .figure, .letter, .blank],
   [.blank, .letter, .letter, .figure, .letter, .letter, .blank],
   [.blank, .letter, .figure, .letter, .letter, .letter, .blank],
   [.blank, .letter, .letter, .figure, .letter, .letter, .letter, .blank]]

/-- The built-in places of a serial number. -/
def serialPlaces : List Template :=
  [[.blank, .figure, .blank],
   [.letter, .figure, .blank],
   [.blank, .figure, .letter],
   [.blank, .figure, .figure, .letter, .blank],
   [.letter, .figure, .figure, .letter, .blank],
   [.blank, .figure, .figure, .blank, .figure, .figure, .blank],
   [.figure, .figure, .figure],
   [.figure, .figure, .figure, .figure]]

/-- One to four letters between two delimiters. -/
def lettersBetween (before after : Symbol) (count : Nat) : Template :=
  before :: (List.replicate count .letter ++ [after])

/-- The built-in places of a section. -/
def sectionPlaces : List Template :=
  [lettersBetween .figure .blank 1, lettersBetween .figure .blank 2,
   lettersBetween .figure .blank 3, lettersBetween .figure .blank 4,
   lettersBetween .blank .blank 1, lettersBetween .blank .blank 2,
   lettersBetween .blank .blank 3, lettersBetween .blank .blank 4,
   lettersBetween .blank .undefined 1, lettersBetween .blank .undefined 2,
   lettersBetween .blank .undefined 3, lettersBetween .blank .undefined 4,
   [.blank, .letter, .letter, .figure, .blank]]

/-- The built-in places of a section in an exchange of sections only. -/
def genericSectionPlaces : List Template :=
  [lettersBetween .undefined .blank 1, lettersBetween .undefined .blank 2,
   lettersBetween .undefined .blank 3, lettersBetween .undefined .blank 4,
   lettersBetween .undefined .undefined 1, lettersBetween .undefined .undefined 2,
   lettersBetween .undefined .undefined 3,
   lettersBetween .blank .blank 1, lettersBetween .blank .blank 2,
   lettersBetween .blank .blank 3, lettersBetween .blank .blank 4]

/-- The built-in templates. -/
def builtIn : TemplateSet :=
  ⟨serialPlaces, sectionPlaces, genericSectionPlaces, callShapes⟩

end TemplateSet
end ContestExchange
