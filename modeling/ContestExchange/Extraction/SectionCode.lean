import ContestExchange.Exchange.Multiplier
import ContestExchange.Exchange.Placement
import ContestExchange.Exchange.Template

namespace ContestExchange
namespace Extraction

/-!
# The section of an exchange

Where a template for sections is found, the text under it is looked up in the multiplier table, and
of several templates that lead to an entry the last one counts.  An exchange of sections only is
looked up more leniently: the entry that shares the longest start is taken.
-/

/-- The text under a template, without the blank that ends it. -/
def candidateUnder (text : Text) (line : List Symbol) (template : Template) : Text :=
  Text.dropOneLast ' ' (textUnder text line template)

/-- The entry that the candidate under a template leads to. -/
def sectionUnder? (lookUp : Text → Option Text) (text : Text) (line : List Symbol)
    (template : Template) : Option Text :=
  let candidate := candidateUnder text line template
  if candidate.isEmpty then none
  else
    match lookUp candidate with
    | some code => if code.isEmpty then none else some code
    | none => none

/-- The section that the templates lead to, the last one counting. -/
def findSection (lookUp : Text → Option Text) (templates : List Template) (text : Text)
    (line : List Symbol) : Text :=
  templates.foldl (fun found template => (sectionUnder? lookUp text line template).getD found) []

/-- The state or province that the first three characters lead to. -/
def stateCode (table : MultiplierTable) (text : Text) : Text :=
  (table.lastLeading? (Text.dropAllLast ' ' (text.take 3))).getD []

end Extraction
end ContestExchange
