import ContestExchange.Exchange.Placement
import ContestExchange.Exchange.Template
import ContestExchange.Sequence
import ContestExchange.Text.Letter

namespace ContestExchange
namespace Extraction

/-!
# Calls retyped into an exchange

A wrong call is put right by typing it once more into the exchange.  Groups with the shape of a call
are looked for one shape after the other, and the last one that looks North American wins.  A group
that lies at the border of the text is empty, and an empty group counts as well, so it withdraws an
earlier find.
-/

/-- The first letters of North American calls. -/
def americanLetters : Text := Text.ofString "KNWVC"

/-- Whether a group looks North American: by its first letter, or by an `A` before another letter.
A missing first letter passes. -/
def looksAmerican (group : Text) : Bool :=
  match group with
  | [] => true
  | [first] => americanLetters.contains first
  | first :: second :: _ =>
      americanLetters.contains first || (first == 'A' && Text.isLetter second)

/-- The group under the rightmost occurrence of a shape, and whether it looks North American. -/
def groupUnder? (text : Text) (line : List Symbol) (shape : Template) : Option Text :=
  match locate line shape with
  | none => none
  | some offset =>
      let start := textIndex offset 1
      if looksAmerican (Sequence.slice text start (start + 2)) then
        some (Sequence.slice text start (start + Template.callLength shape))
      else none

/-- The call retyped into an exchange, empty if there is none. -/
def scanCall (shapes : List Template) (text : Text) (line : List Symbol) : Text :=
  shapes.foldl (fun found shape => (groupUnder? text line shape).getD found) []

end Extraction
end ContestExchange
