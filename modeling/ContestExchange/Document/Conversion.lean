import ContestExchange.Document.Written
import ContestExchange.Number.Literal
import ContestExchange.Number.Quantity

namespace ContestExchange
namespace Value

/-!
# Numbers and sequences from document values

A setting that has to be a number takes a number, a truth value, or a text or bytes that spell one.
The faults tell apart a value of the wrong kind, a number that cannot be read and one that is too
large.
-/

/-- The text of bytes, where a byte that is no character of its own is one that no number has. -/
def spelling (content : List UInt8) : Text :=
  content.map fun byte => if byte.toNat < 0x80 then Char.ofNat byte.toNat else '?'

/-- The integer that a text spells. -/
def spelledInt (spelled : Text) : Except Fault Int :=
  match Literal.integer? spelled with
  | some number => .ok number
  | none => .error .unreadableNumber

/-- The double that a text spells. -/
def spelledDouble (spelled : Text) : Except Fault Double :=
  match Literal.double? spelled with
  | some number => .ok number
  | none => .error .unreadableNumber

/-- The integer of a value; a fraction is cut off toward zero. -/
def toInt : Value → Except Fault Int
  | .bool flag => .ok (if flag then 1 else 0)
  | .int number => .ok number
  | .double number =>
      if number.isNaN then .error .unreadableNumber
      else if number.isInfinite then .error .tooLarge
      else .ok number.truncate
  | .text content => spelledInt content
  | .bytes content => spelledInt (spelling content)
  | .null | .moment _ | .list _ | .set _ | .pair _ _ | .mapping _ => .error .wrongKind

/-- The double of a value. -/
def toDouble : Value → Except Fault Double
  | .bool flag => .ok (Double.ofInt (if flag then 1 else 0))
  | .int number =>
      match Double.ofInt? number with
      | some nearest => .ok nearest
      | none => .error .tooLarge
  | .double number => .ok number
  | .text content => spelledDouble content
  | .bytes content => spelledDouble (spelling content)
  | .null | .moment _ | .list _ | .set _ | .pair _ _ | .mapping _ => .error .wrongKind

/-- A quantity as a value. -/
def ofQuantity : Quantity → Value
  | .whole number => .int number
  | .double number => .double number

/-- The values that a list, a set or a pair, the keys of a mapping, the characters of a text or the
bytes give in turn. -/
def elements : Value → Except Fault (List Value)
  | .text content => .ok (content.map fun character => .text [character])
  | .bytes content => .ok (content.map fun byte => .int byte.toNat)
  | .list items => .ok items
  | .set members => .ok members
  | .pair first second => .ok [first, second]
  | .mapping entries => .ok (entries.map (·.1))
  | .null | .bool _ | .int _ | .double _ | .moment _ => .error .wrongKind

/-- The elements of a value that counts as on, and none otherwise. -/
def elementsIfSet (value : Value) : Except Fault (List Value) :=
  if value.isSet then value.elements else .ok []

end Value
end ContestExchange
