import ContestExchange.Number.Literal
import ContestExchange.Text.Column

namespace ContestExchange
namespace Decimal

/-!
# Decimal text of numbers

Integers are written with their digits alone, and where their size is not known before only up to as
many digits as an integer may be read with.  A double is written with the fewest decimal digits
that read back as the same double, the nearest ones where several decimals of that length do; a
point stands in it unless its size asks for an exponent.  A duration is written with a fixed number
of places, where a half goes to the even digit.
-/

/-- The digits of a natural number. -/
def natText (number : Nat) : Text := Nat.toDigits 10 number

/-- The digits of an integer, with a sign when it is negative. -/
def intText : Int → Text
  | .ofNat number => natText number
  | .negSucc number => '-' :: natText (number + 1)

/-- An integer in decimals, if its digits are not more than an integer may be written with. -/
def intText? (number : Int) : Option Text :=
  if Literal.integerDigitLimit < (natText number.natAbs).length then none else some (intText number)

/-- Digits and the place of the point: the value is `0.d₁d₂… · 10 ^ point`. -/
structure Digits where
  significand : Text
  point : Int

/-- A fraction divided by a power of ten, again as a fraction. -/
def scaledByTen (numerator denominator : Nat) (power : Int) : Nat × Nat :=
  (numerator * Nat.pow 10 (-power).toNat, denominator * Nat.pow 10 power.toNat)

/-- The least power of ten above a positive fraction. -/
def pointOf (numerator denominator : Nat) : Int :=
  if denominator ≤ numerator then
    (natText (numerator / denominator)).length
  else
    match (List.range 400).find? fun shift => denominator ≤ numerator * Nat.pow 10 (shift + 1) with
    | some shift => -(shift : Int)
    | none => -400

/-- Whether the decimal `digits · 10 ^ power` reads back as the magnitude. -/
def readsBack (magnitude digits : Nat) (power : Int) : Bool :=
  Double.nearestMagnitude (digits * Nat.pow 10 power.toNat) (Nat.pow 10 (-power).toNat) == magnitude

/-- The nearest decimal with at most `count` digits that reads back as the value, if there is one:
only the two neighbours of the value on the grid of such decimals can be the nearest. -/
def decimalWith? (value : Double) (count : Nat) : Option (Nat × Int) :=
  let power := pointOf value.numerator value.denominator - count
  let (top, bottom) := scaledByTen value.numerator value.denominator power
  let below := top / bottom
  let nearBelow := 2 * (top % bottom) < bottom ∨ (2 * (top % bottom) = bottom ∧ below % 2 = 0)
  let belowReads := readsBack value.magnitude below power
  let aboveReads := readsBack value.magnitude (below + 1) power
  if belowReads && (nearBelow || !aboveReads) then some (below, power)
  else if aboveReads then some (below + 1, power)
  else none

/-- The shortest decimal of a positive finite double; seventeen digits always suffice. -/
def shortest (value : Double) : Digits :=
  match (List.range 17).findSome? fun shorter => decimalWith? value (shorter + 1) with
  | some (digits, power) =>
      let text := natText digits
      ⟨Text.dropAllLast '0' text, text.length + power⟩
  | none => ⟨[], 0⟩

/-- Writes digits with a point and without an exponent. -/
def positional (digits : Digits) : Text :=
  let count := digits.significand.length
  if digits.point ≤ 0 then
    Text.ofString "0." ++ List.replicate (-digits.point).toNat '0' ++ digits.significand
  else if (count : Int) ≤ digits.point then
    digits.significand ++ List.replicate (digits.point.toNat - count) '0' ++ Text.ofString ".0"
  else
    digits.significand.take digits.point.toNat ++ '.' :: digits.significand.drop digits.point.toNat

/-- Writes digits with one of them before the point and an exponent of at least two digits. -/
def scientific (digits : Digits) : Text :=
  let power := digits.point - 1
  let fraction := digits.significand.drop 1
  digits.significand.take 1 ++ (if fraction.isEmpty then [] else '.' :: fraction) ++
    ['e', if power < 0 then '-' else '+'] ++ Text.zeroFill 2 (natText power.natAbs)

/-- The text of a double.  Values from `10 ^ 16` on and below `10 ^ -4` carry an exponent. -/
def doubleText (value : Double) : Text :=
  let sign := if value.negative then ['-'] else []
  if value.isNaN then Text.ofString "nan"
  else if value.isInfinite then sign ++ Text.ofString "inf"
  else if value.isZero then sign ++ Text.ofString "0.0"
  else
    let digits := shortest value
    sign ++ if -4 < digits.point ∧ digits.point ≤ 16 then positional digits else scientific digits

/-- A finite double with a fixed number of places behind the point. -/
def fixedText (places : Nat) (value : Double) : Text :=
  let units := Double.roundQuotient (value.numerator * Nat.pow 10 places) value.denominator
  let digits := Text.zeroFill (places + 1) (natText units)
  let whole := digits.length - places
  (if value.negative then ['-'] else []) ++ digits.take whole ++ '.' :: digits.drop whole

end Decimal
end ContestExchange
