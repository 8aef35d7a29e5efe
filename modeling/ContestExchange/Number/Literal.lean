import ContestExchange.Text.Blank
import ContestExchange.Text.Capital
import ContestExchange.Text.Digit
import ContestExchange.Number.Double

namespace ContestExchange
namespace Literal

/-!
# Numbers written in a text

A document may give a number as a text.  Digits of every script count by their place value, blanks
around the number are ignored, and a single underscore may stand between two digits.  An integer
has at most 4300 digits.  A double may have a fraction and an exponent, or be an infinity or no
number by name.
-/

/-- The most digits an integer may be written with. -/
def integerDigitLimit : Nat := 4300

/-- The blanks that may surround a number: those of every script, but of the controls only the
tabulator and the line ends. -/
def isOuterBlank (character : Char) : Bool :=
  let code := character.toNat
  if code < 0x80 then code == 0x20 || (0x9 ≤ code && code ≤ 0xD) else Text.isBlank character

/-- The text between the surrounding blanks. -/
def core (text : Text) : Text :=
  ((text.dropWhile isOuterBlank).reverse.dropWhile isOuterBlank).reverse

/-- Takes a sign off the front; true for a minus. -/
def splitSign : Text → Bool × Text
  | '-' :: rest => (true, rest)
  | '+' :: rest => (false, rest)
  | text => (false, text)

/-- Takes out the underscores, each of which has to stand between two digits.  `afterDigit` tells
whether a digit stands before the text. -/
def ungroup (afterDigit : Bool) : Text → Option Text
  | [] => some []
  | '_' :: next :: rest =>
      if afterDigit && Text.isDecimal next then ungroup false (next :: rest) else none
  | character :: rest =>
      if character = '_' then none
      else (ungroup (Text.isDecimal character) rest).map (character :: ·)

/-- The integer that a text spells. -/
def integer? (text : Text) : Option Int :=
  let (negative, digits) := splitSign (core text)
  match ungroup false digits with
  | some digits =>
      if digits.isEmpty || integerDigitLimit < digits.length then none
      else
        (Text.decimalsFrom 0 digits).map fun (magnitude : Nat) =>
          if negative then -(magnitude : Int) else (magnitude : Int)
  | none => none

/-- The double nearest to `digits · 10 ^ power`.  Far outside the range of doubles the answer is
known without computing the power. -/
def ofDecimal (negative : Bool) (count digits : Nat) (power : Int) : Double :=
  if digits = 0 then ⟨negative, 0⟩
  else if 310 < power then ⟨negative, Double.infiniteMagnitude⟩
  else if (count : Int) + power < -400 then ⟨negative, 0⟩
  else Double.ofRatio negative (digits * Nat.pow 10 power.toNat) (Nat.pow 10 (-power).toNat)

/-- The exponent at the end of a number: nothing at all, or the mark, a sign and digits. -/
def exponent? : Text → Option Int
  | [] => some 0
  | mark :: rest =>
      if mark = 'e' ∨ mark = 'E' then
        match splitSign rest with
        | (_, []) => none
        | (negative, digits) =>
            (Text.decimalsFrom 0 digits).map fun (magnitude : Nat) =>
              if negative then -(magnitude : Int) else (magnitude : Int)
      else none

/-- A number in figures: digits before or behind a point, or both, and then an exponent. -/
def figures? (negative : Bool) (text : Text) : Option Double :=
  let whole := text.takeWhile Text.isDecimal
  let afterWhole := text.dropWhile Text.isDecimal
  let (fraction, rest) :=
    match afterWhole with
    | '.' :: tail => (tail.takeWhile Text.isDecimal, tail.dropWhile Text.isDecimal)
    | _ => ([], afterWhole)
  if whole.isEmpty && fraction.isEmpty then none
  else
    match Text.decimalsFrom 0 (whole ++ fraction), exponent? rest with
    | some digits, some power =>
        some (ofDecimal negative (whole ++ fraction).length digits (power - fraction.length))
    | _, _ => none

/-- The double that a text spells. -/
def double? (text : Text) : Option Double :=
  match ungroup false (core text) with
  | none => none
  | some plain =>
      let (negative, rest) := splitSign plain
      let word := Text.lower rest
      if word = Text.ofString "inf" ∨ word = Text.ofString "infinity" then
        some ⟨negative, Double.infiniteMagnitude⟩
      else if word = Text.ofString "nan" then some Double.notANumber
      else figures? negative rest

end Literal
end ContestExchange
