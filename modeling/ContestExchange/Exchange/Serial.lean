import ContestExchange.Fault
import ContestExchange.Number.Literal
import ContestExchange.Text.Column

namespace ContestExchange

/-!
# Serial numbers

A serial number is the run of digits at the start of a text, behind blanks.  The run is scanned with
the wider digit class, so it may hold a character without a place value; then no number can be read,
and neither can one of more digits than an integer may have.

A serial typed short is padded with zeros to three places when the exchange is completed.  The
contests differ in where a short serial ends: at the end of the exchange, or at the first blank.
-/

/-- How a contest pads a short serial number: by the length of the exchange alone, up to its end or the
first blank, or in front of a blank only. -/
inductive Padding where
  | none
  | length
  | wpx
  | compressed
deriving DecidableEq, Repr

namespace Padding

/-- The name of a padding in a rule document. -/
def name : Padding → Text
  | .none => Text.ofString "none"
  | .length => Text.ofString "length"
  | .wpx => Text.ofString "wpx"
  | .compressed => Text.ofString "compressed"

/-- All paddings. -/
def all : List Padding := [.none, .length, .wpx, .compressed]

/-- The padding of a name. -/
def named? (name : Text) : Option Padding := all.find? fun padding => padding.name == name

end Padding

namespace Serial

/-- The run of digits that starts a text, behind blanks. -/
def leadingDigits (text : Text) : Text := (text.dropWhile (· == ' ')).takeWhile Text.isDigit

/-- The number that starts a text; zero when the text starts with no digit. -/
def leadingNumber (text : Text) : Except Fault Nat :=
  let digits := leadingDigits text
  if Literal.integerDigitLimit < digits.length then .error .unreadableNumber
  else
    match Text.decimalsFrom 0 digits with
    | some number => .ok number
    | none => .error .unreadableNumber

/-- The width of the column for serial numbers. -/
def columnWidth : Nat := 4

/-- The number in its column, which stays blank for a number that is no serial. -/
def columnText (number : Int) : Text :=
  if 0 < number ∧ number ≤ 9999 then Text.alignRight columnWidth (Decimal.intText number)
  else Text.blanks columnWidth

/-- The number with at least three digits; nothing for a number that is no serial. -/
def normalText (number : Int) : Text :=
  if 0 < number ∧ number ≤ 9999 then Text.zeroFill 3 (Decimal.intText number) else []

/-- Pads an exchange of one or two characters. -/
def padByLength : Text → Text
  | [only] => ['0', '0', only]
  | [first, second] => ['0', first, second]
  | text => text

/-- Puts two zeros before a character that ends at a blank or at the end. -/
def padOne : Text → Text
  | [only] => ['0', '0', only]
  | first :: ' ' :: rest => '0' :: '0' :: first :: ' ' :: rest
  | text => text

/-- Puts a zero before two characters that end at a blank or at the end. -/
def padTwo : Text → Text
  | [first, second] => ['0', first, second]
  | first :: second :: ' ' :: rest => '0' :: first :: second :: ' ' :: rest
  | text => text

/-- Pads a serial that ends at the first blank or at the end. -/
def padToBlank (text : Text) : Text := padTwo (padOne text)

/-- Puts two zeros before a character in front of a blank. -/
def padSeparatedOne : Text → Text
  | first :: ' ' :: rest =>
      if first = ' ' then first :: ' ' :: rest else '0' :: '0' :: first :: ' ' :: rest
  | text => text

/-- Puts a zero before two characters in front of a blank. -/
def padSeparatedTwo : Text → Text
  | first :: second :: ' ' :: rest =>
      if second = ' ' then first :: second :: ' ' :: rest
      else '0' :: first :: second :: ' ' :: rest
  | text => text

/-- Pads a serial that a blank separates from the rest. -/
def padSeparated (text : Text) : Text := padSeparatedTwo (padSeparatedOne text)

/-- Pads as a contest does. -/
def padBy : Padding → Text → Text
  | .none => id
  | .length => padByLength
  | .wpx => padToBlank
  | .compressed => padSeparated

/-- Pads the serial of an exchange on completion: only where the exchange starts with a digit, and
only if the padded exchange still fits the width. -/
def pad (padding : Padding) (width : Option Int) (text : Text) : Text :=
  match text with
  | [] => []
  | first :: _ =>
      if Text.isDigit first then
        let padded := padBy padding text
        match width with
        | some width => if width < padded.length then text else padded
        | none => padded
      else text

end Serial
end ContestExchange
