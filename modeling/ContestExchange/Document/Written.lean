import ContestExchange.Document.Value
import ContestExchange.Fault
import ContestExchange.Text.Printable

namespace ContestExchange
namespace Value

/-!
# The text of a document value

A setting that has to be a text takes the text of whatever value the document gives.  A text stands
for itself; a number is written in decimals; a text inside another value is quoted, with the
quotation mark that needs no escape where there is a choice, and so are bytes.

Not every value has a text.  An integer is written out only up to so many digits, and a value may lie
only so deep inside of others.  The first part for which this fails is what keeps the whole from being
written.
-/

/-- A character code in hexadecimal, filled up to a number of digits. -/
def hexText (width code : Nat) : Text := Text.zeroFill width (Nat.toDigits 16 code)

/-- One character of a quoted text. -/
def quotedChar (quote character : Char) : Text :=
  let code := character.toNat
  if character = quote ∨ character = '\\' then ['\\', character]
  else if character = '\t' then ['\\', 't']
  else if character = '\n' then ['\\', 'n']
  else if character = '\r' then ['\\', 'r']
  else if code < 0x20 ∨ code = 0x7F then '\\' :: 'x' :: hexText 2 code
  else if code < 0x7F ∨ Text.isPrintable character then [character]
  else if code < 0x100 then '\\' :: 'x' :: hexText 2 code
  else if code < 0x10000 then '\\' :: 'u' :: hexText 4 code
  else '\\' :: 'U' :: hexText 8 code

/-- The quotation mark around a text: a double one when it holds single ones only. -/
def quoteOf (content : Text) : Char :=
  if content.contains '\'' && !content.contains '"' then '"' else '\''

/-- A text between quotation marks. -/
def quoted (content : Text) : Text :=
  let quote := quoteOf content
  quote :: content.flatMap (quotedChar quote) ++ [quote]

/-- Bytes between quotation marks; those that are no character of their own are written by number. -/
def quotedBytes (content : List UInt8) : Text :=
  let quote := quoteOf (content.map fun byte => Char.ofNat byte.toNat)
  let quotedByte (byte : UInt8) : Text :=
    if byte.toNat < 0x80 then quotedChar quote (Char.ofNat byte.toNat)
    else '\\' :: 'x' :: hexText 2 byte.toNat
  'b' :: quote :: content.flatMap quotedByte ++ [quote]

/-- Texts with commas between them. -/
def listed (texts : List Text) : Text := Text.joined [',', ' '] texts

/-- An integer in decimals. -/
def intText (number : Int) : Except Fault Text :=
  match Decimal.intText? number with
  | some digits => .ok digits
  | none => .error .unreadableNumber

mutual

/-- The text of a value that others may be around, at a depth that is left. -/
def nestedText (depth : Nat) (value : Value) : Except Fault Text :=
  match depth with
  | 0 => .error .tooDeep
  | depth + 1 =>
      match value with
      | .null => .ok (Text.ofString "None")
      | .bool flag => .ok (Text.ofString (if flag then "True" else "False"))
      | .int number => intText number
      | .double number => .ok (Decimal.doubleText number)
      | .text content => .ok (quoted content)
      | .moment stamp => .ok stamp.nestedText
      | .bytes content => .ok (quotedBytes content)
      | .list items => do return '[' :: listed (← itemTexts depth items) ++ [']']
      | .set members => do
          let texts ← itemTexts depth members
          return if texts.isEmpty then Text.ofString "set()" else '\x7b' :: listed texts ++ ['\x7d']
      | .pair first second => do
          let first ← nestedText depth first
          let second ← nestedText depth second
          return '(' :: listed [first, second] ++ [')']
      | .mapping entries => do return '\x7b' :: listed (← entryTexts depth entries) ++ ['\x7d']

/-- The texts of the items of a value. -/
def itemTexts (depth : Nat) : List Value → Except Fault (List Text)
  | [] => .ok []
  | item :: rest => do
      let text ← nestedText depth item
      let texts ← itemTexts depth rest
      return text :: texts

/-- The texts of the entries of a mapping. -/
def entryTexts (depth : Nat) : List (Value × Value) → Except Fault (List Text)
  | [] => .ok []
  | (key, value) :: rest => do
      let key ← nestedText depth key
      let value ← nestedText depth value
      let texts ← entryTexts depth rest
      return (key ++ ':' :: ' ' :: value) :: texts

end

/-- The text that a value stands for. -/
def toText (depth : Nat) : Value → Except Fault Text
  | .text content => .ok content
  | .moment stamp => if depth = 0 then .error .tooDeep else .ok stamp.text
  | value => nestedText depth value

/-- The texts that some values stand for. -/
def toTexts (depth : Nat) (values : List Value) : Except Fault (List Text) :=
  values.mapM (toText depth)

end Value
end ContestExchange
