import ContestExchange.Document.Form
import ContestExchange.Document.Written
import ContestExchange.Number.Literal

namespace ContestExchange
namespace Flow

/-!
# Documents in flow style

One form of documents is the flow style: brackets around lists, braces around mappings, texts in
double quotes, and the words `null`, `true` and `false`.  A number with a point or an exponent is a
double, any other number an integer; the doubles beyond all numbers are spelled `.inf`, `-.inf` and
`.nan`.  A mapping keeps the order of its entries, and a key may be any value.  Two keys are the same
key when they are equal as texts or as numbers, a truth value counting as the number one or zero.  What
is not a number equals nothing, not even itself.

Nothing else of what other languages have for documents is read: no blocks that are told by their
indentation, no texts without quotes, and no words for moments, bytes, sets and pairs.  Of these the
first two are written as texts and the others as lists.

The reader takes a budget of steps, one for each value and each separator, and the length of the
text is always enough.
-/

/-! ## Keys -/

/-- The integer that a truth value or a number stands for. -/
def wholeNumber? : Value → Option Int
  | .bool flag => some (if flag then 1 else 0)
  | .int number => some number
  | .double number =>
      if number.isNaN || number.isInfinite then none
      else if number.numerator % number.denominator == 0 then some number.truncate
      else none
  | _ => none

/-- Whether two values are the same number, neither of which is an integer. -/
def isSameFraction (left right : Value) : Bool :=
  match left, right with
  | .double left, .double right => left == right && !left.isNaN
  | _, _ => false

/-- Whether two values are the same key of a mapping. -/
def isSameKey (left right : Value) : Bool :=
  match left, right with
  | .null, .null => true
  | .text left, .text right => left == right
  | _, _ =>
      match wholeNumber? left, wholeNumber? right with
      | some left, some right => left == right
      | none, none => isSameFraction left right
      | _, _ => false

/-- Sets a key: an entry of the same key keeps its place and its spelling. -/
def insertEntry (entries : List (Value × Value)) (key value : Value) : List (Value × Value) :=
  if entries.any fun entry => isSameKey entry.1 key then
    entries.map fun entry => if isSameKey entry.1 key then (entry.1, value) else entry
  else
    entries ++ [(key, value)]

/-- The mapping that results from setting the keys one after the other. -/
def ofEntries (entries : List (Value × Value)) : Value :=
  .mapping (entries.foldl (fun known entry => insertEntry known entry.1 entry.2) [])

/-! ## Reading -/

/-- Whether a character may stand between the parts of a document. -/
def isGap (character : Char) : Bool :=
  character == ' ' || character == '\n' || character == '\t' || character == '\r'

/-- The text behind a gap. -/
def skipGap (text : Text) : Text := text.dropWhile isGap

/-- The value of a hexadecimal digit. -/
def hexValue? (character : Char) : Option Nat :=
  if '0' ≤ character ∧ character ≤ '9' then some (character.toNat - '0'.toNat)
  else if 'a' ≤ character ∧ character ≤ 'f' then some (character.toNat - 'a'.toNat + 10)
  else if 'A' ≤ character ∧ character ≤ 'F' then some (character.toNat - 'A'.toNat + 10)
  else none

/-- A code of four hexadecimal digits. -/
def code? (first second third fourth : Char) : Option Nat :=
  match hexValue? first, hexValue? second, hexValue? third, hexValue? fourth with
  | some first, some second, some third, some fourth =>
      some (((first * 16 + second) * 16 + third) * 16 + fourth)
  | _, _, _, _ => none

/-- The character of an escape with a single letter. -/
def escaped? (mark : Char) : Option Char :=
  if mark = '"' ∨ mark = '\\' ∨ mark = '/' then some mark
  else if mark = 'n' then some '\n'
  else if mark = 't' then some '\t'
  else if mark = 'r' then some '\r'
  else if mark = 'b' then some '\x08'
  else if mark = 'f' then some '\x0c'
  else none

/-- The content of a quoted text and what follows its closing quote.  A pending high surrogate is
joined with the low one behind it. -/
def quotedRest (pending : Option Nat) : Text → Option (Text × Text)
  | [] => none
  | '"' :: rest => some ([], rest)
  | '\\' :: 'u' :: first :: second :: third :: fourth :: rest =>
      match code? first second third fourth with
      | none => none
      | some code =>
          if 0xD800 ≤ code ∧ code ≤ 0xDBFF then quotedRest (some code) rest
          else
            let scalar :=
              match pending with
              | some high => 0x10000 + (high - 0xD800) * 0x400 + (code - 0xDC00)
              | none => code
            (quotedRest none rest).map fun found => (Char.ofNat scalar :: found.1, found.2)
  | '\\' :: mark :: rest =>
      match escaped? mark with
      | some character =>
          (quotedRest none rest).map fun found => (character :: found.1, found.2)
      | none => none
  | character :: rest =>
      (quotedRest none rest).map fun found => (character :: found.1, found.2)

/-- Whether a character can belong to a number or to one of the words. -/
def isBare (character : Char) : Bool :=
  character.isAlphanum || character == '-' || character == '+' || character == '.'

/-- The value that a bare word spells. -/
def bareValue? (word : Text) : Option Value :=
  if word = Text.ofString "null" then some .null
  else if word = Text.ofString "true" then some (.bool true)
  else if word = Text.ofString "false" then some (.bool false)
  else if word = Text.ofString ".nan" then some (.double Double.notANumber)
  else if word = Text.ofString ".inf" then some (.double ⟨false, Double.infiniteMagnitude⟩)
  else if word = Text.ofString "-.inf" then some (.double ⟨true, Double.infiniteMagnitude⟩)
  else if word.any fun character => character == '.' || character == 'e' || character == 'E' then
    (Literal.double? word).map .double
  else
    (Literal.integer? word).map .int

mutual

/-- A value and the text behind it. -/
def readValue : Nat → Text → Option (Value × Text)
  | 0, _ => none
  | budget + 1, text =>
      match skipGap text with
      | '"' :: rest => (quotedRest none rest).map fun found => (.text found.1, found.2)
      | '[' :: rest =>
          match skipGap rest with
          | ']' :: rest => some (.list [], rest)
          | rest => (readItems budget rest).map fun found => (.list found.1, found.2)
      | '\x7b' :: rest =>
          match skipGap rest with
          | '\x7d' :: rest => some (.mapping [], rest)
          | rest => (readEntries budget rest).map fun found => (ofEntries found.1, found.2)
      | rest =>
          (bareValue? (rest.takeWhile isBare)).map fun value => (value, rest.dropWhile isBare)

/-- The items of a list up to and with its closing bracket. -/
def readItems : Nat → Text → Option (List Value × Text)
  | 0, _ => none
  | budget + 1, text =>
      match readValue budget text with
      | none => none
      | some (item, rest) =>
          match skipGap rest with
          | ']' :: rest => some ([item], rest)
          | ',' :: rest => (readItems budget rest).map fun found => (item :: found.1, found.2)
          | _ => none

/-- The entries of a mapping up to and with its closing brace. -/
def readEntries : Nat → Text → Option (List (Value × Value) × Text)
  | 0, _ => none
  | budget + 1, text =>
      match readValue budget text with
      | none => none
      | some (key, rest) =>
          match skipGap rest with
          | ':' :: rest =>
              match readValue budget rest with
              | none => none
              | some (value, rest) =>
                  match skipGap rest with
                  | '\x7d' :: rest => some ([(key, value)], rest)
                  | ',' :: rest =>
                      (readEntries budget rest).map fun found => ((key, value) :: found.1, found.2)
                  | _ => none
          | _ => none

end

/-- The document that a text spells: no value at all for blank text, otherwise exactly one. -/
def read? (text : Text) : Option Value :=
  if (skipGap text).isEmpty then some .null
  else
    match readValue (2 * text.length + 2) text with
    | some (value, rest) => if (skipGap rest).isEmpty then some value else none
    | none => none

/-! ## Writing -/

/-- One character between double quotes. -/
def writtenChar (character : Char) : Text :=
  let code := character.toNat
  if character = '"' ∨ character = '\\' then ['\\', character]
  else if code < 0x20 ∨ code = 0x7F then
    '\\' :: 'u' :: Text.zeroFill 4 (Nat.toDigits 16 code)
  else [character]

/-- A quoted text in front of what follows. -/
def writeText (content rest : Text) : Text :=
  '"' :: content.foldr (fun character behind => writtenChar character ++ behind) ('"' :: rest)

/-- The spelling of a double in flow style. -/
def doubleWord (number : Double) : Text :=
  if number.isNaN then Text.ofString ".nan"
  else if number.isInfinite then Text.ofString (if number.negative then "-.inf" else ".inf")
  else Decimal.doubleText number

mutual

/-- A value in front of what follows. -/
def writeValue : Value → Text → Text
  | .null, rest => Text.ofString "null" ++ rest
  | .bool flag, rest => Text.ofString (if flag then "true" else "false") ++ rest
  | .int number, rest => Decimal.intText number ++ rest
  | .double number, rest => doubleWord number ++ rest
  | .text content, rest => writeText content rest
  | .moment moment, rest => writeText moment.text rest
  | .bytes content, rest => writeText (Value.quotedBytes content) rest
  | .list items, rest => '[' :: writeItems items (']' :: rest)
  | .set members, rest => '[' :: writeItems members (']' :: rest)
  | .pair first second, rest =>
      '[' :: writeValue first (',' :: ' ' :: writeValue second (']' :: rest))
  | .mapping entries, rest => '\x7b' :: writeEntries entries ('\x7d' :: rest)

/-- List items in front of what follows. -/
def writeItems : List Value → Text → Text
  | [], rest => rest
  | [item], rest => writeValue item rest
  | first :: second :: later, rest =>
      writeValue first (',' :: ' ' :: writeItems (second :: later) rest)

/-- Mapping entries in front of what follows. -/
def writeEntries : List (Value × Value) → Text → Text
  | [], rest => rest
  | [(key, value)], rest => writeValue key (':' :: ' ' :: writeValue value rest)
  | (key, value) :: second :: later, rest =>
      writeValue key (':' :: ' ' :: writeValue value
        (',' :: ' ' :: writeEntries (second :: later) rest))

end

/-- The text of a document. -/
def write (value : Value) : Text := writeValue value []

/-- The flow style as a form of documents. -/
def form (depth : Nat) : DocumentForm :=
  { read := fun text =>
      match read? text with
      | some document => .ok document
      | none => .error .malformed
    write := write
    depth := depth }

end Flow
end ContestExchange
