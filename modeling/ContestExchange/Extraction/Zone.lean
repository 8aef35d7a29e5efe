import ContestExchange.Extraction.Result
import ContestExchange.Number.Decimal
import ContestExchange.Text.Blank
import ContestExchange.Text.Digit

namespace ContestExchange
namespace Extraction

/-!
# Zone exchanges

A zone exchange is a zone, optionally a corrected call and then a corrected zone, with blanks
between them where they are wanted.  Each part is taken greedily as far as it goes, and since every
part may be missing, what one part has taken is never given back to an earlier one.

The call is a letter followed by digits and letters, with marks of a call before and behind it; the
part before it is kept as short as possible.
-/

/-- The decimal digits that start a text behind blanks, and the rest. -/
def takeDigits (text : Text) : Text × Text :=
  let behind := Text.trimStart text
  (behind.takeWhile Text.isDecimal, behind.dropWhile Text.isDecimal)

/-- Whether a character is a letter or a figure. -/
def isLetterOrFigure (character : Char) : Bool :=
  Text.isCapital character || Text.isFigure character

/-- Whether a character may stand in a call. -/
def isCallMark (character : Char) : Bool := isLetterOrFigure character || character == '/'

/-- A letter, digits and letters at the start of a text, and the rest. -/
def callCore? : Text → Option (Text × Text)
  | [] => none
  | first :: rest =>
      let digits := rest.takeWhile Text.isDecimal
      let behindDigits := rest.dropWhile Text.isDecimal
      let letters := behindDigits.takeWhile Text.isCapital
      if Text.isCapital first && !digits.isEmpty && !letters.isEmpty then
        some (first :: digits ++ letters, behindDigits.dropWhile Text.isCapital)
      else none

/-- The first core of a call that only characters of a class precede, together with these
characters, and the rest. -/
def callAfter? (mayPrecede : Char → Bool) : Text → Option (Text × Text)
  | [] => none
  | first :: rest =>
      match callCore? (first :: rest) with
      | some found => some found
      | none =>
          if mayPrecede first then
            (callAfter? mayPrecede rest).map fun found => (first :: found.1, found.2)
          else none

/-- The call that starts a text behind blanks, and the rest; without a call the text stays. -/
def takeZoneCall (text : Text) : Text × Text :=
  match callAfter? isCallMark (Text.trimStart text) with
  | some (call, rest) => (call ++ rest.takeWhile isCallMark, rest.dropWhile isCallMark)
  | none => ([], text)

/-- The digits that give the zone: the corrected ones if there are any. -/
structure ZoneParts where
  first : Text
  call : Text
  second : Text

/-- Takes a zone exchange apart. -/
def ZoneParts.ofText (text : Text) : ZoneParts :=
  let (first, rest) := takeDigits text
  let (call, rest) := takeZoneCall rest
  ⟨first, call, (takeDigits rest).1⟩

/-- The digits that count. -/
def ZoneParts.digits (parts : ZoneParts) : Text :=
  if parts.second.isEmpty then parts.first else parts.second

/-- The number of the zone; without digits, or with more than four, it is zero. -/
def ZoneParts.zone (parts : ZoneParts) : Nat :=
  if parts.digits.length ≤ 4 then (Text.decimalsFrom 0 parts.digits).getD 0 else 0

/-- Reads a zone exchange. -/
def ofZoneExchange (typing : Bool) (text : Text) : Extraction :=
  let parts := ZoneParts.ofText text
  let zone := Text.zeroFill 2 (Decimal.natText parts.zone)
  Extraction.showing typing "zone" zone
    { normalized := zone, multiplier := zone, correction := parts.call }

end Extraction
end ContestExchange
