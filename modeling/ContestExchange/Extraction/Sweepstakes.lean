import ContestExchange.Exchange.Multiplier
import ContestExchange.Exchange.Serial
import ContestExchange.Extraction.Zone

namespace ContestExchange
namespace Extraction

/-!
# Sweepstakes exchanges

A Sweepstakes exchange is a serial number, a precedence letter, optionally a corrected call, the
check of two figures, and a section.  As in a zone exchange every part is taken greedily and may be
missing.  A part that is present but unusable leaves its column blank.
-/

/-- The letters that give a precedence. -/
def precedenceLetters : Text := Text.ofString "ABMSQU"

/-- The first letters of a call that counts as a correction. -/
def correctionLetters : Text := Text.ofString "AKNWVC"

/-- The precedence that starts a text behind blanks, and the rest. -/
def takePrecedence (text : Text) : Option Char × Text :=
  match Text.trimStart text with
  | first :: rest => if precedenceLetters.contains first then (some first, rest) else (none, text)
  | [] => (none, text)

/-- The region behind a call, a slash and a digit, and the rest. -/
def takeRegion : Text → Text × Text
  | '/' :: digit :: rest =>
      if Text.isDecimal digit then (['/', digit], rest) else ([], '/' :: digit :: rest)
  | text => ([], text)

/-- The call that starts a text behind blanks, and the rest; without a call the text stays. -/
def takeSweepstakesCall (text : Text) : Text × Text :=
  match callAfter? isLetterOrFigure (Text.trimStart text) with
  | some (call, rest) => (call ++ (takeRegion rest).1, (takeRegion rest).2)
  | none => ([], text)

/-- The two or three letters that start a text behind blanks. -/
def takeSectionLetters (text : Text) : Text :=
  let letters := ((Text.trimStart text).takeWhile Text.isCapital).take 3
  if letters.length < 2 then [] else letters

/-- The parts of a Sweepstakes exchange, as typed. -/
structure SweepstakesParts where
  number : Text
  precedence : Option Char
  call : Text
  check : Text
  letters : Text

/-- Takes a Sweepstakes exchange apart. -/
def SweepstakesParts.ofText (text : Text) : SweepstakesParts :=
  let (number, rest) := takeDigits text
  let (precedence, rest) := takePrecedence rest
  let (call, rest) := takeSweepstakesCall rest
  let (check, rest) := takeDigits rest
  ⟨number, precedence, call, check, takeSectionLetters rest⟩

/-- The serial number in its column. -/
def SweepstakesParts.serialColumn (parts : SweepstakesParts) : Text :=
  if parts.number.length ≤ 4 then
    Serial.columnText ((Text.decimalsFrom 0 parts.number).getD 0)
  else
    Text.blanks Serial.columnWidth

/-- The precedence in its column. -/
def SweepstakesParts.precedenceColumn (parts : SweepstakesParts) : Text :=
  [parts.precedence.getD ' ']

/-- The check in its columns. -/
def SweepstakesParts.checkColumns (parts : SweepstakesParts) : Text :=
  if parts.check.length = 2 then parts.check else Text.blanks 2

/-- The call, if it counts as a correction. -/
def SweepstakesParts.correction (parts : SweepstakesParts) : Text :=
  match parts.call with
  | [] => []
  | first :: _ => if correctionLetters.contains first then parts.call else []

/-- The section, if the table has it. -/
def SweepstakesParts.section? (table : MultiplierTable) (parts : SweepstakesParts) : Text :=
  if parts.letters.isEmpty then [] else (table.find? parts.letters).getD []

/-- Reads a Sweepstakes exchange. -/
def ofSweepstakes (table : MultiplierTable) (typing : Bool) (text : Text) : Extraction :=
  let parts := SweepstakesParts.ofText text
  let code := parts.section? table
  let columns := parts.serialColumn ++ ' ' :: parts.precedenceColumn ++ ' ' :: parts.checkColumns ++
    [' ']
  Extraction.showing typing "ss" (' ' :: columns ++ Text.alignRight 2 code ++ [' '])
    { normalized := columns ++ code
      multiplier := code
      place := code
      serial := parts.serialColumn
      correction := parts.correction }

end Extraction
end ContestExchange
