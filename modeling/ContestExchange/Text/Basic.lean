namespace ContestExchange

/-!
# Text

An exchange is addressed character by character, so text is a list of characters: every length,
offset and width in this library counts characters.  Strings occur only where a program hands
text in or out.
-/

/-- A line of text, one character after the other. -/
abbrev Text := List Char

namespace Text

/-- The text spelled by a string. -/
def ofString (source : String) : Text := source.toList

/-- The part before the first occurrence of `mark`, or the whole text without one. -/
def before (mark : Char) (text : Text) : Text := text.takeWhile (· != mark)

/-- The text without its last character when that character is `mark`. -/
def dropOneLast (mark : Char) (text : Text) : Text :=
  if text.getLast? = some mark then text.dropLast else text

/-- The text without any trailing `mark`. -/
def dropAllLast (mark : Char) (text : Text) : Text :=
  (text.reverse.dropWhile (· == mark)).reverse

/-- The pieces between the occurrences of `mark`, empty ones included. -/
def splitAt (mark : Char) : Text → List Text
  | [] => [[]]
  | character :: rest =>
      if character = mark then [] :: splitAt mark rest
      else
        match splitAt mark rest with
        | [] => [[character]]
        | first :: others => (character :: first) :: others

/-- `replacement` in place of empty text. -/
def orElse (replacement text : Text) : Text := if text.isEmpty then replacement else text

/-- The texts one after the other, with `separator` between neighbours. -/
def joined (separator : Text) : List Text → Text
  | [] => []
  | [only] => only
  | first :: second :: rest => first ++ separator ++ joined separator (second :: rest)

/-- Lexicographic order by code point, the shorter text first when one continues the other. -/
def le : Text → Text → Bool
  | [], _ => true
  | _ :: _, [] => false
  | left :: lefts, right :: rights =>
      if left = right then le lefts rights else left.toNat < right.toNat

end Text

/-- Closed intervals of code points, in ascending order. -/
abbrev CodeRanges := List (Nat × Nat)

/-- Whether a character lies in one of the intervals. -/
def CodeRanges.contains (ranges : CodeRanges) (character : Char) : Bool :=
  ranges.any fun range => range.1 ≤ character.toNat && character.toNat ≤ range.2

end ContestExchange
