import ContestExchange.Morse.Code
import ContestExchange.Sequence
import ContestExchange.Text.Blank

namespace ContestExchange

/-!
# Keying

A text is keyed as a row of elements: for some dots the key is down, for some it is up.  A gap of
one dot lies between the marks of a letter, of three dots between letters and of seven dots between
words.  A word without any code leaves its gap behind, except at the very start.
-/

/-- A stretch of time in which the key is down or up. -/
structure Element where
  isDown : Bool
  dots : Nat
deriving DecidableEq, Repr

namespace Keying

/-- A mark. -/
def ofMark (mark : Mark) : Element := ⟨true, mark.dots⟩

/-- A gap of some dots. -/
def gap (dots : Nat) : Element := ⟨false, dots⟩

/-- Puts a gap between groups of elements. -/
def spaced (dots : Nat) : List (List Element) → List Element
  | [] => []
  | [only] => only
  | first :: second :: rest => first ++ gap dots :: spaced dots (second :: rest)

/-- The elements of a letter. -/
def ofCode (code : Code) : List Element := spaced 1 (code.map fun mark => [ofMark mark])

/-- The elements of a word in capitals; what has no code is left out. -/
def ofWord (word : Text) : List Element := spaced 3 ((word.filterMap Code.ofChar?).map ofCode)

/-- The elements of the words behind another one.  Each of them comes after a gap, also a word of
which everything is left out. -/
def ofFollowing (words : List Text) : List Element :=
  words.flatMap fun word => gap 7 :: ofWord word

/-- The elements of words in capitals, from the first one on of which something is left. -/
def ofWords : List Text → List Element
  | [] => []
  | word :: rest =>
      let elements := ofWord word
      if elements.isEmpty then ofWords rest else elements ++ ofFollowing rest

/-- The elements of a text. -/
def ofText (text : Text) : List Element := ofWords (Text.words (Text.upper text))

/-- The length of a row of elements in dots. -/
def totalDots (elements : List Element) : Nat := Sequence.total Element.dots elements

end Keying
end ContestExchange
