import ContestExchange.Text.Capital

namespace ContestExchange

/-!
# The Morse code

Letters, figures and a few signs each have a row of short and long marks.  Capitals and small
letters share theirs.  Every other character has no code and is not keyed.
-/

/-- A mark: the key is down for a short or for a long time. -/
inductive Mark where
  | dot
  | dash
deriving DecidableEq, Repr

/-- The length of a mark in dots. -/
def Mark.dots : Mark → Nat
  | .dot => 1
  | .dash => 3

/-- The marks of one character. -/
abbrev Code := List Mark

namespace Code

/-- The marks written as points and hyphens. -/
def ofString (written : String) : Code :=
  written.toList.map fun mark => if mark = '.' then .dot else .dash

/-- The characters that have a code. -/
def alphabet : List (Char × Code) :=
  [('A', ofString ".-"), ('B', ofString "-..."), ('C', ofString "-.-."), ('D', ofString "-.."),
   ('E', ofString "."), ('F', ofString "..-."), ('G', ofString "--."), ('H', ofString "...."),
   ('I', ofString ".."), ('J', ofString ".---"), ('K', ofString "-.-"), ('L', ofString ".-.."),
   ('M', ofString "--"), ('N', ofString "-."), ('O', ofString "---"), ('P', ofString ".--."),
   ('Q', ofString "--.-"), ('R', ofString ".-."), ('S', ofString "..."), ('T', ofString "-"),
   ('U', ofString "..-"), ('V', ofString "...-"), ('W', ofString ".--"), ('X', ofString "-..-"),
   ('Y', ofString "-.--"), ('Z', ofString "--.."),
   ('0', ofString "-----"), ('1', ofString ".----"), ('2', ofString "..---"),
   ('3', ofString "...--"), ('4', ofString "....-"), ('5', ofString "....."),
   ('6', ofString "-...."), ('7', ofString "--..."), ('8', ofString "---.."),
   ('9', ofString "----."),
   ('/', ofString "-..-."), ('?', ofString "..--.."), ('=', ofString "-...-"),
   ('.', ofString ".-.-.-"), (',', ofString "--..--"), ('-', ofString "-....-")]

/-- The code of a character as it stands in the alphabet. -/
def ofChar? (character : Char) : Option Code :=
  (alphabet.find? fun entry => entry.1 == character).map (·.2)

/-- The code of a character in either case. -/
def ofEitherCase? (character : Char) : Option Code :=
  match Text.capital character with
  | [only] => ofChar? only
  | _ => none

end Code
end ContestExchange
