import ContestExchange.Text.Blank
import ContestExchange.Text.Capital
import ContestExchange.Text.Digit

namespace ContestExchange
namespace Grid

/-!
# Grid squares

A locator names a field by two letters up to `R`, a square by two figures and, if given in full, a
subsquare by two letters up to `X`.  The candidate in an exchange starts at its first capital
letter.
-/

/-- The locator candidate of an exchange: four characters from the first capital letter on, or from
the start of an exchange without one. -/
def candidate (text : Text) : Text :=
  match text.dropWhile fun character => !Text.isCapital character with
  | [] => text.take 4
  | found => found.take 4

/-- Whether a character is a letter from `A` to `last`. -/
def isLetterUpTo (last character : Char) : Bool := 'A' ≤ character && character ≤ last

/-- Whether capitals spell a locator. -/
def isLocator : Text → Bool
  | [field₁, field₂, square₁, square₂] =>
      isLetterUpTo 'R' field₁ && isLetterUpTo 'R' field₂ &&
        Text.isFigure square₁ && Text.isFigure square₂
  | [field₁, field₂, square₁, square₂, sub₁, sub₂] =>
      isLetterUpTo 'R' field₁ && isLetterUpTo 'R' field₂ &&
        Text.isFigure square₁ && Text.isFigure square₂ &&
        isLetterUpTo 'X' sub₁ && isLetterUpTo 'X' sub₂
  | _ => false

/-- Whether a text names a grid square, in letters of either case and with blanks around it. -/
def isSquare (text : Text) : Bool := isLocator (Text.upper (Text.trim text))

end Grid
end ContestExchange
