import ContestExchange.Text.Basic

namespace ContestExchange
namespace Text

/-!
# Lines

A list file may end its lines in any of the marks that the Unicode standard lets break a line, and
a carriage return followed by a line feed is one break.  A line of simulation input ends at a line
feed and nowhere else.  A break at the very end starts no further line in either case.  The text of a
document has line feeds where its file has carriage returns, with or without a line feed behind them.
-/

/-- The characters that end a line of a list file. -/
def isLineBreak (character : Char) : Bool :=
  let code := character.toNat
  (0xA ≤ code && code ≤ 0xD) || (0x1C ≤ code && code ≤ 0x1E) || code == 0x85 ||
    code == 0x2028 || code == 0x2029

/-- Puts a character in front of the first of the lines. -/
def consLine (character : Char) : List Text → List Text
  | [] => [[character]]
  | first :: rest => (character :: first) :: rest

/-- The lines of a list file. -/
def lines : Text → List Text
  | [] => []
  | [character] => if isLineBreak character then [[]] else [[character]]
  | first :: second :: rest =>
      if first = '\r' ∧ second = '\n' then [] :: lines rest
      else if isLineBreak first then [] :: lines (second :: rest)
      else consLine first (lines (second :: rest))

/-- The lines of typed input, which end at line feeds only. -/
def typedLines : Text → List Text
  | [] => []
  | character :: rest =>
      if character = '\n' then [] :: typedLines rest else consLine character (typedLines rest)

/-- The text with a line feed for every carriage return, and for one with a line feed behind it. -/
def withLineFeeds : Text → Text
  | [] => []
  | '\r' :: '\n' :: rest => '\n' :: withLineFeeds rest
  | '\r' :: rest => '\n' :: withLineFeeds rest
  | character :: rest => character :: withLineFeeds rest

end Text
end ContestExchange
