import ContestExchange.Fault
import ContestExchange.Sequence
import ContestExchange.Text.Blank
import ContestExchange.Text.Capital
import ContestExchange.Text.Line

namespace ContestExchange

/-!
# Multiplier tables

Sections, states and zones are listed one to a line; behind a comma or a colon a line may carry the
full name, and a line that starts with `#` is a remark.  A table keeps the codes in capitals, each
once, in the order of the list, because that order settles between several entries that fit.

An operator may type only the start of a code.  A candidate leads into an entry when the entry
continues it; the closest entry is the one that shares the longest start with it.
-/

/-- A multiplier table: the codes in the order of their list. -/
structure MultiplierTable where
  entries : List Text

namespace MultiplierTable

/-- The mark that may stand at the very start of a list file. -/
def byteOrderMark : Char := '\uFEFF'

/-- Whether a line or a code is only a remark. -/
def isRemark (text : Text) : Bool := text.isEmpty || text.head? == some '#'

/-- The code on a line of a list, if the line has one. -/
def codeOfLine? (line : Text) : Option Text :=
  let content := (Text.trim line).dropWhile (· == byteOrderMark)
  if isRemark content then none
  else
    let code := Text.upper (Text.trim (Text.before ':' (Text.before ',' content)))
    if isRemark code then none else some code

/-- Adds a code behind the others unless it is known. -/
def addCode (known : List Text) (code : Text) : List Text :=
  if known.contains code then known else known ++ [code]

/-- The codes of the lines, each once, in the order of their first occurrence. -/
def codesOfLines (lines : List Text) : List Text :=
  (lines.filterMap codeOfLine?).foldl addCode []

/-- The codes of a list file. -/
def codesOfText (content : Text) : List Text := codesOfLines (Text.lines content)

/-- The table of a list of lines. -/
def ofLines (lines : List Text) : MultiplierTable := ⟨codesOfLines lines⟩

/-- The table of a list file. -/
def ofText (content : Text) : MultiplierTable := ofLines (codesOfText content)

/-- The table without entries. -/
def empty : MultiplierTable := ⟨[]⟩

/-- The number of entries. -/
def size (table : MultiplierTable) : Nat := table.entries.length

/-- Whether a code is an entry. -/
def contains (table : MultiplierTable) (code : Text) : Bool := table.entries.contains code

/-- The entry at a signed position. -/
def entry (table : MultiplierTable) (position : Int) : Except Fault Text :=
  match Sequence.get? table.entries position with
  | some code => .ok code
  | none => .error .outOfRange

/-- How many leading characters two texts share. -/
def sharedLength : Text → Text → Nat
  | left :: lefts, right :: rights =>
      if left = right then sharedLength lefts rights + 1 else 0
  | _, _ => 0

/-- How many leading characters a candidate shares with the entry at a signed position. -/
def sharedWith (table : MultiplierTable) (candidate : Text) (position : Int) : Except Fault Nat :=
  (table.entry position).map (sharedLength candidate)

/-- The entry that is the candidate itself. -/
def find? (table : MultiplierTable) (candidate : Text) : Option Text :=
  table.entries.find? (· == candidate)

/-- Whether an entry continues a candidate. -/
def leadsInto (candidate code : Text) : Bool := sharedLength candidate code == candidate.length

/-- The first entry that continues a candidate; nothing continues the empty candidate. -/
def firstLeading? (table : MultiplierTable) (candidate : Text) : Option Text :=
  if candidate.isEmpty then none else table.entries.find? (leadsInto candidate)

/-- The last entry that continues a candidate. -/
def lastLeading? (table : MultiplierTable) (candidate : Text) : Option Text :=
  if candidate.isEmpty then none else table.entries.reverse.find? (leadsInto candidate)

/-- The closer of two entries, where the entry found so far shares `best` characters. -/
def closestFrom (candidate : Text) (best : Nat) (found : Option Text) : List Text → Option Text
  | [] => found
  | code :: rest =>
      if best < sharedLength candidate code then
        closestFrom candidate (sharedLength candidate code) (some code) rest
      else
        closestFrom candidate best found rest

/-- The first of the entries that share the longest start with a candidate, if any start at all. -/
def closest? (table : MultiplierTable) (candidate : Text) : Option Text :=
  closestFrom candidate 0 none table.entries

end MultiplierTable
end ContestExchange
