import ContestExchange.Sequence
import ContestExchange.Text.Basic

namespace ContestExchange
namespace Path

/-!
# Paths

A path is a row of names with slashes between them.  Repeated slashes and names that are a single
point change nothing, so a path has a normal form without them, and that is how it is shown.  A name
of two points is kept, because the folder that it leads back from has to be there.
-/

/-- The names that count. -/
def names (path : Text) : List Text :=
  (Text.splitAt '/' path).filter fun name => !name.isEmpty && name != ['.']

/-- The slashes that a path starts at: exactly two of them are kept, any other number is one. -/
def root (path : Text) : Text :=
  let slashes := path.takeWhile (· == '/')
  if slashes.length ≤ 2 then slashes else ['/']

/-- The names that are looked up along a path.  One without any stays where it starts: at the root, or
by a single point in the folder that the program works in. -/
def steps (path : Text) : List Text :=
  if (names path).isEmpty && (root path).isEmpty then [['.']] else names path

/-- The path of some names behind the slashes that it starts at; a path without any of either is a
single point. -/
def ofNames (root : Text) (names : List Text) : Text :=
  Text.orElse ['.'] (root ++ Text.joined ['/'] names)

/-- The normal form of a path. -/
def normal (path : Text) : Text := ofNames (root path) (names path)

/-- The paths of what is passed on the way along a path, and its own at the end. -/
def along (path : Text) : List Text :=
  (List.range ((names path).length + 1)).map fun count =>
    ofNames (root path) ((names path).take count)

/-! ## Limits -/

/-- The bytes that a name or a path takes. -/
def size (text : Text) : Nat := Sequence.total Char.utf8Size text

/-- The most bytes that a name may take. -/
def nameLimit : Nat := 255

/-- The most bytes that a path may take. -/
def limit : Nat := 4095

end Path
end ContestExchange
