import ContestExchange.Fault
import ContestExchange.Sequence

namespace ContestExchange

/-!
# The exchange line

An exchange line holds at most as many characters as the contest's exchange is wide.  A change
that would not fit is refused as a whole: nothing is ever cut off.  Each operation that can be
refused answers whether it was carried out, next to the line after it.
-/

/-- An exchange line: a text and the width it fits into. -/
structure Buffer where
  width : Nat
  text : Text
  fits : text.length ≤ width

namespace Buffer

/-- An empty line of a given width. -/
def ofWidth (width : Nat) : Buffer := ⟨width, [], Nat.zero_le width⟩

/-- A line of a given width that holds a text.  A line without room for a single character is
refused, and so is a text that does not fit. -/
def create (width : Int) (text : Text) : Except Fault Buffer :=
  if width < 1 then .error (.widthNotPositive width)
  else if fits : text.length ≤ width.toNat then .ok ⟨width.toNat, text, fits⟩
  else .error (.doesNotFit text width)

/-- The number of characters in the line. -/
def length (buffer : Buffer) : Nat := buffer.text.length

/-- Whether the line has no characters. -/
def isEmpty (buffer : Buffer) : Bool := buffer.text.isEmpty

/-- Whether there is no room for another character. -/
def isFull (buffer : Buffer) : Bool := buffer.width ≤ buffer.text.length

/-- Replaces the whole text. -/
def replace (buffer : Buffer) (text : Text) : Bool × Buffer :=
  if fits : text.length ≤ buffer.width then (true, { buffer with text := text, fits := fits })
  else (false, buffer)

/-- Empties the line. -/
def clear (buffer : Buffer) : Buffer := ofWidth buffer.width

/-- Inserts a text at a position, clamped to the line; inserting nothing is refused. -/
def insert (buffer : Buffer) (position : Int) (inserted : Text) : Bool × Buffer :=
  if inserted.isEmpty then (false, buffer)
  else
    let place := min position.toNat buffer.length
    buffer.replace (buffer.text.take place ++ inserted ++ buffer.text.drop place)

/-- Inserts a text at the end of the line. -/
def append (buffer : Buffer) (inserted : Text) : Bool × Buffer :=
  buffer.insert buffer.length inserted

/-- Deletes the character at a position; a position outside the line is refused. -/
def delete (buffer : Buffer) (position : Int) : Bool × Buffer :=
  if 0 ≤ position ∧ position < buffer.length then
    (true, { buffer with
      text := buffer.text.eraseIdx position.toNat
      fits := Nat.le_trans (List.length_eraseIdx_le buffer.text position.toNat) buffer.fits })
  else
    (false, buffer)

/-- Takes off the last character, if there is one. -/
def pop (buffer : Buffer) : Option Char × Buffer :=
  (buffer.text.getLast?, { buffer with
    text := buffer.text.dropLast
    fits := by
      have bound := buffer.fits
      simp only [List.length_dropLast]
      omega })

end Buffer
end ContestExchange
