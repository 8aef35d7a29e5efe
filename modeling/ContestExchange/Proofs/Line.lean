import ContestExchange.Exchange.Editor
import ContestExchange.Exchange.Serial

namespace ContestExchange

/-!
# What operations leave of a line

No operation changes the width of an exchange line, whatever it does to the text.  An insertion that
is carried out puts the whole text in at one place, and is refused exactly for want of a text or of
room; a deletion takes out one character, and is refused exactly outside the line.  So the cursor of
an editor may follow each character that it types and still never leaves the line; a deletion may
leave it behind the end, but settling brings it back.

Padding keeps to the width as well: where a padded serial would not fit, the text stays as it was
typed.  The line therefore never refuses what padding made of its own text.
-/

namespace Buffer

/-! ## Widths -/

@[simp] theorem width_replace (buffer : Buffer) (text : Text) :
    (buffer.replace text).2.width = buffer.width := by
  unfold replace
  split <;> rfl

@[simp] theorem width_insert (buffer : Buffer) (position : Int) (inserted : Text) :
    (buffer.insert position inserted).2.width = buffer.width := by
  unfold insert
  split
  · rfl
  · exact width_replace buffer _

@[simp] theorem width_append (buffer : Buffer) (inserted : Text) :
    (buffer.append inserted).2.width = buffer.width :=
  width_insert buffer buffer.length inserted

@[simp] theorem width_delete (buffer : Buffer) (position : Int) :
    (buffer.delete position).2.width = buffer.width := by
  unfold delete
  split <;> rfl

/-! ## Texts -/

theorem isEmpty_iff (buffer : Buffer) : buffer.isEmpty = true ↔ buffer.text = [] :=
  List.isEmpty_iff

/-- A line with room for a character is created around every text that fits. -/
theorem create_of_fits {width : Int} {text : Text} (positive : 1 ≤ width)
    (fits : (text.length : Int) ≤ width) :
    ∃ buffer, create width text = .ok buffer ∧ buffer.width = width ∧ buffer.text = text := by
  have notNarrow : ¬ width < 1 := Int.not_lt.mpr positive
  have room : text.length ≤ width.toNat := by omega
  have wide : (width.toNat : Int) = width := Int.toNat_of_nonneg (Int.le_of_lt positive)
  refine ⟨⟨width.toNat, text, room⟩, ?_, wide, rfl⟩
  rw [create, if_neg notNarrow, dif_pos room]

theorem replace_of_fits {buffer : Buffer} {text : Text} (fits : text.length ≤ buffer.width) :
    buffer.replace text = (true, { buffer with text := text, fits := fits }) := by
  rw [replace, dif_pos fits]

theorem replace_of_not_fits {buffer : Buffer} {text : Text}
    (tooLong : ¬ text.length ≤ buffer.width) : buffer.replace text = (false, buffer) := by
  rw [replace, dif_neg tooLong]

theorem replace_eq_false_iff {buffer : Buffer} {text : Text} :
    (buffer.replace text).1 = false ↔ buffer.width < text.length := by
  by_cases fits : text.length ≤ buffer.width
  · rw [replace_of_fits fits]
    exact iff_of_false Bool.noConfusion (Nat.not_lt_of_le fits)
  · rw [replace_of_not_fits fits]
    exact iff_of_true rfl (Nat.lt_of_not_le fits)

section Insertion

variable {buffer : Buffer} {position : Int} {inserted : Text}

/-- The place in a line that a position stands for when something is inserted there. -/
def placeOf (buffer : Buffer) (position : Int) : Nat := min position.toNat buffer.length

/-- What an insertion leaves if it is carried out. -/
def spliced (buffer : Buffer) (position : Int) (inserted : Text) : Text :=
  buffer.text.take (buffer.placeOf position) ++ inserted ++
    buffer.text.drop (buffer.placeOf position)

/-- A position before the line stands for its start, one behind the line for its end. -/
theorem placeOf_eq (buffer : Buffer) (position : Int) :
    (buffer.placeOf position : Int) = max 0 (min position buffer.text.length) := by
  unfold placeOf length
  omega

theorem placeOf_of_inside {place : Nat} (inside : place ≤ buffer.text.length) :
    buffer.placeOf place = place :=
  Nat.min_eq_left inside

theorem length_spliced (buffer : Buffer) (position : Int) (inserted : Text) :
    (buffer.spliced position inserted).length = buffer.text.length + inserted.length := by
  simp only [spliced, List.length_append, List.length_take, List.length_drop]
  omega

/-- A text that is not empty is inserted as if the whole line was replaced. -/
theorem insert_of_present (present : inserted ≠ []) (position : Int) :
    buffer.insert position inserted = buffer.replace (buffer.spliced position inserted) :=
  if_neg (mt List.isEmpty_iff.mp present)

theorem insert_of_room (present : inserted ≠ [])
    (room : buffer.text.length + inserted.length ≤ buffer.width) (position : Int) :
    (buffer.insert position inserted).1 = true ∧
      (buffer.insert position inserted).2.text = buffer.spliced position inserted := by
  rw [← length_spliced buffer position] at room
  rw [insert_of_present present, replace_of_fits room]
  exact ⟨rfl, rfl⟩

theorem insert_of_no_room
    (excess : inserted = [] ∨ buffer.width < buffer.text.length + inserted.length)
    (position : Int) : buffer.insert position inserted = (false, buffer) := by
  by_cases present : inserted = []
  · rw [insert, if_pos (List.isEmpty_iff.mpr present)]
  · have tooLong := excess.resolve_left present
    rw [← length_spliced buffer position] at tooLong
    rw [insert_of_present present, replace_of_not_fits (Nat.not_le_of_lt tooLong)]

theorem insert_eq_false_iff :
    (buffer.insert position inserted).1 = false ↔
      inserted = [] ∨ buffer.width < buffer.text.length + inserted.length := by
  by_cases excess : inserted = [] ∨ buffer.width < buffer.text.length + inserted.length
  · rw [insert_of_no_room excess]
    exact iff_of_true rfl excess
  · rcases not_or.mp excess with ⟨present, short⟩
    rw [(insert_of_room present (Nat.le_of_not_lt short) position).1]
    exact iff_of_false Bool.noConfusion excess

/-- An insertion that is carried out puts the whole text in at one place and changes nothing else. -/
theorem text_insert_of_inserted (done : (buffer.insert position inserted).1 = true) :
    (buffer.insert position inserted).2.text = buffer.spliced position inserted := by
  by_cases excess : inserted = [] ∨ buffer.width < buffer.text.length + inserted.length
  · rw [insert_of_no_room excess] at done
    cases done
  · rcases not_or.mp excess with ⟨present, short⟩
    exact (insert_of_room present (Nat.le_of_not_lt short) position).2

/-- An insertion that is carried out makes the line longer by what was inserted. -/
theorem length_insert_of_inserted (done : (buffer.insert position inserted).1 = true) :
    (buffer.insert position inserted).2.length = buffer.length + inserted.length := by
  rw [length, text_insert_of_inserted done, length_spliced]
  rfl

end Insertion

section Deletion

variable {buffer : Buffer} {position : Int}

theorem delete_of_inside (inside : 0 ≤ position ∧ position < buffer.text.length) :
    (buffer.delete position).1 = true ∧
      (buffer.delete position).2.text = buffer.text.eraseIdx position.toNat := by
  have within : 0 ≤ position ∧ position < buffer.length := inside
  rw [delete, if_pos within]
  exact ⟨rfl, rfl⟩

theorem delete_of_outside (outside : ¬ (0 ≤ position ∧ position < buffer.text.length)) :
    buffer.delete position = (false, buffer) :=
  if_neg outside

theorem delete_eq_false_iff :
    (buffer.delete position).1 = false ↔ ¬ (0 ≤ position ∧ position < buffer.text.length) := by
  by_cases inside : 0 ≤ position ∧ position < buffer.text.length
  · rw [(delete_of_inside inside).1]
    exact iff_of_false Bool.noConfusion (not_not_intro inside)
  · rw [delete_of_outside inside]
    exact iff_of_true rfl inside

/-- The place of a character, as a position of the line. -/
theorem inside_of_lt {place : Nat} (inside : place < buffer.text.length) :
    0 ≤ (place : Int) ∧ (place : Int) < buffer.text.length :=
  ⟨Int.natCast_nonneg place, Int.ofNat_lt.mpr inside⟩

/-- Deleting behind a part of the line takes the next character out. -/
theorem text_delete_of_split {before behind : Text} {character : Char}
    (split : buffer.text = before ++ character :: behind) :
    (buffer.delete before.length).2.text = before ++ behind := by
  have inside : before.length < buffer.text.length := by
    rw [split, List.length_append]
    exact Nat.lt_add_of_pos_right (Nat.zero_lt_succ _)
  rw [(delete_of_inside (inside_of_lt inside)).2, Int.toNat_natCast, split,
    List.eraseIdx_append_of_length_le (Nat.le_refl _), Nat.sub_self]
  rfl

end Deletion

end Buffer

namespace Editor

/-! ## The cursor stays in the line -/

@[simp] theorem width_deleteHere (editor : Editor) :
    editor.deleteHere.buffer.width = editor.buffer.width :=
  Buffer.width_delete editor.buffer editor.cursor

@[simp] theorem width_settle (editor : Editor) :
    editor.settle.2.buffer.width = editor.buffer.width := by
  unfold settle
  split <;> rfl

@[simp] theorem width_type (editor : Editor) (key : Key) :
    (editor.type key).buffer.width = editor.buffer.width := by
  unfold type
  dsimp only
  split
  · exact Buffer.width_insert editor.buffer editor.cursor [key.toChar]
  · rfl

/-- Wherever the cursor was, settling leaves it in the line. -/
theorem settle_cursor_le (editor : Editor) :
    editor.settle.2.cursor ≤ editor.settle.2.buffer.length := by
  unfold settle
  split
  · exact Nat.le_refl _
  · rename_i inside
    exact Nat.le_of_not_lt inside

theorem type_cursor_le {editor : Editor} (inside : editor.cursor ≤ editor.buffer.length) (key : Key) :
    (editor.type key).cursor ≤ (editor.type key).buffer.length := by
  unfold type
  dsimp only
  split
  · rename_i done
    have longer := Buffer.length_insert_of_inserted done
    dsimp only
    rw [longer]
    simpa using inside
  · exact inside

/-- Editing never changes the width of the line. -/
theorem width_handle (editor : Editor) (key : Key) :
    (editor.handle key).2.buffer.width = editor.buffer.width := by
  unfold handle
  repeat' split
  all_goals simp

/-- A cursor in the line stays in the line, whatever the key. -/
theorem handle_cursor_le {editor : Editor} (inside : editor.cursor ≤ editor.buffer.length)
    (key : Key) : (editor.handle key).2.cursor ≤ (editor.handle key).2.buffer.length := by
  unfold handle
  split
  · exact Nat.zero_le _
  split
  · exact Nat.le_refl _
  split
  · exact Nat.le_trans (Nat.sub_le _ _) inside
  split
  · split
    · rename_i room
      exact Nat.le_of_lt room
    · exact inside
  split
  · exact settle_cursor_le _
  split
  · split <;> exact settle_cursor_le _
  split
  · exact inside
  split
  · exact type_cursor_le inside _
  · exact inside

/-- Editing starts with the cursor in the line. -/
theorem start_cursor_le (buffer : Buffer) (position : Option Int) :
    (start buffer position).cursor ≤ buffer.length :=
  Nat.min_le_right _ _

end Editor

namespace Serial

/-- Padding keeps to the width that it is given. -/
theorem length_pad_le (padding : Padding) {width : Nat} {text : Text} (fits : text.length ≤ width) :
    (pad padding (some width) text).length ≤ width := by
  unfold pad
  split
  · exact Nat.zero_le _
  · dsimp only
    split
    · split
      · exact fits
      · rename_i short
        exact Int.ofNat_le.mp (Int.not_lt.mp short)
    · exact fits

end Serial
end ContestExchange
