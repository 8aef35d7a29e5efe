import ContestExchange.Proofs.Line

namespace ContestExchange

/-!
# The cursor as a cut

An editor counts how many characters stand before its cursor, and every key changes the count and
the line one after the other.  What the keys are meant to do is easier to say without a count: the
cursor cuts the line in two, and a key moves a character across the cut or changes the end of a part
that the cut touches.  The two descriptions have to stay in step at both ends of the line, on a full
and on an empty one, and that is what is shown here for every row of keys.

Counting from the cut leaves no place outside the line.  So a deletion never leaves the cursor
behind the end, and the editor's own precaution against it is not needed while nothing but keys
changes the line.
-/

/-- A line that is cut in two. -/
structure SplitLine where
  before : Text
  behind : Text
deriving DecidableEq

namespace SplitLine

/-! ## Changes at the cut -/

/-- The whole line. -/
def text (line : SplitLine) : Text := line.before ++ line.behind

/-- The cut before all characters. -/
def toStart (line : SplitLine) : SplitLine := ⟨[], line.text⟩

/-- The cut behind all characters. -/
def toEnd (line : SplitLine) : SplitLine := ⟨line.text, []⟩

/-- The cut one character further left, if there is one. -/
def back (line : SplitLine) : SplitLine :=
  match line.before.getLast? with
  | some last => ⟨line.before.dropLast, last :: line.behind⟩
  | none => line

/-- The cut one character further right, if a character stays behind it. -/
def forward (line : SplitLine) : SplitLine :=
  match line.behind with
  | first :: second :: rest => ⟨line.before ++ [first], second :: rest⟩
  | _ => line

/-- The line without the character behind the cut. -/
def dropNext (line : SplitLine) : SplitLine := ⟨line.before, line.behind.tail⟩

/-- The line without the character before the cut. -/
def dropPrevious (line : SplitLine) : SplitLine := ⟨line.before.dropLast, line.behind⟩

/-- The line with one more character before the cut, if it has room for it. -/
def typed (width : Nat) (character : Char) (line : SplitLine) : SplitLine :=
  if line.text.length < width then ⟨line.before ++ [character], line.behind⟩ else line

/-- What a key does to a line that is cut at the cursor. -/
def press (width : Nat) (line : SplitLine) (key : Key) : SplitLine :=
  if key = .home ∨ key = .ctrlA then line.toStart
  else if key = .endKey ∨ key = .ctrlE then line.toEnd
  else if key = .left then line.back
  else if key = .right then line.forward
  else if key = .delete then line.dropNext
  else if key = .backspace then line.dropPrevious
  else if key.promote.isTyped then line.typed width key.promote.toChar
  else line

/-- A single character stays behind the cut. -/
theorem forward_of_few {line : SplitLine} (few : ¬ 1 < line.behind.length) :
    line.forward = line := by
  unfold forward
  split
  · rename_i first second rest behind
    rw [behind] at few
    exact absurd (Nat.succ_lt_succ (Nat.zero_lt_succ rest.length)) few
  · rfl

theorem exists_forward {line : SplitLine} (many : 1 < line.behind.length) :
    ∃ first rest, line.behind = first :: rest ∧
      line.forward = ⟨line.before ++ [first], rest⟩ := by
  unfold forward
  split
  · rename_i first second rest behind
    exact ⟨first, second :: rest, behind, rfl⟩
  · rename_i few
    rcases line with ⟨before, _ | ⟨first, _ | ⟨second, rest⟩⟩⟩
    · exact absurd many (Nat.not_lt_zero 1)
    · exact absurd many (Nat.lt_irrefl 1)
    · exact absurd rfl (few first second rest)

theorem dropNext_back {line : SplitLine} (present : line.before ≠ []) :
    line.back.dropNext = line.dropPrevious := by
  rcases List.eq_nil_or_concat line.before with empty | ⟨front, last, ends⟩
  · exact absurd empty present
  · rw [List.concat_eq_append] at ends
    simp only [back, dropNext, dropPrevious, ends, List.getLast?_concat, List.dropLast_concat,
      List.tail_cons]

end SplitLine

/-! ## Single changes of a line -/

namespace Buffer

theorem delete_place_of_inside {buffer : Buffer} {place : Nat}
    (inside : place < buffer.text.length) :
    (buffer.delete place).1 = true ∧
      (buffer.delete place).2.text = buffer.text.eraseIdx place :=
  delete_of_inside (inside_of_lt inside)

theorem delete_place_of_outside {buffer : Buffer} {place : Nat}
    (outside : buffer.text.length ≤ place) : buffer.delete place = (false, buffer) := by
  apply delete_of_outside
  rintro ⟨_, inside⟩
  exact Nat.not_lt_of_le outside (Int.ofNat_lt.mp inside)

theorem spliced_char {buffer : Buffer} {place : Nat} (inside : place ≤ buffer.text.length)
    (character : Char) :
    buffer.spliced place [character] =
      buffer.text.take place ++ character :: buffer.text.drop place := by
  rw [spliced, placeOf_of_inside inside, List.append_assoc, List.singleton_append]

theorem insert_char_of_room {buffer : Buffer} {place : Nat} (inside : place ≤ buffer.text.length)
    (room : buffer.text.length < buffer.width) (character : Char) :
    (buffer.insert place [character]).1 = true ∧
      (buffer.insert place [character]).2.text =
        buffer.text.take place ++ character :: buffer.text.drop place := by
  rw [← spliced_char inside]
  exact insert_of_room (List.cons_ne_nil character []) room place

theorem insert_char_of_full {buffer : Buffer} (full : ¬ buffer.text.length < buffer.width)
    (place : Nat) (character : Char) : buffer.insert place [character] = (false, buffer) :=
  insert_of_no_room (Or.inr (Nat.lt_succ_of_le (Nat.le_of_not_lt full))) place

end Buffer

namespace Editor

/-- The line cut at the cursor. -/
def split (editor : Editor) : SplitLine :=
  ⟨editor.buffer.text.take editor.cursor, editor.buffer.text.drop editor.cursor⟩

/-! ## An editor and its cut line -/

/-- Whether an editor has the line of two parts, and its cursor where they meet. -/
structure Cuts (editor : Editor) (line : SplitLine) : Prop where
  text : editor.buffer.text = line.text
  cursor : editor.cursor = line.before.length

section Cuts

variable {editor : Editor} {line : SplitLine} {key : Key}

theorem cuts_split (inside : editor.cursor ≤ editor.buffer.length) : editor.Cuts editor.split :=
  ⟨(List.take_append_drop _ _).symm, (List.length_take_of_le inside).symm⟩

theorem Cuts.split_eq (cuts : editor.Cuts line) : editor.split = line := by
  rcases cuts with ⟨text, cursor⟩
  rw [split, text, cursor, SplitLine.text, List.take_left, List.drop_left]

theorem Cuts.inside (cuts : editor.Cuts line) : editor.cursor ≤ editor.buffer.text.length := by
  rw [cuts.text, cuts.cursor, SplitLine.text, List.length_append]
  exact Nat.le_add_right _ _

/-- A cursor at the cut need not be brought back. -/
theorem Cuts.settle (cuts : editor.Cuts line) : editor.settle = (true, editor) := by
  have inside : ¬ editor.buffer.length < editor.cursor := Nat.not_lt_of_le cuts.inside
  rw [Editor.settle, if_neg inside]

theorem Cuts.toStart (cuts : editor.Cuts line) :
    ({ editor with cursor := 0 } : Editor).Cuts line.toStart :=
  ⟨cuts.text, rfl⟩

theorem Cuts.toEnd (cuts : editor.Cuts line) :
    ({ editor with cursor := editor.buffer.length } : Editor).Cuts line.toEnd := by
  refine ⟨?_, congrArg List.length cuts.text⟩
  rw [SplitLine.toEnd, SplitLine.text, List.append_nil]
  exact cuts.text

theorem Cuts.back (cuts : editor.Cuts line) :
    ({ editor with cursor := editor.cursor - 1 } : Editor).Cuts line.back := by
  rcases cuts with ⟨text, cursor⟩
  rcases List.eq_nil_or_concat line.before with empty | ⟨front, last, ends⟩
  · have stays : line.back = line := by rw [SplitLine.back, empty]; rfl
    rw [stays]
    refine ⟨text, ?_⟩
    rw [cursor, empty]
    rfl
  · rw [List.concat_eq_append] at ends
    have moves : line.back = ⟨front, last :: line.behind⟩ := by
      simp only [SplitLine.back, ends, List.getLast?_concat, List.dropLast_concat]
    rw [moves]
    constructor
    · rw [SplitLine.text, ends, ← List.append_cons] at text
      exact text
    · rw [cursor, ends, List.length_append]
      rfl

theorem Cuts.forward (cuts : editor.Cuts line) :
    (if editor.cursor + 1 < editor.buffer.length then { editor with cursor := editor.cursor + 1 }
      else editor : Editor).Cuts line.forward := by
  rcases cuts with ⟨text, cursor⟩
  have room : editor.cursor + 1 < editor.buffer.length ↔ 1 < line.behind.length := by
    rw [Buffer.length, text, cursor, SplitLine.text, List.length_append, Nat.add_lt_add_iff_left]
  by_cases two : 1 < line.behind.length
  · rw [if_pos (room.mpr two)]
    rcases SplitLine.exists_forward two with ⟨first, rest, behind, moves⟩
    rw [moves]
    constructor
    · rw [SplitLine.text, ← List.append_cons, ← behind]
      exact text
    · rw [List.length_append, ← cursor]
      rfl
  · rw [if_neg (mt room.mp two), SplitLine.forward_of_few two]
    exact ⟨text, cursor⟩

theorem Cuts.deleteHere (cuts : editor.Cuts line) : editor.deleteHere.Cuts line.dropNext := by
  rcases cuts with ⟨text, cursor⟩
  refine ⟨?_, cursor⟩
  cases behind : line.behind with
  | nil =>
      have outside : editor.buffer.text.length ≤ editor.cursor := by
        apply Nat.le_of_eq
        rw [text, cursor, SplitLine.text, behind, List.append_nil]
      have stays : editor.deleteHere.buffer = editor.buffer := by
        simp only [Editor.deleteHere, Buffer.delete_place_of_outside outside]
      rw [stays, text, SplitLine.dropNext, SplitLine.text, SplitLine.text, behind]
      rfl
  | cons first rest =>
      have split : editor.buffer.text = line.before ++ first :: rest := by
        rw [text, SplitLine.text, behind]
      have deleted := Buffer.text_delete_of_split split
      rw [← cursor] at deleted
      rw [SplitLine.dropNext, SplitLine.text, behind]
      exact deleted

theorem Cuts.type (cuts : editor.Cuts line) (key : Key) :
    (editor.type key).Cuts (line.typed editor.buffer.width key.toChar) := by
  have inside := cuts.inside
  have parts := cuts.split_eq
  rw [SplitLine.typed, ← cuts.text]
  by_cases room : editor.buffer.text.length < editor.buffer.width
  · rcases Buffer.insert_char_of_room inside room key.toChar with ⟨done, text⟩
    unfold Editor.type
    dsimp only
    rw [if_pos room, if_pos done]
    constructor
    · rw [text, ← parts, SplitLine.text, ← List.append_cons]
      rfl
    · rw [List.length_append, cuts.cursor]
      rfl
  · rw [if_neg room, Editor.type, Buffer.insert_char_of_full room]
    exact cuts

/-! ## One key -/

/-- What Backspace leaves, before the editor looks whether the cursor is still in the line. -/
def erase (editor : Editor) : Editor :=
  if editor.cursor = 0 then editor else { editor with cursor := editor.cursor - 1 }.deleteHere

theorem handle_delete (editor : Editor) : editor.handle .delete = editor.deleteHere.settle := rfl

theorem handle_backspace (editor : Editor) : editor.handle .backspace = editor.erase.settle := by
  show (if editor.cursor = 0 then editor.settle
    else ({ editor with cursor := editor.cursor - 1 } : Editor).deleteHere.settle) = _
  rw [erase]
  split
  · rfl
  · rfl

theorem Cuts.erase (cuts : editor.Cuts line) : editor.erase.Cuts line.dropPrevious := by
  unfold Editor.erase
  split
  · rename_i start
    have nothing : line.before = [] := List.eq_nil_of_length_eq_zero (cuts.cursor.symm.trans start)
    have stays : line.dropPrevious = line := by
      rw [SplitLine.dropPrevious, nothing]
      exact congrArg (SplitLine.mk · line.behind) nothing.symm
    rw [stays]
    exact cuts
  · rename_i present
    have before : line.before ≠ [] := by
      intro nothing
      rw [cuts.cursor, nothing] at present
      exact present rfl
    rw [← SplitLine.dropNext_back before]
    exact cuts.back.deleteHere

theorem Cuts.handle_delete (cuts : editor.Cuts line) :
    editor.handle .delete = (true, editor.deleteHere) := by
  rw [Editor.handle_delete]
  exact cuts.deleteHere.settle

theorem Cuts.handle_backspace (cuts : editor.Cuts line) :
    editor.handle .backspace = (true, editor.erase) := by
  rw [Editor.handle_backspace]
  exact cuts.erase.settle

/-- Every key does to the editor what it does to the line that is cut at the cursor. -/
theorem Cuts.handle (cuts : editor.Cuts line) (key : Key) :
    (editor.handle key).2.Cuts (line.press editor.buffer.width key) := by
  by_cases delete : key = .delete
  · rw [delete, cuts.handle_delete]
    exact cuts.deleteHere
  by_cases backspace : key = .backspace
  · rw [backspace, cuts.handle_backspace]
    exact cuts.erase
  unfold Editor.handle SplitLine.press
  rw [if_neg delete, if_neg backspace, if_neg delete, if_neg backspace]
  by_cases home : key = .home ∨ key = .ctrlA
  · rw [if_pos home, if_pos home.symm]
    exact cuts.toStart
  rw [if_neg home, if_neg (mt Or.symm home)]
  by_cases goesToEnd : key = .endKey ∨ key = .ctrlE
  · rw [if_pos goesToEnd, if_pos goesToEnd.symm]
    exact cuts.toEnd
  rw [if_neg goesToEnd, if_neg (mt Or.symm goesToEnd)]
  by_cases left : key = .left
  · rw [if_pos left, if_pos left]
    exact cuts.back
  rw [if_neg left, if_neg left]
  by_cases right : key = .right
  · rw [if_pos right, if_pos right]
    have forward := cuts.forward
    split at forward
    · rename_i room
      rw [if_pos room]
      exact forward
    · rename_i last
      rw [if_neg last]
      exact forward
  rw [if_neg right, if_neg right]
  by_cases escape : key = .escape
  · subst escape
    exact cuts
  rw [if_neg escape]
  by_cases types : key.promote.isTyped = true
  · rw [if_pos types, if_pos types]
    exact cuts.type key.promote
  · rw [if_neg types, if_neg types]
    exact cuts

/-! ## Whether a key has changed the line -/

/-- Whether an editor notes a change exactly where it had noted one or the text is another now. -/
def Notes (editor next : Editor) : Prop :=
  next.changed = true ↔ editor.changed = true ∨ next.buffer.text ≠ editor.buffer.text

theorem notes_of_kept {next : Editor} (changed : next.changed = editor.changed)
    (text : next.buffer.text = editor.buffer.text) : editor.Notes next := by
  rw [Notes, changed, text]
  simp only [ne_eq, not_true_eq_false, or_false]

theorem notes_of_resized {next : Editor} (changed : next.changed = true)
    (resized : next.buffer.text.length ≠ editor.buffer.text.length) : editor.Notes next :=
  iff_of_true changed (Or.inr fun same => resized (congrArg List.length same))

theorem notes_deleteHere (editor : Editor) : editor.Notes editor.deleteHere := by
  by_cases inside : editor.cursor < editor.buffer.text.length
  · rcases Buffer.delete_place_of_inside inside with ⟨done, text⟩
    apply notes_of_resized
    · show (editor.changed || (editor.buffer.delete editor.cursor).1) = true
      rw [done, Bool.or_true]
    · show (editor.buffer.delete editor.cursor).2.text.length ≠ editor.buffer.text.length
      rw [text, List.length_eraseIdx_of_lt inside]
      omega
  · have kept : editor.deleteHere = editor := by
      simp only [Editor.deleteHere, Buffer.delete_place_of_outside (Nat.le_of_not_lt inside),
        Bool.or_false]
    rw [kept]
    exact notes_of_kept rfl rfl

theorem notes_erase (editor : Editor) : editor.Notes editor.erase := by
  unfold Editor.erase
  split
  · exact notes_of_kept rfl rfl
  · exact notes_deleteHere { editor with cursor := editor.cursor - 1 }

theorem Cuts.notes_type (cuts : editor.Cuts line) (key : Key) : editor.Notes (editor.type key) := by
  unfold Editor.type
  dsimp only
  by_cases room : editor.buffer.text.length < editor.buffer.width
  · have done := (Buffer.insert_char_of_room cuts.inside room key.toChar).1
    rw [if_pos done]
    apply notes_of_resized
    · rfl
    · have longer := Buffer.length_insert_of_inserted done
      exact fun same => Nat.succ_ne_self _ (longer.symm.trans same)
  · rw [Buffer.insert_char_of_full room]
    exact notes_of_kept rfl rfl

theorem Cuts.notes_handle (cuts : editor.Cuts line) (key : Key) :
    editor.Notes (editor.handle key).2 := by
  by_cases delete : key = .delete
  · rw [delete, cuts.handle_delete]
    exact notes_deleteHere editor
  by_cases backspace : key = .backspace
  · rw [backspace, cuts.handle_backspace]
    exact notes_erase editor
  unfold Editor.handle
  rw [if_neg delete, if_neg backspace]
  split
  · exact notes_of_kept rfl rfl
  split
  · exact notes_of_kept rfl rfl
  split
  · exact notes_of_kept rfl rfl
  split
  · split
    · exact notes_of_kept rfl rfl
    · exact notes_of_kept rfl rfl
  split
  · exact notes_of_kept rfl rfl
  split
  · exact cuts.notes_type key.promote
  · exact notes_of_kept rfl rfl

end Cuts

/-! ## Rows of keys -/

/-- The editor after some keys, whatever it answered to them. -/
def after (editor : Editor) (keys : List Key) : Editor :=
  keys.foldl (fun editor key => (editor.handle key).2) editor

/-- Whether one of some keys changes the text. -/
def SomeKeyChanges (editor : Editor) (keys : List Key) : Prop :=
  ∃ before key behind, keys = before ++ key :: behind ∧
    ((editor.after before).handle key).2.buffer.text ≠ (editor.after before).buffer.text

theorem someKeyChanges_cons {editor : Editor} {key : Key} {keys : List Key} :
    editor.SomeKeyChanges (key :: keys) ↔
      (editor.handle key).2.buffer.text ≠ editor.buffer.text ∨
        (editor.handle key).2.SomeKeyChanges keys := by
  constructor
  · rintro ⟨before, last, behind, row, changes⟩
    cases before with
    | nil =>
        cases row
        exact Or.inl changes
    | cons first others =>
        cases row
        exact Or.inr ⟨others, last, behind, rfl, changes⟩
  · rintro (here | ⟨before, last, behind, row, changes⟩)
    · exact ⟨[], key, keys, rfl, here⟩
    · exact ⟨key :: before, last, behind, congrArg (key :: ·) row, changes⟩

section After

variable {editor : Editor} {line : SplitLine}

theorem width_after (editor : Editor) (keys : List Key) :
    (editor.after keys).buffer.width = editor.buffer.width := by
  induction keys generalizing editor with
  | nil => rfl
  | cons key keys inductionHypothesis =>
      exact (inductionHypothesis (editor.handle key).2).trans (editor.width_handle key)

theorem Cuts.after (cuts : editor.Cuts line) (keys : List Key) :
    (editor.after keys).Cuts (keys.foldl (SplitLine.press editor.buffer.width) line) := by
  induction keys generalizing editor line with
  | nil => exact cuts
  | cons key keys inductionHypothesis =>
      have later := inductionHypothesis (cuts.handle key)
      rw [width_handle] at later
      exact later

theorem Cuts.changed_after (cuts : editor.Cuts line) (keys : List Key) :
    (editor.after keys).changed = true ↔
      editor.changed = true ∨ editor.SomeKeyChanges keys := by
  induction keys generalizing editor line with
  | nil =>
      have none : ¬ editor.SomeKeyChanges [] := by
        rintro ⟨before, key, behind, row, _⟩
        exact List.append_ne_nil_of_right_ne_nil before (List.cons_ne_nil key behind) row.symm
      exact (or_iff_left none).symm
  | cons key keys inductionHypothesis =>
      have later := inductionHypothesis (cuts.handle key)
      rw [someKeyChanges_cons, ← or_assoc]
      exact later.trans (or_congr_left (cuts.notes_handle key))

end After

/-- Keys do to an editor what they do to a line that is cut at its cursor.  The cursor stays in the
line, a deletion never leaves it behind the end, and a change is noted exactly if a key made one. -/
theorem keys_act_on_split_line (buffer : Buffer) (position : Option Int) (keys : List Key) :
    let editor := (start buffer position).after keys
    (editor.cursor ≤ editor.buffer.length ∧ editor.buffer.length ≤ buffer.width ∧
        editor.buffer.width = buffer.width) ∧
      editor.split = keys.foldl (SplitLine.press buffer.width) (start buffer position).split ∧
      (∀ key, (editor.handle key).2.split = editor.split.press buffer.width key) ∧
      (editor.handle .delete = (true, editor.deleteHere) ∧
        editor.handle .backspace = (true, editor.erase)) ∧
      (editor.changed = true ↔ (start buffer position).SomeKeyChanges keys) := by
  intro editor
  have started : (start buffer position).Cuts (start buffer position).split :=
    cuts_split (start_cursor_le buffer position)
  have cuts := started.after keys
  have width : editor.buffer.width = buffer.width := width_after (start buffer position) keys
  refine ⟨⟨cuts.inside, ?_, width⟩, cuts.split_eq, ?_, ⟨cuts.handle_delete, cuts.handle_backspace⟩,
    ?_⟩
  · rw [← width]
    exact editor.buffer.fits
  · intro key
    rw [cuts.split_eq, (cuts.handle key).split_eq, width]
  · rw [started.changed_after keys]
    exact or_iff_right Bool.false_ne_true

/-- A full line takes no further character, and the last character of a line is not passed. -/
example :
    ((start ⟨3, Text.ofString "ABC", by decide⟩ none).after
      [.home, .ofChar 'x', .delete, .ofChar 'x', .right, .right, .right]).split =
        ⟨Text.ofString "XB", Text.ofString "C"⟩ := by
  decide

end Editor
end ContestExchange
