import ContestExchange.Proofs.Line

namespace ContestExchange
namespace Buffer

/-!
# Edits are whole

Whatever is built on an exchange line relies on two promises: the text never outgrows the width, and
no character gets lost on the way.  Both rest on the same design.  An edit is carried out with
everything that it asks for, or it is refused and the line stays as it is; what would fit only in
part is never cut to size.  `Edit.Does` says what each edit asks for, without counting on the line's
own operations, and a single case distinction shows that nothing else can happen.

A position of an insertion is clamped to the line and one of a deletion is not.  So an insertion is
refused only for its length and a deletion only for its place, and a deletion repeated at the
clamped position takes an insertion back.
-/

/-! ## Edits -/

/-- What can be asked of an exchange line. -/
inductive Edit where
  | append (inserted : Text)
  | insert (position : Int) (inserted : Text)
  | delete (position : Int)
  | pop
  | replace (text : Text)
  | clear
deriving DecidableEq

/-- What a line answers to an edit. -/
inductive Reply where
  | carriedOut (done : Bool)
  | taken (last : Option Char)
  | silence
deriving DecidableEq

/-- The answer to an edit, and the line after it. -/
def perform (buffer : Buffer) : Edit → Reply × Buffer
  | .append inserted => (buffer.append inserted).map .carriedOut id
  | .insert position inserted => (buffer.insert position inserted).map .carriedOut id
  | .delete position => (buffer.delete position).map .carriedOut id
  | .pop => buffer.pop.map .taken id
  | .replace text => (buffer.replace text).map .carriedOut id
  | .clear => (.silence, buffer.clear)

/-- The line after some edits, whatever it answered to them. -/
def performAll (buffer : Buffer) (edits : List Edit) : Buffer :=
  edits.foldl (fun buffer edit => (buffer.perform edit).2) buffer

/-- What an edit makes of a text if it is carried out, and what is answered. -/
inductive Edit.Does : Edit → Text → Reply → Text → Prop where
  | appended (text inserted : Text) :
      Does (.append inserted) text (.carriedOut true) (text ++ inserted)
  | inserted (position : Int) (before inserted behind : Text)
      (place : (before.length : Int) = max 0 (min position (before ++ behind).length)) :
      Does (.insert position inserted) (before ++ behind) (.carriedOut true)
        (before ++ inserted ++ behind)
  | deleted (before : Text) (character : Char) (behind : Text) :
      Does (.delete before.length) (before ++ character :: behind) (.carriedOut true)
        (before ++ behind)
  | popped (before : Text) (last : Char) : Does .pop (before ++ [last]) (.taken (some last)) before
  | poppedNothing : Does .pop [] (.taken none) []
  | replaced (text other : Text) : Does (.replace other) text (.carriedOut true) other
  | cleared (text : Text) : Does .clear text .silence []

/-! ## One edit -/

section Perform

variable {buffer : Buffer} {edit : Edit}

/-- A position cuts the line where an insertion puts its text. -/
theorem exists_cut (buffer : Buffer) (position : Int) :
    ∃ before behind, buffer.text = before ++ behind ∧
      (before.length : Int) = max 0 (min position buffer.text.length) ∧
      ∀ inserted, buffer.spliced position inserted = before ++ inserted ++ behind := by
  have inside : buffer.placeOf position ≤ buffer.text.length := Nat.min_le_right _ _
  refine ⟨_, _, (List.take_append_drop (buffer.placeOf position) buffer.text).symm, ?_,
    fun _ => rfl⟩
  rw [List.length_take_of_le inside, placeOf_eq]

theorem does_insert {position : Int} {inserted : Text}
    (done : (buffer.insert position inserted).1 = true) :
    (Edit.insert position inserted).Does buffer.text (.carriedOut true)
      (buffer.insert position inserted).2.text := by
  rcases buffer.exists_cut position with ⟨before, behind, cut, place, spliced⟩
  rw [cut] at place
  rw [text_insert_of_inserted done, spliced, cut]
  exact .inserted position before inserted behind place

theorem does_append {inserted : Text} (done : (buffer.append inserted).1 = true) :
    (Edit.append inserted).Does buffer.text (.carriedOut true)
      (buffer.append inserted).2.text := by
  have atEnd : buffer.placeOf buffer.length = buffer.text.length :=
    placeOf_of_inside (Nat.le_refl _)
  have text : (buffer.append inserted).2.text = buffer.text ++ inserted := by
    rw [append, text_insert_of_inserted done, spliced, atEnd, List.take_length, List.drop_length,
      List.append_nil]
  rw [text]
  exact .appended buffer.text inserted

theorem does_delete {position : Int} (done : (buffer.delete position).1 = true) :
    (Edit.delete position).Does buffer.text (.carriedOut true)
      (buffer.delete position).2.text := by
  have inside : 0 ≤ position ∧ position < buffer.text.length := by
    by_cases inside : 0 ≤ position ∧ position < buffer.text.length
    · exact inside
    · rw [delete_of_outside inside] at done
      cases done
  rcases Int.eq_ofNat_of_zero_le inside.1 with ⟨place, rfl⟩
  have room : place < buffer.text.length := Int.ofNat_lt.mp inside.2
  have before : (buffer.text.take place).length = place :=
    List.length_take_of_le (Nat.le_of_lt room)
  have split : buffer.text.take place ++ buffer.text[place] :: buffer.text.drop (place + 1) =
      buffer.text := by
    rw [List.getElem_cons_drop, List.take_append_drop]
  have does := Edit.Does.deleted (buffer.text.take place) buffer.text[place]
    (buffer.text.drop (place + 1))
  rw [← text_delete_of_split split.symm, split, before] at does
  exact does

theorem does_pop (buffer : Buffer) :
    Edit.pop.Does buffer.text (.taken buffer.pop.1) buffer.pop.2.text := by
  show Edit.pop.Does buffer.text (.taken buffer.text.getLast?) buffer.text.dropLast
  rcases List.eq_nil_or_concat buffer.text with empty | ⟨before, last, ends⟩
  · rw [empty]
    exact .poppedNothing
  · rw [ends, List.concat_eq_append, List.getLast?_concat, List.dropLast_concat]
    exact .popped before last

theorem does_replace {text : Text} (done : (buffer.replace text).1 = true) :
    (Edit.replace text).Does buffer.text (.carriedOut true) (buffer.replace text).2.text := by
  by_cases fits : text.length ≤ buffer.width
  · rw [replace_of_fits fits]
    exact .replaced buffer.text text
  · rw [replace_of_not_fits fits] at done
    cases done

/-- An edit that is carried out is never answered like one that is refused. -/
theorem Edit.Does.reply_ne {text other : Text} {reply : Reply} (does : edit.Does text reply other) :
    reply ≠ .carriedOut false := by
  cases does <;> exact nofun

/-- An operation that tells whether it was carried out comes to one of the two cases. -/
theorem whole_of {result : Bool × Buffer}
    (refused : result.1 = false → result = (false, buffer))
    (does : result.1 = true → edit.Does buffer.text (.carriedOut true) result.2.text) :
    result.map Reply.carriedOut id = (.carriedOut false, buffer) ∨
      edit.Does buffer.text (result.map Reply.carriedOut id).1
        (result.map Reply.carriedOut id).2.text := by
  cases answer : result.1 with
  | false => exact Or.inl (congrArg (Prod.map Reply.carriedOut id) (refused answer))
  | true =>
      have reply : (result.map Reply.carriedOut id).1 = .carriedOut true :=
        congrArg Reply.carriedOut answer
      rw [reply]
      exact Or.inr (does answer)

/-- An edit does what it asks for, or is refused and leaves the line. -/
theorem perform_cases (buffer : Buffer) (edit : Edit) :
    buffer.perform edit = (.carriedOut false, buffer) ∨
      edit.Does buffer.text (buffer.perform edit).1 (buffer.perform edit).2.text := by
  cases edit with
  | append inserted =>
      exact whole_of (fun refused => insert_of_no_room (insert_eq_false_iff.mp refused) _)
        does_append
  | insert position inserted =>
      exact whole_of (fun refused => insert_of_no_room (insert_eq_false_iff.mp refused) _)
        does_insert
  | delete position =>
      exact whole_of (fun refused => delete_of_outside (delete_eq_false_iff.mp refused)) does_delete
  | pop => exact Or.inr (does_pop buffer)
  | replace text =>
      refine whole_of (fun refused => replace_of_not_fits ?_) does_replace
      exact Nat.not_le_of_lt (replace_eq_false_iff.mp refused)
  | clear => exact Or.inr (.cleared buffer.text)

theorem perform_of_refused (refused : (buffer.perform edit).1 = .carriedOut false) :
    (buffer.perform edit).2 = buffer := by
  rcases buffer.perform_cases edit with whole | does
  · exact congrArg Prod.snd whole
  · exact absurd refused does.reply_ne

theorem does_of_not_refused (carriedOut : (buffer.perform edit).1 ≠ .carriedOut false) :
    edit.Does buffer.text (buffer.perform edit).1 (buffer.perform edit).2.text := by
  rcases buffer.perform_cases edit with whole | does
  · exact absurd (congrArg Prod.fst whole) carriedOut
  · exact does

theorem width_perform (buffer : Buffer) (edit : Edit) :
    (buffer.perform edit).2.width = buffer.width := by
  cases edit with
  | append inserted => exact width_append buffer inserted
  | insert position inserted => exact width_insert buffer position inserted
  | delete position => exact width_delete buffer position
  | pop => rfl
  | replace text => exact width_replace buffer text
  | clear => rfl

end Perform

/-! ## Rows of edits -/

section PerformAll

theorem width_performAll (buffer : Buffer) (edits : List Edit) :
    (buffer.performAll edits).width = buffer.width := by
  induction edits generalizing buffer with
  | nil => rfl
  | cons edit rest inductionHypothesis =>
      exact (inductionHypothesis (buffer.perform edit).2).trans (width_perform buffer edit)

/-- Deleting behind a part of the line, again and again, takes out what follows that part. -/
theorem text_performAll_delete {buffer : Buffer} {before inserted behind : Text}
    (split : buffer.text = before ++ (inserted ++ behind)) :
    (buffer.performAll (List.replicate inserted.length (.delete before.length))).text =
      before ++ behind := by
  -- The place does not move: what follows a deleted character comes up to it.
  induction inserted generalizing buffer with
  | nil => exact split
  | cons first rest inductionHypothesis =>
      rw [List.length_cons, List.replicate_succ]
      exact inductionHypothesis (text_delete_of_split split)

theorem eq_of_text {first second : Buffer} (width : first.width = second.width)
    (text : first.text = second.text) : first = second := by
  rcases first with ⟨firstWidth, firstText, _⟩
  cases width
  cases text
  rfl

/-- An insertion that is carried out cuts the line at the clamped position.  As many deletions there
as characters were inserted give the line back. -/
theorem exists_cut_of_inserted {buffer : Buffer} {position : Int} {inserted : Text}
    (done : (buffer.insert position inserted).1 = true) :
    ∃ before behind, buffer.text = before ++ behind ∧
      (before.length : Int) = max 0 (min position buffer.text.length) ∧
      (buffer.insert position inserted).2.text = before ++ inserted ++ behind ∧
      (buffer.insert position inserted).2.performAll
        (List.replicate inserted.length (.delete before.length)) = buffer := by
  rcases buffer.exists_cut position with ⟨before, behind, cut, place, spliced⟩
  have longer := (text_insert_of_inserted done).trans (spliced inserted)
  refine ⟨before, behind, cut, place, longer, ?_⟩
  rw [List.append_assoc] at longer
  have back := (text_performAll_delete longer).trans cut.symm
  exact eq_of_text ((width_performAll _ _).trans (width_insert buffer position inserted)) back

end PerformAll

/-! ## A line that is edited -/

/-- An edited line stays in its width, and each edit is carried out as a whole or not at all.  What
is refused is told by its length or its position alone. -/
theorem edits_whole_or_refused {width : Int} {text : Text} (positive : 1 ≤ width)
    (fits : (text.length : Int) ≤ width) :
    ∃ buffer, create width text = .ok buffer ∧ buffer.text = text ∧ ∀ edits : List Edit,
      let line := buffer.performAll edits
      (line.text.length : Int) ≤ width ∧
        (∀ edit, (line.perform edit).1 = .carriedOut false → (line.perform edit).2 = line) ∧
        (∀ edit, (line.perform edit).1 ≠ .carriedOut false →
          edit.Does line.text (line.perform edit).1 (line.perform edit).2.text) ∧
        (∀ position inserted, (line.insert position inserted).1 = true →
          ∃ before behind, line.text = before ++ behind ∧
            (before.length : Int) = max 0 (min position line.text.length) ∧
            (line.insert position inserted).2.text = before ++ inserted ++ behind ∧
            (line.insert position inserted).2.performAll
              (List.replicate inserted.length (.delete before.length)) = line) ∧
        (∀ position inserted, (line.insert position inserted).1 = false ↔
          inserted = [] ∨ width < line.text.length + inserted.length) ∧
        (∀ inserted, (line.append inserted).1 = false ↔
          inserted = [] ∨ width < line.text.length + inserted.length) ∧
        (∀ position, (line.delete position).1 = false ↔
          ¬ (0 ≤ position ∧ position ≤ (line.text.length : Int) - 1)) ∧
        (∀ other, (line.replace other).1 = false ↔ width < other.length) := by
  rcases create_of_fits positive fits with ⟨buffer, created, wide, same⟩
  refine ⟨buffer, created, same, fun edits => ?_⟩
  intro line
  have kept : line.width = buffer.width := width_performAll buffer edits
  have wideLine : (line.width : Int) = width := by rw [kept, wide]
  have insertion (position : Int) (inserted : Text) :
      (line.insert position inserted).1 = false ↔
        inserted = [] ∨ width < line.text.length + inserted.length := by
    rw [insert_eq_false_iff, ← wideLine, ← Int.natCast_add, Int.ofNat_lt]
  refine ⟨?_, fun _ => perform_of_refused, fun _ => does_of_not_refused,
    fun _ _ => exists_cut_of_inserted, insertion, insertion line.length, ?_, ?_⟩
  · rw [← wideLine]
    exact Int.ofNat_le.mpr line.fits
  · intro position
    rw [delete_eq_false_iff, Int.le_sub_one_iff]
  · intro other
    rw [replace_eq_false_iff, ← wideLine, Int.ofNat_lt]

/-- An insertion that fills the line to its width is taken back by two deletions. -/
theorem edits_whole_or_refused_at_width :
    (1 : Int) ≤ 5 ∧ ((Text.ofString "14").length : Int) ≤ 5 ∧
      ∃ buffer, create 5 (Text.ofString "14") = .ok buffer ∧
        let line := buffer.performAll [.insert (-3) (Text.ofString "0"),
          .append (Text.ofString "XYZ"), .replace (Text.ofString "123456"), .delete 3]
        line.text = Text.ofString "014" ∧
          (line.insert 7 (Text.ofString "AB")).2.text = Text.ofString "014AB" ∧
          (line.insert 7 (Text.ofString "AB")).2.performAll [.delete 3, .delete 3] = line ∧
          (line.insert 0 (Text.ofString "ABC")).1 = false ∧
          (line.delete (-1)).1 = false := by
  have positive : (1 : Int) ≤ 5 := by decide
  have fits : ((Text.ofString "14").length : Int) ≤ 5 := by decide
  rcases edits_whole_or_refused positive fits with ⟨buffer, created, _, whole⟩
  have start : buffer = ⟨5, Text.ofString "14", by decide⟩ := (Except.ok.inj created).symm
  have reached : buffer.performAll [.insert (-3) (Text.ofString "0"),
      .append (Text.ofString "XYZ"), .replace (Text.ofString "123456"), .delete 3] =
        ⟨5, Text.ofString "014", by decide⟩ := by
    rw [start]
    rfl
  have facts := whole [.insert (-3) (Text.ofString "0"), .append (Text.ofString "XYZ"),
    .replace (Text.ofString "123456"), .delete 3]
  rw [reached] at facts
  refine ⟨positive, fits, buffer, created, ?_⟩
  rw [reached]
  rcases facts with ⟨_, _, _, cuts, insertion, _, deletion, _⟩
  rcases cuts 7 (Text.ofString "AB") (by decide) with ⟨before, _, _, place, _, back⟩
  rw [place] at back
  refine ⟨rfl, by decide, back, ?_, ?_⟩
  · exact (insertion 0 (Text.ofString "ABC")).mpr (Or.inr (by decide))
  · exact (deletion (-1)).mpr (by decide)

end Buffer
end ContestExchange
