import ContestExchange.Proofs.SerialPadding
import Mathlib.Data.List.Infix

namespace ContestExchange

/-!
# The text under a template

Where a template lies on the marked line, the text has a character for each of its symbols, and the
characters are of these kinds.  The first symbol is a delimiter that is cut off.  A border is the
only symbol without a character, so a template that ends on the border covers the rest of the text
and has one symbol more.

The place of a template is also the last one: the template starts nowhere behind it.  That bounds
what can follow it.  Three figures in a row, say, are not followed by a fourth, or they would have
been found one place further on.
-/

/-! ## The rightmost place -/

section Search

variable {Mark : Type} [DecidableEq Mark] {pattern line : List Mark} {place : Nat}

theorem isPrefix_of_lastOccurrence? (found : lastOccurrence? pattern line = some place) :
    pattern <+: line.drop place := by
  induction line generalizing place with
  | nil =>
      rw [lastOccurrence?] at found
      split at found
      · rename_i empty
        rw [List.isEmpty_iff.mp empty]
        exact List.nil_prefix
      · cases found
  | cons mark rest inductionHypothesis =>
      rw [lastOccurrence?] at found
      cases later : lastOccurrence? pattern rest with
      | some offset =>
          rw [later] at found
          cases found
          exact inductionHypothesis later
      | none =>
          rw [later] at found
          dsimp only at found
          split at found
          · rename_i begins
            cases found
            exact List.isPrefixOf_iff_prefix.mp begins
          · cases found

theorem not_isPrefix_of_lastOccurrence?_eq_none (nonempty : pattern ≠ [])
    (absent : lastOccurrence? pattern line = none) (place : Nat) :
    ¬ pattern <+: line.drop place := by
  induction line generalizing place with
  | nil =>
      rw [List.drop_nil, List.prefix_nil]
      exact nonempty
  | cons mark rest inductionHypothesis =>
      rw [lastOccurrence?] at absent
      cases later : lastOccurrence? pattern rest with
      | some offset =>
          rw [later] at absent
          cases absent
      | none =>
          rw [later] at absent
          dsimp only at absent
          split at absent
          · cases absent
          · rename_i notHere
            cases place with
            | zero => exact mt List.isPrefixOf_iff_prefix.mpr notHere
            | succ place => exact inductionHypothesis later place

/-- Behind its rightmost place a pattern does not start again. -/
theorem not_isPrefix_behind (nonempty : pattern ≠ [])
    (found : lastOccurrence? pattern line = some place) {later : Nat} (behind : place < later) :
    ¬ pattern <+: line.drop later := by
  induction line generalizing place later with
  | nil =>
      rw [List.drop_nil, List.prefix_nil]
      exact nonempty
  | cons mark rest inductionHypothesis =>
      cases later with
      | zero => exact absurd behind (Nat.not_lt_zero place)
      | succ later =>
          rw [lastOccurrence?] at found
          rw [List.drop_succ_cons]
          cases further : lastOccurrence? pattern rest with
          | some offset =>
              rw [further] at found
              cases found
              exact inductionHypothesis further (Nat.lt_of_succ_lt_succ behind)
          | none => exact not_isPrefix_of_lastOccurrence?_eq_none nonempty further later

theorem lastOccurrence?_of_locate (found : locate line pattern = some place) :
    pattern ≠ [] ∧ lastOccurrence? pattern line = some place := by
  rw [locate] at found
  split at found
  · cases found
  · rename_i present
    exact ⟨mt List.isEmpty_iff.mpr present, found⟩

/-- Whether a pattern starts at one place of a line and at no later one. -/
structure LiesLast (line pattern : List Mark) (place : Nat) : Prop where
  starts : pattern <+: line.drop place
  last : ∀ later, place < later → ¬ pattern <+: line.drop later

/-- A pattern is located where it lies last, and there is only one such place. -/
theorem locate_eq_some_iff :
    locate line pattern = some place ↔ pattern ≠ [] ∧ LiesLast line pattern place := by
  constructor
  · intro found
    rcases lastOccurrence?_of_locate found with ⟨nonempty, last⟩
    refine ⟨nonempty, isPrefix_of_lastOccurrence? last, ?_⟩
    intro later behind
    exact not_isPrefix_behind nonempty last behind
  · rintro ⟨nonempty, lies⟩
    rw [locate, if_neg (mt List.isEmpty_iff.mp nonempty)]
    cases found : lastOccurrence? pattern line with
    | none =>
        exact absurd lies.starts (not_isPrefix_of_lastOccurrence?_eq_none nonempty found place)
    | some other =>
        rcases Nat.lt_trichotomy place other with before | same | behind
        · exact absurd (isPrefix_of_lastOccurrence? found) (lies.last other before)
        · rw [same]
        · exact absurd lies.starts (not_isPrefix_behind nonempty found behind)

end Search

/-! ## What is covered -/

/-- A window that leaves out at least one symbol starts in the text.  Its end is cut to the text,
which taking characters does by itself. -/
theorem windowText_eq_drop_take (text : Text) (place size : Nat) {skip : Nat} (skips : 0 < skip) :
    windowText text (some (place : Int)) size skip =
      (text.take (place + size - 1)).drop (place + skip - 1) := by
  have start : (max (textIndex place skip) 0).toNat = place + skip - 1 := by
    simp only [textIndex]
    omega
  have stop : (min (textIndex place size) text.length).toNat =
      min (place + size - 1) text.length := by
    simp only [textIndex]
    omega
  simp only [windowText, start, stop, ← List.take_eq_take_min]
  split
  · rename_i empty
    have beyond : (text.take (place + size - 1)).length ≤ place + skip - 1 := by
      rw [List.length_take]
      simp only [textIndex] at empty
      omega
    exact (List.drop_eq_nil_of_le beyond).symm
  · rfl

theorem windowText_eq_take (text : Text) (place size : Nat) :
    windowText text (some (place : Int)) (size + 1) 1 = (text.drop place).take size := by
  have window := windowText_eq_drop_take text place (size + 1) Nat.one_pos
  rw [Nat.add_sub_cancel, ← Nat.add_assoc, Nat.add_sub_cancel, List.drop_take,
    Nat.add_sub_cancel_left] at window
  exact window

theorem drop_marks {text : Text} {place : Nat} (inside : place ≤ text.length) :
    (Serial.marks text).drop place = Serial.marks (text.drop place) := by
  rw [Serial.marks, Serial.marks, List.map_drop, List.drop_append_of_le_length]
  rw [List.length_map]
  exact inside

/-- Symbols at the start of a text are the kinds of its first characters, or those of all its
characters and the border. -/
theorem kinds_take_of_isPrefix {kinds : List Symbol} {text : Text}
    (begins : kinds <+: Serial.marks text) :
    (text.take kinds.length).map Symbol.ofChar = kinds ∨
      text.map Symbol.ofChar ++ [.undefined] = kinds := by
  rw [Serial.marks, List.prefix_concat_iff] at begins
  rcases begins with whole | inText
  · right
    exact whole.symm
  · left
    rw [List.map_take]
    exact (List.prefix_iff_eq_take.mp inText).symm

/-- The characters under a template are of the kinds that it asks for behind its delimiter.  If it
ends on the border, they are the last ones of the text. -/
theorem kinds_textUnder {text : Text} {first : Symbol} {kinds : List Symbol} {place : Nat}
    (found : locate (classify text) (first :: kinds) = some place) :
    (textUnder text (classify text) (first :: kinds)).map Symbol.ofChar = kinds ∨
      textUnder text (classify text) (first :: kinds) <:+ text ∧
        (textUnder text (classify text) (first :: kinds)).map Symbol.ofChar ++ [.undefined] =
          kinds := by
  have covered : textUnder text (classify text) (first :: kinds) =
      (text.drop place).take kinds.length := by
    rw [textUnder, found, List.length_cons]
    exact windowText_eq_take text place kinds.length
  have begins : kinds <+: (Serial.marks text).drop place := by
    have whole := isPrefix_of_lastOccurrence? (lastOccurrence?_of_locate found).2
    have rest := whole.drop 1
    rw [List.drop_drop] at rest
    exact rest
  rw [covered]
  by_cases inside : place ≤ text.length
  · rw [drop_marks inside] at begins
    rcases kinds_take_of_isPrefix begins with same | atBorder
    · exact Or.inl same
    · right
      have all : (text.drop place).take kinds.length = text.drop place := by
        apply List.take_of_length_le
        rw [← atBorder, List.length_append, List.length_map]
        exact Nat.le_add_right _ _
      rw [all]
      exact ⟨List.drop_suffix place text, atBorder⟩
  · left
    have beyond : (Serial.marks text).drop place = [] := by
      apply List.drop_eq_nil_of_le
      rw [Serial.marks, List.length_append, List.length_map, List.length_singleton]
      omega
    rw [beyond, List.prefix_nil] at begins
    rw [begins]
    rfl

end ContestExchange
