import ContestExchange.Exchange.Placement
import ContestExchange.Sequence

namespace ContestExchange

/-!
# Occurrences behind a longer start

A template is looked for from the right, so a character put in front of a text matters only if the
template lies on it.  If it starts nowhere in front, its rightmost place moves along with the text,
and what the text has there stays the same.

A place on the marked line counts the border as well.  To compare two lines with different starts,
the places are therefore counted on what the two have in common: the marks of the shorter text
without the border before it.
-/

/-! ## The rightmost occurrence -/

section Search

variable {Mark : Type} [DecidableEq Mark] {pattern front line : List Mark}

/-- Whether a pattern starts somewhere in the front of a line. -/
def startsIn (pattern : List Mark) : List Mark → List Mark → Bool
  | [], _ => false
  | mark :: front, line =>
      pattern.isPrefixOf (mark :: (front ++ line)) || startsIn pattern front line

theorem startsIn_of_head {head : Mark} {rest : List Mark} (differs : ∀ mark ∈ front, head ≠ mark) :
    startsIn (head :: rest) front line = false := by
  induction front with
  | nil => rfl
  | cons mark front inductionHypothesis =>
      have noStart : (head == mark) = false :=
        beq_eq_false_iff_ne.mpr (differs mark List.mem_cons_self)
      have later := inductionHypothesis fun other member =>
        differs other (List.mem_cons_of_mem mark member)
      simp only [startsIn, List.isPrefixOf, noStart, Bool.false_and, later, Bool.or_false]

theorem lastOccurrence?_append_of_some {place : Nat}
    (found : lastOccurrence? pattern line = some place) (front : List Mark) :
    lastOccurrence? pattern (front ++ line) = some (place + front.length) := by
  induction front with
  | nil => exact found
  | cons mark front inductionHypothesis =>
      simp only [List.cons_append, lastOccurrence?, inductionHypothesis, List.length_cons]
      rfl

theorem lastOccurrence?_append_of_none (absent : lastOccurrence? pattern line = none)
    (nowhere : startsIn pattern front line = false) :
    lastOccurrence? pattern (front ++ line) = none := by
  induction front with
  | nil => exact absent
  | cons mark front inductionHypothesis =>
      rw [startsIn, Bool.or_eq_false_iff] at nowhere
      rcases nowhere with ⟨here, later⟩
      simp only [List.cons_append, lastOccurrence?, inductionHypothesis later, here]
      rfl

/-- A pattern that starts nowhere in front lies as far behind the front as on the rest alone. -/
theorem lastOccurrence?_append (nowhere : startsIn pattern front line = false) :
    lastOccurrence? pattern (front ++ line) =
      (lastOccurrence? pattern line).map (· + front.length) := by
  cases found : lastOccurrence? pattern line with
  | none => exact lastOccurrence?_append_of_none found nowhere
  | some place => exact lastOccurrence?_append_of_some found front

/-- Where a pattern lies nowhere, no longer one does. -/
theorem lastOccurrence?_eq_none_of_prefix {longer : List Mark} (begins : pattern <+: longer)
    (absent : lastOccurrence? pattern line = none) : lastOccurrence? longer line = none := by
  induction line with
  | nil =>
      cases pattern with
      | nil => cases absent
      | cons first rest =>
          rcases begins with ⟨others, same⟩
          rw [← same]
          rfl
  | cons mark line inductionHypothesis =>
      simp only [lastOccurrence?] at absent ⊢
      cases found : lastOccurrence? pattern line with
      | some place =>
          rw [found] at absent
          cases absent
      | none =>
          rw [found] at absent
          simp only [inductionHypothesis found]
          have notHere : ¬ pattern <+: mark :: line := by
            intro here
            rw [← List.isPrefixOf_iff_prefix] at here
            rw [if_pos here] at absent
            cases absent
          have longerNotHere : ¬ longer.isPrefixOf (mark :: line) = true := by
            intro here
            exact notHere (begins.trans (List.isPrefixOf_iff_prefix.mp here))
          rw [if_neg longerNotHere]

theorem locate_append (nonempty : pattern ≠ []) (nowhere : startsIn pattern front line = false) :
    locate (front ++ line) pattern = (lastOccurrence? pattern line).map (· + front.length) := by
  have present : ¬ pattern.isEmpty = true := by
    rw [List.isEmpty_iff]
    exact nonempty
  rw [locate, if_neg present]
  exact lastOccurrence?_append nowhere

end Search

/-! ## What lies there -/

theorem drop_take_append (front text : Text) (start stop : Nat) :
    ((front ++ text).take (front.length + stop)).drop (front.length + start) =
      (text.take stop).drop start := by
  rw [List.take_length_add_append, List.drop_length_add_append]

theorem windowText_append (front text : Text) (place size : Nat) :
    windowText (front ++ text) (some ((place + (front.length + 1) : Nat) : Int)) size 1 =
      windowText text (some ((place + 1 : Nat) : Int)) size 1 := by
  have start : max (textIndex ((place + (front.length + 1) : Nat) : Int) 1) 0 =
      max (textIndex ((place + 1 : Nat) : Int) 1) 0 + front.length := by
    simp only [textIndex]
    omega
  have stop : min (textIndex ((place + (front.length + 1) : Nat) : Int) size)
        ((front ++ text).length : Int) =
      min (textIndex ((place + 1 : Nat) : Int) size) text.length + front.length := by
    simp only [textIndex, List.length_append]
    omega
  have forward : 0 ≤ max (textIndex ((place + 1 : Nat) : Int) 1) 0 := by omega
  simp only [windowText, start, stop]
  generalize max (textIndex ((place + 1 : Nat) : Int) 1) 0 = first at forward
  generalize min (textIndex ((place + 1 : Nat) : Int) size) (text.length : Int) = last
  by_cases empty : last ≤ first
  · rw [if_pos empty, if_pos (Int.add_le_add_right empty _)]
  · have furtherOn : ¬ last + front.length ≤ first + front.length := by omega
    have lastPlace : (last + front.length).toNat = front.length + last.toNat := by omega
    have firstPlace : (first + front.length).toNat = front.length + first.toNat := by omega
    rw [if_neg empty, if_neg furtherOn, lastPlace, firstPlace]
    exact drop_take_append front text first.toNat last.toNat

theorem slice_append (front text : Text) {start stop : Int} (inText : 0 ≤ start)
    (ordered : 0 ≤ stop) :
    Sequence.slice (front ++ text) (start + front.length) (stop + front.length) =
      Sequence.slice text start stop := by
  have clamped {position : Int} (inText : 0 ≤ position) :
      Sequence.clamp (front ++ text).length (position + front.length) =
        front.length + Sequence.clamp text.length position := by
    have further : ¬ position + front.length < 0 := by omega
    rw [Sequence.clamp, Sequence.clamp, if_neg further, if_neg (Int.not_lt.mpr inText),
      List.length_append]
    omega
  rw [Sequence.slice, Sequence.slice, clamped inText, clamped ordered]
  exact drop_take_append front text _ _

end ContestExchange
