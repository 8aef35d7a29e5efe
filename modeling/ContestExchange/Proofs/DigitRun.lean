import ContestExchange.Proofs.CallScan
import Mathlib.Data.List.DropRight

namespace ContestExchange
namespace Text

/-!
# Runs of digits

The numbers of a text are its runs of digits: what is left when the text is split at all other
characters.  A run is whole, in that no digit stands before it or behind it.  A row of digits that
is cut out of a text is in general only a part of a run.  If no digit follows the row, it is the end
of its run, and it stands for the number of the run up to a multiple of a power of ten.
-/

/-! ## The runs of a text -/

/-- The runs of digits of a text, from left to right. -/
def runs (text : Text) : List Text :=
  (text.splitOnP fun character => !isDigit character).filter fun run => !run.isEmpty

theorem runs_append_cons {mark : Char} (other : isDigit mark = false) (front back : Text) :
    runs (front ++ mark :: back) = runs front ++ runs back := by
  have splits : (!isDigit mark) = true := by
    rw [other]
    rfl
  rw [runs, List.splitOnP_append_cons front back splits, List.filter_append]
  rfl

theorem runs_cons {mark : Char} (other : isDigit mark = false) (back : Text) :
    runs (mark :: back) = runs back :=
  runs_append_cons other [] back

theorem runs_of_digits {run : Text} (present : run ≠ [])
    (digits : ∀ character ∈ run, isDigit character = true) : runs run = [run] := by
  have whole : ∀ character ∈ run, (!isDigit character) = false := by
    intro character member
    rw [digits character member]
    rfl
  rw [runs, List.splitOnP_eq_singleton whole, List.filter_singleton,
    List.isEmpty_eq_false_iff.mpr present]
  rfl

theorem isDigit_of_takeWhile {mark : Char} {rest : Text}
    (stops : (mark :: rest).takeWhile isDigit = []) : isDigit mark = false := by
  rw [List.takeWhile_cons] at stops
  split at stops
  · cases stops
  · rename_i other
    exact Bool.eq_false_iff.mpr other

theorem runs_append_of_takeWhile {run back : Text} (present : run ≠ [])
    (digits : ∀ character ∈ run, isDigit character = true) (behind : back.takeWhile isDigit = []) :
    runs (run ++ back) = run :: runs back := by
  cases back with
  | nil =>
      rw [List.append_nil, runs_of_digits present digits]
      rfl
  | cons mark rest =>
      have other := isDigit_of_takeWhile behind
      rw [runs_append_cons other, runs_of_digits present digits, runs_cons other]
      rfl

/-- A text that ends on no digit is empty or has another character at its end. -/
theorem eq_nil_or_concat_of_rtakeWhile {front : Text} (ends : front.rtakeWhile isDigit = []) :
    front = [] ∨ ∃ beginning mark, front = beginning ++ [mark] ∧ isDigit mark = false := by
  rcases List.eq_nil_or_concat front with empty | ⟨beginning, mark, same⟩
  · exact Or.inl empty
  · right
    rw [List.concat_eq_append] at same
    refine ⟨beginning, mark, same, ?_⟩
    rw [same, List.rtakeWhile_concat] at ends
    split at ends
    · exact absurd ends (List.concat_ne_nil mark _)
    · rename_i other
      exact Bool.eq_false_iff.mpr other

theorem rtakeWhile_append {front ending : Text} (before : front.rtakeWhile isDigit = [])
    (ends : ending.rtakeWhile isDigit = []) : (front ++ ending).rtakeWhile isDigit = [] := by
  rcases eq_nil_or_concat_of_rtakeWhile ends with empty | ⟨beginning, last, same, noDigit⟩
  · rw [empty, List.append_nil]
    exact before
  · rw [same, ← List.append_assoc]
    exact List.rtakeWhile_concat_neg isDigit _ last (Bool.eq_false_iff.mp noDigit)

/-- A run of digits comes after the runs in front of it and before the runs behind it. -/
theorem runs_split {front run back : Text} (before : front.rtakeWhile isDigit = [])
    (present : run ≠ []) (digits : ∀ character ∈ run, isDigit character = true)
    (behind : back.takeWhile isDigit = []) :
    runs (front ++ (run ++ back)) = runs front ++ run :: runs back := by
  have here := runs_append_of_takeWhile present digits behind
  rcases eq_nil_or_concat_of_rtakeWhile before with empty | ⟨beginning, mark, ends, other⟩
  · rw [empty, List.nil_append, here]
    rfl
  · rw [ends, runs_append_cons other beginning [], List.append_assoc, List.singleton_append,
      runs_append_cons other, here]
    exact (congrArg (· ++ run :: runs back) (List.append_nil (runs beginning))).symm

/-- A text consists of digits, or of digits, another character and a rest. -/
@[elab_as_elim]
theorem digitsInduction {motive : Text → Prop}
    (last : ∀ digits, (∀ character ∈ digits, isDigit character = true) → motive digits)
    (step : ∀ digits mark rest, (∀ character ∈ digits, isDigit character = true) →
      isDigit mark = false → motive rest → motive (digits ++ mark :: rest))
    (text : Text) : motive text := by
  induction known : text.length using Nat.strongRecOn generalizing text with
  | ind size inductionHypothesis =>
      have digits : ∀ character ∈ text.takeWhile isDigit, isDigit character = true :=
        List.all_eq_true.mp List.all_takeWhile
      have whole : text.takeWhile isDigit ++ text.dropWhile isDigit = text :=
        List.takeWhile_append_dropWhile
      cases behind : text.dropWhile isDigit with
      | nil =>
          rw [behind, List.append_nil] at whole
          rw [← whole]
          exact last _ digits
      | cons mark rest =>
          have stops := Extraction.takeWhile_dropWhile isDigit text
          rw [behind] at whole stops
          have shorter : rest.length < size := by
            rw [← known, ← whole, List.length_append, List.length_cons]
            omega
          rw [← whole]
          exact step _ mark rest digits (isDigit_of_takeWhile stops)
            (inductionHypothesis rest.length shorter rest rfl)

theorem eq_of_mem_runs_of_digits {run digits : Text}
    (all : ∀ character ∈ digits, isDigit character = true) (member : run ∈ runs digits) :
    run = digits ∧ run ≠ [] := by
  by_cases present : digits = []
  · rw [present] at member
    cases member
  · rw [runs_of_digits present all, List.mem_singleton] at member
    exact ⟨member, member ▸ present⟩

/-- The runs of a text are its rows of digits with no further digit on either side. -/
theorem mem_runs_iff {text run : Text} :
    run ∈ runs text ↔ run ≠ [] ∧ (∀ character ∈ run, isDigit character = true) ∧
      ∃ front back, text = front ++ (run ++ back) ∧ front.rtakeWhile isDigit = [] ∧
        back.takeWhile isDigit = [] := by
  constructor
  · intro member
    induction text using digitsInduction with
    | last digits all =>
        rcases eq_of_mem_runs_of_digits all member with ⟨same, present⟩
        refine ⟨present, same ▸ all, [], [], ?_, rfl, rfl⟩
        rw [List.nil_append, List.append_nil, same]
    | step digits mark rest all other inductionHypothesis =>
        rw [runs_append_cons other, List.mem_append] at member
        rcases member with inFront | later
        · rcases eq_of_mem_runs_of_digits all inFront with ⟨same, present⟩
          refine ⟨present, same ▸ all, [], mark :: rest, by rw [same, List.nil_append], rfl, ?_⟩
          rw [List.takeWhile_cons, if_neg (Bool.eq_false_iff.mp other)]
        · rcases inductionHypothesis later with
            ⟨present, runDigits, front, back, split, before, behind⟩
          have ends : (digits ++ [mark]).rtakeWhile isDigit = [] :=
            List.rtakeWhile_concat_neg isDigit digits mark (Bool.eq_false_iff.mp other)
          refine ⟨present, runDigits, digits ++ [mark] ++ front, back, ?_,
            rtakeWhile_append ends before, behind⟩
          rw [List.append_assoc, ← split, List.append_assoc, List.singleton_append]
  · rintro ⟨present, digits, front, back, split, before, behind⟩
    rw [split, runs_split before present digits behind]
    exact List.mem_append_right _ List.mem_cons_self

example : runs (ofString "05 W1AB 12345") = [ofString "05", ['1'], ofString "12345"] := by decide

/-- The digits at the start of a text are its first run, if there are any. -/
theorem mem_runs_iff_takeWhile {text run : Text} :
    run ∈ runs text ↔
      run ≠ [] ∧ run = text.takeWhile isDigit ∨ run ∈ runs (text.dropWhile isDigit) := by
  have whole : text.takeWhile isDigit ++ text.dropWhile isDigit = text :=
    List.takeWhile_append_dropWhile
  by_cases present : text.takeWhile isDigit = []
  · rw [present, List.nil_append] at whole
    rw [present, whole]
    constructor
    · exact Or.inr
    · rintro (⟨some, nothing⟩ | later)
      · exact absurd nothing some
      · exact later
  · have digits : ∀ character ∈ text.takeWhile isDigit, isDigit character = true :=
      List.all_eq_true.mp List.all_takeWhile
    have stops := Extraction.takeWhile_dropWhile isDigit text
    have split := runs_append_of_takeWhile present digits stops
    rw [whole] at split
    rw [split, List.mem_cons]
    exact or_congr_left ⟨fun same => ⟨same ▸ present, same⟩, And.right⟩

/-! ## The last long run -/

/-- The last run of a text with so many digits or more. -/
def lastRun? (count : Nat) (text : Text) : Option Text :=
  (runs text).reverse.find? fun run => count ≤ run.length

section LastRun

variable {text run : Text} {count : Nat}

theorem lastRun?_eq_none_iff :
    lastRun? count text = none ↔ ∀ run ∈ runs text, run.length < count := by
  rw [lastRun?, List.find?_eq_none]
  constructor
  · intro short run member
    have few := short run (List.mem_reverse.mpr member)
    rw [decide_eq_true_eq] at few
    exact Nat.lt_of_not_le few
  · intro short run member few
    rw [decide_eq_true_eq] at few
    exact Nat.not_lt_of_le few (short run (List.mem_reverse.mp member))

theorem mem_of_lastRun? (last : lastRun? count text = some run) :
    run ∈ runs text ∧ count ≤ run.length := by
  have long := List.find?_some (p := fun run : Text => decide (count ≤ run.length)) last
  exact ⟨List.mem_reverse.mp (List.mem_of_find?_eq_some last), of_decide_eq_true long⟩

/-- A long run is the last one if there are only shorter ones behind it. -/
theorem lastRun?_of_split {before behind : List Text} (split : runs text = before ++ run :: behind)
    (long : count ≤ run.length) (short : ∀ later ∈ behind, later.length < count) :
    lastRun? count text = some run := by
  rw [lastRun?, split, List.reverse_append, List.reverse_cons, List.find?_append,
    List.find?_append]
  have none : behind.reverse.find? (fun run => decide (count ≤ run.length)) = none := by
    rw [List.find?_eq_none]
    intro later member few
    rw [decide_eq_true_eq] at few
    exact Nat.not_lt_of_le few (short later (List.mem_reverse.mp member))
  rw [none, List.find?_singleton, if_pos (decide_eq_true long)]
  rfl

/-- The last run of some length is also the last one of a greater length, if it is long enough. -/
theorem lastRun?_of_le {more : Nat} (last : lastRun? count text = some run) (order : count ≤ more)
    (long : more ≤ run.length) : lastRun? more text = some run := by
  rw [lastRun?, List.find?_eq_some_iff_append] at last ⊢
  rcases last with ⟨_, before, behind, split, short⟩
  refine ⟨decide_eq_true long, before, behind, split, ?_⟩
  intro later member
  have few := short later member
  rw [Bool.not_eq_true', decide_eq_false_iff_not] at few ⊢
  exact fun many => few (Nat.le_trans order many)

end LastRun

/-! ## The number of a run -/

/-- The number that digits stand for, zero if they stand for none. -/
def valueOf (digits : Text) : Nat := (decimalsFrom 0 digits).getD 0

theorem valueOf_lt (digits : Text) : valueOf digits < 10 ^ digits.length := by
  rw [valueOf]
  cases spelled : decimalsFrom 0 digits with
  | none => exact Nat.pow_pos (by decide)
  | some number =>
      have bound := lt_of_decimalsFrom spelled
      rw [Nat.zero_add, Nat.one_mul] at bound
      exact bound

theorem decimalsFrom_add (value more : Nat) (digits : Text) :
    decimalsFrom (value + more) digits =
      (decimalsFrom value digits).map (· + more * 10 ^ digits.length) := by
  induction digits generalizing value more with
  | nil =>
      rw [List.length_nil, Nat.pow_zero, Nat.mul_one]
      rfl
  | cons character rest inductionHypothesis =>
      simp only [decimalsFrom]
      cases decimalValue? character with
      | none => rfl
      | some digit =>
          have shifted : 10 * (value + more) + digit = 10 * value + digit + 10 * more := by omega
          have power : 10 * more * 10 ^ rest.length = more * 10 ^ (character :: rest).length := by
            rw [List.length_cons, Nat.pow_succ, Nat.mul_comm 10, Nat.mul_assoc, Nat.mul_comm 10]
          simp only [shifted, inductionHypothesis, power]

/-- The last digits of a number stand for what is left of it modulo a power of ten. -/
theorem valueOf_append_mod {front back : Text}
    (decimal : ∀ character ∈ front ++ back, isDecimal character = true) :
    valueOf (front ++ back) % 10 ^ back.length = valueOf back := by
  rcases exists_decimalsFrom (fun character member =>
    decimal character (List.mem_append_left back member)) 0 with ⟨high, spelledFront⟩
  rcases exists_decimalsFrom (fun character member =>
    decimal character (List.mem_append_right front member)) 0 with ⟨low, spelledBack⟩
  have whole : decimalsFrom 0 (front ++ back) = some (low + high * 10 ^ back.length) := by
    have shifted := decimalsFrom_add 0 high back
    rw [Nat.zero_add, spelledBack] at shifted
    rw [decimalsFrom_append, spelledFront, Option.bind_some, shifted]
    rfl
  have small := valueOf_lt back
  rw [valueOf, spelledBack] at small
  rw [valueOf, valueOf, whole, spelledBack]
  simp only [Option.getD_some] at small ⊢
  rw [Nat.add_mul_mod_self_right, Nat.mod_eq_of_lt small]

end Text
end ContestExchange
