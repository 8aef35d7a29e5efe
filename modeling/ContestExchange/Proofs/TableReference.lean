import ContestExchange.Proofs.TableLookup
import Mathlib.Data.List.MinMax
import Mathlib.Data.Nat.Find

namespace ContestExchange
namespace MultiplierTable

/-!
# What a lookup answers

A lookup walks through the table, counts characters and keeps the best entry so far.  What it answers
can be said without the walk.  The entries that continue a candidate are a part of the table, and the
answer is the first or the last of them.  The closest entry is the first maximum of a measure: how
long a start of the candidate is also a start of the entry.

So the order of the table matters only among entries that come into question alike.  The measure is
not the count of the walk: it asks for starts and never looks at single characters, and that both
agree is the fact about the walk that everything else rests on.

An answer is an entry, and an entry can be looked up as well.  Whatever led to it, it leads to
itself.
-/

variable {table : MultiplierTable} {candidate code left right start : Text}

/-! ## How much two texts share -/

/-- The length of the longest start of one text that is a start of another one as well. -/
def startLength (left right : Text) : Nat :=
  Nat.findGreatest (fun count => left.take count <+: right) left.length

theorem take_isPrefix_iff {count : Nat} (within : count ≤ left.length) :
    left.take count <+: right ↔ count ≤ sharedLength left right := by
  induction left generalizing count right with
  | nil =>
      rw [Nat.le_zero.mp within]
      exact iff_of_true List.nil_prefix (Nat.zero_le _)
  | cons first rest inductionHypothesis =>
      cases count with
      | zero => exact iff_of_true List.nil_prefix (Nat.zero_le _)
      | succ count =>
          cases right with
          | nil =>
              rw [List.take_succ_cons, List.prefix_nil]
              exact iff_of_false (List.cons_ne_nil _ _) (Nat.not_succ_le_zero count)
          | cons other others =>
              rw [List.take_succ_cons, List.cons_prefix_cons, sharedLength]
              by_cases same : first = other
              · rw [if_pos same, and_iff_right same, Nat.succ_le_succ_iff]
                exact inductionHypothesis (Nat.le_of_succ_le_succ within)
              · rw [if_neg same]
                exact iff_of_false (fun both => same both.1) (Nat.not_succ_le_zero count)

/-- Counting equal characters finds the longest shared start. -/
theorem sharedLength_eq_startLength (left right : Text) :
    sharedLength left right = startLength left right := by
  have within := (sharedLength_le left right).1
  symm
  rw [startLength, Nat.findGreatest_eq_iff]
  refine ⟨within, fun _ => (take_isPrefix_iff within).mpr (Nat.le_refl _), ?_⟩
  intro count longer inside shared
  exact absurd ((take_isPrefix_iff inside).mp shared) (Nat.not_le.mpr longer)

theorem length_le_sharedLength (ofLeft : start <+: left) (ofRight : start <+: right) :
    start.length ≤ sharedLength left right := by
  rw [List.prefix_iff_eq_take.mp ofLeft] at ofRight
  exact (take_isPrefix_iff ofLeft.length_le).mp ofRight

/-- Two texts share no character at the start exactly if they share no start. -/
theorem sharedLength_eq_zero_iff : sharedLength left right = 0 ↔
    ∀ start, start <+: left → start <+: right → start = [] := by
  constructor
  · intro nothing start ofLeft ofRight
    have shorter := length_le_sharedLength ofLeft ofRight
    rw [nothing] at shorter
    exact List.length_eq_zero_iff.mp (Nat.le_zero.mp shorter)
  · intro none
    have within := (sharedLength_le left right).1
    have empty := none _ (List.take_prefix _ left) ((take_isPrefix_iff within).mpr (Nat.le_refl _))
    have length := congrArg List.length empty
    rw [List.length_take, Nat.min_eq_left within] at length
    exact length

/-! ## The entries that come into question -/

/-- The entries that continue a candidate, in the order of the table. -/
def continuing (table : MultiplierTable) (candidate : Text) : List Text :=
  table.entries.filter fun code => decide (candidate <+: code)

/-- The entries that share any start with a candidate, in the order of the table. -/
def sharing (table : MultiplierTable) (candidate : Text) : List Text :=
  table.entries.filter fun code => decide (0 < startLength candidate code)

theorem decide_isPrefix (candidate : Text) :
    (fun code => decide (candidate <+: code)) = leadsInto candidate := by
  funext code
  rw [Bool.eq_iff_iff, decide_eq_true_iff, leadsInto_iff]

theorem firstLeading?_eq (present : candidate ≠ []) :
    table.firstLeading? candidate = (table.continuing candidate).head? := by
  rw [firstLeading?_of_ne_nil present, continuing, decide_isPrefix, List.head?_filter]

theorem lastLeading?_eq (present : candidate ≠ []) :
    table.lastLeading? candidate = (table.continuing candidate).getLast? := by
  rw [lastLeading?_of_ne_nil present, continuing, decide_isPrefix, List.getLast?_filter]

/-- The first maximum of a measure is less than no entry behind it and more than each before it. -/
theorem argmax_append_cons {measure : Text → Nat} {before after : List Text}
    (first : ∀ entry ∈ before, measure entry < measure code)
    (greatest : ∀ entry ∈ after, measure entry ≤ measure code) :
    (before ++ code :: after).argmax measure = some code := by
  induction after using List.reverseRecOn with
  | nil =>
      rw [List.argmax_concat]
      cases best : before.argmax measure with
      | none => rfl
      | some entry => exact if_pos (first entry (List.argmax_mem best))
  | append_singleton after entry inductionHypothesis =>
      have earlier := inductionHypothesis fun other member =>
        greatest other (List.mem_append_left [entry] member)
      have noMore := greatest entry (List.mem_append_right after (List.mem_singleton_self entry))
      rw [← List.cons_append, ← List.append_assoc, List.argmax_concat, earlier]
      exact if_neg (Nat.not_lt.mpr noMore)

/-- The closest entry is the first one with the longest shared start. -/
theorem closest?_eq_argmax (table : MultiplierTable) (candidate : Text) :
    table.closest? candidate = (table.sharing candidate).argmax (startLength candidate) := by
  rw [sharing, ← funext (sharedLength_eq_startLength candidate)]
  rcases exists_firstClosest candidate 0 table.entries with
    nothing | ⟨before, code, after, split, closest⟩
  · have none : table.entries.filter (fun code => decide (0 < sharedLength candidate code)) = [] :=
      List.filter_eq_nil_iff.mpr fun code member =>
        mt of_decide_eq_true (Nat.not_lt.mpr (nothing code member))
    rw [closest?, closestFrom_of_none_closer nothing, none, List.argmax_nil]
  · have kept : decide (0 < sharedLength candidate code) = true := decide_eq_true closest.closer
    rw [closest?_eq_some_iff.mpr ⟨before, after, split, closest⟩, split, List.filter_append,
      List.filter_cons, if_pos kept]
    symm
    apply argmax_append_cons
    · exact fun entry member => closest.first entry (List.mem_of_mem_filter member)
    · exact fun entry member => closest.longest entry (List.mem_of_mem_filter member)

theorem closest?_eq_none_iff : table.closest? candidate = none ↔
    ∀ code ∈ table.entries, ∀ start, start <+: candidate → start <+: code → start = [] := by
  rw [closest?_eq_argmax, List.argmax_eq_none, sharing, List.filter_eq_nil_iff]
  refine forall₂_congr fun code _ => ?_
  rw [decide_eq_true_iff, ← sharedLength_eq_startLength, Nat.not_lt, Nat.le_zero,
    sharedLength_eq_zero_iff]

/-- What the lookups answer, for every table and candidate.  A code is found if it is listed.  For a
start it is the first or the last entry that continues the start, and nothing for the empty one.
Otherwise it is the first of the entries with the longest shared start, and nothing where no start
is shared. -/
theorem lookups_answer (table : MultiplierTable) (candidate : Text) :
    table.find? candidate = (if candidate ∈ table.entries then some candidate else none) ∧
      table.firstLeading? candidate =
        (if candidate = [] then none else (table.continuing candidate).head?) ∧
      table.lastLeading? candidate =
        (if candidate = [] then none else (table.continuing candidate).getLast?) ∧
      table.closest? candidate = (table.sharing candidate).argmax (startLength candidate) ∧
      (table.closest? candidate = none ↔
        ∀ code ∈ table.entries, ∀ start, start <+: candidate → start <+: code → start = []) := by
  refine ⟨find?_eq table candidate, ?_, ?_, closest?_eq_argmax table candidate,
    closest?_eq_none_iff⟩
  · split
    · rename_i empty
      rw [empty]
      rfl
    · rename_i present
      exact firstLeading?_eq present
  · split
    · rename_i empty
      rw [empty]
      rfl
    · rename_i present
      exact lastLeading?_eq present

/-! ## Looking an answer up -/

/-- An entry that a lookup answers with is what the same lookup answers for the entry itself, also
where the entry is only the start of others. -/
theorem answers_found_again (table : MultiplierTable) (candidate code : Text) :
    (table.firstLeading? candidate = some code → table.firstLeading? code = some code) ∧
      (table.lastLeading? candidate = some code → table.lastLeading? code = some code) ∧
      (table.closest? candidate = some code → table.closest? code = some code) := by
  refine ⟨firstLeading?_self, fun found => ?_, closest?_self⟩
  exact lastLeading?_of_between found (isPrefix_of_lastLeading? found) List.prefix_rfl

/-- Here `CT` is the start of the entry behind it, and from there it still leads to itself. -/
theorem answers_found_again_of_shorter_entry :
    ∃ table : MultiplierTable,
      table.entries = [Text.ofString "CT", Text.ofString "CTX", Text.ofString "CO"] ∧
      (table.firstLeading? (Text.ofString "C") = some (Text.ofString "CT") ∧
        table.firstLeading? (Text.ofString "CT") = some (Text.ofString "CT")) ∧
      (table.lastLeading? (Text.ofString "C") = some (Text.ofString "CO") ∧
        table.lastLeading? (Text.ofString "CO") = some (Text.ofString "CO")) ∧
      table.closest? (Text.ofString "CTA") = some (Text.ofString "CT") ∧
        table.closest? (Text.ofString "CT") = some (Text.ofString "CT") := by
  refine ⟨⟨_⟩, rfl, ⟨by decide, ?_⟩, ⟨by decide, ?_⟩, by decide, ?_⟩
  · exact (answers_found_again _ (Text.ofString "C") _).1 (by decide)
  · exact (answers_found_again _ (Text.ofString "C") _).2.1 (by decide)
  · exact (answers_found_again _ (Text.ofString "CTA") _).2.2 (by decide)

end MultiplierTable
end ContestExchange
