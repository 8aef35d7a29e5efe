import ContestExchange.Exchange.Multiplier

namespace ContestExchange
namespace MultiplierTable

/-!
# Looking an entry up again

An entry that a candidate leads to is what the entry itself leads to.  For the lookups by a start
this rests on the entries between: one that continues the entry continues the candidate as well, so
it would have been met before.  For the longest shared start it rests on one comparison: an entry
that continues another shares at least as much with every candidate.

Where several entries come into question the order of the table decides, so each lookup is described
by the entries before and behind the one it finds.
-/

variable {table : MultiplierTable} {candidate code : Text}

/-! ## Shared starts -/

theorem sharedLength_le (left right : Text) :
    sharedLength left right ≤ left.length ∧ sharedLength left right ≤ right.length := by
  induction left generalizing right with
  | nil => exact ⟨Nat.zero_le _, Nat.zero_le _⟩
  | cons first rest inductionHypothesis =>
      cases right with
      | nil => exact ⟨Nat.zero_le _, Nat.zero_le _⟩
      | cons other others =>
          rw [sharedLength]
          split
          · exact ⟨Nat.succ_le_succ (inductionHypothesis others).1,
              Nat.succ_le_succ (inductionHypothesis others).2⟩
          · exact ⟨Nat.zero_le _, Nat.zero_le _⟩

theorem leadsInto_iff : leadsInto candidate code = true ↔ candidate <+: code := by
  rw [leadsInto, beq_iff_eq]
  induction candidate generalizing code with
  | nil => simp [sharedLength]
  | cons first rest inductionHypothesis =>
      cases code with
      | nil => simp [sharedLength]
      | cons other others =>
          rw [sharedLength, List.cons_prefix_cons]
          by_cases same : first = other
          · rw [if_pos same, List.length_cons, Nat.succ_inj, inductionHypothesis]
            exact (and_iff_right same).symm
          · rw [if_neg same, List.length_cons]
            exact iff_of_false (by omega) fun both => same both.1

theorem sharedLength_eq_length_iff : sharedLength candidate code = candidate.length ↔
    candidate <+: code := by
  rw [← leadsInto_iff, leadsInto, beq_iff_eq]

/-- A text that continues another shares at least as much with every candidate. -/
theorem sharedLength_mono {longer : Text} (continues : code <+: longer) (candidate : Text) :
    sharedLength candidate code ≤ sharedLength candidate longer := by
  induction candidate generalizing code longer with
  | nil => exact Nat.zero_le _
  | cons first rest inductionHypothesis =>
      cases code with
      | nil => exact Nat.zero_le _
      | cons other others =>
          rcases continues with ⟨ending, same⟩
          subst same
          rw [List.cons_append, sharedLength, sharedLength]
          split
          · exact Nat.succ_le_succ (inductionHypothesis (List.prefix_append others ending))
          · exact Nat.le_refl _

/-! ## The closest entry -/

theorem closestFrom_of_none_closer {best : Nat} {found : Option Text} {entries : List Text}
    (noneCloser : ∀ entry ∈ entries, sharedLength candidate entry ≤ best) :
    closestFrom candidate best found entries = found := by
  induction entries with
  | nil => rfl
  | cons entry rest inductionHypothesis =>
      have here := noneCloser entry List.mem_cons_self
      rw [closestFrom, if_neg (Nat.not_lt.mpr here)]
      apply inductionHypothesis
      exact fun other member => noneCloser other (List.mem_cons_of_mem entry member)

/-- Whether an entry is the first of those that share the longest start with a candidate. -/
structure FirstClosest (candidate : Text) (best : Nat) (before : List Text) (code : Text)
    (after : List Text) : Prop where
  closer : best < sharedLength candidate code
  first : ∀ entry ∈ before, sharedLength candidate entry < sharedLength candidate code
  longest : ∀ entry ∈ after, sharedLength candidate entry ≤ sharedLength candidate code

theorem closestFrom_of_firstClosest {best : Nat} {found : Option Text} {before after : List Text}
    (closest : FirstClosest candidate best before code after) :
    closestFrom candidate best found (before ++ code :: after) = some code := by
  induction before generalizing best found with
  | nil =>
      rw [List.nil_append, closestFrom, if_pos closest.closer]
      exact closestFrom_of_none_closer closest.longest
  | cons entry rest inductionHypothesis =>
      have here := closest.first entry List.mem_cons_self
      have later : ∀ other ∈ rest, sharedLength candidate other < sharedLength candidate code :=
        fun other member => closest.first other (List.mem_cons_of_mem entry member)
      rw [List.cons_append, closestFrom]
      split
      · exact inductionHypothesis ⟨here, later, closest.longest⟩
      · exact inductionHypothesis ⟨closest.closer, later, closest.longest⟩

/-- Among entries of which one shares more than `best`, there is a first closest one. -/
theorem exists_firstClosest (candidate : Text) (best : Nat) (entries : List Text) :
    (∀ entry ∈ entries, sharedLength candidate entry ≤ best) ∨
      ∃ before code after, entries = before ++ code :: after ∧
        FirstClosest candidate best before code after := by
  induction entries generalizing best with
  | nil =>
      left
      intro entry member
      cases member
  | cons entry rest inductionHypothesis =>
      by_cases closer : best < sharedLength candidate entry
      · right
        rcases inductionHypothesis (sharedLength candidate entry) with
          longest | ⟨before, code, after, split, closest⟩
        · refine ⟨[], entry, rest, rfl, closer, ?_, longest⟩
          intro other member
          cases member
        · refine ⟨entry :: before, code, after, by rw [split]; rfl,
            Nat.lt_trans closer closest.closer, ?_, closest.longest⟩
          intro other member
          rcases List.mem_cons.mp member with same | earlier
          · rw [same]
            exact closest.closer
          · exact closest.first other earlier
      · have here := Nat.le_of_not_lt closer
        rcases inductionHypothesis best with noneCloser | ⟨before, code, after, split, closest⟩
        · left
          intro other member
          rcases List.mem_cons.mp member with same | later
          · rw [same]
            exact here
          · exact noneCloser other later
        · right
          refine ⟨entry :: before, code, after, by rw [split]; rfl, closest.closer, ?_,
            closest.longest⟩
          intro other member
          rcases List.mem_cons.mp member with same | earlier
          · rw [same]
            exact Nat.lt_of_le_of_lt here closest.closer
          · exact closest.first other earlier

/-- The closest entry is the first of those that share the longest start with the candidate. -/
theorem closest?_eq_some_iff :
    table.closest? candidate = some code ↔
      ∃ before after, table.entries = before ++ code :: after ∧
        FirstClosest candidate 0 before code after := by
  rw [closest?]
  constructor
  · intro found
    rcases exists_firstClosest candidate 0 table.entries with
      noneCloser | ⟨before, other, after, split, closest⟩
    · rw [closestFrom_of_none_closer noneCloser] at found
      cases found
    · rw [split, closestFrom_of_firstClosest closest] at found
      cases found
      exact ⟨before, after, split, closest⟩
  · rintro ⟨before, after, split, closest⟩
    rw [split]
    exact closestFrom_of_firstClosest closest

theorem mem_of_closest? (found : table.closest? candidate = some code) : code ∈ table.entries := by
  rcases closest?_eq_some_iff.mp found with ⟨before, after, split, _⟩
  rw [split]
  exact List.mem_append_right before List.mem_cons_self

/-- The closest entry to a candidate is the closest one to itself. -/
theorem closest?_self (found : table.closest? candidate = some code) :
    table.closest? code = some code := by
  rcases closest?_eq_some_iff.mp found with ⟨before, after, split, closest⟩
  have whole : sharedLength code code = code.length :=
    sharedLength_eq_length_iff.mpr List.prefix_rfl
  refine closest?_eq_some_iff.mpr ⟨before, after, split, ?_, ?_, ?_⟩
  · rw [whole]
    exact Nat.lt_of_lt_of_le closest.closer (sharedLength_le candidate code).2
  · intro entry member
    rw [whole]
    refine Nat.lt_of_le_of_ne (sharedLength_le code entry).1 fun continued => ?_
    -- An earlier entry that continues the code would have been as close to the candidate.
    have asClose := sharedLength_mono (sharedLength_eq_length_iff.mp continued) candidate
    exact absurd (closest.first entry member) (Nat.not_lt.mpr asClose)
  · intro entry _
    rw [whole]
    exact (sharedLength_le code entry).1

theorem closestFrom_of_listed {best : Nat} {found : Option Text} {before : List Text}
    (closer : best < code.length) (unshadowed : ∀ entry ∈ before, code <+: entry → entry = code)
    (after : List Text) : closestFrom code best found (before ++ code :: after) = some code := by
  have whole : sharedLength code code = code.length :=
    sharedLength_eq_length_iff.mpr List.prefix_rfl
  have noneCloser (entries : List Text) :
      closestFrom code code.length (some code) entries = some code :=
    closestFrom_of_none_closer fun entry _ => (sharedLength_le code entry).1
  induction before generalizing best found with
  | nil =>
      rw [List.nil_append, closestFrom, whole, if_pos closer]
      exact noneCloser after
  | cons entry rest inductionHypothesis =>
      have later := fun other member => unshadowed other (List.mem_cons_of_mem entry member)
      rw [List.cons_append, closestFrom]
      split
      · rcases Nat.lt_or_eq_of_le (sharedLength_le code entry).1 with less | all
        · exact inductionHypothesis less later
        · have same := unshadowed entry List.mem_cons_self (sharedLength_eq_length_iff.mp all)
          rw [same, whole]
          exact noneCloser _
      · exact inductionHypothesis closer later

theorem closest?_of_listed {before after : List Text} (present : code ≠ [])
    (listed : table.entries = before ++ code :: after)
    (unshadowed : ∀ entry ∈ before, code <+: entry → entry = code) :
    table.closest? code = some code := by
  rw [closest?, listed]
  exact closestFrom_of_listed (List.length_pos_iff.mpr present) unshadowed after

theorem closest?_ne_nil (table : MultiplierTable) (candidate : Text) :
    table.closest? candidate ≠ some [] := by
  intro found
  rcases closest?_eq_some_iff.mp found with ⟨_, _, _, closest⟩
  exact absurd closest.closer (Nat.not_lt.mpr (sharedLength_le candidate []).2)

/-! ## The entries that continue a candidate -/

theorem firstLeading?_of_ne_nil (present : candidate ≠ []) :
    table.firstLeading? candidate = table.entries.find? (leadsInto candidate) :=
  if_neg (mt List.isEmpty_iff.mp present)

theorem lastLeading?_of_ne_nil (present : candidate ≠ []) :
    table.lastLeading? candidate = table.entries.reverse.find? (leadsInto candidate) :=
  if_neg (mt List.isEmpty_iff.mp present)

theorem ne_nil_of_firstLeading? (found : table.firstLeading? candidate = some code) :
    candidate ≠ [] := by
  rintro rfl
  cases found

theorem ne_nil_of_lastLeading? (found : table.lastLeading? candidate = some code) :
    candidate ≠ [] := by
  rintro rfl
  cases found

theorem not_leadsInto_iff : (!leadsInto candidate code) = true ↔ ¬ candidate <+: code := by
  rw [Bool.not_eq_true', Bool.eq_false_iff, ne_eq, leadsInto_iff]

/-- The first entry that continues a candidate has none before it that does. -/
theorem firstLeading?_eq_some_iff (present : candidate ≠ []) :
    table.firstLeading? candidate = some code ↔
      candidate <+: code ∧ ∃ before after, table.entries = before ++ code :: after ∧
        ∀ entry ∈ before, ¬ candidate <+: entry := by
  rw [firstLeading?_of_ne_nil present, List.find?_eq_some_iff_append, leadsInto_iff]
  refine and_congr_right fun _ => ?_
  constructor
  · rintro ⟨before, after, split, first⟩
    exact ⟨before, after, split, fun entry member => not_leadsInto_iff.mp (first entry member)⟩
  · rintro ⟨before, after, split, first⟩
    exact ⟨before, after, split, fun entry member => not_leadsInto_iff.mpr (first entry member)⟩

/-- The last entry that continues a candidate has none behind it that does. -/
theorem lastLeading?_eq_some_iff (present : candidate ≠ []) :
    table.lastLeading? candidate = some code ↔
      candidate <+: code ∧ ∃ before after, table.entries = before ++ code :: after ∧
        ∀ entry ∈ after, ¬ candidate <+: entry := by
  rw [lastLeading?_of_ne_nil present, List.find?_eq_some_iff_append, leadsInto_iff]
  refine and_congr_right fun _ => ?_
  constructor
  · rintro ⟨after, before, split, last⟩
    refine ⟨before.reverse, after.reverse, ?_, fun entry member => ?_⟩
    · rw [List.reverse_eq_iff.mp split, List.reverse_append, List.reverse_cons, List.append_assoc,
        List.singleton_append]
    · exact not_leadsInto_iff.mp (last entry (List.mem_reverse.mp member))
  · rintro ⟨before, after, split, last⟩
    refine ⟨after.reverse, before.reverse, ?_, fun entry member => ?_⟩
    · rw [split, List.reverse_append, List.reverse_cons, List.append_assoc, List.singleton_append]
    · exact not_leadsInto_iff.mpr (last entry (List.mem_reverse.mp member))

theorem isPrefix_of_firstLeading? (found : table.firstLeading? candidate = some code) :
    candidate <+: code :=
  ((firstLeading?_eq_some_iff (ne_nil_of_firstLeading? found)).mp found).1

theorem isPrefix_of_lastLeading? (found : table.lastLeading? candidate = some code) :
    candidate <+: code :=
  ((lastLeading?_eq_some_iff (ne_nil_of_lastLeading? found)).mp found).1

theorem mem_of_firstLeading? (found : table.firstLeading? candidate = some code) :
    code ∈ table.entries := by
  rw [firstLeading?_of_ne_nil (ne_nil_of_firstLeading? found)] at found
  exact List.mem_of_find?_eq_some found

theorem mem_of_lastLeading? (found : table.lastLeading? candidate = some code) :
    code ∈ table.entries := by
  rw [lastLeading?_of_ne_nil (ne_nil_of_lastLeading? found)] at found
  exact List.mem_reverse.mp (List.mem_of_find?_eq_some found)

theorem firstLeading?_ne_nil (present : candidate ≠ []) : table.firstLeading? candidate ≠ some [] :=
  fun found => present (List.prefix_nil.mp (isPrefix_of_firstLeading? found))

/-- The first entry that continues a candidate is the first one that continues itself. -/
theorem firstLeading?_self (found : table.firstLeading? candidate = some code) :
    table.firstLeading? code = some code := by
  have present := ne_nil_of_firstLeading? found
  rcases (firstLeading?_eq_some_iff present).mp found with ⟨longer, before, after, split, first⟩
  have presentCode : code ≠ [] := fun empty => present (List.prefix_nil.mp (empty ▸ longer))
  refine (firstLeading?_eq_some_iff presentCode).mpr
    ⟨List.prefix_rfl, before, after, split, fun entry member continues => ?_⟩
  exact first entry member (longer.trans continues)

/-- An entry leads to itself unless an earlier one goes on longer. -/
theorem firstLeading?_of_listed {before after : List Text} (present : code ≠ [])
    (listed : table.entries = before ++ code :: after)
    (unshadowed : ∀ entry ∈ before, code <+: entry → entry = code) :
    table.firstLeading? code = some code := by
  have itself : leadsInto code code = true := leadsInto_iff.mpr List.prefix_rfl
  rw [firstLeading?_of_ne_nil present, listed, List.find?_append]
  cases earlier : before.find? (leadsInto code) with
  | none =>
      rw [Option.none_or, List.find?_cons, itself]
  | some entry =>
      have continues := leadsInto_iff.mp (List.find?_some earlier)
      have same := unshadowed entry (List.mem_of_find?_eq_some earlier) continues
      rw [Option.some_or, same]

/-- What lies between a candidate and the last entry that continues it leads to that entry. -/
theorem lastLeading?_of_between {between : Text} (found : table.lastLeading? candidate = some code)
    (longer : candidate <+: between) (shorter : between <+: code) :
    table.lastLeading? between = some code := by
  have present := ne_nil_of_lastLeading? found
  have presentBetween : between ≠ [] := fun empty => present (List.prefix_nil.mp (empty ▸ longer))
  rcases (lastLeading?_eq_some_iff present).mp found with ⟨_, before, after, split, last⟩
  refine (lastLeading?_eq_some_iff presentBetween).mpr ⟨shorter, before, after, split, ?_⟩
  intro entry member continues
  exact last entry member (longer.trans continues)

/-! ## An entry that is given in full -/

theorem find?_eq (table : MultiplierTable) (code : Text) :
    table.find? code = if code ∈ table.entries then some code else none := by
  rw [find?]
  split
  · rename_i listed
    have met : (table.entries.find? (· == code)).isSome := by
      rw [List.find?_isSome]
      exact ⟨code, listed, beq_self_eq_true code⟩
    rcases Option.isSome_iff_exists.mp met with ⟨entry, found⟩
    have same := List.find?_some found
    rw [beq_iff_eq] at same
    rw [found, same]
  · rename_i unlisted
    rw [List.find?_eq_none]
    intro entry member same
    rw [beq_iff_eq] at same
    exact unlisted (same ▸ member)

end MultiplierTable
end ContestExchange
