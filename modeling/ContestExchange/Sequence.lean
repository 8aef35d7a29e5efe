namespace ContestExchange
namespace Sequence

/-!
# Lists by position and by measure

Editing keys and callers address a line by signed positions: a negative position counts from the
end of the list.  A single element may be missing, so `get?` is partial.  A slice never fails,
because both of its ends are clamped to the list first.

Where the elements of a list take room or time, they are measured and added up.
-/

variable {Item : Type}

/-- The unsigned place of a signed position, clamped to `0 .. length`. -/
def clamp (length : Nat) (position : Int) : Nat :=
  if position < 0 then (position + length).toNat else min position.toNat length

/-- The element at a signed position, if the list reaches that far. -/
def get? (items : List Item) (position : Int) : Option Item :=
  if 0 ≤ position then
    items[position.toNat]?
  else if 0 ≤ position + items.length then
    items[(position + items.length).toNat]?
  else
    none

/-- The elements from `start` up to, but not including, `stop`. -/
def slice (items : List Item) (start stop : Int) : List Item :=
  (items.take (clamp items.length stop)).drop (clamp items.length start)

theorem findSome?_cons_eq_or {Answer : Type} (answer : Item → Option Answer) (first : Item)
    (rest : List Item) :
    (first :: rest).findSome? answer = (answer first).or (rest.findSome? answer) := by
  rw [List.findSome?_cons]
  cases answer first <;> rfl

/-- The sum of a measure over the elements. -/
def total (measure : Item → Nat) : List Item → Nat
  | [] => 0
  | first :: rest => measure first + total measure rest

section Total

variable {Other : Type}

theorem total_append (measure : Item → Nat) (front back : List Item) :
    total measure (front ++ back) = total measure front + total measure back := by
  induction front with
  | nil => exact (Nat.zero_add _).symm
  | cons first rest inductionHypothesis =>
      rw [List.cons_append, total, total, inductionHypothesis, Nat.add_assoc]

theorem total_map (measure : Other → Nat) (change : Item → Other) (items : List Item) :
    total measure (items.map change) = total (fun item => measure (change item)) items := by
  induction items with
  | nil => rfl
  | cons first rest inductionHypothesis => rw [List.map_cons, total, total, inductionHypothesis]

theorem total_flatMap (measure : Other → Nat) (parts : Item → List Other) (items : List Item) :
    total measure (items.flatMap parts) = total (fun item => total measure (parts item)) items := by
  induction items with
  | nil => rfl
  | cons first rest inductionHypothesis =>
      rw [List.flatMap_cons, total_append, total, inductionHypothesis]

theorem total_flatten (measure : Item → Nat) (parts : List (List Item)) :
    total measure parts.flatten = total (total measure) parts := by
  rw [← List.flatMap_id, total_flatMap]
  rfl

theorem total_congr {measure other : Item → Nat} {items : List Item}
    (same : ∀ item ∈ items, measure item = other item) :
    total measure items = total other items := by
  induction items with
  | nil => rfl
  | cons first rest inductionHypothesis =>
      rw [total, total, same first List.mem_cons_self, inductionHypothesis fun item member =>
        same item (List.mem_cons_of_mem first member)]

theorem total_add (measure other : Item → Nat) (items : List Item) :
    total (fun item => measure item + other item) items =
      total measure items + total other items := by
  induction items with
  | nil => rfl
  | cons first rest inductionHypothesis =>
      rw [total, total, total, inductionHypothesis]
      omega

theorem total_mul (measure : Item → Nat) (factor : Nat) (items : List Item) :
    total (fun item => measure item * factor) items = total measure items * factor := by
  induction items with
  | nil => exact (Nat.zero_mul factor).symm
  | cons first rest inductionHypothesis => rw [total, total, inductionHypothesis, Nat.add_mul]

theorem total_const (amount : Nat) (items : List Item) :
    total (fun _ => amount) items = items.length * amount := by
  induction items with
  | nil => exact (Nat.zero_mul amount).symm
  | cons first rest inductionHypothesis =>
      rw [total, inductionHypothesis, List.length_cons, Nat.succ_mul, Nat.add_comm]

/-- A measure of one item alone counts it. -/
theorem total_ite_eq [DecidableEq Item] (item : Item) (amount : Nat) (items : List Item) :
    total (fun other => if other = item then amount else 0) items = items.count item * amount := by
  induction items with
  | nil => exact (Nat.zero_mul amount).symm
  | cons first rest inductionHypothesis =>
      rw [total, inductionHypothesis]
      by_cases same : first = item
      · rw [if_pos same, same, List.count_cons_self, Nat.succ_mul, Nat.add_comm]
      · rw [if_neg same, List.count_cons_of_ne same, Nat.zero_add]

end Total

end Sequence
end ContestExchange
