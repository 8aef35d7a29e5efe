import ContestExchange.Document.Conversion
import ContestExchange.Proofs.ValueText

namespace ContestExchange
namespace Value

/-!
# Values that writing keeps

A document has no pairs of its own: it can give some, but they are written as lists.  Everything else
is read again as it was.  So a value is kept exactly if none of its parts is a pair, and how deep a
part lies does not matter.
-/

/-- Whether a value is a pair. -/
def isPair : Value → Bool
  | .pair _ _ => true
  | _ => false

/-- Whether there is a pair in a value. -/
def HasPair (value : Value) : Prop := ∃ part ∈ value.parts 0, part.2.isPair = true

mutual

theorem asWritten_eq_iff (level : Nat) (value : Value) :
    value.asWritten = value ↔ ∀ part ∈ value.parts level, part.2.isPair = false := by
  unfold parts
  rw [List.forall_mem_cons]
  cases value with
  | list items =>
      unfold asWritten
      rw [list.injEq, itemsAsWritten_eq_iff (level + 1) items]
      exact (and_iff_right rfl).symm
  | set members =>
      unfold asWritten
      rw [set.injEq, itemsAsWritten_eq_iff (level + 1) members]
      exact (and_iff_right rfl).symm
  | mapping entries =>
      unfold asWritten
      rw [mapping.injEq, entriesAsWritten_eq_iff (level + 1) entries]
      exact (and_iff_right rfl).symm
  | pair first second =>
      unfold asWritten
      exact iff_of_false nofun fun kept => nomatch kept.1
  | _ =>
      unfold asWritten
      exact iff_of_true rfl ⟨rfl, nofun⟩

theorem itemsAsWritten_eq_iff (level : Nat) (items : List Value) :
    itemsAsWritten items = items ↔ ∀ part ∈ itemParts level items, part.2.isPair = false := by
  cases items with
  | nil => exact iff_of_true rfl nofun
  | cons item rest =>
      unfold itemsAsWritten itemParts
      rw [List.cons.injEq, asWritten_eq_iff level item, itemsAsWritten_eq_iff level rest,
        List.forall_mem_append]

theorem entriesAsWritten_eq_iff (level : Nat) (entries : List (Value × Value)) :
    entriesAsWritten entries = entries ↔
      ∀ part ∈ entryParts level entries, part.2.isPair = false := by
  cases entries with
  | nil => exact iff_of_true rfl nofun
  | cons entry rest =>
      rcases entry with ⟨key, value⟩
      unfold entriesAsWritten entryParts
      rw [List.cons.injEq, Prod.mk.injEq, asWritten_eq_iff level key, asWritten_eq_iff level value,
        entriesAsWritten_eq_iff level rest, List.forall_mem_append, List.forall_mem_append]

end

/-- Writing keeps a value exactly if there is no pair in it. -/
theorem asWritten_eq_self_iff {value : Value} : value.asWritten = value ↔ ¬ value.HasPair := by
  rw [asWritten_eq_iff 0, HasPair]
  simp only [not_exists, not_and, Bool.not_eq_true]

theorem itemsAsWritten_eq_self_iff {values : List Value} :
    itemsAsWritten values = values ↔ ∀ value ∈ values, ¬ value.HasPair := by
  induction values with
  | nil => exact iff_of_true rfl nofun
  | cons value rest inductionHypothesis =>
      rw [itemsAsWritten, List.cons.injEq, asWritten_eq_self_iff, inductionHypothesis,
        List.forall_mem_cons]

/-! ## Values without pairs -/

theorem asWritten_ofQuantity (quantity : Quantity) :
    (ofQuantity quantity).asWritten = ofQuantity quantity := by
  cases quantity <;> rfl

theorem asWritten_texts (texts : List Text) :
    (list (texts.map .text)).asWritten = .list (texts.map .text) := by
  have items : itemsAsWritten (texts.map .text) = texts.map .text := by
    induction texts with
    | nil => rfl
    | cons text rest inductionHypothesis =>
        rw [List.map_cons, itemsAsWritten, inductionHypothesis]
        rfl
  rw [asWritten, items]

theorem asWritten_fields (settings : List (String × Value)) :
    (fields settings).asWritten =
      fields (settings.map fun setting => (setting.1, setting.2.asWritten)) := by
  have entries : entriesAsWritten (settings.map fun setting => (ofString setting.1, setting.2)) =
      settings.map fun setting => (ofString setting.1, setting.2.asWritten) := by
    induction settings with
    | nil => rfl
    | cons setting rest inductionHypothesis =>
        rw [List.map_cons, entriesAsWritten, inductionHypothesis]
        rfl
  rw [fields, asWritten, entries, fields, List.map_map]
  rfl

end Value
end ContestExchange
