import ContestExchange.Document.Conversion
import ContestExchange.Sequence

namespace ContestExchange
namespace Value

/-!
# Values without a text

Writing a value goes through all that is in it, from the front and from the outside to the inside.  Two
things bring it to an end: a part that lies too deep, and an integer of too many digits.  So the fault
of writing a value is that of the first of its parts that has one, and this does not depend on how the
parts before it are written.

Texts are the exception, because one that is in no other value is not written but taken as it is.
-/

/-! ## Parts -/

mutual

/-- A value and all that is in it, in the order in which it is written, each with the number of values
that it lies in. -/
def parts (level : Nat) (value : Value) : List (Nat × Value) :=
  (level, value) ::
    match value with
    | .list items => itemParts (level + 1) items
    | .set members => itemParts (level + 1) members
    | .pair first second => parts (level + 1) first ++ parts (level + 1) second
    | .mapping entries => entryParts (level + 1) entries
    | _ => []

/-- The parts of some values. -/
def itemParts (level : Nat) : List Value → List (Nat × Value)
  | [] => []
  | item :: rest => parts level item ++ itemParts level rest

/-- The parts of some entries, with the keys before their values. -/
def entryParts (level : Nat) : List (Value × Value) → List (Nat × Value)
  | [] => []
  | (key, value) :: rest => parts level key ++ parts level value ++ entryParts level rest

end

/-- What keeps a part from being written: it lies too deep, or it has too many digits. -/
def partFault? (depth : Nat) (part : Nat × Value) : Option Fault :=
  if depth ≤ part.1 then some .tooDeep
  else
    match part.2 with
    | .int number =>
        if Literal.integerDigitLimit < (Decimal.natText number.natAbs).length then
          some .unreadableNumber
        else none
    | _ => none

/-- What keeps a value from having a text. -/
def textFault? (depth : Nat) : Value → Option Fault
  | .text _ => none
  | value => (value.parts 0).findSome? (partFault? depth)

/-! ## Writing -/

theorem of?_intText (number : Int) :
    Fault.of? (intText number) =
      if Literal.integerDigitLimit < (Decimal.natText number.natAbs).length then
        some .unreadableNumber
      else none := by
  unfold intText Decimal.intText?
  by_cases long : Literal.integerDigitLimit < (Decimal.natText number.natAbs).length
  · rw [if_pos long, if_pos long]
    rfl
  · rw [if_neg long, if_neg long]
    rfl

/-- What is written around a value that is written already has no fault of its own. -/
theorem of?_bind_return {First Second : Type} (first : Except Fault First) (next : First → Second) :
    Fault.of? (first >>= fun found => pure (next found)) = Fault.of? first :=
  Fault.of?_map first next

mutual

/-- The fault of writing a value that lies in others. -/
theorem of?_nestedText (depth level : Nat) (value : Value) :
    Fault.of? (nestedText depth value) =
      (parts level value).findSome? (partFault? (level + depth)) := by
  cases depth with
  | zero =>
      have deep : partFault? (level + 0) (level, value) = some .tooDeep :=
        if_pos (Nat.le_refl level)
      unfold parts nestedText
      rw [List.findSome?_cons, deep]
      rfl
  | succ depth =>
      have inside : ¬ level + (depth + 1) ≤ level := by omega
      have next : level + (depth + 1) = level + 1 + depth := by omega
      unfold parts nestedText
      rw [List.findSome?_cons, partFault?, if_neg inside]
      cases value with
      | null | bool | double | text | moment | bytes => rfl
      | int number =>
          dsimp only
          rw [of?_intText, List.findSome?_nil]
          by_cases long : Literal.integerDigitLimit < (Decimal.natText number.natAbs).length
          · rw [if_pos long]
          · rw [if_neg long]
      | list items =>
          dsimp only
          rw [of?_bind_return, of?_itemTexts depth (level + 1) items, next]
      | set members =>
          dsimp only
          rw [of?_bind_return, of?_itemTexts depth (level + 1) members, next]
      | pair first second =>
          dsimp only
          rw [Fault.of?_bind fun _ _ => of?_bind_return _ _, of?_nestedText depth (level + 1) first,
            of?_nestedText depth (level + 1) second, next, List.findSome?_append]
      | mapping entries =>
          dsimp only
          rw [of?_bind_return, of?_entryTexts depth (level + 1) entries, next]

theorem of?_itemTexts (depth level : Nat) (items : List Value) :
    Fault.of? (itemTexts depth items) =
      (itemParts level items).findSome? (partFault? (level + depth)) := by
  cases items with
  | nil => rfl
  | cons item rest =>
      unfold itemTexts itemParts
      rw [Fault.of?_bind fun _ _ => of?_bind_return _ _, of?_nestedText depth level item,
        of?_itemTexts depth level rest, List.findSome?_append]

theorem of?_entryTexts (depth level : Nat) (entries : List (Value × Value)) :
    Fault.of? (entryTexts depth entries) =
      (entryParts level entries).findSome? (partFault? (level + depth)) := by
  cases entries with
  | nil => rfl
  | cons entry rest =>
      rcases entry with ⟨key, value⟩
      unfold entryTexts entryParts
      rw [Fault.of?_bind fun _ _ => Fault.of?_bind fun _ _ => of?_bind_return _ _,
        of?_nestedText depth level key, of?_nestedText depth level value,
        of?_entryTexts depth level rest, List.findSome?_append, List.findSome?_append,
        Option.or_assoc]

end

theorem of?_toText (depth : Nat) (value : Value) :
    Fault.of? (value.toText depth) = textFault? depth value := by
  have nested := of?_nestedText depth 0 value
  rw [Nat.zero_add] at nested
  cases value with
  | text content => rfl
  | moment stamp =>
      rw [textFault?, ← nested]
      · cases depth <;> rfl
      · exact nofun
  | _ => exact nested

/-- Some values all have a text unless one of them has none, and then the first such one tells. -/
theorem of?_toTexts (depth : Nat) (values : List Value) :
    Fault.of? (toTexts depth values) = values.findSome? (textFault? depth) := by
  unfold toTexts
  induction values with
  | nil => rfl
  | cons value rest inductionHypothesis =>
      rw [List.mapM_cons, Fault.of?_bind fun _ _ => of?_bind_return _ _, of?_toText,
        inductionHypothesis, Sequence.findSome?_cons_eq_or]

end Value
end ContestExchange
