import ContestExchange.Proofs.Group
import ContestExchange.Proofs.TemplateOrder

namespace ContestExchange
namespace Extraction

/-!
# The call typed last

A call is retyped between blanks, so it is a group of the text, and the last one of its own kinds.
Each shape of calls keeps the last group of its kinds, if that group looks North American, and a
later shape overrides an earlier one.  So the call that is typed last is found unless a later shape
has kept a group as well.  That group is preferred, however early it stands.
-/

/-! ## The group under a shape -/

theorem slice_zero (text : Text) (size : Nat) : Sequence.slice text 0 size = text.take size := by
  have start : Sequence.clamp text.length 0 = 0 := Nat.zero_min text.length
  have stop : Sequence.clamp text.length (size : Int) = min size text.length := by
    rw [Sequence.clamp, if_neg (Int.not_lt.mpr (Int.natCast_nonneg size)), Int.toNat_natCast]
  rw [Sequence.slice, start, stop, List.drop_zero, ← List.take_eq_take_min]

theorem slice_behind (front back : Text) (size : Nat) :
    Sequence.slice (front ++ ' ' :: back) ((front.length : Int) + 1)
      ((front.length : Int) + 1 + size) = back.take size := by
  have behind := slice_append (front ++ [' ']) back (Int.le_refl 0) (Int.natCast_nonneg size)
  have place : ((front ++ [' ']).length : Int) = (front.length : Int) + 1 := by
    rw [List.length_append, List.length_singleton]
    rfl
  rw [List.append_assoc, List.singleton_append, place, Int.zero_add,
    Int.add_comm (size : Int), slice_zero] at behind
  exact behind

/-- Whether a group looks North American is seen by its first two characters. -/
theorem looksAmerican_take {group : Text} (two : 2 ≤ group.length) :
    looksAmerican (group.take 2) = looksAmerican group := by
  match group, two with
  | first :: second :: rest, _ => rfl

theorem callLength_between (kinds : List Symbol) :
    Template.callLength (Template.between kinds) = (kinds.length : Int) := by
  rw [Template.callLength, Template.between, List.length_cons, List.length_append,
    List.length_singleton]
  omega

/-- The last group of some kinds, if it looks North American. -/
def americanGroup? (text : Text) (kinds : List Symbol) : Option Text :=
  (lastGroup? kinds text).filter looksAmerican

theorem groupUnder?_between {kinds : List Symbol} (noBlank : .blank ∉ kinds)
    (two : 2 ≤ kinds.length) (text : Text) :
    groupUnder? text (classify text) (Template.between kinds) = americanGroup? text kinds := by
  rcases locate_between noBlank text with
    ⟨nowhere, noGroup⟩ | ⟨front, group, back, split, there, last⟩
  · rw [groupUnder?, nowhere, americanGroup?, noGroup]
    rfl
  · have size : group.length = kinds.length := by
      rw [← map_of_lastGroup? last, List.length_map]
    have start : textIndex ((front.length + 1 : Nat) : Int) 1 = (front.length : Int) + 1 := by
      simp only [textIndex]
      omega
    have whole : Sequence.slice text ((front.length : Int) + 1)
        ((front.length : Int) + 1 + kinds.length) = group := by
      rw [split, slice_behind, ← size, List.take_left]
    have beginning : Sequence.slice text ((front.length : Int) + 1)
        ((front.length : Int) + 1 + 2) = group.take 2 := by
      rw [split]
      refine (slice_behind front (group ++ ' ' :: back) 2).trans ?_
      exact List.take_append_of_le_length (size ▸ two)
    rw [groupUnder?, there, americanGroup?, last, Option.filter_some]
    simp only [start, callLength_between, whole, beginning, looksAmerican_take (size ▸ two)]

/-! ## The call of a text -/

/-- The kinds of characters of the calls that an exchange is scanned for. -/
def callKinds : List (List Symbol) := TemplateSet.callShapes.map fun shape => shape.tail.dropLast

theorem callShapes_eq : TemplateSet.callShapes = callKinds.map Template.between := by decide

theorem kinds_of_mem_callKinds : ∀ kinds ∈ callKinds, .blank ∉ kinds ∧ 2 ≤ kinds.length := by
  decide

/-- The call of a text is its last group that looks North American, of the latest shape with one. -/
theorem scanCall_callShapes (text : Text) :
    scanCall TemplateSet.callShapes text (classify text) =
      (callKinds.reverse.findSome? (americanGroup? text)).getD [] := by
  have under : ∀ kinds ∈ callKinds.reverse,
      groupUnder? text (classify text) (Template.between kinds) = americanGroup? text kinds := by
    intro kinds member
    rcases kinds_of_mem_callKinds kinds (List.mem_reverse.mp member) with ⟨noBlank, two⟩
    exact groupUnder?_between noBlank two text
  rw [scanCall_eq, callShapes_eq, ← List.map_reverse, List.findSome?_map]
  exact congrArg (·.getD []) (findSome?_congr under)

/-! ## Later shapes -/

/-- The call that the shapes behind one find in a text, the last shape first. -/
def laterCall? (kinds : List Symbol) (text : Text) : Option Text :=
  (callKinds.reverse.takeWhile (· != kinds)).findSome? (americanGroup? text)

theorem callKinds_split : ∀ kinds ∈ callKinds, callKinds.reverse =
    callKinds.reverse.takeWhile (· != kinds) ++
      kinds :: (callKinds.takeWhile (· != kinds)).reverse := by
  decide

theorem ne_of_mem_later {kinds later : List Symbol}
    (member : later ∈ callKinds.reverse.takeWhile (· != kinds)) : later ≠ kinds :=
  bne_iff_ne.mp (List.all_eq_true.mp List.all_takeWhile later member)

section LastCall

variable {call : Text}

theorem kinds_of_laterCall? {kinds : List Symbol} {text found : Text}
    (later : laterCall? kinds text = some found) : found.map Symbol.ofChar ≠ kinds := by
  rcases List.exists_of_findSome?_eq_some later with ⟨other, member, kept⟩
  have last := (Option.filter_eq_some_iff.mp kept).1
  rw [map_of_lastGroup? last]
  exact ne_of_mem_later member

/-- A call that is typed last is found, or what a later shape finds in the text before it. -/
theorem scanCall_append (shape : call.map Symbol.ofChar ∈ callKinds)
    (american : looksAmerican call = true) (text : Text) :
    scanCall TemplateSet.callShapes (text ++ ' ' :: (call ++ [' ']))
      (classify (text ++ ' ' :: (call ++ [' ']))) =
        (laterCall? (call.map Symbol.ofChar) (text ++ [' '])).getD call := by
  have whole : ' ' ∉ call := blank_notMem (kinds_of_mem_callKinds _ shape).1
  have here : americanGroup? (text ++ ' ' :: (call ++ [' '])) (call.map Symbol.ofChar) =
      some call := by
    rw [americanGroup?, lastGroup?_append_group whole, if_pos rfl, Option.filter_some,
      if_pos american]
  have later : laterCall? (call.map Symbol.ofChar) (text ++ ' ' :: (call ++ [' '])) =
      laterCall? (call.map Symbol.ofChar) (text ++ [' ']) := by
    apply findSome?_congr
    intro kinds member
    have other := ne_of_mem_later member
    rw [americanGroup?, lastGroup?_append_group whole, if_neg (Ne.symm other)]
    rfl
  rw [scanCall_callShapes, callKinds_split _ shape, List.findSome?_append, List.findSome?_cons,
    here, ← laterCall?, later]
  cases laterCall? (call.map Symbol.ofChar) (text ++ [' ']) <;> rfl

end LastCall

/-- Whether a group begins as North American calls do: with one of their letters, or with an `A`
before another letter. -/
def StartsAmerican (group : Text) : Prop :=
  (∃ first rest, group = first :: rest ∧ first ∈ Text.ofString "KNWVC") ∨
    ∃ second rest, group = 'A' :: second :: rest ∧ Text.isLetter second = true

/-- An empty group looks North American to the scan, although it does not begin so. -/
theorem startsAmerican_iff {group : Text} :
    StartsAmerican group ↔ group ≠ [] ∧ looksAmerican group = true := by
  have listed (first : Char) :
      americanLetters.contains first = true ↔ first ∈ Text.ofString "KNWVC" :=
    List.contains_iff_mem
  constructor
  · rintro (⟨first, rest, split, american⟩ | ⟨second, rest, split, letter⟩)
    · refine ⟨split ▸ List.cons_ne_nil first rest, ?_⟩
      rw [split]
      cases rest with
      | nil => exact (listed first).mpr american
      | cons second others =>
          rw [looksAmerican, (listed first).mpr american]
          rfl
    · refine ⟨split ▸ List.cons_ne_nil 'A' _, ?_⟩
      rw [split, looksAmerican, letter]
      rfl
  · rintro ⟨present, american⟩
    match group, present, american with
    | [first], _, american => exact Or.inl ⟨first, [], rfl, (listed first).mp american⟩
    | first :: second :: rest, _, american =>
        rw [looksAmerican, Bool.or_eq_true, Bool.and_eq_true, beq_iff_eq] at american
        rcases american with american | ⟨isA, letter⟩
        · exact Or.inl ⟨first, second :: rest, rfl, (listed first).mp american⟩
        · exact Or.inr ⟨second, rest, by rw [isA], letter⟩

/-- Whether a text is a call that is scanned for: one of the five shapes, with one of the letters
that North American calls begin with or an `A` before another letter. -/
structure IsCall (call : Text) : Prop where
  shape : Template.between (call.map Symbol.ofChar) ∈ TemplateSet.callShapes
  starts : (∃ first rest, call = first :: rest ∧ first ∈ Text.ofString "KNWVC") ∨
    ∃ second rest, call = 'A' :: second :: rest ∧ Text.isLetter second = true

theorem IsCall.kinds {call : Text} (isCall : IsCall call) :
    call.map Symbol.ofChar ∈ callKinds := by
  have shape := isCall.shape
  rw [callShapes_eq] at shape
  rcases List.mem_map.mp shape with ⟨kinds, listed, same⟩
  have inner := List.append_cancel_right (List.cons.inj same).2
  rw [← inner]
  exact listed

theorem IsCall.looksAmerican {call : Text} (isCall : IsCall call) :
    Extraction.looksAmerican call = true :=
  (startsAmerican_iff.mp isCall.starts).2

end Extraction

namespace Extractor

/-- A call that is typed behind a text and followed by a blank is found, unless the last group of a
later shape looks North American.  Then the group of the latest such shape is found. -/
theorem last_call_read {extractor : Extractor} (builtIn : extractor.templates = .builtIn)
    {call : Text} (isCall : Extraction.IsCall call) (text : Text) :
    extractor.correction (text ++ ' ' :: (call ++ [' '])) =
        (Extraction.laterCall? (call.map Symbol.ofChar) (text ++ [' '])).getD call ∧
      (extractor.correction (text ++ ' ' :: (call ++ [' '])) = call ↔
        Extraction.laterCall? (call.map Symbol.ofChar) (text ++ [' ']) = none) := by
  have found : extractor.correction (text ++ ' ' :: (call ++ [' '])) =
      (Extraction.laterCall? (call.map Symbol.ofChar) (text ++ [' '])).getD call := by
    rw [correction, builtIn]
    exact Extraction.scanCall_append isCall.kinds isCall.looksAmerican text
  refine ⟨found, ?_⟩
  rw [found]
  cases later : Extraction.laterCall? (call.map Symbol.ofChar) (text ++ [' ']) with
  | none => exact iff_of_true rfl rfl
  | some other =>
      refine iff_of_false ?_ (Option.some_ne_none other)
      intro same
      exact Extraction.kinds_of_laterCall? later (congrArg (List.map Symbol.ofChar) same)

/-- A call of a later shape is preferred to the one that is typed behind it. -/
theorem last_call_read_of_longer_call :
    Extraction.IsCall (Text.ofString "W1AB") ∧
      (Extractor.mk .serial false .empty .builtIn).correction (Text.ofString " K1ABC W1AB ") =
        Text.ofString "K1ABC" := by
  have isCall : Extraction.IsCall (Text.ofString "W1AB") :=
    ⟨by decide, Or.inl ⟨'W', Text.ofString "1AB", rfl, by decide⟩⟩
  have read := @last_call_read ⟨.serial, false, .empty, .builtIn⟩ rfl _ isCall
    (Text.ofString " K1ABC")
  exact ⟨isCall, read.1.trans rfl⟩

end Extractor
end ContestExchange
