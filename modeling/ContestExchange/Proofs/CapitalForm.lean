import ContestExchange.Proofs.Readability
import ContestExchange.Proofs.RuleMerge

namespace ContestExchange
namespace Text

/-!
# Texts in capitals stay as they are

Calls, names and recalled exchanges are put into capitals each time they are read, also when they
were written in capitals before.  Nothing is lost by that: the capital form of a character consists
of characters that have themselves as their capital form.

The mapping is a table, so this is a fact about the table.  A run of characters is compared with the
others as a whole: the capitals of one run lie outside another one, or they lie in the gaps between
its members.  Trimmed texts stay trimmed for the same reason, since no capital is a blank.
-/

/-! ## Runs of the table -/

namespace CapitalRun

variable {run other : CapitalRun} {code : Nat}

/-- The code point of the capital of a member. -/
def capitalOf (run : CapitalRun) (code : Nat) : Nat := (code + run.distance).toNat

/-- Whether the capitals of a run are characters, and no surrogates among them. -/
def isPlaced (run : CapitalRun) : Bool :=
  0 ≤ run.first + run.distance &&
    (run.last + run.distance < 0xD800 ||
      (0xE000 ≤ run.first + run.distance && run.last + run.distance < 0x110000))

/-- Whether no member of a run lies among code points from `low` to `high`.  Where they overlap,
both have to leave gaps for each other: `sparse` tells that the code points have the parity of
`low`. -/
def isBeside (low high : Nat) (sparse : Bool) (other : CapitalRun) : Bool :=
  high.blt other.first || other.last.blt low ||
    (sparse && other.stride.beq 2 && ((low + other.first) % 2).beq 1)

/-- Whether no capital of a run is a member of one of some others. -/
def keepsClear (run : CapitalRun) (others : List CapitalRun) : Bool :=
  others.all (isBeside (run.capitalOf run.first) (run.capitalOf run.last)
    (run.stride.beq 2 || run.first.beq run.last))

theorem has_iff :
    run.has code = true ↔
      run.first ≤ code ∧ code ≤ run.last ∧ (code - run.first) % run.stride = 0 := by
  simp only [has, Bool.and_eq_true, decide_eq_true_eq, beq_iff_eq, and_assoc]

/-- The capitals of a run keep the distances of its members. -/
theorem capitalOf_eq (placed : run.isPlaced = true) (inside : run.first ≤ code) :
    run.capitalOf code = run.capitalOf run.first + (code - run.first) := by
  simp only [isPlaced, Bool.and_eq_true, decide_eq_true_eq] at placed
  unfold capitalOf
  omega

theorem isValidChar_capitalOf (placed : run.isPlaced = true) (member : run.has code = true) :
    (run.capitalOf code).isValidChar := by
  rw [has_iff] at member
  simp only [isPlaced, Bool.and_eq_true, Bool.or_eq_true, decide_eq_true_eq] at placed
  unfold capitalOf Nat.isValidChar
  omega

theorem not_has_of_isBeside {low high : Nat} {sparse : Bool}
    (beside : isBeside low high sparse other = true) (above : low ≤ code) (below : code ≤ high)
    (parity : sparse = true → (code - low) % 2 = 0) : other.has code = false := by
  rw [Bool.eq_false_iff, ne_eq, has_iff]
  simp only [isBeside, Bool.or_eq_true, Bool.and_eq_true, Nat.blt_eq, Nat.beq_eq] at beside
  rcases beside with (before | behind) | ⟨⟨apart, twos⟩, odd⟩
  · omega
  · omega
  -- The code points are an even number of steps from `low`, and the members an odd one.
  · have even := parity apart
    rw [twos]
    omega

theorem not_has_capitalOf {others : List CapitalRun} (placed : run.isPlaced = true)
    (clear : run.keepsClear others = true) (among : other ∈ others) (member : run.has code = true) :
    other.has (run.capitalOf code) = false := by
  rcases has_iff.mp member with ⟨above, below, steps⟩
  have moved := capitalOf_eq placed above
  have last := capitalOf_eq placed (Nat.le_trans above below)
  refine not_has_of_isBeside (List.all_eq_true.mp clear other among) ?_ ?_ fun sparse => ?_
  · omega
  · omega
  · simp only [Bool.or_eq_true, Nat.beq_eq] at sparse
    rcases sparse with twos | single
    · rw [twos] at steps
      omega
    · omega

end CapitalRun

theorem isPlaced_of_mem : ∀ run ∈ capitalRuns, run.isPlaced = true := by decide +kernel

/-- A character that is spelled out, as a run of its own. -/
def spelledRun (entry : Nat × List Nat) : CapitalRun := ⟨entry.1, entry.1, 2, 0⟩

theorem keepsClear_of_mem :
    (capitalRuns.all fun run => run.keepsClear capitalRuns) = true := by
  decide +kernel

theorem keepsClear_spelled_of_mem :
    (capitalRuns.all fun run => run.keepsClear (spelledCapitals.map spelledRun)) = true := by
  decide +kernel

/-! ## Characters -/

theorem capital_of_absent {character : Char}
    (noRun : ∀ run ∈ capitalRuns, run.has character.toNat = false)
    (noSpelling : ∀ entry ∈ spelledCapitals, entry.1 ≠ character.toNat) :
    capital character = [character] := by
  have unlisted : capitalRuns.find? (·.has character.toNat) = none :=
    List.find?_eq_none.mpr fun run member => by rw [noRun run member]; exact Bool.false_ne_true
  have unspelled : spelledCapitals.find? (·.1 == character.toNat) = none :=
    List.find?_eq_none.mpr fun entry member => beq_iff_eq.not.mpr (noSpelling entry member)
  unfold capital
  dsimp only
  rw [unlisted, unspelled]
  split
  · split
    · rename_i small
      have letters : (⟨0x61, 0x7A, 1, -32⟩ : CapitalRun) ∈ capitalRuns := List.mem_cons_self
      have outside := noRun _ letters
      have bounds : 0x61 ≤ character.toNat ∧ character.toNat ≤ 0x7A := small
      rw [Bool.eq_false_iff, ne_eq, CapitalRun.has_iff] at outside
      exact absurd ⟨bounds.1, bounds.2, Nat.mod_one _⟩ outside
    · rfl
  · rfl

/-- What the capital form of a character can be: one letter in ASCII, the capital in a run, the
spelling of a listed character, or the character itself. -/
theorem mem_capital_cases {character mark : Char} (member : mark ∈ capital character) :
    character ≤ '\x7f' ∨
      (∃ run ∈ capitalRuns, run.has character.toNat = true ∧
        mark = Char.ofNat (run.capitalOf character.toNat)) ∨
      (∃ entry ∈ spelledCapitals, ∃ code ∈ entry.2, mark = Char.ofNat code) ∨
      (capital character = [character] ∧ mark = character) := by
  by_cases ascii : character.toNat < 0x80
  · exact .inl (Nat.le_of_lt_succ ascii)
  · unfold capital at member ⊢
    dsimp only at member ⊢
    rw [if_neg ascii] at member ⊢
    cases listed : capitalRuns.find? (·.has character.toNat) with
    | some run =>
        rw [listed] at member
        exact .inr (.inl ⟨run, List.mem_of_find?_eq_some listed,
          List.find?_some (p := fun run : CapitalRun => run.has character.toNat) listed,
          List.mem_singleton.mp member⟩)
    | none =>
        rw [listed] at member
        cases spelled : spelledCapitals.find? (·.1 == character.toNat) with
        | some entry =>
            rw [spelled] at member
            rcases List.mem_map.mp member with ⟨code, among, spelling⟩
            exact .inr (.inr (.inl ⟨entry, List.mem_of_find?_eq_some spelled, code, among,
              spelling.symm⟩))
        | none =>
            rw [spelled] at member
            exact .inr (.inr (.inr ⟨rfl, List.mem_singleton.mp member⟩))

theorem toNat_capitalOf {run : CapitalRun} (listed : run ∈ capitalRuns) {code : Nat}
    (member : run.has code = true) :
    (Char.ofNat (run.capitalOf code)).toNat = run.capitalOf code := by
  rw [Char.ofNat, dif_pos (CapitalRun.isValidChar_capitalOf (isPlaced_of_mem run listed) member)]
  rfl

/-- The capital form of a character consists of characters that are their own capital form. -/
theorem capital_of_mem_capital {character mark : Char} (member : mark ∈ capital character) :
    capital mark = [mark] := by
  rcases mem_capital_cases member with ascii | ⟨run, listed, has, same⟩ |
    ⟨entry, listed, code, among, same⟩ | ⟨own, same⟩
  · have all := of_codes (fun character =>
      (capital character).all (fun mark => capital mark == [mark]) = true) ascii (by decide +kernel)
    exact beq_iff_eq.mp (List.all_eq_true.mp all mark member)
  · have placed := isPlaced_of_mem run listed
    rw [same]
    apply capital_of_absent
    · intro other among
      rw [toNat_capitalOf listed has]
      exact CapitalRun.not_has_capitalOf placed (List.all_eq_true.mp keepsClear_of_mem run listed)
        among has
    · intro entry among hit
      rw [toNat_capitalOf listed has] at hit
      have clear := CapitalRun.not_has_capitalOf placed
        (List.all_eq_true.mp keepsClear_spelled_of_mem run listed)
        (List.mem_map_of_mem (f := spelledRun) among) has
      rw [← hit, Bool.eq_false_iff, ne_eq, CapitalRun.has_iff] at clear
      refine clear ⟨Nat.le_refl _, Nat.le_refl _, ?_⟩
      show (entry.1 - entry.1) % 2 = 0
      rw [Nat.sub_self]
  · have spellings : ∀ entry ∈ spelledCapitals, ∀ code ∈ entry.2,
        capital (Char.ofNat code) = [Char.ofNat code] := by decide +kernel
    rw [same]
    exact spellings entry listed code among
  · rw [same]
    exact own

/-- Whether the code points from `low` to `high` are no blanks. -/
def isInk (low high : Nat) : Bool :=
  blankRanges.all fun range => high < range.1 || range.2 < low

theorem isBlank_of_isInk {low high : Nat} (ink : isInk low high = true) {character : Char}
    (above : low ≤ character.toNat) (below : character.toNat ≤ high) :
    isBlank character = false := by
  rw [isBlank, CodeRanges.contains, List.any_eq_false]
  intro range among
  have apart := List.all_eq_true.mp ink range among
  simp only [Bool.or_eq_true, Bool.and_eq_true, decide_eq_true_eq] at apart ⊢
  omega

/-- What is no blank has no blank in its capital form. -/
theorem isBlank_of_mem_capital {character mark : Char} (noBlank : isBlank character = false)
    (member : mark ∈ capital character) : isBlank mark = false := by
  rcases mem_capital_cases member with ascii | ⟨run, listed, has, same⟩ |
    ⟨entry, listed, code, among, same⟩ | ⟨own, same⟩
  · have all := of_codes (fun character => (isBlank character ||
      (capital character).all (fun mark => !isBlank mark)) = true) ascii (by decide +kernel)
    rw [noBlank, Bool.false_or] at all
    have clear := List.all_eq_true.mp all mark member
    rw [Bool.not_eq_true'] at clear
    exact clear
  · have inks : ∀ run ∈ capitalRuns,
        isInk (run.capitalOf run.first) (run.capitalOf run.last) = true := by decide +kernel
    rcases CapitalRun.has_iff.mp has with ⟨above, below, _⟩
    have moved := CapitalRun.capitalOf_eq (isPlaced_of_mem run listed) above
    have last := CapitalRun.capitalOf_eq (isPlaced_of_mem run listed) (Nat.le_trans above below)
    have code := toNat_capitalOf listed has
    rw [← same] at code
    exact isBlank_of_isInk (inks run listed) (by omega) (by omega)
  · have spellings : ∀ entry ∈ spelledCapitals, ∀ code ∈ entry.2,
        isBlank (Char.ofNat code) = false := by decide +kernel
    rw [same]
    exact spellings entry listed code among
  · rw [same]
    exact noBlank

theorem capital_of_isBlank {character : Char} (blank : isBlank character = true) :
    capital character = [character] := by
  have all : ∀ range ∈ blankRanges, ∀ offset < range.2 - range.1 + 1,
      capital (Char.ofNat (range.1 + offset)) = [Char.ofNat (range.1 + offset)] := by
    decide +kernel
  rw [isBlank, CodeRanges.contains, List.any_eq_true] at blank
  rcases blank with ⟨range, among, inside⟩
  simp only [Bool.and_eq_true, decide_eq_true_eq] at inside
  have own := all range among (character.toNat - range.1) (by omega)
  rw [Nat.add_sub_cancel' inside.1, Char.ofNat_toNat] at own
  exact own

/-! ## Texts -/

theorem upper_cons (first : Char) (rest : Text) :
    upper (first :: rest) = capital first ++ upper rest :=
  List.flatMap_cons

theorem upper_of_forall {text : Text} (own : ∀ character ∈ text, capital character = [character]) :
    upper text = text := by
  induction text with
  | nil => rfl
  | cons first rest inductionHypothesis =>
      have behind : upper rest = rest := inductionHypothesis fun character among =>
        own character (List.mem_cons_of_mem first among)
      rw [upper_cons, own first List.mem_cons_self, behind, List.singleton_append]

theorem capital_of_mem_upper {text : Text} {mark : Char} (member : mark ∈ upper text) :
    capital mark = [mark] := by
  rcases List.mem_flatMap.mp member with ⟨character, _, among⟩
  exact capital_of_mem_capital among

theorem upper_upper (text : Text) : upper (upper text) = upper text :=
  upper_of_forall fun _ member => capital_of_mem_upper member

theorem capital_of_isTypable {character : Char} (typable : isTypable character = true) :
    capital character = [character] := by
  simp only [isTypable, Bool.and_eq_true, decide_eq_true_eq] at typable
  exact of_codes (fun character => ' ' ≤ character → capital character = [character]) typable.2
    (by decide +kernel) typable.1

/-- Whether a text neither starts nor ends with a blank. -/
structure IsTrimmed (text : Text) : Prop where
  starts : ∀ first ∈ text.head?, isBlank first = false
  ends : ∀ last ∈ text.getLast?, isBlank last = false

theorem IsTrimmed.trim_eq {text : Text} (trimmed : IsTrimmed text) : trim text = text := by
  have stays (text : Text) (starts : ∀ first ∈ text.head?, isBlank first = false) :
      text.dropWhile isBlank = text := by
    cases text with
    | nil => rfl
    | cons first rest =>
        rw [List.dropWhile_cons, starts first rfl, if_neg Bool.false_ne_true]
  rw [Text.trim, trimStart, stays text trimmed.starts, trimEnd, stays, List.reverse_reverse]
  intro last member
  rw [List.head?_reverse] at member
  exact trimmed.ends last member

theorem isTrimmed_trim (text : Text) : IsTrimmed (Text.trim text) := by
  have behind (text : Text) : ∀ first ∈ (text.dropWhile isBlank).head?, isBlank first = false := by
    intro first member
    have head := List.head?_dropWhile_not isBlank text
    rw [member] at head
    exact head
  constructor
  · intro first member
    have front : Text.trim text <+: trimStart text := by
      rw [← List.reverse_suffix, Text.trim, trimEnd, List.reverse_reverse]
      exact List.dropWhile_suffix isBlank
    rcases front with ⟨rest, split⟩
    refine behind text first ?_
    show first ∈ (trimStart text).head?
    rw [← split, List.head?_append, member]
    rfl
  · intro last member
    rw [Text.trim, trimEnd, List.getLast?_reverse] at member
    exact behind _ last member

/-- A trimmed text is trimmed in capitals too. -/
theorem IsTrimmed.capitals {text : Text} (trimmed : IsTrimmed text) : IsTrimmed (upper text) := by
  constructor
  · intro mark member
    cases text with
    | nil => exact absurd member (Option.not_mem_none mark)
    | cons first rest =>
        rw [upper_cons, List.head?_append_of_ne_nil _ (capital_ne_nil first)] at member
        exact isBlank_of_mem_capital (trimmed.starts first rfl) (List.mem_of_head? member)
  · intro mark member
    rcases List.eq_nil_or_concat text with rfl | ⟨front, last, rfl⟩
    · exact absurd member (Option.not_mem_none mark)
    · have split : upper (front ++ [last]) = upper front ++ capital last := by
        rw [upper, List.flatMap_append, List.flatMap_singleton]
        rfl
      rw [List.concat_eq_append] at trimmed member
      rw [split, List.getLast?_append_of_ne_nil _ (capital_ne_nil last)] at member
      exact isBlank_of_mem_capital (trimmed.ends last List.getLast?_concat)
        (List.mem_of_getLast? member)

end Text
end ContestExchange
