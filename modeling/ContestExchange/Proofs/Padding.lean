import ContestExchange.Exchange.Serial

namespace ContestExchange
namespace Serial

/-!
# What padding puts in front

Each of the three ways of padding has its own idea of where a short serial ends, and its own list of
texts that it lengthens.  Behind the lists stands one rule: a serial of fewer than three characters
gets as many zeros in front as it lacks.  The ways differ in nothing but what they count as the
serial.  One counts the whole text, one what stands before the first blank, and one does so only if
there is a blank.

A text that is padded starts with a digit, so its first character is no blank.  That is why the
second rule of a padding never applies to what the first one has already padded.
-/

/-! ## What the serial lacks -/

/-- The characters that a padding takes for the serial at the start of a text, if it sees one. -/
def serialSeen? : Padding → Text → Option Text
  | .none, _ => none
  | .length, text => some text
  | .wpx, text => some (Text.before ' ' text)
  | .compressed, text => if ' ' ∈ text then some (Text.before ' ' text) else none

/-- How many characters the serial has less than three. -/
def missing (padding : Padding) (text : Text) : Nat :=
  match serialSeen? padding text with
  | some serial => 3 - serial.length
  | none => 0

theorem before_cons (mark first : Char) (rest : Text) :
    Text.before mark (first :: rest) =
      if first = mark then [] else first :: Text.before mark rest := by
  by_cases same : first = mark
  · rw [if_pos same, Text.before, List.takeWhile_cons, if_neg (by simp [same])]
  · rw [if_neg same, Text.before, List.takeWhile_cons, if_pos (by simp [same]), Text.before]

/-- Behind the serial the text ends or has a blank. -/
theorem split_of_serialSeen? {padding : Padding} {text serial : Text}
    (seen : serialSeen? padding text = some serial) :
    ∃ ending, text = serial ++ ending ∧ (ending = [] ∨ ∃ rest, ending = ' ' :: rest) := by
  have atBlank : ∃ ending, text = Text.before ' ' text ++ ending ∧
      (ending = [] ∨ ∃ rest, ending = ' ' :: rest) := by
    refine ⟨text.dropWhile (· != ' '), List.takeWhile_append_dropWhile.symm, ?_⟩
    have head := List.head?_dropWhile_not (· != ' ') text
    cases ending : text.dropWhile (· != ' ') with
    | nil => exact Or.inl rfl
    | cons first rest =>
        rw [ending] at head
        have blank : first = ' ' := by simpa using head
        exact Or.inr ⟨rest, by rw [blank]⟩
  cases padding with
  | none => cases seen
  | length =>
      cases seen
      exact ⟨[], (List.append_nil text).symm, Or.inl rfl⟩
  | wpx =>
      cases seen
      exact atBlank
  | compressed =>
      rw [serialSeen?] at seen
      split at seen
      · cases seen
        exact atBlank
      · cases seen

theorem serialSeen?_ne_nil {padding : Padding} {first : Char} {rest serial : Text}
    (noBlank : first ≠ ' ') (seen : serialSeen? padding (first :: rest) = some serial) :
    serial ≠ [] := by
  intro nothing
  rcases split_of_serialSeen? seen with ⟨ending, split, ends⟩
  rw [nothing, List.nil_append] at split
  rcases ends with empty | ⟨others, blank⟩
  · rw [empty] at split
    cases split
  · rw [blank] at split
    exact noBlank (List.cons.inj split).1

theorem ne_blank_of_isDigit {character : Char} (digit : Text.isDigit character = true) :
    character ≠ ' ' := by
  intro blank
  subst blank
  exact absurd digit (by decide)

/-! ## The three lists -/

section Lists

variable {first : Char}

theorem padOne_cons_cons (first second : Char) (rest : Text) :
    padOne (first :: second :: rest) =
      if second = ' ' then '0' :: '0' :: first :: second :: rest else first :: second :: rest := by
  by_cases blank : second = ' '
  · rw [if_pos blank, blank]
    rfl
  · rw [if_neg blank]
    unfold padOne
    split
    · rename_i same
      cases same
    · rename_i same
      cases same
      exact absurd rfl blank
    · rfl

theorem padTwo_cons_cons_cons (first second third : Char) (rest : Text) :
    padTwo (first :: second :: third :: rest) =
      if third = ' ' then '0' :: first :: second :: third :: rest
      else first :: second :: third :: rest := by
  by_cases blank : third = ' '
  · rw [if_pos blank, blank]
    rfl
  · rw [if_neg blank]
    unfold padTwo
    split
    · rename_i same
      cases same
    · rename_i same
      cases same
      exact absurd rfl blank
    · rfl

theorem padSeparatedOne_cons_cons (noBlank : first ≠ ' ') (second : Char) (rest : Text) :
    padSeparatedOne (first :: second :: rest) =
      if second = ' ' then '0' :: '0' :: first :: second :: rest else first :: second :: rest := by
  by_cases blank : second = ' '
  · rw [if_pos blank, blank, padSeparatedOne, if_neg noBlank]
  · rw [if_neg blank]
    unfold padSeparatedOne
    split
    · rename_i same
      cases same
      exact absurd rfl blank
    · rfl

theorem padSeparatedTwo_cons_cons_cons {second : Char} (noBlank : second ≠ ' ') (third : Char)
    (rest : Text) :
    padSeparatedTwo (first :: second :: third :: rest) =
      if third = ' ' then '0' :: first :: second :: third :: rest
      else first :: second :: third :: rest := by
  by_cases blank : third = ' '
  · rw [if_pos blank, blank, padSeparatedTwo, if_neg noBlank]
  · rw [if_neg blank]
    unfold padSeparatedTwo
    split
    · rename_i same
      cases same
      exact absurd rfl blank
    · rfl

theorem padByLength_eq (text : Text) (present : text ≠ []) :
    padByLength text = List.replicate (3 - text.length) '0' ++ text := by
  match text, present with
  | [only], _ => rfl
  | [first, second], _ => rfl
  | first :: second :: third :: rest, _ =>
      have enough : 3 - (first :: second :: third :: rest).length = 0 := by
        simp only [List.length_cons]
        omega
      rw [enough]
      rfl

/-- A serial that ends at the first blank or at the end gets what it lacks there. -/
theorem padToBlank_eq (noBlank : first ≠ ' ') (rest : Text) :
    padToBlank (first :: rest) =
      List.replicate (3 - (Text.before ' ' (first :: rest)).length) '0' ++ first :: rest := by
  match rest with
  | [] =>
      have one : (Text.before ' ' [first]).length = 1 := by
        rw [before_cons, if_neg noBlank]
        rfl
      rw [one]
      exact (padTwo_cons_cons_cons '0' '0' first []).trans (if_neg noBlank)
  | second :: rest =>
      rw [padToBlank, padOne_cons_cons, before_cons, if_neg noBlank, before_cons]
      by_cases oneOnly : second = ' '
      · rw [if_pos oneOnly, if_pos oneOnly, padTwo_cons_cons_cons, if_neg noBlank]
        rfl
      · rw [if_neg oneOnly, if_neg oneOnly]
        match rest with
        | [] => rfl
        | third :: rest =>
            rw [padTwo_cons_cons_cons, before_cons]
            by_cases twoOnly : third = ' '
            · rw [if_pos twoOnly, if_pos twoOnly]
              rfl
            · rw [if_neg twoOnly, if_neg twoOnly]
              have enough (others : Text) :
                  3 - (first :: second :: third :: others).length = 0 := by
                simp only [List.length_cons]
                omega
              rw [enough]
              rfl

/-- With a blank in the text it does not matter whether the end of the text would do as well. -/
theorem padSeparated_eq (noBlank : first ≠ ' ') (rest : Text) :
    padSeparated (first :: rest) =
      if ' ' ∈ first :: rest then padToBlank (first :: rest) else first :: rest := by
  match rest with
  | [] =>
      have absent : ' ' ∉ [first] := fun member => noBlank (List.mem_singleton.mp member).symm
      rw [if_neg absent]
      rfl
  | second :: rest =>
      rw [padSeparated, padSeparatedOne_cons_cons noBlank, padToBlank, padOne_cons_cons]
      by_cases oneOnly : second = ' '
      · have present : ' ' ∈ first :: second :: rest := by simp [oneOnly]
        rw [if_pos present, if_pos oneOnly, padTwo_cons_cons_cons,
          padSeparatedTwo_cons_cons_cons (by decide)]
      · rw [if_neg oneOnly]
        match rest with
        | [] =>
            have absent : ' ' ∉ [first, second] := by
              simp [Ne.symm noBlank, Ne.symm oneOnly]
            rw [if_neg absent]
            rfl
        | third :: rest =>
            rw [padSeparatedTwo_cons_cons_cons oneOnly, padTwo_cons_cons_cons]
            by_cases twoOnly : third = ' '
            · have present : ' ' ∈ first :: second :: third :: rest := by simp [twoOnly]
              rw [if_pos present]
            · rw [if_neg twoOnly, ite_self]

/-- Whatever the way of padding, a text gets the zeros that its serial lacks. -/
theorem padBy_eq (padding : Padding) (noBlank : first ≠ ' ') (rest : Text) :
    padBy padding (first :: rest) =
      List.replicate (missing padding (first :: rest)) '0' ++ first :: rest := by
  cases padding with
  | none => rfl
  | length => exact padByLength_eq (first :: rest) (List.cons_ne_nil first rest)
  | wpx => exact padToBlank_eq noBlank rest
  | compressed =>
      show padSeparated (first :: rest) = _
      rw [padSeparated_eq noBlank, missing, serialSeen?]
      split
      · exact padToBlank_eq noBlank rest
      · rfl

end Lists

/-! ## Padding an exchange -/

/-- Whether a text starts with a digit. -/
def StartsWithDigit (text : Text) : Prop :=
  ∃ first rest, text = first :: rest ∧ Text.isDigit first = true

/-- Whether there is room for the zeros that the serial of a text lacks. -/
def HasRoom (padding : Padding) (width : Option Int) (text : Text) : Prop :=
  ∀ limit ∈ width, ((missing padding text + text.length : Nat) : Int) ≤ limit

/-- Padding puts the zeros that a serial lacks in front of the text if it starts with a digit and
has room for all of them.  Else it leaves the text alone. -/
theorem pad_eq (padding : Padding) (width : Option Int) (text : Text) :
    (StartsWithDigit text ∧ HasRoom padding width text ∧
        pad padding width text = List.replicate (missing padding text) '0' ++ text) ∨
      ¬ (StartsWithDigit text ∧ HasRoom padding width text) ∧ pad padding width text = text := by
  cases text with
  | nil =>
      right
      refine ⟨?_, rfl⟩
      rintro ⟨⟨first, rest, split, _⟩, _⟩
      cases split
  | cons first rest =>
      by_cases digit : Text.isDigit first = true
      · have starts : StartsWithDigit (first :: rest) := ⟨first, rest, rfl, digit⟩
        have padded := padBy_eq padding (ne_blank_of_isDigit digit) rest
        have size : (padBy padding (first :: rest)).length =
            missing padding (first :: rest) + (first :: rest).length := by
          rw [padded, List.length_append, List.length_replicate]
        cases width with
        | none =>
            left
            refine ⟨starts, fun limit nothing => absurd nothing (Option.not_mem_none limit), ?_⟩
            simp only [pad, digit, if_true, padded]
        | some width =>
            by_cases tooLong : width < (padBy padding (first :: rest)).length
            · right
              constructor
              · rintro ⟨_, room⟩
                have fits := room width rfl
                rw [size] at tooLong
                omega
              · simp only [pad, digit, if_true, if_pos tooLong]
            · left
              refine ⟨starts, ?_, ?_⟩
              · intro limit same
                cases same
                rw [size] at tooLong
                omega
              · simp only [pad, digit, if_true, if_neg tooLong]
                exact padded
      · right
        constructor
        · rintro ⟨⟨_, _, split, isDigit⟩, _⟩
          cases split
          exact digit isDigit
        · simp only [pad, Bool.not_eq_true _ |>.mp digit, Bool.false_eq_true, if_false]

/-! ## Where zeros are put -/

/-- The zeros that may be put in front of a text: two before one character, one before two, if the
text ends there or a blank follows. -/
inductive Leads : Text → Text → Prop where
  | one (only : Char) : Leads ['0', '0'] [only]
  | oneToBlank (first : Char) (rest : Text) : Leads ['0', '0'] (first :: ' ' :: rest)
  | two (first second : Char) : Leads ['0'] [first, second]
  | twoToBlank (first second : Char) (rest : Text) : Leads ['0'] (first :: second :: ' ' :: rest)

theorem Leads.eq_zeros {zeros text : Text} (leads : Leads zeros text) :
    zeros = ['0'] ∨ zeros = ['0', '0'] := by
  cases leads with
  | one | oneToBlank => exact Or.inr rfl
  | two | twoToBlank => exact Or.inl rfl

theorem leads_of_short {serial ending : Text} (present : serial ≠ []) (short : serial.length < 3)
    (ends : ending = [] ∨ ∃ rest, ending = ' ' :: rest) :
    Leads (List.replicate (3 - serial.length) '0') (serial ++ ending) := by
  match serial, present with
  | [only], _ =>
      rcases ends with nothing | ⟨rest, blank⟩
      · rw [nothing]
        exact .one only
      · rw [blank]
        exact .oneToBlank only rest
  | [first, second], _ =>
      rcases ends with nothing | ⟨rest, blank⟩
      · rw [nothing]
        exact .two first second
      · rw [blank]
        exact .twoToBlank first second rest
  | first :: second :: third :: rest, _ =>
      simp only [List.length_cons] at short
      omega

/-- Padding leaves a text as it is, or puts zeros in front of a text that starts with a digit. -/
theorem pad_cases (padding : Padding) (width : Option Int) (text : Text) :
    pad padding width text = text ∨
      ∃ zeros first rest, text = first :: rest ∧ Text.isDigit first = true ∧
        Leads zeros text ∧ pad padding width text = zeros ++ text := by
  rcases pad_eq padding width text with ⟨⟨first, rest, starts, digit⟩, _, padded⟩ | ⟨_, same⟩
  · by_cases enough : missing padding text = 0
    · left
      rw [padded, enough]
      rfl
    · right
      refine ⟨_, first, rest, starts, digit, ?_, padded⟩
      unfold missing at enough ⊢
      cases seen : serialSeen? padding text with
      | none =>
          rw [seen] at enough
          exact absurd rfl enough
      | some serial =>
          rw [seen] at enough
          rcases split_of_serialSeen? seen with ⟨ending, split, ends⟩
          have present : serial ≠ [] := by
            rw [starts] at seen
            exact serialSeen?_ne_nil (ne_blank_of_isDigit digit) seen
          have leads := leads_of_short present (Nat.lt_of_sub_ne_zero enough) ends
          rw [← split] at leads
          exact leads
  · exact Or.inl same

end Serial
end ContestExchange
