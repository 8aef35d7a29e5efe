import ContestExchange.Proofs.SweepstakesForm

namespace ContestExchange
namespace Extraction

/-!
# Calls among other parts

An exchange of several parts is taken apart from left to right, and no part gives anything back.  So
a part is taken as it was written if nothing before it reaches into it and it does not itself run
into what follows.  The second holds of every part with a blank or nothing behind it, because no
scan goes on beyond a blank.

A call is found by its core: a letter, digits and a letter.  What precedes the core may be almost
anything that a call is made of, and of several cores the first one counts.  It does not matter
which one that is, as long as everything else in the call is taken before it or behind it.
-/

/-! ## Parts that stand apart -/

/-- What may stand behind a part without being taken for more of it. -/
inductive Apart : Text → Prop where
  | nothing : Apart []
  | blank (rest : Text) : Apart (' ' :: rest)

section Apart

variable {ending : Text}

theorem Apart.takeWhile {mark : Char → Bool} (apart : Apart ending) (noBlank : mark ' ' = false) :
    ending.takeWhile mark = [] := by
  cases apart with
  | nothing => rfl
  | blank rest => rw [List.takeWhile_cons, noBlank, if_neg Bool.false_ne_true]

theorem takeWhile_dropWhile (mark : Char → Bool) (text : Text) :
    (text.dropWhile mark).takeWhile mark = [] := by
  have head := List.head?_dropWhile_not mark text
  cases behind : text.dropWhile mark with
  | nil => rfl
  | cons first rest =>
      rw [behind] at head
      have other : mark first = false := head
      rw [List.takeWhile_cons, other, if_neg Bool.false_ne_true]

theorem Apart.takeWhile_append {mark : Char → Bool} (apart : Apart ending)
    (noBlank : mark ' ' = false) (text : Text) :
    (text ++ ending).takeWhile mark = text.takeWhile mark := by
  induction text with
  | nil => exact apart.takeWhile noBlank
  | cons first rest inductionHypothesis =>
      rw [List.cons_append, List.takeWhile_cons, List.takeWhile_cons, inductionHypothesis]

theorem Apart.dropWhile_append {mark : Char → Bool} (apart : Apart ending)
    (noBlank : mark ' ' = false) (text : Text) :
    (text ++ ending).dropWhile mark = text.dropWhile mark ++ ending := by
  induction text with
  | nil => exact dropWhile_of_takeWhile (apart.takeWhile noBlank)
  | cons first rest inductionHypothesis =>
      rw [List.cons_append, List.dropWhile_cons, List.dropWhile_cons, inductionHypothesis]
      split
      · rfl
      · rfl

/-! ## The core of a call -/

theorem Apart.callCore?_append (apart : Apart ending) (text : Text) :
    callCore? (text ++ ending) =
      (callCore? text).map fun found => (found.1, found.2 ++ ending) := by
  cases text with
  | nil =>
      cases apart with
      | nothing => rfl
      | blank rest => exact callCore?_of_no_capital (by decide)
  | cons first rest =>
      have noDigit : Text.isDecimal ' ' = false := by decide
      have noLetter : Text.isCapital ' ' = false := by decide
      simp only [List.cons_append, callCore?, apart.takeWhile_append noDigit,
        apart.dropWhile_append noDigit, apart.takeWhile_append noLetter,
        apart.dropWhile_append noLetter]
      split
      · rfl
      · rfl

/-- A call in front of a blank is found as if it stood alone. -/
theorem Apart.callAfter?_append {mayPrecede : Char → Bool} (apart : Apart ending)
    (noBlank : mayPrecede ' ' = false) (text : Text) :
    callAfter? mayPrecede (text ++ ending) =
      (callAfter? mayPrecede text).map fun found => (found.1, found.2 ++ ending) := by
  induction text with
  | nil =>
      cases apart with
      | nothing => rfl
      | blank rest =>
          have noCore : callCore? (' ' :: rest) = none := callCore?_of_no_capital (by decide)
          simp only [List.nil_append, callAfter?, noCore, noBlank, Bool.false_eq_true, if_false,
            Option.map_none]
  | cons first rest inductionHypothesis =>
      have core := apart.callCore?_append (first :: rest)
      rw [List.cons_append] at core ⊢
      rw [callAfter?, callAfter?, core, inductionHypothesis]
      cases callCore? (first :: rest) with
      | some found => rfl
      | none =>
          cases mayPrecede first with
          | false => rfl
          | true =>
              cases callAfter? mayPrecede rest with
              | none => rfl
              | some found => rfl

end Apart

/-- A letter, digits and letters are a core of a call up to the first character that is no letter. -/
theorem callCore?_of_core {first : Char} {digits letters rest : Text}
    (capital : Text.isCapital first = true) (someDigits : digits ≠ [])
    (decimal : ∀ character ∈ digits, Text.isDecimal character = true) (someLetters : letters ≠ [])
    (capitals : ∀ character ∈ letters, Text.isCapital character = true)
    (stops : rest.takeWhile Text.isCapital = []) :
    callCore? (first :: (digits ++ (letters ++ rest))) =
      some (first :: (digits ++ letters), rest) := by
  have noDigit : (letters ++ rest).takeWhile Text.isDecimal = [] := by
    cases letters with
    | nil => exact absurd rfl someLetters
    | cons letter others =>
        exact takeWhile_of_capital (capitals letter List.mem_cons_self)
  have digitsPresent : digits.isEmpty = false := List.isEmpty_eq_false_iff.mpr someDigits
  have lettersPresent : letters.isEmpty = false := List.isEmpty_eq_false_iff.mpr someLetters
  simp only [callCore?, List.takeWhile_append_of_pos decimal, List.dropWhile_append_of_pos decimal,
    noDigit, dropWhile_of_takeWhile noDigit, List.takeWhile_append_of_pos capitals,
    List.dropWhile_append_of_pos capitals, stops, dropWhile_of_takeWhile stops, List.append_nil,
    capital, digitsPresent, lettersPresent, Bool.not_false, Bool.and_true, if_true,
    List.cons_append]

theorem append_of_callCore? {text front back : Text} (found : callCore? text = some (front, back)) :
    front ++ back = text := by
  cases text with
  | nil => cases found
  | cons first rest =>
      simp only [callCore?] at found
      split at found
      · cases found
        simp only [List.cons_append, List.append_assoc, List.takeWhile_append_dropWhile]
      · cases found

/-- A call that is found and the rest behind it are the whole text. -/
theorem append_of_callAfter? {mayPrecede : Char → Bool} {text front back : Text}
    (found : callAfter? mayPrecede text = some (front, back)) : front ++ back = text := by
  induction text generalizing front with
  | nil => cases found
  | cons first rest inductionHypothesis =>
      rw [callAfter?] at found
      cases core : callCore? (first :: rest) with
      | some here =>
          rw [core] at found
          cases found
          exact append_of_callCore? core
      | none =>
          rw [core] at found
          dsimp only at found
          split at found
          · rcases Option.map_eq_some_iff.mp found with ⟨later, foundLater, same⟩
            cases same
            rw [List.cons_append, inductionHypothesis foundLater]
          · cases found

/-- Whether a text has the core of a call somewhere: a letter, digits and a letter in a row. -/
def HasCore (text : Text) : Prop :=
  ∃ before first digits second behind, text = before ++ first :: (digits ++ second :: behind) ∧
    Text.isCapital first = true ∧ digits ≠ [] ∧
    (∀ character ∈ digits, Text.isDecimal character = true) ∧ Text.isCapital second = true

/-- A core is found wherever it stands, if all that precedes it may precede it. -/
theorem exists_callAfter? {mayPrecede : Char → Bool} {text : Text} (core : HasCore text)
    (marks : ∀ character ∈ text, mayPrecede character = true) :
    ∃ found, callAfter? mayPrecede text = some found := by
  rcases core with ⟨before, first, digits, second, behind, split, capital, present, decimal, letter⟩
  subst split
  induction before with
  | nil =>
      have run : (second :: behind).takeWhile Text.isCapital ++
          (second :: behind).dropWhile Text.isCapital = second :: behind :=
        List.takeWhile_append_dropWhile
      have someLetters : (second :: behind).takeWhile Text.isCapital ≠ [] := by
        rw [List.takeWhile_cons, letter, if_pos rfl]
        exact List.cons_ne_nil second _
      have capitals : ∀ character ∈ (second :: behind).takeWhile Text.isCapital,
          Text.isCapital character = true :=
        List.all_eq_true.mp List.all_takeWhile
      have found := callCore?_of_core capital present decimal someLetters capitals
        (takeWhile_dropWhile Text.isCapital (second :: behind))
      rw [run] at found
      exact ⟨_, by rw [List.nil_append, callAfter?, found]⟩
  | cons other rest inductionHypothesis =>
      have laterMarks : ∀ character ∈ rest ++ first :: (digits ++ second :: behind),
          mayPrecede character = true := by
        intro character member
        exact marks character (List.mem_cons_of_mem other member)
      rcases inductionHypothesis laterMarks with ⟨later, found⟩
      rw [List.cons_append, callAfter?]
      cases callCore? (other :: (rest ++ first :: (digits ++ second :: behind))) with
      | some here => exact ⟨here, rfl⟩
      | none =>
          have mark : mayPrecede other = true := marks other List.mem_cons_self
          simp only [mark, if_true, found, Option.map_some]
          exact ⟨_, rfl⟩

/-- Without letters there is no call. -/
theorem callAfter?_of_no_capitals (mayPrecede : Char → Bool) {text : Text}
    (noCapital : ∀ character ∈ text, Text.isCapital character = false) :
    callAfter? mayPrecede text = none := by
  induction text with
  | nil => rfl
  | cons first rest inductionHypothesis =>
      have later := inductionHypothesis fun character member =>
        noCapital character (List.mem_cons_of_mem first member)
      rw [callAfter?, callCore?_of_no_capital (noCapital first List.mem_cons_self), later]
      simp only [Option.map_none, ite_self]

end Extraction
end ContestExchange
