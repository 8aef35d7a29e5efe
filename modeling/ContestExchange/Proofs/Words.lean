import ContestExchange.Proofs.CapitalForm

namespace ContestExchange
namespace Text

/-!
# The words of a text

A text splits into words at its blanks, and what is no blank is in exactly one word, in the order of
the text.  Counting over the words is therefore counting over the text, and there is at most one word
more than there are blanks.

The word that touches the start is kept apart while a text is read from its end, because only the
character before it decides whether it goes on.  Each law is proved for the touching word together
with the words behind it, and then read off for the text.

Capitals change no border between words: a blank is its own capital form, and the capital form of
any other character is neither empty nor does it hold a blank.
-/

variable {character mark : Char} {text front rest : Text}

theorem words_eq (text : Text) :
    words text = if (wordsFrom text).1.isEmpty then (wordsFrom text).2
      else (wordsFrom text).1 :: (wordsFrom text).2 :=
  rfl

theorem wordsFrom_cons_of_isBlank (blank : isBlank character = true) :
    wordsFrom (character :: rest) = ([], words rest) := by
  rw [wordsFrom, words_eq, blank]
  rfl

theorem wordsFrom_append_of_ink (ink : ∀ character ∈ front, isBlank character = false) :
    wordsFrom (front ++ rest) = (front ++ (wordsFrom rest).1, (wordsFrom rest).2) := by
  induction front with
  | nil => rfl
  | cons first front inductionHypothesis =>
      have later := inductionHypothesis fun character member =>
        ink character (List.mem_cons_of_mem first member)
      rw [List.cons_append, wordsFrom, later, ink first List.mem_cons_self]
      rfl

theorem wordsFrom_cons_of_ink (ink : isBlank character = false) :
    wordsFrom (character :: rest) = (character :: (wordsFrom rest).1, (wordsFrom rest).2) := by
  have alone : ∀ other ∈ [character], isBlank other = false := by
    intro other member
    rw [List.mem_singleton.mp member]
    exact ink
  exact wordsFrom_append_of_ink alone

/-! ## What the words hold -/

theorem flatten_words_eq (text : Text) :
    (words text).flatten = (wordsFrom text).1 ++ (wordsFrom text).2.flatten := by
  rw [words_eq]
  split
  · rename_i empty
    rw [List.isEmpty_iff.mp empty, List.nil_append]
  · exact List.flatten_cons

/-- The words one after the other are the text without its blanks. -/
theorem flatten_words (text : Text) :
    (words text).flatten = text.filter fun character => !isBlank character := by
  rw [flatten_words_eq]
  induction text with
  | nil => rfl
  | cons first rest inductionHypothesis =>
      rw [List.filter_cons]
      cases blank : isBlank first with
      | true =>
          rw [wordsFrom_cons_of_isBlank blank, List.nil_append, flatten_words_eq]
          exact inductionHypothesis
      | false =>
          rw [wordsFrom_cons_of_ink blank, List.cons_append, inductionHypothesis]
          rfl

theorem length_later_le (text : Text) : (wordsFrom text).2.length ≤ text.countP isBlank := by
  induction text with
  | nil => exact Nat.le_refl 0
  | cons first rest inductionHypothesis =>
      cases blank : isBlank first with
      | true =>
          rw [wordsFrom_cons_of_isBlank blank, List.countP_cons_of_pos blank, words_eq]
          split
          · exact Nat.le_succ_of_le inductionHypothesis
          · exact Nat.succ_le_succ inductionHypothesis
      | false =>
          rw [wordsFrom_cons_of_ink blank,
            List.countP_cons_of_neg (Bool.eq_false_iff.mp blank)]
          exact inductionHypothesis

/-- There is at most one word more than there are blanks to separate them. -/
theorem length_words_le (text : Text) : (words text).length ≤ text.countP isBlank + 1 := by
  have later := length_later_le text
  rw [words_eq]
  split
  · exact Nat.le_succ_of_le later
  · exact Nat.succ_le_succ later

theorem words_ne_nil (member : character ∈ text) (ink : isBlank character = false) :
    words text ≠ [] := by
  intro none
  have held := flatten_words text
  rw [none, List.flatten_nil] at held
  have kept : character ∈ text.filter fun character => !isBlank character :=
    List.mem_filter.mpr ⟨member, by rw [ink]; rfl⟩
  rw [← held] at kept
  cases kept

/-- Between joined texts that are free of the mark it stands once at each border. -/
theorem count_joined {pieces : List Text} (present : pieces ≠ [])
    (clear : ∀ piece ∈ pieces, mark ∉ piece) :
    (joined [mark] pieces).count mark + 1 = pieces.length := by
  induction pieces with
  | nil => exact absurd rfl present
  | cons first others inductionHypothesis =>
      have none := List.count_eq_zero.mpr (clear first List.mem_cons_self)
      cases others with
      | nil => rw [joined, none, List.length_singleton]
      | cons second others =>
          have later := inductionHypothesis (List.cons_ne_nil second others) fun piece member =>
            clear piece (List.mem_cons_of_mem first member)
          rw [joined, List.count_append, List.count_append, none, List.count_singleton_self,
            List.length_cons, ← later]
          omega

/-! ## Words in capitals -/

theorem words_upper_of_wordsFrom
    (known : wordsFrom (upper text) = (upper (wordsFrom text).1, (wordsFrom text).2.map upper)) :
    words (upper text) = (words text).map upper := by
  rw [words_eq, words_eq, known]
  by_cases empty : (wordsFrom text).1 = []
  · rw [empty]
    rfl
  · have present := List.isEmpty_eq_false_iff.mpr empty
    have capitals := List.isEmpty_eq_false_iff.mpr (mt upper_eq_nil_iff.mp empty)
    rw [present, capitals]
    rfl

theorem wordsFrom_upper (text : Text) :
    wordsFrom (upper text) = (upper (wordsFrom text).1, (wordsFrom text).2.map upper) := by
  induction text with
  | nil => rfl
  | cons first rest inductionHypothesis =>
      rw [upper_cons]
      cases blank : isBlank first with
      | true =>
          rw [capital_of_isBlank blank, List.singleton_append, wordsFrom_cons_of_isBlank blank,
            wordsFrom_cons_of_isBlank blank, words_upper_of_wordsFrom inductionHypothesis]
          rfl
      | false =>
          rw [wordsFrom_append_of_ink fun _ member => isBlank_of_mem_capital blank member,
            wordsFrom_cons_of_ink blank, inductionHypothesis]
          rfl

/-- The words of a text in capitals are its words, each of them in capitals. -/
theorem words_upper (text : Text) : words (upper text) = (words text).map upper :=
  words_upper_of_wordsFrom (wordsFrom_upper text)

end Text
end ContestExchange
