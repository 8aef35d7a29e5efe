import ContestExchange.Text.Basic

namespace ContestExchange
namespace Text

/-!
# Blanks

The blank class is that of the Unicode standard's white space as separators of words: the
characters whose bidirectional class is white space or a separator, and all space separators.  It
decides what is trimmed from the ends of a text and where a line splits into words.
-/

/-- The intervals of blank characters. -/
def blankRanges : CodeRanges :=
  [(0x9, 0xD), (0x1C, 0x20), (0x85, 0x85), (0xA0, 0xA0), (0x1680, 0x1680), (0x2000, 0x200A),
   (0x2028, 0x2029), (0x202F, 0x202F), (0x205F, 0x205F), (0x3000, 0x3000)]

/-- Whether a character separates words. -/
def isBlank (character : Char) : Bool := blankRanges.contains character

/-- Whether the text holds blanks only; the empty text does. -/
def isAllBlank (text : Text) : Bool := text.all isBlank

/-- The text without leading blanks. -/
def trimStart (text : Text) : Text := text.dropWhile isBlank

/-- The text without trailing blanks. -/
def trimEnd (text : Text) : Text := (text.reverse.dropWhile isBlank).reverse

/-- The text without blanks at either end. -/
def trim (text : Text) : Text := trimEnd (trimStart text)

/-- The word that touches the start of the text, empty after a blank, and the words behind it. -/
def wordsFrom : Text → Text × List Text
  | [] => ([], [])
  | character :: rest =>
      match wordsFrom rest with
      | (touching, later) =>
          if isBlank character then
            ([], if touching.isEmpty then later else touching :: later)
          else
            (character :: touching, later)

/-- The maximal runs of characters that are not blank, in order. -/
def words (text : Text) : List Text :=
  match wordsFrom text with
  | (touching, later) => if touching.isEmpty then later else touching :: later

theorem mem_wordsFrom (text : Text) :
    (∀ character ∈ (wordsFrom text).1, character ∈ text ∧ isBlank character = false) ∧
      ∀ word ∈ (wordsFrom text).2, word ≠ [] ∧
        ∀ character ∈ word, character ∈ text ∧ isBlank character = false := by
  induction text with
  | nil => exact ⟨List.forall_mem_nil _, List.forall_mem_nil _⟩
  | cons first rest inductionHypothesis =>
      rcases inductionHypothesis with ⟨touching, later⟩
      have within {word : Text}
          (inside : ∀ character ∈ word, character ∈ rest ∧ isBlank character = false) :
          ∀ character ∈ word, character ∈ first :: rest ∧ isBlank character = false :=
        fun character member =>
          ⟨List.mem_cons_of_mem first (inside character member).1, (inside character member).2⟩
      have laterWithin : ∀ word ∈ (wordsFrom rest).2, word ≠ [] ∧
          ∀ character ∈ word, character ∈ first :: rest ∧ isBlank character = false :=
        fun word member => ⟨(later word member).1, within (later word member).2⟩
      rw [wordsFrom]
      cases blank : isBlank first with
      | true =>
          refine ⟨List.forall_mem_nil _, ?_⟩
          cases present : (wordsFrom rest).1.isEmpty with
          | true =>
              simpa only [present, if_true] using laterWithin
          | false =>
              simp only [present, Bool.false_eq_true, if_false, if_true]
              refine List.forall_mem_cons.mpr ⟨⟨?_, within touching⟩, laterWithin⟩
              exact List.isEmpty_eq_false_iff.mp present
      | false =>
          simp only [Bool.false_eq_true, if_false]
          exact ⟨List.forall_mem_cons.mpr ⟨⟨List.mem_cons_self, blank⟩, within touching⟩, laterWithin⟩

theorem mem_words {text word : Text} (member : word ∈ words text) :
    word ≠ [] ∧ ∀ character ∈ word, character ∈ text ∧ isBlank character = false := by
  rcases mem_wordsFrom text with ⟨touching, later⟩
  unfold words at member
  cases present : (wordsFrom text).1.isEmpty with
  | true =>
      simp only [present, if_true] at member
      exact later word member
  | false =>
      simp only [present, Bool.false_eq_true, if_false] at member
      rcases List.mem_cons.mp member with same | behind
      · rw [same]
        exact ⟨List.isEmpty_eq_false_iff.mp present, touching⟩
      · exact later word behind

end Text
end ContestExchange
