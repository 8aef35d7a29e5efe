import ContestExchange.Morse.Keying
import ContestExchange.Proofs.CapitalForm

namespace ContestExchange

/-!
# Keyed texts can be read back

A row of elements has no sign for the end of a letter or of a word.  It has gaps of three lengths
instead, and each of them separates one kind of group: words, letters or marks.  So a row is taken
apart from the outside in, first at the gaps of seven dots, then at those of three and at last at
those of one.

The same argument carries each of the three levels.  The groups were joined by a gap that none of
them has inside, so splitting the row at this gap gives the groups back, and the level below reads
them one by one.  Only the innermost level is about the code itself: every character has marks, and
no two characters have the same ones.

Case and spacing are not keyed.  What comes back are the words in capitals, and they are all that
keying depends on.
-/

namespace Mark

/-- The mark that a group of elements is. -/
def ofElements? (elements : List Element) : Option Mark :=
  [.dot, .dash].find? fun mark => elements == [Keying.ofMark mark]

theorem ofElements?_ofMark (mark : Mark) : ofElements? [Keying.ofMark mark] = some mark := by
  cases mark <;> rfl

end Mark

namespace Code

/-- The first character of the alphabet with a code. -/
def toChar? (code : Code) : Option Char := (alphabet.find? fun entry => entry.2 == code).map (·.1)

theorem mem_alphabet_of_ofChar? {character : Char} {code : Code}
    (found : ofChar? character = some code) : (character, code) ∈ alphabet := by
  rcases Option.map_eq_some_iff.mp found with ⟨entry, listed, same⟩
  have named := List.find?_some (p := fun entry : Char × Code => entry.1 == character) listed
  rw [← beq_iff_eq.mp named, ← same]
  exact List.mem_of_find?_eq_some listed

theorem toChar?_of_ofChar? {character : Char} {code : Code}
    (found : ofChar? character = some code) : toChar? code = some character := by
  have all : ∀ entry ∈ alphabet, toChar? entry.2 = some entry.1 := by decide
  exact all _ (mem_alphabet_of_ofChar? found)

theorem ne_nil_of_ofChar? {character : Char} {code : Code}
    (found : ofChar? character = some code) : code ≠ [] := by
  have all : ∀ entry ∈ alphabet, entry.2 ≠ [] := by decide
  exact all _ (mem_alphabet_of_ofChar? found)

end Code

namespace Keying

/-! ## Groups between gaps -/

theorem spaced_eq_intercalate (dots : Nat) (groups : List (List Element)) :
    spaced dots groups = [gap dots].intercalate groups := by
  induction groups with
  | nil => rfl
  | cons first rest inductionHypothesis =>
      cases rest with
      | nil => simp only [spaced, List.intercalate_singleton]
      | cons second rest =>
          rw [spaced, List.intercalate_cons_cons, inductionHypothesis, List.append_assoc,
            List.singleton_append]

theorem mem_spaced {dots : Nat} {groups : List (List Element)} {element : Element}
    (member : element ∈ spaced dots groups) :
    element = gap dots ∨ ∃ group ∈ groups, element ∈ group := by
  induction groups with
  | nil => cases member
  | cons first rest inductionHypothesis =>
      cases rest with
      | nil => exact Or.inr ⟨first, List.mem_cons_self, member⟩
      | cons second rest =>
          rw [spaced, List.mem_append, List.mem_cons] at member
          rcases member with here | between | behind
          · exact Or.inr ⟨first, List.mem_cons_self, here⟩
          · exact Or.inl between
          · rcases inductionHypothesis behind with between | ⟨group, among, inside⟩
            · exact Or.inl between
            · exact Or.inr ⟨group, List.mem_cons_of_mem first among, inside⟩

section Items

variable {Item : Type} {keyed : Item → List Element} {read? : List Element → Option Item}
  {items : List Item}

theorem mapM_map_keyed (read : ∀ item ∈ items, read? (keyed item) = some item) :
    (items.map keyed).mapM read? = some items := by
  induction items with
  | nil => rfl
  | cons item rest inductionHypothesis =>
      have later := inductionHypothesis fun other among =>
        read other (List.mem_cons_of_mem item among)
      rw [List.map_cons, List.mapM_cons, read item List.mem_cons_self, later]
      rfl

/-- What is keyed item by item, with a gap between that no item has inside, is read item by item. -/
theorem mapM_splitOn_spaced {dots : Nat} (present : items ≠ [])
    (clear : ∀ item ∈ items, gap dots ∉ keyed item)
    (read : ∀ item ∈ items, read? (keyed item) = some item) :
    ((spaced dots (items.map keyed)).splitOn (gap dots)).mapM read? = some items := by
  have split : (spaced dots (items.map keyed)).splitOn (gap dots) = items.map keyed := by
    rw [spaced_eq_intercalate]
    apply List.splitOn_intercalate
    · intro group member
      rcases List.mem_map.mp member with ⟨item, among, same⟩
      rw [← same]
      exact clear item among
    · exact mt List.map_eq_nil_iff.mp present
  rw [split]
  exact mapM_map_keyed read

end Items

/-! ## Letters, words and texts -/

/-- The letter that a row of elements keys. -/
def letter? (elements : List Element) : Option Char :=
  ((elements.splitOn (gap 1)).mapM Mark.ofElements?).bind Code.toChar?

/-- The word that a row of elements keys. -/
def word? (elements : List Element) : Option Text := (elements.splitOn (gap 3)).mapM letter?

/-- The words that a row of elements keys.  The empty row keys no word at all. -/
def words? (elements : List Element) : Option (List Text) :=
  if elements.isEmpty then some [] else (elements.splitOn (gap 7)).mapM word?

theorem gap_notMem_mark (dots : Nat) (mark : Mark) : gap dots ∉ [ofMark mark] := by
  rw [List.mem_singleton]
  intro same
  exact Bool.false_ne_true (congrArg Element.isDown same)

theorem letter?_ofCode {character : Char} {code : Code}
    (found : Code.ofChar? character = some code) :
    letter? (ofCode code) = some character := by
  have marks := mapM_splitOn_spaced (Code.ne_nil_of_ofChar? found)
    (fun mark _ => gap_notMem_mark 1 mark) (fun mark _ => Mark.ofElements?_ofMark mark)
  rw [letter?, ofCode, marks]
  exact Code.toChar?_of_ofChar? found

theorem gap_notMem_ofCode {dots : Nat} (longer : 1 < dots) (code : Code) :
    gap dots ∉ ofCode code := by
  intro member
  rcases mem_spaced member with between | ⟨group, among, inside⟩
  · have same := congrArg Element.dots between
    exact Nat.ne_of_gt longer same
  · rcases List.mem_map.mp among with ⟨mark, _, same⟩
    rw [← same] at inside
    exact gap_notMem_mark dots mark inside

/-- Whether a word can be keyed: it is not empty, and each of its characters has a code. -/
structure IsKeyed (word : Text) : Prop where
  present : word ≠ []
  coded : ∀ character ∈ word, (Code.ofChar? character).isSome = true

/-- The elements of a character in capitals, which are none for a character without a code. -/
def ofChar (character : Char) : List Element := ofCode ((Code.ofChar? character).getD [])

theorem IsKeyed.ofWord_eq {word : Text} (keyed : IsKeyed word) :
    ofWord word = spaced 3 (word.map ofChar) := by
  have codes : (word.filterMap Code.ofChar?).map ofCode = word.map ofChar := by
    have coded := keyed.coded
    clear keyed
    induction word with
    | nil => rfl
    | cons first rest inductionHypothesis =>
        rcases Option.isSome_iff_exists.mp (coded first List.mem_cons_self) with ⟨code, found⟩
        have later := inductionHypothesis fun character member =>
          coded character (List.mem_cons_of_mem first member)
        rw [List.filterMap_cons_some found, List.map_cons, List.map_cons, later, ofChar, found,
          Option.getD_some]
  rw [ofWord, codes]

theorem IsKeyed.word?_ofWord {word : Text} (keyed : IsKeyed word) :
    word? (ofWord word) = some word := by
  rw [keyed.ofWord_eq]
  apply mapM_splitOn_spaced keyed.present
  · intro character _
    exact gap_notMem_ofCode (by decide) _
  · intro character member
    rcases Option.isSome_iff_exists.mp (keyed.coded character member) with ⟨code, found⟩
    rw [ofChar, found]
    exact letter?_ofCode found

theorem gap_notMem_ofWord {dots : Nat} (longer : 3 < dots) (word : Text) :
    gap dots ∉ ofWord word := by
  intro member
  rcases mem_spaced member with between | ⟨group, among, inside⟩
  · have same := congrArg Element.dots between
    exact Nat.ne_of_gt longer same
  · rcases List.mem_map.mp among with ⟨code, _, same⟩
    rw [← same] at inside
    exact gap_notMem_ofCode (Nat.lt_of_lt_of_le (by decide) (Nat.le_of_lt longer)) code inside

theorem IsKeyed.ofWord_ne_nil {word : Text} (keyed : IsKeyed word) : ofWord word ≠ [] := by
  intro empty
  -- The empty row is read as one letter without marks, which no character is.
  have read := keyed.word?_ofWord
  rw [empty] at read
  cases read

theorem spaced_cons (dots : Nat) (first : List Element) (rest : List (List Element)) :
    spaced dots (first :: rest) = first ++ rest.flatMap fun group => gap dots :: group := by
  induction rest generalizing first with
  | nil => rw [spaced, List.flatMap_nil, List.append_nil]
  | cons second rest inductionHypothesis =>
      rw [spaced, inductionHypothesis, List.flatMap_cons, List.cons_append]

theorem ofWords_of_isKeyed {words : List Text} (keyed : ∀ word ∈ words, IsKeyed word) :
    ofWords words = spaced 7 (words.map ofWord) := by
  cases words with
  | nil => rfl
  | cons first rest =>
      have present : (ofWord first).isEmpty = false :=
        List.isEmpty_eq_false_iff.mpr (keyed first List.mem_cons_self).ofWord_ne_nil
      rw [List.map_cons, spaced_cons, List.flatMap_map]
      simp only [ofWords, present, Bool.false_eq_true, if_false]
      rfl

theorem words?_ofWords {words : List Text} (keyed : ∀ word ∈ words, IsKeyed word) :
    words? (ofWords words) = some words := by
  cases words with
  | nil => rfl
  | cons first rest =>
      have present : (ofWords (first :: rest)).isEmpty = false := by
        rw [ofWords_of_isKeyed keyed, List.map_cons, spaced_cons, List.isEmpty_eq_false_iff]
        exact List.append_ne_nil_of_left_ne_nil (keyed first List.mem_cons_self).ofWord_ne_nil _
      rw [words?, present, if_neg Bool.false_ne_true, ofWords_of_isKeyed keyed]
      apply mapM_splitOn_spaced (List.cons_ne_nil first rest)
      · intro word _
        exact gap_notMem_ofWord (by decide) word
      · intro word member
        exact (keyed word member).word?_ofWord

/-! ## Texts in either case -/

/-- Whether a character is a blank, or has a code in either case. -/
def isKeyable (character : Char) : Bool :=
  Text.isBlank character || (Code.ofEitherCase? character).isSome

theorem isSome_ofChar?_of_mem_capital {character mark : Char}
    (keyable : isKeyable character = true) (member : mark ∈ Text.capital character)
    (ink : Text.isBlank mark = false) : (Code.ofChar? mark).isSome = true := by
  rw [isKeyable, Bool.or_eq_true] at keyable
  rcases keyable with blank | coded
  · rw [Text.capital_of_isBlank blank, List.mem_singleton] at member
    rw [member] at ink
    exact absurd (blank.symm.trans ink) Bool.noConfusion
  · unfold Code.ofEitherCase? at coded
    split at coded
    · rename_i only single
      rw [single, List.mem_singleton] at member
      rw [member]
      exact coded
    · cases coded

theorem isKeyed_of_mem_words {text word : Text}
    (keyable : ∀ character ∈ text, isKeyable character = true)
    (member : word ∈ Text.words (Text.upper text)) : IsKeyed word := by
  rcases Text.mem_words member with ⟨present, inside⟩
  refine ⟨present, fun mark among => ?_⟩
  rcases inside mark among with ⟨upper, ink⟩
  rcases List.mem_flatMap.mp upper with ⟨character, listed, capital⟩
  exact isSome_ofChar?_of_mem_capital (keyable character listed) capital ink

theorem words?_ofText {text : Text} (keyable : ∀ character ∈ text, isKeyable character = true) :
    words? (ofText text) = some (Text.words (Text.upper text)) :=
  words?_ofWords fun _ member => isKeyed_of_mem_words keyable member

/-- A keyed text is read back as its words in capitals, so two texts are keyed alike exactly if
these are the same. -/
theorem words_read_back {left right : Text}
    (leftKeyable : ∀ character ∈ left, isKeyable character = true)
    (rightKeyable : ∀ character ∈ right, isKeyable character = true) :
    words? (ofText left) = some (Text.words (Text.upper left)) ∧
      (ofText left = ofText right ↔
        Text.words (Text.upper left) = Text.words (Text.upper right)) := by
  have leftRead := words?_ofText leftKeyable
  have rightRead := words?_ofText rightKeyable
  refine ⟨leftRead, ?_, ?_⟩
  · intro same
    rw [same] at leftRead
    exact Option.some.inj (leftRead.symm.trans rightRead)
  · intro same
    rw [ofText, ofText, same]

/-- The border between two words is heard, however wide it was typed. -/
theorem words_read_back_of_moved_border :
    (∀ character ∈ Text.ofString "de  e/K1a ", isKeyable character = true) ∧
      (∀ character ∈ Text.ofString "DEE /K1A", isKeyable character = true) ∧
      words? (ofText (Text.ofString "de  e/K1a ")) =
        some [Text.ofString "DE", Text.ofString "E/K1A"] ∧
      ofText (Text.ofString "de  e/K1a ") ≠ ofText (Text.ofString "DEE /K1A") := by
  have leftKeyable : ∀ character ∈ Text.ofString "de  e/K1a ", isKeyable character = true :=
    List.all_eq_true.mp rfl
  have rightKeyable : ∀ character ∈ Text.ofString "DEE /K1A", isKeyable character = true :=
    List.all_eq_true.mp rfl
  rcases words_read_back leftKeyable rightKeyable with ⟨read, alike⟩
  exact ⟨leftKeyable, rightKeyable, read, alike.not.mpr (by decide)⟩

end Keying
end ContestExchange
