import ContestExchange.Morse.Message
import ContestExchange.Proofs.Decoding
import ContestExchange.Proofs.NumberText
import ContestExchange.Proofs.Words

namespace ContestExchange

/-!
# How long a message takes

The length of a message is counted twice, and in two ways.  Before it is sent each character counts
for its marks with a gap behind each mark and behind itself, and each blank counts for itself.  When
it is keyed the gaps stand only between two marks, two letters or two words, and how many blanks
separate the words makes no difference.

Both counts add up over the characters that are no blanks.  A row of groups with gaps between them
counts each group with the gap behind it, and the last gap too many; this one law is used for the
letters of a word and again for the words of a text.  So the counts differ by a number that depends
on how many characters, words and blanks there are, and on nothing else of the text.

The length of a prepared message is known before it is filled in.  A call that is filled in may hold
the signs of a prepared message itself; they have no code, so they take no time and are not filled
in a second time.
-/

namespace Keying

/-! ## Rows of groups -/

section Weight

variable (weight : Element → Nat)

/-- Each group counts with the gap behind it, and the last gap is one too many. -/
theorem total_spaced (dots : Nat) {groups : List (List Element)} (present : groups ≠ []) :
    Sequence.total weight (spaced dots groups) + weight (gap dots) =
      Sequence.total (fun group => Sequence.total weight group + weight (gap dots)) groups := by
  induction groups with
  | nil => exact absurd rfl present
  | cons first rest inductionHypothesis =>
      cases rest with
      | nil => rfl
      | cons second rest =>
          have later := inductionHypothesis (List.cons_ne_nil second rest)
          rw [spaced, Sequence.total_append, Sequence.total, Sequence.total, ← later]
          omega

theorem total_spaced_map {Item : Type} (dots : Nat) (keyed : Item → List Element)
    {items : List Item} (present : items ≠ []) :
    Sequence.total weight (spaced dots (items.map keyed)) + weight (gap dots) =
      Sequence.total (fun item => Sequence.total weight (keyed item)) items +
        items.length * weight (gap dots) := by
  rw [total_spaced weight dots (mt List.map_eq_nil_iff.mp present), Sequence.total_map,
    Sequence.total_add, Sequence.total_const]

end Weight

/-- The dots of a letter and the gap behind it. -/
theorem totalDots_ofCode {code : Code} (present : code ≠ []) :
    totalDots (ofCode code) + 1 = Sequence.total (fun mark => mark.dots + 1) code := by
  have marks := total_spaced_map Element.dots 1 (fun mark => [ofMark mark]) present
  rw [Sequence.total_add, Sequence.total_const]
  exact marks

/-! ## Texts in either case -/

/-- Whether a character has a code in either case. -/
def isSign (character : Char) : Bool := (Code.ofEitherCase? character).isSome

example : (Code.alphabet.all fun entry => (entry.1 :: Text.lower [entry.1]).all isSign) = true := by
  decide

/-- The elements of a character in either case, which are none for a character without a code. -/
def ofSign (character : Char) : List Element :=
  ofCode ((Code.ofEitherCase? character).getD [])

theorem exists_code_of_isSign {character : Char} (sign : isSign character = true) :
    ∃ code mark, Code.ofEitherCase? character = some code ∧
      Text.capital character = [mark] ∧ Code.ofChar? mark = some code := by
  rcases Option.isSome_iff_exists.mp sign with ⟨code, coded⟩
  have found := coded
  unfold Code.ofEitherCase? at found
  split at found
  · rename_i mark single
    exact ⟨code, mark, coded, single, found⟩
  · cases found

theorem isBlank_of_isSign {character : Char} (sign : isSign character = true) :
    Text.isBlank character = false := by
  have inked : ∀ entry ∈ Code.alphabet, Text.isBlank entry.1 = false := by decide
  rcases exists_code_of_isSign sign with ⟨code, mark, _, single, found⟩
  have ink := inked _ (Code.mem_alphabet_of_ofChar? found)
  rw [Bool.eq_false_iff]
  intro blank
  rw [Text.capital_of_isBlank blank, List.singleton_inj] at single
  rw [← single, blank] at ink
  cases ink

theorem map_ofChar_upper {word : Text} (signs : ∀ character ∈ word, isSign character = true) :
    (Text.upper word).map ofChar = word.map ofSign := by
  induction word with
  | nil => rfl
  | cons first rest inductionHypothesis =>
      have later := inductionHypothesis fun character member =>
        signs character (List.mem_cons_of_mem first member)
      rcases exists_code_of_isSign (signs first List.mem_cons_self) with
        ⟨code, mark, coded, single, found⟩
      rw [Text.upper_cons, single, List.singleton_append, List.map_cons, List.map_cons, later,
        ofChar, found, ofSign, coded]

/-- Whether a text consists of signs and of the blanks between words. -/
def IsSendable (text : Text) : Prop :=
  ∀ character ∈ text, character = ' ' ∨ isSign character = true

theorem IsSendable.isSign_of_mem {text word : Text} (sendable : IsSendable text)
    (listed : word ∈ Text.words text) : ∀ character ∈ word, isSign character = true := by
  intro character among
  rcases (Text.mem_words listed).2 character among with ⟨member, ink⟩
  rcases sendable character member with blank | sign
  · rw [blank] at ink
    cases ink
  · exact sign

theorem IsSendable.isBlank_eq {text : Text} (sendable : IsSendable text) :
    ∀ character ∈ text, Text.isBlank character = (character == ' ') := by
  intro character member
  rcases sendable character member with blank | sign
  · rw [blank]
    rfl
  · have ink := isBlank_of_isSign sign
    have noBlank : character ≠ ' ' := by
      rintro rfl
      cases ink
    rw [ink, beq_eq_false_iff_ne.mpr noBlank]

/-- The elements of words of signs. -/
def ofSignWords (words : List Text) : List Element :=
  spaced 7 (words.map fun word => spaced 3 (word.map ofSign))

/-- A text of signs and blanks is keyed word by word and sign by sign. -/
theorem IsSendable.ofText_eq {text : Text} (sendable : IsSendable text) :
    ofText text = ofSignWords (Text.words text) := by
  have keyable : ∀ character ∈ text, isKeyable character = true := by
    intro character member
    rw [isKeyable, Bool.or_eq_true]
    rcases sendable character member with blank | sign
    · rw [blank]
      exact Or.inl rfl
    · exact Or.inr sign
  have keyed : ∀ word ∈ Text.words (Text.upper text), IsKeyed word :=
    fun _ member => isKeyed_of_mem_words keyable member
  rw [ofText, ofWords_of_isKeyed keyed]
  rw [Text.words_upper] at keyed ⊢
  rw [List.map_map, ofSignWords]
  congr 1
  apply List.map_congr_left
  intro word listed
  have capitals := keyed (Text.upper word) (List.mem_map_of_mem listed)
  exact capitals.ofWord_eq.trans
    (congrArg (spaced 3) (map_ofChar_upper (sendable.isSign_of_mem listed)))

section SignWords

variable {words : List Text} (present : words ≠ []) (nonempty : ∀ word ∈ words, word ≠ [])
include present nonempty

/-- Every sign counts with the gap behind it, except for the last one of a word, and every word with
the gap behind it, except for the last one of the text. -/
theorem total_ofSignWords (weight : Element → Nat) :
    Sequence.total weight (ofSignWords words) + weight (gap 7) + words.length * weight (gap 3) =
      Sequence.total (fun character => Sequence.total weight (ofSign character)) words.flatten +
        words.flatten.length * weight (gap 3) + words.length * weight (gap 7) := by
  have row := total_spaced_map weight 7 (fun word => spaced 3 (word.map ofSign)) present
  have inside : Sequence.total
        (fun word => Sequence.total weight (spaced 3 (word.map ofSign)) + weight (gap 3)) words =
      Sequence.total (fun character => Sequence.total weight (ofSign character) + weight (gap 3))
        words.flatten := by
    rw [Sequence.total_flatten]
    apply Sequence.total_congr
    intro word member
    rw [total_spaced_map weight 3 ofSign (nonempty word member), Sequence.total_add,
      Sequence.total_const]
  rw [Sequence.total_add, Sequence.total_const, Sequence.total_add, Sequence.total_const] at inside
  rw [ofSignWords]
  omega

theorem totalDots_ofSignWords :
    totalDots (ofSignWords words) + 7 + words.length * 3 =
      Sequence.total (fun character => totalDots (ofSign character)) words.flatten +
        words.flatten.length * 3 + words.length * 7 :=
  total_ofSignWords present nonempty Element.dots

/-- A letter gap follows every sign but the last one of its word. -/
theorem count_ofSignWords :
    (ofSignWords words).count (gap 3) + words.length = words.flatten.length := by
  have weighed := total_ofSignWords present nonempty fun element => if element = gap 3 then 1 else 0
  have letters : Sequence.total (fun character => Sequence.total
      (fun element => if element = gap 3 then 1 else 0) (ofSign character)) words.flatten = 0 := by
    rw [Sequence.total_congr fun character _ => ?_, Sequence.total_const, Nat.mul_zero]
    rw [Sequence.total_ite_eq, Nat.mul_one]
    exact List.count_eq_zero.mpr (gap_notMem_ofCode (by decide) _)
  rw [Sequence.total_ite_eq, letters, if_pos rfl, if_neg (by decide)] at weighed
  omega

end SignWords

end Keying

namespace Message

open Keying (IsSendable ofSign ofText totalDots gap)

/-! ## Announced and keyed length -/

/-- A sign counts for its elements, a gap behind the last of them and the gap to the next sign. -/
theorem charDots_of_isSign {character : Char} (sign : Keying.isSign character = true) :
    charDots character = totalDots (ofSign character) + 4 := by
  have noBlank : character ≠ ' ' := by
    rintro rfl
    cases sign
  rcases Keying.exists_code_of_isSign sign with ⟨code, mark, coded, _, found⟩
  have dots := Keying.totalDots_ofCode (Code.ne_nil_of_ofChar? found)
  rw [charDots, if_neg noBlank, ofSign, coded, Option.getD_some]
  exact (congrArg (· + 3) dots).symm

theorem dots_nil (text : Text) : dots text [] = textDots text := by
  rw [dots, textDots]
  apply Sequence.total_congr
  intro character _
  split
  · rename_i same
    rw [same]
    rfl
  · rfl

/-- The characters of a text that are no blanks. -/
def signCount (text : Text) : Nat := text.countP fun character => character != ' '

/-- The words of a text. -/
def wordCount (text : Text) : Nat := (Text.words text).length

/-- The blanks of a text. -/
def blankCount (text : Text) : Nat := text.count ' '

/-- Words that single blanks separate have one blank less than there are words. -/
theorem blankCount_of_joined {text : Text} (present : Text.words text ≠ [])
    (single : Text.joined [' '] (Text.words text) = text) :
    blankCount text + 1 = wordCount text := by
  have clear : ∀ word ∈ Text.words text, ' ' ∉ word := by
    intro word listed among
    cases ((Text.mem_words listed).2 ' ' among).2
  have borders := Text.count_joined present clear
  rw [single] at borders
  exact borders

section Sendable

variable {text : Text} (sendable : IsSendable text)
include sendable

theorem textDots_eq : textDots text =
    Sequence.total charDots (Text.words text).flatten + blankCount text * 3 := by
  have blanks := sendable.isBlank_eq
  clear sendable
  rw [Text.flatten_words]
  induction text with
  | nil => rfl
  | cons first rest inductionHypothesis =>
      have later := inductionHypothesis fun character member =>
        blanks character (List.mem_cons_of_mem first member)
      have here := blanks first List.mem_cons_self
      rw [textDots, blankCount] at later ⊢
      rw [Sequence.total, later, List.filter_cons, here]
      by_cases blank : first = ' '
      · have left : (!(first == ' ')) = false := by
          rw [blank]
          rfl
        rw [left, if_neg Bool.false_ne_true, blank, List.count_cons_self]
        show 3 + _ = _
        omega
      · rw [beq_eq_false_iff_ne.mpr blank, List.count_cons_of_ne blank]
        exact (Nat.add_assoc _ _ _).symm

theorem total_charDots_words : Sequence.total charDots (Text.words text).flatten =
    Sequence.total (fun character => totalDots (ofSign character)) (Text.words text).flatten +
      (Text.words text).flatten.length * 4 := by
  rw [← Sequence.total_const, ← Sequence.total_add]
  apply Sequence.total_congr
  intro character member
  rcases List.mem_flatten.mp member with ⟨word, listed, among⟩
  exact charDots_of_isSign (sendable.isSign_of_mem listed character among)

theorem length_flatten_words : (Text.words text).flatten.length = signCount text := by
  rw [Text.flatten_words, ← List.countP_eq_length_filter]
  apply List.countP_congr
  intro character member
  rw [sendable.isBlank_eq character member]
  rfl

theorem wordCount_le : wordCount text ≤ blankCount text + 1 := by
  have borders := Text.length_words_le text
  rw [List.countP_congr fun character member => by rw [sendable.isBlank_eq character member]]
    at borders
  exact borders

end Sendable

/-- What a text is announced to take beyond its elements. -/
def surplus (text : Text) : Int :=
  signCount text - 4 * wordCount text + 3 * blankCount text + 7

/-- The announced length of a text is that of its elements and a surplus, which is a matter of the
numbers of its characters, words and blanks.  The surplus is at least the number of letter gaps and
the gap behind the last letter, so the elements are never longer than announced; and it is no more
than that where single blanks separate the words. -/
theorem dots_eq_totalDots_add_surplus {text : Text} (sendable : IsSendable text)
    (present : ∃ character ∈ text, character ≠ ' ') :
    (dots text [] : Int) = totalDots (ofText text) + surplus text ∧
      (signCount text : Int) - wordCount text + 4 ≤ surplus text ∧
      (ofText text).count (gap 3) + wordCount text = signCount text ∧
      totalDots (ofText text) ≤ dots text [] ∧
      (Text.joined [' '] (Text.words text) = text →
        dots text [] = totalDots (ofText text) + (ofText text).count (gap 3) + 4) := by
  rcases present with ⟨character, member, noBlank⟩
  have ink : Text.isBlank character = false := by
    rw [sendable.isBlank_eq character member]
    exact beq_eq_false_iff_ne.mpr noBlank
  have words : Text.words text ≠ [] := Text.words_ne_nil member ink
  have nonempty : ∀ word ∈ Text.words text, word ≠ [] := fun _ listed => (Text.mem_words listed).1
  have announced := textDots_eq sendable
  rw [total_charDots_words sendable, length_flatten_words sendable] at announced
  have keyed := Keying.totalDots_ofSignWords words nonempty
  have letters := Keying.count_ofSignWords words nonempty
  rw [← sendable.ofText_eq, length_flatten_words sendable, ← wordCount] at keyed letters
  have borders := wordCount_le sendable
  rw [dots_nil]
  unfold surplus
  refine ⟨by omega, by omega, letters, by omega, fun single => ?_⟩
  have between := blankCount_of_joined words single
  omega

/-- Three words in either case, with four letter gaps inside them. -/
theorem dots_eq_totalDots_add_surplus_of_single_blanks :
    IsSendable (Text.ofString "cq DE k1a") ∧
      (∃ character ∈ Text.ofString "cq DE k1a", character ≠ ' ') ∧
      Text.joined [' '] (Text.words (Text.ofString "cq DE k1a")) = Text.ofString "cq DE k1a" ∧
      totalDots (ofText (Text.ofString "cq DE k1a")) = 89 ∧
      dots (Text.ofString "cq DE k1a") [] = 97 := by
  have signs : ((Text.ofString "cq DE k1a").all fun character =>
      character == ' ' || Keying.isSign character) = true := by decide
  have sendable : IsSendable (Text.ofString "cq DE k1a") := by
    intro character member
    have sign := List.all_eq_true.mp signs character member
    rw [Bool.or_eq_true, beq_iff_eq] at sign
    exact sign
  have present : ∃ character ∈ Text.ofString "cq DE k1a", character ≠ ' ' :=
    ⟨'c', by decide, by decide⟩
  have single : Text.joined [' '] (Text.words (Text.ofString "cq DE k1a")) =
      Text.ofString "cq DE k1a" := by decide
  have keyed : totalDots (ofText (Text.ofString "cq DE k1a")) = 89 := by decide
  have letters : (ofText (Text.ofString "cq DE k1a")).count (gap 3) = 4 := by decide
  refine ⟨sendable, present, single, keyed, ?_⟩
  rw [(dots_eq_totalDots_add_surplus sendable present).2.2.2.2 single, keyed, letters]

/-! ## Length of a message to fill in -/

/-- Whether a text is a number in figures, with zeros in front up to three places. -/
structure IsNumberText (number : Nat) (text : Text) : Prop where
  figures : ∀ character ∈ text, Text.isFigure character = true
  spells : Text.decimalsFrom 0 text = some number
  length : text.length = max 3 (Decimal.natText number).length

theorem isNumberText_serialText {serial : Int} (started : 0 < serial) :
    IsNumberText serial.toNat (serialText serial) := by
  have digits : Decimal.intText serial = Decimal.natText serial.toNat := by
    cases serial with
    | ofNat number => rfl
    | negSucc number => cases started
  rw [serialText, if_pos started, digits]
  constructor
  · intro character member
    rcases List.mem_append.mp member with zero | digit
    · rw [List.eq_of_mem_replicate zero]
      rfl
    · exact Text.isFigure_of_mem_natText digit
  · rw [Text.zeroFill, Text.decimalsFrom_zeros, Text.decimalsFrom_natText]
  · exact Text.length_zeroFill 3 _

/-- What a character of a prepared message takes when it is filled in, by what it stands for. -/
theorem textDots_filled (myCall hisCall : Text) (serial : Int) (character : Char) :
    textDots (filled myCall hisCall serial character) =
      (if character = '%' then textDots myCall else charDots character) +
        ((if character = '@' then textDots hisCall else 0) +
          (if character = '#' then textDots (serialText serial) else 0)) := by
  unfold filled
  by_cases mine : character = '%'
  · rw [mine]
    rfl
  by_cases his : character = '@'
  · rw [his]
    exact (Nat.zero_add _).symm
  by_cases number : character = '#'
  · rw [number]
    show textDots (serialText serial) = 0 + (0 + textDots (serialText serial))
    rw [Nat.zero_add, Nat.zero_add]
  simp only [if_neg mine, if_neg his, if_neg number]
  rfl

/-- The length of a message that was filled in, before it was: the length with the own call, and for
each sign of the other call or of the serial number the length of what it stands for.  The calls may
hold such signs themselves. -/
theorem dots_fill (message myCall hisCall : Text) (serial : Int) :
    dots (fill message myCall hisCall serial) [] =
        dots message myCall + message.count '@' * textDots hisCall +
          message.count '#' * textDots (serialText serial) ∧
      (0 < serial → IsNumberText serial.toNat (serialText serial)) ∧
      (serial ≤ 0 → serialText serial = []) := by
  refine ⟨?_, isNumberText_serialText, fun none => if_neg (Int.not_lt.mpr none)⟩
  calc
    dots (fill message myCall hisCall serial) []
      = Sequence.total (fun character => textDots (filled myCall hisCall serial character))
          message := by
        rw [dots_nil, textDots, fill, Sequence.total_flatMap]
        rfl
    _ = dots message myCall + (message.count '@' * textDots hisCall +
          message.count '#' * textDots (serialText serial)) := by
        rw [Sequence.total_congr fun character _ => textDots_filled myCall hisCall serial character,
          Sequence.total_add, Sequence.total_add, Sequence.total_ite_eq, Sequence.total_ite_eq, dots]
    _ = _ := (Nat.add_assoc _ _ _).symm

/-- Both calls hold signs of a prepared message, which are not filled in again. -/
theorem dots_fill_of_signs_in_calls :
    fill (Text.ofString "@ # %") (Text.ofString "K@1") (Text.ofString "D%#") 7 =
        Text.ofString "D%# 007 K@1" ∧
      dots (fill (Text.ofString "@ # %") (Text.ofString "K@1") (Text.ofString "D%#") 7) [] = 114 ∧
      IsNumberText 7 (serialText 7) := by
  rcases dots_fill (Text.ofString "@ # %") (Text.ofString "K@1") (Text.ofString "D%#") 7 with
    ⟨length, number, _⟩
  refine ⟨by decide, ?_, number (by decide)⟩
  rw [length]
  decide

end Message
end ContestExchange
