import ContestExchange.Proofs.Group
import ContestExchange.Proofs.SectionForm
import ContestExchange.Proofs.TypedSerial

namespace ContestExchange

/-!
# The section typed last

An exchange is corrected by typing on, so the section that was typed last should be the one that is
read.  What decides is the order of the templates.  Those for a section at the border of the text
come last, and behind the one for a section of some size there are only those for longer sections.
They cannot lie at the border as well, because the blank before the section is in their way, and
what they find elsewhere ends in a mark that no entry has.  At the very end of a text the last
section is read, whatever stands before it.

Once a blank is typed behind it, the section is one group among others.  The templates for groups
are in the order of their sizes, and each of them keeps its own last group.  So if the last group of
some greater size leads to an entry, that entry is preferred, however early the group stands.
-/

namespace Extraction

section Under

variable {lookUp : Text → Option Text} {table : MultiplierTable} {text code : Text}

theorem dropOneLast_concat (text : Text) : Text.dropOneLast ' ' (text ++ [' ']) = text := by
  rw [Text.dropOneLast, List.getLast?_concat, if_pos rfl, List.dropLast_concat]

theorem mem_dropOneLast {character : Char} (member : character ∈ text) (noBlank : character ≠ ' ') :
    character ∈ Text.dropOneLast ' ' text := by
  rw [Text.dropOneLast]
  split
  · rename_i blank
    rcases List.getLast?_eq_some_iff.mp blank with ⟨front, split⟩
    rw [split, List.mem_append, List.mem_singleton] at member
    rw [split, List.dropLast_concat]
    exact member.resolve_right noBlank
  · exact member

/-- A template between two blanks leads to what the last group of its kinds leads to. -/
theorem sectionUnder?_between {kinds : List Symbol} (present : kinds ≠ [])
    (noBlank : .blank ∉ kinds) (fruitful : ∀ candidate, candidate ≠ [] → lookUp candidate ≠ some [])
    (text : Text) :
    sectionUnder? lookUp text (classify text) (Template.between kinds) =
      (lastGroup? kinds text).bind lookUp := by
  have under := congrArg (Text.dropOneLast ' ') (textUnder_between noBlank text)
  cases last : lastGroup? kinds text with
  | none =>
      rw [last] at under
      rw [sectionUnder?, candidateUnder, under]
      rfl
  | some group =>
      rw [last, Option.map_some, Option.getD_some, dropOneLast_concat] at under
      have some : group ≠ [] := by
        intro empty
        rw [← map_of_lastGroup? last, empty] at present
        exact present rfl
      exact sectionUnder?_of_candidate under some (fruitful group some)

/-- No entry is led to by a candidate with a mark that no entry has. -/
theorem sectionUnder?_of_foreign
    (letters : ∀ entry ∈ table.entries, ∀ character ∈ entry, Text.isCapital character = true)
    {line : List Symbol} {template : Template} (kind : Symbol)
    (under : kind ∈ (textUnder text line template).map Symbol.ofChar) (noBlank : kind ≠ .blank)
    (noLetter : kind ≠ .letter) :
    sectionUnder? table.firstLeading? text line template = none := by
  rcases List.mem_map.mp under with ⟨character, member, same⟩
  rw [← same] at noBlank noLetter
  have candidate : character ∈ candidateUnder text line template := by
    apply mem_dropOneLast member
    intro blank
    rw [blank] at noBlank
    exact noBlank rfl
  cases found : sectionUnder? table.firstLeading? text line template with
  | none => rfl
  | some code =>
      have looked := (lookUp_of_sectionUnder? found).1
      have inCode := (MultiplierTable.isPrefix_of_firstLeading? looked).mem candidate
      have capital := letters code (MultiplierTable.mem_of_firstLeading? looked) character inCode
      exact absurd (ofChar_of_isCapital capital) noLetter

end Under

/-! ## The templates behind -/

/-- The templates for more letters than a section has, the longest first. -/
def longerPlaces (after : Symbol) (size : Nat) : List Template :=
  ([4, 3, 2, 1].filter (size < ·)).map (TemplateSet.lettersBetween .blank after)

/-- The template for two letters and a figure, behind all others. -/
def figuredPlace : Template := [.blank, .letter, .letter, .figure, .blank]

theorem sectionPlaces_at_border : ∀ size ∈ [1, 2, 3, 4],
    TemplateSet.sectionPlaces = TemplateSet.sectionPlaces.take (7 + size) ++
      TemplateSet.lettersBetween .blank .undefined size ::
        (figuredPlace :: longerPlaces .undefined size).reverse := by
  decide

theorem sectionPlaces_at_blank : ∀ size ∈ [1, 2, 3, 4],
    TemplateSet.sectionPlaces = TemplateSet.sectionPlaces.take (3 + size) ++
      TemplateSet.lettersBetween .blank .blank size ::
        (figuredPlace :: longerPlaces .undefined 0 ++ longerPlaces .blank size).reverse := by
  decide

theorem genericSectionPlaces_at_blank : ∀ size ∈ [1, 2, 3, 4],
    TemplateSet.genericSectionPlaces = TemplateSet.genericSectionPlaces.take (6 + size) ++
      TemplateSet.lettersBetween .blank .blank size :: (longerPlaces .blank size).reverse := by
  decide

section Behind

variable {lookUp : Text → Option Text} {table : MultiplierTable} {text code : Text}

theorem sectionUnder?_figuredPlace
    (letters : ∀ entry ∈ table.entries, ∀ character ∈ entry, Text.isCapital character = true)
    (text : Text) :
    sectionUnder? table.firstLeading? text (classify text) figuredPlace = none := by
  cases found : locate (classify text) figuredPlace with
  | none => exact sectionUnder?_of_absent found
  | some offset =>
      rcases kinds_textUnder found with kinds | ⟨_, atBorder⟩
      · apply sectionUnder?_of_foreign letters .figure _ (by decide) (by decide)
        rw [figuredPlace, kinds]
        decide
      · have border := congrArg List.getLast? atBorder
        rw [List.getLast?_concat] at border
        cases border

/-- At the border there is no room for more letters than those behind the last blank, and elsewhere
the template covers a mark that no entry has. -/
theorem sectionUnder?_longer
    (letters : ∀ entry ∈ table.entries, ∀ character ∈ entry, Text.isCapital character = true)
    (ends : ' ' :: code <:+ text) {count : Nat} (short : code.length < count) :
    sectionUnder? table.firstLeading? text (classify text)
      (TemplateSet.lettersBetween .blank .undefined count) = none := by
  cases found : locate (classify text) (TemplateSet.lettersBetween .blank .undefined count) with
  | none => exact sectionUnder?_of_absent found
  | some offset =>
      rcases kinds_textUnder found with kinds | ⟨suffix, atBorder⟩
      · apply sectionUnder?_of_foreign letters .undefined _ (by decide) (by decide)
        rw [TemplateSet.lettersBetween, kinds]
        exact List.mem_append_right _ (List.mem_singleton_self _)
      · have onlyLetters := List.append_cancel_right atBorder
        have size := congrArg List.length onlyLetters
        rw [List.length_map, List.length_replicate] at size
        have reached : ' ' :: code <:+ textUnder text (classify text)
            (TemplateSet.lettersBetween .blank .undefined count) := by
          apply List.suffix_of_suffix_length_le ends suffix
          rw [List.length_cons]
          exact Nat.le_trans short (Nat.le_of_eq size.symm)
        have blank := List.mem_map_of_mem (f := Symbol.ofChar) (reached.mem List.mem_cons_self)
        rw [TemplateSet.lettersBetween, onlyLetters] at blank
        exact absurd (List.eq_of_mem_replicate blank) (by decide)

/-- Behind the last blank of a text the templates at the border lead to nothing longer. -/
theorem sectionUnder?_behind
    (letters : ∀ entry ∈ table.entries, ∀ character ∈ entry, Text.isCapital character = true)
    (ends : ' ' :: code <:+ text) :
    (figuredPlace :: longerPlaces .undefined code.length).findSome?
      (sectionUnder? table.firstLeading? text (classify text)) = none := by
  rw [List.findSome?_eq_none_iff]
  intro place listed
  rcases List.mem_cons.mp listed with figured | longer
  · rw [figured]
    exact sectionUnder?_figuredPlace letters text
  · rcases List.mem_map.mp longer with ⟨count, larger, same⟩
    rw [← same]
    exact sectionUnder?_longer letters ends (of_decide_eq_true (List.mem_filter.mp larger).2)

end Behind

/-! ## A section at the border -/

section AtBorder

variable {table : MultiplierTable} {code : Text}

theorem locate_at_border (letters : ∀ character ∈ code, Text.isCapital character = true)
    (length : 1 ≤ code.length ∧ code.length ≤ 4) (text : Text) :
    locate (classify (text ++ ' ' :: code))
      (TemplateSet.lettersBetween .blank .undefined code.length) = some (text.length + 1) := by
  have all : ∀ size ∈ [1, 2, 3, 4],
      lastOccurrence? (TemplateSet.lettersBetween .blank .undefined size)
        (TemplateSet.lettersBetween .blank .undefined size) = some 0 := by
    decide
  have counted := mem_one_to_four length.1 length.2
  have placed := lastOccurrence?_append_of_some (all code.length counted)
    (.undefined :: text.map Symbol.ofChar)
  rw [List.length_cons, List.length_map, Nat.zero_add] at placed
  rw [Serial.classify_append, marks_of_code letters]
  exact placed

/-- A section at the end of a text is read, whatever stands before it. -/
theorem findSection_at_border
    (letters : ∀ entry ∈ table.entries, ∀ character ∈ entry, Text.isCapital character = true)
    (member : code ∈ table.entries) (length : 1 ≤ code.length ∧ code.length ≤ 4)
    (leads : table.firstLeading? code = some code) (text : Text) :
    findSection table.firstLeading? TemplateSet.sectionPlaces (text ++ ' ' :: code)
      (classify (text ++ ' ' :: code)) = code := by
  have present : code ≠ [] := List.ne_nil_of_length_pos length.1
  have candidate : candidateUnder (text ++ ' ' :: code) (classify (text ++ ' ' :: code))
      (TemplateSet.lettersBetween .blank .undefined code.length) = code := by
    rw [candidateUnder, textUnder, locate_at_border (letters code member) length,
      length_lettersBetween, Option.map_some]
    exact (congrArg (Text.dropOneLast ' ') (windowText_code text code)).trans
      (dropOneLast_of_letters (letters code member))
  have fruitful : table.firstLeading? code ≠ some [] :=
    MultiplierTable.firstLeading?_ne_nil present
  have found := sectionUnder?_of_candidate candidate present fruitful
  rw [leads] at found
  have split := sectionPlaces_at_border code.length (mem_one_to_four length.1 length.2)
  rw [findSection_of_found split found,
    sectionUnder?_behind letters (List.suffix_append text (' ' :: code))]
  rfl

end AtBorder

/-! ## A section between blanks -/

section BetweenBlanks

variable {lookUp : Text → Option Text} {table : MultiplierTable} {text code : Text}

/-- The entry that the last groups of more letters lead to, the longest group first. -/
def longerSection? (lookUp : Text → Option Text) (size : Nat) (text : Text) : Option Text :=
  ([4, 3, 2, 1].filter (size < ·)).findSome? fun count =>
    (lastGroup? (List.replicate count .letter) text).bind lookUp

theorem blank_notMem_letters (count : Nat) : .blank ∉ List.replicate count Symbol.letter :=
  fun member => absurd (List.eq_of_mem_replicate member) (by decide)

theorem findSome?_longerPlaces
    (fruitful : ∀ candidate, candidate ≠ [] → lookUp candidate ≠ some []) (size : Nat)
    (text : Text) :
    (longerPlaces .blank size).findSome? (sectionUnder? lookUp text (classify text)) =
      longerSection? lookUp size text := by
  rw [longerPlaces, List.findSome?_map, longerSection?]
  apply findSome?_congr
  intro count larger
  have more : size < count := of_decide_eq_true (List.mem_filter.mp larger).2
  have present : List.replicate count Symbol.letter ≠ [] := by
    apply List.ne_nil_of_length_pos
    rw [List.length_replicate]
    exact Nat.lt_of_le_of_lt (Nat.zero_le size) more
  exact sectionUnder?_between present (blank_notMem_letters count) fruitful text

/-- A section that is typed behind a text has no more letters than itself. -/
theorem longerSection?_append (letters : ∀ character ∈ code, Text.isCapital character = true)
    (lookUp : Text → Option Text) (text : Text) :
    longerSection? lookUp code.length (text ++ ' ' :: (code ++ [' '])) =
      longerSection? lookUp code.length (text ++ [' ']) := by
  have whole : ' ' ∉ code := blank_notMem (symbols_of_letters letters ▸ blank_notMem_letters _)
  apply findSome?_congr
  intro count larger
  have more : code.length < count := of_decide_eq_true (List.mem_filter.mp larger).2
  have other : code.map Symbol.ofChar ≠ List.replicate count .letter := by
    intro same
    have size := congrArg List.length same
    rw [List.length_map, List.length_replicate] at size
    exact absurd size (Nat.ne_of_lt more)
  rw [lastGroup?_append_group whole, if_neg other]

theorem sectionUnder?_at_blank
    (fruitful : ∀ candidate, candidate ≠ [] → lookUp candidate ≠ some [])
    (letters : ∀ character ∈ code, Text.isCapital character = true) (present : code ≠ [])
    (leads : lookUp code = some code) (text : Text) :
    sectionUnder? lookUp (text ++ ' ' :: (code ++ [' ']))
      (classify (text ++ ' ' :: (code ++ [' '])))
      (TemplateSet.lettersBetween .blank .blank code.length) = some code := by
  have symbols := symbols_of_letters letters
  have whole : ' ' ∉ code := blank_notMem (symbols ▸ blank_notMem_letters _)
  have kinds : List.replicate code.length Symbol.letter ≠ [] := by
    rw [← symbols]
    exact mt List.map_eq_nil_iff.mp present
  refine (sectionUnder?_between kinds (blank_notMem_letters code.length) fruitful _).trans ?_
  rw [lastGroup?_append_group whole, if_pos symbols]
  exact leads

/-- Among the templates of an exchange those for longer groups are preferred to the last section, if
those behind them lead to nothing. -/
theorem findSection_at_blank
    (fruitful : ∀ candidate, candidate ≠ [] → lookUp candidate ≠ some [])
    (letters : ∀ character ∈ code, Text.isCapital character = true) (present : code ≠ [])
    (leads : lookUp code = some code) (text : Text) {templates before : List Template}
    (behind : List Template)
    (split : templates = before ++ TemplateSet.lettersBetween .blank .blank code.length ::
      (behind ++ longerPlaces .blank code.length).reverse)
    (nothing : behind.findSome? (sectionUnder? lookUp (text ++ ' ' :: (code ++ [' ']))
      (classify (text ++ ' ' :: (code ++ [' '])))) = none) :
    findSection lookUp templates (text ++ ' ' :: (code ++ [' ']))
      (classify (text ++ ' ' :: (code ++ [' ']))) =
        (longerSection? lookUp code.length (text ++ [' '])).getD code := by
  have found := sectionUnder?_at_blank fruitful letters present leads text
  rw [findSection_of_found split found, List.findSome?_append, nothing, Option.none_or,
    findSome?_longerPlaces fruitful, longerSection?_append letters]

theorem findSection_sectionPlaces
    (letters : ∀ entry ∈ table.entries, ∀ character ∈ entry, Text.isCapital character = true)
    (member : code ∈ table.entries) (length : 1 ≤ code.length ∧ code.length ≤ 4)
    (leads : table.firstLeading? code = some code) (text : Text) :
    findSection table.firstLeading? TemplateSet.sectionPlaces (text ++ ' ' :: (code ++ [' ']))
      (classify (text ++ ' ' :: (code ++ [' ']))) =
        (longerSection? table.firstLeading? code.length (text ++ [' '])).getD code := by
  have present : code ≠ [] := List.ne_nil_of_length_pos length.1
  have fruitful (candidate : Text) (present : candidate ≠ []) :
      table.firstLeading? candidate ≠ some [] := MultiplierTable.firstLeading?_ne_nil present
  have ends : [' '] <:+ text ++ ' ' :: (code ++ [' ']) := ⟨text ++ ' ' :: code, by simp⟩
  have split := sectionPlaces_at_blank code.length (mem_one_to_four length.1 length.2)
  exact findSection_at_blank fruitful (letters code member) present leads text
    (figuredPlace :: longerPlaces .undefined 0) split (sectionUnder?_behind letters ends)

theorem findSection_genericSectionPlaces
    (letters : ∀ character ∈ code, Text.isCapital character = true)
    (length : 1 ≤ code.length ∧ code.length ≤ 4) (leads : table.closest? code = some code)
    (text : Text) :
    findSection table.closest? TemplateSet.genericSectionPlaces (text ++ ' ' :: (code ++ [' ']))
      (classify (text ++ ' ' :: (code ++ [' ']))) =
        (longerSection? table.closest? code.length (text ++ [' '])).getD code := by
  have present : code ≠ [] := List.ne_nil_of_length_pos length.1
  have split := genericSectionPlaces_at_blank code.length (mem_one_to_four length.1 length.2)
  exact findSection_at_blank (fun candidate _ => table.closest?_ne_nil candidate) letters present
    leads text [] split rfl

end BetweenBlanks

end Extraction

/-! ## Whole readings -/

namespace Extractor

section LastSection

variable {extractor : Extractor} {before after : List Text} {text code : Text}

/-- A text with a serial number still has one when a section is typed behind it. -/
theorem exists_serialOf_section (typable : ∀ character ∈ text, Text.isTypable character = true)
    {number : Nat} (parsed : Serial.serialOf text = .ok number)
    (letters : ∀ character ∈ code, Text.isCapital character = true) (present : code ≠ [])
    (ending : Text) (blanks : ∀ character ∈ ending, character = ' ') :
    ∃ other, Serial.serialOf (text ++ ' ' :: (code ++ ending)) = .ok other := by
  apply Serial.exists_serialOf_append typable parsed
  · intro character member
    rcases List.mem_append.mp member with inCode | behind
    · exact Text.of_isCapital (fun character => Text.isTypable character = true) (by decide)
        (letters character inCode)
    · rw [blanks character behind]
      decide
  · cases code with
    | nil => exact absurd rfl present
    | cons first rest => exact leadingDigits_of_letter (letters first List.mem_cons_self) _

/-- A section at the end of a typed exchange is the one that is read, whatever sections stand before
it. -/
theorem last_section_read (kind : extractor.strategy = .serialSection)
    (builtIn : extractor.templates = .builtIn) (typing : Bool)
    (letters : ∀ entry ∈ extractor.table.entries, ∀ character ∈ entry,
      Text.isCapital character = true)
    (typable : ∀ character ∈ text, Text.isTypable character = true) {number : Nat}
    (parsed : Serial.serialOf text = .ok number)
    (length : 1 ≤ code.length ∧ code.length ≤ 4)
    (listed : extractor.table.entries = before ++ code :: after)
    (unshadowed : ∀ entry ∈ before, code <+: entry → entry = code) :
    ∃ reading, extractor.extract typing (text ++ ' ' :: code) = .ok reading ∧
      reading.place = code ∧ reading.multiplier = code := by
  have present : code ≠ [] := List.ne_nil_of_length_pos length.1
  have member : code ∈ extractor.table.entries := by
    rw [listed]
    exact List.mem_append_right before List.mem_cons_self
  have leads := MultiplierTable.firstLeading?_of_listed present listed unshadowed
  rcases exists_serialOf_section typable parsed (letters code member) present []
    (List.forall_mem_nil _) with ⟨other, parsedAgain⟩
  rw [List.append_nil] at parsedAgain
  have section_of_text : extractor.sectionCode (text ++ ' ' :: code) = code := by
    rw [sectionCode_of_serialSection kind builtIn]
    exact Extraction.findSection_at_border letters member length leads text
  rcases fields_readSection extractor typing other (text ++ ' ' :: code) with
    ⟨_, _, place, multiplier, _⟩
  rw [section_of_text] at place multiplier
  exact ⟨_, extract_eq_of_serialOf kind builtIn typing parsedAgain, place, multiplier⟩

/-- The last section counts, though the text has sections between blanks and before a mark, and the
table has an entry that continues it. -/
theorem last_section_read_behind_others :
    ∃ reading,
      (Extractor.mk .serialSection false
        ⟨[Text.ofString "EMA", Text.ofString "CT", Text.ofString "CTX"]⟩ .builtIn).extract true
        (Text.ofString "5 EMA CTX EMA, CT") = .ok reading ∧
      reading.place = Text.ofString "CT" ∧ reading.multiplier = Text.ofString "CT" := by
  have capitals : [Text.ofString "EMA", Text.ofString "CT", Text.ofString "CTX"].all
      (·.all Text.isCapital) = true := rfl
  have letters : ∀ entry ∈ [Text.ofString "EMA", Text.ofString "CT", Text.ofString "CTX"],
      ∀ character ∈ entry, Text.isCapital character = true :=
    fun entry listed => List.all_eq_true.mp (List.all_eq_true.mp capitals entry listed)
  have typable : ∀ character ∈ Text.ofString "5 EMA CTX EMA,", Text.isTypable character = true :=
    List.all_eq_true.mp rfl
  have parsed : Serial.serialOf (Text.ofString "5 EMA CTX EMA,") = .ok 5 := rfl
  have length : 1 ≤ (Text.ofString "CT").length ∧ (Text.ofString "CT").length ≤ 4 := by decide
  have unshadowed : ∀ entry ∈ [Text.ofString "EMA"], Text.ofString "CT" <+: entry →
      entry = Text.ofString "CT" := by
    decide
  have listed : [Text.ofString "EMA", Text.ofString "CT", Text.ofString "CTX"] =
      [Text.ofString "EMA"] ++ Text.ofString "CT" :: [Text.ofString "CTX"] := rfl
  exact last_section_read rfl rfl true letters typable parsed length listed unshadowed

/-- How a strategy looks a section up. -/
def lookUp (extractor : Extractor) : Text → Option Text :=
  match extractor.strategy with
  | .serialSection => extractor.table.firstLeading?
  | _ => extractor.table.closest?

/-- A section that is typed last and followed by a blank is read, unless the last group of some
greater size leads to an entry.  Then the longest such group decides. -/
theorem section_before_blank_read (kind : extractor.strategy = .serialSection ∨
      extractor.strategy = .sectionAlone ∨ extractor.strategy = .sectionOnce)
    (builtIn : extractor.templates = .builtIn) (typing : Bool)
    (letters : ∀ entry ∈ extractor.table.entries, ∀ character ∈ entry,
      Text.isCapital character = true)
    (typable : ∀ character ∈ text, Text.isTypable character = true) {former : Extraction}
    (read : extractor.extract typing text = .ok former)
    (length : 1 ≤ code.length ∧ code.length ≤ 4)
    (listed : extractor.table.entries = before ++ code :: after)
    (unshadowed : ∀ entry ∈ before, code <+: entry → entry = code) :
    ∃ reading, extractor.extract typing (text ++ ' ' :: (code ++ [' '])) = .ok reading ∧
      reading.place =
        (Extraction.longerSection? extractor.lookUp code.length (text ++ [' '])).getD code ∧
      reading.multiplier = reading.place ∧
      (reading.place = code ↔ ∀ other,
        Extraction.longerSection? extractor.lookUp code.length (text ++ [' ']) = some other →
          other = code) := by
  have present : code ≠ [] := List.ne_nil_of_length_pos length.1
  have member : code ∈ extractor.table.entries := by
    rw [listed]
    exact List.mem_append_right before List.mem_cons_self
  suffices found : ∃ reading,
      extractor.extract typing (text ++ ' ' :: (code ++ [' '])) = .ok reading ∧
        reading.place =
          (Extraction.longerSection? extractor.lookUp code.length (text ++ [' '])).getD code ∧
        reading.multiplier = reading.place by
    rcases found with ⟨reading, readAgain, place, multiplier⟩
    refine ⟨reading, readAgain, place, multiplier, ?_⟩
    rw [place]
    exact getD_eq_self_iff
  rcases kind with kind | alone
  · have leads := MultiplierTable.firstLeading?_of_listed present listed unshadowed
    have scans : extractor.strategy.scansNumber = true := by rw [kind]; rfl
    rw [extract_of_scansNumber builtIn scans] at read
    cases parsed : Serial.serialOf text with
    | error fault =>
        rw [parsed] at read
        cases read
    | ok number =>
        rcases exists_serialOf_section typable parsed (letters code member) present [' ']
          (List.forall_mem_singleton.mpr rfl) with ⟨other, parsedAgain⟩
        have section_of_text : extractor.sectionCode (text ++ ' ' :: (code ++ [' '])) =
            (Extraction.longerSection? extractor.lookUp code.length (text ++ [' '])).getD code := by
          rw [sectionCode_of_serialSection kind builtIn, lookUp, kind]
          exact Extraction.findSection_sectionPlaces letters member length leads text
        rcases fields_readSection extractor typing other (text ++ ' ' :: (code ++ [' '])) with
          ⟨_, _, place, multiplier, _⟩
        exact ⟨_, extract_eq_of_serialOf kind builtIn typing parsedAgain,
          place.trans section_of_text, multiplier.trans place.symm⟩
  · have leads := MultiplierTable.closest?_of_listed present listed unshadowed
    have closest : extractor.lookUp = extractor.table.closest? := by
      rcases alone with kind | kind
      · rw [lookUp, kind]
      · rw [lookUp, kind]
    rcases extract_of_section alone builtIn typing (text ++ ' ' :: (code ++ [' '])) with
      ⟨reading, readAgain, normalized, place, multiplier⟩
    refine ⟨reading, readAgain, ?_, multiplier.trans place.symm⟩
    rw [place, normalized, closest]
    exact Extraction.findSection_genericSectionPlaces (letters code member) length leads text

/-- Three letters are preferred to the two that are typed behind them. -/
theorem section_before_blank_read_of_longer_group :
    ∃ reading,
      (Extractor.mk .serialSection false ⟨[Text.ofString "EMA", Text.ofString "CT"]⟩
        .builtIn).extract true (Text.ofString "5 EMA CT ") = .ok reading ∧
      reading.place = Text.ofString "EMA" := by
  have capitals : [Text.ofString "EMA", Text.ofString "CT"].all (·.all Text.isCapital) = true := rfl
  have letters : ∀ entry ∈ [Text.ofString "EMA", Text.ofString "CT"],
      ∀ character ∈ entry, Text.isCapital character = true :=
    fun entry listed => List.all_eq_true.mp (List.all_eq_true.mp capitals entry listed)
  have typable : ∀ character ∈ Text.ofString "5 EMA", Text.isTypable character = true :=
    List.all_eq_true.mp rfl
  have length : 1 ≤ (Text.ofString "CT").length ∧ (Text.ofString "CT").length ≤ 4 := by decide
  have unshadowed : ∀ entry ∈ [Text.ofString "EMA"], Text.ofString "CT" <+: entry →
      entry = Text.ofString "CT" := by
    decide
  have listed : [Text.ofString "EMA", Text.ofString "CT"] =
      [Text.ofString "EMA"] ++ Text.ofString "CT" :: [] := rfl
  have kind : Strategy.serialSection = .serialSection ∨ Strategy.serialSection = .sectionAlone ∨
      Strategy.serialSection = .sectionOnce := Or.inl rfl
  rcases @section_before_blank_read
    ⟨.serialSection, false, ⟨[Text.ofString "EMA", Text.ofString "CT"]⟩, .builtIn⟩ _ _ _ _ kind rfl
    true letters typable _ rfl length listed unshadowed with ⟨reading, read, place, _⟩
  exact ⟨reading, read, place.trans rfl⟩

end LastSection
end Extractor
end ContestExchange
