import ContestExchange.Proofs.NormalForm

namespace ContestExchange

/-!
# The normal form of a section alone

Where an exchange is only a section, its normal form is the entry that was found.  Typed by itself
the entry stands between the two borders of the line, and of the templates for such exchanges only
the one of its length lies there.  The text under it is the whole entry, which is the closest entry
to itself; so it is found again, however many others continue it or stand before it in the table.

The templates between two borders go up to three letters.  No template has room for a fourth, so a
longer entry would be found behind a blank but never by itself.
-/

/-- Whether a text is a section: one to three letters. -/
structure IsSection (code : Text) : Prop where
  length : code.length = 1 ∨ code.length = 2 ∨ code.length = 3
  letters : ∀ character ∈ code, Text.isCapital character = true

theorem classify_of_letters {code : Text}
    (letters : ∀ character ∈ code, Text.isCapital character = true) :
    classify code = TemplateSet.lettersBetween .undefined .undefined code.length := by
  rw [classify, symbols_of_letters letters]
  rfl

theorem IsSection.ne_nil {code : Text} (isSection : IsSection code) : code ≠ [] := by
  intro empty
  have length := isSection.length
  rw [empty] at length
  exact absurd length (by decide)

/-- Of the templates for an exchange of sections only, one lies on a section by itself. -/
theorem locate_between_borders {letters : Nat} (few : letters = 1 ∨ letters = 2 ∨ letters = 3) :
    TemplateSet.lettersBetween .undefined .undefined letters ∈ TemplateSet.genericSectionPlaces ∧
      locate (TemplateSet.lettersBetween .undefined .undefined letters)
        (TemplateSet.lettersBetween .undefined .undefined letters) = some 0 ∧
      ∀ template ∈ TemplateSet.genericSectionPlaces,
        locate (TemplateSet.lettersBetween .undefined .undefined letters) template = none ∨
          template = TemplateSet.lettersBetween .undefined .undefined letters := by
  have all : ∀ letters ∈ [1, 2, 3],
      TemplateSet.lettersBetween .undefined .undefined letters ∈ TemplateSet.genericSectionPlaces ∧
        locate (TemplateSet.lettersBetween .undefined .undefined letters)
          (TemplateSet.lettersBetween .undefined .undefined letters) = some 0 ∧
        ∀ template ∈ TemplateSet.genericSectionPlaces,
          locate (TemplateSet.lettersBetween .undefined .undefined letters) template = none ∨
            template = TemplateSet.lettersBetween .undefined .undefined letters := by
    decide
  exact all letters (by simpa using few)

/-- A section by itself is looked up as a whole. -/
theorem IsSection.findSection {code : Text} (isSection : IsSection code)
    {lookUp : Text → Option Text} (found : lookUp code = some code) :
    Extraction.findSection lookUp TemplateSet.genericSectionPlaces code (classify code) = code := by
  rcases locate_between_borders isSection.length with ⟨listed, located, others⟩
  have whole := windowText_behind [] code
  have candidate : Extraction.candidateUnder code
      (TemplateSet.lettersBetween .undefined .undefined code.length)
      (TemplateSet.lettersBetween .undefined .undefined code.length) = code := by
    rw [Extraction.candidateUnder, textUnder, located, length_lettersBetween, Option.map_some]
    exact (congrArg (Text.dropOneLast ' ') whole).trans (dropOneLast_of_letters isSection.letters)
  rw [classify_of_letters isSection.letters]
  exact Extraction.findSection_of_only listed candidate isSection.ne_nil found others

namespace Extractor

section SectionAlone

variable {extractor : Extractor}

theorem extract_of_section (alone : extractor.strategy = .sectionAlone ∨
      extractor.strategy = .sectionOnce) (builtIn : extractor.templates = .builtIn)
    (typing : Bool) (text : Text) :
    ∃ reading, extractor.extract typing text = .ok reading ∧
      reading.normalized = Extraction.findSection extractor.table.closest?
        TemplateSet.genericSectionPlaces text (classify text) ∧
      reading.place = reading.normalized ∧ reading.multiplier = reading.normalized := by
  have code : extractor.sectionCode text = Extraction.findSection extractor.table.closest?
      TemplateSet.genericSectionPlaces text (classify text) := by
    unfold sectionCode
    rcases alone with kind | kind
    · rw [kind, builtIn]
      rfl
    · rw [kind, builtIn]
      rfl
  refine ⟨extractor.readSection typing none text, ?_, ?_⟩
  · rcases alone with kind | kind
    · rw [extract, kind]
    · rw [extract, kind]
  · rw [← code]
    cases typing <;> exact ⟨rfl, rfl, rfl⟩

/-- The section of an exchange is empty, or an entry that is the closest one to itself. -/
theorem findSection_closest_cases (table : MultiplierTable) (text : Text) :
    Extraction.findSection table.closest? TemplateSet.genericSectionPlaces text (classify text) =
        [] ∨
      ∃ code ∈ table.entries, table.closest? code = some code ∧
        Extraction.findSection table.closest? TemplateSet.genericSectionPlaces text
          (classify text) = code := by
  rcases Extraction.findSection_cases with empty | ⟨candidate, found, _⟩
  · left
    exact empty
  · right
    refine ⟨_, MultiplierTable.mem_of_closest? found, ?_, rfl⟩
    exact MultiplierTable.closest?_self found

end SectionAlone

/-- With the built-in templates, and a table of sections of one to three letters, an exchange of a
section only is always read.  Its normal form is empty or an entry, and reads as the same section
and multiplier again. -/
theorem section_alone_stable {table : MultiplierTable}
    (sections : ∀ entry ∈ table.entries, IsSection entry) {strategy : Strategy}
    (alone : strategy = .sectionAlone ∨ strategy = .sectionOnce) (locatorCheck : Bool)
    (typing typingAgain : Bool) (text : Text) :
    ∃ reading again,
      (Extractor.mk strategy locatorCheck table .builtIn).extract typing text = .ok reading ∧
      (Extractor.mk strategy locatorCheck table .builtIn).extract typingAgain
        reading.normalized = .ok again ∧
      again.normalized = reading.normalized ∧ again.place = reading.place ∧
      again.multiplier = reading.multiplier ∧
      reading.place = reading.normalized ∧ reading.multiplier = reading.normalized ∧
      (reading.normalized = [] ∨ reading.normalized ∈ table.entries) := by
  have reads := @extract_of_section ⟨strategy, locatorCheck, table, .builtIn⟩ alone rfl
  rcases reads typing text with ⟨reading, read, found, place, multiplier⟩
  rcases reads typingAgain reading.normalized with
    ⟨again, readAgain, foundAgain, placeAgain, multiplierAgain⟩
  have known : reading.normalized = [] ∨ reading.normalized ∈ table.entries ∧
      table.closest? reading.normalized = some reading.normalized := by
    rcases findSection_closest_cases table text with empty | ⟨code, listed, itself, same⟩
    · left
      exact found.trans empty
    · right
      rw [found.trans same]
      exact ⟨listed, itself⟩
  have same : again.normalized = reading.normalized := by
    rcases known with empty | ⟨listed, itself⟩
    · rw [foundAgain, empty]
      have nowhere : ∀ template ∈ TemplateSet.genericSectionPlaces,
          locate (classify []) template = none := by
        decide
      exact Extraction.findSection_of_absent nowhere
    · rw [foundAgain]
      exact (sections _ listed).findSection itself
  refine ⟨reading, again, read, readAgain, same, ?_, ?_, place, multiplier, ?_⟩
  · rw [placeAgain, place, same]
  · rw [multiplierAgain, multiplier, same]
  · rcases known with empty | ⟨listed, _⟩
    · exact Or.inl empty
    · exact Or.inr listed

/-- Of sections that continue one another the first that shares the most with what was typed is
found, and then by itself again. -/
theorem section_alone_stable_of_shared_start :
    (∀ entry ∈ [Text.ofString "SC", Text.ofString "S", Text.ofString "SCV"], IsSection entry) ∧
      ∃ reading again,
        (Extractor.mk .sectionOnce false
          ⟨[Text.ofString "SC", Text.ofString "S", Text.ofString "SCV"]⟩ .builtIn).extract true
          (Text.ofString "SCX ") = .ok reading ∧
        (Extractor.mk .sectionOnce false
          ⟨[Text.ofString "SC", Text.ofString "S", Text.ofString "SCV"]⟩ .builtIn).extract false
          reading.normalized = .ok again ∧
        again.normalized = reading.normalized ∧ again.place = Text.ofString "SC" ∧
        again.multiplier = Text.ofString "SC" := by
  have sections : ∀ entry ∈ [Text.ofString "SC", Text.ofString "S", Text.ofString "SCV"],
      IsSection entry := by
    intro entry member
    have length : entry.length = 1 ∨ entry.length = 2 ∨ entry.length = 3 := by
      revert entry
      decide
    have letters : entry.all Text.isCapital = true := by
      revert entry
      decide
    exact ⟨length, List.all_eq_true.mp letters⟩
  refine ⟨sections, ?_⟩
  rcases @section_alone_stable ⟨[Text.ofString "SC", Text.ofString "S", Text.ofString "SCV"]⟩
      sections .sectionOnce (.inr rfl) false true false (Text.ofString "SCX ") with
    ⟨reading, again, read, readAgain, same, place, multiplier, _⟩
  refine ⟨reading, again, read, readAgain, same, place.trans ?_, multiplier.trans ?_⟩
  · cases read
    rfl
  · cases read
    rfl

end Extractor
end ContestExchange
