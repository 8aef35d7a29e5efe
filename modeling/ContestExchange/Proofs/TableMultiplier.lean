import ContestExchange.Proofs.SingleField

namespace ContestExchange

/-!
# Multipliers come from the table

A contact counts for the multiplier that is read out of its exchange, so what is read must be an
entry of the table and not some part of what was typed.  Five strategies look a section up.  They
cut their candidates out of the text in different ways, under templates, from its start or behind a
check, and they match them in different ways; but each lookup answers with an entry or not at all,
and a candidate is never kept in place of an answer.

So nothing here depends on the templates.
-/

/-! ## Sections come from the table -/

namespace Extraction

/-- Whether a text is an entry of the table, or empty. -/
def Listed (table : MultiplierTable) (code : Text) : Prop := code = [] ∨ code ∈ table.entries

section Listed

variable {table : MultiplierTable}

/-- Whatever templates lead to a section, it is one that the lookup knows. -/
theorem listed_findSection {lookUp : Text → Option Text}
    (answers : ∀ candidate code, lookUp candidate = some code → code ∈ table.entries)
    (templates : List Template) (text : Text) (line : List Symbol) :
    Listed table (findSection lookUp templates text line) := by
  rcases findSection_cases with empty | ⟨candidate, found, _⟩
  · exact Or.inl empty
  · exact Or.inr (answers candidate _ found)

theorem listed_stateCode (text : Text) : Listed table (stateCode table text) := by
  rcases stateCode_cases table text with empty | ⟨listed, _⟩
  · exact Or.inl empty
  · exact Or.inr listed

theorem listed_section? (parts : SweepstakesParts) : Listed table (parts.section? table) := by
  unfold SweepstakesParts.section?
  split
  · exact Or.inl rfl
  · cases found : table.find? parts.letters with
    | none => exact Or.inl rfl
    | some code => exact Or.inr (List.mem_of_find?_eq_some found)

/-- What a reading with a section has of it: the section is the multiplier, it is an entry or empty,
and it ends the normal form. -/
structure FromTable (table : MultiplierTable) (reading : Extraction) : Prop where
  multiplier : reading.multiplier = reading.place
  listed : Listed table reading.place
  ends : reading.place <:+ reading.normalized

/-- The fields that are shown while an exchange is typed leave the reading as it is. -/
theorem FromTable.showing {reading : Extraction} (fromTable : FromTable table reading)
    (typing : Bool) (name : String) (preview : Text) :
    FromTable table (Extraction.showing typing name preview reading) := by
  cases typing with
  | false => exact fromTable
  | true => exact ⟨fromTable.multiplier, fromTable.listed, fromTable.ends⟩

theorem fromTable_ofSweepstakes (table : MultiplierTable) (typing : Bool) (text : Text) :
    FromTable table (ofSweepstakes table typing text) := by
  apply FromTable.showing
  constructor
  · rfl
  · exact listed_section? (SweepstakesParts.ofText text)
  · exact List.suffix_append _ _

end Listed

end Extraction

namespace Extractor

open Extraction (Listed FromTable)

/-- The strategies that look a section up. -/
def tableStrategies : List Strategy :=
  [.serialSection, .sectionAlone, .sectionOnce, .dxSection, .sweepstakes]

section SectionCode

variable (extractor : Extractor)

/-- By whichever lookup a section is found, it is an entry. -/
theorem listed_sectionCode (text : Text) :
    Listed extractor.table (extractor.sectionCode text) := by
  have leading : ∀ candidate code, extractor.table.firstLeading? candidate = some code →
      code ∈ extractor.table.entries := fun _ _ => MultiplierTable.mem_of_firstLeading?
  have closest : ∀ candidate code, extractor.table.closest? candidate = some code →
      code ∈ extractor.table.entries := fun _ _ => MultiplierTable.mem_of_closest?
  unfold sectionCode
  cases extractor.strategy with
  | serialSection => exact Extraction.listed_findSection leading _ _ _
  | sectionAlone | sectionOnce => exact Extraction.listed_findSection closest _ _ _
  | dxSection => exact Extraction.listed_stateCode text
  | none | serial | zone | grid | sweepstakes => exact Or.inl rfl

/-- The section stands behind the serial number, or alone. -/
theorem fromTable_readSection (typing : Bool) (number : Option Nat) (text : Text) :
    FromTable extractor.table (extractor.readSection typing number text) := by
  apply FromTable.showing
  constructor
  · rfl
  · exact extractor.listed_sectionCode text
  · dsimp only
    split
    · exact List.suffix_rfl
    split
    · rename_i empty
      rw [List.isEmpty_iff.mp empty]
      exact List.nil_suffix
    · exact (List.suffix_cons ' ' _).trans (List.suffix_append _ _)

end SectionCode

/-- Where a section is looked up, the multiplier of a reading is its section, which is an entry of
the table or empty and ends the normal form; whatever the table, the templates and the text are. -/
theorem multiplier_from_table {extractor : Extractor}
    (tabled : extractor.strategy ∈ tableStrategies) {typing : Bool} {text : Text}
    {reading : Extraction} (read : extractor.extract typing text = .ok reading) :
    reading.multiplier = reading.place ∧
      (reading.place = [] ∨ reading.place ∈ extractor.table.entries) ∧
      reading.place <:+ reading.normalized := by
  have fromTable : FromTable extractor.table reading := by
    unfold extract at read
    cases kind : extractor.strategy with
    | serialSection =>
        simp only [kind, readSerialSection] at read
        split at read
        · cases read
        · cases read
          exact extractor.fromTable_readSection typing _ text
    | sectionAlone | sectionOnce | dxSection =>
        simp only [kind] at read
        cases read
        exact extractor.fromTable_readSection typing none text
    | sweepstakes =>
        simp only [kind] at read
        cases read
        exact Extraction.fromTable_ofSweepstakes extractor.table typing text
    | none | serial | zone | grid =>
        rw [kind] at tabled
        exact absurd tabled (by decide)
  exact ⟨fromTable.multiplier, fromTable.listed, fromTable.ends⟩

/-- Of a section only the start is typed; what counts is the entry. -/
theorem multiplier_from_table_of_shortened_section :
    .serialSection ∈ tableStrategies ∧
      ∃ reading, (Extractor.mk .serialSection false ⟨[Text.ofString "CT", Text.ofString "EMA"]⟩
          .builtIn).extract false (Text.ofString "12 EM") = .ok reading ∧
        reading.multiplier = Text.ofString "EMA" ∧
        reading.place ∈ [Text.ofString "CT", Text.ofString "EMA"] ∧
        Text.ofString "EMA" <:+ reading.normalized := by
  have tabled : Strategy.serialSection ∈ tableStrategies := by decide
  refine ⟨tabled, _, rfl, rfl, ?_⟩
  rcases @multiplier_from_table
    ⟨.serialSection, false, ⟨[Text.ofString "CT", Text.ofString "EMA"]⟩, .builtIn⟩ tabled false
    (Text.ofString "12 EM") _ rfl with ⟨_, empty | listed, ends⟩
  · cases empty
  · exact ⟨listed, ends⟩

end Extractor
end ContestExchange
