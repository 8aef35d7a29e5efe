import ContestExchange.Proofs.NormalForm

namespace ContestExchange

/-!
# Serials and sections written out

The normal form of a serial and a section reads as the serial and the section that it was written
from.  Both have to be found among much that overrides them.  Of a serial of four figures the last
three are a serial as well, and only a later template takes all four.  A section is looked up by all
of its letters, but the table gives the first entry that continues them.

So an entry can be read back only if no earlier one goes on longer.  Entries that stand later may,
and those that it continues do no harm wherever they stand.
-/

section Written

variable {code : Text}

theorem marks_of_letters (letters : ∀ character ∈ code, Text.isCapital character = true)
    (one : 1 ≤ code.length) (four : code.length ≤ 4) :
    Serial.marks (' ' :: code) ∈ serialEndings := by
  have all : ∀ count ∈ [1, 2, 3, 4],
      Symbol.blank :: (List.replicate count .letter ++ [.undefined]) ∈ serialEndings := by decide
  rw [marks_of_code letters]
  exact all code.length (mem_one_to_four one four)

/-- No call is found on a serial and a section. -/
theorem IsSerial.scanCall_append {digits : Text} {number : Nat} (serial : IsSerial digits number)
    (letters : ∀ character ∈ code, Text.isCapital character = true) (one : 1 ≤ code.length)
    (four : code.length ≤ 4) :
    Extraction.scanCall TemplateSet.callShapes (digits ++ ' ' :: code)
      (classify (digits ++ ' ' :: code)) = [] := by
  have all : ∀ figures ∈ [3, 4], ∀ letters ∈ [1, 2, 3, 4], ∀ shape ∈ TemplateSet.callShapes,
      locate (codeLine figures letters) shape = none := by decide
  rw [serial.classify_code letters]
  exact Extraction.scanCall_of_absent
    (all digits.length (by simpa using serial.length) code.length (mem_one_to_four one four))

end Written

namespace Extractor

/-- A serial and a section in normal form read as themselves, if the section is an entry of the
table and no earlier entry goes on longer. -/
theorem serial_section_read_back (locatorCheck typing : Bool) {table : MultiplierTable}
    {before after : List Text} {code : Text} {number : Nat}
    (serial : 1 ≤ number ∧ number ≤ 9999)
    (letters : ∀ character ∈ code, Text.isCapital character = true)
    (length : 1 ≤ code.length ∧ code.length ≤ 4)
    (listed : table.entries = before ++ code :: after)
    (unshadowed : ∀ entry ∈ before, code <+: entry → entry = code) :
    ∃ reading,
      (Extractor.mk .serialSection locatorCheck table .builtIn).extract typing
        (Serial.normalText number ++ ' ' :: code) = .ok reading ∧
      reading.normalized = Serial.normalText number ++ ' ' :: code ∧
      reading.serial = Serial.columnText number ∧
      reading.place = code ∧
      reading.multiplier = code ∧
      reading.correction = [] := by
  have digits := isSerial_normalText serial
  have present : code ≠ [] := List.ne_nil_of_length_pos length.1
  have stops : (' ' :: code).takeWhile Text.isDigit = [] := rfl
  have found := digits.serialOf_of_marks stops (marks_of_letters letters length.1 length.2)
  have leads := MultiplierTable.firstLeading?_of_listed present listed unshadowed
  have code_of_text : (Extractor.mk .serialSection locatorCheck table .builtIn).sectionCode
      (Serial.normalText number ++ ' ' :: code) = code := by
    rw [sectionCode_of_serialSection rfl rfl]
    exact digits.findSection_append letters length.1 length.2 leads
  have no_call : (Extractor.mk .serialSection locatorCheck table .builtIn).correction
      (Serial.normalText number ++ ' ' :: code) = [] :=
    digits.scanCall_append letters length.1 length.2
  have joined : normalForm (Serial.normalText number) code =
      Serial.normalText number ++ ' ' :: code := by
    rw [normalForm, digits.isEmpty, List.isEmpty_eq_false_iff.mpr present]
    rfl
  rcases fields_readSection (Extractor.mk .serialSection locatorCheck table .builtIn) typing number
    (Serial.normalText number ++ ' ' :: code) with ⟨normal, column, place, multiplier, correction⟩
  rw [code_of_text] at normal place multiplier
  exact ⟨_, extract_eq_of_serialOf rfl rfl typing found, normal.trans joined, column, place,
    multiplier, correction.trans no_call⟩

/-- A serial of four figures, and a section of one letter that later entries continue. -/
theorem serial_section_read_back_of_letter :
    ∃ reading,
      (Extractor.mk .serialSection false
        ⟨[Text.ofString "W", Text.ofString "E", Text.ofString "EMA"]⟩ .builtIn).extract true
        (Text.ofString "1234 E") = .ok reading ∧
      reading.normalized = Text.ofString "1234 E" ∧
      reading.serial = Text.ofString "1234" ∧
      reading.multiplier = Text.ofString "E" := by
  have unshadowed : ∀ entry ∈ [Text.ofString "W"], Text.ofString "E" <+: entry →
      entry = Text.ofString "E" := by decide
  have letters : ∀ character ∈ Text.ofString "E", Text.isCapital character = true :=
    List.all_eq_true.mp rfl
  have serial : 1 ≤ 1234 ∧ 1234 ≤ 9999 := by decide
  have listed : (MultiplierTable.mk
      [Text.ofString "W", Text.ofString "E", Text.ofString "EMA"]).entries =
      [Text.ofString "W"] ++ Text.ofString "E" :: [Text.ofString "EMA"] := rfl
  rcases serial_section_read_back false true serial letters (by decide) listed unshadowed with
    ⟨reading, read, normal, column, _, multiplier, _⟩
  exact ⟨reading, read, normal, column, multiplier⟩

end Extractor
end ContestExchange
