import Mathlib.Data.List.DropRight
import ContestExchange.Proofs.SweepstakesForm
import ContestExchange.Proofs.TableLookup

namespace ContestExchange

/-!
# Normal forms of one field

Where an exchange has one field only, its normal form is that field: a serial of three or four
figures, a zone of two to four, a grid square or a state.  Such a form has nothing that could be
taken for anything else, so it reads as itself.

A state is looked up in the table by the first three characters of what was typed, less the blanks
at their end.  The state that is found begins with them, so its own first characters lie between the
two and lead to it again, whatever the length of the entries and whatever else they share.
-/

namespace Text

theorem dropAllLast_begins (mark : Char) (text : Text) : dropAllLast mark text <+: text :=
  List.rdropWhile_prefix (· == mark) text

theorem dropAllLast_dropAllLast (mark : Char) (text : Text) :
    dropAllLast mark (dropAllLast mark text) = dropAllLast mark text :=
  List.rdropWhile_idempotent (· == mark) text

/-- A start that does not end in marks is still one after the marks at the end are gone. -/
theorem begins_dropAllLast {mark : Char} {start text : Text} (begins : start <+: text)
    (unmarked : dropAllLast mark start = start) : start <+: dropAllLast mark text := by
  have keeps := List.rdropWhile_eq_self_iff.mp unmarked
  show start <+: text.rdropWhile (· == mark)
  induction text using List.reverseRecOn with
  | nil =>
      rw [List.prefix_nil.mp begins]
      exact List.nil_prefix
  | append_singleton front last inductionHypothesis =>
      rw [List.rdropWhile_concat]
      split
      · rename_i marked
        rcases List.prefix_concat_iff.mp begins with whole | earlier
        · have present : start ≠ [] := by simp [whole]
          have ends : start.getLast present = last := by simp [whole]
          exact absurd (ends ▸ marked) (keeps present)
        · exact inductionHypothesis earlier
      · exact begins

theorem trimStart_of_figures {digits : Text}
    (figures : ∀ character ∈ digits, isFigure character = true) : trimStart digits = digits := by
  cases digits with
  | nil => rfl
  | cons first rest =>
      have noBlank := Extraction.isBlank_of_isFigure (figures first List.mem_cons_self)
      exact Extraction.trimStart_of_head noBlank

end Text

/-! ## Zones -/

namespace Extraction

theorem takeDigits_of_figures {digits : Text}
    (figures : ∀ character ∈ digits, Text.isFigure character = true) :
    takeDigits digits = (digits, []) := by
  apply takeDigits_of_trimStart
  · rw [List.append_nil, Text.trimStart_of_figures figures]
  · exact fun character member => Text.isDecimal_of_isFigure (figures character member)
  · rfl

theorem zoneParts_of_figures {digits : Text}
    (figures : ∀ character ∈ digits, Text.isFigure character = true) :
    ZoneParts.ofText digits = ⟨digits, [], []⟩ := by
  rw [ZoneParts.ofText, takeDigits_of_figures figures]
  rfl

/-- A zone has four digits at most. -/
theorem ZoneParts.zone_le (parts : ZoneParts) : parts.zone ≤ 9999 := by
  unfold ZoneParts.zone
  split
  · rename_i few
    cases spelled : Text.decimalsFrom 0 parts.digits with
    | none => exact Nat.zero_le _
    | some number =>
        have bound := Text.lt_of_decimalsFrom spelled
        have power := Nat.pow_le_pow_right (by decide : 0 < 10) few
        rw [Option.getD_some]
        omega
  · exact Nat.zero_le _

/-- The text of a zone: two to four figures. -/
def zoneText (zone : Nat) : Text := Text.zeroFill 2 (Decimal.natText zone)

theorem isFigure_of_mem_zoneText {zone : Nat} {character : Char}
    (member : character ∈ zoneText zone) : Text.isFigure character = true := by
  rcases List.mem_append.mp member with zero | digit
  · rw [List.eq_of_mem_replicate zero]
    decide
  · exact Text.isFigure_of_mem_natText digit

/-- The text of a zone reads as that zone. -/
theorem zone_zoneText {zone : Nat} (small : zone ≤ 9999) :
    (ZoneParts.ofText (zoneText zone)).zone = zone := by
  have few : (zoneText zone).length ≤ 4 := by
    rw [zoneText, Text.length_zeroFill]
    exact Nat.max_le.mpr ⟨by decide, Text.length_natText_le small⟩
  have spelled : Text.decimalsFrom 0 (zoneText zone) = some zone := by
    rw [zoneText, Text.zeroFill, Text.decimalsFrom_zeros, Text.decimalsFrom_natText]
  have digits : (ZoneParts.mk (zoneText zone) [] []).digits = zoneText zone := rfl
  rw [zoneParts_of_figures fun _ => isFigure_of_mem_zoneText, ZoneParts.zone, digits, if_pos few,
    spelled, Option.getD_some]

theorem normalized_ofZoneExchange (typing : Bool) (text : Text) :
    (ofZoneExchange typing text).normalized = zoneText (ZoneParts.ofText text).zone := by
  cases typing <;> rfl

/-! ## States -/

/-- What a state is looked up by: the first three characters, without blanks at their end. -/
def stateStart (text : Text) : Text := Text.dropAllLast ' ' (text.take 3)

theorem stateStart_begins (text : Text) : stateStart text <+: text := by
  have three := List.take_prefix 3 text
  exact (Text.dropAllLast_begins ' ' (text.take 3)).trans three

/-- A state that continues what it was looked up by has at least that much in its own start. -/
theorem stateStart_mono {text code : Text} (continues : stateStart text <+: code) :
    stateStart text <+: stateStart code := by
  apply Text.begins_dropAllLast
  · apply List.prefix_take_iff.mpr
    refine ⟨continues, ?_⟩
    have short := (Text.dropAllLast_begins ' ' (text.take 3)).length_le
    exact Nat.le_trans short (List.length_take_le 3 text)
  · exact Text.dropAllLast_dropAllLast ' ' (text.take 3)

/-- A state that is found leads to itself. -/
theorem stateCode_cases (table : MultiplierTable) (text : Text) :
    stateCode table text = [] ∨ stateCode table text ∈ table.entries ∧
      stateCode table (stateCode table text) = stateCode table text := by
  have looked (text : Text) : stateCode table text = (table.lastLeading? (stateStart text)).getD [] :=
    rfl
  cases found : table.lastLeading? (stateStart text) with
  | none =>
      left
      rw [looked, found, Option.getD_none]
  | some code =>
      right
      have again := MultiplierTable.lastLeading?_of_between found
        (stateStart_mono (MultiplierTable.isPrefix_of_lastLeading? found)) (stateStart_begins code)
      have same : stateCode table text = code := by rw [looked, found, Option.getD_some]
      rw [same, looked, again, Option.getD_some]
      exact ⟨MultiplierTable.mem_of_lastLeading? found, rfl⟩

end Extraction

/-! ## Grid squares -/

namespace Grid

theorem candidate_of_no_capital {text : Text} (short : text.length ≤ 4)
    (noCapital : ∀ character ∈ text, Text.isCapital character = false) : candidate text = text := by
  have skipped : text.dropWhile (fun character => !Text.isCapital character) = [] := by
    apply List.dropWhile_eq_nil_iff.mpr
    intro character member
    rw [noCapital character member]
    rfl
  rw [candidate, skipped]
  exact List.take_of_length_le short

theorem candidate_of_capital {first : Char} {rest : Text} (short : rest.length ≤ 3)
    (capital : Text.isCapital first = true) : candidate (first :: rest) = first :: rest := by
  have kept : (first :: rest).dropWhile (fun character => !Text.isCapital character) =
      first :: rest := by
    rw [List.dropWhile_cons, capital]
    rfl
  rw [candidate, kept]
  exact List.take_of_length_le (Nat.succ_le_succ short)

/-- A locator candidate has four characters at most, and it starts with a capital letter if it has
any. -/
theorem candidate_cases (text : Text) :
    (candidate text).length ≤ 4 ∧
      ((∀ character ∈ candidate text, Text.isCapital character = false) ∨
        ∃ first rest, candidate text = first :: rest ∧ Text.isCapital first = true) := by
  cases found : text.dropWhile fun character => !Text.isCapital character with
  | nil =>
      have whole : candidate text = text.take 4 := by rw [candidate, found]
      rw [whole]
      refine ⟨List.length_take_le 4 text, Or.inl fun character member => ?_⟩
      have skipped := List.dropWhile_eq_nil_iff.mp found character (List.mem_of_mem_take member)
      exact Bool.not_eq_true' _ ▸ skipped
  | cons first rest =>
      have cut : candidate text = first :: rest.take 3 := by
        rw [candidate, found]
        rfl
      have head := List.head?_dropWhile_not (fun character => !Text.isCapital character) text
      rw [found] at head
      rw [cut]
      refine ⟨Nat.succ_le_succ (List.length_take_le 3 rest), Or.inr ⟨first, _, rfl, ?_⟩⟩
      simpa using head

end Grid

/-! ## The normal form read again -/

/-- What the normal form of an exchange of one field can be. -/
inductive FieldForm (table : MultiplierTable) : Strategy → Text → Prop where
  | nothing : FieldForm table .none []
  | noSerial : FieldForm table .serial []
  | serial (number : Nat) (isSerial : 0 < number ∧ number ≤ 9999) :
      FieldForm table .serial (Serial.normalText number)
  | zone (zone : Nat) (small : zone ≤ 9999) : FieldForm table .zone (Extraction.zoneText zone)
  | noSquare (text : Text) (short : text.length ≤ 4)
      (noCapital : ∀ character ∈ text, Text.isCapital character = false) :
      FieldForm table .grid text
  | square (first : Char) (rest : Text) (short : rest.length ≤ 3)
      (capital : Text.isCapital first = true) : FieldForm table .grid (first :: rest)
  | noState : FieldForm table .dxSection []
  | state (code : Text) (listed : code ∈ table.entries)
      (itself : Extraction.stateCode table code = code) : FieldForm table .dxSection code

namespace Extractor

/-- The strategies that read one field. -/
def singleFields : List Strategy := [.none, .serial, .zone, .grid, .dxSection]

section SingleField

variable {extractor : Extractor}

theorem extract_of_serial (kind : extractor.strategy = .serial)
    (builtIn : extractor.templates = .builtIn) (typing : Bool) {text : Text} {number : Nat}
    (found : Serial.serialOf text = .ok number) :
    ∃ reading, extractor.extract typing text = .ok reading ∧
      reading.normalized = Serial.normalText number := by
  have scans : extractor.strategy.scansNumber = true := by rw [kind]; rfl
  refine ⟨extractor.readNumbered typing number text, ?_, ?_⟩
  · rw [extract_of_scansNumber builtIn scans, found]
    rfl
  · rw [readNumbered, kind]

theorem extract_of_dxSection (kind : extractor.strategy = .dxSection) (typing : Bool)
    (text : Text) :
    extractor.extract typing text = .ok (extractor.readSection typing none text) ∧
      (extractor.readSection typing none text).normalized =
        Extraction.stateCode extractor.table text := by
  have code : extractor.sectionCode text = Extraction.stateCode extractor.table text := by
    rw [sectionCode, kind]
  constructor
  · rw [extract, kind]
  · rw [← code]
    cases typing <;> rfl

theorem extract_of_grid (kind : extractor.strategy = .grid) (typing : Bool) (text : Text) :
    extractor.extract typing text = .ok (extractor.readGrid typing text) ∧
      (extractor.readGrid typing text).normalized = Grid.candidate text := by
  constructor
  · rw [extract, kind]
  · cases typing <;> rfl

/-- Whatever is typed, the normal form is one of the forms of the field. -/
theorem fieldForm_of_extract (builtIn : extractor.templates = .builtIn)
    (single : extractor.strategy ∈ singleFields) {typing : Bool} {text : Text}
    {reading : Extraction} (read : extractor.extract typing text = .ok reading) :
    FieldForm extractor.table extractor.strategy reading.normalized := by
  cases kind : extractor.strategy with
  | none =>
      rw [extract, kind] at read
      cases read
      exact .nothing
  | serial =>
      have scans : extractor.strategy.scansNumber = true := by rw [kind]; rfl
      cases found : Serial.serialOf text with
      | error fault =>
          rw [extract_of_scansNumber builtIn scans, found] at read
          cases read
      | ok number =>
          rcases extract_of_serial kind builtIn typing found with ⟨other, reads, normal⟩
          cases reads.symm.trans read
          rw [normal]
          by_cases isSerial : 0 < number ∧ number ≤ 9999
          · exact .serial number isSerial
          · rw [Serial.normalText_of_no_serial isSerial]
            exact .noSerial
  | zone =>
      rw [extract, kind] at read
      cases read
      rw [Extraction.normalized_ofZoneExchange]
      exact .zone _ (Extraction.ZoneParts.zone_le _)
  | grid =>
      rcases extract_of_grid kind typing text with ⟨reads, normal⟩
      cases reads.symm.trans read
      rw [normal]
      rcases Grid.candidate_cases text with ⟨short, noCapital | ⟨first, rest, starts, capital⟩⟩
      · exact .noSquare _ short noCapital
      · rw [starts] at short ⊢
        exact .square first rest (Nat.le_of_succ_le_succ short) capital
  | dxSection =>
      rcases extract_of_dxSection kind typing text with ⟨reads, normal⟩
      cases reads.symm.trans read
      rw [normal]
      rcases Extraction.stateCode_cases extractor.table text with empty | ⟨listed, itself⟩
      · rw [empty]
        exact .noState
      · exact .state _ listed itself
  | serialSection | sectionAlone | sectionOnce | sweepstakes =>
      rw [kind] at single
      exact absurd single (by decide)

/-- Every form of a field reads as itself. -/
theorem extract_of_fieldForm (builtIn : extractor.templates = .builtIn) (typing : Bool)
    {strategy : Strategy} (kind : extractor.strategy = strategy) {text : Text}
    (form : FieldForm extractor.table strategy text) :
    ∃ reading, extractor.extract typing text = .ok reading ∧ reading.normalized = text := by
  cases form with
  | nothing =>
      refine ⟨{}, ?_, rfl⟩
      rw [extract, kind]
  | noSerial =>
      have found : Serial.serialOf [] = .ok 0 := rfl
      exact extract_of_serial kind builtIn typing found
  | serial number isSerial =>
      apply extract_of_serial kind builtIn typing
      have whole := (isSerial_normalText isSerial).serialOf_append .bare
      rw [List.append_nil] at whole
      exact whole
  | zone zone small =>
      refine ⟨Extraction.ofZoneExchange typing (Extraction.zoneText zone), ?_, ?_⟩
      · rw [extract, kind]
      · rw [Extraction.normalized_ofZoneExchange, Extraction.zone_zoneText small]
  | noSquare _ short noCapital =>
      rcases extract_of_grid kind typing text with ⟨reads, normal⟩
      rw [Grid.candidate_of_no_capital short noCapital] at normal
      exact ⟨_, reads, normal⟩
  | square first rest short capital =>
      rcases extract_of_grid kind typing (first :: rest) with ⟨reads, normal⟩
      rw [Grid.candidate_of_capital short capital] at normal
      exact ⟨_, reads, normal⟩
  | noState =>
      rcases extract_of_dxSection kind typing [] with ⟨reads, normal⟩
      exact ⟨_, reads, normal⟩
  | state _ listed itself =>
      rcases extract_of_dxSection kind typing text with ⟨reads, normal⟩
      exact ⟨_, reads, normal.trans itself⟩

end SingleField

/-- With the built-in templates the normal form of an exchange of one field is a form of that field,
and it reads as itself again. -/
theorem single_field_stable {strategy : Strategy} (single : strategy ∈ singleFields)
    (locatorCheck : Bool) (table : MultiplierTable) (typing typingAgain : Bool) {text : Text}
    {reading : Extraction}
    (read : (Extractor.mk strategy locatorCheck table .builtIn).extract typing text =
      .ok reading) :
    FieldForm table strategy reading.normalized ∧
      ∃ again, (Extractor.mk strategy locatorCheck table .builtIn).extract typingAgain
          reading.normalized = .ok again ∧
        again.normalized = reading.normalized := by
  have form : FieldForm table strategy reading.normalized := fieldForm_of_extract rfl single read
  exact ⟨form, extract_of_fieldForm rfl typingAgain rfl form⟩

/-- Two states that share their first characters: what is typed leads to the last of them, and so do
its own first three characters, without the blank that ends them. -/
theorem single_field_stable_of_state :
    .dxSection ∈ singleFields ∧
      ∃ reading again,
        (Extractor.mk .dxSection false ⟨[Text.ofString "N MEX", Text.ofString "N DAK"]⟩
          .builtIn).extract true (Text.ofString "N") = .ok reading ∧
        (Extractor.mk .dxSection false ⟨[Text.ofString "N MEX", Text.ofString "N DAK"]⟩
          .builtIn).extract false reading.normalized = .ok again ∧
        again.normalized = reading.normalized ∧ reading.normalized = Text.ofString "N DAK" := by
  have single : Strategy.dxSection ∈ singleFields := by decide
  refine ⟨single, ?_⟩
  rcases (single_field_stable single false ⟨[Text.ofString "N MEX", Text.ofString "N DAK"]⟩ true
    false rfl).2 with ⟨again, readAgain, same⟩
  exact ⟨_, again, rfl, readAgain, same, rfl⟩

end Extractor
end ContestExchange
