import ContestExchange.Proofs.CallScan
import ContestExchange.Proofs.ZoneFields

namespace ContestExchange

/-!
# Sweepstakes exchanges field by field

A complete Sweepstakes exchange is written with blanks between its fields: a number, a precedence, a
call if it has to be corrected, a check and a section.  The classes of the fields overlap.  A check
is made of digits as a number is, and a call may start with the letter of a precedence or end where a
section could.  Yet each field is taken as it was written, with a call or without one.

The number and the precedence leave their fields filled, so neither the check nor the section moves
up.  The letters in front of the digits of a call are all passed over up to the last, and the digits
and letters behind it reach to the region or to the blank.  A check has no letter, so it is no call.
-/

namespace Extraction

/-! ## Calls in a Sweepstakes exchange -/

/-- A corrected call as it is written in a Sweepstakes exchange: letters, digits and letters, with
one figure in front at most, and with a slash and a digit behind at most. -/
structure SweepstakesCall where
  lead : Option Char
  letters : Text
  digits : Text
  ending : Text
  region : Option Char
  lead_figure : ∀ figure ∈ lead, Text.isFigure figure = true
  letters_present : letters ≠ []
  letters_capital : ∀ character ∈ letters, Text.isCapital character = true
  digits_present : digits ≠ []
  digits_decimal : ∀ character ∈ digits, Text.isDecimal character = true
  ending_present : ending ≠ []
  ending_capital : ∀ character ∈ ending, Text.isCapital character = true
  region_decimal : ∀ digit ∈ region, Text.isDecimal digit = true

/-- The last of the letters in front of digits starts the core of a call. -/
theorem callAfter?_of_core {letters digits ending rest : Text} (present : letters ≠ [])
    (capitals : ∀ character ∈ letters, Text.isCapital character = true) (someDigits : digits ≠ [])
    (decimal : ∀ character ∈ digits, Text.isDecimal character = true) (someEnding : ending ≠ [])
    (endingCapitals : ∀ character ∈ ending, Text.isCapital character = true)
    (stops : rest.takeWhile Text.isCapital = []) :
    callAfter? isLetterOrFigure (letters ++ (digits ++ (ending ++ rest))) =
      some (letters ++ (digits ++ ending), rest) := by
  induction letters with
  | nil => exact absurd rfl present
  | cons first others inductionHypothesis =>
      have capital := capitals first List.mem_cons_self
      cases others with
      | nil =>
          have core := callCore?_of_core capital someDigits decimal someEnding endingCapitals stops
          rw [List.cons_append, List.nil_append, callAfter?, core]
          rfl
      | cons second more =>
          have later : ∀ character ∈ second :: more, Text.isCapital character = true := by
            intro character member
            exact capitals character (List.mem_cons_of_mem first member)
          have noDigit : (second :: more ++ (digits ++ (ending ++ rest))).takeWhile
              Text.isDecimal = [] := takeWhile_of_capital (later second List.mem_cons_self)
          have passes : isLetterOrFigure first = true := by
            rw [isLetterOrFigure, capital, Bool.true_or]
          rw [List.cons_append, callAfter?, callCore?_of_no_digit noDigit,
            inductionHypothesis (List.cons_ne_nil second more) later]
          simp only [passes, if_true, Option.map_some, List.cons_append]

namespace SweepstakesCall

/-- The call without its region. -/
def core (call : SweepstakesCall) : Text :=
  call.lead.toList ++ (call.letters ++ (call.digits ++ call.ending))

/-- The slash and the digit behind a call. -/
def regionText (call : SweepstakesCall) : Text :=
  match call.region with
  | some digit => ['/', digit]
  | none => []

/-- The call as one text. -/
def text (call : SweepstakesCall) : Text := call.core ++ call.regionText

variable (call : SweepstakesCall)

theorem callAfter?_core {rest : Text} (stops : rest.takeWhile Text.isCapital = []) :
    callAfter? isLetterOrFigure (call.core ++ rest) = some (call.core, rest) := by
  have found := callAfter?_of_core call.letters_present call.letters_capital call.digits_present
    call.digits_decimal call.ending_present call.ending_capital stops
  have figures := call.lead_figure
  unfold core
  cases leads : call.lead with
  | none =>
      simp only [Option.toList_none, List.nil_append, List.append_assoc]
      exact found
  | some figure =>
      have digit := figures figure leads
      have noCapital := isCapital_of_isDecimal (Text.isDecimal_of_isFigure digit)
      have passes : isLetterOrFigure figure = true := by
        rw [isLetterOrFigure, digit, Bool.or_true]
      simp only [Option.toList_some, List.cons_append, List.nil_append, List.append_assoc]
      rw [callAfter?, callCore?_of_no_capital noCapital, found]
      simp only [passes, if_true, Option.map_some]

theorem takeRegion_append {ending : Text} (apart : Apart ending) :
    takeRegion (call.regionText ++ ending) = (call.regionText, ending) := by
  have decimal := call.region_decimal
  unfold regionText
  cases region : call.region with
  | none =>
      cases apart with
      | nothing => rfl
      | blank rest => rfl
  | some digit =>
      simp only [List.cons_append, List.nil_append, takeRegion, decimal digit region, if_true]

theorem regionText_stops {ending : Text} (apart : Apart ending) :
    (call.regionText ++ ending).takeWhile Text.isCapital = [] := by
  rw [apart.takeWhile_append (by decide)]
  unfold regionText
  cases call.region with
  | none => rfl
  | some digit => rfl

theorem trimStart_text (ending : Text) :
    Text.trimStart (call.text ++ ending) = call.text ++ ending := by
  have figures := call.lead_figure
  unfold text core
  cases leads : call.lead with
  | some figure => exact trimStart_of_head (isBlank_of_isFigure (figures figure leads))
  | none =>
      simp only [Option.toList_none, List.nil_append, List.append_assoc]
      apply trimStart_append call.letters_present
      intro character member
      exact isBlank_of_isCapital (call.letters_capital character member)

/-- A call is taken with its region. -/
theorem takeSweepstakesCall_append {text ending : Text}
    (starts : Text.trimStart text = call.text ++ ending) (apart : Apart ending) :
    takeSweepstakesCall text = (call.text, ending) := by
  have found := call.callAfter?_core (call.regionText_stops apart)
  rw [takeSweepstakesCall, starts, SweepstakesCall.text, List.append_assoc, found]
  simp only [call.takeRegion_append apart]

end SweepstakesCall

/-! ## Exchanges as they are written -/

/-- A Sweepstakes exchange as it is written, with the number of blanks behind each field. -/
structure SweepstakesExchange where
  number : Text
  precedence : Char
  call : Option SweepstakesCall
  check : Text
  code : Text
  behindNumber : Nat
  behindPrecedence : Nat
  behindCall : Nat
  behindCheck : Nat
  number_present : number ≠ []
  number_length : number.length ≤ 4
  number_figures : ∀ character ∈ number, Text.isFigure character = true
  precedence_known : precedenceLetters.contains precedence = true
  check_length : check.length = 2
  check_decimal : ∀ character ∈ check, Text.isDecimal character = true
  code_length : code.length = 2 ∨ code.length = 3
  code_capital : ∀ character ∈ code, Text.isCapital character = true
  number_apart : 0 < behindNumber
  precedence_apart : 0 < behindPrecedence
  call_apart : 0 < behindCall
  check_apart : 0 < behindCheck

namespace SweepstakesExchange

/-- The check and the section. -/
def rear (exchange : SweepstakesExchange) : Text :=
  exchange.check ++ (Text.blanks exchange.behindCheck ++ exchange.code)

/-- What stands behind the precedence. -/
def behind (exchange : SweepstakesExchange) : Text :=
  match exchange.call with
  | some call => call.text ++ (Text.blanks exchange.behindCall ++ exchange.rear)
  | none => exchange.rear

/-- The exchange as one text. -/
def text (exchange : SweepstakesExchange) : Text :=
  exchange.number ++ (Text.blanks exchange.behindNumber ++ exchange.precedence ::
    (Text.blanks exchange.behindPrecedence ++ exchange.behind))

/-- The number that the first field gives. -/
def value (exchange : SweepstakesExchange) : Nat := Nat.ofDigitChars 10 exchange.number 0

/-- The number in its column, which is blank for a zero. -/
def serial (exchange : SweepstakesExchange) : Text :=
  if exchange.value = 0 then Text.blanks 4
  else Text.alignRight 4 (Decimal.natText exchange.value)

/-- The section, if a table has it. -/
def sectionIn (exchange : SweepstakesExchange) (table : MultiplierTable) : Text :=
  if exchange.code ∈ table.entries then exchange.code else []

/-- The call as it was written, empty if there is none. -/
def callText (exchange : SweepstakesExchange) : Text :=
  (exchange.call.map SweepstakesCall.text).getD []

/-- The call, if its first letter makes it a correction. -/
def correction (exchange : SweepstakesExchange) : Text :=
  if exchange.callText.head?.any correctionLetters.contains then exchange.callText else []

variable (exchange : SweepstakesExchange)

theorem code_stands_apart : Apart (Text.blanks exchange.behindCheck ++ exchange.code) :=
  apart_blanks fun _ => exchange.check_apart

theorem trimStart_rear (count : Nat) :
    Text.trimStart (Text.blanks count ++ exchange.rear) = exchange.rear := by
  have present : exchange.check ≠ [] := by
    apply List.ne_nil_of_length_pos
    rw [exchange.check_length]
    exact Nat.zero_lt_two
  rw [trimStart_blanks, rear]
  apply trimStart_append present
  intro character member
  have digit : Text.isDigit character = true := by
    rw [Text.isDigit, exchange.check_decimal character member, Bool.true_or]
  exact isBlank_of_isDigit digit

theorem takeDigits_rear (count : Nat) :
    takeDigits (Text.blanks count ++ exchange.rear) =
      (exchange.check, Text.blanks exchange.behindCheck ++ exchange.code) := by
  apply takeDigits_of_trimStart
  · exact exchange.trimStart_rear count
  · exact exchange.check_decimal
  · exact exchange.code_stands_apart.takeWhile (by decide)

theorem code_present : exchange.code ≠ [] := by
  have size := exchange.code_length
  apply List.ne_nil_of_length_pos
  omega

theorem takeSectionLetters_code :
    takeSectionLetters (Text.blanks exchange.behindCheck ++ exchange.code) = exchange.code := by
  have size := exchange.code_length
  have starts := trimStart_append exchange.code_present
    (fun character member => isBlank_of_isCapital (exchange.code_capital character member)) []
  rw [List.append_nil] at starts
  apply takeSectionLetters_of_letters
  · rw [trimStart_blanks]
    exact starts
  · exact exchange.code_capital
  · omega
  · omega

/-- A check is no call. -/
theorem takeSweepstakesCall_rear (count : Nat) :
    takeSweepstakesCall (Text.blanks count ++ exchange.rear) =
      ([], Text.blanks count ++ exchange.rear) := by
  have noCapital : ∀ character ∈ exchange.check, Text.isCapital character = false := by
    intro character member
    exact isCapital_of_isDecimal (exchange.check_decimal character member)
  apply takeSweepstakesCall_of_none
  rw [exchange.trimStart_rear, rear, exchange.code_stands_apart.callAfter?_append (by decide),
    callAfter?_of_no_capitals isLetterOrFigure noCapital]
  rfl

/-- Behind the precedence the call, the check and the section are taken as they were written. -/
theorem parts_behind (count : Nat) (number : Text) (precedence : Option Char) :
    SweepstakesParts.behind number precedence (Text.blanks count ++ exchange.behind) =
      ⟨number, precedence, exchange.callText, exchange.check, exchange.code⟩ := by
  have code := exchange.takeSectionLetters_code
  unfold behind callText
  cases called : exchange.call with
  | none =>
      have check := exchange.takeDigits_rear count
      simp only [SweepstakesParts.behind, exchange.takeSweepstakesCall_rear, check, code]
      rfl
  | some call =>
      have check := exchange.takeDigits_rear exchange.behindCall
      have apart : Apart (Text.blanks exchange.behindCall ++ exchange.rear) :=
        apart_blanks fun _ => exchange.call_apart
      have starts : Text.trimStart (Text.blanks count ++
          (call.text ++ (Text.blanks exchange.behindCall ++ exchange.rear))) =
          call.text ++ (Text.blanks exchange.behindCall ++ exchange.rear) := by
        rw [trimStart_blanks]
        exact call.trimStart_text _
      simp only [SweepstakesParts.behind, call.takeSweepstakesCall_append starts apart, check, code]
      rfl

/-- Every field of an exchange is taken as it was written. -/
theorem parts_text :
    SweepstakesParts.ofText exchange.text =
      ⟨exchange.number, some exchange.precedence, exchange.callText, exchange.check,
        exchange.code⟩ := by
  have figures := exchange.number_figures
  have capital := isCapital_of_precedence exchange.precedence_known
  have number : takeDigits exchange.text = (exchange.number,
      Text.blanks exchange.behindNumber ++ exchange.precedence ::
        (Text.blanks exchange.behindPrecedence ++ exchange.behind)) := by
    apply takeDigits_of_trimStart
    · apply trimStart_append exchange.number_present
      intro character member
      exact isBlank_of_isFigure (figures character member)
    · intro character member
      exact Text.isDecimal_of_isFigure (figures character member)
    · exact (apart_blanks fun _ => exchange.number_apart).takeWhile (by decide)
  have shown : Text.trimStart (Text.blanks exchange.behindNumber ++ exchange.precedence ::
      (Text.blanks exchange.behindPrecedence ++ exchange.behind)) =
      exchange.precedence :: (Text.blanks exchange.behindPrecedence ++ exchange.behind) := by
    rw [trimStart_blanks]
    exact trimStart_of_head (isBlank_of_isCapital capital)
  have precedence := takePrecedence_of_letter shown exchange.precedence_known
  rw [SweepstakesParts.ofText_eq, number]
  simp only [precedence]
  exact exchange.parts_behind exchange.behindPrecedence exchange.number (some exchange.precedence)

/-! ## The columns of what was written -/

theorem value_le : exchange.value ≤ 9999 := by
  have spelled := Text.decimalsFrom_of_figures exchange.number_figures 0
  have bound := Text.lt_of_decimalsFrom spelled
  have power := Nat.pow_le_pow_right (by decide : 0 < 10) exchange.number_length
  unfold value
  omega

theorem serialColumn_parts :
    (SweepstakesParts.ofText exchange.text).serialColumn = exchange.serial := by
  have spelled := Text.decimalsFrom_of_figures exchange.number_figures 0
  have column : Serial.columnText exchange.value = exchange.serial := by
    unfold serial
    split
    · rename_i zero
      rw [zero]
      rfl
    · rename_i positive
      exact Serial.columnText_of_serial ⟨Nat.pos_of_ne_zero positive, exchange.value_le⟩
  rw [exchange.parts_text, SweepstakesParts.serialColumn]
  simp only [exchange.number_length, if_true, spelled, Option.getD_some]
  exact column

theorem section?_parts (table : MultiplierTable) :
    (SweepstakesParts.ofText exchange.text).section? table = exchange.sectionIn table := by
  have present : exchange.code.isEmpty = false :=
    List.isEmpty_eq_false_iff.mpr exchange.code_present
  rw [exchange.parts_text, SweepstakesParts.section?]
  simp only [present, Bool.false_eq_true, if_false, table.find?_eq, sectionIn]
  split
  · rfl
  · rfl

theorem correction_parts :
    (SweepstakesParts.ofText exchange.text).correction = exchange.correction := by
  rw [exchange.parts_text, SweepstakesParts.correction, correction]
  cases exchange.callText with
  | nil => rfl
  | cons first rest => rfl

end SweepstakesExchange

theorem fields_ofSweepstakes (table : MultiplierTable) (typing : Bool) (text : Text) :
    (ofSweepstakes table typing text).serial = (SweepstakesParts.ofText text).serialColumn ∧
      (ofSweepstakes table typing text).place = (SweepstakesParts.ofText text).section? table ∧
      (ofSweepstakes table typing text).multiplier =
        (SweepstakesParts.ofText text).section? table ∧
      (ofSweepstakes table typing text).correction = (SweepstakesParts.ofText text).correction := by
  simp only [ofSweepstakes, showing_eq, and_self]

end Extraction

namespace Extractor

open Extraction (SweepstakesExchange)

/-- A complete Sweepstakes exchange reads as it was written.  Whatever else is read has a serial of
four columns, a precedence of one, a check of two and then the section, with a blank between each
two. -/
theorem sweepstakes_fields_read (locatorCheck : Bool) (table : MultiplierTable)
    (templates : TemplateSet) (typing : Bool) :
    (∀ exchange : SweepstakesExchange, ∃ reading,
      (Extractor.mk .sweepstakes locatorCheck table templates).extract typing exchange.text =
        .ok reading ∧
      reading.normalized = exchange.serial ++ ' ' :: exchange.precedence :: ' ' ::
        (exchange.check ++ ' ' :: exchange.sectionIn table) ∧
      reading.serial = exchange.serial ∧
      reading.place = exchange.sectionIn table ∧
      reading.multiplier = exchange.sectionIn table ∧
      reading.correction = exchange.correction) ∧
    ∀ text, ∃ reading precedence check,
      (Extractor.mk .sweepstakes locatorCheck table templates).extract typing text = .ok reading ∧
      reading.normalized = reading.serial ++ ' ' :: precedence :: ' ' ::
        (check ++ ' ' :: reading.place) ∧
      reading.serial.length = 4 ∧
      (precedence = ' ' ∨ Extraction.precedenceLetters.contains precedence = true) ∧
      check.length = 2 := by
  constructor
  · intro exchange
    rcases Extraction.fields_ofSweepstakes table typing exchange.text with
      ⟨serial, place, multiplier, correction⟩
    rw [exchange.serialColumn_parts] at serial
    rw [exchange.section?_parts] at place multiplier
    rw [exchange.correction_parts] at correction
    refine ⟨_, rfl, ?_, serial, place, multiplier, correction⟩
    have check : (Extraction.SweepstakesParts.ofText exchange.text).checkColumns =
        exchange.check := by
      rw [exchange.parts_text, Extraction.SweepstakesParts.checkColumns, if_pos exchange.check_length]
    rw [Extraction.normalized_ofSweepstakes, Extraction.SweepstakesParts.form,
      exchange.serialColumn_parts, exchange.section?_parts, check, exchange.parts_text]
    rfl
  · intro text
    rcases Extraction.fields_ofSweepstakes table typing text with ⟨serial, place, _, _⟩
    rcases Extraction.serialColumn_ofText text with ⟨_, column⟩
    rcases Extraction.checkColumns_ofText text with ⟨_, columns⟩
    refine ⟨_, (Extraction.SweepstakesParts.ofText text).precedence.getD ' ',
      (Extraction.SweepstakesParts.ofText text).checkColumns, rfl, ?_, ?_, ?_, columns.length⟩
    · rw [Extraction.normalized_ofSweepstakes, serial, place]
      rfl
    · rw [serial]
      exact column.length
    · cases taken : (Extraction.SweepstakesParts.ofText text).precedence with
      | none => exact Or.inl rfl
      | some letter => exact Or.inr (Extraction.precedence_ofText taken)

/-- A call that starts with the letter of a precedence and ends in the name of a section, with a
figure for its region, and a section that the table has. -/
theorem sweepstakes_fields_read_of_corrected_call :
    ∃ exchange : SweepstakesExchange,
      exchange.text = Text.ofString "27 B  AB1CT/7 05 STX" ∧
      ∃ reading,
        (Extractor.mk .sweepstakes false ⟨[Text.ofString "CT", Text.ofString "STX"]⟩
          .builtIn).extract true (Text.ofString "27 B  AB1CT/7 05 STX") = .ok reading ∧
        reading.normalized = Text.ofString "  27 B 05 STX" ∧
        reading.correction = Text.ofString "AB1CT/7" := by
  let call : Extraction.SweepstakesCall :=
    { lead := none
      letters := Text.ofString "AB"
      digits := Text.ofString "1"
      ending := Text.ofString "CT"
      region := some '7'
      lead_figure := fun _ member => by cases member
      letters_present := List.cons_ne_nil _ _
      letters_capital := List.all_eq_true.mp rfl
      digits_present := List.cons_ne_nil _ _
      digits_decimal := List.all_eq_true.mp rfl
      ending_present := List.cons_ne_nil _ _
      ending_capital := List.all_eq_true.mp rfl
      region_decimal := fun _ member => by cases member; decide }
  let exchange : SweepstakesExchange :=
    { number := Text.ofString "27"
      precedence := 'B'
      call := some call
      check := Text.ofString "05"
      code := Text.ofString "STX"
      behindNumber := 1
      behindPrecedence := 2
      behindCall := 1
      behindCheck := 1
      number_present := List.cons_ne_nil _ _
      number_length := by decide
      number_figures := List.all_eq_true.mp rfl
      precedence_known := by decide
      check_length := rfl
      check_decimal := List.all_eq_true.mp rfl
      code_length := Or.inr rfl
      code_capital := List.all_eq_true.mp rfl
      number_apart := by decide
      precedence_apart := by decide
      call_apart := by decide
      check_apart := by decide }
  rcases (sweepstakes_fields_read false ⟨[Text.ofString "CT", Text.ofString "STX"]⟩ .builtIn
    true).1 exchange with ⟨reading, read, normal, _, _, _, correction⟩
  have serial : exchange.serial = Text.ofString "  27" := by
    have value : exchange.value = 27 := rfl
    rw [SweepstakesExchange.serial, value]
    decide
  have code : exchange.sectionIn ⟨[Text.ofString "CT", Text.ofString "STX"]⟩ =
      Text.ofString "STX" := if_pos (List.mem_cons_of_mem _ List.mem_cons_self)
  rw [serial, code] at normal
  exact ⟨exchange, rfl, reading, read, normal, correction⟩

end Extractor
end ContestExchange
