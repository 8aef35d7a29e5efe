import ContestExchange.Proofs.CallScan
import ContestExchange.Proofs.SingleField

namespace ContestExchange

/-!
# Zone exchanges field by field

A zone exchange is written as a zone, a call and a corrected zone.  Any of the three may be missing,
and blanks stand between them only where they would run together: two zones without a call, a call
and the zone behind it, or a zone and a call that starts with a figure.  Such a call also needs a
zone in front, since its first figures would be taken for one.

Read back, the call is the one that was written and the zone is the last one that was written.  This
does not say that every field is found in its own place.  A corrected zone that stands alone is found
at the start, where a zone would be, and counts all the same.
-/

namespace Text

theorem decimalsFrom_of_figures {digits : Text}
    (figures : ∀ character ∈ digits, isFigure character = true) (value : Nat) :
    decimalsFrom value digits = some (Nat.ofDigitChars 10 digits value) := by
  have place {character : Char} (figure : isFigure character = true) :
      decimalValue? character = some (character.toNat - '0'.toNat) :=
    of_isFigure (fun character => decimalValue? character = some (character.toNat - '0'.toNat))
      (by decide) figure
  induction digits generalizing value with
  | nil => rfl
  | cons first rest inductionHypothesis =>
      have later : ∀ character ∈ rest, isFigure character = true := by
        intro character member
        exact figures character (List.mem_cons_of_mem first member)
      simp only [decimalsFrom, place (figures first List.mem_cons_self)]
      exact inductionHypothesis later (10 * value + (first.toNat - '0'.toNat))

end Text

namespace Extraction

/-! ## Marks of a call -/

theorem isCallMark_cases {character : Char} (mark : isCallMark character = true) :
    Text.isCapital character = true ∨ Text.isFigure character = true ∨ character = '/' := by
  simpa only [isCallMark, isLetterOrFigure, Bool.or_eq_true, beq_iff_eq, or_assoc] using mark

theorem isBlank_of_isCallMark {character : Char} (mark : isCallMark character = true) :
    Text.isBlank character = false := by
  rcases isCallMark_cases mark with capital | figure | slash
  · exact isBlank_of_isCapital capital
  · exact isBlank_of_isFigure figure
  · rw [slash]
    decide

/-- The figures are the only digits that a call is made of. -/
theorem isDecimal_of_isCallMark {character : Char} (mark : isCallMark character = true)
    (noFigure : ¬ Text.isFigure character = true) : Text.isDecimal character = false := by
  rcases isCallMark_cases mark with capital | figure | slash
  · exact isDecimal_of_isCapital capital
  · exact absurd figure noFigure
  · rw [slash]
    decide

theorem apart_blanks {count : Nat} {text : Text} (needed : text ≠ [] → 0 < count) :
    Apart (Text.blanks count ++ text) := by
  cases count with
  | succ count => exact .blank (Text.blanks count ++ text)
  | zero =>
      cases text with
      | nil => exact .nothing
      | cons first rest => exact absurd (needed (List.cons_ne_nil first rest)) (Nat.lt_irrefl 0)

/-- A call with a core is taken whole. -/
theorem takeZoneCall_of_call {text call ending : Text} (starts : Text.trimStart text = call ++ ending)
    (marks : ∀ character ∈ call, isCallMark character = true) (core : HasCore call)
    (apart : Apart ending) : takeZoneCall text = (call, ending) := by
  have noBlank : isCallMark ' ' = false := by decide
  rcases exists_callAfter? core marks with ⟨⟨front, back⟩, found⟩
  have whole := append_of_callAfter? found
  have backMarks : ∀ character ∈ back, isCallMark character = true := by
    intro character member
    apply marks
    rw [← whole]
    exact List.mem_append_right front member
  rw [takeZoneCall, starts, apart.callAfter?_append noBlank, found]
  simp only [Option.map_some, List.takeWhile_append_of_pos backMarks,
    List.dropWhile_append_of_pos backMarks, apart.takeWhile noBlank,
    dropWhile_of_takeWhile (apart.takeWhile noBlank), List.append_nil, whole]

/-! ## Exchanges as they are written -/

/-- A zone exchange as it is written, with the number of blanks in front of the call and behind it.
What is missing is empty. -/
structure ZoneExchange where
  zone : Text
  call : Text
  corrected : Text
  before : Nat
  behind : Nat
  zone_length : zone.length ≤ 4
  zone_figures : ∀ character ∈ zone, Text.isFigure character = true
  call_marks : ∀ character ∈ call, isCallMark character = true
  call_core : call ≠ [] → HasCore call
  corrected_length : corrected.length ≤ 4
  corrected_figures : ∀ character ∈ corrected, Text.isFigure character = true
  behind_call : call ≠ [] → corrected ≠ [] → 0 < behind
  between_zones : call = [] → zone ≠ [] → corrected ≠ [] → 0 < before + behind
  before_figure : ∀ first rest, call = first :: rest → Text.isFigure first = true →
    0 < before ∧ zone ≠ []

namespace ZoneExchange

/-- The exchange as one text. -/
def text (exchange : ZoneExchange) : Text :=
  exchange.zone ++ (Text.blanks exchange.before ++ (exchange.call ++
    (Text.blanks exchange.behind ++ exchange.corrected)))

/-- The digits of the zone that counts. -/
def digits (exchange : ZoneExchange) : Text :=
  if exchange.corrected = [] then exchange.zone else exchange.corrected

/-- The zone that counts, zero if none is given. -/
def number (exchange : ZoneExchange) : Nat := Nat.ofDigitChars 10 exchange.digits 0

variable (exchange : ZoneExchange)

theorem digits_length : exchange.digits.length ≤ 4 := by
  unfold digits
  split
  · exact exchange.zone_length
  · exact exchange.corrected_length

theorem digits_figures : ∀ character ∈ exchange.digits, Text.isFigure character = true := by
  unfold digits
  split
  · exact exchange.zone_figures
  · exact exchange.corrected_figures

theorem digits_of_fields (call : Text) :
    (ZoneParts.mk exchange.zone call exchange.corrected).digits = exchange.digits := by
  simp only [ZoneParts.digits, digits, List.isEmpty_iff]

theorem takeDigits_corrected (count : Nat) :
    takeDigits (Text.blanks count ++ exchange.corrected) = (exchange.corrected, []) := by
  apply takeDigits_of_trimStart
  · rw [trimStart_blanks, Text.trimStart_of_figures exchange.corrected_figures, List.append_nil]
  · intro character member
    exact Text.isDecimal_of_isFigure (exchange.corrected_figures character member)
  · rfl

/-- Behind a zone the digits end. -/
theorem takeDigits_zone {ending : Text} (present : exchange.zone ≠ [])
    (stops : ending.takeWhile Text.isDecimal = []) :
    takeDigits (exchange.zone ++ ending) = (exchange.zone, ending) := by
  have figures := exchange.zone_figures
  apply takeDigits_of_trimStart
  · apply trimStart_append present
    intro character member
    exact isBlank_of_isFigure (figures character member)
  · intro character member
    exact Text.isDecimal_of_isFigure (figures character member)
  · exact stops

theorem trimStart_call (present : exchange.call ≠ []) (count : Nat) (ending : Text) :
    Text.trimStart (Text.blanks count ++ (exchange.call ++ ending)) = exchange.call ++ ending := by
  rw [trimStart_blanks]
  apply trimStart_append present
  intro character member
  exact isBlank_of_isCallMark (exchange.call_marks character member)

/-- No digits of the call are taken for the zone in front of it. -/
theorem call_stops (present : exchange.call ≠ []) (ending : Text)
    (close : exchange.before = 0 ∨ exchange.zone = []) :
    (exchange.call ++ ending).takeWhile Text.isDecimal = [] := by
  cases starts : exchange.call with
  | nil => exact absurd starts present
  | cons first rest =>
      have marks := exchange.call_marks
      rw [starts] at marks
      have noFigure : ¬ Text.isFigure first = true := by
        intro figure
        rcases exchange.before_figure first rest starts figure with ⟨apart, zone⟩
        rcases close with none | missing
        · exact absurd none (Nat.ne_of_gt apart)
        · exact zone missing
      have noDigit := isDecimal_of_isCallMark (marks first List.mem_cons_self) noFigure
      rw [List.cons_append, List.takeWhile_cons, noDigit, if_neg Bool.false_ne_true]

/-- With a call every field is found in its place. -/
theorem parts_of_call (present : exchange.call ≠ []) :
    ZoneParts.ofText exchange.text = ⟨exchange.zone, exchange.call, exchange.corrected⟩ := by
  have apart : Apart (Text.blanks exchange.behind ++ exchange.corrected) :=
    apart_blanks (exchange.behind_call present)
  have first : ∃ rest, takeDigits exchange.text = (exchange.zone, rest) ∧
      Text.trimStart rest =
        exchange.call ++ (Text.blanks exchange.behind ++ exchange.corrected) := by
    by_cases missing : exchange.zone = []
    · refine ⟨_, ?_, exchange.trimStart_call present 0 _⟩
      rw [text, missing]
      apply takeDigits_of_trimStart
      · exact exchange.trimStart_call present exchange.before _
      · exact fun character member => absurd member List.not_mem_nil
      · exact exchange.call_stops present _ (Or.inr missing)
    · refine ⟨_, exchange.takeDigits_zone missing ?_, exchange.trimStart_call present _ _⟩
      cases blanks : exchange.before with
      | zero => exact exchange.call_stops present _ (Or.inl blanks)
      | succ count => exact (Apart.blank _).takeWhile (by decide)
  rcases first with ⟨rest, zone, behind⟩
  have call : takeZoneCall rest = (exchange.call, _) :=
    takeZoneCall_of_call behind exchange.call_marks (exchange.call_core present) apart
  simp only [ZoneParts.ofText, zone, call, exchange.takeDigits_corrected]

/-- Without a call the last zone is found, be it behind another one or at the start. -/
theorem digits_of_no_call (missing : exchange.call = []) :
    (ZoneParts.ofText exchange.text).call = [] ∧
      (ZoneParts.ofText exchange.text).digits = exchange.digits := by
  have joined : exchange.text = exchange.zone ++
      (Text.blanks (exchange.before + exchange.behind) ++ exchange.corrected) := by
    rw [text, missing, List.nil_append, ← List.append_assoc, ← List.append_assoc, Text.blanks,
      Text.blanks, List.append_assoc exchange.zone, List.replicate_append_replicate,
      List.append_assoc]
    rfl
  rw [joined]
  by_cases alone : exchange.zone = []
  · have taken : ZoneParts.ofText (exchange.zone ++
        (Text.blanks (exchange.before + exchange.behind) ++ exchange.corrected)) =
        ⟨exchange.corrected, [], []⟩ := by
      rw [alone, List.nil_append]
      simp only [ZoneParts.ofText, exchange.takeDigits_corrected]
      rfl
    rw [taken]
    refine ⟨rfl, ?_⟩
    show exchange.corrected = exchange.digits
    unfold digits
    split
    · rename_i none
      rw [none, alone]
    · rfl
  · have apart : Apart (Text.blanks (exchange.before + exchange.behind) ++ exchange.corrected) :=
      apart_blanks (exchange.between_zones missing alone)
    have noDigit : Text.isDecimal ' ' = false := by decide
    have zone := exchange.takeDigits_zone alone (apart.takeWhile noDigit)
    have noCall : takeZoneCall
        (Text.blanks (exchange.before + exchange.behind) ++ exchange.corrected) =
        ([], Text.blanks (exchange.before + exchange.behind) ++ exchange.corrected) := by
      have noCapital : ∀ character ∈ exchange.corrected, Text.isCapital character = false := by
        intro character member
        have figure := exchange.corrected_figures character member
        exact isCapital_of_isDecimal (Text.isDecimal_of_isFigure figure)
      rw [takeZoneCall, trimStart_blanks, Text.trimStart_of_figures exchange.corrected_figures,
        callAfter?_of_no_capitals isCallMark noCapital]
    have taken : ZoneParts.ofText (exchange.zone ++
        (Text.blanks (exchange.before + exchange.behind) ++ exchange.corrected)) =
        ⟨exchange.zone, [], exchange.corrected⟩ := by
      simp only [ZoneParts.ofText, zone, noCall, exchange.takeDigits_corrected]
    rw [taken]
    exact ⟨rfl, exchange.digits_of_fields []⟩

theorem call_and_digits :
    (ZoneParts.ofText exchange.text).call = exchange.call ∧
      (ZoneParts.ofText exchange.text).digits = exchange.digits := by
  by_cases missing : exchange.call = []
  · rw [missing]
    exact exchange.digits_of_no_call missing
  · rw [exchange.parts_of_call missing]
    exact ⟨rfl, exchange.digits_of_fields exchange.call⟩

theorem zone_eq_number : (ZoneParts.ofText exchange.text).zone = exchange.number := by
  have spelled := Text.decimalsFrom_of_figures exchange.digits_figures 0
  rw [ZoneParts.zone, exchange.call_and_digits.2, if_pos exchange.digits_length, spelled]
  rfl

end ZoneExchange

theorem fields_ofZoneExchange (typing : Bool) (text : Text) :
    (ofZoneExchange typing text).correction = (ZoneParts.ofText text).call ∧
      (ofZoneExchange typing text).normalized = zoneText (ZoneParts.ofText text).zone ∧
      (ofZoneExchange typing text).multiplier = zoneText (ZoneParts.ofText text).zone := by
  simp only [ofZoneExchange, showing_eq, zoneText, and_self]

/-- A zone is written with two figures at least and four at most. -/
theorem length_zoneText {zone : Nat} (small : zone ≤ 9999) :
    2 ≤ (zoneText zone).length ∧ (zoneText zone).length ≤ 4 := by
  have few := Text.length_natText_le small
  rw [zoneText, Text.length_zeroFill]
  omega

end Extraction

namespace Extractor

open Extraction (ZoneExchange zoneText)

/-- A zone exchange reads as it was written: the call as a correction, and the last zone, with two
figures at least, as both the normal form and the multiplier.  Any other text can be read as well,
and still gives two to four figures. -/
theorem zone_fields_read (locatorCheck : Bool) (table : MultiplierTable) (templates : TemplateSet)
    (typing : Bool) :
    (∀ exchange : ZoneExchange, ∃ reading,
      (Extractor.mk .zone locatorCheck table templates).extract typing exchange.text =
        .ok reading ∧
      reading.correction = exchange.call ∧
      reading.normalized = Text.zeroFill 2 (Decimal.natText exchange.number) ∧
      reading.multiplier = Text.zeroFill 2 (Decimal.natText exchange.number)) ∧
    ∀ text, ∃ reading,
      (Extractor.mk .zone locatorCheck table templates).extract typing text = .ok reading ∧
      2 ≤ reading.multiplier.length ∧ reading.multiplier.length ≤ 4 ∧
      ∀ character ∈ reading.multiplier, Text.isFigure character = true := by
  constructor
  · intro exchange
    refine ⟨Extraction.ofZoneExchange typing exchange.text, rfl, ?_⟩
    rcases Extraction.fields_ofZoneExchange typing exchange.text with ⟨call, normal, multiplier⟩
    rw [call, normal, multiplier, exchange.call_and_digits.1, exchange.zone_eq_number]
    exact ⟨rfl, rfl, rfl⟩
  · intro text
    refine ⟨Extraction.ofZoneExchange typing text, rfl, ?_⟩
    have size := Extraction.length_zoneText
      (Extraction.ZoneParts.zone_le (Extraction.ZoneParts.ofText text))
    rw [(Extraction.fields_ofZoneExchange typing text).2.2]
    exact ⟨size.1, size.2, fun _ => Extraction.isFigure_of_mem_zoneText⟩

/-- A call that starts with a figure, between a zone and a corrected one. -/
theorem zone_fields_read_of_corrected_zone :
    ∃ exchange : ZoneExchange, exchange.text = Text.ofString "14 2E0AAA/P 5" ∧
      ∃ reading,
        (Extractor.mk .zone false .empty .builtIn).extract true (Text.ofString "14 2E0AAA/P 5") =
          .ok reading ∧
        reading.correction = Text.ofString "2E0AAA/P" ∧
        reading.multiplier = Text.ofString "05" := by
  have core : Extraction.HasCore (Text.ofString "2E0AAA/P") := by
    refine ⟨['2'], 'E', ['0'], 'A', Text.ofString "AA/P", rfl, rfl, List.cons_ne_nil _ _, ?_, rfl⟩
    exact List.all_eq_true.mp rfl
  let exchange : ZoneExchange :=
    { zone := Text.ofString "14"
      call := Text.ofString "2E0AAA/P"
      corrected := Text.ofString "5"
      before := 1
      behind := 1
      zone_length := by decide
      zone_figures := List.all_eq_true.mp rfl
      call_marks := List.all_eq_true.mp rfl
      call_core := fun _ => core
      corrected_length := by decide
      corrected_figures := List.all_eq_true.mp rfl
      behind_call := fun _ _ => Nat.zero_lt_one
      between_zones := fun _ _ _ => Nat.zero_lt_two
      before_figure := fun _ _ _ _ => ⟨Nat.zero_lt_one, by decide⟩ }
  rcases (zone_fields_read false .empty .builtIn true).1 exchange with
    ⟨reading, read, call, _, multiplier⟩
  have number : exchange.number = 5 := rfl
  rw [number] at multiplier
  exact ⟨exchange, rfl, reading, read, call, multiplier⟩

end Extractor
end ContestExchange
