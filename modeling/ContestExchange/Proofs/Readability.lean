import ContestExchange.Extraction.Extractor

namespace ContestExchange

/-!
# Which texts can be read

An exchange that says little is no fault: what cannot be made out stays empty.  There is one
exception.  A number is scanned as a run of digits of the wider class, and then all of the run has
to have a value.  A superscript or an encircled figure has none, and a run may also be too long.

A text is scanned at its start and where the templates for serials lie, so it is readable if the run
at each of these places spells a number.  `Extractor.Reads` is the condition for a whole reading: a
strategy that scans no number reads every text.
-/

namespace Text

/-! ## Characters by their codes -/

/-- Whether a character is one of those that a key can type. -/
def isTypable (character : Char) : Bool := ' ' ≤ character && character ≤ 'Z'

/-- What holds of every code up to a limit holds of every character up to it. -/
theorem of_codes (Holds : Char → Prop) {character limit : Char} (below : character ≤ limit)
    (codes : ∀ code < limit.toNat + 1, Holds (Char.ofNat code)) : Holds character := by
  have holds := codes character.toNat (Nat.lt_succ_of_le below)
  rw [Char.ofNat_toNat] at holds
  exact holds

theorem of_isFigure (Holds : Char → Prop)
    (codes : ∀ code < '9'.toNat + 1, isFigure (Char.ofNat code) = true → Holds (Char.ofNat code))
    {character : Char} (figure : isFigure character = true) : Holds character := by
  have bounds := figure
  simp only [isFigure, Bool.and_eq_true, decide_eq_true_eq] at bounds
  exact of_codes (fun character => isFigure character = true → Holds character) bounds.2 codes
    figure

theorem of_isCapital (Holds : Char → Prop)
    (codes : ∀ code < 'Z'.toNat + 1, isCapital (Char.ofNat code) = true → Holds (Char.ofNat code))
    {character : Char} (capital : isCapital character = true) : Holds character := by
  have bounds := capital
  simp only [isCapital, Bool.and_eq_true, decide_eq_true_eq] at bounds
  exact of_codes (fun character => isCapital character = true → Holds character) bounds.2 codes
    capital

theorem isDigit_of_isCapital {character : Char} (capital : isCapital character = true) :
    isDigit character = false :=
  of_isCapital (fun character => isDigit character = false) (by decide) capital

/-- The digits that can be typed all have a value. -/
theorem isDecimal_of_isTypable {character : Char} (typable : isTypable character = true)
    (digit : isDigit character = true) : isDecimal character = true := by
  simp only [isTypable, Bool.and_eq_true, decide_eq_true_eq] at typable
  exact of_codes (fun character => isDigit character = true → isDecimal character = true) typable.2
    (by decide) digit

/-! ## Digits with a value -/

theorem exists_decimalsFrom {digits : Text}
    (decimal : ∀ character ∈ digits, isDecimal character = true) (value : Nat) :
    ∃ number, decimalsFrom value digits = some number := by
  induction digits generalizing value with
  | nil => exact ⟨value, rfl⟩
  | cons first rest inductionHypothesis =>
      have valued : isDecimal first = true := decimal first List.mem_cons_self
      rcases Option.isSome_iff_exists.mp valued with ⟨digit, found⟩
      have later : ∀ character ∈ rest, isDecimal character = true := by
        intro character member
        exact decimal character (List.mem_cons_of_mem first member)
      simp only [decimalsFrom, found]
      exact inductionHypothesis later (10 * value + digit)

theorem isDecimal_of_decimalsFrom {digits : Text} {value number : Nat}
    (spelled : decimalsFrom value digits = some number) :
    ∀ character ∈ digits, isDecimal character = true := by
  induction digits generalizing value with
  | nil =>
      intro character member
      cases member
  | cons first rest inductionHypothesis =>
      cases found : decimalValue? first with
      | none =>
          simp only [decimalsFrom, found] at spelled
          cases spelled
      | some digit =>
          simp only [decimalsFrom, found] at spelled
          intro character member
          rcases List.mem_cons.mp member with same | later
          · rw [same, isDecimal, found]
            rfl
          · exact inductionHypothesis spelled character later

end Text

namespace Serial

/-! ## The number that starts a text -/

/-- Whether the digits that start a text spell a number: each of them has a value, and there are not
too many of them. -/
def StartsReadably (text : Text) : Prop :=
  (leadingDigits text).length ≤ Literal.integerDigitLimit ∧
    ∀ character ∈ leadingDigits text, Text.isDecimal character = true

theorem exists_leadingNumber {text : Text} (readable : StartsReadably text) :
    ∃ number, leadingNumber text = .ok number := by
  rcases readable with ⟨short, decimal⟩
  rcases Text.exists_decimalsFrom decimal 0 with ⟨number, spelled⟩
  refine ⟨number, ?_⟩
  simp only [leadingNumber, if_neg (Nat.not_lt_of_le short), spelled]

theorem leadingNumber_of_unreadable {text : Text} (unreadable : ¬ StartsReadably text) :
    leadingNumber text = .error .unreadableNumber := by
  by_cases long : Literal.integerDigitLimit < (leadingDigits text).length
  · simp only [leadingNumber, if_pos long]
  · cases spelled : Text.decimalsFrom 0 (leadingDigits text) with
    | none => simp only [leadingNumber, if_neg long, spelled]
    | some number =>
        exact absurd ⟨Nat.le_of_not_lt long, Text.isDecimal_of_decimalsFrom spelled⟩ unreadable

theorem length_leadingDigits_le (text : Text) : (leadingDigits text).length ≤ text.length :=
  ((List.takeWhile_sublist _).trans (List.dropWhile_sublist _)).length_le

theorem mem_of_mem_leadingDigits {text : Text} {character : Char}
    (member : character ∈ leadingDigits text) :
    character ∈ text ∧ Text.isDigit character = true := by
  have taken : character ∈ text.dropWhile (· == ' ') := List.takeWhile_sublist _ |>.mem member
  exact ⟨(List.dropWhile_sublist _).mem taken,
    List.all_eq_true.mp List.all_takeWhile character member⟩

end Serial

namespace Extraction

/-! ## The serial number of a text -/

/-- The places of a text where a number is scanned: its start, and where templates lie. -/
def numberPlaces (templates : List Template) (text : Text) : List Nat :=
  0 :: templates.filterMap fun template =>
    (locate (classify text) template).map fun offset => numberPlace offset template

/-- Whether each number that is scanned in a text can be read. -/
def Readable (templates : List Template) (text : Text) : Prop :=
  ∀ place ∈ numberPlaces templates text, Serial.StartsReadably (text.drop place)

theorem exists_serialFrom {text : Text} {line : List Symbol} {templates : List Template}
    (readable : ∀ template ∈ templates, ∀ offset, locate line template = some offset →
      Serial.StartsReadably (text.drop (numberPlace offset template))) (serial : Nat) :
    ∃ number, serialFrom text line serial templates = .ok number := by
  induction templates generalizing serial with
  | nil => exact ⟨serial, rfl⟩
  | cons template rest inductionHypothesis =>
      have later := inductionHypothesis fun other member =>
        readable other (List.mem_cons_of_mem template member)
      cases found : locate line template with
      | none =>
          simp only [serialFrom, serialUnder, found]
          exact later serial
      | some offset =>
          have here := readable template List.mem_cons_self offset found
          rcases Serial.exists_leadingNumber here with ⟨number, read⟩
          simp only [serialFrom, serialUnder, found, read]
          exact later _

theorem serialFrom_of_unreadable {text : Text} {line : List Symbol} {templates : List Template}
    {template : Template} (member : template ∈ templates) {offset : Nat}
    (found : locate line template = some offset)
    (unreadable : ¬ Serial.StartsReadably (text.drop (numberPlace offset template)))
    (serial : Nat) :
    serialFrom text line serial templates = .error .unreadableNumber := by
  induction templates generalizing serial with
  | nil => cases member
  | cons first rest inductionHypothesis =>
      rcases List.mem_cons.mp member with same | later
      · subst same
        simp only [serialFrom, serialUnder, found, Serial.leadingNumber_of_unreadable unreadable]
      · -- An earlier template may fail as well, and then with the same fault.
        have onward := inductionHypothesis later
        cases located : locate line first with
        | none =>
            simp only [serialFrom, serialUnder, located]
            exact onward serial
        | some place =>
            by_cases readable : Serial.StartsReadably (text.drop (numberPlace place first))
            · rcases Serial.exists_leadingNumber readable with ⟨number, read⟩
              simp only [serialFrom, serialUnder, located, read]
              exact onward _
            · simp only [serialFrom, serialUnder, located,
                Serial.leadingNumber_of_unreadable readable]

theorem exists_findSerial {templates : List Template} {text : Text}
    (readable : Readable templates text) :
    ∃ number, findSerial templates text (classify text) = .ok number := by
  rcases Serial.exists_leadingNumber (readable 0 List.mem_cons_self) with ⟨lead, read⟩
  rw [List.drop_zero] at read
  simp only [findSerial, read]
  refine exists_serialFrom (fun template member offset found => ?_) lead
  refine readable _ (List.mem_cons_of_mem 0 (List.mem_filterMap.mpr ⟨template, member, ?_⟩))
  rw [found]
  rfl

theorem findSerial_of_unreadable {templates : List Template} {text : Text}
    (unreadable : ¬ Readable templates text) :
    findSerial templates text (classify text) = .error .unreadableNumber := by
  have somewhere : ∃ place ∈ numberPlaces templates text,
      ¬ Serial.StartsReadably (text.drop place) := by
    simpa [Readable] using unreadable
  rcases somewhere with ⟨place, listed, unreadableHere⟩
  cases read : Serial.leadingNumber text with
  | error fault =>
      have start : ¬ Serial.StartsReadably text := by
        intro readable
        rcases Serial.exists_leadingNumber readable with ⟨number, spelled⟩
        cases read.symm.trans spelled
      rw [findSerial, Serial.leadingNumber_of_unreadable start]
  | ok lead =>
      rcases List.mem_cons.mp listed with start | later
      · rw [start, List.drop_zero] at unreadableHere
        cases read.symm.trans (Serial.leadingNumber_of_unreadable unreadableHere)
      · rcases List.mem_filterMap.mp later with ⟨template, member, placed⟩
        rcases Option.map_eq_some_iff.mp placed with ⟨offset, found, same⟩
        rw [← same] at unreadableHere
        simp only [findSerial, read]
        exact serialFrom_of_unreadable member found unreadableHere lead

/-- A text of moderate length whose digits all have a value is readable, whatever the templates. -/
theorem readable_of_decimal (templates : List Template) {text : Text}
    (short : text.length ≤ Literal.integerDigitLimit)
    (decimal : ∀ character ∈ text, Text.isDigit character = true →
      Text.isDecimal character = true) : Readable templates text := by
  intro place _
  have within : (Serial.leadingDigits (text.drop place)).length ≤ text.length := by
    have bound := Serial.length_leadingDigits_le (text.drop place)
    rw [List.length_drop] at bound
    omega
  refine ⟨Nat.le_trans within short, fun character member => ?_⟩
  rcases Serial.mem_of_mem_leadingDigits member with ⟨behind, digit⟩
  exact decimal character (List.mem_of_mem_drop behind) digit

end Extraction

/-! ## Whole readings -/

/-- Whether a contest's exchange is scanned for a number. -/
def Strategy.scansNumber : Strategy → Bool
  | .serial | .serialSection => true
  | _ => false

namespace Extractor

/-- Whether an extractor can read a text. -/
def Reads (extractor : Extractor) (text : Text) : Prop :=
  extractor.strategy.scansNumber = true → Extraction.Readable extractor.templates.serials text

theorem exists_extract {extractor : Extractor} {text : Text} (reads : extractor.Reads text)
    (typing : Bool) : ∃ reading, extractor.extract typing text = .ok reading := by
  unfold Reads at reads
  unfold extract
  cases kind : extractor.strategy with
  | serial =>
      rw [kind] at reads
      rcases Extraction.exists_findSerial (reads rfl) with ⟨number, found⟩
      simp only [readSerial, found]
      exact ⟨_, rfl⟩
  | serialSection =>
      rw [kind] at reads
      rcases Extraction.exists_findSerial (reads rfl) with ⟨number, found⟩
      simp only [readSerialSection, found]
      exact ⟨_, rfl⟩
  | none | sectionAlone | sectionOnce | dxSection | zone | grid | sweepstakes => exact ⟨_, rfl⟩

/-- Reading fails exactly where a number that it scans cannot be read, and with that fault. -/
theorem extract_eq_error_iff (extractor : Extractor) (typing : Bool) (text : Text) (fault : Fault) :
    extractor.extract typing text = .error fault ↔
      fault = .unreadableNumber ∧ ¬ extractor.Reads text := by
  constructor
  · intro failed
    have unreadable : ¬ extractor.Reads text := by
      intro reads
      rcases exists_extract reads typing with ⟨reading, read⟩
      cases failed.symm.trans read
    refine ⟨?_, unreadable⟩
    rw [Reads, Classical.not_imp] at unreadable
    rcases unreadable with ⟨scans, unreadable⟩
    have fails := Extraction.findSerial_of_unreadable unreadable
    unfold extract at failed
    cases kind : extractor.strategy <;> rw [kind] at scans failed <;> cases scans
    · simp only [readSerial, fails] at failed
      exact (Except.error.inj failed).symm
    · simp only [readSerialSection, fails] at failed
      exact (Except.error.inj failed).symm
  · rintro ⟨same, unreadable⟩
    rw [Reads, Classical.not_imp] at unreadable
    rcases unreadable with ⟨scans, unreadable⟩
    have fails := Extraction.findSerial_of_unreadable unreadable
    unfold extract
    cases kind : extractor.strategy <;> rw [kind] at scans <;> cases scans
    · simp only [readSerial, fails, same]
    · simp only [readSerialSection, fails, same]

theorem extract_eq_error_iff_of_typing {extractor : Extractor} {text : Text} {fault : Fault}
    (typing : Bool) :
    extractor.extract typing text = .error fault ↔
      extractor.extract false text = .error fault := by
  rw [extract_eq_error_iff, extract_eq_error_iff]

theorem reads_nil (extractor : Extractor) : extractor.Reads [] := by
  intro _
  apply Extraction.readable_of_decimal
  · exact Nat.zero_le _
  · intro character member
    cases member

end Extractor
end ContestExchange
