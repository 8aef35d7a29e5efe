import ContestExchange.Proofs.SerialPadding
import ContestExchange.Proofs.TableLookup
import ContestExchange.Proofs.TemplateOrder

namespace ContestExchange

/-!
# The normal form of a serial and a section

The normal form of an exchange is itself a text, and it may be typed.  With a serial it reads as
what it was made from: the figures at its start are the last serial template on it, and the letters
at its end, behind a blank, are the only section.  The section is found again because an entry that
is looked up first leads to itself.

A section without a serial is another matter.  Its normal form is the bare code, and no template for
sections lies at the start of a line: they all ask for a figure or a blank before the section.  So
the bare code reads as nothing.
-/

/-! ## Serials and codes in normal form -/

/-- Whether a text is a code for a section: two to four letters. -/
structure IsSectionCode (code : Text) : Prop where
  length : code.length = 2 ∨ code.length = 3 ∨ code.length = 4
  letters : ∀ character ∈ code, Text.isCapital character = true

/-- Whether a text is the normal form of a serial number: three or four figures that spell it. -/
structure IsSerial (digits : Text) (number : Nat) : Prop where
  length : digits.length = 3 ∨ digits.length = 4
  figures : ∀ character ∈ digits, Text.isFigure character = true
  spelled : Text.decimalsFrom 0 digits = some number
  positive : number ≠ 0

theorem IsSectionCode.ne_nil {code : Text} (isCode : IsSectionCode code) : code ≠ [] := by
  intro empty
  have length := isCode.length
  rw [empty] at length
  exact absurd length (by decide)

theorem IsSerial.ne_nil {digits : Text} {number : Nat} (serial : IsSerial digits number) :
    digits ≠ [] := by
  intro empty
  have length := serial.length
  rw [empty] at length
  exact absurd length (by decide)

theorem ofChar_of_isFigure {character : Char} (figure : Text.isFigure character = true) :
    Symbol.ofChar character = .figure :=
  if_pos figure

theorem ofChar_of_isCapital {character : Char} (capital : Text.isCapital character = true) :
    Symbol.ofChar character = .letter :=
  Text.of_isCapital (fun character => Symbol.ofChar character = .letter) (by decide) capital

theorem isFigure_of_ofChar {character : Char} (kind : Symbol.ofChar character = .figure) :
    Text.isFigure character = true := by
  unfold Symbol.ofChar at kind
  repeat' split at kind
  all_goals first | assumption | cases kind

theorem isCapital_of_ofChar {character : Char} (kind : Symbol.ofChar character = .letter) :
    Text.isCapital character = true := by
  unfold Symbol.ofChar at kind
  repeat' split at kind
  all_goals first | assumption | cases kind

theorem IsSerial.symbols {digits : Text} {number : Nat} (serial : IsSerial digits number) :
    digits.map Symbol.ofChar = List.replicate digits.length .figure := by
  rw [List.map_eq_replicate_iff]
  exact fun character member => ofChar_of_isFigure (serial.figures character member)

theorem symbols_of_letters {code : Text}
    (letters : ∀ character ∈ code, Text.isCapital character = true) :
    code.map Symbol.ofChar = List.replicate code.length .letter := by
  rw [List.map_eq_replicate_iff]
  exact fun character member => ofChar_of_isCapital (letters character member)

theorem IsSectionCode.symbols {code : Text} (isCode : IsSectionCode code) :
    code.map Symbol.ofChar = List.replicate code.length .letter :=
  symbols_of_letters isCode.letters

/-- Letters behind a blank, up to the border, are what a template for sections asks for. -/
theorem marks_of_code {code : Text}
    (letters : ∀ character ∈ code, Text.isCapital character = true) :
    Serial.marks (' ' :: code) = TemplateSet.lettersBetween .blank .undefined code.length := by
  rw [Serial.marks, List.map_cons, symbols_of_letters letters]
  rfl

theorem isSerial_normalText {number : Nat} (serial : 0 < number ∧ number ≤ 9999) :
    IsSerial (Serial.normalText number) number := by
  rw [Serial.normalText_of_serial serial]
  have few := Text.length_natText_le serial.2
  constructor
  case length =>
    rw [Text.length_zeroFill]
    omega
  case figures =>
    intro character member
    rcases List.mem_append.mp member with zero | digit
    · rw [List.eq_of_mem_replicate zero]
      decide
    · exact Text.isFigure_of_mem_natText digit
  case spelled =>
    rw [Text.zeroFill, Text.decimalsFrom_zeros, Text.decimalsFrom_natText]
  case positive => omega

/-! ## The lines of normal forms -/

/-- What may stand behind the serial in a normal form: nothing, or a blank and a code. -/
inductive Ending : Text → Prop where
  | bare : Ending []
  | code (code : Text) (isCode : IsSectionCode code) : Ending (' ' :: code)

/-- The symbols behind the serial in a normal form. -/
def endings : List (List Symbol) :=
  [[.undefined], [.blank, .letter, .letter, .undefined],
   [.blank, .letter, .letter, .letter, .undefined],
   [.blank, .letter, .letter, .letter, .letter, .undefined]]

theorem Ending.marks_mem {ending : Text} (ends : Ending ending) :
    Serial.marks ending ∈ endings := by
  cases ends with
  | bare => decide
  | code code isCode =>
      rw [marks_of_code isCode.letters]
      rcases isCode.length with two | three | four
      · rw [two]
        decide
      · rw [three]
        decide
      · rw [four]
        decide

theorem IsSerial.classify_append {digits : Text} {number : Nat} (serial : IsSerial digits number)
    (ending : Text) :
    classify (digits ++ ending) =
      (.undefined :: List.replicate digits.length .figure) ++ Serial.marks ending := by
  rw [Serial.classify_append, serial.symbols]

/-! ## The serial of a normal form -/

theorem Ending.takeWhile_isDigit {ending : Text} (ends : Ending ending) :
    ending.takeWhile Text.isDigit = [] := by
  cases ends <;> rfl

theorem leadingNumber_append {digits : Text} {number : Nat} (present : digits ≠ [])
    (few : digits.length ≤ 4) (figures : ∀ character ∈ digits, Text.isFigure character = true)
    (spelled : Text.decimalsFrom 0 digits = some number) {ending : Text}
    (stops : ending.takeWhile Text.isDigit = []) :
    Serial.leadingNumber (digits ++ ending) = .ok number := by
  have leading := Serial.leadingDigits_append present
    (fun character member => Text.isDigit_of_isFigure (figures character member)) stops
  apply Serial.leadingNumber_of_digits
  · rw [leading]
    exact Nat.le_trans few (by decide)
  · rw [leading]
    exact spelled

/-- Behind the first of four figures a number can be read as well. -/
theorem IsSerial.exists_leadingNumber_drop {digits : Text} {number : Nat}
    (serial : IsSerial digits number) {ending : Text}
    (stops : ending.takeWhile Text.isDigit = []) :
    ∃ other, Serial.leadingNumber ((digits ++ ending).drop 1) = .ok other := by
  have length := serial.length
  cases digits with
  | nil => exact absurd rfl serial.ne_nil
  | cons first rest =>
      rw [List.length_cons] at length
      have present : rest ≠ [] := by
        intro empty
        rw [empty] at length
        exact absurd length (by decide)
      have few : rest.length ≤ 4 := by omega
      have figures : ∀ character ∈ rest, Text.isFigure character = true :=
        fun character member => serial.figures character (List.mem_cons_of_mem first member)
      have decimal : ∀ character ∈ rest, Text.isDecimal character = true :=
        fun character member => Text.isDecimal_of_isFigure (figures character member)
      rcases Text.exists_decimalsFrom decimal 0 with ⟨other, spelled⟩
      exact ⟨other, leadingNumber_append present few figures spelled stops⟩

theorem serialFrom_of_absent {text : Text} {line : List Symbol} {templates : List Template}
    (absent : ∀ template ∈ templates, locate line template = none) (serial : Nat) :
    Extraction.serialFrom text line serial templates = .ok serial := by
  induction templates with
  | nil => rfl
  | cons template rest inductionHypothesis =>
      have here : Extraction.serialUnder text line serial template = .ok serial :=
        Serial.serialUnder_of_absent (absent template List.mem_cons_self) serial
      have later := inductionHypothesis fun other member =>
        absent other (List.mem_cons_of_mem template member)
      simp only [Extraction.serialFrom, here, later]

/-- The symbols that may stand behind a serial: those in a normal form, or a single letter. -/
def serialEndings : List (List Symbol) := [.blank, .letter, .undefined] :: endings

theorem absent_shortPlaces {figures : Nat} (length : figures = 3 ∨ figures = 4)
    {ending : List Symbol} (ends : ending ∈ serialEndings) :
    ∀ template ∈ Serial.shortPlaces,
      locate ((.undefined :: List.replicate figures .figure) ++ ending) template = none := by
  have three : ∀ ending ∈ serialEndings, ∀ template ∈ Serial.shortPlaces,
      locate ((.undefined :: List.replicate 3 .figure) ++ ending) template = none := by decide
  have four : ∀ ending ∈ serialEndings, ∀ template ∈ Serial.shortPlaces,
      locate ((.undefined :: List.replicate 4 .figure) ++ ending) template = none := by decide
  rcases length with same | same
  · rw [same]
    exact three ending ends
  · rw [same]
    exact four ending ends

theorem serialUnder_of_found {text : Text} {line : List Symbol} {template : Template}
    {offset place number : Nat} (found : locate line template = some offset)
    (same : Extraction.numberPlace offset template = place)
    (read : Serial.leadingNumber (text.drop place) = .ok number) (serial : Nat) :
    Extraction.serialUnder text line serial template =
      .ok (if number = 0 then serial else number) := by
  rw [Extraction.serialUnder, found]
  simp only [same, read]

theorem locate_of_three {ending : List Symbol} (ends : ending ∈ serialEndings) :
    locate ((.undefined :: List.replicate 3 .figure) ++ ending) Serial.threeFigures = some 1 ∧
      locate ((.undefined :: List.replicate 3 .figure) ++ ending)
        (.figure :: Serial.threeFigures) = none := by
  have all : ∀ ending ∈ serialEndings,
      locate ((.undefined :: List.replicate 3 .figure) ++ ending) Serial.threeFigures = some 1 ∧
        locate ((.undefined :: List.replicate 3 .figure) ++ ending)
          (.figure :: Serial.threeFigures) = none := by decide
  exact all ending ends

theorem locate_of_four {ending : List Symbol} (ends : ending ∈ serialEndings) :
    locate ((.undefined :: List.replicate 4 .figure) ++ ending) Serial.threeFigures = some 2 ∧
      locate ((.undefined :: List.replicate 4 .figure) ++ ending)
        (.figure :: Serial.threeFigures) = some 1 := by
  have all : ∀ ending ∈ serialEndings,
      locate ((.undefined :: List.replicate 4 .figure) ++ ending) Serial.threeFigures = some 2 ∧
        locate ((.undefined :: List.replicate 4 .figure) ++ ending)
          (.figure :: Serial.threeFigures) = some 1 := by decide
  exact all ending ends

/-- The figures at the start of a normal form are its serial number.  Of four figures the last three
are read as a serial as well, but then all four are. -/
theorem IsSerial.serialOf_of_marks {digits : Text} {number : Nat} (serial : IsSerial digits number)
    {ending : Text} (stops : ending.takeWhile Text.isDigit = [])
    (symbols : Serial.marks ending ∈ serialEndings) :
    Serial.serialOf (digits ++ ending) = .ok number := by
  have few : digits.length ≤ 4 := by
    have length := serial.length
    omega
  have start := leadingNumber_append serial.ne_nil few serial.figures serial.spelled stops
  have whole : Serial.leadingNumber ((digits ++ ending).drop 0) = .ok number := start
  rw [Serial.serialOf, Extraction.findSerial, start, Serial.serialPlaces_eq, serial.classify_append]
  simp only [Serial.serialFrom_append, Extraction.serialFrom,
    serialFrom_of_absent (absent_shortPlaces serial.length symbols)]
  rcases serial.length with three | four
  · rw [three]
    rcases locate_of_three symbols with ⟨found, absent⟩
    simp only [serialUnder_of_found found rfl whole, Serial.serialUnder_of_absent absent,
      serial.positive, if_false]
  · rw [four]
    rcases locate_of_four symbols with ⟨found, foundAll⟩
    rcases serial.exists_leadingNumber_drop stops with ⟨other, read⟩
    simp only [serialUnder_of_found found rfl read, serialUnder_of_found foundAll rfl whole,
      serial.positive, if_false]

theorem IsSerial.serialOf_append {digits : Text} {number : Nat} (serial : IsSerial digits number)
    {ending : Text} (ends : Ending ending) : Serial.serialOf (digits ++ ending) = .ok number :=
  serial.serialOf_of_marks ends.takeWhile_isDigit (List.mem_cons_of_mem _ ends.marks_mem)

/-! ## The section of a normal form -/

/-- The line of a serial and a code in normal form. -/
def codeLine (figures letters : Nat) : List Symbol :=
  (.undefined :: List.replicate figures .figure) ++
    .blank :: (List.replicate letters .letter ++ [.undefined])

theorem mem_one_to_four {size : Nat} (one : 1 ≤ size) (four : size ≤ 4) : size ∈ [1, 2, 3, 4] := by
  simp only [List.mem_cons, List.not_mem_nil, or_false]
  omega

theorem locate_codeLine {figures letters : Nat} (three : figures = 3 ∨ figures = 4)
    (one : 1 ≤ letters) (four : letters ≤ 4) :
    TemplateSet.lettersBetween .blank .undefined letters ∈ TemplateSet.sectionPlaces ∧
      locate (codeLine figures letters) (TemplateSet.lettersBetween .blank .undefined letters) =
        some (figures + 1) ∧
      ∀ template ∈ TemplateSet.sectionPlaces, locate (codeLine figures letters) template = none ∨
        template = TemplateSet.lettersBetween .blank .undefined letters := by
  have all : ∀ figures ∈ [3, 4], ∀ letters ∈ [1, 2, 3, 4],
      TemplateSet.lettersBetween .blank .undefined letters ∈ TemplateSet.sectionPlaces ∧
        locate (codeLine figures letters) (TemplateSet.lettersBetween .blank .undefined letters) =
          some (figures + 1) ∧
        ∀ template ∈ TemplateSet.sectionPlaces, locate (codeLine figures letters) template = none ∨
          template = TemplateSet.lettersBetween .blank .undefined letters := by decide
  exact all figures (by simpa using three) letters (mem_one_to_four one four)

theorem IsSerial.classify_code {digits : Text} {number : Nat} (serial : IsSerial digits number)
    {code : Text} (letters : ∀ character ∈ code, Text.isCapital character = true) :
    classify (digits ++ ' ' :: code) = codeLine digits.length code.length := by
  rw [serial.classify_append, marks_of_code letters]
  rfl

theorem length_lettersBetween (before after : Symbol) (count : Nat) :
    (TemplateSet.lettersBetween before after count).length = count + 2 := by
  simp [TemplateSet.lettersBetween]

/-- Letters end in no blank that would have to be taken off. -/
theorem dropOneLast_of_letters {code : Text}
    (letters : ∀ character ∈ code, Text.isCapital character = true) :
    Text.dropOneLast ' ' code = code := by
  rw [Text.dropOneLast, if_neg]
  intro blank
  have capital := letters ' ' (List.mem_of_getLast? blank)
  exact absurd capital (by decide)

/-- The letters between a delimiter and the end of a text are all that stands behind its front. -/
theorem windowText_behind (front code : Text) :
    windowText (front ++ code) (some (front.length : Int)) (code.length + 2) 1 = code := by
  have start : max (textIndex (front.length : Int) 1) 0 = (front.length : Int) := by
    simp only [textIndex]
    omega
  have stop : min (textIndex (front.length : Int) ((code.length + 2 : Nat) : Int))
      ((front ++ code).length : Int) = ((front ++ code).length : Int) := by
    simp only [textIndex, List.length_append]
    omega
  simp only [windowText, start, stop, Int.toNat_natCast, List.take_length, List.drop_left]
  split
  · rename_i short
    simp only [List.length_append] at short
    have empty : code.length = 0 := by omega
    exact (List.length_eq_zero_iff.mp empty).symm
  · rfl

theorem windowText_code (digits code : Text) :
    windowText (digits ++ ' ' :: code) (some ((digits.length + 1 : Nat) : Int))
      (code.length + 2) 1 = code := by
  have behind := windowText_behind (digits ++ [' ']) code
  rw [List.append_assoc, List.length_append] at behind
  exact behind

/-- The letters at the end of a normal form are looked up, and nothing else. -/
theorem IsSerial.findSection_append {digits : Text} {number : Nat} (serial : IsSerial digits number)
    {code : Text} (letters : ∀ character ∈ code, Text.isCapital character = true)
    (one : 1 ≤ code.length) (four : code.length ≤ 4) {lookUp : Text → Option Text}
    (found : lookUp code = some code) :
    Extraction.findSection lookUp TemplateSet.sectionPlaces (digits ++ ' ' :: code)
      (classify (digits ++ ' ' :: code)) = code := by
  have present : code ≠ [] := List.ne_nil_of_length_pos one
  rcases locate_codeLine serial.length one four with ⟨listed, located, others⟩
  have candidate : Extraction.candidateUnder (digits ++ ' ' :: code)
      (codeLine digits.length code.length)
      (TemplateSet.lettersBetween .blank .undefined code.length) = code := by
    rw [Extraction.candidateUnder, textUnder, located, length_lettersBetween, Option.map_some]
    exact (congrArg (Text.dropOneLast ' ') (windowText_code digits code)).trans
      (dropOneLast_of_letters letters)
  rw [serial.classify_code letters]
  exact Extraction.findSection_of_only listed candidate present found others

theorem IsSerial.findSection_bare {digits : Text} {number : Nat} (serial : IsSerial digits number)
    (lookUp : Text → Option Text) :
    Extraction.findSection lookUp TemplateSet.sectionPlaces digits (classify digits) = [] := by
  have line := serial.classify_append []
  rw [List.append_nil] at line
  have all : ∀ figures ∈ [3, 4], ∀ template ∈ TemplateSet.sectionPlaces,
      locate ((.undefined :: List.replicate figures .figure) ++ Serial.marks []) template =
        none := by
    decide
  have length : digits.length ∈ [3, 4] := by simpa using serial.length
  rw [line]
  exact Extraction.findSection_of_absent (all digits.length length)

/-! ## A code alone -/

theorem IsSectionCode.classify {code : Text} (isCode : IsSectionCode code) :
    ContestExchange.classify code =
      .undefined :: (List.replicate code.length .letter ++ [.undefined]) := by
  rw [ContestExchange.classify, isCode.symbols]

theorem IsSectionCode.absent {code : Text} (isCode : IsSectionCode code) :
    ∀ template ∈ TemplateSet.sectionPlaces ++ TemplateSet.serialPlaces,
      locate (ContestExchange.classify code) template = none := by
  have all : ∀ letters ∈ [2, 3, 4],
      ∀ template ∈ TemplateSet.sectionPlaces ++ TemplateSet.serialPlaces,
        locate (.undefined :: (List.replicate letters .letter ++ [.undefined])) template =
          none := by
    decide
  rw [isCode.classify]
  exact all code.length (by simpa using isCode.length)

/-- No digits are scanned where a letter stands. -/
theorem leadingDigits_of_letter {first : Char} (capital : Text.isCapital first = true)
    (rest : Text) : Serial.leadingDigits (first :: rest) = [] := by
  have noDigit := Text.isDigit_of_isCapital capital
  have noBlank : (first == ' ') = false := by
    rw [beq_eq_false_iff_ne]
    intro blank
    rw [blank] at capital
    exact absurd capital (by decide)
  rw [Serial.leadingDigits, List.dropWhile_cons, noBlank, if_neg Bool.false_ne_true,
    List.takeWhile_cons, noDigit, if_neg Bool.false_ne_true]

theorem IsSectionCode.leadingNumber {code : Text} (isCode : IsSectionCode code) :
    Serial.leadingNumber code = .ok 0 := by
  cases code with
  | nil => rfl
  | cons first rest =>
      have nothing := leadingDigits_of_letter (isCode.letters first List.mem_cons_self) rest
      apply Serial.leadingNumber_of_digits
      · rw [nothing]
        exact Nat.zero_le _
      · rw [nothing]
        rfl

/-- No template for sections lies on a code that stands alone. -/
theorem IsSectionCode.findSection {code : Text} (isCode : IsSectionCode code)
    (lookUp : Text → Option Text) :
    Extraction.findSection lookUp TemplateSet.sectionPlaces code
      (ContestExchange.classify code) = [] :=
  Extraction.findSection_of_absent fun template member =>
    isCode.absent template (List.mem_append_left _ member)

theorem IsSectionCode.serialOf {code : Text} (isCode : IsSectionCode code) :
    Serial.serialOf code = .ok 0 := by
  rw [Serial.serialOf, Extraction.findSerial, isCode.leadingNumber]
  exact serialFrom_of_absent (fun template member =>
    isCode.absent template (List.mem_append_right _ member)) 0

theorem IsSectionCode.isEmpty {code : Text} (isCode : IsSectionCode code) : code.isEmpty = false :=
  List.isEmpty_eq_false_iff.mpr isCode.ne_nil

theorem IsSerial.isEmpty {digits : Text} {number : Nat} (serial : IsSerial digits number) :
    digits.isEmpty = false :=
  List.isEmpty_eq_false_iff.mpr serial.ne_nil

/-! ## The normal form read again -/

/-- The normal form of a serial, which may be missing, and a code, which may be missing. -/
def normalForm (digits code : Text) : Text :=
  if digits.isEmpty then code else if code.isEmpty then digits else digits ++ ' ' :: code

namespace Extractor

variable {extractor : Extractor}

theorem sectionCode_of_serialSection (kind : extractor.strategy = .serialSection)
    (builtIn : extractor.templates = .builtIn) (text : Text) :
    extractor.sectionCode text =
      Extraction.findSection extractor.table.firstLeading? TemplateSet.sectionPlaces text
        (classify text) := by
  rw [sectionCode, kind, builtIn]
  rfl

/-- The section of an exchange is empty, or a code that leads to itself. -/
theorem sectionCode_cases (kind : extractor.strategy = .serialSection)
    (builtIn : extractor.templates = .builtIn)
    (codes : ∀ entry ∈ extractor.table.entries, IsSectionCode entry) (text : Text) :
    extractor.sectionCode text = [] ∨ IsSectionCode (extractor.sectionCode text) ∧
      extractor.table.firstLeading? (extractor.sectionCode text) =
        some (extractor.sectionCode text) := by
  rw [sectionCode_of_serialSection kind builtIn]
  rcases Extraction.findSection_cases with empty | ⟨candidate, found, _⟩
  · exact Or.inl empty
  · refine Or.inr ⟨codes _ (MultiplierTable.mem_of_firstLeading? found), ?_⟩
    exact MultiplierTable.firstLeading?_self found

theorem extract_eq_of_serialOf (kind : extractor.strategy = .serialSection)
    (builtIn : extractor.templates = .builtIn) (typing : Bool) {text : Text} {number : Nat}
    (found : Serial.serialOf text = .ok number) :
    extractor.extract typing text = .ok (extractor.readSection typing (some number) text) := by
  have scans : extractor.strategy.scansNumber = true := by rw [kind]; rfl
  rw [extract_of_scansNumber builtIn scans, found, Except.map, readNumbered, kind]

theorem fields_readSection (extractor : Extractor) (typing : Bool) (number : Nat) (text : Text) :
    (extractor.readSection typing (some number) text).normalized =
        normalForm (Serial.normalText number) (extractor.sectionCode text) ∧
      (extractor.readSection typing (some number) text).serial = Serial.columnText number ∧
      (extractor.readSection typing (some number) text).place = extractor.sectionCode text ∧
      (extractor.readSection typing (some number) text).multiplier = extractor.sectionCode text ∧
      (extractor.readSection typing (some number) text).correction = extractor.correction text := by
  cases typing <;> exact ⟨rfl, rfl, rfl, rfl, rfl⟩

/-- A text whose serial number and section are known reads as their normal form. -/
theorem extract_of_serialOf (kind : extractor.strategy = .serialSection)
    (builtIn : extractor.templates = .builtIn) (typing : Bool) {text : Text} {number : Nat}
    (found : Serial.serialOf text = .ok number) :
    ∃ reading, extractor.extract typing text = .ok reading ∧
      reading.normalized = normalForm (Serial.normalText number) (extractor.sectionCode text) ∧
      reading.place = extractor.sectionCode text ∧
      reading.serial = Serial.columnText number := by
  rcases fields_readSection extractor typing number text with ⟨normal, serial, place, _⟩
  exact ⟨_, extract_eq_of_serialOf kind builtIn typing found, normal, place, serial⟩

/-- A normal form is stable if its serial and its section are found on it again. -/
theorem exists_stable (kind : extractor.strategy = .serialSection)
    (builtIn : extractor.templates = .builtIn) (typing : Bool) {text : Text} {number : Nat}
    (found : Serial.serialOf text = .ok number)
    (same : normalForm (Serial.normalText number) (extractor.sectionCode text) = text) :
    ∃ again, extractor.extract typing text = .ok again ∧ again.normalized = text := by
  rcases extract_of_serialOf kind builtIn typing found with ⟨again, reads, normal, _⟩
  exact ⟨again, reads, normal.trans same⟩

/-- With a serial a normal form is stable, whether there is a section or not. -/
theorem stable_of_isSerial (kind : extractor.strategy = .serialSection)
    (builtIn : extractor.templates = .builtIn) (typing : Bool) {number : Nat}
    (serial : 0 < number ∧ number ≤ 9999) {code : Text}
    (known : code = [] ∨ IsSectionCode code ∧ extractor.table.firstLeading? code = some code) :
    ∃ again, extractor.extract typing (normalForm (Serial.normalText number) code) = .ok again ∧
      again.normalized = normalForm (Serial.normalText number) code := by
  have digits := isSerial_normalText serial
  have codeOf := sectionCode_of_serialSection kind builtIn
  rcases known with empty | ⟨isCode, itself⟩
  · have bare : normalForm (Serial.normalText number) code = Serial.normalText number := by
      rw [normalForm, digits.isEmpty, empty]
      rfl
    have found : Serial.serialOf (Serial.normalText number) = .ok number := by
      have whole := digits.serialOf_append .bare
      rw [List.append_nil] at whole
      exact whole
    rw [bare]
    apply exists_stable kind builtIn typing found
    rw [codeOf, digits.findSection_bare, ← empty]
    exact bare
  · have joined : normalForm (Serial.normalText number) code =
        Serial.normalText number ++ ' ' :: code := by
      rw [normalForm, digits.isEmpty, isCode.isEmpty]
      rfl
    have found := digits.serialOf_append (.code code isCode)
    rw [joined]
    apply exists_stable kind builtIn typing found
    have size := isCode.length
    rw [codeOf, digits.findSection_append isCode.letters (by omega) (by omega) itself]
    exact joined

theorem stable_of_nil (kind : extractor.strategy = .serialSection)
    (builtIn : extractor.templates = .builtIn) (typing : Bool) :
    ∃ again, extractor.extract typing [] = .ok again ∧ again.normalized = [] := by
  have nothing : ∀ template ∈ TemplateSet.sectionPlaces,
      locate (classify []) template = none := by decide
  have found : Serial.serialOf [] = .ok 0 := rfl
  apply exists_stable kind builtIn typing found
  rw [sectionCode_of_serialSection kind builtIn, Extraction.findSection_of_absent nothing]
  rfl

/-- A section alone reads as nothing. -/
theorem lost_of_isCode (kind : extractor.strategy = .serialSection)
    (builtIn : extractor.templates = .builtIn) (typing : Bool) {code : Text}
    (isCode : IsSectionCode code) :
    ∃ again, extractor.extract typing code = .ok again ∧ again.normalized = [] := by
  rcases extract_of_serialOf kind builtIn typing isCode.serialOf with ⟨again, reads, normal, _⟩
  refine ⟨again, reads, ?_⟩
  rw [normal, sectionCode_of_serialSection kind builtIn, isCode.findSection]
  rfl

/-- The normal form of a serial and a section reads as itself again, unless it is a section alone.
Then it reads as nothing. -/
theorem stable_iff_of_serialSection (kind : extractor.strategy = .serialSection)
    (builtIn : extractor.templates = .builtIn)
    (codes : ∀ entry ∈ extractor.table.entries, IsSectionCode entry) (typing : Bool) {text : Text}
    {reading : Extraction} (read : extractor.extract typing text = .ok reading) :
    ∃ again, extractor.extract typing reading.normalized = .ok again ∧
      (again.normalized = reading.normalized ↔
        reading.place = [] ∨ reading.serial ≠ Text.blanks Serial.columnWidth) := by
  have scans : extractor.strategy.scansNumber = true := by rw [kind]; rfl
  have known := sectionCode_cases kind builtIn codes text
  cases found : Serial.serialOf text with
  | error fault =>
      rw [extract_of_scansNumber builtIn scans, found] at read
      cases read
  | ok number =>
      rcases extract_of_serialOf kind builtIn typing found with
        ⟨other, reads, normal, place, column⟩
      cases read.symm.trans reads
      rw [normal, place, column]
      by_cases serial : 0 < number ∧ number ≤ 9999
      · rcases stable_of_isSerial kind builtIn typing serial known with ⟨again, readAgain, same⟩
        exact ⟨again, readAgain, iff_of_true same (Or.inr (Serial.columnText_ne_blanks serial))⟩
      · have alone : normalForm (Serial.normalText number) (extractor.sectionCode text) =
            extractor.sectionCode text := by
          rw [Serial.normalText_of_no_serial serial]
          rfl
        rw [alone, Serial.columnText_of_no_serial serial]
        rcases known with empty | ⟨isCode, _⟩
        · rw [empty]
          rcases stable_of_nil kind builtIn typing with ⟨again, readAgain, same⟩
          exact ⟨again, readAgain, iff_of_true same (Or.inl rfl)⟩
        · have present := isCode.ne_nil
          rcases lost_of_isCode kind builtIn typing isCode with ⟨again, readAgain, nothing⟩
          refine ⟨again, readAgain, iff_of_false ?_ ?_⟩
          · intro same
            exact present (same.symm.trans nothing)
          · rintro (empty | shown)
            · exact present empty
            · exact shown rfl

end Extractor
end ContestExchange
