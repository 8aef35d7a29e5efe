import ContestExchange.Proofs.NormalForm

namespace ContestExchange

/-!
# The normal form of a Sweepstakes exchange

A Sweepstakes exchange in normal form has columns: four for the serial, one for the precedence, two
for the check, and then the section.  Whatever is missing leaves its column blank.  But blanks are
skipped when the form is read, so a part moves into the column of a missing one before it if it has
the right kind.  A check is taken for a missing serial, and the first letter of a section for a
missing precedence.

A precedence keeps all the parts apart: neither can a check or a section stand before it, nor can
what it precedes be taken for a serial.  Without one, the form is stable if a serial stands before
the check, or if there is no check and the section starts with no letter of a precedence.
-/

namespace Extraction

/-! ## Behind blanks -/

theorem trimStart_blank (text : Text) : Text.trimStart (' ' :: text) = Text.trimStart text := rfl

theorem trimStart_blanks (count : Nat) (text : Text) :
    Text.trimStart (Text.blanks count ++ text) = Text.trimStart text := by
  induction count with
  | zero => rfl
  | succ count inductionHypothesis => exact inductionHypothesis

theorem trimStart_of_head {first : Char} {rest : Text} (noBlank : Text.isBlank first = false) :
    Text.trimStart (first :: rest) = first :: rest := by
  rw [Text.trimStart, List.dropWhile_cons, noBlank, if_neg Bool.false_ne_true]

/-- What stands behind the blanks of a text starts with no blank. -/
theorem isBlank_of_trimStart {text rest : Text} {first : Char}
    (behind : Text.trimStart text = first :: rest) : Text.isBlank first = false := by
  have head := List.head?_dropWhile_not Text.isBlank text
  rw [Text.trimStart] at behind
  rw [behind] at head
  exact head

theorem isBlank_of_isFigure {character : Char} (figure : Text.isFigure character = true) :
    Text.isBlank character = false :=
  Text.of_isFigure (fun character => Text.isBlank character = false) (by decide) figure

theorem isBlank_of_isDigit {character : Char} (digit : Text.isDigit character = true) :
    Text.isBlank character = false := by
  have blanks : ∀ range ∈ Text.blankRanges, ∀ offset < range.2 + 1 - range.1,
      Text.isDigit (Char.ofNat (range.1 + offset)) = false := by decide
  rw [Bool.eq_false_iff]
  intro blank
  rw [Text.isBlank, CodeRanges.contains, List.any_eq_true] at blank
  rcases blank with ⟨range, listed, inside⟩
  simp only [Bool.and_eq_true, decide_eq_true_eq] at inside
  have noDigit := blanks range listed (character.toNat - range.1) (by omega)
  rw [Nat.add_sub_cancel' inside.1, Char.ofNat_toNat] at noDigit
  exact absurd (digit.symm.trans noDigit) Bool.noConfusion

theorem isBlank_of_isCapital {character : Char} (capital : Text.isCapital character = true) :
    Text.isBlank character = false :=
  Text.of_isCapital (fun character => Text.isBlank character = false) (by decide) capital

/-! ## Letters and digits -/

theorem isDecimal_of_isCapital {character : Char} (capital : Text.isCapital character = true) :
    Text.isDecimal character = false := by
  have noDigit := Text.isDigit_of_isCapital capital
  rw [Text.isDigit, Bool.or_eq_false_iff] at noDigit
  exact noDigit.1

theorem isCapital_of_isDecimal {character : Char} (decimal : Text.isDecimal character = true) :
    Text.isCapital character = false := by
  cases capital : Text.isCapital character with
  | false => rfl
  | true => exact absurd (decimal.symm.trans (isDecimal_of_isCapital capital)) Bool.noConfusion

/-- No digits start a text that a letter starts. -/
theorem takeWhile_of_capital {first : Char} {rest : Text}
    (capital : Text.isCapital first = true) : (first :: rest).takeWhile Text.isDecimal = [] := by
  rw [List.takeWhile_cons, isDecimal_of_isCapital capital, if_neg Bool.false_ne_true]

theorem callCore?_of_no_capital {first : Char} {rest : Text}
    (noCapital : Text.isCapital first = false) : callCore? (first :: rest) = none := by
  simp only [callCore?, noCapital, Bool.false_and, Bool.false_eq_true, if_false]

theorem callCore?_of_no_digit {first : Char} {rest : Text}
    (noDigit : rest.takeWhile Text.isDecimal = []) : callCore? (first :: rest) = none := by
  simp only [callCore?, noDigit, List.isEmpty_nil, Bool.not_true, Bool.and_false, Bool.false_and,
    Bool.false_eq_true, if_false]

/-- Letters alone are no call: a call has a digit. -/
theorem callAfter?_of_letters {letters : Text}
    (capitals : ∀ character ∈ letters, Text.isCapital character = true) :
    callAfter? isLetterOrFigure letters = none := by
  induction letters with
  | nil => rfl
  | cons first rest inductionHypothesis =>
      have later := inductionHypothesis fun character member =>
        capitals character (List.mem_cons_of_mem first member)
      have noDigits : rest.takeWhile Text.isDecimal = [] := by
        cases rest with
        | nil => rfl
        | cons second others =>
            exact takeWhile_of_capital
              (capitals second (List.mem_cons_of_mem first List.mem_cons_self))
      rw [callAfter?, callCore?_of_no_digit noDigits]
      simp only [later, Option.map_none, ite_self]

theorem dropWhile_of_takeWhile {mark : Char → Bool} {ending : Text}
    (stops : ending.takeWhile mark = []) : ending.dropWhile mark = ending := by
  have whole : ending.takeWhile mark ++ ending.dropWhile mark = ending :=
    List.takeWhile_append_dropWhile
  rw [stops] at whole
  exact whole

theorem trimStart_append {text : Text} (present : text ≠ [])
    (noBlank : ∀ character ∈ text, Text.isBlank character = false) (ending : Text) :
    Text.trimStart (text ++ ending) = text ++ ending := by
  cases text with
  | nil => exact absurd rfl present
  | cons first rest => exact trimStart_of_head (noBlank first List.mem_cons_self)

/-- Digits behind blanks are taken up to the first character that is none. -/
theorem takeDigits_of_trimStart {text digits ending : Text}
    (starts : Text.trimStart text = digits ++ ending)
    (decimal : ∀ character ∈ digits, Text.isDecimal character = true)
    (stops : ending.takeWhile Text.isDecimal = []) : takeDigits text = (digits, ending) := by
  rw [takeDigits, starts, List.takeWhile_append_of_pos decimal,
    List.dropWhile_append_of_pos decimal, stops, dropWhile_of_takeWhile stops, List.append_nil]

theorem takeDigits_append {digits : Text} {first : Char} {rest ending : Text}
    (starts : digits = first :: rest) (noBlank : Text.isBlank first = false)
    (decimal : ∀ character ∈ digits, Text.isDecimal character = true) :
    takeDigits (digits ++ ' ' :: ending) = (digits, ' ' :: ending) := by
  apply takeDigits_of_trimStart
  · rw [starts]
    exact trimStart_of_head noBlank
  · exact decimal
  · have noDigit : Text.isDecimal ' ' = false := by decide
    rw [List.takeWhile_cons, noDigit, if_neg Bool.false_ne_true]

theorem takeDigits_of_letters {text letters : Text} (behind : Text.trimStart text = letters)
    (capitals : ∀ character ∈ letters, Text.isCapital character = true) :
    takeDigits text = ([], letters) := by
  apply takeDigits_of_trimStart
  · exact behind
  · exact fun character member => absurd member List.not_mem_nil
  · cases letters with
    | nil => rfl
    | cons first rest => exact takeWhile_of_capital (capitals first List.mem_cons_self)

/-! ## The parts of a normal form -/

/-- The columns of a Sweepstakes exchange and the section behind them. -/
def sweepstakesForm (serial : Text) (precedence : Char) (check code : Text) : Text :=
  serial ++ ' ' :: precedence :: ' ' :: (check ++ ' ' :: code)

/-- The normal form of the parts of an exchange. -/
def SweepstakesParts.form (table : MultiplierTable) (parts : SweepstakesParts) : Text :=
  sweepstakesForm parts.serialColumn (parts.precedence.getD ' ') parts.checkColumns
    (parts.section? table)

theorem normalized_ofSweepstakes (table : MultiplierTable) (typing : Bool) (text : Text) :
    (ofSweepstakes table typing text).normalized = (SweepstakesParts.ofText text).form table := by
  simp only [ofSweepstakes, showing_eq, SweepstakesParts.form, sweepstakesForm,
    SweepstakesParts.precedenceColumn, List.append_assoc, List.cons_append, List.nil_append]

/-- The column of a serial number with the digits that are read from it. -/
inductive SerialColumn : Text → Text → Prop where
  | blank : SerialColumn (Text.blanks Serial.columnWidth) []
  | serial (number : Nat) (isSerial : 0 < number ∧ number ≤ 9999) :
      SerialColumn (Serial.columnText number) (Decimal.natText number)

/-- The columns of a check with the digits that are read from them. -/
inductive CheckColumns : Text → Text → Prop where
  | blank : CheckColumns (Text.blanks 2) []
  | digits (first second : Char) (noBlank : Text.isBlank first = false)
      (decimal : ∀ character ∈ [first, second], Text.isDecimal character = true) :
      CheckColumns [first, second] [first, second]

/-- Whether a section is empty or a code of the table, of two or three letters. -/
structure SectionFound (table : MultiplierTable) (code : Text) : Prop where
  capitals : ∀ character ∈ code, Text.isCapital character = true
  known : code = [] ∨ 2 ≤ code.length ∧ code.length ≤ 3 ∧ table.find? code = some code

theorem serialColumn_ofText (text : Text) :
    ∃ digits, SerialColumn (SweepstakesParts.ofText text).serialColumn digits := by
  have written (number : Nat) : ∃ digits, SerialColumn (Serial.columnText number) digits := by
    by_cases isSerial : 0 < number ∧ number ≤ 9999
    · exact ⟨_, .serial number isSerial⟩
    · rw [Serial.columnText_of_no_serial isSerial]
      exact ⟨_, .blank⟩
  unfold SweepstakesParts.serialColumn
  split
  · exact written _
  · exact ⟨_, .blank⟩

theorem checkColumns_ofText (text : Text) :
    ∃ digits, CheckColumns (SweepstakesParts.ofText text).checkColumns digits := by
  unfold SweepstakesParts.checkColumns
  split
  · rename_i two
    have digits : ∃ rest, (SweepstakesParts.ofText text).check = (takeDigits rest).1 := ⟨_, rfl⟩
    rcases digits with ⟨rest, same⟩
    rw [same] at two ⊢
    cases taken : (takeDigits rest).1 with
    | nil =>
        rw [taken] at two
        cases two
    | cons first others =>
        rw [taken] at two
        rcases List.length_eq_one_iff.mp (Nat.succ.inj two) with ⟨second, only⟩
        subst only
        have run : (Text.trimStart rest).takeWhile Text.isDecimal = [first, second] := taken
        have behind : (Text.trimStart rest).takeWhile Text.isDecimal ++
            (Text.trimStart rest).dropWhile Text.isDecimal = Text.trimStart rest :=
          List.takeWhile_append_dropWhile
        rw [run, List.cons_append] at behind
        refine ⟨_, .digits first second (isBlank_of_trimStart behind.symm) ?_⟩
        rw [← run]
        exact fun character member => List.all_eq_true.mp List.all_takeWhile character member
  · exact ⟨_, .blank⟩

theorem takeSectionLetters_cases (text : Text) :
    (∀ character ∈ takeSectionLetters text, Text.isCapital character = true) ∧
      (takeSectionLetters text = [] ∨
        2 ≤ (takeSectionLetters text).length ∧ (takeSectionLetters text).length ≤ 3) := by
  unfold takeSectionLetters
  dsimp only
  split
  · refine ⟨fun character member => ?_, Or.inl rfl⟩
    cases member
  · rename_i long
    refine ⟨fun character member => ?_, Or.inr ⟨Nat.le_of_not_lt long, List.length_take_le 3 _⟩⟩
    have letter := List.mem_of_mem_take member
    exact List.all_eq_true.mp List.all_takeWhile character letter

/-- Two or three letters are a section as they stand. -/
theorem takeSectionLetters_of_letters {text letters : Text} (behind : Text.trimStart text = letters)
    (capitals : ∀ character ∈ letters, Text.isCapital character = true)
    (two : 2 ≤ letters.length) (three : letters.length ≤ 3) : takeSectionLetters text = letters := by
  have run : (letters ++ []).takeWhile Text.isCapital = letters ++ [].takeWhile Text.isCapital :=
    List.takeWhile_append_of_pos capitals
  rw [List.append_nil, List.takeWhile_nil, List.append_nil] at run
  rw [takeSectionLetters, behind, run, List.take_of_length_le three, if_neg (Nat.not_lt_of_le two)]

theorem SectionFound.nil (table : MultiplierTable) : SectionFound table [] := by
  refine ⟨fun character member => ?_, Or.inl rfl⟩
  cases member

theorem section?_ofText (table : MultiplierTable) (text : Text) :
    SectionFound table ((SweepstakesParts.ofText text).section? table) := by
  have letters : ∃ rest, (SweepstakesParts.ofText text).letters = takeSectionLetters rest :=
    ⟨_, rfl⟩
  rcases letters with ⟨rest, same⟩
  rcases takeSectionLetters_cases rest with ⟨capitals, size⟩
  unfold SweepstakesParts.section?
  rw [same]
  split
  · exact .nil table
  · rename_i present
    rw [List.isEmpty_iff] at present
    cases found : table.find? (takeSectionLetters rest) with
    | none => exact .nil table
    | some code =>
        have itself : code = takeSectionLetters rest := by
          have equal := List.find?_some found
          exact beq_iff_eq.mp equal
        rw [itself] at found
        rw [itself]
        rcases size.resolve_left present with ⟨two, three⟩
        exact ⟨capitals, Or.inr ⟨two, three, found⟩⟩

/-! ## Reading a form -/

/-- The parts of an exchange once its number and its precedence have been taken. -/
def SweepstakesParts.behind (number : Text) (precedence : Option Char) (text : Text) :
    SweepstakesParts :=
  let (call, rest) := takeSweepstakesCall text
  let (check, rest) := takeDigits rest
  ⟨number, precedence, call, check, takeSectionLetters rest⟩

theorem SweepstakesParts.ofText_eq (text : Text) :
    SweepstakesParts.ofText text =
      .behind (takeDigits text).1 (takePrecedence (takeDigits text).2).1
        (takePrecedence (takeDigits text).2).2 := rfl

theorem takeSweepstakesCall_of_none {text : Text}
    (none : callAfter? isLetterOrFigure (Text.trimStart text) = none) :
    takeSweepstakesCall text = ([], text) := by
  rw [takeSweepstakesCall, none]

/-- Letters alone are read as a section, whatever their number. -/
theorem SweepstakesParts.behind_of_letters {text letters : Text}
    (behind : Text.trimStart text = letters)
    (capitals : ∀ character ∈ letters, Text.isCapital character = true) (number : Text)
    (precedence : Option Char) :
    SweepstakesParts.behind number precedence text =
      ⟨number, precedence, [], [], takeSectionLetters letters⟩ := by
  have noCall : takeSweepstakesCall text = ([], text) := by
    apply takeSweepstakesCall_of_none
    rw [behind]
    exact callAfter?_of_letters capitals
  rw [SweepstakesParts.behind, noCall]
  simp only [takeDigits_of_letters behind capitals]

/-- Two digits and letters are read as a check and a section. -/
theorem SweepstakesParts.behind_of_check {text code : Text} {first second : Char}
    (behind : Text.trimStart text = [first, second] ++ ' ' :: code)
    (decimal : ∀ character ∈ [first, second], Text.isDecimal character = true) (number : Text)
    (precedence : Option Char) :
    SweepstakesParts.behind number precedence text =
      ⟨number, precedence, [], [first, second], takeSectionLetters (' ' :: code)⟩ := by
  have noBlank := isBlank_of_trimStart behind
  have firstDigit := isCapital_of_isDecimal (decimal first List.mem_cons_self)
  have secondDigit := isCapital_of_isDecimal
    (decimal second (List.mem_cons_of_mem first List.mem_cons_self))
  have noCall : takeSweepstakesCall text = ([], text) := by
    apply takeSweepstakesCall_of_none
    have blank : callAfter? isLetterOrFigure (' ' :: code) = none := by
      rw [callAfter?, callCore?_of_no_capital (by decide)]
      rfl
    rw [behind, List.cons_append, List.cons_append, List.nil_append, callAfter?,
      callCore?_of_no_capital firstDigit, callAfter?, callCore?_of_no_capital secondDigit, blank]
    simp only [Option.map_none, ite_self]
  have digits : takeDigits text = ([first, second], ' ' :: code) := by
    have trimmed : takeDigits text = takeDigits ([first, second] ++ ' ' :: code) := by
      rw [takeDigits, takeDigits, behind]
      simp only [List.cons_append, trimStart_of_head noBlank]
    rw [trimmed]
    exact takeDigits_append rfl noBlank decimal
  rw [SweepstakesParts.behind, noCall]
  simp only [digits]

section Columns

variable {table : MultiplierTable} {serial check code digits checkDigits : Text}

theorem SectionFound.trimStart (found : SectionFound table code) : Text.trimStart code = code := by
  cases code with
  | nil => rfl
  | cons first rest =>
      exact trimStart_of_head (isBlank_of_isCapital (found.capitals first List.mem_cons_self))

theorem SectionFound.takeSectionLetters (found : SectionFound table code) {text : Text}
    (behind : Text.trimStart text = code) : Extraction.takeSectionLetters text = code := by
  rcases found.known with empty | ⟨two, three, _⟩
  · rw [empty] at behind ⊢
    rw [Extraction.takeSectionLetters, behind]
    rfl
  · exact takeSectionLetters_of_letters behind found.capitals two three

/-- What stands behind the precedence of a form is read as it was written. -/
theorem CheckColumns.behind (columns : CheckColumns check checkDigits)
    (found : SectionFound table code) {text : Text}
    (behind : Text.trimStart text = Text.trimStart (check ++ ' ' :: code)) (number : Text)
    (precedence : Option Char) :
    SweepstakesParts.behind number precedence text =
      ⟨number, precedence, [], checkDigits, code⟩ := by
  cases columns with
  | blank =>
      have letters : Text.trimStart text = code := behind.trans found.trimStart
      rw [SweepstakesParts.behind_of_letters letters found.capitals,
        found.takeSectionLetters found.trimStart]
  | digits first second noBlank decimal =>
      have shown : Text.trimStart text = [first, second] ++ ' ' :: code :=
        behind.trans (trimStart_of_head noBlank)
      have behindBlank : Text.trimStart (' ' :: code) = code := found.trimStart
      rw [SweepstakesParts.behind_of_check shown decimal, found.takeSectionLetters behindBlank]

/-- The number of a form is taken from its column, unless that is blank and digits follow. -/
theorem SerialColumn.takeDigits (column : SerialColumn serial digits) {ending : Text}
    (kept : digits ≠ [] ∨ ∀ first rest, Text.trimStart ending = first :: rest →
      Text.isDecimal first = false) :
    ∃ rest, Extraction.takeDigits (serial ++ ' ' :: ending) = (digits, rest) ∧
      Text.trimStart rest = Text.trimStart ending := by
  cases column with
  | blank =>
      have follows := kept.resolve_left fun present => present rfl
      have skipped : Extraction.takeDigits (Text.blanks Serial.columnWidth ++ ' ' :: ending) =
          Extraction.takeDigits ending := rfl
      rw [skipped, Extraction.takeDigits]
      cases behind : Text.trimStart ending with
      | nil => exact ⟨[], rfl, rfl⟩
      | cons first rest =>
          refine ⟨first :: rest, ?_, trimStart_of_head (isBlank_of_trimStart behind)⟩
          rw [List.takeWhile_cons, List.dropWhile_cons, follows first rest behind]
          rfl
  | serial number isSerial =>
      refine ⟨' ' :: ending, ?_, rfl⟩
      have skipped : Extraction.takeDigits (Serial.columnText number ++ ' ' :: ending) =
          Extraction.takeDigits (Decimal.natText number ++ ' ' :: ending) := by
        rw [Serial.columnText_of_serial isSerial, Text.alignRight, List.append_assoc,
          Extraction.takeDigits, trimStart_blanks]
        rfl
      rw [skipped]
      cases written : Decimal.natText number with
      | nil => exact absurd written Nat.toDigits_ne_nil
      | cons first rest =>
          have figures : ∀ character ∈ first :: rest, Text.isFigure character = true := by
            rw [← written]
            exact fun character member => Text.isFigure_of_mem_natText member
          exact takeDigits_append rfl (isBlank_of_isFigure (figures first List.mem_cons_self))
            fun character member => Text.isDecimal_of_isFigure (figures character member)

theorem takePrecedence_of_letter {text rest : Text} {letter : Char}
    (behind : Text.trimStart text = letter :: rest)
    (known : precedenceLetters.contains letter = true) :
    takePrecedence text = (some letter, rest) := by
  rw [takePrecedence, behind]
  simp only [known, if_true]

theorem takePrecedence_of_none {text : Text}
    (other : ∀ first rest, Text.trimStart text = first :: rest →
      precedenceLetters.contains first = false) : takePrecedence text = (none, text) := by
  rw [takePrecedence]
  cases behind : Text.trimStart text with
  | nil => rfl
  | cons first rest =>
      simp only [other first rest behind, Bool.false_eq_true, if_false]

theorem isCapital_of_precedence {letter : Char}
    (known : precedenceLetters.contains letter = true) : Text.isCapital letter = true := by
  have capitals : precedenceLetters.all Text.isCapital = true := by decide
  exact List.all_eq_true.mp capitals letter (List.contains_iff_mem.mp known)

/-! ## Forms that are stable -/

/-- With a precedence all parts of a form are read as they were written. -/
theorem ofText_of_precedence (column : SerialColumn serial digits)
    (columns : CheckColumns check checkDigits) (found : SectionFound table code) {letter : Char}
    (known : precedenceLetters.contains letter = true) :
    SweepstakesParts.ofText (sweepstakesForm serial letter check code) =
      ⟨digits, some letter, [], checkDigits, code⟩ := by
  have capital := isCapital_of_precedence known
  have shown : Text.trimStart (letter :: ' ' :: (check ++ ' ' :: code)) =
      letter :: ' ' :: (check ++ ' ' :: code) := trimStart_of_head (isBlank_of_isCapital capital)
  have noDigit : ∀ first rest, Text.trimStart (letter :: ' ' :: (check ++ ' ' :: code)) =
      first :: rest → Text.isDecimal first = false := by
    intro first rest starts
    rw [shown, List.cons.injEq] at starts
    rw [← starts.1]
    exact isDecimal_of_isCapital capital
  rcases column.takeDigits (Or.inr noDigit) with ⟨rest, taken, behind⟩
  have precedence := takePrecedence_of_letter (behind.trans shown) known
  rw [SweepstakesParts.ofText_eq, sweepstakesForm, taken]
  simp only [precedence]
  exact columns.behind found (trimStart_blank _) digits (some letter)

/-- Without a precedence they are as well, if the number has its column filled or no digit follows,
and what follows starts with no letter of a precedence. -/
theorem ofText_of_no_precedence (column : SerialColumn serial digits)
    (columns : CheckColumns check checkDigits) (found : SectionFound table code)
    (kept : digits ≠ [] ∨ ∀ first rest, Text.trimStart (check ++ ' ' :: code) = first :: rest →
      Text.isDecimal first = false)
    (other : ∀ first rest, Text.trimStart (check ++ ' ' :: code) = first :: rest →
      precedenceLetters.contains first = false) :
    SweepstakesParts.ofText (sweepstakesForm serial ' ' check code) =
      ⟨digits, none, [], checkDigits, code⟩ := by
  have takes : ∃ rest, takeDigits (serial ++ ' ' :: ' ' :: ' ' :: (check ++ ' ' :: code)) =
      (digits, rest) ∧ Text.trimStart rest = Text.trimStart (check ++ ' ' :: code) :=
    column.takeDigits kept
  rcases takes with ⟨rest, taken, behind⟩
  have precedence : takePrecedence rest = (none, rest) := by
    apply takePrecedence_of_none
    rw [behind]
    exact other
  rw [SweepstakesParts.ofText_eq, sweepstakesForm, taken]
  simp only [precedence]
  exact columns.behind found behind digits none

/-- Parts that were read as they were written have the form that they were read from. -/
theorem form_of_parts (column : SerialColumn serial digits)
    (columns : CheckColumns check checkDigits) (found : SectionFound table code)
    (precedence : Option Char) :
    (SweepstakesParts.mk digits precedence [] checkDigits code).form table =
      sweepstakesForm serial (precedence.getD ' ') check code := by
  have serialAgain :
      (SweepstakesParts.mk digits precedence [] checkDigits code).serialColumn = serial := by
    cases column with
    | blank => rfl
    | serial number isSerial =>
        have few := Text.length_natText_le isSerial.2
        rw [SweepstakesParts.serialColumn]
        simp only [few, if_true, Text.decimalsFrom_natText, Option.getD_some]
  have checkAgain :
      (SweepstakesParts.mk digits precedence [] checkDigits code).checkColumns = check := by
    cases columns <;> rfl
  have codeAgain :
      (SweepstakesParts.mk digits precedence [] checkDigits code).section? table = code := by
    rw [SweepstakesParts.section?]
    dsimp only
    rcases found.known with empty | ⟨_, _, listed⟩
    · rw [empty]
      rfl
    · rw [listed, Option.getD_some]
      split
      · rename_i empty
        exact (List.isEmpty_iff.mp empty).symm
      · rfl
  rw [SweepstakesParts.form, serialAgain, checkAgain, codeAgain]

/-! ## Forms that are not -/

theorem SerialColumn.length (column : SerialColumn serial digits) : serial.length = 4 := by
  cases column with
  | blank => rfl
  | serial number isSerial =>
      have few := Text.length_natText_le isSerial.2
      rw [Serial.columnText_of_serial isSerial, Text.length_alignRight, Serial.columnWidth]
      omega

theorem CheckColumns.length (columns : CheckColumns check checkDigits) : check.length = 2 := by
  cases columns <;> rfl

/-- Forms are equal only column by column. -/
theorem sweepstakesForm_inj {otherSerial otherCheck otherCode : Text} {letter other : Char}
    (serials : serial.length = otherSerial.length) (checks : check.length = otherCheck.length)
    (same : sweepstakesForm serial letter check code =
      sweepstakesForm otherSerial other otherCheck otherCode) :
    letter = other ∧ check = otherCheck := by
  rcases List.append_inj same serials with ⟨_, columns⟩
  simp only [List.cons.injEq, true_and] at columns
  exact ⟨columns.1, (List.append_inj columns.2 checks).1⟩

theorem precedence_ofText {text : Text} {letter : Char}
    (taken : (SweepstakesParts.ofText text).precedence = some letter) :
    precedenceLetters.contains letter = true := by
  rw [SweepstakesParts.ofText_eq] at taken
  have precedence : (takePrecedence (Extraction.takeDigits text).2).1 = some letter := taken
  unfold takePrecedence at precedence
  split at precedence
  · split at precedence
    · rename_i known
      cases precedence
      exact known
    · cases precedence
  · cases precedence

/-- A form keeps its precedence and its check only if these are read from it. -/
theorem columns_of_stable (column : SerialColumn serial digits)
    (columns : CheckColumns check checkDigits) {letter : Char} {text : Text}
    (same : (SweepstakesParts.ofText text).form table = sweepstakesForm serial letter check code) :
    (SweepstakesParts.ofText text).precedence.getD ' ' = letter ∧
      (SweepstakesParts.ofText text).checkColumns = check := by
  rcases serialColumn_ofText text with ⟨_, columnAgain⟩
  rcases checkColumns_ofText text with ⟨_, columnsAgain⟩
  exact sweepstakesForm_inj (columnAgain.length.trans column.length.symm)
    (columnsAgain.length.trans columns.length.symm) same

/-- What stands behind a section's precedence letter, if it has one, are letters. -/
theorem takePrecedence_of_section (found : SectionFound table code) :
    ∃ precedence rest, takePrecedence (' ' :: code) = (precedence, rest) ∧
      ∀ character ∈ Text.trimStart rest, Text.isCapital character = true := by
  have shown : Text.trimStart (' ' :: code) = code := found.trimStart
  cases code with
  | nil =>
      refine ⟨none, [' '], rfl, fun character member => ?_⟩
      cases member
  | cons first rest =>
      cases known : precedenceLetters.contains first with
      | true =>
          refine ⟨some first, rest, takePrecedence_of_letter shown known, ?_⟩
          intro character member
          have inRest := (List.dropWhile_sublist Text.isBlank).mem member
          exact found.capitals character (List.mem_cons_of_mem first inRest)
      | false =>
          have other : ∀ head tail, Text.trimStart (' ' :: first :: rest) = head :: tail →
              precedenceLetters.contains head = false := by
            intro head tail starts
            rw [shown, List.cons.injEq] at starts
            rw [← starts.1]
            exact known
          refine ⟨none, _, takePrecedence_of_none other, ?_⟩
          rw [shown]
          exact found.capitals

/-- Without a serial and a precedence, a check is taken for the serial. -/
theorem moved_check (found : SectionFound table code) {first second : Char}
    (noBlank : Text.isBlank first = false)
    (decimal : ∀ character ∈ [first, second], Text.isDecimal character = true) :
    (SweepstakesParts.ofText
        (sweepstakesForm (Text.blanks Serial.columnWidth) ' ' [first, second] code)).form table ≠
      sweepstakesForm (Text.blanks Serial.columnWidth) ' ' [first, second] code := by
  intro same
  have taken : Extraction.takeDigits
      (sweepstakesForm (Text.blanks Serial.columnWidth) ' ' [first, second] code) =
        ([first, second], ' ' :: code) := takeDigits_append rfl noBlank decimal
  rcases takePrecedence_of_section found with ⟨precedence, rest, behind, capitals⟩
  have parts := SweepstakesParts.ofText_eq
    (sweepstakesForm (Text.blanks Serial.columnWidth) ' ' [first, second] code)
  rw [taken] at parts
  simp only [behind, SweepstakesParts.behind_of_letters rfl capitals] at parts
  rcases columns_of_stable .blank (.digits first second noBlank decimal) same with ⟨_, checkAgain⟩
  rw [parts] at checkAgain
  have blank : ' ' = first := (List.cons.inj checkAgain).1
  rw [← blank] at noBlank
  exact absurd noBlank (by decide)

/-- Without a precedence and a check, a letter of a precedence is taken from the section. -/
theorem moved_letter (column : SerialColumn serial digits) {letter : Char} {rest : Text}
    (found : SectionFound table (letter :: rest))
    (known : precedenceLetters.contains letter = true) :
    (SweepstakesParts.ofText (sweepstakesForm serial ' ' (Text.blanks 2) (letter :: rest))).form
        table ≠
      sweepstakesForm serial ' ' (Text.blanks 2) (letter :: rest) := by
  intro same
  have noDigit : ∀ head tail, Text.trimStart (letter :: rest) = head :: tail →
      Text.isDecimal head = false := by
    intro head tail starts
    rw [found.trimStart, List.cons.injEq] at starts
    rw [← starts.1]
    exact isDecimal_of_isCapital (isCapital_of_precedence known)
  have takes : ∃ others, Extraction.takeDigits
      (serial ++ ' ' :: ' ' :: ' ' :: (Text.blanks 2 ++ ' ' :: letter :: rest)) =
        (digits, others) ∧ Text.trimStart others = Text.trimStart (letter :: rest) :=
    column.takeDigits (Or.inr noDigit)
  rcases takes with ⟨others, taken, behind⟩
  have precedence := takePrecedence_of_letter (behind.trans found.trimStart) known
  have parts := SweepstakesParts.ofText_eq
    (sweepstakesForm serial ' ' (Text.blanks 2) (letter :: rest))
  rw [sweepstakesForm, taken] at parts
  simp only [precedence] at parts
  rcases columns_of_stable column .blank same with ⟨letterAgain, _⟩
  rw [sweepstakesForm, parts] at letterAgain
  have blank : letter = ' ' := letterAgain
  rw [blank] at known
  exact absurd known (by decide)

/-! ## The exact condition -/

theorem stable_of_no_precedence (column : SerialColumn serial digits)
    (columns : CheckColumns check checkDigits) (found : SectionFound table code)
    (kept : digits ≠ [] ∨ ∀ first rest, Text.trimStart (check ++ ' ' :: code) = first :: rest →
      Text.isDecimal first = false)
    (other : ∀ first rest, Text.trimStart (check ++ ' ' :: code) = first :: rest →
      precedenceLetters.contains first = false) :
    (SweepstakesParts.ofText (sweepstakesForm serial ' ' check code)).form table =
      sweepstakesForm serial ' ' check code := by
  rw [ofText_of_no_precedence column columns found kept other]
  exact form_of_parts column columns found none

/-- Without a precedence and a check, a form is stable unless the section starts with a letter of a
precedence. -/
theorem stable_iff_of_no_check (column : SerialColumn serial digits)
    (found : SectionFound table code) :
    (SweepstakesParts.ofText (sweepstakesForm serial ' ' (Text.blanks 2) code)).form table =
        sweepstakesForm serial ' ' (Text.blanks 2) code ↔
      ∀ first rest, code = first :: rest → precedenceLetters.contains first = false := by
  have shown : Text.trimStart (Text.blanks 2 ++ ' ' :: code) = code := found.trimStart
  constructor
  · intro stable first rest starts
    subst starts
    cases known : precedenceLetters.contains first with
    | false => rfl
    | true => exact absurd stable (moved_letter column found known)
  · intro other
    apply stable_of_no_precedence column .blank found
    · right
      intro first rest starts
      rw [shown] at starts
      apply isDecimal_of_isCapital
      apply found.capitals
      rw [starts]
      exact List.mem_cons_self
    · rw [shown]
      exact other

/-- Without a precedence a check is kept behind a serial. -/
theorem stable_of_serial {number : Nat} (isSerial : 0 < number ∧ number ≤ 9999)
    (found : SectionFound table code) {first second : Char}
    (noBlank : Text.isBlank first = false)
    (decimal : ∀ character ∈ [first, second], Text.isDecimal character = true) :
    (SweepstakesParts.ofText
        (sweepstakesForm (Serial.columnText number) ' ' [first, second] code)).form table =
      sweepstakesForm (Serial.columnText number) ' ' [first, second] code := by
  apply stable_of_no_precedence (.serial number isSerial) (.digits first second noBlank decimal)
    found (Or.inl Nat.toDigits_ne_nil)
  intro head tail starts
  rw [List.cons_append, trimStart_of_head noBlank, List.cons.injEq] at starts
  rw [← starts.1]
  cases known : precedenceLetters.contains first with
  | false => rfl
  | true =>
      have noDigit := isDecimal_of_isCapital (isCapital_of_precedence known)
      have digit := decimal first List.mem_cons_self
      exact absurd (digit.symm.trans noDigit) Bool.noConfusion

/-- Without a precedence a form is stable in two cases: a check stands behind a serial, or there is
no check and the section starts with no letter of a precedence. -/
theorem stable_iff_of_no_precedence (column : SerialColumn serial digits)
    (columns : CheckColumns check checkDigits) (found : SectionFound table code) :
    (SweepstakesParts.ofText (sweepstakesForm serial ' ' check code)).form table =
        sweepstakesForm serial ' ' check code ↔
      check ≠ Text.blanks 2 ∧ serial ≠ Text.blanks Serial.columnWidth ∨
      check = Text.blanks 2 ∧ ∀ first rest, code = first :: rest →
        precedenceLetters.contains first = false := by
  cases columns with
  | blank =>
      rw [stable_iff_of_no_check column found]
      constructor
      · exact fun other => Or.inr ⟨rfl, other⟩
      · rintro (⟨present, _⟩ | ⟨_, other⟩)
        · exact absurd rfl present
        · exact other
  | digits first second noBlank decimal =>
      have present : [first, second] ≠ Text.blanks 2 := by
        intro blank
        rw [(List.cons.inj blank).1] at noBlank
        exact absurd noBlank (by decide)
      cases column with
      | blank =>
          refine iff_of_false (moved_check found noBlank decimal) ?_
          rintro (⟨_, filled⟩ | ⟨blank, _⟩)
          · exact filled rfl
          · exact present blank
      | serial number isSerial =>
          refine iff_of_true (stable_of_serial isSerial found noBlank decimal) ?_
          exact Or.inl ⟨present, Serial.columnText_ne_blanks isSerial⟩

end Columns

/-- A Sweepstakes exchange in normal form reads as itself again in three cases: there is a
precedence; or a check behind a serial; or no check, and no section that starts with a letter of a
precedence. -/
theorem form_stable_iff (table : MultiplierTable) (text : Text) :
    (SweepstakesParts.ofText ((SweepstakesParts.ofText text).form table)).form table =
        (SweepstakesParts.ofText text).form table ↔
      (SweepstakesParts.ofText text).precedence.isSome = true ∨
      (SweepstakesParts.ofText text).checkColumns ≠ Text.blanks 2 ∧
        (SweepstakesParts.ofText text).serialColumn ≠ Text.blanks Serial.columnWidth ∨
      (SweepstakesParts.ofText text).checkColumns = Text.blanks 2 ∧
        ∀ first rest, (SweepstakesParts.ofText text).section? table = first :: rest →
          precedenceLetters.contains first = false := by
  rcases serialColumn_ofText text with ⟨digits, column⟩
  rcases checkColumns_ofText text with ⟨checkDigits, columns⟩
  have found := section?_ofText table text
  cases taken : (SweepstakesParts.ofText text).precedence with
  | some letter =>
      have known := precedence_ofText taken
      have written : (SweepstakesParts.ofText text).form table = sweepstakesForm
          (SweepstakesParts.ofText text).serialColumn letter
          (SweepstakesParts.ofText text).checkColumns
          ((SweepstakesParts.ofText text).section? table) := by
        rw [SweepstakesParts.form, taken, Option.getD_some]
      refine iff_of_true ?_ (Or.inl rfl)
      rw [written, ofText_of_precedence column columns found known]
      exact form_of_parts column columns found (some letter)
  | none =>
      have written : (SweepstakesParts.ofText text).form table = sweepstakesForm
          (SweepstakesParts.ofText text).serialColumn ' '
          (SweepstakesParts.ofText text).checkColumns
          ((SweepstakesParts.ofText text).section? table) := by
        rw [SweepstakesParts.form, taken, Option.getD_none]
      rw [written, stable_iff_of_no_precedence column columns found]
      simp only [Option.isSome_none, Bool.false_eq_true, false_or]

end Extraction

namespace Extractor

/-- The normal form of a serial and a section, and that of a Sweepstakes exchange, read as
themselves again under exact conditions.  The first must not be a section alone.  The second must
have a precedence; or a check behind a serial; or no check, and no section that starts with a letter
of a precedence. -/
theorem normalized_stable_iff {table : MultiplierTable}
    (codes : ∀ entry ∈ table.entries, IsSectionCode entry) (locatorCheck typing : Bool) (text : Text) :
    (text.length ≤ Literal.integerDigitLimit →
      (∀ character ∈ text, Text.isTypable character = true) →
      ∃ reading, (Extractor.mk .serialSection locatorCheck table .builtIn).extract typing text =
        .ok reading) ∧
    (∀ reading,
      (Extractor.mk .serialSection locatorCheck table .builtIn).extract typing text = .ok reading →
      ∃ again, (Extractor.mk .serialSection locatorCheck table .builtIn).extract typing
          reading.normalized = .ok again ∧
        (again.normalized = reading.normalized ↔
          reading.place = [] ∨ reading.serial ≠ Text.blanks Serial.columnWidth)) ∧
    ∃ reading again,
      (Extractor.mk .sweepstakes locatorCheck table .builtIn).extract typing text = .ok reading ∧
      (Extractor.mk .sweepstakes locatorCheck table .builtIn).extract typing reading.normalized =
        .ok again ∧
      (again.normalized = reading.normalized ↔
        (Extraction.SweepstakesParts.ofText text).precedence.isSome = true ∨
        (Extraction.SweepstakesParts.ofText text).checkColumns ≠ Text.blanks 2 ∧
          reading.serial ≠ Text.blanks Serial.columnWidth ∨
        (Extraction.SweepstakesParts.ofText text).checkColumns = Text.blanks 2 ∧
          ∀ first rest, reading.place = first :: rest →
            Extraction.precedenceLetters.contains first = false) := by
  refine ⟨fun short typable => ?_, fun reading read => ?_, ?_⟩
  · apply exists_extract
    intro _
    apply Extraction.readable_of_decimal _ short
    intro character member digit
    exact Text.isDecimal_of_isTypable (typable character member) digit
  · exact stable_iff_of_serialSection rfl rfl codes typing read
  · refine ⟨Extraction.ofSweepstakes table typing text, _, rfl, rfl, ?_⟩
    have serial : (Extraction.ofSweepstakes table typing text).serial =
        (Extraction.SweepstakesParts.ofText text).serialColumn := by
      cases typing <;> rfl
    have place : (Extraction.ofSweepstakes table typing text).place =
        (Extraction.SweepstakesParts.ofText text).section? table := by
      cases typing <;> rfl
    rw [Extraction.normalized_ofSweepstakes, Extraction.normalized_ofSweepstakes, serial, place]
    exact Extraction.form_stable_iff table text

/-- The normal form of a section behind a blank is that section, and reads as nothing.  The normal
form of a check behind a zero has blanks for the serial, and reads as the serial. -/
theorem normalized_not_stable_without_serial :
    (∀ entry ∈ [Text.ofString "CT"], IsSectionCode entry) ∧
      (∃ reading again,
        (Extractor.mk .serialSection false ⟨[Text.ofString "CT"]⟩ .builtIn).extract false
          (Text.ofString " CT") = .ok reading ∧
        (Extractor.mk .serialSection false ⟨[Text.ofString "CT"]⟩ .builtIn).extract false
          reading.normalized = .ok again ∧ again.normalized ≠ reading.normalized) ∧
      ∃ reading again,
        (Extractor.mk .sweepstakes false ⟨[Text.ofString "CT"]⟩ .builtIn).extract false
          (Text.ofString "0 05") = .ok reading ∧
        (Extractor.mk .sweepstakes false ⟨[Text.ofString "CT"]⟩ .builtIn).extract false
          reading.normalized = .ok again ∧ again.normalized ≠ reading.normalized := by
  have codes : ∀ entry ∈ [Text.ofString "CT"], IsSectionCode entry := by
    intro entry member
    rw [List.mem_singleton.mp member]
    exact ⟨by decide, List.all_eq_true.mp rfl⟩
  refine ⟨codes, ?_, ?_⟩
  · rcases (normalized_stable_iff codes false false (Text.ofString " CT")).2.1 _ rfl with
      ⟨again, read, stable⟩
    refine ⟨_, again, rfl, read, fun same => ?_⟩
    exact absurd (stable.mp same) (by decide)
  · rcases (normalized_stable_iff codes false false (Text.ofString "0 05")).2.2 with
      ⟨reading, again, read, readAgain, stable⟩
    refine ⟨reading, again, read, readAgain, fun same => ?_⟩
    cases read
    rcases stable.mp same with precedence | ⟨_, serial⟩ | ⟨check, _⟩
    · exact absurd precedence (by decide)
    · exact absurd rfl serial
    · exact absurd check (by decide)

end Extractor
end ContestExchange
