import ContestExchange.Proofs.DigitRun
import ContestExchange.Proofs.TypedSerial

namespace ContestExchange

/-!
# Serials and runs of digits

A serial should be a whole number of the text.  At the start of the text it is, and so it is under
the templates with a blank or a letter before their first figure, since the scan goes on to the last
digit.  The two templates of figures alone may lie inside a run.  They are as far right as they can
be, so they lie on its last digits: the template of four is there to keep the template of three from
cutting a number of four digits.  Nothing keeps the template of four from cutting a longer one.

Of a longer number the last four digits are read.  That is harmless if these are all zeros, because
a zero overrides nothing, or if the digits before them are.  In all other cases a serial is reported
that is not the number, unless the same serial happens to stand elsewhere in the text.
-/

namespace Serial

variable {text : Text}

/-! ## Rows of figures -/

/-- A typed text has a row of figures at the start of its line if it starts with as many digits. -/
theorem figures_isPrefix_marks_iff
    (typable : ∀ character ∈ text, Text.isTypable character = true) (count : Nat) :
    List.replicate count .figure <+: marks text ↔
      count ≤ (text.takeWhile Text.isDigit).length := by
  constructor
  · intro begins
    rcases kinds_take_of_isPrefix begins with covered | atBorder
    · rw [List.length_replicate] at covered
      have digits : ∀ character ∈ text.take count, Text.isDigit character = true := by
        intro character member
        have kind := List.mem_map_of_mem (f := Symbol.ofChar) member
        rw [covered] at kind
        exact Text.isDigit_of_isFigure (isFigure_of_ofChar (List.eq_of_mem_replicate kind))
      have size : (text.take count).length = count := by
        rw [← List.length_map (f := Symbol.ofChar), covered, List.length_replicate]
      have whole : (text.take count ++ text.drop count).takeWhile Text.isDigit =
          text.take count ++ (text.drop count).takeWhile Text.isDigit :=
        List.takeWhile_append_of_pos digits
      rw [List.take_append_drop] at whole
      rw [whole, List.length_append, size]
      exact Nat.le_add_right count _
    · have border : Symbol.undefined ∈ List.replicate count .figure := by
        rw [← atBorder]
        exact List.mem_append_right _ List.mem_cons_self
      cases List.eq_of_mem_replicate border
  · intro enough
    have shorter : List.replicate count Symbol.figure <+:
        List.replicate (text.takeWhile Text.isDigit).length .figure := by
      rw [List.prefix_replicate_iff, List.length_replicate]
      exact ⟨enough, rfl⟩
    exact shorter.trans (figures_isPrefix_marks typable)

/-- The last row of so many digits in a text: no digit follows it, and no such row stands behind. -/
structure LastRow (count : Nat) (text front row back : Text) : Prop where
  split : text = front ++ (row ++ back)
  size : row.length = count
  digits : ∀ character ∈ row, Text.isDigit character = true
  ends : back.takeWhile Text.isDigit = []
  last : ∀ run ∈ Text.runs back, run.length < count

section Cons

variable {count : Nat} {first : Char} {rest : Text}
  (short : ∀ run ∈ Text.runs rest, run.length < count)

include short

/-- One more digit makes the first run long enough for a row, but not too long. -/
theorem lastRow_of_cons (positive : 0 < count)
    (enough : count ≤ ((first :: rest).takeWhile Text.isDigit).length) :
    LastRow count (first :: rest) [] ((first :: rest).takeWhile Text.isDigit)
      ((first :: rest).dropWhile Text.isDigit) := by
  have few : (rest.takeWhile Text.isDigit).length < count := by
    by_cases present : rest.takeWhile Text.isDigit = []
    · rw [present]
      exact positive
    · exact short _ (Text.mem_runs_iff_takeWhile.mpr (Or.inl ⟨present, rfl⟩))
  have digit : Text.isDigit first = true := by
    by_contra other
    rw [List.takeWhile_cons, if_neg other] at enough
    exact Nat.not_lt_of_le enough positive
  refine ⟨List.takeWhile_append_dropWhile.symm, ?_, List.all_eq_true.mp List.all_takeWhile,
    Extraction.takeWhile_dropWhile _ _, ?_⟩
  · rw [List.takeWhile_cons, if_pos digit, List.length_cons] at enough ⊢
    omega
  · intro run member
    rw [List.dropWhile_cons, if_pos digit] at member
    exact short run (Text.mem_runs_iff_takeWhile.mpr (Or.inr member))

theorem length_lt_of_cons
    (few : ((first :: rest).takeWhile Text.isDigit).length < count) :
    ∀ run ∈ Text.runs (first :: rest), run.length < count := by
  intro run member
  by_cases digit : Text.isDigit first = true
  · rcases Text.mem_runs_iff_takeWhile.mp member with ⟨_, same⟩ | later
    · rw [same]
      exact few
    · rw [List.dropWhile_cons, if_pos digit] at later
      exact short run (Text.mem_runs_iff_takeWhile.mpr (Or.inr later))
  · rw [Text.runs_cons (Bool.eq_false_iff.mpr digit)] at member
    exact short run member

end Cons

/-- A template of figures alone lies on the last row of as many digits. -/
theorem lastOccurrence?_figures {count : Nat} (positive : 0 < count)
    (typable : ∀ character ∈ text, Text.isTypable character = true) :
    (lastOccurrence? (List.replicate count .figure) (marks text) = none ∧
        ∀ run ∈ Text.runs text, run.length < count) ∨
      ∃ front row back, LastRow count text front row back ∧
        lastOccurrence? (List.replicate count .figure) (marks text) = some front.length := by
  induction text with
  | nil =>
      left
      refine ⟨?_, nofun⟩
      cases count with
      | zero => cases positive
      | succ count => rfl
  | cons first rest inductionHypothesis =>
      have line : marks (first :: rest) = Symbol.ofChar first :: marks rest := rfl
      have later := inductionHypothesis fun character member =>
        typable character (List.mem_cons_of_mem first member)
      rcases later with ⟨nowhere, short⟩ | ⟨front, row, back, isLast, placed⟩
      · have starts := figures_isPrefix_marks_iff typable count
        rw [line] at starts ⊢
        rw [lastOccurrence?, nowhere]
        by_cases enough : count ≤ ((first :: rest).takeWhile Text.isDigit).length
        · right
          refine ⟨[], _, _, lastRow_of_cons short positive enough, ?_⟩
          exact if_pos (List.isPrefixOf_iff_prefix.mpr (starts.mpr enough))
        · left
          refine ⟨if_neg (mt List.isPrefixOf_iff_prefix.mp (mt starts.mp enough)), ?_⟩
          exact length_lt_of_cons short (Nat.lt_of_not_le enough)
      · right
        refine ⟨first :: front, row, back, ?_, ?_⟩
        · exact { isLast with split := congrArg (first :: ·) isLast.split }
        · rw [line, lastOccurrence?, placed]
          rfl

namespace LastRow

variable {count : Nat} {front row back : Text}

/-- The digits before a row belong to its run, and are digits of the text like those of the row. -/
theorem digits_of_run (isLast : LastRow count text front row back) :
    ∀ character ∈ front.rtakeWhile Text.isDigit ++ row,
      character ∈ text ∧ Text.isDigit character = true := by
  intro character member
  rw [isLast.split]
  rcases List.mem_append.mp member with inFront | inRow
  · refine ⟨List.mem_append_left _ ?_, List.mem_rtakeWhile_imp inFront⟩
    exact (List.rtakeWhile_suffix _ _).mem inFront
  · refine ⟨List.mem_append_right _ (List.mem_append_left _ inRow), ?_⟩
    exact isLast.digits character inRow

/-- The last row of so many digits is the end of the last run that has so many. -/
theorem lastRun? (isLast : LastRow count text front row back) (positive : 0 < count) :
    Text.lastRun? count text = some (front.rtakeWhile Text.isDigit ++ row) := by
  have split : text =
      front.rdropWhile Text.isDigit ++ ((front.rtakeWhile Text.isDigit ++ row) ++ back) := by
    rw [List.append_assoc, ← List.append_assoc, List.rdropWhile_append_rtakeWhile]
    exact isLast.split
  have before : (front.rdropWhile Text.isDigit).rtakeWhile Text.isDigit = [] := by
    rw [List.rtakeWhile, List.rdropWhile, List.reverse_reverse, Extraction.takeWhile_dropWhile]
    rfl
  have long : count ≤ (front.rtakeWhile Text.isDigit ++ row).length := by
    rw [List.length_append, isLast.size]
    exact Nat.le_add_left count _
  have present : front.rtakeWhile Text.isDigit ++ row ≠ [] :=
    List.ne_nil_of_length_pos (Nat.lt_of_lt_of_le positive long)
  have runs := Text.runs_split before present (fun character member =>
    (isLast.digits_of_run character member).2) isLast.ends
  rw [← split] at runs
  exact Text.lastRun?_of_split runs long isLast.last

end LastRow

/-! ## Numbers that are read -/

theorem eq_valueOf_of_leadingNumber {number : Nat} (read : leadingNumber text = .ok number) :
    number = Text.valueOf (leadingDigits text) := by
  simp only [leadingNumber] at read
  split at read
  · cases read
  · rw [Text.valueOf]
    cases spelled : Text.decimalsFrom 0 (leadingDigits text) with
    | none =>
        rw [spelled] at read
        cases read
    | some value =>
        rw [spelled] at read
        cases read
        rfl

/-- The number of the last so many digits of the last run that has them, zero if none has. -/
def lastFigures (count : Nat) (text : Text) : Nat :=
  match Text.lastRun? count text with
  | none => 0
  | some run => Text.valueOf run % 10 ^ count

section LastFigures

variable {count : Nat} {front row back : Text}
  (typable : ∀ character ∈ text, Text.isTypable character = true)

include typable

theorem LastRow.lastFigures (isLast : LastRow count text front row back) (positive : 0 < count) :
    lastFigures count text = Text.valueOf row := by
  have decimal : ∀ character ∈ front.rtakeWhile Text.isDigit ++ row,
      Text.isDecimal character = true := by
    intro character member
    rcases isLast.digits_of_run character member with ⟨inText, digit⟩
    exact Text.isDecimal_of_isTypable (typable character inText) digit
  have ending := Text.valueOf_append_mod decimal
  rw [isLast.size] at ending
  rw [Serial.lastFigures, isLast.lastRun? positive]
  exact ending

theorem LastRow.leadingNumber (isLast : LastRow count text front row back) (positive : 0 < count)
    (few : count ≤ Literal.integerDigitLimit) :
    leadingNumber (row ++ back) = .ok (Text.valueOf row) := by
  have present : row ≠ [] := List.ne_nil_of_length_pos (isLast.size ▸ positive)
  have digits : leadingDigits (row ++ back) = row :=
    leadingDigits_append present isLast.digits isLast.ends
  have readable : StartsReadably (row ++ back) := by
    rw [StartsReadably, digits, isLast.size]
    refine ⟨few, fun character member => ?_⟩
    rcases isLast.digits_of_run character (List.mem_append_right _ member) with ⟨inText, digit⟩
    exact Text.isDecimal_of_isTypable (typable character inText) digit
  rcases exists_leadingNumber readable with ⟨number, read⟩
  rw [read, eq_valueOf_of_leadingNumber read, digits]

/-- Under a template of figures alone the last figures of a run override a serial. -/
theorem serialUnder_figures (count : Nat) (positive : 0 < count)
    (few : count ≤ Literal.integerDigitLimit) (serial : Nat) :
    Extraction.serialUnder text (classify text) serial (List.replicate count .figure) =
      .ok (if Serial.lastFigures count text = 0 then serial
        else Serial.lastFigures count text) := by
  have pattern : List.replicate count Symbol.figure =
      .figure :: List.replicate (count - 1) .figure := by
    rw [← List.replicate_succ, Nat.sub_add_cancel positive]
  have placed : locate (classify text) (List.replicate count .figure) =
      (lastOccurrence? (List.replicate count .figure) (marks text)).map (· + 1) := by
    have bordered : startsIn (.figure :: List.replicate (count - 1) .figure) [.undefined]
        (marks text) = false := startsIn_of_head (by decide)
    rw [pattern]
    exact locate_append (List.cons_ne_nil _ _) bordered
  rcases lastOccurrence?_figures positive typable with
    ⟨nowhere, short⟩ | ⟨front, row, back, isLast, there⟩
  · rw [nowhere] at placed
    rw [serialUnder_of_absent placed, Serial.lastFigures, Text.lastRun?_eq_none_iff.mpr short]
    rfl
  · rw [there] at placed
    have place : Extraction.numberPlace (front.length + 1) (List.replicate count .figure) =
        front.length := by
      rw [numberPlace_eq, firstFigure, pattern, List.findIdx?_cons, beq_self_eq_true, if_pos rfl,
        Option.getD_some, textIndex]
      omega
    have behind : text.drop front.length = row ++ back := by
      rw [isLast.split, List.drop_left]
    rw [Extraction.serialUnder, placed, isLast.lastFigures typable positive]
    simp only [Option.map_some, place, behind, isLast.leadingNumber typable positive few]

end LastFigures

/-! ## Numbers that are whole -/

/-- Whether a number is that of a run of digits, or zero. -/
def IsRunOrZero (text : Text) (number : Nat) : Prop :=
  number = 0 ∨ ∃ run ∈ Text.runs text, number = Text.valueOf run

/-- A number that is read behind anything but a digit is that of a run. -/
theorem isRunOrZero_of_leadingNumber {front back : Text} {number : Nat}
    (before : front.rtakeWhile Text.isDigit = []) (read : leadingNumber back = .ok number) :
    IsRunOrZero (front ++ back) number := by
  rw [eq_valueOf_of_leadingNumber read]
  by_cases present : leadingDigits back = []
  · left
    rw [present]
    rfl
  · right
    refine ⟨leadingDigits back, ?_, rfl⟩
    rw [Text.mem_runs_iff]
    refine ⟨present, fun character member => (mem_of_mem_leadingDigits member).2,
      front ++ back.takeWhile (· == ' '), (back.dropWhile (· == ' ')).dropWhile Text.isDigit, ?_,
      Text.rtakeWhile_append before ?_, Extraction.takeWhile_dropWhile _ _⟩
    · rw [leadingDigits, List.takeWhile_append_dropWhile, List.append_assoc,
        List.takeWhile_append_dropWhile]
    · rw [List.eq_nil_iff_forall_not_mem]
      intro character member
      have digit := List.mem_rtakeWhile_imp member
      have blank := List.mem_takeWhile_imp ((List.rtakeWhile_suffix _ _).mem member)
      rw [beq_iff_eq.mp blank] at digit
      exact absurd digit (by decide)

/-- The kinds that a short template asks for in front of its first figure. -/
def leadKinds : List Symbol := [.blank, .letter]

theorem shortPlaces_cases : ∀ template ∈ shortPlaces, firstFigure template = 1 ∧
    ∃ kind ∈ leadKinds, template.head? = some kind := by
  decide

theorem isDigit_of_leadKinds {character : Char} (kind : Symbol.ofChar character ∈ leadKinds) :
    Text.isDigit character = false := by
  rw [Bool.eq_false_iff]
  intro digit
  rcases ofChar_of_isDigit digit with figure | undefined
  · rw [figure] at kind
    exact absurd kind (by decide)
  · rw [undefined] at kind
    exact absurd kind (by decide)

/-- A kind on the line that is not the border's is that of a character. -/
theorem exists_of_marks {place : Nat} {kind : Symbol} (found : (marks text)[place]? = some kind)
    (known : kind ≠ .undefined) : ∃ character, text[place]? = some character ∧
      Symbol.ofChar character = kind := by
  rw [marks, List.getElem?_append] at found
  split at found
  · rw [List.getElem?_map] at found
    exact Option.map_eq_some_iff.mp found
  · rw [List.getElem?_singleton] at found
    split at found
    · cases found
      exact absurd rfl known
    · cases found

/-- No digit stands before the number under a short template. -/
theorem rtakeWhile_of_locate {template : Template} (member : template ∈ shortPlaces) {offset : Nat}
    (found : locate (classify text) template = some offset) :
    (text.take (Extraction.numberPlace offset template)).rtakeWhile Text.isDigit = [] := by
  rcases shortPlaces_cases template member with ⟨second, kind, isLead, starts⟩
  have place : Extraction.numberPlace offset template = offset := by
    rw [numberPlace_eq, second, textIndex]
    omega
  rw [place]
  cases offset with
  | zero => rfl
  | succ before =>
      rcases (locate_eq_some_iff.mp found).2.starts with ⟨rest, same⟩
      have there : (marks text)[before]? = some kind := by
        have first := congrArg List.head? same
        rw [List.head?_append, starts, List.head?_drop] at first
        exact first.symm
      have known : kind ≠ .undefined := by
        intro border
        rw [border] at isLead
        exact absurd isLead (by decide)
      rcases exists_of_marks there known with ⟨character, here, ofKind⟩
      rw [← ofKind] at isLead
      rw [List.take_add_one, here]
      exact List.rtakeWhile_concat_neg _ _ _ (Bool.eq_false_iff.mp (isDigit_of_leadKinds isLead))

/-! ## The serial of a text -/

section WholeSerial

variable {serial number : Nat}

/-- A short template keeps to whole numbers. -/
theorem isRunOrZero_of_serialUnder {template : Template} (member : template ∈ shortPlaces)
    (whole : IsRunOrZero text serial)
    (under : Extraction.serialUnder text (classify text) serial template = .ok number) :
    IsRunOrZero text number := by
  rw [Extraction.serialUnder] at under
  cases found : locate (classify text) template with
  | none =>
      rw [found] at under
      cases under
      exact whole
  | some offset =>
      rw [found] at under
      dsimp only at under
      have before := rtakeWhile_of_locate member found
      split at under
      · cases under
      · rename_i value read
        have here := isRunOrZero_of_leadingNumber before read
        rw [List.take_append_drop] at here
        cases under
        split
        · exact whole
        · exact here

theorem isRunOrZero_of_serialFrom {templates : List Template}
    (short : ∀ template ∈ templates, template ∈ shortPlaces) (whole : IsRunOrZero text serial)
    (found : Extraction.serialFrom text (classify text) serial templates = .ok number) :
    IsRunOrZero text number := by
  induction templates generalizing serial with
  | nil =>
      cases found
      exact whole
  | cons template rest inductionHypothesis =>
      rw [Extraction.serialFrom] at found
      split at found
      · cases found
      · rename_i next under
        have later := fun other member => short other (List.mem_cons_of_mem template member)
        have here := isRunOrZero_of_serialUnder (short template List.mem_cons_self) whole under
        exact inductionHypothesis later here found

/-- The last four digits of a run override the last three, and these override whole numbers. -/
theorem serialOf_cases (typable : ∀ character ∈ text, Text.isTypable character = true)
    (found : serialOf text = .ok number) :
    ∃ whole, IsRunOrZero text whole ∧
      number = if lastFigures 4 text = 0 then
          if lastFigures 3 text = 0 then whole else lastFigures 3 text
        else lastFigures 4 text := by
  rw [serialOf, Extraction.findSerial] at found
  split at found
  · cases found
  · rename_i lead read
    have start : IsRunOrZero ([] ++ text) lead := isRunOrZero_of_leadingNumber rfl read
    have three (serial : Nat) :
        Extraction.serialUnder text (classify text) serial threeFigures =
          .ok (if lastFigures 3 text = 0 then serial else lastFigures 3 text) :=
      serialUnder_figures typable 3 (by decide) (by decide) serial
    have four (serial : Nat) :
        Extraction.serialUnder text (classify text) serial (.figure :: threeFigures) =
          .ok (if lastFigures 4 text = 0 then serial else lastFigures 4 text) :=
      serialUnder_figures typable 4 (by decide) (by decide) serial
    rw [serialPlaces_eq, serialFrom_append] at found
    split at found
    · cases found
    · rename_i whole short
      refine ⟨whole, isRunOrZero_of_serialFrom (fun _ member => member) start short, ?_⟩
      simp only [Extraction.serialFrom, three, four] at found
      exact (Except.ok.inj found).symm

/-- The last three digits are a whole number, unless the last four have overridden them. -/
theorem isRunOrZero_of_lastFigures (zero : lastFigures 4 text = 0) :
    IsRunOrZero text (lastFigures 3 text) := by
  rw [lastFigures] at zero ⊢
  cases last : Text.lastRun? 3 text with
  | none => exact Or.inl rfl
  | some run =>
      rcases Text.mem_of_lastRun? last with ⟨member, three⟩
      by_cases four : 4 ≤ run.length
      · left
        rw [Text.lastRun?_of_le last (by decide) four] at zero
        dsimp only at zero ⊢
        omega
      · right
        have size : run.length = 3 := by omega
        have small := Text.valueOf_lt run
        rw [size] at small
        exact ⟨run, member, Nat.mod_eq_of_lt small⟩

/-- Whether the last long run is too large a number whose last four digits are read as a serial, and
no run of the text is that serial. -/
def CutsDown (text : Text) : Prop :=
  ∃ long, Text.lastRun? 4 text = some long ∧ 9999 < Text.valueOf long ∧
    Text.valueOf long % 10000 ≠ 0 ∧
    ∀ run ∈ Text.runs text, Text.valueOf run ≠ Text.valueOf long % 10000

theorem lastFigures_of_lastRun? {count : Nat} {run : Text}
    (last : Text.lastRun? count text = some run) :
    lastFigures count text = Text.valueOf run % 10 ^ count := by
  rw [lastFigures, last]

/-- A serial is a whole number of the text if and only if it is not cut out of a larger one. -/
theorem exists_run_iff (typable : ∀ character ∈ text, Text.isTypable character = true)
    (found : serialOf text = .ok number) (positive : 0 < number) :
    (∃ run ∈ Text.runs text, Text.valueOf run = number) ↔ ¬ CutsDown text := by
  rcases serialOf_cases typable found with ⟨whole, isWhole, value⟩
  by_cases zero : lastFigures 4 text = 0
  · rw [if_pos zero] at value
    have isRun : IsRunOrZero text number := by
      rw [value]
      split
      · exact isWhole
      · exact isRunOrZero_of_lastFigures zero
    refine iff_of_true ?_ ?_
    · rcases isRun with none | ⟨run, member, same⟩
      · omega
      · exact ⟨run, member, same.symm⟩
    · rintro ⟨long, last, _, nonzero, _⟩
      rw [lastFigures_of_lastRun? last] at zero
      exact nonzero zero
  · rw [if_neg zero] at value
    cases last : Text.lastRun? 4 text with
    | none =>
        rw [lastFigures, last] at zero
        exact absurd rfl zero
    | some long =>
        rw [lastFigures_of_lastRun? last] at value
        constructor
        · rintro ⟨run, member, same⟩ ⟨other, lastOther, _, _, none⟩
          cases last.symm.trans lastOther
          exact none run member (same.trans value)
        · intro kept
          by_cases large : 9999 < Text.valueOf long
          · by_contra none
            refine kept ⟨long, last, large, ?_, ?_⟩
            · omega
            · intro run member same
              exact none ⟨run, member, same.trans value.symm⟩
          · refine ⟨long, (Text.mem_of_lastRun? last).1, ?_⟩
            omega

end WholeSerial

end Serial

namespace Extractor

/-- A serial that is reported for a typed text is a whole number of it, in the range of serials,
unless the last run of four or more digits is a larger number and is cut down to its last four
digits.  These are reported whatever stands before them. -/
theorem serial_whole_iff {extractor : Extractor} (builtIn : extractor.templates = .builtIn)
    (scans : extractor.strategy.scansNumber = true) {text : Text}
    (typable : ∀ character ∈ text, Text.isTypable character = true) {typing : Bool}
    {reading : Extraction} (read : extractor.extract typing text = .ok reading)
    (reported : reading.serial ≠ Text.blanks Serial.columnWidth) :
    ((∃ run ∈ Text.runs text, 1 ≤ Text.valueOf run ∧ Text.valueOf run ≤ 9999 ∧
        reading.serial = Serial.columnText (Text.valueOf run)) ↔ ¬ Serial.CutsDown text) ∧
      ∀ long, Text.lastRun? 4 text = some long → Text.valueOf long % 10000 ≠ 0 →
        reading.serial = Serial.columnText ((Text.valueOf long % 10000 : Nat) : Int) := by
  rw [extract_of_scansNumber builtIn scans] at read
  cases found : Serial.serialOf text with
  | error fault =>
      rw [found] at read
      cases read
  | ok number =>
      rw [found] at read
      cases read
      rw [serial_readNumbered] at reported ⊢
      have serial : 0 < number ∧ number ≤ 9999 := by
        by_contra other
        exact reported (Serial.columnText_of_no_serial other)
      constructor
      · rw [← Serial.exists_run_iff typable found serial.1]
        constructor
        · rintro ⟨run, member, low, high, same⟩
          exact ⟨run, member, (Serial.eq_of_columnText ⟨low, high⟩ same).symm⟩
        · rintro ⟨run, member, same⟩
          rw [← same] at serial ⊢
          exact ⟨run, member, serial.1, serial.2, rfl⟩
      · intro long last nonzero
        rcases Serial.serialOf_cases typable found with ⟨_, _, value⟩
        rw [Serial.lastFigures_of_lastRun? last] at value
        have cut : number = Text.valueOf long % 10000 := value.trans (if_neg nonzero)
        rw [cut]

/-- The serial 2345 is cut out of the number 12345. -/
theorem serial_whole_iff_of_long_number :
    ∃ reading, (Extractor.mk .serial false .empty .builtIn).extract false
        (Text.ofString "12345") = .ok reading ∧
      reading.serial = Text.ofString "2345" ∧
      Serial.CutsDown (Text.ofString "12345") ∧
      ¬ ∃ run ∈ Text.runs (Text.ofString "12345"), 1 ≤ Text.valueOf run ∧
        Text.valueOf run ≤ 9999 ∧ reading.serial = Serial.columnText (Text.valueOf run) := by
  have reads : ∃ reading, (Extractor.mk .serial false .empty .builtIn).extract false
      (Text.ofString "12345") = .ok reading := ⟨_, rfl⟩
  rcases reads with ⟨reading, read⟩
  have serial : reading.serial = Text.ofString "2345" := by
    cases read
    rfl
  have reported : reading.serial ≠ Text.blanks Serial.columnWidth := by
    rw [serial]
    decide
  have typable : ∀ character ∈ Text.ofString "12345", Text.isTypable character = true :=
    List.all_eq_true.mp rfl
  have cut : Serial.CutsDown (Text.ofString "12345") :=
    ⟨Text.ofString "12345", by decide, by decide, by decide, by decide⟩
  have whole := (@serial_whole_iff ⟨.serial, false, .empty, .builtIn⟩ rfl rfl _ typable _ _ read
    reported).1
  exact ⟨reading, read, serial, cut, fun isWhole => whole.mp isWhole cut⟩

end Extractor
end ContestExchange
