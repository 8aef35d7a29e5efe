import Mathlib.Algebra.Group.Nat.Defs
import ContestExchange.Proofs.Padding
import ContestExchange.Proofs.Readability

namespace ContestExchange

/-!
# Serial numbers read back

A serial number is written with leading zeros in the normal form of an exchange, and behind blanks
in its column.  Neither hides it: scanning what was written gives the number again, or zero where
the number was no serial and nothing was written.  Two numbers with the same text are therefore the
same serial.
-/

namespace Text

/-! ## Figures -/

theorem isDecimal_of_isFigure {character : Char} (figure : isFigure character = true) :
    isDecimal character = true :=
  of_isFigure (fun character => isDecimal character = true) (by decide) figure

theorem isDigit_of_isFigure {character : Char} (figure : isFigure character = true) :
    isDigit character = true := by
  rw [isDigit, isDecimal_of_isFigure figure, Bool.true_or]

theorem decimalValue?_digitChar {digit : Nat} (small : digit < 10) :
    decimalValue? digit.digitChar = some digit := by
  have digits : ∀ digit < 10, decimalValue? (Nat.digitChar digit) = some digit := by decide
  exact digits digit small

theorem decimalsFrom_append (value : Nat) (front back : Text) :
    decimalsFrom value (front ++ back) =
      (decimalsFrom value front).bind fun number => decimalsFrom number back := by
  induction front generalizing value with
  | nil => rfl
  | cons character rest inductionHypothesis =>
      simp only [List.cons_append, decimalsFrom]
      cases decimalValue? character with
      | none => rfl
      | some digit => exact inductionHypothesis (10 * value + digit)

/-- The digits of a number spell it. -/
theorem decimalsFrom_natText (number : Nat) :
    decimalsFrom 0 (Decimal.natText number) = some number := by
  induction number using Nat.strongRecOn with
  | ind number inductionHypothesis =>
      unfold Decimal.natText at inductionHypothesis ⊢
      rw [Nat.toDigits_eq_if (by decide)]
      split
      · rename_i small
        simp only [decimalsFrom, decimalValue?_digitChar small, Nat.mul_zero, Nat.zero_add]
      · rename_i large
        have last : number % 10 < 10 := Nat.mod_lt number (by decide)
        have shorter : number / 10 < number := by omega
        rw [decimalsFrom_append, inductionHypothesis (number / 10) shorter]
        simp only [Option.bind_some, decimalsFrom, decimalValue?_digitChar last, Option.some.injEq]
        omega

theorem decimalsFrom_zeros (count : Nat) (digits : Text) :
    decimalsFrom 0 (List.replicate count '0' ++ digits) = decimalsFrom 0 digits := by
  induction count with
  | zero => rfl
  | succ count inductionHypothesis => exact inductionHypothesis

theorem lt_of_decimalValue? {character : Char} {digit : Nat}
    (found : decimalValue? character = some digit) : digit < 10 := by
  simp only [decimalValue?] at found
  split at found
  · split at found
    · simp only [Option.some.injEq] at found
      omega
    · cases found
  · rcases Option.map_eq_some_iff.mp found with ⟨origin, listed, same⟩
    have inRow := List.find?_some listed
    simp only [Bool.and_eq_true, decide_eq_true_eq] at inRow
    omega

theorem lt_of_decimalsFrom {digits : Text} {value number : Nat}
    (spelled : decimalsFrom value digits = some number) :
    number < (value + 1) * 10 ^ digits.length := by
  induction digits generalizing value with
  | nil =>
      cases spelled
      simp
  | cons character rest inductionHypothesis =>
      cases found : decimalValue? character with
      | none =>
          simp only [decimalsFrom, found] at spelled
          cases spelled
      | some digit =>
          simp only [decimalsFrom, found] at spelled
          have small := lt_of_decimalValue? found
          calc
            number < (10 * value + digit + 1) * 10 ^ rest.length := inductionHypothesis spelled
            _ ≤ (value + 1) * 10 * 10 ^ rest.length := Nat.mul_le_mul_right _ (by omega)
            _ = (value + 1) * 10 ^ (character :: rest).length := by
              rw [List.length_cons, Nat.pow_succ, Nat.mul_assoc, Nat.mul_comm 10]

theorem isFigure_of_mem_natText {number : Nat} {character : Char}
    (member : character ∈ Decimal.natText number) : isFigure character = true := by
  have digit := Nat.isDigit_of_mem_toDigits (by decide) (by decide) member
  simp only [Char.isDigit, Bool.and_eq_true, decide_eq_true_eq] at digit
  simp only [isFigure, Bool.and_eq_true, decide_eq_true_eq]
  exact digit

/-- A serial number has four digits at most. -/
theorem length_natText_le {number : Nat} (small : number ≤ 9999) :
    (Decimal.natText number).length ≤ 4 :=
  (Nat.length_toDigits_le_iff (by decide) (by decide)).mpr (by omega)

end Text

namespace Serial

/-! ## Numbers in their columns -/

/-- The number as far as it is written: only a serial number is. -/
def written (number : Nat) : Nat := if 0 < number ∧ number ≤ 9999 then number else 0

theorem normalText_of_serial {number : Nat} (serial : 0 < number ∧ number ≤ 9999) :
    normalText number = Text.zeroFill 3 (Decimal.natText number) := by
  have inRange : 0 < (number : Int) ∧ (number : Int) ≤ 9999 := by omega
  rw [normalText, if_pos inRange]
  rfl

theorem normalText_of_no_serial {number : Nat} (other : ¬ (0 < number ∧ number ≤ 9999)) :
    normalText number = [] := by
  have outOfRange : ¬ (0 < (number : Int) ∧ (number : Int) ≤ 9999) := by omega
  rw [normalText, if_neg outOfRange]

theorem columnText_of_serial {number : Nat} (serial : 0 < number ∧ number ≤ 9999) :
    columnText number = Text.alignRight columnWidth (Decimal.natText number) := by
  have inRange : 0 < (number : Int) ∧ (number : Int) ≤ 9999 := by omega
  rw [columnText, if_pos inRange]
  rfl

theorem columnText_of_no_serial {number : Nat} (other : ¬ (0 < number ∧ number ≤ 9999)) :
    columnText number = Text.blanks columnWidth := by
  have outOfRange : ¬ (0 < (number : Int) ∧ (number : Int) ≤ 9999) := by omega
  rw [columnText, if_neg outOfRange]

theorem leadingDigits_blanks (count : Nat) (text : Text) :
    leadingDigits (Text.blanks count ++ text) = leadingDigits text := by
  induction count with
  | zero => rfl
  | succ count inductionHypothesis => exact inductionHypothesis

/-- Digits at the start of a text are all of its leading digits, if no digit follows them. -/
theorem leadingDigits_append {digits ending : Text} (present : digits ≠ [])
    (digit : ∀ character ∈ digits, Text.isDigit character = true)
    (ends : ending.takeWhile Text.isDigit = []) : leadingDigits (digits ++ ending) = digits := by
  have noBlanks : (digits ++ ending).dropWhile (· == ' ') = digits ++ ending := by
    cases digits with
    | nil => exact absurd rfl present
    | cons first rest =>
        have noBlank := ne_blank_of_isDigit (digit first List.mem_cons_self)
        rw [List.cons_append, List.dropWhile_cons,
          if_neg (fun blank => noBlank (beq_iff_eq.mp blank))]
  rw [leadingDigits, noBlanks, List.takeWhile_append_of_pos digit, ends, List.append_nil]

theorem leadingDigits_natText (number : Nat) :
    leadingDigits (Decimal.natText number) = Decimal.natText number := by
  have digit : ∀ character ∈ Decimal.natText number, Text.isDigit character = true :=
    fun _ member => Text.isDigit_of_isFigure (Text.isFigure_of_mem_natText member)
  have digits := leadingDigits_append Nat.toDigits_ne_nil digit List.takeWhile_nil
  rw [List.append_nil] at digits
  exact digits

theorem lt_of_leadingNumber {text : Text} {number : Nat}
    (read : leadingNumber text = .ok number) : number < 10 ^ (leadingDigits text).length := by
  simp only [leadingNumber] at read
  split at read
  · cases read
  · cases spelled : Text.decimalsFrom 0 (leadingDigits text) with
    | none =>
        rw [spelled] at read
        cases read
    | some value =>
        rw [spelled] at read
        cases read
        have bound := Text.lt_of_decimalsFrom spelled
        rw [Nat.zero_add, Nat.one_mul] at bound
        exact bound

theorem leadingNumber_of_digits {text : Text} {number : Nat}
    (short : (leadingDigits text).length ≤ Literal.integerDigitLimit)
    (spelled : Text.decimalsFrom 0 (leadingDigits text) = some number) :
    leadingNumber text = .ok number := by
  simp only [leadingNumber, if_neg (Nat.not_lt_of_le short), spelled]

/-- What stands in the column of a serial number is the number as it was written. -/
theorem leadingNumber_columnText (number : Nat) :
    leadingNumber (columnText number) = .ok (written number) := by
  by_cases serial : 0 < number ∧ number ≤ 9999
  · rw [columnText_of_serial serial, written, if_pos serial, Text.alignRight]
    apply leadingNumber_of_digits
    · rw [leadingDigits_blanks, leadingDigits_natText]
      exact Nat.le_trans (Text.length_natText_le serial.2) (by decide)
    · rw [leadingDigits_blanks, leadingDigits_natText]
      exact Text.decimalsFrom_natText number
  · rw [columnText_of_no_serial serial, written, if_neg serial]
    rfl

theorem columnText_inj {left right : Nat} (same : columnText left = columnText right) :
    written left = written right := by
  have numbers := congrArg leadingNumber same
  rw [leadingNumber_columnText, leadingNumber_columnText] at numbers
  exact Except.ok.inj numbers

/-- A serial number shares its column text with no other number. -/
theorem eq_of_columnText {number serial : Nat} (isSerial : 0 < serial ∧ serial ≤ 9999)
    (same : columnText number = columnText serial) : number = serial := by
  have numbers := columnText_inj same
  unfold written at numbers
  rw [if_pos isSerial] at numbers
  split at numbers
  · exact numbers
  · omega

theorem columnText_ne_blanks {serial : Nat} (isSerial : 0 < serial ∧ serial ≤ 9999) :
    columnText serial ≠ Text.blanks columnWidth := by
  intro blank
  have none : columnText (0 : Nat) = Text.blanks columnWidth := columnText_of_no_serial (by omega)
  have zero := eq_of_columnText isSerial (none.trans blank.symm)
  omega

end Serial
end ContestExchange
