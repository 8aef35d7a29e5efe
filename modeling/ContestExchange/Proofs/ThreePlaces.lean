import ContestExchange.Proofs.SerialPadding

namespace ContestExchange
namespace Serial

/-!
# Three places

The zeros that are put in front of a serial belong to it from then on.  So a padded serial lacks
nothing, and padding it once more changes nothing, whichever way it is padded.  The same zeros do
not count for the number that the digits spell: what could be read before padding is the same number
behind it, and what could not be read still cannot.
-/

theorem missing_le_two (padding : Padding) {text : Text} (starts : StartsWithDigit text) :
    missing padding text ≤ 2 := by
  rcases starts with ⟨first, rest, split, digit⟩
  unfold missing
  cases seen : serialSeen? padding text with
  | none => exact Nat.zero_le 2
  | some serial =>
      rw [split] at seen
      have present := serialSeen?_ne_nil (ne_blank_of_isDigit digit) seen
      have some := List.length_pos_iff.mpr present
      show 3 - serial.length ≤ 2
      omega

/-- Zeros in front of a text are zeros in front of its serial. -/
theorem serialSeen?_zeros (padding : Padding) (count : Nat) (text : Text) :
    serialSeen? padding (List.replicate count '0' ++ text) =
      (serialSeen? padding text).map (List.replicate count '0' ++ ·) := by
  have before : Text.before ' ' (List.replicate count '0' ++ text) =
      List.replicate count '0' ++ Text.before ' ' text := by
    apply List.takeWhile_append_of_pos
    intro character member
    rw [List.eq_of_mem_replicate member]
    rfl
  cases padding with
  | none => rfl
  | length => rfl
  | wpx => exact congrArg some before
  | compressed =>
      have blanks : ' ' ∈ List.replicate count '0' ++ text ↔ ' ' ∈ text := by
        rw [List.mem_append, or_iff_right]
        intro member
        cases List.eq_of_mem_replicate member
      simp only [serialSeen?, blanks, before]
      split
      · rfl
      · rfl

theorem missing_padded (padding : Padding) (text : Text) :
    missing padding (List.replicate (missing padding text) '0' ++ text) = 0 := by
  rw [missing, serialSeen?_zeros, missing]
  cases serialSeen? padding text with
  | none => rfl
  | some serial =>
      simp only [Option.map_some, List.length_append, List.length_replicate]
      omega

theorem pad_of_missing_eq_zero {padding : Padding} {text : Text}
    (enough : missing padding text = 0) (width : Option Int) : pad padding width text = text := by
  rcases pad_eq padding width text with ⟨_, _, padded⟩ | ⟨_, same⟩
  · rw [padded, enough]
    rfl
  · exact same

/-- Padding a second time changes nothing. -/
theorem pad_pad (padding : Padding) (width : Option Int) (text : Text) :
    pad padding width (pad padding width text) = pad padding width text := by
  rcases pad_eq padding width text with ⟨_, _, longer⟩ | ⟨_, same⟩
  · rw [longer]
    exact pad_of_missing_eq_zero (missing_padded padding text) width
  · rw [same, same]

/-- Padding makes something of no text but one that was something before. -/
theorem pad_eq_nil_iff (padding : Padding) (width : Option Int) (text : Text) :
    pad padding width text = [] ↔ text = [] := by
  rcases pad_eq padding width text with ⟨⟨first, rest, starts, _⟩, _, longer⟩ | ⟨_, same⟩
  · rw [longer, List.append_eq_nil_iff, starts]
    exact iff_of_false (fun given => nomatch given.2) nofun
  · rw [same]

theorem leadingNumber_pad (padding : Padding) (width : Option Int) (text : Text) :
    leadingNumber (pad padding width text) = leadingNumber text := by
  rcases pad_cases padding width text with same | ⟨zeros, first, rest, split, digit, leads, longer⟩
  · rw [same]
  · rw [longer]
    exact Padded.leadingNumber ⟨leads, first, rest, split, digit⟩

/-- Padding, by whatever name it is asked for, puts two zeros at most in front of a text: those that
its serial lacks, if the text starts with a digit and all of them fit.  Padding again changes
nothing, and the number at the start is read or refused as before. -/
theorem pad_puts_zeros (mode : Text) (width : Option Int) (text : Text) :
    let padding := (Padding.named? mode).getD .none
    let padded := pad padding width text
    (∃ count ≤ 2, padded = List.replicate count '0' ++ text ∧
        (0 < count → StartsWithDigit text ∧
          ∀ limit, width = some limit → (padded.length : Int) ≤ limit) ∧
        (StartsWithDigit text ∧ HasRoom padding width text → count = missing padding text)) ∧
      pad padding width padded = padded ∧
      leadingNumber padded = leadingNumber text := by
  intro padding padded
  refine ⟨?_, ?_, leadingNumber_pad padding width text⟩
  · rcases pad_eq padding width text with ⟨starts, room, longer⟩ | ⟨refused, same⟩
    · have size : (pad padding width text).length = missing padding text + text.length := by
        rw [longer, List.length_append, List.length_replicate]
      refine ⟨missing padding text, missing_le_two padding starts, longer, ?_, fun _ => rfl⟩
      intro _
      refine ⟨starts, fun limit given => ?_⟩
      show ((pad padding width text).length : Int) ≤ limit
      rw [size]
      exact room limit given
    · refine ⟨0, Nat.zero_le 2, same, ?_, fun padsIt => absurd padsIt refused⟩
      intro positive
      exact absurd positive (Nat.lt_irrefl 0)
  · rcases pad_eq padding width text with ⟨_, _, longer⟩ | ⟨_, same⟩
    · show pad padding width (pad padding width text) = pad padding width text
      rw [longer]
      exact pad_of_missing_eq_zero (missing_padded padding text) width
    · show pad padding width (pad padding width text) = pad padding width text
      rw [same, same]

end Serial
end ContestExchange
