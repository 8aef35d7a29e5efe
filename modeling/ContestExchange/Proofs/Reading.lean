import ContestExchange.Extraction.Extractor

namespace ContestExchange

/-!
# Reading is one function of the text

An exchange is read in two ways: with the fields to show while it is being typed, and without them
when it is completed.  Both readings fail together and agree in everything but the fields to show,
so what is known about the one is known about the other.  The reading without them is the one that a
stored reading is compared with.
-/

namespace Extractor

/-- Reading while typing only adds the fields to show to what is read on completion. -/
theorem map_silent_extract (extractor : Extractor) (typing : Bool) (text : Text) :
    (extractor.extract typing text).map Extraction.silent = extractor.extract false text := by
  unfold extract
  split
  case h_1 => rfl
  case h_2 =>
    unfold readSerial
    split <;> rfl
  case h_3 =>
    unfold readSerialSection
    split
    · rfl
    · cases typing <;> rfl
  all_goals cases typing <;> rfl

/-- A reading while typing succeeds with the reading on completion, and is that reading but for the
fields to show. -/
theorem extract_false_of_extract {extractor : Extractor} {typing : Bool} {text : Text}
    {reading : Extraction} (read : extractor.extract typing text = .ok reading) :
    extractor.extract false text = .ok reading.silent := by
  rw [← extractor.map_silent_extract typing text, read]
  rfl

/-- What is read on completion has no fields to show. -/
theorem silent_of_extract_false {extractor : Extractor} {text : Text} {reading : Extraction}
    (read : extractor.extract false text = .ok reading) : reading.silent = reading :=
  Except.ok.inj ((extract_false_of_extract read).symm.trans read)

end Extractor
end ContestExchange
