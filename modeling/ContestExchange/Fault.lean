import ContestExchange.Number.Decimal

namespace ContestExchange

/-!
# What can go wrong

Most oddities of an exchange are no faults: an unreadable part is simply empty.  What remains are
the causes below.  Only the two refusals of an exchange line carry a message of their own; the
others are told apart by their cause alone.

A number is unreadable when nothing spells it, and so is one that has too many digits to be read or to
be written out.  A value is of the wrong kind for an operation, or without the parts that it is asked
for.  What is looked for among files may be absent, not permitted, or unreachable for any other reason
of the system.
-/

/-- The cause for which an operation gives no result. -/
inductive Fault where
  | unreadableNumber
  | wrongKind
  | withoutParts
  | outOfRange
  | tooLarge
  | divisionByZero
  | tooDeep
  | missingFile
  | folderInstead
  | fileInstead
  | notAFolder
  | unusableName
  | nameTooLong
  | notPermitted
  | unreachable
  | undecodable
  | malformed
  | outOfMemory
  | endOfInput
  | queueFull
  | startedBefore
  | widthNotPositive (width : Int)
  | doesNotFit (text : Text) (width : Int)
deriving DecidableEq

namespace Fault

/-- The message of a fault that has one, unless the width in it has too many digits for that. -/
def message? : Fault → Option Text
  | .widthNotPositive width =>
      (Decimal.intText? width).map fun digits =>
        Text.ofString "exchange width must be positive, got " ++ digits
  | .doesNotFit text width =>
      (Decimal.intText? width).map fun digits =>
        '\'' :: text ++ Text.ofString "' does not fit into " ++ digits ++
          Text.ofString " characters"
  | _ => none

/-- Whether a fault of looking something up only says that there is no such thing. -/
def isAbsence : Fault → Bool
  | .missingFile | .notAFolder | .unusableName => true
  | _ => false

end Fault

/-! ## Results in steps -/

theorem bind_eq_ok_iff {First Second : Type} {first : Except Fault First}
    {next : First → Except Fault Second} {result : Second} :
    first >>= next = .ok result ↔ ∃ found, first = .ok found ∧ next found = .ok result := by
  cases first with
  | error fault => exact iff_of_false nofun nofun
  | ok found =>
      refine ⟨fun done => ⟨found, rfl, done⟩, ?_⟩
      rintro ⟨other, same, done⟩
      cases same
      exact done

theorem bind_eq_error_iff {First Second : Type} {first : Except Fault First}
    {next : First → Except Fault Second} {fault : Fault} :
    first >>= next = .error fault ↔
      first = .error fault ∨ ∃ found, first = .ok found ∧ next found = .error fault := by
  cases first with
  | error other =>
      rw [or_iff_left fun ⟨_, done, _⟩ => nomatch done]
      exact ⟨fun same => congrArg _ (Except.error.inj same), fun same =>
        congrArg _ (Except.error.inj same)⟩
  | ok found =>
      rw [or_iff_right nofun]
      refine ⟨fun failed => ⟨found, rfl, failed⟩, ?_⟩
      rintro ⟨other, same, failed⟩
      cases same
      exact failed

theorem map_eq_ok_iff {First Second : Type} {first : Except Fault First} {next : First → Second}
    {result : Second} :
    first.map next = .ok result ↔ ∃ found, first = .ok found ∧ next found = result := by
  cases first with
  | error fault => exact iff_of_false nofun nofun
  | ok found =>
      refine ⟨fun done => ⟨found, rfl, Except.ok.inj done⟩, ?_⟩
      rintro ⟨other, same, done⟩
      cases same
      exact congrArg Except.ok done

/-- The fault of a result that is none. -/
def Fault.of? {Result : Type} : Except Fault Result → Option Fault
  | .ok _ => none
  | .error fault => some fault

theorem Fault.of?_eq_some_iff {Result : Type} {result : Except Fault Result} {fault : Fault} :
    Fault.of? result = some fault ↔ result = .error fault := by
  cases result with
  | ok found => exact iff_of_false nofun nofun
  | error other => exact ⟨fun same => congrArg _ (Option.some.inj same), fun same =>
      congrArg _ (Except.error.inj same)⟩

theorem Fault.of?_map {First Second : Type} (first : Except Fault First) (next : First → Second) :
    Fault.of? (first.map next) = Fault.of? first := by
  cases first <;> rfl

/-- The fault of two steps is that of the first one or else that of the second, if the latter does not
depend on what the first one gives. -/
theorem Fault.of?_bind {First Second : Type} {first : Except Fault First}
    {next : First → Except Fault Second} {later : Option Fault}
    (same : ∀ found, first = .ok found → Fault.of? (next found) = later) :
    Fault.of? (first >>= next) = (Fault.of? first).or later := by
  cases first with
  | ok found => exact same found rfl
  | error fault => rfl

theorem map_eq_error_iff {First Second : Type} {first : Except Fault First}
    {next : First → Second} {fault : Fault} :
    first.map next = .error fault ↔ first = .error fault := by
  cases first with
  | error other => exact ⟨fun same => congrArg _ (Except.error.inj same), fun same =>
      congrArg _ (Except.error.inj same)⟩
  | ok found => exact iff_of_false nofun nofun

end ContestExchange
