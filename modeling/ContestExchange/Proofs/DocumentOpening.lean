import ContestExchange.Proofs.ValueText
import ContestExchange.Station.RuleBook

namespace ContestExchange

/-!
# Opening the document that a setting gives

Rules and templates are documents in files, and the way to such a document is always the same.  A
setting may give no path, the path may lead nowhere, and what it leads to may be no document: each time
there is something else instead.  Only what is done with a document differs.

Reading a file does not fail here, because there is something instead of it.  So a fault that does not
come from the document itself is one of the way.  The setting has no text, or the path is one that the
system does not even look up.
-/

/-! ## Paths -/

namespace Store

variable {store : Store} {path : Text} {fault : Fault}

/-- What cannot be looked up cannot be read. -/
theorem readDocument_of_look (lost : store.look path = .error fault) :
    store.readDocument path = .error fault := by
  unfold readDocument read
  rw [lost]
  rfl

/-- A path that leads to nothing cannot be read. -/
theorem readDocument_of_missing (missing : store.exists? path = .ok false) :
    ∃ fault, store.readDocument path = .error fault := by
  unfold exists? at missing
  cases found : store.look path with
  | error fault => exact ⟨fault, readDocument_of_look found⟩
  | ok stored =>
      rw [found] at missing
      cases missing

theorem exists?_of_readDocument {document : Value}
    (read : store.readDocument path = .ok document) : store.exists? path = .ok true := by
  rw [exists?]
  cases found : store.look path with
  | ok stored => rfl
  | error cause =>
      rw [readDocument_of_look found] at read
      cases read

theorem exists?_eq_error_iff :
    store.exists? path = .error fault ↔
      store.look path = .error fault ∧ fault.isAbsence = false := by
  unfold exists?
  cases store.look path with
  | ok stored => exact iff_of_false nofun fun given => nomatch given.1
  | error cause =>
      dsimp only
      by_cases absent : cause.isAbsence = true
      · rw [if_pos absent]
        refine iff_of_false nofun fun given => ?_
        rw [Except.error.inj given.1, given.2] at absent
        cases absent
      · rw [if_neg absent]
        constructor
        · intro same
          rw [← Except.error.inj same]
          exact ⟨rfl, Bool.eq_false_iff.mpr absent⟩
        · intro given
          rw [Except.error.inj given.1]

end Store

/-! ## Settings -/

namespace RuleBook

variable {depth : Nat} {store : Store} {setting : Value} {path : Text} {document : Value}
  {fault : Fault}

/-- What keeps the path that a setting gives from being looked up: the setting has no text, or what
the path leads to cannot be found out. -/
inductive IsUnseen (store : Store) (setting : Value) (fault : Fault) : Prop where
  | textless (on : setting.isSet = true)
      (unwritten : setting.textFault? store.form.depth = some fault)
  | lost (path : Text) (given : pathOf store.form.depth setting = .ok path) (named : path ≠ [])
      (unfound : store.look path = .error fault) (present : fault.isAbsence = false)

theorem pathOf_eq_error_iff :
    pathOf depth setting = .error fault ↔
      setting.isSet = true ∧ setting.textFault? depth = some fault := by
  unfold pathOf
  by_cases on : setting.isSet = true
  · rw [if_pos on, map_eq_error_iff, ← Fault.of?_eq_some_iff, Value.of?_toText, and_iff_right on]
  · rw [if_neg on]
    exact iff_of_false nofun fun given => on given.1

/-- The document that a setting leads to, with its path. -/
def documentAt? (store : Store) (setting : Value) : Option (Text × Value) :=
  (pathOf store.form.depth setting).toOption.bind fun path =>
    if path.isEmpty then none else (store.readDocument path).toOption.map fun found => (path, found)

theorem documentAt?_of_path (given : pathOf store.form.depth setting = .ok path)
    (named : path ≠ []) :
    documentAt? store setting = (store.readDocument path).toOption.map fun found => (path, found) := by
  rw [documentAt?, given]
  exact if_neg (mt List.isEmpty_iff.mp named)

theorem documentAt?_eq_some_iff :
    documentAt? store setting = some (path, document) ↔
      pathOf store.form.depth setting = .ok path ∧ path ≠ [] ∧
        store.readDocument path = .ok document := by
  constructor
  · intro there
    rcases Option.bind_eq_some_iff.mp there with ⟨other, spelled, found⟩
    have given : pathOf store.form.depth setting = .ok other := by
      cases same : pathOf store.form.depth setting with
      | error cause =>
          rw [same] at spelled
          cases spelled
      | ok _ =>
          rw [same] at spelled
          cases spelled
          rfl
    by_cases empty : other.isEmpty = true
    · rw [if_pos empty] at found
      cases found
    · rw [if_neg empty] at found
      cases read : store.readDocument other with
      | error cause =>
          rw [read] at found
          cases found
      | ok value =>
          rw [read] at found
          cases found
          exact ⟨given, mt List.isEmpty_iff.mpr empty, read⟩
  · rintro ⟨given, named, read⟩
    rw [documentAt?_of_path given named, read]
    rfl

/-! ## Opening -/

/-- Going to the document that a setting gives: what there is without a path, where the path leads
nowhere and where it leads to no document, and what is done with a document. -/
def opening {Result : Type} (store : Store) (setting : Value) (blank : Result)
    (missing unread : Text → Result) (next : Text → Value → Except Fault Result) :
    Except Fault Result := do
  let path ← pathOf store.form.depth setting
  if path.isEmpty then
    return blank
  else if !(← store.exists? path) then
    return missing path
  else
    match store.readDocument path with
    | .error _ => return unread path
    | .ok document => next path document

section Opening

variable {Result : Type} {blank result : Result} {missing unread : Text → Result}
  {next : Text → Value → Except Fault Result}

theorem opening_of_documentAt? (there : documentAt? store setting = some (path, document)) :
    opening store setting blank missing unread next = next path document := by
  rcases documentAt?_eq_some_iff.mp there with ⟨given, named, read⟩
  rw [opening, given]
  dsimp only [bind, Except.bind]
  rw [if_neg (mt List.isEmpty_iff.mp named), Store.exists?_of_readDocument read]
  dsimp only
  rw [if_neg (by decide), read]

/-- An opening fails on the way to the document, or with it. -/
theorem opening_eq_error_iff :
    opening store setting blank missing unread next = .error fault ↔
      IsUnseen store setting fault ∨
        ∃ path document, documentAt? store setting = some (path, document) ∧
          next path document = .error fault := by
  constructor
  · intro failed
    rcases bind_eq_error_iff.mp failed with unwritten | ⟨path, given, opened⟩
    · rcases pathOf_eq_error_iff.mp unwritten with ⟨on, textless⟩
      exact .inl (.textless on textless)
    · by_cases empty : path.isEmpty = true
      · rw [if_pos empty] at opened
        cases opened
      · have named : path ≠ [] := mt List.isEmpty_iff.mpr empty
        rw [if_neg empty, bind_eq_error_iff, Store.exists?_eq_error_iff] at opened
        rcases opened with ⟨unfound, present⟩ | ⟨there, _, found⟩
        · exact .inl (.lost path given named unfound present)
        cases there with
        | false => cases found
        | true =>
            cases read : store.readDocument path with
            | error cause =>
                rw [read] at found
                cases found
            | ok document =>
                rw [read] at found
                exact .inr ⟨path, document, documentAt?_eq_some_iff.mpr ⟨given, named, read⟩, found⟩
  · rintro ((⟨on, textless⟩ | ⟨path, given, named, unfound, present⟩) |
      ⟨path, document, there, failed⟩)
    · exact bind_eq_error_iff.mpr (.inl (pathOf_eq_error_iff.mpr ⟨on, textless⟩))
    · refine bind_eq_error_iff.mpr (.inr ⟨path, given, ?_⟩)
      rw [if_neg (mt List.isEmpty_iff.mp named),
        Store.exists?_eq_error_iff.mpr ⟨unfound, present⟩]
      rfl
    · rw [opening_of_documentAt? there, failed]

/-- An opening that does not fail has met the document, or something else there is instead. -/
theorem opening_cases (done : opening store setting blank missing unread next = .ok result) :
    (documentAt? store setting = none ∧
        (pathOf store.form.depth setting = .ok [] ∧ result = blank ∨
          ∃ path, result = missing path ∨ result = unread path)) ∨
      ∃ path document, documentAt? store setting = some (path, document) ∧
        next path document = .ok result := by
  rcases bind_eq_ok_iff.mp done with ⟨path, given, opened⟩
  by_cases empty : path = []
  · rw [if_pos (List.isEmpty_iff.mpr empty)] at opened
    rw [empty] at given
    refine .inl ⟨?_, .inl ⟨given, (Except.ok.inj opened).symm⟩⟩
    rw [documentAt?, given]
    rfl
  · rw [if_neg (mt List.isEmpty_iff.mp empty)] at opened
    rcases bind_eq_ok_iff.mp opened with ⟨there, present, found⟩
    rw [documentAt?_of_path given empty]
    cases there with
    | false =>
        rcases Store.readDocument_of_missing present with ⟨fault, absent⟩
        rw [absent]
        exact .inl ⟨rfl, .inr ⟨path, .inl (Except.ok.inj found).symm⟩⟩
    | true =>
        cases read : store.readDocument path with
        | error fault =>
            rw [read] at found
            exact .inl ⟨rfl, .inr ⟨path, .inr (Except.ok.inj found).symm⟩⟩
        | ok document =>
            rw [read] at found
            exact .inr ⟨path, document, rfl, found⟩

/-- What holds of all that there is instead of a document holds where none is met. -/
theorem opening_meets (Holds : Result → Prop) (ofBlank : Holds blank)
    (ofMissing : ∀ path, Holds (missing path)) (ofUnread : ∀ path, Holds (unread path))
    (done : opening store setting blank missing unread next = .ok result) :
    (documentAt? store setting = none ∧ Holds result) ∨
      ∃ path document, documentAt? store setting = some (path, document) ∧
        next path document = .ok result := by
  refine (opening_cases done).imp_left ?_
  rintro ⟨nothing, ⟨_, rfl⟩ | ⟨path, rfl | rfl⟩⟩
  · exact ⟨nothing, ofBlank⟩
  · exact ⟨nothing, ofMissing path⟩
  · exact ⟨nothing, ofUnread path⟩

end Opening

end RuleBook
end ContestExchange
