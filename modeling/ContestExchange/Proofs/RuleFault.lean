import ContestExchange.Proofs.RuleMerge
import ContestExchange.Proofs.ValueText

namespace ContestExchange
namespace RuleBook

/-!
# What keeps rules from being loaded

A definition that cannot be used is named in a warning, and a file that cannot be read gives the
built-in rules.  Some values get past both.  A path is not looked up at all if the setting has no text,
and what it leads to may be impossible to find out.  In a definition a value may have no text where one
is read, countries may be what cannot be gone through, and an infinite width has no integer.

None of these depends on the rule that a definition changes.  So the first definition with such a
value decides, whatever the book before it looks like, and the induction over the definitions leaves
the book open.
-/

variable {depth : Nat} {book : RuleBook} {fields : List (Value × Value)} {fault : Fault}

/-! ## One definition -/

/-- Whether a value counts as on and has nothing in it that could be gone through. -/
def isBare : Value → Bool
  | .bool flag => flag
  | .int number => number != 0
  | .double number => !number.isZero
  | .moment _ => true
  | _ => false

/-- What is in a value that can be gone through, for a text nothing but itself. -/
def members : Value → List Value
  | .text content => [.text content]
  | .bytes content => content.map fun byte => .int byte.toNat
  | .list items => items
  | .set items => items
  | .pair first second => [first, second]
  | .mapping entries => entries.map (·.1)
  | _ => []

/-- What keeps countries from being read. -/
def countriesFault? (depth : Nat) (value : Value) : Option Fault :=
  if isBare value then some .wrongKind else (members value).findSome? (Value.textFault? depth)

/-- Whether a value is one of the infinities. -/
def isEndless : Value → Bool
  | .double number => number.isInfinite
  | _ => false

/-- The fields that can keep a definition from being either taken over or refused, in the order in
which they are read, and what it is about their values that does. -/
def faultyFields (depth : Nat) : List (String × (Value → Option Fault)) :=
  [("state_province_countries", countriesFault? depth),
    ("strategy", Value.textFault? depth),
    ("serial_padding", Value.textFault? depth),
    ("zone_prefill", Value.textFault? depth),
    ("exchange_width", fun value => if isEndless value then some .tooLarge else none)]

/-- The fault of a definition that is neither taken over nor refused. -/
def faultOf? (depth : Nat) (fields : List (Value × Value)) : Option Fault :=
  (faultyFields depth).findSome? fun field => (changeOf fields field.1).bind field.2

theorem listedValues_eq (value : Value) :
    listedValues value = if isBare value then .error .wrongKind else .ok (members value) := by
  -- What is empty counts as off, and it has no members either.
  cases value with
  | bytes content => cases content <;> rfl
  | list items => cases items <;> rfl
  | set items => cases items <;> rfl
  | mapping entries => cases entries <;> rfl
  | _ => rfl

theorem of?_countriesOf (depth : Nat) (value : Value) :
    Fault.of? (countriesOf depth value) = countriesFault? depth value := by
  unfold countriesOf countriesFault?
  rw [listedValues_eq]
  cases isBare value with
  | true => rfl
  | false => exact (Value.of?_bind_return _ _).trans (Value.of?_toTexts depth (members value))

theorem of?_changedCountries (before : List Text) :
    Fault.of? (changedCountries depth fields before) =
      (changeOf fields "state_province_countries").bind (countriesFault? depth) := by
  unfold changedCountries
  cases changeOf fields "state_province_countries" with
  | none => rfl
  | some value => exact of?_countriesOf depth value

theorem of?_changedWord {Choice : Type} (name : String) (named? : Text → Option Choice)
    (before : Choice) :
    Fault.of? (changedWord depth fields name named? before) =
      (changeOf fields name).bind (Value.textFault? depth) := by
  unfold changedWord
  cases changeOf fields name with
  | none => rfl
  | some value =>
      dsimp only [wordOf]
      rw [Fault.of?_map, Fault.of?_map, Value.of?_toText]
      rfl

theorem toInt_eq_tooLarge_iff {value : Value} :
    value.toInt = .error .tooLarge ↔ isEndless value = true := by
  have spelled (content : Text) : Value.spelledInt content ≠ .error .tooLarge := by
    unfold Value.spelledInt
    cases Literal.integer? content <;> exact nofun
  cases value with
  | double number =>
      rw [Value.toInt, isEndless]
      by_cases none : number.isNaN = true
      · have beyond : Double.infiniteMagnitude < number.magnitude := of_decide_eq_true none
        have finite : number.isInfinite = false := beq_false_of_ne (Nat.ne_of_gt beyond)
        rw [if_pos none, finite]
        exact iff_of_false nofun nofun
      · rw [if_neg none]
        cases number.isInfinite with
        | false => exact iff_of_false nofun nofun
        | true => exact ⟨fun _ => rfl, fun _ => rfl⟩
  | text content => exact iff_of_false (spelled content) nofun
  | bytes content => exact iff_of_false (spelled _) nofun
  | _ => exact iff_of_false nofun nofun

theorem of?_changedWidth (before : Int) :
    Fault.of? (changedWidth fields before) =
      (changeOf fields "exchange_width").bind fun value =>
        if isEndless value then some .tooLarge else none := by
  unfold changedWidth
  cases changeOf fields "exchange_width" with
  | none => rfl
  | some value =>
      rw [Option.bind_some]
      dsimp only
      cases number : value.toInt with
      | ok width =>
          have finite : ¬ isEndless value = true := by
            rw [← toInt_eq_tooLarge_iff, number]
            exact nofun
          rw [if_neg finite]
          rfl
      | error cause =>
          by_cases endless : isEndless value = true
          · have large := toInt_eq_tooLarge_iff.mpr endless
            rw [number] at large
            rw [if_pos endless, Except.error.inj large]
            rfl
          · rw [if_neg endless]
            cases cause with
            | tooLarge => exact absurd (toInt_eq_tooLarge_iff.mp number) endless
            | _ => rfl

theorem of?_define (start : RuleOf Value) :
    Fault.of? (define depth start fields) = faultOf? depth fields := by
  unfold define
  rw [Fault.of?_bind fun _ _ => Fault.of?_bind fun _ _ => Fault.of?_bind fun _ _ =>
      Fault.of?_bind fun _ _ => Fault.of?_bind fun _ _ => (?last : _ = none),
    of?_changedCountries, of?_changedWord, of?_changedWord, of?_changedWord, of?_changedWidth]
  case last =>
    split
    · split <;> rfl
    · rfl
  simp only [faultOf?, faultyFields, Sequence.findSome?_cons_eq_or, List.findSome?_nil,
    Option.or_none]

/-! ## Definitions one after the other -/

/-- The fault of an entry that looks like a definition. -/
def entryFault? (depth : Nat) (entry : Value × Value) : Option Fault :=
  (definition? entry).bind fun definition => faultOf? depth definition.2

theorem of?_defineAll (book : RuleBook) (definitions : List (Text × List (Value × Value))) :
    Fault.of? (book.defineAll depth definitions) =
      definitions.findSome? fun definition => faultOf? depth definition.2 := by
  -- A rule that was defined changes the book for the rest, but not the faults of the rest.
  induction definitions generalizing book with
  | nil => rfl
  | cons definition rest inductionHypothesis =>
      rcases definition with ⟨name, fields⟩
      rw [List.findSome?_cons, ← of?_define (book.startOf name), defineAll]
      cases define depth (book.startOf name) fields with
      | error cause => rfl
      | ok result =>
          cases result with
          | some rule => exact inductionHypothesis (book.put rule)
          | none => exact (Fault.of?_map _ _).trans (inductionHypothesis book)

theorem of?_defineAll_definitionsOf (book : RuleBook) (entries : List (Value × Value)) :
    Fault.of? (book.defineAll depth (definitionsOf entries)) =
      entries.findSome? (entryFault? depth) := by
  rw [of?_defineAll, definitionsOf, ← List.head?_filterMap, ← List.head?_filterMap,
    List.filterMap_filterMap]
  rfl

/-- Entries without faults give a book, as part of others too. -/
theorem exists_defineAll_of_subset {entries others : List (Value × Value)}
    {outcome : RuleBook × List Text}
    (defined : builtIn.defineAll depth (definitionsOf entries) = .ok outcome)
    (part : others ⊆ entries) :
    ∃ merged names, builtIn.defineAll depth (definitionsOf others) = .ok (merged, names) := by
  have sound : entries.findSome? (entryFault? depth) = none := by
    rw [← of?_defineAll_definitionsOf builtIn, defined]
    rfl
  have soundPart : others.findSome? (entryFault? depth) = none := by
    rw [List.findSome?_eq_none_iff] at sound ⊢
    exact fun entry member => sound entry (part member)
  rw [← of?_defineAll_definitionsOf builtIn] at soundPart
  cases run : builtIn.defineAll depth (definitionsOf others) with
  | ok result => exact ⟨result.1, result.2, rfl⟩
  | error cause =>
      rw [run] at soundPart
      cases soundPart

/-- An entry that cannot be used leaves the rules as they are without it. -/
theorem defineAll_without {before after : List (Value × Value)} {entry : Value × Value}
    {name : Text} {skipped : List Text} (useless : uselessName? depth entry = some name)
    (defined : builtIn.defineAll depth (definitionsOf (before ++ entry :: after)) =
      .ok (book, skipped)) :
    ∃ earlier later, skipped = earlier ++ name :: later ∧
      builtIn.defineAll depth (definitionsOf (before ++ after)) = .ok (book, earlier ++ later) := by
  have part : before ++ after ⊆ before ++ entry :: after :=
    ((List.sublist_cons_self entry after).append_left before).subset
  rcases exists_defineAll_of_subset defined part with ⟨merged, names, without⟩
  rcases defineAll_eq isSound_builtIn defined with ⟨books, skips, _⟩
  rcases defineAll_eq isSound_builtIn without with ⟨otherBooks, otherSkips, _⟩
  have kept : (definitionsOf (before ++ entry :: after)).filter (fun definition =>
        isUsable depth definition.2) =
      (definitionsOf (before ++ after)).filter fun definition => isUsable depth definition.2 := by
    rw [uselessName?_eq] at useless
    rcases Option.bind_eq_some_iff.mp useless with ⟨definition, looks, refused⟩
    have unusable : ¬ isUsable depth definition.2 = true := by
      intro usable
      rw [if_pos usable] at refused
      cases refused
    rw [definitionsOf, definitionsOf, List.filterMap_append, List.filterMap_append,
      List.filterMap_cons, looks, List.filter_append, List.filter_append,
      List.filter_cons, if_neg unusable]
  refine ⟨before.filterMap (uselessName? depth), after.filterMap (uselessName? depth), ?_, ?_⟩
  · rw [skips, unusable_definitionsOf, List.filterMap_append, List.filterMap_cons, useless]
  · rw [without, books, kept, ← otherBooks, otherSkips, unusable_definitionsOf,
      List.filterMap_append]

/-! ## Documents -/

theorem ofDocument_eq_error_iff {path : Text} {document : Value} :
    ofDocument depth path document = .error fault ↔
      ∃ entries, entriesOf? document = some entries ∧
        entries.findSome? (entryFault? depth) = some fault := by
  rw [ofDocument, definitions?_eq]
  cases entriesOf? document with
  | none => exact iff_of_false nofun fun given => nomatch given.choose_spec.1
  | some entries =>
      rw [Option.map_some]
      dsimp only
      rw [map_eq_error_iff, ← Fault.of?_eq_some_iff, of?_defineAll_definitionsOf]
      exact ⟨fun given => ⟨entries, rfl, given⟩, fun ⟨_, same, given⟩ => Option.some.inj same ▸ given⟩

/-! ## Files -/

theorem load_eq_error_iff {store : Store} {setting : Value} :
    load store setting = .error fault ↔
      IsUnseen store setting fault ∨
        ∃ entries, entriesAt? store setting = some entries ∧
          entries.findSome? (entryFault? store.form.depth) = some fault := by
  refine opening_eq_error_iff.trans (or_congr_right ?_)
  rw [entriesAt?_eq]
  constructor
  · rintro ⟨path, document, there, failed⟩
    rcases ofDocument_eq_error_iff.mp failed with ⟨entries, shaped, faulty⟩
    rw [there]
    exact ⟨entries, shaped, faulty⟩
  · rintro ⟨entries, listed, faulty⟩
    rcases Option.bind_eq_some_iff.mp listed with ⟨⟨path, document⟩, there, shaped⟩
    exact ⟨path, document, there, ofDocument_eq_error_iff.mpr ⟨entries, shaped, faulty⟩⟩

/-- A file that is missing, unreadable or of another shape gives the built-in rules and a
warning. -/
theorem load_of_no_entries {store : Store} {setting : Value} {path : Text}
    (given : pathOf store.form.depth setting = .ok path) (named : path ≠ [])
    (seen : ∀ fault, ¬ IsUnseen store setting fault) (nothing : entriesAt? store setting = none) :
    ∃ warning, load store setting = .ok (builtIn, some warning) := by
  rw [entriesAt?_eq] at nothing
  cases loaded : load store setting with
  | error fault =>
      rcases load_eq_error_iff.mp loaded with unseen | ⟨entries, listed, _⟩
      · exact absurd unseen (seen fault)
      · rw [entriesAt?_eq, nothing] at listed
        cases listed
  | ok outcome =>
      rcases opening_cases loaded with ⟨_, ⟨blank, _⟩ | ⟨path, same | same⟩⟩ |
        ⟨path, document, there, done⟩
      · rw [blank] at given
        exact absurd (Except.ok.inj given).symm named
      · exact ⟨_, congrArg Except.ok same⟩
      · exact ⟨_, congrArg Except.ok same⟩
      · rw [there] at nothing
        have shapeless : definitions? document = none := by
          rw [definitions?_eq, show entriesOf? document = none from nothing]
          rfl
        rw [ofDocument, shapeless] at done
        exact ⟨_, done.symm⟩

/-- Loading fails where the path of the setting cannot be looked up, and on a file whose first
definition with a fault has that one.  Otherwise a file without definitions gives the built-in rules
and a warning, and a definition that cannot be used leaves the rules as they are without it and has its
name in the warning. -/
theorem load_fails_or_names_unusable (store : Store) (setting : Value) :
    (∀ fault, load store setting = .error fault ↔
      IsUnseen store setting fault ∨
        ∃ entries, entriesAt? store setting = some entries ∧
          entries.findSome? (entryFault? store.form.depth) = some fault) ∧
      (∀ path, pathOf store.form.depth setting = .ok path → path ≠ [] →
        (∀ fault, ¬ IsUnseen store setting fault) → entriesAt? store setting = none →
          ∃ warning, load store setting = .ok (builtIn, some warning)) ∧
      ∀ book warning before entry after name,
        load store setting = .ok (book, warning) →
        entriesAt? store setting = some (before ++ entry :: after) →
        uselessName? store.form.depth entry = some name →
          ∃ earlier later, warning = warningOf (earlier ++ name :: later) ∧
            builtIn.defineAll store.form.depth (definitionsOf (before ++ after)) =
              .ok (book, earlier ++ later) := by
  refine ⟨fun fault => load_eq_error_iff, fun path => load_of_no_entries, ?_⟩
  intro book warning before entry after name loaded listed useless
  rcases load_cases loaded with ⟨nothing, _⟩ | ⟨entries, skipped, found, defined, warned⟩
  · rw [nothing] at listed
    cases listed
  · rw [listed] at found
    cases found
    rcases defineAll_without useless defined with ⟨earlier, later, skips, without⟩
    rw [skips] at warned
    exact ⟨earlier, later, warned, without⟩

/-- A width without bounds, behind a definition that is only named. -/
def boundless : List (Value × Value) :=
  [(.ofString "sprint", .fields [("exchange_width", .int 0)]),
    (.ofString "iaru", .fields [("exchange_width", .double ⟨false, Double.infiniteMagnitude⟩)])]

theorem load_fails_on_boundless :
    load (.ofFile "rules" (.mapping boundless)) (.ofString "rules") = .error .tooLarge ∧
      (∃ warning,
        load ⟨Flow.form 100, [(.ofPath (Text.ofString "rules"), .folder)]⟩ (.ofString "rules") =
          .ok (builtIn, some warning)) ∧
      ∃ book,
        load (.ofFile "rules" (.mapping spellings)) (.ofString "rules") =
          .ok (book, some (Text.ofString "Ignored invalid contest definitions: CQWW.")) ∧
        (builtIn.defineAll 100 (definitionsOf (spellings.eraseIdx 1))).toOption.map (·.1) =
          some book := by
  refine ⟨?_, ?_, ?_⟩
  · exact ((load_fails_or_names_unusable _ _).1 _).mpr (.inr ⟨boundless, rfl, rfl⟩)
  · refine (load_fails_or_names_unusable _ _).2.1 (Text.ofString "rules") rfl (List.cons_ne_nil _ _)
      ?_ rfl
    rintro fault (⟨_, unwritten⟩ | ⟨path, given, _, unfound, _⟩)
    · cases unwritten
    · cases given
      cases unfound
  · have loads : ∃ outcome,
        load (.ofFile "rules" (.mapping spellings)) (.ofString "rules") = .ok outcome := ⟨_, rfl⟩
    rcases loads with ⟨⟨book, warning⟩, loaded⟩
    rcases (load_fails_or_names_unusable _ _).2.2 book warning [_] _ [_, _] (Text.ofString "CQWW")
      loaded rfl rfl with ⟨earlier, later, warned, without⟩
    have alone : earlier ++ later = [] :=
      (congrArg Prod.snd (Except.ok.inj without)).symm
    rw [List.append_eq_nil_iff] at alone
    rw [warned, alone.1, alone.2] at loaded
    refine ⟨book, loaded, ?_⟩
    show (builtIn.defineAll 100 (definitionsOf ([_] ++ [_, _]))).toOption.map (·.1) = some book
    rw [show builtIn.defineAll 100 _ = _ from without]
    rfl

end RuleBook
end ContestExchange
