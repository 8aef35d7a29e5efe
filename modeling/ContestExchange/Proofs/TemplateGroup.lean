import ContestExchange.Document.Flow
import ContestExchange.Proofs.DocumentOpening
import ContestExchange.Station.TemplateFile
import Mathlib.Data.List.Nodup

namespace ContestExchange

/-!
# Groups of templates are well formed

An alien letter in a template would silently keep it from lying on any line, and an empty template
would lie on each.  So whatever a file says, no such template may come out of it, and no group may
come out empty.  A group is what the file has under its name, as far as that can be read as rows of
the four letters; where nothing of it can, the built-in group stands in for it.

The groups are read in the same way, but for the calls, of which only rows of a known shape count.
Whatever is missing or of the wrong shape on the way from the file to a row leaves the group without
that row, so it has to be followed down in one place only.  What remains is the file itself.  It may
be missing, unreadable or no document, and none of that is a failure.  It is one if the path cannot be
looked up, and that is the same for templates as for rules.
-/

/-! ## Rows as they are written -/

namespace Template

/-- The row that a template is read from is how the template is written. -/
theorem toText_of_ofText? {written : Text} {template : Template}
    (spelled : ofText? written = some template) : template.map Symbol.code = written := by
  induction written generalizing template with
  | nil =>
      cases spelled
      rfl
  | cons letter rest inductionHypothesis =>
      rw [ofText?, List.mapM_cons] at spelled
      cases first : Symbol.ofCode? letter with
      | none =>
          rw [first] at spelled
          cases spelled
      | some symbol =>
          cases others : ofText? rest with
          | none =>
              rw [ofText?] at others
              rw [first, others] at spelled
              cases spelled
          | some symbols =>
              have later := inductionHypothesis others
              rw [ofText?] at others
              rw [first, others] at spelled
              cases spelled
              rw [List.map_cons, later, Symbol.code_of_ofCode? first]

/-- A row that spells no template has a letter that stands for no symbol. -/
theorem foreign_of_ofText? {written : Text} (misspelled : ofText? written = none) :
    ∃ letter ∈ written, Symbol.ofCode? letter = none := by
  induction written with
  | nil => cases misspelled
  | cons letter rest inductionHypothesis =>
      cases first : Symbol.ofCode? letter with
      | none => exact ⟨letter, List.mem_cons_self, first⟩
      | some symbol =>
          have others : ofText? rest = none := by
            cases others : ofText? rest with
            | none => rfl
            | some symbols =>
                rw [ofText?] at others
                rw [ofText?, List.mapM_cons, first, others] at misspelled
                cases misspelled
          rcases inductionHypothesis others with ⟨foreign, member, unknown⟩
          exact ⟨foreign, List.mem_cons_of_mem letter member, unknown⟩

end Template

theorem Symbol.code_injective : Function.Injective Symbol.code := by
  intro first second same
  have again := congrArg Symbol.ofCode? same
  rw [Symbol.ofCode?_code, Symbol.ofCode?_code] at again
  exact Option.some.inj again

/-! ## Groups and their rows -/

/-- The groups of templates. -/
inductive TemplateGroup where
  | serials
  | sections
  | genericSections
  | callsigns

namespace TemplateGroup

/-- The name of a group in a document. -/
def name : TemplateGroup → Text
  | .serials => Text.ofString "serial"
  | .sections => Text.ofString "section"
  | .genericSections => Text.ofString "generic_section"
  | .callsigns => Text.ofString "callsign"

/-- The templates of a group. -/
def of : TemplateGroup → TemplateSet → List Template
  | .serials, templates => templates.serials
  | .sections, templates => templates.sections
  | .genericSections, templates => templates.genericSections
  | .callsigns, templates => templates.callsigns

/-- The letters that templates are written in. -/
def letters : List Char := ['u', 'b', 'a', 'f']

/-- Whether a row consists of these letters only, and is not empty. -/
def isRow (row : Text) : Bool := !row.isEmpty && row.all (letters.contains ·)

/-- Whether a row can be in a group: a call has to be of a known shape. -/
def admits : TemplateGroup → Text → Bool
  | .callsigns, row => isRow row && (TemplateSet.callShapes.map Template.toText).contains row
  | _, row => isRow row

/-- The row that an item of a document is read as. -/
def rowOf? : Value → Option Text
  | .text written => some (Text.lower (Text.trim written))
  | _ => none

/-- The items under the name of a group: a text is the only one. -/
def itemsOf : Value → List Value
  | .text written => [.text written]
  | .list items => items
  | .pair first second => [first, second]
  | _ => []

/-- The rows that a document with some groups has for a group. -/
def rows (groups : List (Value × Value)) (group : TemplateGroup) : List Text :=
  ((itemsOf ((Value.lookup? groups group.name).getD .null)).filterMap rowOf?).filter group.admits

/-- What a group of templates is that was read from rows. -/
structure IsRead (group : TemplateGroup) (rows : List Text) (templates : List Template) : Prop where
  present : templates ≠ []
  wellFormed : ∀ template ∈ templates, group.admits template.toText = true
  written : rows ≠ [] → templates.map Template.toText = rows
  builtIn : rows = [] → templates = group.of .builtIn

end TemplateGroup

namespace TemplateFile

open TemplateGroup

/-! ## Rows -/

theorem toText_injective : Function.Injective Template.toText :=
  List.map_injective_iff.mpr Symbol.code_injective

theorem contains_letter_iff {letter : Char} :
    letters.contains letter = true ↔ ∃ symbol, Symbol.ofCode? letter = some symbol := by
  constructor
  · intro listed
    simp only [letters, List.contains_iff_mem, List.mem_cons, List.not_mem_nil, or_false] at listed
    rcases listed with rfl | rfl | rfl | rfl <;> exact ⟨_, rfl⟩
  · rintro ⟨symbol, known⟩
    rw [← Symbol.code_of_ofCode? known]
    cases symbol <;> rfl

/-- A row of the four letters spells a template, and no other row does. -/
theorem exists_ofText?_iff {row : Text} :
    (∃ template, Template.ofText? row = some template) ↔
      row.all (letters.contains ·) = true := by
  rw [List.all_eq_true]
  constructor
  · rintro ⟨template, spelled⟩ letter member
    rw [← Template.toText_of_ofText? spelled] at member
    rcases List.mem_map.mp member with ⟨symbol, _, same⟩
    exact contains_letter_iff.mpr ⟨symbol, same ▸ symbol.ofCode?_code⟩
  · intro letters
    cases spelled : Template.ofText? row with
    | some template => exact ⟨template, rfl⟩
    | none =>
        rcases Template.foreign_of_ofText? spelled with ⟨letter, member, unknown⟩
        rcases contains_letter_iff.mp (letters letter member) with ⟨symbol, known⟩
        cases unknown.symm.trans known

/-- An item is a template where its row is one. -/
theorem map_toText_template? (value : Value) :
    (template? value).map Template.toText = (rowOf? value).filter isRow := by
  cases value with
  | text written =>
      generalize read : Text.lower (Text.trim written) = row
      have given : rowOf? (.text written) = some row := by rw [rowOf?, read]
      have spelled : template? (.text written) =
          if row.isEmpty then none else Template.ofText? row := by
        rw [template?, read]
      rw [given, spelled, Option.filter_some, isRow]
      cases row.isEmpty with
      | true => rfl
      | false =>
          rw [Bool.not_false, Bool.true_and, if_neg Bool.false_ne_true]
          by_cases all : row.all (letters.contains ·) = true
          · rcases exists_ofText?_iff.mpr all with ⟨template, found⟩
            rw [if_pos all, found]
            exact congrArg some (Template.toText_of_ofText? found)
          · rw [if_neg all]
            cases found : Template.ofText? row with
            | none => rfl
            | some template => exact absurd (exists_ofText?_iff.mp ⟨template, found⟩) all
  | _ => rfl

theorem templatesOf_eq (value : Value) :
    templatesOf value = (itemsOf value).filterMap template? := by
  cases value with
  | text written =>
      rw [templatesOf, itemsOf, List.filterMap_cons]
      cases template? (.text written) <;> rfl
  | _ => rfl

theorem map_toText_templatesOf (value : Value) :
    (templatesOf value).map Template.toText = ((itemsOf value).filterMap rowOf?).filter isRow := by
  rw [templatesOf_eq, List.map_filterMap, List.filter_filterMap]
  exact List.filterMap_congr fun item _ => map_toText_template? item

/-! ## Groups -/

/-- The templates that a group can use. -/
def isUsable : TemplateGroup → Template → Bool
  | .callsigns, template => TemplateSet.callShapes.contains template
  | _, _ => true

theorem of_ofGroups (groups : List (Value × Value)) (kind : TemplateGroup) :
    kind.of (ofGroups groups) =
      let value := (Value.lookup? groups kind.name).getD .null
      let found := (templatesOf value).filter (isUsable kind)
      if found.isEmpty then kind.of .builtIn else found := by
  cases kind <;> rfl

theorem admits_eq (kind : TemplateGroup) (template : Template) :
    kind.admits template.toText = (isRow template.toText && isUsable kind template) := by
  cases kind with
  | callsigns =>
      rw [admits, isUsable, Bool.eq_iff_iff, Bool.and_eq_true, Bool.and_eq_true,
        List.contains_iff_mem, List.contains_iff_mem, List.mem_map_of_injective toText_injective]
  | _ => exact (Bool.and_true _).symm

/-- The built-in groups are well formed themselves. -/
theorem builtIn_wellFormed (kind : TemplateGroup) : kind.of .builtIn ≠ [] ∧
    ∀ template ∈ kind.of .builtIn, kind.admits template.toText = true := by
  cases kind <;> decide

theorem isRow_of_admits {kind : TemplateGroup} {row : Text} (admitted : kind.admits row = true) :
    isRow row = true := by
  cases kind with
  | callsigns =>
      rw [admits, Bool.and_eq_true] at admitted
      exact admitted.1
  | _ => exact admitted

/-- The templates found for a group are its rows. -/
theorem map_toText_found (groups : List (Value × Value)) (kind : TemplateGroup) :
    ((templatesOf ((Value.lookup? groups kind.name).getD .null)).filter (isUsable kind)).map
      Template.toText = rows groups kind := by
  unfold rows
  generalize (Value.lookup? groups kind.name).getD .null = value
  have read := map_toText_templatesOf value
  generalize (itemsOf value).filterMap rowOf? = given at read ⊢
  have ofRows : ∀ template ∈ templatesOf value, isRow template.toText = true := by
    intro template member
    have among := List.mem_map_of_mem (f := Template.toText) member
    rw [read] at among
    exact (List.mem_filter.mp among).2
  have twice : given.filter kind.admits = (given.filter isRow).filter kind.admits := by
    rw [List.filter_filter]
    refine List.filter_congr fun row _ => ?_
    cases admitted : kind.admits row with
    | false => rfl
    | true => rw [isRow_of_admits admitted, Bool.and_true]
  rw [twice, ← read, List.filter_map]
  refine congrArg _ (List.filter_congr fun template member => ?_)
  rw [Function.comp_apply, admits_eq, ofRows template member, Bool.true_and]

theorem isRead_ofGroups (groups : List (Value × Value)) (kind : TemplateGroup) :
    IsRead kind (rows groups kind) (kind.of (ofGroups groups)) := by
  rcases builtIn_wellFormed kind with ⟨presentBuiltIn, builtInAdmitted⟩
  have written := map_toText_found groups kind
  rw [of_ofGroups]
  dsimp only
  generalize (templatesOf ((Value.lookup? groups kind.name).getD .null)).filter (isUsable kind) =
    found at written ⊢
  have empty : rows groups kind = [] ↔ found.isEmpty = true := by
    rw [← written, List.map_eq_nil_iff, List.isEmpty_iff]
  by_cases none : found.isEmpty = true
  · rw [if_pos none]
    exact ⟨presentBuiltIn, builtInAdmitted, fun some => absurd (empty.mpr none) some, fun _ => rfl⟩
  · rw [if_neg none]
    refine ⟨fun nothing => none (List.isEmpty_iff.mpr nothing), ?_, fun _ => written,
      fun nothing => absurd (empty.mp nothing) none⟩
    intro template member
    have among := List.mem_map_of_mem (f := Template.toText) member
    rw [written] at among
    exact (List.mem_filter.mp among).2

/-! ## Documents -/

/-- The groups that a document has, or its `templates`; of another shape it has none. -/
def groupsOf : Value → List (Value × Value)
  | .mapping entries =>
      match (Value.lookup? entries (Text.ofString "templates")).getD (.mapping entries) with
      | .mapping groups => groups
      | _ => []
  | _ => []

theorem exists_ofDocument (path : Text) (document : Value) :
    ∃ warning, ofDocument path document = (ofGroups (groupsOf document), warning) := by
  have nothing : ofGroups [] = .builtIn := rfl
  cases document with
  | mapping entries =>
      rw [ofDocument, groupsOf]
      generalize (Value.lookup? entries (Text.ofString "templates")).getD (.mapping entries) = inner
      cases inner with
      | mapping groups => exact ⟨none, rfl⟩
      | _ => exact ⟨_, congrArg (·, _) nothing.symm⟩
  | _ =>
      unfold ofDocument
      dsimp only
      split
      · exact ⟨_, congrArg (·, _) nothing.symm⟩
      · exact ⟨none, rfl⟩

/-! ## Files -/

open RuleBook (pathOf IsUnseen documentAt? opening_eq_error_iff opening_meets)

/-- The groups in the file that a setting gives, as far as it can be read. -/
def groupsAt (store : Store) (setting : Value) : List (Value × Value) :=
  match pathOf store.form.depth setting with
  | .error _ => []
  | .ok path =>
      if path.isEmpty then [] else (store.readDocument path).toOption.elim [] groupsOf

theorem groupsAt_eq (store : Store) (setting : Value) :
    groupsAt store setting =
      (documentAt? store setting).elim [] fun found => groupsOf found.2 := by
  rw [groupsAt, documentAt?]
  cases pathOf store.form.depth setting with
  | error fault => rfl
  | ok path =>
      show (if path.isEmpty then _ else _) =
        Option.elim (if path.isEmpty then _ else _) _ _
      cases path.isEmpty with
      | true => rfl
      | false => cases store.readDocument path <;> rfl

/-- Beside the way to the file nothing fails. -/
theorem load_eq_error_iff {store : Store} {setting : Value} {fault : Fault} :
    load store setting = .error fault ↔ IsUnseen store setting fault :=
  opening_eq_error_iff.trans (or_iff_left fun ⟨_, _, _, failed⟩ => nomatch failed)

/-- What is loaded are the groups of the file. -/
theorem exists_eq_of_load {store : Store} {setting : Value} {outcome : TemplateSet × Option Text}
    (loaded : load store setting = .ok outcome) :
    ∃ warning, outcome = (ofGroups (groupsAt store setting), warning) := by
  rw [groupsAt_eq]
  rcases opening_meets (fun outcome => ∃ warning, outcome = (ofGroups [], warning)) ⟨_, rfl⟩
    (fun _ => ⟨_, rfl⟩) (fun _ => ⟨_, rfl⟩) loaded with
    ⟨nothing, builtIn⟩ | ⟨path, document, there, done⟩
  · rw [nothing]
    exact builtIn
  · rcases exists_ofDocument path document with ⟨warning, same⟩
    rw [there]
    exact ⟨warning, (Except.ok.inj done).symm.trans same⟩

/-- Loading fails exactly where the path of the setting cannot be looked up.  Otherwise every group is
well formed: it has the rows that the file has for it, in their order, or it is the built-in one if the
file has none. -/
theorem load_fails_or_reads_groups (store : Store) (setting : Value) :
    (∀ fault, load store setting = .error fault ↔ IsUnseen store setting fault) ∧
    ((∀ fault, ¬ IsUnseen store setting fault) → ∃ templates warning,
      load store setting = .ok (templates, warning) ∧
        ∀ kind, IsRead kind (rows (groupsAt store setting) kind) (kind.of templates)) := by
  refine ⟨fun fault => load_eq_error_iff, fun seen => ?_⟩
  cases loaded : load store setting with
  | error fault => exact absurd (load_eq_error_iff.mp loaded) (seen fault)
  | ok outcome =>
      rcases exists_eq_of_load loaded with ⟨warning, same⟩
      exact ⟨_, warning, congrArg Except.ok same, isRead_ofGroups _⟩

/-- A document with one row among other items in a group, and a call of no known shape. -/
def mixedGroups : Value :=
  .fields [("serial", .list [.ofString " FF", .int 5, .ofString "f-f"]),
    ("callsign", .ofString "bab")]

/-- A name of 256 letters is too long for a file, and a folder that is closed hides what is in it.  A
file of mixed items gives the groups in which it has a row, and the built-in ones besides. -/
theorem load_fails_on_long_name :
    load (.empty (Flow.form 100)) (.text (List.replicate 256 'n')) = .error .nameTooLong ∧
      load ⟨Flow.form 100, [(.ofPath ['d'], .closed .notPermitted)]⟩ (.ofString "d/own") =
        .error .notPermitted ∧
      ∃ templates warning,
        load (.ofFiles (Flow.form 100) [(Text.ofString "own", .file (.document mixedGroups))])
          (.ofString "own") = .ok (templates, warning) ∧
        templates.serials.map Template.toText = [Text.ofString "ff"] ∧
        templates.callsigns = TemplateSet.callShapes := by
  refine ⟨?_, ?_, ?_⟩
  · have located : (Store.empty (Flow.form 100)).locate (List.replicate 256 'n') =
        .error .nameTooLong := by decide +kernel
    refine ((load_fails_or_reads_groups _ _).1 _).mpr (.lost (List.replicate 256 'n') ?_ ?_ ?_ rfl)
    · decide +kernel
    · exact List.cons_ne_nil _ _
    · rw [Store.look, located]
      rfl
  · refine ((load_fails_or_reads_groups _ _).1 _).mpr
      (.lost (Text.ofString "d/own") rfl (List.cons_ne_nil _ _) rfl rfl)
  · generalize stored :
      Store.ofFiles (Flow.form 100) [(Text.ofString "own", .file (.document mixedGroups))] = store
    have found : groupsAt store (.ofString "own") = groupsOf mixedGroups := by
      rw [← stored]
      rfl
    have seen : ∀ fault, ¬ IsUnseen store (.ofString "own") fault := by
      rw [← stored]
      rintro fault (⟨_, unwritten⟩ | ⟨path, given, _, unfound, _⟩)
      · cases unwritten
      · cases given
        cases unfound
    rcases (load_fails_or_reads_groups store (.ofString "own")).2 seen with
      ⟨templates, warning, loaded, groups⟩
    rw [found] at groups
    have serials : rows (groupsOf mixedGroups) .serials = [Text.ofString "ff"] := by decide +kernel
    have callsigns : rows (groupsOf mixedGroups) .callsigns = [] := by decide +kernel
    refine ⟨templates, warning, loaded, ?_, (groups .callsigns).builtIn callsigns⟩
    rw [← serials]
    exact (groups .serials).written (by rw [serials]; exact List.cons_ne_nil _ _)

end TemplateFile
end ContestExchange
