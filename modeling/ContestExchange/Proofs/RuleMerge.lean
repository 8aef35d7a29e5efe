import ContestExchange.Document.Flow
import ContestExchange.Proofs.DocumentOpening
import Mathlib.Data.List.Nodup
import Mathlib.Data.List.TakeWhile

namespace ContestExchange

/-!
# Rules merged from definitions

A document defines rules under names that may repeat in other spellings, among entries that define
nothing.  What becomes of one name can be read off its own definitions: those whose fields are all
usable are applied one after the other, to the built-in rule or to a blank one, and the others leave
no trace but their name in the warning.

Whether a definition is usable does not depend on the rule that it changes.  Only a width could make
a difference, because a definition without one keeps the width before.  So the books that a run
passes through have to keep their widths positive, and this is the invariant below.
-/

/-! ## Names -/

namespace Text

theorem capital_ne_nil (character : Char) : capital character ≠ [] := by
  have spelled : ∀ entry ∈ spelledCapitals, entry.2 ≠ [] := by decide
  unfold capital
  dsimp only
  split
  · split
    · exact List.cons_ne_nil _ _
    · exact List.cons_ne_nil _ _
  · split
    · exact List.cons_ne_nil _ _
    · split
      · rename_i code codes found
        intro none
        exact spelled _ (List.mem_of_find?_eq_some found) (List.map_eq_nil_iff.mp none)
      · exact List.cons_ne_nil _ _

theorem upper_eq_nil_iff {text : Text} : upper text = [] ↔ text = [] := by
  constructor
  · intro empty
    cases text with
    | nil => rfl
    | cons first rest =>
        exact absurd (List.flatMap_eq_nil_iff.mp empty first List.mem_cons_self)
          (capital_ne_nil first)
  · intro empty
    rw [empty]
    rfl

theorem trim_eq_nil_iff {text : Text} : trim text = [] ↔ isAllBlank text = true := by
  rw [trim, trimEnd, List.reverse_eq_nil_iff, List.dropWhile_eq_nil_iff, isAllBlank,
    List.all_eq_true]
  simp only [List.mem_reverse]
  constructor
  · intro blanks character member
    rw [← List.takeWhile_append_dropWhile (p := isBlank) (l := text)] at member
    rcases List.mem_append.mp member with leading | behind
    · exact List.mem_takeWhile_imp leading
    · exact blanks character behind
  · intro blanks character member
    exact blanks character ((List.dropWhile_sublist isBlank).subset member)

end Text

/-! ## Words that stand for something -/

theorem isSome_find?_name {Choice : Type} (nameOf : Choice → Text) (all : List Choice) (word : Text) :
    (all.find? fun choice => nameOf choice == word).isSome = (all.map nameOf).contains word := by
  rw [Bool.eq_iff_iff, List.find?_isSome, List.contains_iff_mem, List.mem_map]
  exact exists_congr fun choice => and_congr_right fun _ => beq_iff_eq

theorem Strategy.isSome_named? (word : Text) :
    (Strategy.named? word).isSome = (Strategy.all.map Strategy.name).contains word :=
  isSome_find?_name Strategy.name Strategy.all word

theorem Padding.isSome_named? (word : Text) :
    (Padding.named? word).isSome = (Padding.all.map Padding.name).contains word :=
  isSome_find?_name Padding.name Padding.all word

theorem ZonePrefill.isSome_named? (word : Text) :
    (ZonePrefill.named? word).isSome = (ZonePrefill.all.map ZonePrefill.name).contains word :=
  isSome_find?_name ZonePrefill.name ZonePrefill.all word

/-! ## What a definition says -/

/-- What a rule needs in order to be used: words that stand for something and room for an
exchange. -/
structure RuleOf.IsAllowed {Switch : Type} (rule : RuleOf Switch) : Prop where
  strategy : rule.strategy.name ∈ Strategy.all.map Strategy.name
  padding : rule.padding.name ∈ Padding.all.map Padding.name
  zonePrefill : rule.zonePrefill.name ∈ ZonePrefill.all.map ZonePrefill.name
  width : 1 ≤ rule.width

theorem RuleOf.isAllowed_of_width {Switch : Type} {rule : RuleOf Switch} (wide : 1 ≤ rule.width) :
    rule.IsAllowed := by
  constructor
  · cases rule.strategy <;> decide
  · cases rule.padding <;> decide
  · cases rule.zonePrefill <;> decide
  · exact wide

namespace RuleBook

variable {depth : Nat} {start rule : RuleOf Value} {fields : List (Value × Value)} {name : Text}

/-- Whether a field is missing or one of some words. -/
def hasWord (depth : Nat) (fields : List (Value × Value)) (field : String)
    (words : List Text) : Bool :=
  (changeOf fields field).all fun value => (wordOf depth value).toOption.any (words.contains ·)

/-- Whether the words in a definition all stand for something. -/
def hasWords (depth : Nat) (fields : List (Value × Value)) : Bool :=
  hasWord depth fields "strategy" (Strategy.all.map Strategy.name) &&
    hasWord depth fields "serial_padding" (Padding.all.map Padding.name) &&
    hasWord depth fields "zone_prefill" (ZonePrefill.all.map ZonePrefill.name)

/-- Whether a definition has no width, or one with room for an exchange. -/
def hasWidth (fields : List (Value × Value)) : Bool :=
  (changeOf fields "exchange_width").all fun value =>
    value.toInt.toOption.any fun width => decide (1 ≤ width)

/-- Whether all fields of a definition can be used. -/
def isUsable (depth : Nat) (fields : List (Value × Value)) : Bool :=
  hasWords depth fields && hasWidth fields

/-- A field as it is read from a definition, else the one before. -/
def given {Setting : Type} (fields : List (Value × Value)) (field : String)
    (read : Value → Option Setting) (before : Setting) : Setting :=
  ((changeOf fields field).bind read).getD before

/-- What a word in a definition stands for. -/
def choiceOf {Choice : Type} (depth : Nat) (named? : Text → Option Choice) (value : Value) :
    Option Choice :=
  (wordOf depth value).toOption.bind named?

/-- The rule with the fields of a definition instead of its own. -/
def applied (depth : Nat) (start : RuleOf Value) (fields : List (Value × Value)) : RuleOf Value :=
  { name := start.name
    strategy := given fields "strategy" (choiceOf depth Strategy.named?) start.strategy
    width := given fields "exchange_width" (fun value => value.toInt.toOption) start.width
    recallExchange := given fields "recall_exchange" some start.recallExchange
    padding := given fields "serial_padding" (choiceOf depth Padding.named?) start.padding
    padForeignOnly := given fields "pad_foreign_only" some start.padForeignOnly
    serialOrSection := given fields "serial_or_section" some start.serialOrSection
    locatorCheck := given fields "locator_check" some start.locatorCheck
    zonePrefill := given fields "zone_prefill" (choiceOf depth ZonePrefill.named?)
      start.zonePrefill
    continentPrefill := given fields "continent_prefill" some start.continentPrefill
    stateProvinceCountries := given fields "state_province_countries"
      (fun value => (countriesOf depth value).toOption) start.stateProvinceCountries
    isContest := given fields "is_contest" some start.isContest }

theorem changed_eq_given (field : String) (before : Value) :
    changed fields field before = given fields field some before := by
  rw [changed, given, Option.bind_fun_some]

theorem changedCountries_eq_given {before countries : List Text}
    (read : changedCountries depth fields before = .ok countries) :
    countries = given fields "state_province_countries"
      (fun value => (countriesOf depth value).toOption) before := by
  unfold changedCountries at read
  unfold given
  split at read
  · rename_i value found
    rw [found, Option.bind_some, read]
    rfl
  · rename_i missing
    rw [missing]
    exact (Except.ok.inj read).symm

theorem changedWord_eq {Choice : Type} {named? : Text → Option Choice} {words : List Text}
    {field : String} {before : Choice} {choice? : Option Choice}
    (known : ∀ word, (named? word).isSome = words.contains word)
    (read : changedWord depth fields field named? before = .ok choice?) :
    choice? =
      if hasWord depth fields field words then
        some (given fields field (choiceOf depth named?) before)
      else none := by
  unfold changedWord at read
  unfold hasWord given choiceOf
  cases written : changeOf fields field with
  | none =>
      rw [written] at read
      exact (Except.ok.inj read).symm
  | some value =>
      rw [written] at read
      rcases map_eq_ok_iff.mp read with ⟨word, spelled, chosen⟩
      simp only [Option.all_some, Option.bind_some, spelled, Except.toOption, Option.any_some,
        ← known, ← chosen]
      cases named? word with
      | none => rfl
      | some choice => rfl

theorem changedWidth_eq {before : Int} {width? : Option Int} (wide : 1 ≤ before)
    (read : changedWidth fields before = .ok width?) :
    (width?.filter fun width => decide (1 ≤ width)) =
      if hasWidth fields then
        some (given fields "exchange_width" (fun value => value.toInt.toOption) before)
      else none := by
  unfold changedWidth at read
  unfold hasWidth given
  cases given : changeOf fields "exchange_width" with
  | none =>
      rw [given] at read
      rw [← Except.ok.inj read]
      exact Option.filter_some_pos (decide_eq_true wide)
  | some value =>
      rw [given] at read
      dsimp only at read
      simp only [Option.all_some, Option.bind_some]
      cases number : value.toInt with
      | ok width =>
          rw [number] at read
          rw [← Except.ok.inj read]
          simp [Except.toOption, Option.filter_some]
      | error fault =>
          rw [number] at read
          cases fault <;> cases read <;> rfl

theorem define_eq {result : Option (RuleOf Value)} (wide : 1 ≤ start.width)
    (defined : define depth start fields = .ok result) :
    result = if isUsable depth fields then some (applied depth start fields) else none := by
  unfold define at defined
  rcases bind_eq_ok_iff.mp defined with ⟨countries, listed, afterCountries⟩
  rcases bind_eq_ok_iff.mp afterCountries with ⟨strategy?, strategic, afterStrategy⟩
  rcases bind_eq_ok_iff.mp afterStrategy with ⟨padding?, padded, afterPadding⟩
  rcases bind_eq_ok_iff.mp afterPadding with ⟨zonePrefill?, prefilled, afterZone⟩
  rcases bind_eq_ok_iff.mp afterZone with ⟨width?, measured, last⟩
  have room := changedWidth_eq wide measured
  rw [changedWord_eq Strategy.isSome_named? strategic, changedWord_eq Padding.isSome_named? padded,
    changedWord_eq ZonePrefill.isSome_named? prefilled, changedCountries_eq_given listed] at last
  refine Except.ok.inj (last.symm.trans ?_)
  simp only [changed_eq_given]
  unfold isUsable hasWords
  cases hasWord depth fields "strategy" (Strategy.all.map Strategy.name) with
  | false => rfl
  | true =>
      cases hasWord depth fields "serial_padding" (Padding.all.map Padding.name) with
      | false => rfl
      | true =>
          cases hasWord depth fields "zone_prefill" (ZonePrefill.all.map ZonePrefill.name) with
          | false => rfl
          | true =>
              generalize hasWidth fields = fits at room ⊢
              cases width? with
              | none =>
                  cases fits with
                  | false => rfl
                  | true => cases room
              | some width =>
                  rw [Option.filter_some] at room
                  by_cases wideNow : 1 ≤ width
                  · have notShort : ¬ width < 1 := by omega
                    rw [decide_eq_true wideNow] at room
                    simp only [if_true, if_neg notShort]
                    cases fits with
                    | false => cases room
                    | true =>
                        rw [Option.some.inj room]
                        rfl
                  · have short : width < 1 := by omega
                    rw [decide_eq_false wideNow] at room
                    simp only [if_true, if_pos short]
                    cases fits with
                    | false => rfl
                    | true => cases room

/-! ## A book with one rule put in -/

/-- What holds of a book all along: a name has one rule only, with room for an exchange. -/
structure IsSound (book : RuleBook) : Prop where
  nodup : book.names.Nodup
  wide : ∀ rule ∈ book.rules, 1 ≤ rule.width

theorem isSound_builtIn : builtIn.IsSound := ⟨by decide, by decide⟩

variable {book : RuleBook}

theorem any_name_iff (book : RuleBook) (name : Text) :
    (book.rules.any fun known => known.name == name) = true ↔ name ∈ book.names := by
  rw [List.any_eq_true, names, List.mem_map]
  exact exists_congr fun known => and_congr_right fun _ => beq_iff_eq

theorem name_of_find? (found : book.find? name = some rule) : rule.name = name := by
  have same := List.find?_some (p := fun known : RuleOf Value => known.name == name) found
  exact beq_iff_eq.mp same

theorem find?_isSome_iff : (book.find? name).isSome ↔ name ∈ book.names := by
  rw [find?, List.find?_isSome, ← any_name_iff, List.any_eq_true]

theorem find?_eq_none_iff : book.find? name = none ↔ name ∉ book.names := by
  rw [← find?_isSome_iff, Option.not_isSome_iff_eq_none]

/-- A name that is in use once only finds its own rule. -/
theorem IsSound.find?_of_mem (sound : book.IsSound) (member : rule ∈ book.rules) :
    book.find? rule.name = some rule := by
  have listed : rule.name ∈ book.names := List.mem_map_of_mem member
  rcases Option.isSome_iff_exists.mp (find?_isSome_iff.mpr listed) with ⟨known, found⟩
  have same := List.inj_on_of_nodup_map sound.nodup (List.mem_of_find?_eq_some found) member
    (name_of_find? found)
  rw [found, same]

theorem put_of_mem (listed : rule.name ∈ book.names) :
    book.put rule =
      ⟨book.rules.map fun known => if known.name == rule.name then rule else known⟩ :=
  if_pos ((any_name_iff book rule.name).mpr listed)

theorem put_of_not_mem (unlisted : rule.name ∉ book.names) :
    book.put rule = ⟨book.rules ++ [rule]⟩ :=
  if_neg fun listed => unlisted ((any_name_iff book rule.name).mp listed)

/-- A rule in the place of another one of its name has that name. -/
theorem name_replaced (rule known : RuleOf Value) :
    (if known.name == rule.name then rule else known).name = known.name := by
  by_cases same : known.name = rule.name
  · rw [if_pos (beq_iff_eq.mpr same), same]
  · rw [if_neg (beq_iff_eq.not.mpr same)]

theorem find?_put (book : RuleBook) (rule : RuleOf Value) (name : Text) :
    (book.put rule).find? name = if rule.name = name then some rule else book.find? name := by
  by_cases listed : rule.name ∈ book.names
  · rw [put_of_mem listed, find?, List.find?_map]
    have keeps : ((fun known : RuleOf Value => known.name == name) ∘ fun known =>
        if known.name == rule.name then rule else known) = fun known => known.name == name :=
      funext fun known => congrArg (· == name) (name_replaced rule known)
    rw [keeps, ← find?]
    cases found : book.find? name with
    | none =>
        have other : rule.name ≠ name := by
          intro same
          exact find?_eq_none_iff.mp found (same ▸ listed)
        rw [if_neg other]
        rfl
    | some known =>
        rw [Option.map_some, name_of_find? found]
        by_cases same : rule.name = name
        · rw [if_pos same, if_pos (beq_iff_eq.mpr same.symm)]
        · rw [if_neg same, if_neg (beq_iff_eq.not.mpr (Ne.symm same))]
  · rw [put_of_not_mem listed, find?, List.find?_append, ← find?, List.find?_singleton]
    by_cases same : rule.name = name
    · rw [find?_eq_none_iff.mpr (same ▸ listed), if_pos same, if_pos (beq_iff_eq.mpr same)]
      rfl
    · rw [if_neg same, if_neg (beq_iff_eq.not.mpr same), Option.or_none]

theorem names_put (book : RuleBook) (rule : RuleOf Value) :
    (book.put rule).names =
      if rule.name ∈ book.names then book.names else book.names ++ [rule.name] := by
  by_cases listed : rule.name ∈ book.names
  · rw [put_of_mem listed, if_pos listed, names, names, List.map_map]
    exact List.map_congr_left fun known _ => name_replaced rule known
  · rw [put_of_not_mem listed, if_neg listed, names, List.map_append]
    rfl

theorem mem_of_mem_put {known : RuleOf Value} (member : known ∈ (book.put rule).rules) :
    known = rule ∨ known ∈ book.rules := by
  by_cases listed : rule.name ∈ book.names
  · rw [put_of_mem listed] at member
    rcases List.mem_map.mp member with ⟨before, present, replaced⟩
    by_cases same : (before.name == rule.name) = true
    · rw [if_pos same] at replaced
      exact .inl replaced.symm
    · rw [if_neg same] at replaced
      exact .inr (replaced ▸ present)
  · rw [put_of_not_mem listed] at member
    rcases List.mem_append.mp member with present | added
    · exact .inr present
    · exact .inl (List.mem_singleton.mp added)

theorem IsSound.put (sound : book.IsSound) (wide : 1 ≤ rule.width) : (book.put rule).IsSound := by
  constructor
  · rw [names_put]
    by_cases listed : rule.name ∈ book.names
    · rw [if_pos listed]
      exact sound.nodup
    · rw [if_neg listed, ← List.concat_eq_append]
      exact sound.nodup.concat listed
  · intro known member
    rcases mem_of_mem_put member with added | present
    · rw [added]
      exact wide
    · exact sound.wide known present

theorem name_startOf (book : RuleBook) (name : Text) : (book.startOf name).name = name := by
  unfold startOf
  cases found : book.find? name with
  | none => rfl
  | some rule => exact name_of_find? found

theorem IsSound.wide_startOf (sound : book.IsSound) (name : Text) :
    1 ≤ (book.startOf name).width := by
  unfold startOf
  cases found : book.find? name with
  | none => exact (by decide : (1 : Int) ≤ 24)
  | some rule => exact sound.wide rule (List.mem_of_find?_eq_some found)

/-! ## Definitions one after the other -/

/-- The book with a definition of a name applied to the rule of that name. -/
def install (depth : Nat) (book : RuleBook) (definition : Text × List (Value × Value)) :
    RuleBook :=
  book.put (applied depth (book.startOf definition.1) definition.2)

/-- The rule of a name after a definition. -/
def amended (depth : Nat) (name : Text) (rule? : Option (RuleOf Value))
    (fields : List (Value × Value)) : Option (RuleOf Value) :=
  some (applied depth (rule?.getD ((Rule.blank name).map Value.bool)) fields)

theorem find?_install (book : RuleBook) (definition : Text × List (Value × Value))
    (name : Text) :
    (install depth book definition).find? name =
      if definition.1 = name then amended depth name (book.find? name) definition.2
      else book.find? name := by
  have named : (applied depth (book.startOf definition.1) definition.2).name = definition.1 :=
    name_startOf book definition.1
  rw [install, find?_put, named]
  by_cases same : definition.1 = name
  · rw [if_pos same, if_pos same, same]
    rfl
  · rw [if_neg same, if_neg same]

theorem wide_applied (usable : isUsable depth fields = true) (wide : 1 ≤ start.width) :
    1 ≤ (applied depth start fields).width := by
  have room : hasWidth fields = true := (Bool.and_eq_true_iff.mp usable).2
  show 1 ≤ given fields "exchange_width" (fun value => value.toInt.toOption) start.width
  unfold hasWidth at room
  unfold given
  cases written : changeOf fields "exchange_width" with
  | none => exact wide
  | some value =>
      rw [written, Option.all_some] at room
      rw [Option.bind_some]
      cases number : value.toInt.toOption with
      | none => exact wide
      | some width =>
          rw [number] at room
          exact of_decide_eq_true room

theorem IsSound.install (sound : book.IsSound) (name : Text)
    (usable : isUsable depth fields = true) : (install depth book (name, fields)).IsSound :=
  sound.put (wide_applied usable (sound.wide_startOf name))

/-- A usable definition is installed, and any other one changes nothing and is named. -/
theorem defineAll_cons {rest : List (Text × List (Value × Value))} {merged : RuleBook}
    {skipped : List Text} (sound : book.IsSound)
    (defined : book.defineAll depth ((name, fields) :: rest) = .ok (merged, skipped)) :
    (isUsable depth fields = true ∧
        (install depth book (name, fields)).defineAll depth rest = .ok (merged, skipped)) ∨
      (isUsable depth fields = false ∧
        ∃ later, skipped = name :: later ∧ book.defineAll depth rest = .ok (merged, later)) := by
  unfold defineAll at defined
  cases step : define depth (book.startOf name) fields with
  | error fault =>
      rw [step] at defined
      cases defined
  | ok result =>
      have applies := define_eq (sound.wide_startOf name) step
      rw [step, applies] at defined
      cases usable : isUsable depth fields with
      | true =>
          rw [usable] at defined
          exact .inl ⟨rfl, defined⟩
      | false =>
          rw [usable] at defined
          cases others : book.defineAll depth rest with
          | error fault =>
              rw [others] at defined
              cases defined
          | ok outcome =>
              rw [others] at defined
              cases defined
              exact .inr ⟨rfl, outcome.2, rfl, rfl⟩

/-- The names of the definitions that cannot be used. -/
def unusable (depth : Nat) (definitions : List (Text × List (Value × Value))) : List Text :=
  definitions.filterMap fun definition =>
    if isUsable depth definition.2 then none else some definition.1

/-- A run over definitions installs the usable ones in turn and names the others. -/
theorem defineAll_eq {definitions : List (Text × List (Value × Value))} {merged : RuleBook}
    {skipped : List Text} (sound : book.IsSound)
    (defined : book.defineAll depth definitions = .ok (merged, skipped)) :
    merged = (definitions.filter fun definition => isUsable depth definition.2).foldl
        (install depth) book ∧
      skipped = unusable depth definitions ∧ merged.IsSound := by
  induction definitions generalizing book skipped with
  | nil =>
      cases defined
      exact ⟨rfl, rfl, sound⟩
  | cons definition rest inductionHypothesis =>
      rcases definition with ⟨name, fields⟩
      rcases defineAll_cons sound defined with ⟨usable, later⟩ | ⟨useless, names, named, later⟩
      · rcases inductionHypothesis (sound.install name usable) later with ⟨books, others, kept⟩
        refine ⟨?_, ?_, kept⟩
        · rw [List.filter_cons, if_pos usable, List.foldl_cons]
          exact books
        · rw [unusable, List.filterMap_cons, if_pos usable]
          exact others
      · rcases inductionHypothesis sound later with ⟨books, others, kept⟩
        have refused : ¬ isUsable depth fields = true := by
          rw [useless]
          exact Bool.false_ne_true
        refine ⟨?_, ?_, kept⟩
        · rw [List.filter_cons, if_neg refused]
          exact books
        · rw [unusable, List.filterMap_cons, if_neg refused, named, others]
          rfl

/-- The definitions of one name, without the name. -/
def ownOf (name : Text) (definitions : List (Text × List (Value × Value))) :
    List (List (Value × Value)) :=
  definitions.filterMap fun definition => if definition.1 = name then some definition.2 else none

/-- The rule of a name is changed by the definitions of that name only. -/
theorem find?_foldl_install (definitions : List (Text × List (Value × Value)))
    (book : RuleBook) (name : Text) :
    (definitions.foldl (install depth) book).find? name =
      (ownOf name definitions).foldl (amended depth name) (book.find? name) := by
  induction definitions generalizing book with
  | nil => rfl
  | cons definition rest inductionHypothesis =>
      rw [List.foldl_cons, inductionHypothesis, find?_install, ownOf, ownOf, List.filterMap_cons]
      by_cases same : definition.1 = name
      · rw [if_pos same, if_pos same]
        rfl
      · rw [if_neg same, if_neg same]

/-! ## Documents -/

/-- The fields of an entry that defines the rule of a name, usable or not. -/
def fieldsFor? (name : Text) : Value × Value → Option (List (Value × Value))
  | (.text written, .mapping fields) =>
      if ¬ written.isAllBlank ∧ Text.upper (Text.trim written) = name then some fields else none
  | _ => none

/-- The name of an entry that defines a rule by fields that cannot be used. -/
def uselessName? (depth : Nat) : Value × Value → Option Text
  | (.text written, .mapping fields) =>
      if written.isAllBlank || isUsable depth fields then none
      else some (Text.upper (Text.trim written))
  | _ => none

/-- The rule that the entries of a document give a name: its usable definitions in the order of the
document, applied to the built-in rule or to a blank one. -/
def mergedRule (depth : Nat) (entries : List (Value × Value)) (name : Text) :
    Option (RuleOf Value) :=
  ((entries.filterMap (fieldsFor? name)).filter (isUsable depth)).foldl (amended depth name)
    (builtIn.find? name)

theorem definition?_of_text (written : Text) (fields : List (Value × Value)) :
    definition? (.text written, .mapping fields) =
      if written.isAllBlank then none else some (Text.upper (Text.trim written), fields) := by
  unfold definition?
  dsimp only
  by_cases blank : written.isAllBlank = true
  · rw [if_pos blank, Text.trim_eq_nil_iff.mpr blank]
    rfl
  · have named : Text.upper (Text.trim written) ≠ [] := by
      rw [ne_eq, Text.upper_eq_nil_iff, Text.trim_eq_nil_iff]
      exact blank
    rw [if_neg blank, if_neg (List.isEmpty_iff.not.mpr named)]

theorem fieldsFor?_eq (name : Text) (entry : Value × Value) :
    fieldsFor? name entry =
      (definition? entry).bind fun definition =>
        if definition.1 = name then some definition.2 else none := by
  rcases entry with ⟨key, value⟩
  cases key with
  | text written =>
      cases value with
      | mapping fields =>
          rw [definition?_of_text, fieldsFor?]
          by_cases blank : written.isAllBlank = true
          · rw [if_pos blank, if_neg fun given => given.1 blank]
            rfl
          · rw [if_neg blank, Option.bind_some]
            exact if_congr (and_iff_right blank) rfl rfl
      | _ => rfl
  | _ => rfl

theorem uselessName?_eq (entry : Value × Value) :
    uselessName? depth entry =
      (definition? entry).bind fun definition =>
        if isUsable depth definition.2 then none else some definition.1 := by
  rcases entry with ⟨key, value⟩
  cases key with
  | text written =>
      cases value with
      | mapping fields =>
          rw [definition?_of_text, uselessName?]
          cases written.isAllBlank with
          | true => rfl
          | false => rfl
      | _ => rfl
  | _ => rfl

theorem ownOf_filter_definitionsOf (name : Text) (entries : List (Value × Value)) :
    ownOf name ((definitionsOf entries).filter fun definition => isUsable depth definition.2) =
      (entries.filterMap (fieldsFor? name)).filter (isUsable depth) := by
  have own : entries.filterMap (fieldsFor? name) = ownOf name (definitionsOf entries) := by
    rw [ownOf, definitionsOf, List.filterMap_filterMap]
    exact List.filterMap_congr fun entry _ => fieldsFor?_eq name entry
  rw [own, ownOf, ownOf, List.filterMap_filter, List.filter_filterMap]
  refine List.filterMap_congr fun definition _ => ?_
  by_cases same : definition.1 = name
  · rw [if_pos same, Option.filter_some]
  · rw [if_neg same, Option.filter_none, ite_self]

theorem unusable_definitionsOf (entries : List (Value × Value)) :
    unusable depth (definitionsOf entries) = entries.filterMap (uselessName? depth) := by
  rw [unusable, definitionsOf, List.filterMap_filterMap]
  exact List.filterMap_congr fun entry _ => (uselessName?_eq entry).symm

/-- The entries that a document gives for rules, unless it has another shape. -/
def entriesOf? : Value → Option (List (Value × Value))
  | .mapping root =>
      match Value.lookup? root (Text.ofString "contests") with
      | some (.mapping entries) => some entries
      | some _ => none
      | none => some root
  | other => if other.isSet then none else some []

theorem definitions?_eq (document : Value) :
    definitions? document = (entriesOf? document).map definitionsOf := by
  cases document with
  | mapping root =>
      unfold definitions? entriesOf?
      dsimp only
      cases Value.lookup? root (Text.ofString "contests") with
      | none => rfl
      | some heading => cases heading <;> rfl
  | _ =>
      unfold definitions? entriesOf?
      rw [apply_ite (Option.map definitionsOf)]
      rfl

/-- The entries for rules in the file that a setting names. -/
def entriesAt? (store : Store) (setting : Value) : Option (List (Value × Value)) :=
  (pathOf store.form.depth setting).toOption.bind fun path =>
    if path.isEmpty then none else (store.readDocument path).toOption.bind entriesOf?

theorem entriesAt?_eq (store : Store) (setting : Value) :
    entriesAt? store setting = (documentAt? store setting).bind fun found => entriesOf? found.2 := by
  rw [entriesAt?, documentAt?, Option.bind_assoc]
  congr 1
  funext path
  cases path.isEmpty with
  | true => rfl
  | false =>
      rw [if_neg Bool.false_ne_true, if_neg Bool.false_ne_true, Option.bind_map]
      rfl

theorem ofDocument_cases {path : Text} {document : Value} {warning : Option Text}
    (loaded : ofDocument depth path document = .ok (book, warning)) :
    (entriesOf? document = none ∧ book = builtIn) ∨
      ∃ entries skipped, entriesOf? document = some entries ∧
        builtIn.defineAll depth (definitionsOf entries) = .ok (book, skipped) ∧
        warning = warningOf skipped := by
  unfold ofDocument at loaded
  rw [definitions?_eq] at loaded
  cases listed : entriesOf? document with
  | none =>
      rw [listed] at loaded
      cases loaded
      exact .inl ⟨rfl, rfl⟩
  | some entries =>
      rw [listed, Option.map_some] at loaded
      rcases map_eq_ok_iff.mp loaded with ⟨⟨merged, skipped⟩, defined, same⟩
      cases same
      exact .inr ⟨entries, skipped, rfl, defined, rfl⟩

/-- What the book of a loaded file comes from. -/
theorem load_cases {store : Store} {setting : Value} {warning : Option Text}
    (loaded : load store setting = .ok (book, warning)) :
    (entriesAt? store setting = none ∧ book = builtIn) ∨
      ∃ entries skipped, entriesAt? store setting = some entries ∧
        builtIn.defineAll store.form.depth (definitionsOf entries) = .ok (book, skipped) ∧
        warning = warningOf skipped := by
  rw [entriesAt?_eq]
  rcases opening_meets (fun result => result.1 = builtIn) rfl (fun _ => rfl) (fun _ => rfl)
    loaded with ⟨nothing, unchanged⟩ | ⟨path, document, there, done⟩
  · rw [nothing]
    exact .inl ⟨rfl, unchanged⟩
  · rw [there]
    exact ofDocument_cases done

/-- A run over the definitions of a document gives each name its merged rule. -/
theorem find?_of_defineAll {entries : List (Value × Value)} {skipped : List Text}
    (defined : builtIn.defineAll depth (definitionsOf entries) = .ok (book, skipped))
    (name : Text) : book.find? name = mergedRule depth entries name := by
  rw [(defineAll_eq isSound_builtIn defined).1, find?_foldl_install, ownOf_filter_definitionsOf]
  rfl

theorem isSome_foldl_amended (name : Text) (definitions : List (List (Value × Value)))
    {rule? : Option (RuleOf Value)} (present : rule?.isSome = true) :
    (definitions.foldl (amended depth name) rule?).isSome = true := by
  induction definitions generalizing rule? with
  | nil => exact present
  | cons fields rest inductionHypothesis => exact inductionHypothesis rfl

theorem isSome_mergedRule (entries : List (Value × Value)) (builtInName : name ∈ builtIn.names) :
    (mergedRule depth entries name).isSome = true :=
  isSome_foldl_amended name _ (find?_isSome_iff.mpr builtInName)

/-- A loaded book has one rule for each name, and all of its rules can be used.  A name has what its
usable definitions make of the built-in rule or of a blank one, and the others are only named. -/
theorem load_merges_usable_definitions {store : Store} {setting : Value} {book : RuleBook}
    {warning : Option Text} (loaded : load store setting = .ok (book, warning)) :
    book.names.Nodup ∧
      (∀ rule ∈ book.rules, book.find? rule.name = some rule ∧ rule.IsAllowed) ∧
      (∀ name ∈ builtIn.names, name ∈ book.names) ∧
      (∀ name, book.find? name =
        mergedRule store.form.depth ((entriesAt? store setting).getD []) name) ∧
      ∀ entries, entriesAt? store setting = some entries →
        warning = warningOf (entries.filterMap (uselessName? store.form.depth)) := by
  have sound : book.IsSound := by
    rcases load_cases loaded with ⟨_, unchanged⟩ | ⟨_, _, _, defined, _⟩
    · rw [unchanged]
      exact isSound_builtIn
    · exact (defineAll_eq isSound_builtIn defined).2.2
  have merged : ∀ name,
      book.find? name =
        mergedRule store.form.depth ((entriesAt? store setting).getD []) name := by
    intro name
    rcases load_cases loaded with ⟨nothing, unchanged⟩ | ⟨entries, _, listed, defined, _⟩
    · rw [nothing, unchanged]
      rfl
    · rw [listed]
      exact find?_of_defineAll defined name
  refine ⟨sound.nodup, ?_, ?_, merged, ?_⟩
  · intro rule member
    exact ⟨sound.find?_of_mem member, RuleOf.isAllowed_of_width (sound.wide rule member)⟩
  · intro name builtInName
    rw [← find?_isSome_iff, merged name]
    exact isSome_mergedRule _ builtInName
  · intro entries listed
    rcases load_cases loaded with ⟨nothing, _⟩ | ⟨_, skipped, found, defined, warned⟩
    · rw [nothing] at listed
      cases listed
    · rw [found] at listed
      cases listed
      rw [warned, (defineAll_eq isSound_builtIn defined).2.1, unusable_definitionsOf]

end RuleBook

/-- A store with a single file, in which there is a document in flow style. -/
def Store.ofFile (path : String) (document : Value) : Store :=
  ⟨Flow.form 100, [(.ofPath (Text.ofString path), .file (.document document))]⟩

namespace RuleBook

/-- A new name in two spellings, a strategy that there is not, and a key that is no name. -/
def spellings : List (Value × Value) :=
  [(.ofString "mine", .fields [("strategy", .ofString "Grid")]),
    (.ofString "cqww", .fields [("strategy", .ofString "none such"), ("exchange_width", .int 9)]),
    (.int 7, .fields [("exchange_width", .int 9)]),
    (.ofString " Mine ", .fields [("exchange_width", .ofString "10")])]

theorem load_merges_spellings :
    ∃ book warning,
      load (.ofFile "rules" (.mapping spellings)) (.ofString "rules") = .ok (book, warning) ∧
      warning = some (Text.ofString "Ignored invalid contest definitions: CQWW.") ∧
      book.find? (Text.ofString "CQWW") = builtIn.find? (Text.ofString "CQWW") ∧
      book.find? (Text.ofString "MINE") =
        some { (Rule.blank (Text.ofString "MINE")).map Value.bool with
          strategy := .grid, width := 10 } := by
  have loads : ∃ outcome,
      load (.ofFile "rules" (.mapping spellings)) (.ofString "rules") = .ok outcome := ⟨_, rfl⟩
  rcases loads with ⟨⟨book, warning⟩, loaded⟩
  rcases load_merges_usable_definitions loaded with ⟨_, _, _, merged, warned⟩
  exact ⟨book, warning, loaded, warned spellings rfl, (merged _).trans rfl, (merged _).trans rfl⟩

end RuleBook
end ContestExchange
