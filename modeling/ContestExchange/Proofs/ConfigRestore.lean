import ContestExchange.Proofs.CapitalForm
import ContestExchange.Proofs.ConfigRange
import ContestExchange.Proofs.StoreWrite
import ContestExchange.Proofs.WrittenValue

namespace ContestExchange

/-!
# Configurations saved and loaded again

What a part of a configuration is saved as gives the same part again, because every setting that is
brought into range stays as it is when that is done a second time.

There are three exceptions.  A call or a contest's name that counts as off is replaced by the standard
one, and only after that it is trimmed: a blank one is saved as an empty one, which is replaced when
it is read.  A setting that is kept as the document has it may have a pair in it, which is saved as a
list.  And a part whose list of settings is empty is saved without any, so that it has to be the
standard part.

A list of settings is no setting itself, so configurations are compared without it.
-/

/-! ## What is restored -/

/-- A station without its list of settings. -/
def StationConfig.plain (station : StationConfig) : StationConfig :=
  { station with listing := .full }

/-- A contest without its list of settings. -/
def ContestConfig.plain (contest : ContestConfig) : ContestConfig :=
  { contest with listing := .full }

/-- A keyer without its list of settings. -/
def KeyerConfig.plain (keyer : KeyerConfig) : KeyerConfig :=
  { keyer with listing := .full }

/-- A console without its list of settings. -/
def ConsoleConfig.plain (console : ConsoleConfig) : ConsoleConfig :=
  { console with listing := .full }

/-- A configuration without its lists of settings. -/
def Config.plain (config : Config) : Config :=
  ⟨config.station.plain, config.contest.plain, config.keyer.plain, config.console.plain⟩

/-- The settings of a contest that are kept as a document has them. -/
def ContestConfig.kept (contest : ContestConfig) : List Value :=
  [contest.rulesFile, contest.templatesFile, contest.multipliersFile]

/-- The settings of a keyer that are kept as a document has them. -/
def KeyerConfig.kept (keyer : KeyerConfig) : List Value :=
  [keyer.pitch, keyer.sampleRate, keyer.outputDevice]

/-- The settings of a console that are kept as a document has them. -/
def ConsoleConfig.kept (console : ConsoleConfig) : List Value :=
  [console.ctCompatible, console.callUpdate, console.changeReport]

/-- A contest as it is read again, with a name. -/
def ContestConfig.asWritten (contest : ContestConfig) (name : Text) : ContestConfig :=
  { name := name
    rulesFile := contest.rulesFile.asWritten
    templatesFile := contest.templatesFile.asWritten
    multipliersFile := contest.multipliersFile.asWritten }

/-- A keyer as it is read again. -/
def KeyerConfig.asWritten (keyer : KeyerConfig) : KeyerConfig :=
  { keyer.plain with
    pitch := keyer.pitch.asWritten
    sampleRate := keyer.sampleRate.asWritten
    outputDevice := keyer.outputDevice.asWritten }

/-- A console as it is read again. -/
def ConsoleConfig.asWritten (console : ConsoleConfig) : ConsoleConfig :=
  { console.plain with
    ctCompatible := console.ctCompatible.asWritten
    callUpdate := console.callUpdate.asWritten
    changeReport := console.changeReport.asWritten }

theorem ContestConfig.asWritten_eq_plain_iff {contest : ContestConfig} {name : Text} :
    contest.asWritten name = contest.plain ↔
      name = contest.name ∧ ∀ value ∈ contest.kept, ¬ value.HasPair := by
  rw [← Value.itemsAsWritten_eq_self_iff]
  simp only [asWritten, plain, kept, mk.injEq, Value.itemsAsWritten, List.cons.injEq, and_true]

theorem KeyerConfig.asWritten_eq_plain_iff {keyer : KeyerConfig} :
    keyer.asWritten = keyer.plain ↔ ∀ value ∈ keyer.kept, ¬ value.HasPair := by
  rw [← Value.itemsAsWritten_eq_self_iff]
  simp only [asWritten, plain, kept, mk.injEq, Value.itemsAsWritten, List.cons.injEq, and_true,
    true_and]

theorem ConsoleConfig.asWritten_eq_plain_iff {console : ConsoleConfig} :
    console.asWritten = console.plain ↔ ∀ value ∈ console.kept, ¬ value.HasPair := by
  rw [← Value.itemsAsWritten_eq_self_iff]
  simp only [asWritten, plain, kept, mk.injEq, Value.itemsAsWritten, List.cons.injEq, and_true]

/-- What a part has to be to be restored: anything of some kind if its settings are written, the
standard part if none is. -/
def Listing.Restores (listing : Listing) (written standard : Prop) : Prop :=
  match listing with
  | .full => written
  | .empty => standard
  | .unusable => False

/-- What a configuration has to be to be restored from its file. -/
structure Config.IsRestorable (config : Config) : Prop where
  station : config.station.listing.Restores (config.station.myCall ≠ [])
    (config.station.plain = Config.standard.station)
  contest : config.contest.listing.Restores
    (config.contest.name ≠ [] ∧ ∀ value ∈ config.contest.kept, ¬ value.HasPair)
    (config.contest.plain = Config.standard.contest)
  keyer : config.keyer.listing.Restores (∀ value ∈ config.keyer.kept, ¬ value.HasPair)
    (config.keyer.plain = Config.standard.keyer)
  console : config.console.listing.Restores (∀ value ∈ config.console.kept, ¬ value.HasPair)
    (config.console.plain = Config.standard.console)

namespace Config

variable {depth later : Nat} {part : ConfigPart} {value : Value}

/-! ## Settings brought into range twice -/

/-- A text in the form of a setting is kept exactly if it is not empty. -/
theorem exists_capitalsOr_text (later : Nat) {text : Text} {standard : String}
    (settled : capitalsOr depth standard value = .ok text)
    (present : Text.upper (Text.trim (Text.ofString standard)) ≠ []) :
    ∃ again, capitalsOr later standard (.text text) = .ok again ∧ (again = text ↔ text ≠ []) := by
  rcases map_eq_ok_iff.mp settled with ⟨plain, read, capital⟩
  rcases map_eq_ok_iff.mp read with ⟨given, _, trimmed⟩
  have isTrimmed : Text.IsTrimmed text := by
    rw [← capital, ← trimmed]
    exact (Text.isTrimmed_trim given).capitals
  cases text with
  | nil => exact ⟨_, rfl, iff_of_false present fun nonempty => nonempty rfl⟩
  | cons first rest =>
      refine ⟨Text.upper (Text.trim (first :: rest)), rfl, ?_⟩
      refine iff_of_true ?_ (List.cons_ne_nil first rest)
      rw [isTrimmed.trim_eq, ← capital, Text.upper_upper]

theorem modeOf_name (depth : Nat) (mode : Mode) : modeOf depth (.text mode.name) = .ok mode := by
  cases mode <;> rfl

theorem directionOf_name (depth : Nat) (direction : QtcDirection) :
    directionOf depth (.text direction.name) = .ok direction := by
  cases direction <;> rfl

theorem speedOf_of_speedOf {wpm : Quantity} (read : speedOf value = .ok wpm) :
    speedOf (.ofQuantity wpm) = .ok wpm := by
  rcases map_eq_ok_iff.mp read with ⟨number, _, same⟩
  rw [← same]
  show Except.ok (Quantity.whole (max 1 (max 1 number))) = .ok (.whole (max 1 number))
  rw [Int.max_eq_right (Int.le_max_left 1 number)]

theorem volumeOf_of_volumeOf {volume : Double} (read : volumeOf value = .ok volume) :
    volumeOf (.double volume) = .ok volume := by
  rcases map_eq_ok_iff.mp read with ⟨number, _, same⟩
  rw [← same]
  exact congrArg Except.ok (between_between lt_volumes number)

theorem pollIntervalOf_of_pollIntervalOf {seconds : Double}
    (read : pollIntervalOf value = .ok seconds) :
    pollIntervalOf (.double seconds) = .ok seconds := by
  rcases map_eq_ok_iff.mp read with ⟨number, _, same⟩
  rw [← same]
  exact congrArg Except.ok (between_between lt_pollIntervals number)

theorem toTexts_texts (depth : Nat) (texts : List Text) :
    Value.toTexts depth (texts.map .text) = .ok texts := by
  unfold Value.toTexts
  induction texts with
  | nil => rfl
  | cons text rest inductionHypothesis =>
      rw [List.map_cons, List.mapM_cons, inductionHypothesis]
      rfl

theorem messagesOf_texts {messages : List Text} (full : messages.length = messageCount) :
    messagesOf depth (.list (messages.map .text)) = .ok messages := by
  have present : (messages.map Value.text).isEmpty = false := by
    rw [List.isEmpty_eq_false_iff, ne_eq, List.map_eq_nil_iff]
    intro empty
    rw [empty] at full
    cases full
  have elements : (Value.list (messages.map .text)).elementsIfSet =
      .ok (messages.map .text) := by
    rw [Value.elementsIfSet, Value.isSet, present]
    rfl
  unfold messagesOf
  rw [elements]
  show (Value.toTexts depth (messages.map .text) >>= _) = _
  rw [toTexts_texts]
  exact congrArg Except.ok (fillMessages_of_length full)

/-! ## Parts written and read -/

/-- Whether a part of a document gives settings. -/
def Gives (value : Value) (part : ConfigPart) : Prop :=
  ∃ settings, value = .mapping settings ∧ ConfigPart.giveAll {} settings = .ok part

theorem listed_cases {listing : Listing} {settings : List (String × Value)}
    (done : listed listing settings = .ok value) :
    (listing = .full ∧ value.asWritten =
        Value.fields (settings.map fun setting => (setting.1, setting.2.asWritten))) ∨
      (listing = .empty ∧ Gives value.asWritten {}) := by
  cases listing with
  | full =>
      cases done
      exact .inl ⟨rfl, Value.asWritten_fields settings⟩
  | empty =>
      cases done
      exact .inr ⟨rfl, [], rfl, rfl⟩
  | unusable => cases done

/-- Whether a name is that of a setting like any other. -/
def isOrdinary (name : String) : Bool :=
  (ConfigPart.refused.all fun entry => entry.1 != Text.ofString name) &&
    Text.ofString name != ConfigPart.wholeName

theorem give_of_isOrdinary {name : String} (ordinary : isOrdinary name = true)
    (settings : List (Value × Value)) (value : Value) :
    ConfigPart.give ⟨settings, false⟩ (Text.ofString name) value =
      .ok ⟨(Value.ofString name, value) :: settings, false⟩ := by
  rw [isOrdinary, Bool.and_eq_true, List.all_eq_true, bne_iff_ne] at ordinary
  have allowed : (ConfigPart.refused.find? fun entry => entry.1 == Text.ofString name) = none := by
    rw [List.find?_eq_none]
    intro entry member
    rw [beq_iff_eq, ← ne_eq, ← bne_iff_ne]
    exact ordinary.1 entry member
  unfold ConfigPart.give
  rw [allowed]
  dsimp only
  rw [if_neg (beq_iff_eq.not.mpr ordinary.2)]
  rfl

/-- Settings of ordinary names are given the latest first. -/
theorem giveAll_of_isOrdinary {settings : List (String × Value)}
    (ordinary : (settings.map Prod.fst).all isOrdinary = true) (known : List (Value × Value)) :
    ConfigPart.giveAll ⟨known, false⟩
        (settings.map fun setting => (Value.ofString setting.1, setting.2)) =
      .ok ⟨(settings.map fun setting => (Value.ofString setting.1, setting.2)).reverse ++ known,
        false⟩ := by
  induction settings generalizing known with
  | nil => rfl
  | cons setting rest inductionHypothesis =>
      rw [List.map_cons, List.all_cons, Bool.and_eq_true] at ordinary
      show (ConfigPart.give _ (Text.ofString setting.1) setting.2 >>= _) = _
      rw [give_of_isOrdinary ordinary.1]
      refine (inductionHypothesis ordinary.2 _).trans ?_
      rw [List.map_cons, List.reverse_cons, List.append_assoc]
      rfl

theorem gives_fields {settings : List (String × Value)}
    (ordinary : (settings.map Prod.fst).all isOrdinary = true) :
    Gives (Value.fields settings)
      ⟨(settings.map fun setting => (Value.ofString setting.1, setting.2)).reverse, false⟩ := by
  refine ⟨_, rfl, ?_⟩
  have given := giveAll_of_isOrdinary ordinary []
  rw [List.append_nil] at given
  exact given

theorem restored_station {station : StationConfig} (given : IsStationOf depth part station)
    (written : stationDocument station = .ok value) :
    ∃ read again, Gives value.asWritten read ∧ IsStationOf later read again ∧
      (again.plain = station.plain ↔
        station.listing.Restores (station.myCall ≠ []) (station.plain = standard.station)) := by
  rcases listed_cases written with ⟨full, same⟩ | ⟨empty, gives⟩
  · have ordinary : ["my_call", "trx_mode"].all isOrdinary = true := by decide
    let read : ConfigPart :=
      ⟨[(.ofString "trx_mode", .text station.mode.name),
        (.ofString "my_call", .text station.myCall)], false⟩
    have gives : Gives value.asWritten read := by
      rw [same]
      exact gives_fields ordinary
    rcases exists_capitalsOr_text later given.myCall (List.cons_ne_nil _ _) with
      ⟨myCall, called, kept⟩
    refine ⟨read, ⟨myCall, station.mode, .full⟩, gives,
      ⟨called, modeOf_name later station.mode, rfl⟩, ?_⟩
    show (⟨myCall, station.mode, .full⟩ : StationConfig) = ⟨station.myCall, station.mode, .full⟩ ↔ _
    rw [full, StationConfig.mk.injEq, and_iff_left ⟨rfl, rfl⟩]
    exact kept
  · refine ⟨{}, standard.station, gives, ⟨rfl, rfl, rfl⟩, ?_⟩
    rw [empty]
    exact eq_comm

theorem restored_contest {contest : ContestConfig} (given : IsContestOf depth part contest)
    (written : contestDocument contest = .ok value) :
    ∃ read again, Gives value.asWritten read ∧ IsContestOf later read again ∧
      (again.plain = contest.plain ↔
        contest.listing.Restores (contest.name ≠ [] ∧ ∀ value ∈ contest.kept, ¬ value.HasPair)
          (contest.plain = standard.contest)) := by
  rcases listed_cases written with ⟨full, same⟩ | ⟨empty, gives⟩
  · have ordinary : ["name", "rules_file", "templates_file", "multipliers_file"].all isOrdinary =
        true := by decide
    let read : ConfigPart :=
      ⟨[(.ofString "multipliers_file", contest.multipliersFile.asWritten),
        (.ofString "templates_file", contest.templatesFile.asWritten),
        (.ofString "rules_file", contest.rulesFile.asWritten),
        (.ofString "name", .text contest.name)], false⟩
    have gives : Gives value.asWritten read := by
      rw [same]
      exact gives_fields ordinary
    rcases exists_capitalsOr_text later given.name (List.cons_ne_nil _ _) with
      ⟨name, named, kept⟩
    refine ⟨read, contest.asWritten name, gives, ⟨named, rfl, rfl, rfl, rfl⟩, ?_⟩
    rw [full]
    show contest.asWritten name = contest.plain ↔ _ ∧ _
    rw [ContestConfig.asWritten_eq_plain_iff, kept]
  · refine ⟨{}, standard.contest, gives, ⟨rfl, rfl, rfl, rfl, rfl⟩, ?_⟩
    rw [empty]
    exact eq_comm

theorem restored_keyer {keyer : KeyerConfig} (given : IsKeyerOf depth part keyer)
    (written : keyerDocument keyer = .ok value) :
    ∃ read again, Gives value.asWritten read ∧ IsKeyerOf later read again ∧
      (again.plain = keyer.plain ↔
        keyer.listing.Restores (∀ value ∈ keyer.kept, ¬ value.HasPair)
          (keyer.plain = standard.keyer)) := by
  rcases listed_cases written with ⟨full, same⟩ | ⟨empty, gives⟩
  · have ordinary : ["wpm", "tone_hz", "volume", "sample_rate", "output_device", "messages"].all
        isOrdinary = true := by decide
    let read : ConfigPart :=
      ⟨[(.ofString "messages", .list (keyer.messages.map .text)),
        (.ofString "output_device", keyer.outputDevice.asWritten),
        (.ofString "sample_rate", keyer.sampleRate.asWritten),
        (.ofString "volume", .double keyer.volume), (.ofString "tone_hz", keyer.pitch.asWritten),
        (.ofString "wpm", .ofQuantity keyer.wpm)], false⟩
    have gives : Gives value.asWritten read := by
      rw [same, List.map_cons, Value.asWritten_ofQuantity]
      simp only [List.map_cons, List.map_nil, Value.asWritten_texts]
      exact gives_fields ordinary
    have filled : keyer.messages.length = messageCount := by
      rcases given.messages with ⟨_, _, read⟩
      rcases bind_eq_ok_iff.mp read with ⟨_, _, spelled⟩
      rcases map_eq_ok_iff.mp spelled with ⟨_, _, messages⟩
      rw [← messages]
      exact length_fillMessages _
    have again : IsKeyerOf later read keyer.asWritten :=
      { wpm := speedOf_of_speedOf given.wpm
        pitch := rfl
        volume := volumeOf_of_volumeOf given.volume
        sampleRate := rfl
        outputDevice := rfl
        messages := ⟨_, rfl, messagesOf_texts filled⟩
        listing := rfl }
    refine ⟨read, keyer.asWritten, gives, again, ?_⟩
    rw [full]
    exact KeyerConfig.asWritten_eq_plain_iff
  · have again : IsKeyerOf later {} standard.keyer :=
      ⟨rfl, rfl, rfl, rfl, rfl, ⟨_, rfl, rfl⟩, rfl⟩
    refine ⟨{}, standard.keyer, gives, again, ?_⟩
    rw [empty]
    exact eq_comm

theorem restored_console {console : ConsoleConfig} (given : IsConsoleOf depth part console)
    (written : consoleDocument console = .ok value) :
    ∃ read again, Gives value.asWritten read ∧ IsConsoleOf later read again ∧
      (again.plain = console.plain ↔
        console.listing.Restores (∀ value ∈ console.kept, ¬ value.HasPair)
          (console.plain = standard.console)) := by
  rcases listed_cases written with ⟨full, same⟩ | ⟨empty, gives⟩
  · have ordinary : ["ct_compat", "call_update", "change_rst", "qtc_direction",
        "poll_interval"].all isOrdinary = true := by decide
    let read : ConfigPart :=
      ⟨[(.ofString "poll_interval", .double console.pollInterval),
        (.ofString "qtc_direction", .text console.qtc.name),
        (.ofString "change_rst", console.changeReport.asWritten),
        (.ofString "call_update", console.callUpdate.asWritten),
        (.ofString "ct_compat", console.ctCompatible.asWritten)], false⟩
    have gives : Gives value.asWritten read := by
      rw [same]
      exact gives_fields ordinary
    have again : IsConsoleOf later read console.asWritten :=
      { ctCompatible := rfl
        callUpdate := rfl
        changeReport := rfl
        qtc := directionOf_name later console.qtc
        pollInterval := pollIntervalOf_of_pollIntervalOf given.pollInterval
        listing := rfl }
    refine ⟨read, console.asWritten, gives, again, ?_⟩
    rw [full]
    exact ConsoleConfig.asWritten_eq_plain_iff
  · have again : IsConsoleOf later {} standard.console := ⟨rfl, rfl, rfl, rfl, rfl, rfl⟩
    refine ⟨{}, standard.console, gives, again, ?_⟩
    rw [empty]
    exact eq_comm

/-! ## Files -/

theorem toDocument_eq_ok_iff {config : Config} :
    config.toDocument = .ok value ↔
      ∃ station contest keyer console, stationDocument config.station = .ok station ∧
        contestDocument config.contest = .ok contest ∧
        keyerDocument config.keyer = .ok keyer ∧
        consoleDocument config.console = .ok console ∧
        value = Value.fields
          [("station", station), ("contest", contest), ("keyer", keyer), ("console", console)] := by
  unfold toDocument
  simp only [bind_eq_ok_iff]
  constructor
  · rintro ⟨station, first, contest, second, keyer, third, console, fourth, done⟩
    exact ⟨station, contest, keyer, console, first, second, third, fourth,
      (Except.ok.inj done).symm⟩
  · rintro ⟨station, contest, keyer, console, first, second, third, fourth, rfl⟩
    exact ⟨station, first, contest, second, keyer, third, console, fourth, rfl⟩

theorem exists_listed_iff {listing : Listing} {settings : List (String × Value)} :
    (∃ value, listed listing settings = .ok value) ↔ listing ≠ .unusable := by
  cases listing with
  | full => exact iff_of_true ⟨_, rfl⟩ nofun
  | empty => exact iff_of_true ⟨_, rfl⟩ nofun
  | unusable => exact iff_of_false (fun ⟨_, done⟩ => nomatch done) (fun usable => usable rfl)

theorem exists_toDocument_iff {config : Config} :
    (∃ value, config.toDocument = .ok value) ↔
      config.station.listing ≠ .unusable ∧ config.contest.listing ≠ .unusable ∧
        config.keyer.listing ≠ .unusable ∧ config.console.listing ≠ .unusable := by
  constructor
  · rintro ⟨value, written⟩
    rcases toDocument_eq_ok_iff.mp written with ⟨_, _, _, _, first, second, third, fourth, _⟩
    exact ⟨exists_listed_iff.mp ⟨_, first⟩, exists_listed_iff.mp ⟨_, second⟩,
      exists_listed_iff.mp ⟨_, third⟩, exists_listed_iff.mp ⟨_, fourth⟩⟩
  · rintro ⟨station, contest, keyer, console⟩
    rcases exists_listed_iff.mpr station with ⟨_, first⟩
    rcases exists_listed_iff.mpr contest with ⟨_, second⟩
    rcases exists_listed_iff.mpr keyer with ⟨_, third⟩
    rcases exists_listed_iff.mpr console with ⟨_, fourth⟩
    exact ⟨_, toDocument_eq_ok_iff.mpr ⟨_, _, _, _, first, second, third, fourth, rfl⟩⟩

/-- A document that configurations are saved as gives the configuration of its parts. -/
theorem ofDocument_toDocument {config : Config} {document : Value}
    (read : ofDocument depth document = .ok config) (written : config.toDocument = .ok value) :
    ∃ again, ofDocument later value.asWritten = .ok again ∧
      (again.plain = config.plain ↔ config.IsRestorable) := by
  rcases ofDocument_eq_ok_iff.mp read with ⟨_, _, _, _, _, _, _, _, _, _, isStation, isContest,
    isKeyer, isConsole⟩
  rcases toDocument_eq_ok_iff.mp written with ⟨_, _, _, _, first, second, third, fourth, same⟩
  rcases restored_station isStation first with
    ⟨station, stationAgain, ⟨stationSettings, stationSame, givesStation⟩, stationRead, sameStation⟩
  rcases restored_contest isContest second with
    ⟨contest, contestAgain, ⟨contestSettings, contestSame, givesContest⟩, contestRead, sameContest⟩
  rcases restored_keyer isKeyer third with
    ⟨keyer, keyerAgain, ⟨keyerSettings, keyerSame, givesKeyer⟩, keyerRead, sameKeyer⟩
  rcases restored_console isConsole fourth with
    ⟨console, consoleAgain, ⟨consoleSettings, consoleSame, givesConsole⟩, consoleRead, sameConsole⟩
  let entries : List (Value × Value) :=
    [(.ofString "station", .mapping stationSettings),
      (.ofString "contest", .mapping contestSettings),
      (.ofString "keyer", .mapping keyerSettings), (.ofString "console", .mapping consoleSettings)]
  refine ⟨⟨stationAgain, contestAgain, keyerAgain, consoleAgain⟩, ?_, ?_⟩
  · have asWritten : value.asWritten = .mapping entries := by
      rw [same, Value.asWritten_fields]
      simp only [List.map_cons, List.map_nil, stationSame, contestSame, keyerSame, consoleSame]
      rfl
    rw [asWritten]
    exact ofDocument_eq_ok_iff.mpr ⟨entries, station, contest, keyer, console, rfl, givesStation,
      givesContest, givesKeyer, givesConsole, stationRead, contestRead, keyerRead, consoleRead⟩
  · unfold plain
    rw [Config.mk.injEq, sameStation, sameContest, sameKeyer, sameConsole]
    exact ⟨fun ⟨first, second, third, fourth⟩ => ⟨first, second, third, fourth⟩,
      fun ⟨first, second, third, fourth⟩ => ⟨first, second, third, fourth⟩⟩

/-- A configuration that was loaded can be saved unless a part lists its settings in a way that
cannot be used.  The saved one is loaded again, and it is the same one exactly if it is restorable:
if neither the call nor the contest's name is empty, no setting that is kept has a pair in it, and a
part that is saved without settings is the standard one. -/
theorem reload_eq_iff {store after : Store} {path : Text} {config : Config}
    (loaded : load store path = .ok (config, after)) :
    ((∃ document, config.toDocument = .ok document) ↔
      config.station.listing ≠ .unusable ∧ config.contest.listing ≠ .unusable ∧
        config.keyer.listing ≠ .unusable ∧ config.console.listing ≠ .unusable) ∧
      ∀ (other written : Store) (target : Text), config.save other target = .ok written →
        ∃ again, load written target = .ok (again, written) ∧
          (again.plain = config.plain ↔ config.IsRestorable) := by
  refine ⟨exists_toDocument_iff, ?_⟩
  intro other written target saved
  have given : ∃ depth document, ofDocument depth document = .ok config := by
    rcases load_eq_ok_iff.mp loaded with ⟨_, _, document, _, given⟩ | ⟨_, same, _⟩
    · exact ⟨_, document, given⟩
    · exact ⟨0, _, same ▸ ofDocument_nil 0⟩
  rcases given with ⟨depth, document, given⟩
  rcases bind_eq_ok_iff.mp saved with ⟨content, listed, put⟩
  rcases Store.read_of_writeDocument put with ⟨there, read⟩
  rcases ofDocument_toDocument given listed with ⟨again, reloaded, same⟩
  exact ⟨again, load_eq_ok_iff.mpr (.inl ⟨there, rfl, _, read, reloaded⟩), same⟩

/-- A document that gives a call. -/
def calling (call : String) : Value :=
  Value.fields [("station", Value.fields [("my_call", .ofString call)])]

/-- A call with blanks around it is kept, one of blanks only becomes the standard one. -/
theorem reload_eq_of_call :
    (∃ config after written again,
      load (.ofFile "c" (calling " ok1wc ")) ['c'] = .ok (config, after) ∧
      config.save after ['d'] = .ok written ∧ load written ['d'] = .ok (again, written) ∧
      again.plain = config.plain ∧ again.station.myCall = Text.ofString "OK1WC") ∧
    ∃ config after written again,
      load (.ofFile "c" (calling "   ")) ['c'] = .ok (config, after) ∧
      config.save after ['d'] = .ok written ∧ load written ['d'] = .ok (again, written) ∧
      again.plain ≠ config.plain ∧ config.station.myCall = [] := by
  constructor
  · have runs : ∃ config after written,
        load (.ofFile "c" (calling " ok1wc ")) ['c'] = .ok (config, after) ∧
        config.save after ['d'] = .ok written ∧ config.IsRestorable ∧
        config.plain.station.myCall = Text.ofString "OK1WC" :=
      ⟨_, _, _, rfl, rfl,
        ⟨List.cons_ne_nil _ _,
          ⟨List.cons_ne_nil _ _, Value.itemsAsWritten_eq_self_iff.mp rfl⟩,
          Value.itemsAsWritten_eq_self_iff.mp rfl, Value.itemsAsWritten_eq_self_iff.mp rfl⟩, rfl⟩
    rcases runs with ⟨config, after, written, loaded, saved, restorable, call⟩
    rcases (reload_eq_iff loaded).2 _ _ _ saved with ⟨again, reloaded, same⟩
    have equal := same.mpr restorable
    exact ⟨config, after, written, again, loaded, saved, reloaded, equal,
      (congrArg (fun config : Config => config.station.myCall) equal).trans call⟩
  · have runs : ∃ config after written,
        load (.ofFile "c" (calling "   ")) ['c'] = .ok (config, after) ∧
        config.save after ['d'] = .ok written ∧ config.station.listing = .full ∧
        config.station.myCall = [] := ⟨_, _, _, rfl, rfl, rfl, rfl⟩
    rcases runs with ⟨config, after, written, loaded, saved, full, blank⟩
    rcases (reload_eq_iff loaded).2 _ _ _ saved with ⟨again, reloaded, same⟩
    refine ⟨config, after, written, again, loaded, saved, reloaded, ?_, blank⟩
    intro equal
    have restored := (same.mp equal).station
    rw [full] at restored
    exact restored blank

end Config
end ContestExchange
