import ContestExchange.Proofs.MessageSlot
import ContestExchange.Proofs.RuleMerge
import ContestExchange.Station.Config

namespace ContestExchange

/-!
# Configurations in range

A configuration is read part by part, and a part of it depends on the settings of the same part
only.  So what a configuration consists of is said here once for each part, and the rest is about
single settings: a number is brought between two bounds, a speed is one word per minute at least,
and a list of messages is filled up with the standard ones to as many as there are keys.

Settings can be given more than once, and all at once under a name of their own.  The value that
counts is the one given last, which is a fold over the settings in the order of the document.
-/

namespace Double

/-- Whether a number lies between two others. -/
structure IsBetween (low high number : Double) : Prop where
  isNumber : number.isNaN = false
  above : low.rank ≤ number.rank
  below : number.rank ≤ high.rank

theorem lt_iff {left right : Double} :
    lt left right = true ↔
      left.isNaN = false ∧ right.isNaN = false ∧ left.rank < right.rank := by
  rw [lt, Bool.and_eq_true, Bool.and_eq_true, Bool.not_eq_true', Bool.not_eq_true',
    decide_eq_true_iff, and_assoc]

theorem lt_irrefl (number : Double) : ¬ lt number number = true := by
  rw [lt_iff]
  rintro ⟨_, _, less⟩
  exact Int.lt_irrefl _ less

end Double

/-! ## The setting given last -/

namespace ConfigPart

variable {part next : ConfigPart} {name given : Text} {value : Value} {known : Option Value}

/-- The value of a setting after one that is given: this one, what is among all settings if they are
given at once, or the value before. -/
def valueAfter (name : Text) (known : Option Value) : Value × Value → Option Value
  | (.text given, value) =>
      if given == wholeName then
        match value with
        | .mapping settings => Value.lookup? settings name
        | _ => known
      else if given == name then some value
      else known
  | _ => known

/-- The value that settings give a name last. -/
def lastGiven (settings : List (Value × Value)) (name : Text) : Option Value :=
  settings.foldl (valueAfter name) none

/-- Whether a value is the one of a setting, for a part that knows the setting. -/
def Agrees (part : ConfigPart) (name : Text) (known : Option Value) : Prop :=
  part.lacks name = true ∨ part.find? name = known

theorem find?_cons (part : ConfigPart) (given name : Text) (value : Value) :
    { part with settings := (.text given, value) :: part.settings }.find? name =
      if given == name then some value else part.find? name := by
  show ((List.find? _ (_ :: _)).map _) = _
  rw [List.find?_cons]
  dsimp only
  cases given == name <;> rfl

theorem Agrees.give (agrees : part.Agrees name known)
    (done : part.give given value = .ok next) :
    next.Agrees name (valueAfter name known (.text given, value)) := by
  unfold ConfigPart.give at done
  unfold valueAfter
  dsimp only
  split at done
  · cases done
  · by_cases whole : (given == wholeName) = true
    · rw [if_pos whole] at done ⊢
      split at done
      · cases done
        exact .inr rfl
      · cases done
    · rw [if_neg whole] at done ⊢
      by_cases unknown : part.lacks given = true
      -- A setting that the part does not know is dropped, and the part still does not know it.
      · rw [if_pos unknown] at done
        cases done
        by_cases same : (given == name) = true
        · rw [beq_iff_eq.mp same] at unknown
          exact .inl unknown
        · rw [if_neg same]
          exact agrees
      · rw [if_neg unknown] at done
        cases done
        by_cases same : (given == name) = true
        · rw [if_pos same]
          exact .inr ((part.find?_cons given name value).trans (if_pos same))
        · have kept := (part.find?_cons given name value).trans (if_neg same)
          rw [if_neg same]
          rcases agrees with lacking | equal
          · refine .inl ?_
            rw [lacks, kept]
            exact lacking
          · exact .inr (kept.trans equal)

theorem Agrees.giveAll {settings : List (Value × Value)} (agrees : part.Agrees name known)
    (done : part.giveAll settings = .ok next) :
    next.Agrees name (settings.foldl (valueAfter name) known) := by
  induction settings generalizing part known with
  | nil =>
      cases done
      exact agrees
  | cons setting rest inductionHypothesis =>
      rcases setting with ⟨key, value⟩
      cases key with
      | text given =>
          rcases bind_eq_ok_iff.mp done with ⟨after, stepped, later⟩
          exact inductionHypothesis (agrees.give stepped) later
      | _ => cases done

/-- The settings that a document gives for a part. -/
def settingsIn (document : Value) (name : String) : List (Value × Value) :=
  match document with
  | .mapping entries =>
      match Value.lookup? entries (Text.ofString name) with
      | some (.mapping settings) => settings
      | _ => []
  | _ => []

/-- A setting that a part knows has the value that it was given last. -/
theorem ownSetting_eq {entries : List (Value × Value)} {partName settingName : String}
    {standard : Value} (read : ofDocument entries partName = .ok part)
    (known : part.ownSetting settingName standard = .ok value) :
    value = (lastGiven (settingsIn (.mapping entries) partName)
      (Text.ofString settingName)).getD standard := by
  have agrees : part.Agrees (Text.ofString settingName)
      (lastGiven (settingsIn (.mapping entries) partName) (Text.ofString settingName)) := by
    unfold ofDocument at read
    unfold settingsIn
    dsimp only
    cases given : Value.lookup? entries (Text.ofString partName) with
    | none =>
        rw [given] at read
        cases read
        exact .inr rfl
    | some found =>
        rw [given] at read
        cases found with
        | mapping settings => exact Agrees.giveAll (.inr rfl) read
        | _ => cases read
  unfold ownSetting at known
  split at known
  · cases known
  · rename_i knows
    cases known
    rw [setting, agrees.resolve_left knows]

end ConfigPart

namespace Config

variable {depth : Nat} {low high number : Double}

/-! ## Bounds -/

/-- What a number between two bounds is: one of them, or a number that lies between them. -/
theorem between_cases (apart : Double.lt low high = true) (number : Double) :
    between low high number = low ∨ between low high number = high ∨
      Double.lt low number = true ∧ Double.lt number high = true ∧
        between low high number = number := by
  unfold between Double.greatest Double.least
  by_cases small : Double.lt number high = true
  · rw [if_pos small]
    by_cases large : Double.lt low number = true
    · rw [if_pos large]
      exact .inr (.inr ⟨large, small, rfl⟩)
    · rw [if_neg large]
      exact .inl rfl
  · rw [if_neg small, if_pos apart]
    exact .inr (.inl rfl)

theorem isBetween_between (apart : Double.lt low high = true) (number : Double) :
    Double.IsBetween low high (between low high number) := by
  rcases Double.lt_iff.mp apart with ⟨lowNumber, highNumber, less⟩
  rcases between_cases apart number with same | same | ⟨above, below, same⟩
  · rw [same]
    exact ⟨lowNumber, Int.le_refl _, Int.le_of_lt less⟩
  · rw [same]
    exact ⟨highNumber, Int.le_of_lt less, Int.le_refl _⟩
  · rw [same]
    rcases Double.lt_iff.mp above with ⟨_, isNumber, more⟩
    exact ⟨isNumber, Int.le_of_lt more, Int.le_of_lt (Double.lt_iff.mp below).2.2⟩

/-- A number that has been brought between two bounds stays as it is. -/
theorem between_between (apart : Double.lt low high = true) (number : Double) :
    between low high (between low high number) = between low high number := by
  rcases between_cases apart number with same | same | ⟨above, below, same⟩
  · rw [same]
    unfold between Double.greatest Double.least
    rw [if_pos apart, if_neg (Double.lt_irrefl low)]
  · rw [same]
    unfold between Double.greatest Double.least
    rw [if_neg (Double.lt_irrefl high), if_pos apart]
  · rw [same, same]

theorem lt_pollIntervals : Double.lt (.ofRatio false 1 1000) (.ofInt 1) = true := by
  decide +kernel

theorem lt_volumes : Double.lt .zero (.ofInt 1) = true := by decide +kernel

/-! ## Messages -/

theorem length_standardMessages : standardMessages.length = messageCount := rfl

theorem length_fillMessages (messages : List Text) :
    (fillMessages messages).length = messageCount := by
  rw [fillMessages, List.length_append, List.length_take, List.length_drop,
    length_standardMessages]
  omega

theorem fillMessages_of_length {messages : List Text} (full : messages.length = messageCount) :
    fillMessages messages = messages := by
  rw [fillMessages, full, ← length_standardMessages, List.drop_length, List.append_nil,
    length_standardMessages, ← full, List.take_length]

/-! ## Parts -/

/-- Whether a station is the one that a part gives. -/
structure IsStationOf (depth : Nat) (part : ConfigPart) (station : StationConfig) : Prop where
  myCall : capitalsOr depth "N0CALL" (part.setting "my_call" .null) = .ok station.myCall
  mode : modeOf depth (part.setting "trx_mode" .null) = .ok station.mode
  listing : station.listing = part.listing

/-- Whether a contest is the one that a part gives. -/
structure IsContestOf (depth : Nat) (part : ConfigPart) (contest : ContestConfig) : Prop where
  name : capitalsOr depth "GENERAL" (part.setting "name" .null) = .ok contest.name
  rulesFile : contest.rulesFile = part.setting "rules_file" .null
  templatesFile : contest.templatesFile = part.setting "templates_file" .null
  multipliersFile : contest.multipliersFile = part.setting "multipliers_file" .null
  listing : contest.listing = part.listing

/-- Whether a keyer is the one that a part gives. -/
structure IsKeyerOf (depth : Nat) (part : ConfigPart) (keyer : KeyerConfig) : Prop where
  wpm : speedOf (part.setting "wpm" (.ofQuantity standard.keyer.wpm)) = .ok keyer.wpm
  pitch : keyer.pitch = part.setting "tone_hz" standard.keyer.pitch
  volume : volumeOf (part.setting "volume" (.double standard.keyer.volume)) = .ok keyer.volume
  sampleRate : keyer.sampleRate = part.setting "sample_rate" standard.keyer.sampleRate
  outputDevice : keyer.outputDevice = part.setting "output_device" standard.keyer.outputDevice
  messages : ∃ given,
    part.ownSetting "messages" (.list (standardMessages.map .text)) = .ok given ∧
      messagesOf depth given = .ok keyer.messages
  listing : keyer.listing = part.listing

/-- Whether a console is the one that a part gives. -/
structure IsConsoleOf (depth : Nat) (part : ConfigPart) (console : ConsoleConfig) : Prop where
  ctCompatible : console.ctCompatible = part.setting "ct_compat" standard.console.ctCompatible
  callUpdate : console.callUpdate = part.setting "call_update" standard.console.callUpdate
  changeReport : console.changeReport = part.setting "change_rst" standard.console.changeReport
  qtc : directionOf depth (part.setting "qtc_direction" .null) = .ok console.qtc
  pollInterval :
    pollIntervalOf (part.setting "poll_interval" (.double standard.console.pollInterval)) =
      .ok console.pollInterval
  listing : console.listing = part.listing

/-- Parts give a configuration exactly if each of its own parts can be given. -/
theorem ofParts_eq_ok_iff {station contest keyer console : ConfigPart} {config : Config} :
    ofParts depth station contest keyer console = .ok config ↔
      IsStationOf depth station config.station ∧ IsContestOf depth contest config.contest ∧
        IsKeyerOf depth keyer config.keyer ∧ IsConsoleOf depth console config.console := by
  unfold ofParts
  simp only [bind_eq_ok_iff]
  constructor
  · rintro ⟨myCall, called, mode, moded, name, named, qtc, directed, pollInterval, polled, wpm, sped,
      volume, raised, given, known, messages, filled, done⟩
    cases done
    exact ⟨⟨called, moded, rfl⟩, ⟨named, rfl, rfl, rfl, rfl⟩,
      ⟨sped, rfl, raised, rfl, rfl, ⟨given, known, filled⟩, rfl⟩,
      ⟨rfl, rfl, rfl, directed, polled, rfl⟩⟩
  · rcases config with ⟨⟨_, _, _⟩, ⟨_, _, _, _, _⟩, ⟨_, _, _, _, _, _, _⟩, ⟨_, _, _, _, _, _⟩⟩
    rintro ⟨⟨called, moded, rfl⟩, ⟨named, rfl, rfl, rfl, rfl⟩,
      ⟨sped, rfl, raised, rfl, rfl, ⟨given, known, filled⟩, rfl⟩,
      ⟨rfl, rfl, rfl, directed, polled, rfl⟩⟩
    exact ⟨_, called, _, moded, _, named, _, directed, _, polled, _, sped, _, raised, given, known, _,
      filled, rfl⟩

/-! ## Documents -/

theorem ofDocument_eq_ok_iff {document : Value} {config : Config} :
    ofDocument depth document = .ok config ↔
      ∃ entries station contest keyer console, entriesOf document = .ok entries ∧
        ConfigPart.ofDocument entries "station" = .ok station ∧
        ConfigPart.ofDocument entries "contest" = .ok contest ∧
        ConfigPart.ofDocument entries "keyer" = .ok keyer ∧
        ConfigPart.ofDocument entries "console" = .ok console ∧
        IsStationOf depth station config.station ∧ IsContestOf depth contest config.contest ∧
        IsKeyerOf depth keyer config.keyer ∧ IsConsoleOf depth console config.console := by
  unfold ofDocument
  simp only [bind_eq_ok_iff, ofParts_eq_ok_iff]
  constructor
  · rintro ⟨entries, listed, station, first, contest, second, keyer, third, console, fourth, parts⟩
    exact ⟨entries, station, contest, keyer, console, listed, first, second, third, fourth, parts⟩
  · rintro ⟨entries, station, contest, keyer, console, listed, first, second, third, fourth, parts⟩
    exact ⟨entries, listed, station, first, contest, second, keyer, third, console, fourth, parts⟩

/-- Whether what a program calculates with is in range, and each message key has a message. -/
structure IsInRange (config : Config) : Prop where
  mode : config.station.mode.name ∈ ["CW", "SSB", "DIGI"].map Text.ofString
  qtc : config.console.qtc.name ∈ ["off", "recv", "send", "both"].map Text.ofString
  pollInterval :
    Double.IsBetween (.ofRatio false 1 1000) (.ofInt 1) config.console.pollInterval
  volume : Double.IsBetween .zero (.ofInt 1) config.keyer.volume
  speed : ∃ wpm, config.keyer.wpm = .whole wpm ∧ 1 ≤ wpm
  messages : config.keyer.messages.length = 24

theorem mem_names_mode (mode : Mode) : mode.name ∈ ["CW", "SSB", "DIGI"].map Text.ofString := by
  cases mode <;> decide

theorem mem_names_direction (direction : QtcDirection) :
    direction.name ∈ ["off", "recv", "send", "both"].map Text.ofString := by
  cases direction <;> decide

theorem isInRange_of_ofDocument {document : Value} {config : Config}
    (read : ofDocument depth document = .ok config) : config.IsInRange := by
  rcases ofDocument_eq_ok_iff.mp read with
    ⟨_, _, _, keyer, console, _, _, _, _, _, _, _, isKeyer, isConsole⟩
  rcases map_eq_ok_iff.mp isConsole.pollInterval with ⟨polled, _, pollInterval⟩
  rcases map_eq_ok_iff.mp isKeyer.volume with ⟨raised, _, volume⟩
  rcases map_eq_ok_iff.mp isKeyer.wpm with ⟨wpm, _, speed⟩
  rcases isKeyer.messages with ⟨given, _, filled⟩
  rcases bind_eq_ok_iff.mp filled with ⟨items, _, written⟩
  rcases map_eq_ok_iff.mp written with ⟨texts, _, messages⟩
  constructor
  · exact mem_names_mode _
  · exact mem_names_direction _
  · rw [← pollInterval]
    exact isBetween_between lt_pollIntervals polled
  · rw [← volume]
    exact isBetween_between lt_volumes raised
  · exact ⟨max 1 wpm, speed.symm, Int.le_max_left 1 wpm⟩
  · rw [← messages]
    exact length_fillMessages _

theorem ofDocument_nil (depth : Nat) : ofDocument depth (.mapping []) = .ok standard := rfl

/-- The messages of a document: the value given last, or the standard list. -/
def messagesGiven (document : Value) : Value :=
  (ConfigPart.lastGiven (ConfigPart.settingsIn document "keyer")
    (Text.ofString "messages")).getD (.list (standardMessages.map .text))

theorem settingsIn_of_entriesOf {document : Value} {entries : List (Value × Value)}
    (listed : entriesOf document = .ok entries) (name : String) :
    ConfigPart.settingsIn document name = ConfigPart.settingsIn (.mapping entries) name := by
  unfold entriesOf at listed
  split at listed
  · cases listed
    rfl
  · rename_i noMapping
    split at listed
    · cases listed
    · cases listed
      cases document with
      | mapping given => exact (noMapping given rfl).elim
      | _ => rfl

theorem messages_of_ofDocument {document : Value} {config : Config}
    (read : ofDocument depth document = .ok config) :
    ∃ items texts, (messagesGiven document).elementsIfSet = .ok items ∧
      Value.toTexts depth items = .ok texts ∧
      config.keyer.messages = texts.take 24 ++ standardMessages.drop texts.length := by
  rcases ofDocument_eq_ok_iff.mp read with
    ⟨entries, _, _, keyer, _, listed, _, _, third, _, _, _, isKeyer, _⟩
  rcases isKeyer.messages with ⟨given, known, filled⟩
  rcases bind_eq_ok_iff.mp filled with ⟨items, elements, written⟩
  rcases map_eq_ok_iff.mp written with ⟨texts, spelled, messages⟩
  refine ⟨items, texts, ?_, spelled, messages.symm⟩
  rw [messagesGiven, settingsIn_of_entriesOf listed, ← ConfigPart.ownSetting_eq third known]
  exact elements

/-! ## Files -/

theorem load_eq_ok_iff {store after : Store} {path : Text} {config : Config} :
    load store path = .ok (config, after) ↔
      (store.exists? path = .ok true ∧ after = store ∧
          ∃ document, store.readDocument path = .ok document ∧
            ofDocument store.form.depth document = .ok config) ∨
        (store.exists? path = .ok false ∧ config = standard ∧
          standard.save store path = .ok after) := by
  constructor
  · intro loaded
    rcases bind_eq_ok_iff.mp loaded with ⟨present, there, done⟩
    cases present with
    | true =>
        rw [if_pos rfl] at done
        rcases bind_eq_ok_iff.mp done with ⟨document, read, rest⟩
        rcases bind_eq_ok_iff.mp rest with ⟨found, given, same⟩
        cases same
        exact .inl ⟨there, rfl, document, read, given⟩
    | false =>
        rw [if_neg Bool.false_ne_true] at done
        rcases bind_eq_ok_iff.mp done with ⟨written, saved, same⟩
        cases same
        exact .inr ⟨there, rfl, saved⟩
  · rintro (⟨there, rfl, document, read, given⟩ | ⟨there, rfl, saved⟩)
    · rw [load, there]
      show (after.readDocument path >>= _) = _
      rw [read]
      show (ofDocument after.form.depth document >>= _) = _
      rw [given]
      rfl
    · rw [load, there]
      show (standard.save store path >>= _) = _
      rw [saved]
      rfl

/-- A loaded configuration is in range, its messages are those of the document with the standard
ones behind them, and every message that a step sends is one of them. -/
theorem load_in_range {store after : Store} {path : Text} {config : Config}
    (loaded : load store path = .ok (config, after)) :
    config.IsInRange ∧
      (∀ document, store.readDocument path = .ok document →
        ∃ items texts, (messagesGiven document).elementsIfSet = .ok items ∧
          Value.toTexts store.form.depth items = .ok texts ∧
          config.keyer.messages = texts.take 24 ++ standardMessages.drop texts.length) ∧
      ∀ (session : CaptureSession) (key : Key) (next : CaptureSession) (transition : Transition),
        session.step key = .ok (next, transition) →
        ∀ slot, Action.sendMessage slot ∈ transition.actions →
          0 ≤ slot ∧ ∃ inside : slot.toNat < config.keyer.messages.length,
            Message.slot config.keyer.messages slot = config.keyer.messages[slot.toNat] := by
  have inRange : config.IsInRange := by
    rcases load_eq_ok_iff.mp loaded with ⟨_, _, document, _, given⟩ | ⟨_, same, _⟩
    · exact isInRange_of_ofDocument given
    · rw [same]
      exact isInRange_of_ofDocument (ofDocument_nil 0)
  refine ⟨inRange, ?_, ?_⟩
  · intro document read
    rcases load_eq_ok_iff.mp loaded with ⟨_, _, other, found, given⟩ | ⟨missing, _, _⟩
    · rw [read] at found
      cases found
      exact messages_of_ofDocument given
    · rcases Store.readDocument_of_missing missing with ⟨fault, unread⟩
      rw [unread] at read
      cases read
  · intro session key next transition done slot sent
    rcases CaptureSession.isSlot_of_step done sent with ⟨nonneg, below⟩
    have inside : slot.toNat < config.keyer.messages.length := by
      rw [inRange.messages]
      omega
    refine ⟨nonneg, inside, ?_⟩
    rw [Message.slot, if_neg (Int.not_lt.mpr nonneg), List.getElem?_eq_getElem inside]
    rfl

/-- Settings out of every range, and two messages, one of them a number. -/
def extremes : Value :=
  Value.fields
    [("keyer", Value.fields
      [("wpm", .int (-5)), ("volume", .double Double.notANumber),
       ("messages", .list [.ofString "CQ", .int 7])]),
     ("console", Value.fields
      [("poll_interval", .double ⟨true, Double.infiniteMagnitude⟩), ("qtc_direction", .int 1)])]

/-- The last message key finds its message among the standard ones. -/
theorem load_in_range_of_extremes :
    ∃ config after fresh next transition,
      load (.ofFile "c" extremes) (Text.ofString "c") = .ok (config, after) ∧
      config.IsInRange ∧
      config.keyer.messages = [Text.ofString "CQ", ['7']] ++ standardMessages.drop 2 ∧
      CaptureSession.create (Rule.basic "WPX" .serial 12)
        (Extractor.ofRule (Rule.basic "WPX" .serial 12) ⟨[]⟩ .builtIn) {} {} = .ok fresh ∧
      fresh.step .altNine = .ok (next, transition) ∧
      Action.sendMessage 23 ∈ transition.actions ∧
      (23 : Int).toNat < config.keyer.messages.length := by
  have runs : ∃ config after fresh next transition,
      load (.ofFile "c" extremes) (Text.ofString "c") = .ok (config, after) ∧
      CaptureSession.create (Rule.basic "WPX" .serial 12)
        (Extractor.ofRule (Rule.basic "WPX" .serial 12) ⟨[]⟩ .builtIn) {} {} = .ok fresh ∧
      fresh.step .altNine = .ok (next, transition) ∧
      Action.sendMessage 23 ∈ transition.actions :=
    ⟨_, _, _, _, _, rfl, rfl, rfl, List.mem_cons_self⟩
  rcases runs with ⟨config, after, fresh, next, transition, loaded, created, done, sent⟩
  rcases load_in_range loaded with ⟨inRange, listed, sends⟩
  rcases listed extremes rfl with ⟨items, texts, elements, spelled, messages⟩
  cases elements
  cases spelled
  rcases sends fresh .altNine next transition done 23 sent with ⟨_, inside, _⟩
  exact ⟨config, after, fresh, next, transition, loaded, inRange, messages, created, done, sent,
    inside⟩

end Config
end ContestExchange
