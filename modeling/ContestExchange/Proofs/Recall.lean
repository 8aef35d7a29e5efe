import ContestExchange.Console.Simulation
import ContestExchange.Proofs.CapitalForm
import ContestExchange.Proofs.CaptureCalls
import ContestExchange.Proofs.CaptureFault

namespace ContestExchange

/-!
# Recalled exchanges

The operator's side remembers the exchange of every accepted result under the call of the result.
Whatever else happens there, to work another station or to perform actions, leaves that memory
alone.  So after any events the exchange of a call is the last one that was accepted with it, and
the serial number counts how many were accepted with a call.

A recalled exchange starts the next capture of its call unchanged.  It fits, because it was the text
of a line of the same width.  And it is not altered by being put into capitals: a line consists of
what it started with, which was in capitals already, of typed characters and of zeros, and all of
these are their own capitals.
-/

/-- Whether a result is remembered: it is accepted, and has a call. -/
def CaptureResult.isRemembered (result : CaptureResult) : Bool :=
  result.isAccepted && !result.call.isEmpty

/-- The exchange of the last of some results that is remembered under a call. -/
def lastExchange? (results : List CaptureResult) (call : Text) : Option Text :=
  (results.filter fun result => result.isRemembered && result.call == call).getLast?.map
    (·.exchange)

theorem lastExchange?_cons (result : CaptureResult) (rest : List CaptureResult) (call : Text) :
    lastExchange? (result :: rest) call =
      (lastExchange? rest call).or
        (if result.isRemembered && result.call == call then some result.exchange else none) := by
  unfold lastExchange?
  rw [List.filter_cons]
  split
  · rw [List.getLast?_cons]
    cases (rest.filter fun result => result.isRemembered && result.call == call).getLast? <;> rfl
  · rw [Option.or_none]

theorem exists_of_lastExchange? {results : List CaptureResult} {call exchange : Text}
    (found : lastExchange? results call = some exchange) :
    ∃ result ∈ results, result.isRemembered = true ∧ result.exchange = exchange := by
  rcases Option.map_eq_some_iff.mp found with ⟨result, last, same⟩
  rcases List.mem_filter.mp (List.mem_of_getLast? last) with ⟨member, counts⟩
  exact ⟨result, member, (Bool.and_eq_true_iff.mp counts).1, same⟩

namespace Operator

variable {operator : Operator}

/-! ## What is remembered -/

/-- The remembered exchange of a call, if there is one. -/
def recalled? (operator : Operator) (call : Text) : Option Text :=
  (operator.recalled.find? fun entry => entry.1 == call).map (·.2)

theorem recalled?_of_remembered {call : Text} (present : operator.remembered call ≠ []) :
    operator.recalled? call = some (operator.remembered call) := by
  have same : operator.remembered call = (operator.recalled? call).getD [] := rfl
  rw [same] at present ⊢
  cases found : operator.recalled? call with
  | some exchange => rfl
  | none =>
      rw [found] at present
      exact absurd rfl present

theorem find?_setRecalled (recalled : List (Text × Text)) (call exchange other : Text) :
    ((setRecalled recalled call exchange).find? fun entry => entry.1 == other).map (·.2) =
      if call = other then some exchange
      else (recalled.find? fun entry => entry.1 == other).map (·.2) := by
  unfold setRecalled
  split
  · rename_i known
    have keeps : ((fun entry : Text × Text => entry.1 == other) ∘ fun entry =>
        if entry.1 == call then (call, exchange) else entry) = fun entry => entry.1 == other := by
      funext entry
      by_cases same : (entry.1 == call) = true
      · rw [Function.comp_apply, if_pos same, beq_iff_eq.mp same]
      · rw [Function.comp_apply, if_neg same]
    rw [List.find?_map, keeps]
    cases found : recalled.find? fun entry => entry.1 == other with
    | none =>
        have elsewhere : call ≠ other := by
          rintro rfl
          rcases List.any_eq_true.mp known with ⟨entry, member, same⟩
          exact List.find?_eq_none.mp found entry member same
        rw [if_neg elsewhere]
        rfl
    | some entry =>
        have named : entry.1 = other :=
          beq_iff_eq.mp (List.find?_some (p := fun entry : Text × Text => entry.1 == other) found)
        by_cases same : call = other
        · rw [if_pos same, Option.map_some, Option.map_some,
            if_pos (beq_iff_eq.mpr (named.trans same.symm))]
        · rw [if_neg same, Option.map_some,
            if_neg (beq_iff_eq.not.mpr fun again => same (again.symm.trans named))]
  · rename_i unknown
    rw [List.find?_append, List.find?_singleton]
    by_cases same : call = other
    · have none : (recalled.find? fun entry => entry.1 == other) = none := by
        rw [List.find?_eq_none]
        intro entry member here
        exact unknown (List.any_eq_true.mpr ⟨entry, member, same ▸ here⟩)
      rw [none, if_pos same, if_pos (beq_iff_eq.mpr same)]
      rfl
    · rw [if_neg same, if_neg (beq_iff_eq.not.mpr same), Option.or_none]

theorem recalled?_remember (operator : Operator) (result : CaptureResult) (call : Text) :
    (operator.remember result).recalled? call =
      (if result.isRemembered && result.call == call then some result.exchange else none).or
        (operator.recalled? call) := by
  unfold remember
  cases counts : result.isAccepted && !result.call.isEmpty with
  | false =>
      have forgotten : result.isRemembered = false := counts
      rw [forgotten]
      rfl
  | true =>
      have kept : result.isRemembered = true := counts
      rw [kept, Bool.true_and]
      refine (find?_setRecalled operator.recalled result.call result.exchange call).trans ?_
      by_cases same : result.call = call
      · rw [if_pos same, if_pos (beq_iff_eq.mpr same)]
        rfl
      · rw [if_neg same, if_neg (beq_iff_eq.not.mpr same)]
        rfl

theorem serial_remember (operator : Operator) (result : CaptureResult) :
    (operator.remember result).serial =
      operator.serial + if result.isRemembered then 1 else 0 := by
  show (if result.isRemembered then _ else operator).serial = _
  cases result.isRemembered with
  | true => rfl
  | false => exact (Int.add_zero _).symm

/-! ## What is not touched -/

/-- Whether two operators remember the same. -/
structure SameMemory (before after : Operator) : Prop where
  recalled : after.recalled = before.recalled
  serial : after.serial = before.serial

theorem SameMemory.trans {first second third : Operator} (here : SameMemory first second)
    (there : SameMemory second third) : SameMemory first third :=
  ⟨there.recalled.trans here.recalled, there.serial.trans here.serial⟩

theorem sameMemory_send (operator : Operator) (message : Text) :
    SameMemory operator (operator.send message).1 := by
  unfold send
  split <;> exact ⟨rfl, rfl⟩

theorem sameMemory_serve (operator : Operator) (request : Request) :
    SameMemory operator (operator.serve request).1 := by
  cases request with
  | sendMessage slot => exact operator.sameMemory_send _
  | sendCall call => exact operator.sameMemory_send call
  | addSpot =>
      unfold serve spot
      dsimp only
      split <;> exact ⟨rfl, rfl⟩
  | _ => exact ⟨rfl, rfl⟩

theorem sameMemory_serveAll (operator : Operator) (requests : List Request) :
    SameMemory operator (operator.serveAll requests).1 := by
  induction requests generalizing operator with
  | nil => exact ⟨rfl, rfl⟩
  | cons request rest inductionHypothesis =>
      exact (operator.sameMemory_serve request).trans (inductionHypothesis _)

theorem sameMemory_perform (operator : Operator) (actions : List Action) :
    SameMemory operator (operator.perform actions).1 := by
  induction actions generalizing operator with
  | nil => exact ⟨rfl, rfl⟩
  | cons action rest inductionHypothesis =>
      have served := sameMemory_serveAll { operator with rig := (operator.rig.serve action).1 }
        (operator.rig.serve action).2
      exact SameMemory.trans ⟨served.recalled, served.serial⟩ (inductionHypothesis _)

/-! ## Events -/

/-- What happens at the operator's side. -/
inductive Event where
  | enter (contact : Contact)
  | perform (actions : List Action)
  | remember (result : CaptureResult)

/-- The operator's side after an event. -/
def take (operator : Operator) : Event → Operator
  | .enter contact => { operator with contact := contact }
  | .perform actions => (operator.perform actions).1
  | .remember result => operator.remember result

/-- The result that an event brings, if it does. -/
def Event.result? : Event → Option CaptureResult
  | .remember result => some result
  | _ => none

/-- The results among events, in order. -/
def results (events : List Event) : List CaptureResult := events.filterMap Event.result?

/-- An event brings a result, or leaves alone what is remembered. -/
theorem take_cases (operator : Operator) (event : Event) :
    (∃ result, event = .remember result) ∨
      event.result? = none ∧ SameMemory operator (operator.take event) := by
  cases event with
  | enter contact => exact .inr ⟨rfl, rfl, rfl⟩
  | perform actions => exact .inr ⟨rfl, operator.sameMemory_perform actions⟩
  | remember result => exact .inl ⟨result, rfl⟩

theorem recalled?_foldl_take (events : List Event) (operator : Operator) (call : Text) :
    (events.foldl take operator).recalled? call =
      (lastExchange? (results events) call).or (operator.recalled? call) := by
  induction events generalizing operator with
  | nil => rfl
  | cons event rest inductionHypothesis =>
      rw [List.foldl_cons, inductionHypothesis]
      rcases operator.take_cases event with ⟨result, same⟩ | ⟨nothing, kept⟩
      · rw [same, take, recalled?_remember, ← Option.or_assoc, ← lastExchange?_cons]
        rfl
      · have shorter : results (event :: rest) = results rest := by
          rw [results, List.filterMap_cons, nothing]
          rfl
        rw [shorter, recalled?, kept.recalled]
        rfl

theorem serial_foldl_take (events : List Event) (operator : Operator) :
    (events.foldl take operator).serial =
      operator.serial + (results events).countP CaptureResult.isRemembered := by
  induction events generalizing operator with
  | nil => exact (Int.add_zero _).symm
  | cons event rest inductionHypothesis =>
      rw [List.foldl_cons, inductionHypothesis]
      rcases operator.take_cases event with ⟨result, same⟩ | ⟨nothing, kept⟩
      · have longer : results (event :: rest) = result :: results rest := by
          rw [same]
          rfl
        rw [longer, same, take, serial_remember, List.countP_cons]
        split <;> push_cast <;> omega
      · have shorter : results (event :: rest) = results rest := by
          rw [results, List.filterMap_cons, nothing]
          rfl
        rw [shorter, kept.serial]

end Operator

namespace CaptureSession

variable {World : Type}

/-! ## Captures as runs -/

/-- Following the polls is a run of keys, which may end with an abort. -/
theorem exists_run_of_follow (around : Surroundings World) {world : World}
    {session last : CaptureSession} {polls : List (Option Key)}
    (done : (Capture.follow around world session polls).session = .ok last) :
    ∃ operations, (∀ prefill recalled, .start prefill recalled ∉ operations) ∧
      session.run operations = .ok last := by
  induction polls generalizing world session with
  | nil =>
      cases done
      exact ⟨[.abort], by simp, rfl⟩
  | cons poll rest inductionHypothesis =>
      cases poll with
      | none =>
          rw [Capture.follow_none] at done
          exact inductionHypothesis done
      | some key =>
          cases stepped : session.step key with
          | error fault =>
              rw [Capture.follow_of_error around stepped] at done
              cases done
          | ok outcome =>
              rw [Capture.follow_some around stepped] at done
              have pressed : session.operate (.press key) = .ok (outcome.1, outcome.2) := stepped
              split at done
              · cases done
                exact ⟨[.press key], by simp, (run_cons pressed []).trans rfl⟩
              · rcases inductionHypothesis done with ⟨operations, noStart, continued⟩
                exact ⟨.press key :: operations, by simpa using noStart,
                  (run_cons pressed operations).trans continued⟩

theorem exists_run_of_capture (around : Surroundings World) {world : World}
    {fresh last : CaptureSession} {prefill : Text} {polls : List (Option Key)}
    (done : (Capture.run around world fresh prefill polls).session = .ok last) :
    ∃ recalled operations, (∀ prefill recalled, .start prefill recalled ∉ operations) ∧
      fresh.run (.start prefill recalled :: operations) = .ok last := by
  unfold Capture.run at done
  dsimp only at done
  split at done
  · cases done
  · rename_i started transition starting
    rcases exists_run_of_follow around done with ⟨operations, noStart, continued⟩
    have begins : fresh.operate (.start prefill
        (Capture.recalled around world fresh prefill).2) = .ok (started, transition) := starting
    exact ⟨_, operations, noStart, (run_cons begins operations).trans continued⟩

/-! ## The line of a capture -/

/-- Whether a contest has nothing but recalled exchanges to start with. -/
structure RecallsOnly (rule : Rule) : Prop where
  recalls : rule.recallExchange = true
  noZone : rule.zonePrefill = .none
  noContinent : rule.continentPrefill = false

theorem startText_of_recallsOnly {session : CaptureSession} (only : RecallsOnly session.rule)
    (recalled : Text) : session.startText [] recalled = Text.upper recalled := by
  have nothing : session.knownStart = [] := by
    unfold knownStart
    rw [only.noZone, only.noContinent]
    dsimp only
    split <;> rfl
  unfold startText
  rw [only.recalls, nothing]
  show (if (Text.upper recalled).isEmpty then [] else Text.upper recalled) = Text.upper recalled
  split
  · rename_i empty
    exact (List.isEmpty_iff.mp empty).symm
  · rfl

theorem text_begun_of_fits {session : CaptureSession} {prefill recalled : Text}
    (fits : (session.startText prefill recalled).length ≤ session.buffer.width) :
    (session.begun prefill recalled).buffer.text = session.startText prefill recalled := by
  show (session.fill (session.startText prefill recalled)).buffer.text = _
  rw [fill]
  dsimp only
  rw [Buffer.replace_of_fits fits]
  rfl

/-- A recalled exchange in capitals that fits is the line that a new capture begins with. -/
theorem text_begun_of_create {rule : Rule} {extractor : Extractor} {settings : CaptureSettings}
    {contact : Contact} {fresh : CaptureSession} (only : RecallsOnly rule)
    (created : create rule extractor settings contact = .ok fresh) {exchange : Text}
    (capitals : Text.upper exchange = exchange) (fits : (exchange.length : Int) ≤ rule.width) :
    (fresh.begun [] exchange).buffer.text = exchange := by
  have width := (line_of_create created).2
  rcases eq_of_create created with ⟨line, same⟩
  have onlyHere : RecallsOnly fresh.rule := by
    rw [same]
    exact only
  have startsWith : fresh.startText [] exchange = exchange := by
    rw [startText_of_recallsOnly onlyHere, capitals]
  have fitsHere : (fresh.startText [] exchange).length ≤ fresh.buffer.width := by
    rw [startsWith]
    omega
  rw [text_begun_of_fits fitsHere, startsWith]

theorem recalled_of_create {rule : Rule} {extractor : Extractor} {settings : CaptureSettings}
    {contact : Contact} {fresh : CaptureSession} (recalls : rule.recallExchange = true)
    (created : create rule extractor settings contact = .ok fresh) (around : Surroundings World)
    (world : World) :
    (Capture.recalled around world fresh []).2 = (around.remembered world contact.call).2 := by
  rcases eq_of_create created with ⟨line, same⟩
  rw [same, Capture.recalled]
  dsimp only
  rw [recalls]
  rfl

section Line

variable {rule : Rule} {table : MultiplierTable} {templates : TemplateSet}
  {settings : CaptureSettings} {contact : Contact} {fresh last : CaptureSession}
  {around : Surroundings World} {world : World} {polls : List (Option Key)}

/-- The line of a capture that could only start with a recalled exchange is in capitals. -/
theorem upper_line_of_capture (only : RecallsOnly rule)
    (created : create rule (Extractor.ofRule rule table templates) settings contact = .ok fresh)
    (done : (Capture.run around world fresh [] polls).session = .ok last) :
    Text.upper last.buffer.text = last.buffer.text := by
  rcases exists_run_of_capture around done with ⟨recalled, operations, noStart, run⟩
  rcases exists_started (invariant_of_create created) run with
    ⟨started, invariant, startedFirst, line, continued⟩
  have sameRule : fresh.rule = rule := by
    rcases eq_of_create created with ⟨_, same⟩
    rw [same]
  have starts : ∀ character ∈ started.buffer.text, Text.capital character = [character] := by
    rw [line]
    refine forall_mem_begun fun character member => ?_
    rw [startText_of_recallsOnly (sameRule ▸ only)] at member
    exact Text.capital_of_mem_upper member
  exact Text.upper_of_forall (forall_mem_of_run (fun _ => Text.capital_of_isTypable) invariant
    startedFirst starts noStart continued)

theorem length_line_of_capture
    (created : create rule (Extractor.ofRule rule table templates) settings contact = .ok fresh)
    (done : (Capture.run around world fresh [] polls).session = .ok last) :
    (last.buffer.text.length : Int) ≤ rule.width := by
  rcases exists_run_of_capture around done with ⟨recalled, operations, _, run⟩
  have width := (invariant_of_run (invariant_of_create created) run).setting.width
  have fits := last.buffer.fits
  have wide := (line_of_create created).2
  omega

/-- The line of an accepted exchange can be read where it is read while typing. -/
theorem extract_line_of_accepted (live : rule.isLive = true)
    (created : create rule (Extractor.ofRule rule table templates) settings contact = .ok fresh)
    (done : (Capture.run around world fresh [] polls).session = .ok last)
    (accepted : last.result.isAccepted = true) (fault : Fault) :
    (Extractor.ofRule rule table templates).extract false last.buffer.text ≠ .error fault := by
  rcases exists_run_of_capture around done with ⟨recalled, operations, _, run⟩
  have fromFresh := invariant_of_create created
  have reached := invariant_of_run fromFresh run
  have complete : last.state = .complete := beq_iff_eq.mp accepted
  have isKept : last.IsKept := by
    rw [IsKept, complete]
    exact ⟨CaptureState.noConfusion, CaptureState.noConfusion, CaptureState.noConfusion⟩
  rcases eq_of_create created with ⟨line, same⟩
  subst same
  have current := current_of_run fromFresh rfl live run isKept
  have sameExtractor : last.extractor = Extractor.ofRule rule table templates :=
    reached.setting.extractor
  rw [← sameExtractor]
  exact current.extract_ne_error

end Line

/-- Whether a result is that of a capture under a rule, which had no text asked for to start
with. -/
def IsResultUnder (rule : Rule) (extractor : Extractor) (result : CaptureResult) : Prop :=
  ∃ (World : Type) (around : Surroundings World) (world : World) (settings : CaptureSettings)
    (contact : Contact) (fresh last : CaptureSession) (polls : List (Option Key)),
    create rule extractor settings contact = .ok fresh ∧
      (Capture.run around world fresh [] polls).session = .ok last ∧ last.result = result

section Result

variable {rule : Rule} {table : MultiplierTable} {templates : TemplateSet} {result : CaptureResult}

theorem IsResultUnder.upper_exchange (only : RecallsOnly rule)
    (captured : IsResultUnder rule (Extractor.ofRule rule table templates) result) :
    Text.upper result.exchange = result.exchange := by
  rcases captured with ⟨_, _, _, _, _, _, _, _, created, done, same⟩
  rw [← same]
  exact upper_line_of_capture only created done

theorem IsResultUnder.length_exchange
    (captured : IsResultUnder rule (Extractor.ofRule rule table templates) result) :
    (result.exchange.length : Int) ≤ rule.width := by
  rcases captured with ⟨_, _, _, _, _, _, _, _, created, done, same⟩
  rw [← same]
  exact length_line_of_capture created done

theorem IsResultUnder.extract_exchange (live : rule.isLive = true)
    (captured : IsResultUnder rule (Extractor.ofRule rule table templates) result)
    (accepted : result.isAccepted = true) (fault : Fault) :
    (Extractor.ofRule rule table templates).extract false result.exchange ≠ .error fault := by
  rcases captured with ⟨_, _, _, _, _, _, _, _, created, done, same⟩
  rw [← same] at accepted ⊢
  exact extract_line_of_accepted live created done accepted fault

end Result

end CaptureSession

/-! ## Recalling -/

namespace Operator

open CaptureSession

/-- The operator's side after some events from the beginning. -/
def worked (config : Config) (player : Option Player) (events : List Event) : Operator :=
  events.foldl take (create config player)

/-- What is remembered under a call is the last accepted exchange with it, and the serial number
counts them all.  Where nothing but recalled exchanges is started with, the next capture starts with
that exchange as it is, unless it cannot be read; and what was read before can be read again. -/
theorem recalls_last_accepted (config : Config) (player : Option Player) (events : List Event) :
    (∀ call, (worked config player events).recalled? call = lastExchange? (results events) call) ∧
    (worked config player events).serial =
      1 + (results events).countP CaptureResult.isRemembered ∧
    ∀ (rule : Rule), RecallsOnly rule →
      (∀ result ∈ results events, ∃ table templates,
        IsResultUnder rule (Extractor.ofRule rule table templates) result) →
      ∀ (extractor : Extractor) (settings : CaptureSettings) (contact : Contact)
        (session : CaptureSession),
        CaptureSession.create rule extractor settings contact = .ok session →
        (worked config player events).remembered contact.call ≠ [] →
        ∀ (World : Type) (around : Surroundings World) (world : World),
          (around.remembered world contact.call).2 =
              (worked config player events).remembered contact.call →
          (∀ outcome, session.start [] (Capture.recalled around world session []).2 = .ok outcome →
            outcome.1.buffer.text = (worked config player events).remembered contact.call) ∧
          (∀ table templates, extractor = Extractor.ofRule rule table templates →
            (∀ result ∈ results events, IsResultUnder rule extractor result) →
              ∃ outcome, session.start [] (Capture.recalled around world session []).2 =
                .ok outcome) := by
  have recalled : ∀ call,
      (worked config player events).recalled? call = lastExchange? (results events) call :=
    fun call => (recalled?_foldl_take events (create config player) call).trans (Option.or_none)
  refine ⟨recalled, serial_foldl_take events (create config player), ?_⟩
  intro rule only captured extractor settings contact session created present World around world
    brings
  have found := (recalled contact.call).symm.trans (recalled?_of_remembered present)
  generalize (worked config player events).remembered contact.call = exchange at found brings
  rcases exists_of_lastExchange? found with ⟨result, member, counts, same⟩
  subst same
  have accepted : result.isAccepted = true := (Bool.and_eq_true_iff.mp counts).1
  have begins : (session.begun [] result.exchange).buffer.text = result.exchange := by
    rcases captured result member with ⟨table, templates, isResult⟩
    exact text_begun_of_create only created (isResult.upper_exchange only) isResult.length_exchange
  rw [recalled_of_create only.recalls created, brings]
  constructor
  · intro outcome starting
    rw [(read_of_start starting).buffer]
    exact begins
  -- A start fails on a line that cannot be read, and this one was read when it was accepted.
  · intro table templates extracts all
    subst extracts
    cases starting : session.start [] result.exchange with
    | ok outcome => exact ⟨outcome, rfl⟩
    | error fault =>
        rcases (start_eq_error_iff [] result.exchange).mp starting with ⟨live, unread⟩
        rcases eq_of_create created with ⟨line, fresh⟩
        rw [begins] at unread
        rw [fresh] at live unread
        exact absurd unread ((all result member).extract_exchange live accepted fault)

/-- A contest of locators that recalls exchanges. -/
def locators : Rule := { Rule.basic "STEWPERRY" .grid 8 with recallExchange := true }

/-- The keys of a locator in small letters, and Enter. -/
def locatorKeys : List (Option Key) :=
  [some (.ofChar 'j'), some (.ofChar 'o'), none, some (.ofChar '7'), some (.ofChar '0'),
    some .lineFeed]

/-- A locator that was typed in small letters starts the next capture in capitals. -/
theorem recalls_last_accepted_of_locator :
    ∃ fresh last operator,
      CaptureSession.create locators (Extractor.ofRule locators ⟨[]⟩ .builtIn) {}
        { call := Text.ofString "OK1WC" } = .ok fresh ∧
      (Capture.run Simulation.surroundings ⟨create .standard none, []⟩ fresh []
        locatorKeys).session = .ok last ∧
      operator = worked .standard none [.perform [.sendMessage 1], .remember last.result] ∧
      operator.serial = 2 ∧
      ∃ outcome,
        fresh.start [] (Capture.recalled Simulation.surroundings ⟨operator, []⟩ fresh []).2 =
          .ok outcome ∧
        outcome.1.buffer.text = Text.ofString "JO70" := by
  have runs : ∃ fresh last,
      CaptureSession.create locators (Extractor.ofRule locators ⟨[]⟩ .builtIn) {}
        { call := Text.ofString "OK1WC" } = .ok fresh ∧
      (Capture.run Simulation.surroundings ⟨create .standard none, []⟩ fresh []
        locatorKeys).session = .ok last ∧
      last.result.isAccepted = true ∧ last.result.call = Text.ofString "OK1WC" ∧
      last.result.exchange = Text.ofString "JO70" := ⟨_, _, rfl, rfl, rfl, rfl, rfl⟩
  rcases runs with ⟨fresh, last, created, done, accepted, call, exchange⟩
  let events : List Event := [.perform [.sendMessage 1], .remember last.result]
  have only : RecallsOnly locators := ⟨rfl, rfl, rfl⟩
  have single : results events = [last.result] := rfl
  have counts : last.result.isRemembered = true := by
    rw [CaptureResult.isRemembered, accepted, call]
    rfl
  have isResult : ∀ result ∈ results events,
      IsResultUnder locators (Extractor.ofRule locators ⟨[]⟩ .builtIn) result := by
    intro result member
    rw [single] at member
    rw [List.mem_singleton.mp member]
    exact ⟨_, _, _, _, _, fresh, last, _, created, done, rfl⟩
  rcases recalls_last_accepted .standard none events with ⟨recalled, serial, starts⟩
  have found : (worked .standard none events).remembered (Text.ofString "OK1WC") =
      Text.ofString "JO70" := by
    have last? := recalled (Text.ofString "OK1WC")
    rw [single, lastExchange?_cons, counts, call, exchange] at last?
    exact congrArg (·.getD []) last?
  have present : (worked .standard none events).remembered (Text.ofString "OK1WC") ≠ [] := by
    rw [found]
    exact List.cons_ne_nil _ _
  rcases starts locators only (fun result member => ⟨_, _, isResult result member⟩) _ _ _ fresh
    created present Simulation.Printer Simulation.surroundings ⟨worked .standard none events, []⟩
    rfl with ⟨text, reads⟩
  rcases reads _ _ rfl isResult with ⟨outcome, starting⟩
  refine ⟨fresh, last, _, created, done, rfl, ?_, outcome, starting, ?_⟩
  · rw [serial, single, List.countP_cons, counts]
    rfl
  · rw [text outcome starting]
    exact found

end Operator
end ContestExchange
