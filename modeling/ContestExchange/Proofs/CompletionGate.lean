import ContestExchange.Proofs.SessionReading

namespace ContestExchange
namespace CaptureSession

/-!
# The completion gate

Which key completes an exchange depends on the settings, since Enter and the plus sign may stand for
another key; whether the exchange is then accepted depends on the contest.  The two questions meet
here.  In a session that collects, a key that stands for a completing one always comes to one of the
three cases of a completion, and `Rule.Admits` decides which; no other key ever has an exchange
accepted or rejected.

A session that can be reached has read its line already where its rule is live, so a key that
completes does not read the line as it is before it is padded.
-/

/-- Whether some run leads from a fresh session to this one. -/
def Reachable (rule : Rule) (extractor : Extractor) (settings : CaptureSettings)
    (contact : Contact) (session : CaptureSession) : Prop :=
  ∃ fresh operations, create rule extractor settings contact = .ok fresh ∧
    fresh.run operations = .ok session

/-! ## A key that completes -/

/-- A key that stands for a completing one is passed on with the session as it is. -/
theorem respond_of_completing {session : CaptureSession} {key : Key}
    (completing : (session.resolvedKey key).isCompleting = true) :
    ∃ actions, session.respond key = .passed session actions (session.resolvedKey key) ∧
      actions.countP Action.isNotify = 0 := by
  have answer := session.answer_respond key
  generalize session.respond key = response at answer
  cases answer with
  | kept _ actions incomplete => exact absurd (completing.symm.trans incomplete) Bool.noConfusion
  | opened _ position present incomplete =>
      exact absurd (completing.symm.trans incomplete) Bool.noConfusion
  | spotted => cases completing
  | left empty => cases completing
  | emptied present => cases completing
  | shortened => cases completing
  | resolved _ actions quiet => exact ⟨actions, rfl, quiet⟩

/-- A key that stands for a completing one completes the exchange as it stands, provided that the
line has been read where the rule is live. -/
theorem collect_of_completing {session : CaptureSession} {key : Key}
    (completing : (session.resolvedKey key).isCompleting = true)
    (read : (session.rule.isLive && session.reading.isNone) = false) :
    ∃ actions, actions.countP Action.isNotify = 0 ∧
      session.collect key = session.complete (session.resolvedKey key) actions := by
  rcases respond_of_completing completing with ⟨actions, responds, quiet⟩
  refine ⟨actions, quiet, ?_⟩
  have unchanged : session.type (session.resolvedKey key) = session :=
    type_of_not_isTyped (Key.isTyped_of_isCompleting completing)
  rw [collect, responds]
  simp only [Key.promote_of_isCompleting completing, unchanged, bne_self_eq_false, Bool.false_or,
    validateIf_of_unneeded read, completing, if_true, List.append_nil]

/-- The gate in a session that has been judged is the gate for the padded text. -/
theorem admits_judged (session : CaptureSession) (key : Key) (reading : Extraction) :
    (session.judged reading).Admits key reading ↔
      session.rule.Admits session.settings session.contact key session.completedText reading := by
  have same := session.sameSetting_judged reading
  rw [Admits, same.rule, same.settings, contact_judged, text_judged]

theorem result_ended_judged (session : CaptureSession) (key : Key) (reading : Extraction) :
    ((session.judged reading).ended .complete key).result =
      ⟨key, .complete, session.completedText, reading, session.contact.call⟩ := by
  have call : ((session.judged reading).ended .complete key).contact.call = session.contact.call :=
    congrArg Contact.call (session.contact_judged reading)
  have text : ((session.judged reading).ended .complete key).buffer.text = session.completedText :=
    session.text_judged reading
  rw [result, call, text]
  rfl

/-- What a completion comes to, as the key that completes sees it. -/
structure Gated (session : CaptureSession) (key : Key) (reading : Extraction)
    (next : CaptureSession) (transition : Transition) : Prop where
  accepted : next.result =
      ⟨key, .complete, session.completedText, reading, session.contact.call⟩ ↔
    session.rule.Admits session.settings session.contact key session.completedText reading
  rejected : session.rule.requiresSection = true →
    ¬ session.rule.Admits session.settings session.contact key session.completedText reading →
      next.state = .rejected
  asked : session.rule.requiresSection = false →
    ¬ session.rule.Admits session.settings session.contact key session.completedText reading →
      next.state = .collecting ∧ transition.actions.countP Action.isNotify = 1

theorem Completed.gated {session : CaptureSession} {key : Key} {actions : List Action}
    {reading : Extraction} {outcome : CaptureSession × Transition}
    (completed : Completed session key actions reading outcome)
    (collecting : session.state = .collecting) (quiet : actions.countP Action.isNotify = 0) :
    Gated session key reading outcome.1 outcome.2 := by
  have gate := session.admits_judged key reading
  cases completed with
  | accepted admits shown =>
      have admitted := gate.mp admits
      refine ⟨⟨fun _ => admitted, fun _ => session.result_ended_judged key reading⟩, ?_, ?_⟩
      · exact fun _ refused => absurd admitted refused
      · exact fun _ refused => absurd admitted refused
  | rejected requires refuses note shown =>
      refine ⟨⟨fun accepted => ?_, fun admits => absurd (gate.mpr admits) refuses⟩, ?_, ?_⟩
      · cases congrArg CaptureResult.status accepted
      · exact fun _ _ => rfl
      · intro optional
        exact absurd (requires.symm.trans optional) Bool.noConfusion
  | asked requires refuses prompt note =>
      have stays : (session.judged reading).state = .collecting :=
        (session.state_judged reading).trans collecting
      refine ⟨⟨fun accepted => ?_, fun admits => absurd (gate.mpr admits) refuses⟩, ?_, ?_⟩
      · have ends := congrArg CaptureResult.status accepted
        cases stays.symm.trans ends
      · exact fun required => absurd required requires
      · refine fun _ _ => ⟨stays, ?_⟩
        rw [stay, List.append_assoc, List.countP_append, quiet]
        rfl

/-! ## Any other key -/

/-- An exchange is accepted or rejected only where a key stands for a completing one. -/
theorem Taken.completing {session : CaptureSession} {key : Key}
    {outcome : CaptureSession × Transition} (taken : Taken session key outcome)
    (concludes : outcome.1.state = .complete ∨ outcome.1.state = .rejected) :
    outcome.1 = session ∨
      session.state = .collecting ∧ (session.resolvedKey key).isCompleting = true := by
  cases taken with
  | final final => exact Or.inl rfl
  | collected collecting noCursor outcome done =>
      cases done with
      | kept actions => rcases concludes with state | state <;> cases collecting.symm.trans state
      | opened position present => rcases concludes with state | state <;> cases state
      | left line empty width unchanged outcome ended =>
          have back := ended.state
          rcases concludes with state | state <;> cases back.symm.trans state
      | changed line change incomplete next after actions =>
          have stays : next.state = .collecting := after.state.trans collecting
          rcases concludes with state | state <;> cases stays.symm.trans state
      | completed completing next after actions outcome concluded =>
          exact Or.inr ⟨collecting, completing⟩
  | edited editing cursor placed inside outcome done =>
      cases done with
      | continued next after actions =>
          have stays : next.state = .editing := after.state.trans editing
          rcases concludes with state | state <;> cases stays.symm.trans state
      | closed next after actions => rcases concludes with state | state <;> cases state

/-- A key that has an exchange accepted or rejected stands for a completing one in a session that
collects, unless the session had ended before. -/
theorem completing_of_step {fresh session next : CaptureSession} {key : Key}
    {transition : Transition} (holds : Invariant fresh session)
    (done : session.step key = .ok (next, transition))
    (concludes : next.state = .complete ∨ next.state = .rejected) :
    next = session ∨ ∃ started, session.ensureStarted = .ok started ∧
      started.state = .collecting ∧ (started.resolvedKey key).isCompleting = true := by
  by_cases idle : session.state = .idle
  · rcases start_of_step idle done with ⟨⟨started, opening⟩, starting, taken⟩
    have holdsStarted := holds.start starting
    have collecting : started.state = .collecting := (read_of_start starting).state
    have isOpen : started.IsOpen := Or.inl collecting
    have ensured : session.ensureStarted = .ok started := by
      rw [ensureStarted, if_pos idle, starting]
      rfl
    rcases (taken_of_take holdsStarted.sound isOpen.started taken).completing concludes with
      same | completes
    · have unended : next.state = .collecting := (congrArg state same).trans collecting
      rcases concludes with state | state <;> cases unended.symm.trans state
    · exact Or.inr ⟨started, ensured, completes⟩
  · have ensured : session.ensureStarted = .ok session := by rw [ensureStarted, if_neg idle]
    rw [step_of_started idle] at done
    rcases (taken_of_take holds.sound idle done).completing concludes with same | completes
    · exact Or.inl same
    · exact Or.inr ⟨session, ensured, completes⟩

/-! ## The gate -/

/-- In every session that can be reached and collects, a key that stands for a completing one comes
to what the rule says about the padded text and its reading.  No other key has an exchange accepted
or rejected. -/
theorem completion_gate {rule : Rule} {table : MultiplierTable} {templates : TemplateSet}
    {settings : CaptureSettings} {contact : Contact} {session : CaptureSession}
    (reachable :
      Reachable rule (Extractor.ofRule rule table templates) settings contact session) :
    session.rule = rule ∧ session.settings = settings ∧
    (session.state = .collecting → ∀ key reading,
      (session.resolvedKey key).isCompleting = true →
      (Extractor.ofRule rule table templates).extract false session.completedText = .ok reading →
        ∃ next transition, session.step key = .ok (next, transition) ∧
          Gated session (session.resolvedKey key) reading next transition) ∧
    ∀ key next transition, session.step key = .ok (next, transition) →
      next.state = .complete ∨ next.state = .rejected →
        next = session ∨ ∃ started, session.ensureStarted = .ok started ∧
          started.state = .collecting ∧ (started.resolvedKey key).isCompleting = true := by
  rcases reachable with ⟨fresh, operations, created, done⟩
  have fromFresh := invariant_of_create created
  have holds := invariant_of_run fromFresh done
  rcases eq_of_create created with ⟨line, same⟩
  refine ⟨by rw [holds.setting.rule, same], by rw [holds.setting.settings, same], ?_, ?_⟩
  · intro collecting key reading completing extracted
    have isOpen : session.IsOpen := Or.inl collecting
    have read : (session.rule.isLive && session.reading.isNone) = false := by
      cases live : session.rule.isLive with
      | false => rfl
      | true =>
          have liveFresh : fresh.rule.isLive = true := by rw [← holds.setting.rule]; exact live
          have current := current_of_run fromFresh (by rw [same]) liveFresh done isOpen.isKept
          rw [Option.isNone_eq_false_iff.mpr current.isSome]
          rfl
    have reader : session.extractor = Extractor.ofRule rule table templates := by
      rw [holds.setting.extractor, same]
    rw [← reader] at extracted
    have pressed := holds.byRule.of_sameSetting (session.sameSetting_pressed key)
    have completes : ∃ actions, actions.countP Action.isNotify = 0 ∧
        { session with lastKey := key }.collect key =
          { session with lastKey := key }.complete (session.resolvedKey key) actions :=
      collect_of_completing completing read
    rcases completes with ⟨actions, quiet, collects⟩
    rcases exists_completed pressed completing extracted actions with
      ⟨⟨next, transition⟩, completed, outcome⟩
    have gated := outcome.gated collecting quiet
    rw [step_of_started isOpen.started, take_of_collecting collecting]
    exact ⟨next, transition, collects.trans completed,
      ⟨gated.accepted, gated.rejected, gated.asked⟩⟩
  · intro key next transition stepped concludes
    exact completing_of_step holds stepped concludes

/-- In a digital contest a zone alone names no state: Enter asks for it, and the tabulator does
without it. -/
theorem completion_gate_of_digital_zone :
    ∃ session, Reachable (Rule.basic "CQWW" .zone 12)
        (Extractor.ofRule (Rule.basic "CQWW" .zone 12) ⟨[]⟩ ⟨[], [], [], []⟩) { mode := .digi }
        { country := Text.ofString "K" } session ∧
      session.state = .collecting ∧ session.completedText = Text.ofString "14" ∧
      (∃ next transition, session.step .lineFeed = .ok (next, transition) ∧
        next.state = .collecting ∧ transition.actions.countP Action.isNotify = 1) ∧
      ∃ next transition, session.step .tab = .ok (next, transition) ∧
        next.result.status = .complete ∧ next.result.exchange = Text.ofString "14" := by
  have runs : ∃ session, Reachable (Rule.basic "CQWW" .zone 12)
      (Extractor.ofRule (Rule.basic "CQWW" .zone 12) ⟨[]⟩ ⟨[], [], [], []⟩) { mode := .digi }
      { country := Text.ofString "K" } session ∧ session.state = .collecting ∧
      session.completedText = Text.ofString "14" ∧ session.contact.country = Text.ofString "K" ∧
      session.resolvedKey .lineFeed = .lineFeed ∧ session.resolvedKey .tab = .tab :=
    ⟨_, ⟨_, [.press (Key.ofChar '1'), .press (Key.ofChar '4')], rfl, rfl⟩, rfl, rfl, rfl, rfl, rfl⟩
  rcases runs with ⟨session, reachable, collecting, text, american, enters, tabs⟩
  rcases completion_gate reachable with ⟨sameRule, sameSettings, gate, _⟩
  have read : ∃ reading, (Extractor.ofRule (Rule.basic "CQWW" .zone 12) ⟨[]⟩ ⟨[], [], [], []⟩).extract
      false session.completedText = .ok reading := ⟨_, rfl⟩
  rcases read with ⟨reading, extracted⟩
  refine ⟨session, reachable, collecting, text, ?_, ?_⟩
  · rcases gate collecting .lineFeed reading (by rw [enters]; rfl) extracted with
      ⟨next, transition, stepped, gated⟩
    rw [enters] at gated
    refine ⟨next, transition, stepped, gated.asked (by rw [sameRule]; rfl) fun admits => ?_⟩
    rw [sameRule, sameSettings, text] at admits
    rcases admits rfl (by rw [american]; decide) with tabbed | long
    · exact absurd tabbed (by decide)
    · exact absurd long (by decide)
  · rcases gate collecting .tab reading (by rw [tabs]; rfl) extracted with
      ⟨next, transition, stepped, gated⟩
    rw [tabs] at gated
    have admits : session.rule.Admits session.settings session.contact .tab session.completedText
        reading := by
      rw [sameRule]
      exact fun _ _ => Or.inl rfl
    have accepted := gated.accepted.mpr admits
    refine ⟨next, transition, stepped, congrArg CaptureResult.status accepted, ?_⟩
    rw [← text]
    exact congrArg CaptureResult.exchange accepted

end CaptureSession
end ContestExchange
