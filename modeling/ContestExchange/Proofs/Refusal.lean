import ContestExchange.Proofs.SessionRestart
import ContestExchange.Proofs.ThreePlaces

namespace ContestExchange
namespace CaptureSession

/-!
# Refused completions

A key that asks for the exchange to be completed can be refused: something is lacking, the operator
is asked for it, and the capture goes on.  By then the key has padded the serial of the line and put
the reading of the padded line in place of the one before.

Pressed once more, the key finds the line that it has left itself.  There is nothing to pad any
longer, the same text is read, and the same is asked for.  What makes this exact is the session in
which the exchange was judged, between padding and asking: judging leads from it to itself, so the
first press and one in that session come to the same.  A refusal differs from it by what it has
noted, and no key ever looks at the log.
-/

/-! ## Judging twice -/

section Judged

variable (session : CaptureSession) (reading : Extraction)

theorem padsSerial_judged : (session.judged reading).padsSerial = session.padsSerial := by
  have same := session.sameSetting_judged reading
  rw [padsSerial, padsSerial, same.rule, contact_judged]

/-- The padded line has nothing to be padded. -/
theorem completedText_judged :
    (session.judged reading).completedText = session.completedText := by
  have same := session.sameSetting_judged reading
  rw [completedText, padsSerial_judged, same.rule, same.width, text_judged]
  by_cases pads : session.padsSerial = true
  · rw [if_pos pads, completedText, if_pos pads, Serial.pad_pad]
  · rw [if_neg pads]

/-- A line that would be completed as it stands is not aligned. -/
theorem aligned_of_completedText {session : CaptureSession}
    (padded : session.completedText = session.buffer.text) : session.aligned = session := by
  unfold aligned
  by_cases pads : session.padsSerial = true
  · rw [completedText, if_pos pads] at padded
    rw [if_pos pads, alignSerial, padded]
    dsimp only
    rw [if_pos (beq_self_eq_true _)]
  · rw [if_neg pads]

/-- Judging a session that was judged changes nothing. -/
theorem judged_judged : (session.judged reading).judged reading = session.judged reading := by
  have padded : (session.judged reading).completedText = (session.judged reading).buffer.text := by
    rw [completedText_judged, text_judged]
  rw [judged, aligned_of_completedText padded]
  rfl

theorem isEmpty_judged : (session.judged reading).buffer.isEmpty = session.buffer.isEmpty := by
  rw [Bool.eq_iff_iff, Buffer.isEmpty_iff, Buffer.isEmpty_iff, text_judged, completedText]
  split
  · exact Serial.pad_eq_nil_iff _ _ _
  · exact Iff.rfl

end Judged

/-! ## Keys that ask for completion -/

/-- Whether a key asks for the exchange to be completed: it is a completing key, or it logs at
once. -/
def Asks (session : CaptureSession) (key : Key) : Prop :=
  key.isCompleting = true ∨ session.logsAtOnce key = true

/-- What a key that asks for completion has carried out before anything else. -/
def actionsOnAsking (session : CaptureSession) (key : Key) : List Action :=
  if key = .plus ∧ session.buffer.isEmpty = false then [.sendMessage 3] else []

section Asking

variable {session : CaptureSession} {key : Key}

theorem Asks.key_cases (asks : session.Asks key) :
    key = .tab ∨ key = .backslash ∨ key.isEnter = true ∨
      key = .plus ∧ session.logsAtOnce .plus = true := by
  rcases asks with completing | atOnce
  · simp only [Key.isCompleting, Key.isFinalizing, Bool.or_eq_true, beq_iff_eq] at completing
    rcases completing with (enters | same) | same
    · exact .inr (.inr (.inl enters))
    · exact .inr (.inl same)
    · exact .inl same
  · have given := atOnce
    simp only [logsAtOnce, Bool.or_eq_true, Bool.and_eq_true, beq_iff_eq] at given
    rcases given with ⟨enters, _⟩ | ⟨⟨same, _⟩, _⟩
    · exact .inr (.inr (.inl enters))
    · exact .inr (.inr (.inr ⟨same, same ▸ atOnce⟩))

/-- A key that asks for completion is passed on as the key that it stands for. -/
theorem Asks.respond (asks : session.Asks key) :
    session.respond key =
      .passed session (session.actionsOnAsking key) (session.resolvedKey key) := by
  have enters (key : Key) (isEnter : key.isEnter = true) (noPlus : key ≠ .plus)
      (noKeyer : ¬ (key = .comma ∨ key = .ctrlK)) :
      session.entered key =
        .passed session (session.actionsOnAsking key) (session.resolvedKey key) := by
    have quiet : session.actionsOnAsking key = [] := if_neg fun given => noPlus given.1
    rw [quiet, entered, resolvedKey, logsAtOnce, isEnter, beq_eq_false_iff_ne.mpr noPlus,
      if_neg noKeyer]
    simp only [Bool.true_and, Bool.false_and, Bool.or_false]
    split
    · rfl
    · rfl
  rcases asks.key_cases with same | same | isEnter | ⟨same, atOnce⟩
  · rw [same]
    rfl
  · rw [same]
    rfl
  · simp only [Key.isEnter, Bool.or_eq_true, beq_iff_eq] at isEnter
    rcases isEnter with same | same
    · rw [same]
      exact enters .lineFeed rfl (by decide) (by decide)
    · rw [same]
      exact enters .enter rfl (by decide) (by decide)
  · rw [same]
    show session.plused = _
    have wanted : (session.settings.ctCompatible && decide (2 < session.contact.call.length)) =
        true := atOnce
    rw [plused, if_pos wanted, resolvedKey, if_pos atOnce, actionsOnAsking]
    cases session.buffer.isEmpty with
    | true => rfl
    | false => rfl

/-- The key that it stands for completes the exchange or does nothing, and it types in neither
case. -/
theorem Asks.resolvedKey_cases (asks : session.Asks key) :
    (session.resolvedKey key).isCompleting = true ∨ session.resolvedKey key = refusedKey := by
  unfold resolvedKey
  by_cases atOnce : session.logsAtOnce key = true
  · rw [if_pos atOnce]
    split
    · exact .inr rfl
    · exact .inl rfl
  · have completing := asks.resolve_right atOnce
    rw [if_neg atOnce, if_neg]
    · exact .inl completing
    · rintro (same | same) <;> rw [same] at completing <;> cases completing

/-- What a key that asks for completion comes to, once the line has been read where the rule is
live. -/
theorem Asks.collect (asks : session.Asks key)
    (read : (session.rule.isLive && session.reading.isNone) = false) :
    session.collect key =
      if (session.resolvedKey key).isCompleting then
        session.complete (session.resolvedKey key) (session.actionsOnAsking key)
      else .ok (session.stay (session.actionsOnAsking key)) := by
  have mute : (session.resolvedKey key).promote = session.resolvedKey key ∧
      (session.resolvedKey key).isTyped = false := by
    rcases asks.resolvedKey_cases with completing | refused
    · exact ⟨Key.promote_of_isCompleting completing, Key.isTyped_of_isCompleting completing⟩
    · rw [refused]
      exact ⟨rfl, rfl⟩
  rw [CaptureSession.collect, asks.respond]
  simp only [mute.1, type_of_not_isTyped mute.2, bne_self_eq_false, Bool.false_or,
    validateIf_of_unneeded read, List.append_nil]

end Asking

/-! ## In the session in which the exchange was judged -/

section Again

variable {session : CaptureSession} {key : Key} (reading : Extraction)

theorem logsAtOnce_judged (key : Key) :
    (session.judged reading).logsAtOnce key = session.logsAtOnce key := by
  have same := session.sameSetting_judged reading
  rw [logsAtOnce, logsAtOnce, same.rule, same.settings, contact_judged]

theorem Asks.judged (asks : session.Asks key) : (session.judged reading).Asks key := by
  rw [Asks, logsAtOnce_judged]
  exact asks

theorem resolvedKey_judged (key : Key) :
    (session.judged reading).resolvedKey key = session.resolvedKey key := by
  rw [resolvedKey, resolvedKey, logsAtOnce_judged, isEmpty_judged]

theorem actionsOnAsking_judged (key : Key) :
    (session.judged reading).actionsOnAsking key = session.actionsOnAsking key := by
  rw [actionsOnAsking, actionsOnAsking, isEmpty_judged]

/-- A completion comes to the same where its exchange was judged. -/
theorem complete_judged {reading : Extraction}
    (read : session.extractor.extract false session.completedText = .ok reading)
    (key : Key) (actions : List Action) :
    (session.judged reading).complete key actions = session.complete key actions := by
  have same := session.sameSetting_judged reading
  rw [complete_eq, complete_eq, completedText_judged, same.extractor, read]
  dsimp only
  rw [judged_judged]

end Again

/-! ## Pressing the key again -/

/-- Whether a key leaves a session as it is, its log apart, and comes to a transition. -/
def IsSteady (session : CaptureSession) (key : Key) (transition : Transition) : Prop :=
  ∃ log, session.step key = .ok ({ session with log := log }, transition)

section Steady

variable {session first second : CaptureSession} {key : Key} {transition : Transition}

theorem IsSteady.of_sameButLog (steady : first.IsSteady key transition)
    (same : SameButLog first second) : second.IsSteady key transition := by
  have alike := same.step key
  rcases steady with ⟨log, stepped⟩
  rw [stepped] at alike
  generalize answer : second.step key = outcome at alike
  cases alike with
  | done related =>
      rcases same with ⟨_, _, rfl, same⟩
      rcases related with ⟨_, later, rfl, after⟩
      subst same after
      exact ⟨later, answer⟩

/-- A key that leaves the session as it is shows the same however often it is pressed. -/
theorem IsSteady.transcript (steady : session.IsSteady key transition) (count : Nat) :
    session.transcript (List.replicate count (.press key)) =
      .ok (List.replicate count transition, session.result) := by
  induction count generalizing session with
  | zero => rfl
  | succ count inductionHypothesis =>
      rcases steady with ⟨log, stepped⟩
      have pressed : session.operate (.press key) = .ok ({ session with log := log }, transition) :=
        stepped
      have same : SameButLog session { session with log := log } := ⟨_, log, rfl, rfl⟩
      have later := inductionHypothesis (IsSteady.of_sameButLog ⟨_, stepped⟩ same)
      rw [List.replicate_succ, CaptureSession.transcript, pressed]
      dsimp only
      rw [later]
      rfl

/-- A session that a refusal leaves differs in its log from one in which the key comes to the same
refusal. -/
theorem Asks.settled (asks : session.Asks key) (byRule : session.ReadsByRule)
    (read : (session.rule.isLive && session.reading.isNone) = false)
    (done : session.collect key = .ok (second, transition)) (stays : second.state = .collecting) :
    ∃ settled, SameButLog settled second ∧ settled.lastKey = session.lastKey ∧
      settled.collect key = .ok (second, transition) := by
  have collects := asks.collect read
  rw [collects] at done
  by_cases completing : (session.resolvedKey key).isCompleting = true
  · rw [if_pos completing] at done
    rcases completed_of_complete byRule completing done with ⟨reading, extracted, completed⟩
    have lastKey : (session.judged reading).lastKey = session.lastKey := by
      rw [CaptureSession.judged, aligned_eq]
    refine ⟨session.judged reading, ?_, lastKey, ?_⟩
    · generalize outcome : (second, transition) = pair at completed
      cases completed with
      | accepted =>
          cases outcome
          cases stays
      | rejected =>
          cases outcome
          cases stays
      | asked requires refuses prompt note =>
          cases outcome
          exact ⟨_, _, rfl, rfl⟩
    · have readAgain : ((session.judged reading).rule.isLive &&
          (session.judged reading).reading.isNone) = false := Bool.and_false _
      rw [(asks.judged reading).collect readAgain, resolvedKey_judged, actionsOnAsking_judged,
        if_pos completing, complete_judged extracted]
      exact done
  · rw [if_neg completing] at done
    cases done
    exact ⟨session, ⟨_, _, rfl, rfl⟩, rfl, collects.trans (if_neg completing)⟩

/-- In a session that can be reached and collects, the line has been read where the rule is live. -/
theorem read_of_reachable {rule : Rule} {table : MultiplierTable} {templates : TemplateSet}
    {settings : CaptureSettings} {contact : Contact}
    (reachable :
      Reachable rule (Extractor.ofRule rule table templates) settings contact session)
    (collecting : session.state = .collecting) :
    session.ReadsByRule ∧ (session.rule.isLive && session.reading.isNone) = false := by
  rcases reachable with ⟨fresh, operations, created, done⟩
  have fromFresh := invariant_of_create created
  have holds := invariant_of_run fromFresh done
  rcases eq_of_create created with ⟨_, same⟩
  refine ⟨holds.byRule, ?_⟩
  cases live : session.rule.isLive with
  | false => rfl
  | true =>
      have isOpen : session.IsOpen := Or.inl collecting
      have liveFresh : fresh.rule.isLive = true := by rw [← holds.setting.rule]; exact live
      have current := current_of_run fromFresh (by rw [same]) liveFresh done isOpen.isKept
      rw [Option.isNone_eq_false_iff.mpr current.isSome]
      rfl

/-- A session that a refusal leaves is one in which the key is refused once more. -/
theorem Asks.isSteady (asks : session.Asks key) (byRule : session.ReadsByRule)
    (read : (session.rule.isLive && session.reading.isNone) = false)
    (collecting : session.state = .collecting)
    (stepped : session.step key = .ok (second, transition)) (stays : second.state = .collecting) :
    second.IsSteady key transition := by
  have isOpen : session.IsOpen := Or.inl collecting
  have isOpenToo : second.IsOpen := Or.inl stays
  have pressedAsks : Asks { session with lastKey := key } key := asks
  have pressedByRule := byRule.of_sameSetting (session.sameSetting_pressed key)
  rw [step_of_started isOpen.started, take_of_collecting collecting] at stepped
  rcases pressedAsks.settled pressedByRule read stepped stays with
    ⟨settled, same, lastKey, refused⟩
  have pressedAgain : SameButLog settled { second with lastKey := key } := by
    have pressed := same.pressed key
    have unchanged : { settled with lastKey := key } = settled := by
      rw [← show settled.lastKey = key from lastKey]
    rw [unchanged] at pressed
    exact pressed
  have alike := pressedAgain.collect key
  rw [refused] at alike
  rw [IsSteady, step_of_started isOpenToo.started, take_of_collecting stays]
  generalize { second with lastKey := key }.collect key = outcome at alike ⊢
  cases alike with
  | done related =>
      rcases related with ⟨_, log, rfl, after⟩
      subst after
      exact ⟨log, rfl⟩

end Steady

/-- In every session that can be reached and collects, a key that asks for completion and is refused
comes to the same transition when it is pressed again, and it leaves everything but the log as the
first refusal has left it.  So it does however often it is pressed. -/
theorem refusal_repeats {rule : Rule} {table : MultiplierTable} {templates : TemplateSet}
    {settings : CaptureSettings} {contact : Contact} {session : CaptureSession}
    (reachable :
      Reachable rule (Extractor.ofRule rule table templates) settings contact session)
    (collecting : session.state = .collecting) {key : Key} (asks : session.Asks key)
    {refused : CaptureSession} {transition : Transition}
    (stepped : session.step key = .ok (refused, transition))
    (stays : refused.state = .collecting) :
    (∃ log, refused.step key = .ok ({ refused with log := log }, transition)) ∧
      ∀ count, refused.transcript (List.replicate count (.press key)) =
        .ok (List.replicate count transition, refused.result) := by
  rcases read_of_reachable reachable collecting with ⟨byRule, read⟩
  have steady := asks.isSteady byRule read collecting stepped stays
  exact ⟨steady, fun count => steady.transcript count⟩

/-- A contest with sections whose serials are padded. -/
def paddedSweepstakes : Rule := { Rule.basic "ARRL_SS" .sweepstakes 24 with padding := .wpx }

/-- The first Enter pads the serial and asks for the section; the second finds the padded serial and
asks the same. -/
theorem refusal_repeats_of_padded_serial :
    ∃ session refused transition,
      Reachable paddedSweepstakes (Extractor.ofRule paddedSweepstakes ⟨[]⟩ ⟨[], [], [], []⟩) {} {}
        session ∧
      session.state = .collecting ∧ session.buffer.text = Text.ofString "5" ∧
      session.Asks .lineFeed ∧ session.step .lineFeed = .ok (refused, transition) ∧
      refused.state = .collecting ∧ refused.buffer.text = Text.ofString "005" ∧
      ∃ log, refused.step .lineFeed = .ok ({ refused with log := log }, transition) := by
  have runs : ∃ session refused transition,
      Reachable paddedSweepstakes (Extractor.ofRule paddedSweepstakes ⟨[]⟩ ⟨[], [], [], []⟩) {} {}
        session ∧
      session.state = .collecting ∧ session.buffer.text = Text.ofString "5" ∧
      session.step .lineFeed = .ok (refused, transition) ∧
      refused.state = .collecting ∧ refused.buffer.text = Text.ofString "005" :=
    ⟨_, _, _, ⟨_, [.press (Key.ofChar '5')], rfl, rfl⟩, rfl, rfl, rfl, rfl, rfl⟩
  rcases runs with
    ⟨session, refused, transition, reachable, collecting, typed, stepped, stays, padded⟩
  have asks : session.Asks .lineFeed := .inl rfl
  have repeated := refusal_repeats reachable collecting asks stepped stays
  exact ⟨session, refused, transition, reachable, collecting, typed, asks, stepped, stays, padded,
    repeated.1⟩

end CaptureSession
end ContestExchange
