import ContestExchange.Proofs.SessionReading

namespace ContestExchange

/-!
# What remains of typing that is taken back

A call that is retyped into an exchange replaces the call of the contact as soon as it is read, and
the replacement outlives the characters that brought it about.  So what a capture comes to is no
function of the exchange alone.  What was read out of the exchange is; the call is the last
correction among all the texts that were read on the way, or the call that the contact came with.

A text is read on the way where the capture starts with it, and where a key changes the line without
completing the exchange or ending the capture.  Padding comes after that: a padded text corrects no
call.
-/

/-- The call that a text puts right, if it repeats one of three characters or more. -/
def Extractor.correctedCall? (extractor : Extractor) (text : Text) : Option Text :=
  match extractor.extract false text with
  | .error _ => none
  | .ok reading => if 3 ≤ reading.correction.length then some reading.correction else none

/-- Where calls are put right, the call after a reading is the one that the text puts right. -/
theorem CaptureSettings.callAfter_of_extract {settings : CaptureSettings}
    (updates : settings.callUpdate = true) (call : Text) {extractor : Extractor} {text : Text}
    {reading : Extraction} (read : extractor.extract true text = .ok reading) :
    settings.callAfter call reading = (extractor.correctedCall? text).getD call := by
  have after : settings.callAfter call reading =
      if 3 ≤ reading.correction.length then reading.correction else call := by
    simp only [callAfter, updates, Bool.true_and, decide_eq_true_eq]
  have corrected : extractor.correctedCall? text =
      if 3 ≤ reading.correction.length then some reading.correction else none := by
    rw [Extractor.correctedCall?, Extractor.extract_false_of_extract read]
    rfl
  rw [after, corrected]
  split
  · rfl
  · rfl

namespace CaptureSession

/-! ## The texts of a run -/

/-- The text that a key leaves to be read: the line, where the key changes it and neither completes
the exchange nor ends the capture. -/
def textAfter? (session : CaptureSession) (key : Key) (next : CaptureSession) : Option Text :=
  if session.state = .collecting ∧ (session.resolvedKey key).isCompleting = true then none
  else if next.state.isFinal = true ∨ next.buffer.text = session.buffer.text then none
  else some next.buffer.text

/-- The text that an operation leaves to be read. -/
def textRead? (session : CaptureSession) (operation : Operation) (next : CaptureSession) :
    Option Text :=
  match operation with
  | .start _ _ => some next.buffer.text
  | .press key => session.textAfter? key next
  | .abort => none

/-- The texts that a run reads, in order. -/
def textsRead (session : CaptureSession) : List Operation → List Text
  | [] => []
  | operation :: rest =>
      match session.operate operation with
      | .error _ => []
      | .ok (next, _) => (session.textRead? operation next).toList ++ next.textsRead rest

/-- The calls that the texts of a run put right, in order. -/
def corrections (session : CaptureSession) (operations : List Operation) : List Text :=
  (session.textsRead operations).filterMap session.extractor.correctedCall?

section TextAfter

variable {session next : CaptureSession} {key : Key}

theorem textAfter?_of_same_text (same : next.buffer.text = session.buffer.text) :
    session.textAfter? key next = none := by
  unfold textAfter?
  split
  · rfl
  · rw [if_pos (Or.inr same)]

theorem textAfter?_of_isFinal (final : next.state.isFinal = true) :
    session.textAfter? key next = none := by
  unfold textAfter?
  split
  · rfl
  · rw [if_pos (Or.inl final)]

theorem textAfter?_of_completing (collecting : session.state = .collecting)
    (completing : (session.resolvedKey key).isCompleting = true) :
    session.textAfter? key next = none := by
  rw [textAfter?, if_pos ⟨collecting, completing⟩]

/-- A key that completes nothing and leaves the capture open leaves the line, if it changes it. -/
theorem textAfter?_of_isOpen (isOpen : next.IsOpen)
    (incomplete : session.state = .collecting → (session.resolvedKey key).isCompleting = false) :
    session.textAfter? key next =
      if next.buffer.text = session.buffer.text then none else some next.buffer.text := by
  unfold textAfter?
  split
  · rename_i completes
    have completing := completes.2.symm.trans (incomplete completes.1)
    cases completing
  · simp only [Bool.not_eq_true _ |>.mp isOpen.not_isFinal, Bool.false_eq_true, false_or]

end TextAfter

/-- The call that an operation leaves: the one that the text put right, or the one before. -/
def CallAfter (session next : CaptureSession) (text : Option Text) : Prop :=
  next.contact.call =
    (text.bind session.extractor.correctedCall?).getD session.contact.call

/-! ## The call after a key -/

/-- Where a key has changed the line it is read, and may put the call right. -/
theorem callAfter_of_read {session before after next : CaptureSession} {key : Key}
    (read : Read before after (before.buffer.text != session.buffer.text))
    (live : before.rule.isLive = true) (updates : before.settings.callUpdate = true)
    (reader : before.extractor = session.extractor)
    (call : before.contact.call = session.contact.call)
    (line : next.buffer = after.buffer) (contact : next.contact = after.contact)
    (isOpen : next.IsOpen)
    (incomplete : session.state = .collecting → (session.resolvedKey key).isCompleting = false) :
    CallAfter session next (session.textAfter? key next) := by
  rw [CallAfter, textAfter?_of_isOpen isOpen incomplete, line, contact, read.buffer]
  -- A line that the key leaves as it was is not read again, even if padding has made it.
  by_cases same : before.buffer.text = session.buffer.text
  · have unneeded : (before.rule.isLive && before.buffer.text != session.buffer.text) = false := by
      rw [same, bne_self_eq_false, Bool.and_false]
    rw [if_pos same, read.unread unneeded]
    exact call
  · have needed : (before.rule.isLive && before.buffer.text != session.buffer.text) = true := by
      rw [live, bne_iff_ne.mpr same]
      rfl
    rcases read.read needed with ⟨reading, extracted, _, corrected⟩
    rw [reader] at extracted
    rw [if_neg same, corrected, ← call]
    exact CaptureSettings.callAfter_of_extract updates before.contact.call extracted

theorem Completed.call {session : CaptureSession} {key : Key} {actions : List Action}
    {reading : Extraction} {outcome : CaptureSession × Transition}
    (completed : Completed session key actions reading outcome) :
    outcome.1.contact.call = session.contact.call := by
  have same : (session.judged reading).contact.call = session.contact.call :=
    congrArg Contact.call (session.contact_judged reading)
  cases completed with
  | accepted admits shown => exact same
  | rejected requires refuses note shown => exact same
  | asked requires refuses prompt note => exact same

theorem callAfter_of_unread {session next : CaptureSession} {text : Option Text}
    (unread : text = none) (same : next.contact.call = session.contact.call) :
    CallAfter session next text := by
  rw [CallAfter, unread]
  exact same

/-- After a key the call is the one that the text left by it puts right, or the one before. -/
theorem Taken.callAfter {session : CaptureSession} {key : Key}
    {outcome : CaptureSession × Transition} (taken : Taken session key outcome)
    (byRule : session.ReadsByRule) (live : session.rule.isLive = true)
    (updates : session.settings.callUpdate = true) (current : session.IsKept → session.Current) :
    CallAfter session outcome.1 (session.textAfter? key outcome.1) := by
  cases taken with
  | final final => exact callAfter_of_unread (textAfter?_of_same_text rfl) rfl
  | collected collecting noCursor outcome done =>
      have isOpen : session.IsOpen := Or.inl collecting
      have isSome := (current isOpen.isKept).isSome
      have read : session.reading.isNone = false := Option.isNone_eq_false_iff.mpr isSome
      cases done with
      | kept actions => exact callAfter_of_unread (textAfter?_of_same_text rfl) rfl
      | opened position present => exact callAfter_of_unread (textAfter?_of_same_text rfl) rfl
      | left line empty width unchanged outcome ended =>
          have final : outcome.1.state.isFinal = true := by rw [ended.state]; rfl
          exact callAfter_of_unread (textAfter?_of_isFinal final) (congrArg Contact.call ended.contact)
      | changed line change incomplete next after actions =>
          dsimp only at after
          rw [read, Bool.or_false] at after
          exact callAfter_of_read after live updates rfl rfl rfl rfl
            (Or.inl (after.state.trans collecting)) fun _ => incomplete
      | completed completing next after actions outcome concluded =>
          dsimp only at after
          rw [read] at after
          rcases completed_of_read byRule after completing concluded with
            ⟨same, reading, _, completed⟩
          refine callAfter_of_unread (textAfter?_of_completing collecting completing) ?_
          rw [completed.call, after.unread (Bool.and_false _)]
  | edited editing cursor placed inside outcome done =>
      have incomplete (state : session.state = .collecting) :
          (session.resolvedKey key).isCompleting = false := by
        cases editing.symm.trans state
      cases done with
      | continued next after actions =>
          exact callAfter_of_read after live updates rfl rfl rfl rfl
            (Or.inr (after.state.trans editing)) incomplete
      | closed next after actions =>
          exact callAfter_of_read after live updates rfl rfl rfl rfl (Or.inl rfl) incomplete

/-! ## The call after a run -/

theorem corrections_cons {session next : CaptureSession} {operation : Operation}
    {transition : Transition} (done : session.operate operation = .ok (next, transition))
    (reader : next.extractor = session.extractor) (rest : List Operation) :
    session.corrections (operation :: rest) =
      ((session.textRead? operation next).bind session.extractor.correctedCall?).toList ++
        next.corrections rest := by
  rw [corrections, corrections, textsRead, done, reader, List.filterMap_append]
  cases session.textRead? operation next with
  | none => rfl
  | some text =>
      cases corrected : session.extractor.correctedCall? text with
      | none => simp [corrected]
      | some call => simp [corrected]

/-- The last call put right by a run is the last one put right by its rest, or else by its first
operation. -/
theorem getLast?_corrections_cons {session next : CaptureSession} {operation : Operation}
    {transition : Transition} (done : session.operate operation = .ok (next, transition))
    (reader : next.extractor = session.extractor) (rest : List Operation) (call : Text) :
    (session.corrections (operation :: rest)).getLast?.getD call =
      (next.corrections rest).getLast?.getD
        (((session.textRead? operation next).bind session.extractor.correctedCall?).getD call) := by
  rw [corrections_cons done reader, List.getLast?_append]
  cases (next.corrections rest).getLast? with
  | some last => rfl
  | none =>
      cases (session.textRead? operation next).bind session.extractor.correctedCall? with
      | none => rfl
      | some first => rfl

/-- After any keys the call is the last one that they put right, or the one before them. -/
theorem call_of_presses {fresh session last : CaptureSession} {keys : List Key}
    (holds : Invariant fresh session) (started : session.state ≠ .idle)
    (live : session.rule.isLive = true) (updates : session.settings.callUpdate = true)
    (current : session.IsKept → session.Current)
    (done : session.run (keys.map .press) = .ok last) :
    last.contact.call =
      (session.corrections (keys.map .press)).getLast?.getD session.contact.call := by
  induction keys generalizing session with
  | nil =>
      cases done
      rfl
  | cons key rest inductionHypothesis =>
      rcases operate_of_run_cons done with ⟨next, transition, stepped, continued⟩
      have pressed : session.take key = .ok (next, transition) :=
        (step_of_started started key).symm.trans stepped
      have taken := taken_of_take holds.sound started pressed
      have same := taken.sameSetting holds.byRule
      have startedNext : next.state ≠ .idle := by
        rcases taken.isOpen_or_isFinal holds.byRule with isOpen | final
        · exact isOpen.started
        · exact started_of_isFinal final
      have liveNext : next.rule.isLive = true := by rw [same.rule]; exact live
      have updatesNext : next.settings.callUpdate = true := by rw [same.settings]; exact updates
      have currentNext := taken.current_of_isKept started holds.byRule live current
      have called := taken.callAfter holds.byRule live updates current
      have later := inductionHypothesis (holds.take started pressed) startedNext liveNext
        updatesNext currentNext continued
      rw [later, List.map_cons, getLast?_corrections_cons stepped same.extractor]
      exact congrArg _ called

/-- A capture that starts and then takes keys ends with the last call that its texts put right, or
with the one that the contact came with. -/
theorem call_of_run {fresh last : CaptureSession} (holds : Invariant fresh fresh)
    (live : fresh.rule.isLive = true) (updates : fresh.settings.callUpdate = true)
    {prefill recalled : Text} {keys : List Key}
    (done : fresh.run (.start prefill recalled :: keys.map .press) = .ok last) :
    last.contact.call =
      (fresh.corrections (.start prefill recalled :: keys.map .press)).getLast?.getD
        fresh.contact.call := by
  rcases operate_of_run_cons done with ⟨started, transition, starting, continued⟩
  have read := read_of_start starting
  have same := holds.start starting
  have liveStarted : started.rule.isLive = true := by rw [same.setting.rule]; exact live
  have updatesStarted : started.settings.callUpdate = true := by
    rw [same.setting.settings]
    exact updates
  have current := current_of_start live starting
  have collecting : started.state ≠ .idle := by
    rw [read.state]
    exact CaptureState.noConfusion
  have later := call_of_presses same collecting liveStarted updatesStarted (fun _ => current) continued
  have begunSame := fresh.sameSetting_begun prefill recalled
  have needed : ((fresh.begun prefill recalled).rule.isLive && true) = true := by
    rw [begunSame.rule, live]
    rfl
  rcases read.read needed with ⟨reading, extracted, _, contact⟩
  rw [begunSame.extractor, ← read.buffer] at extracted
  have first : started.contact.call =
      (fresh.extractor.correctedCall? started.buffer.text).getD fresh.contact.call := by
    rw [contact, begunSame.settings, contact_begun]
    exact CaptureSettings.callAfter_of_extract updates fresh.contact.call extracted
  rw [later, getLast?_corrections_cons starting same.setting.extractor]
  exact congrArg _ first

/-! ## Two runs that meet -/

/-- A call that is typed, read and taken off again stays: the same exchange, completed with the same
key, comes to one call after such a run and to another without it. -/
theorem retracted_call_is_kept :
    (Rule.basic "CQWW" .zone 12).isLive = true ∧
      ∃ fresh first second, create (Rule.basic "CQWW" .zone 12)
          (Extractor.ofRule (Rule.basic "CQWW" .zone 12) ⟨[]⟩ ⟨[], [], [], []⟩)
          { callUpdate := true } { call := Text.ofString "DL1ABC" } = .ok fresh ∧
        fresh.run (.start [] [] :: [Key.ofChar 'K', Key.ofChar '1', Key.ofChar 'A', .escape,
          Key.ofChar '1', Key.ofChar '4', .lineFeed].map .press) = .ok first ∧
        fresh.run (.start [] [] :: [Key.ofChar '1', Key.ofChar '4', .lineFeed].map .press) =
          .ok second ∧
        first.result.status = .complete ∧ second.result.status = .complete ∧
        first.result.key = second.result.key ∧ first.result.exchange = second.result.exchange ∧
        first.result.call = Text.ofString "K1A" ∧
        second.result.call = Text.ofString "DL1ABC" ∧ first.result.call ≠ second.result.call := by
  refine ⟨rfl, _, _, _, rfl, rfl, rfl, rfl, rfl, rfl, rfl, rfl, rfl, ?_⟩
  intro same
  have changed : Text.ofString "K1A" = Text.ofString "DL1ABC" := same
  exact absurd changed (by decide)

/-- Two runs that start alike and complete the same exchange with the same key have read the same out
of it.  Each ends with the last call that its texts put right, or with the one that the contact came
with; where these last corrections agree, so do the whole results. -/
theorem results_agree_of_corrections {rule : Rule} (live : rule.isLive = true)
    {table : MultiplierTable} {templates : TemplateSet} {settings : CaptureSettings}
    (updates : settings.callUpdate = true) {contact : Contact} {fresh : CaptureSession}
    (created : create rule (Extractor.ofRule rule table templates) settings contact = .ok fresh)
    {prefill recalled : Text} {firstKeys secondKeys : List Key} {first second : CaptureSession}
    (firstRun : fresh.run (.start prefill recalled :: firstKeys.map .press) = .ok first)
    (secondRun : fresh.run (.start prefill recalled :: secondKeys.map .press) = .ok second)
    (firstComplete : first.result.status = .complete)
    (secondComplete : second.result.status = .complete)
    (sameKey : first.result.key = second.result.key)
    (sameText : first.result.exchange = second.result.exchange) :
    first.result.reading.silent = second.result.reading.silent ∧
      first.result.call =
        (fresh.corrections (.start prefill recalled :: firstKeys.map .press)).getLast?.getD
          contact.call ∧
      second.result.call =
        (fresh.corrections (.start prefill recalled :: secondKeys.map .press)).getLast?.getD
          contact.call ∧
      ((fresh.corrections (.start prefill recalled :: firstKeys.map .press)).getLast? =
          (fresh.corrections (.start prefill recalled :: secondKeys.map .press)).getLast? →
        { first.result with reading := first.result.reading.silent } =
          { second.result with reading := second.result.reading.silent }) := by
  have holds := invariant_of_create created
  rcases eq_of_create created with ⟨line, same⟩
  have liveFresh : fresh.rule.isLive = true := by rw [same]; exact live
  have updatesFresh : fresh.settings.callUpdate = true := by rw [same]; exact updates
  have call : fresh.contact.call = contact.call := by rw [same]
  have reads {last : CaptureSession} {operations : List Operation}
      (done : fresh.run operations = .ok last) (complete : last.result.status = .complete) :
      fresh.extractor.extract false last.result.exchange = .ok last.result.reading.silent := by
    have state : last.state = .complete := complete
    have isKept : last.IsKept := by
      rw [IsKept, state]
      exact ⟨CaptureState.noConfusion, CaptureState.noConfusion, CaptureState.noConfusion⟩
    have current := current_of_run holds (by rw [same]) liveFresh done isKept
    rw [← (invariant_of_run holds done).setting.extractor]
    exact (current_iff_result current.isSome).mp current
  have sameReading : first.result.reading.silent = second.result.reading.silent := by
    have firstReads := reads firstRun firstComplete
    rw [sameText] at firstReads
    exact Except.ok.inj (firstReads.symm.trans (reads secondRun secondComplete))
  have firstCall := call_of_run holds liveFresh updatesFresh firstRun
  have secondCall := call_of_run holds liveFresh updatesFresh secondRun
  rw [call] at firstCall secondCall
  refine ⟨sameReading, firstCall, secondCall, fun sameCorrection => ?_⟩
  have sameCall : first.result.call = second.result.call := by
    refine firstCall.trans (Eq.trans ?_ secondCall.symm)
    rw [sameCorrection]
  rw [sameReading, CaptureResult.mk.injEq]
  exact ⟨sameKey, firstComplete.trans secondComplete.symm, sameText, rfl, sameCall⟩

/-- A figure that is typed and taken off again puts no call right, and the results agree. -/
theorem results_agree_after_backspace :
    (Rule.basic "CQWW" .zone 12).isLive = true ∧
      ∃ fresh first second, create (Rule.basic "CQWW" .zone 12)
          (Extractor.ofRule (Rule.basic "CQWW" .zone 12) ⟨[]⟩ ⟨[], [], [], []⟩)
          { callUpdate := true } { call := Text.ofString "DL1ABC" } = .ok fresh ∧
        fresh.run (.start [] [] :: [Key.ofChar '1', Key.ofChar '5', .backspace, Key.ofChar '4',
          .lineFeed].map .press) = .ok first ∧
        fresh.run (.start [] [] :: [Key.ofChar '1', Key.ofChar '4', .lineFeed].map .press) =
          .ok second ∧
        { first.result with reading := first.result.reading.silent } =
          { second.result with reading := second.result.reading.silent } := by
  have live : (Rule.basic "CQWW" .zone 12).isLive = true := rfl
  have updates : ({ callUpdate := true } : CaptureSettings).callUpdate = true := rfl
  have wide : 1 ≤ (Rule.basic "CQWW" .zone 12).width := by decide
  rcases create_of_wide wide (.ofRule (Rule.basic "CQWW" .zone 12) ⟨[]⟩ ⟨[], [], [], []⟩)
    { callUpdate := true } { call := Text.ofString "DL1ABC" } with ⟨fresh, created, _⟩
  have agree (firstKeys secondKeys : List Key) {first second : CaptureSession}
      (firstRun : fresh.run (.start [] [] :: firstKeys.map .press) = .ok first)
      (secondRun : fresh.run (.start [] [] :: secondKeys.map .press) = .ok second) :=
    results_agree_of_corrections live updates created firstRun secondRun
  cases created
  refine ⟨live, _, _, _, rfl, rfl, rfl, ?_⟩
  have retyped := agree
    [Key.ofChar '1', Key.ofChar '5', .backspace, Key.ofChar '4', .lineFeed]
    [Key.ofChar '1', Key.ofChar '4', .lineFeed] rfl rfl rfl rfl rfl rfl
  exact retyped.2.2.2 rfl

end CaptureSession
end ContestExchange
