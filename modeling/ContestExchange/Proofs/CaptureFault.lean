import ContestExchange.Proofs.Keystroke

namespace ContestExchange

/-!
# When a capture fails

Everything but reading always gives a result: a session opens, edits, asks and ends whatever the
keys are.  So an operation fails exactly if it has a line to read and that line cannot be read.
Which line this is follows from the session before: the one to start with or the one that a key
leaves where the contest is read while typing, and the padded one where a key completes the exchange.

Two lines are read that need no mention.  A line that is given up is empty when it is read, and the
empty text can always be read; a line that did not change has been read before.  The second point
rests on the stored reading being that of the line, which every run preserves.
-/

namespace CaptureSession

variable {session : CaptureSession} {fault : Fault}

/-! ## The line that is read -/

/-- The line that a key leaves before anything is read or completed. -/
def Response.line : Response → Buffer
  | .settled session _ => session.buffer
  | .backed session _ => session.buffer
  | .passed session _ resolved => (session.type resolved.promote).buffer

/-- The line that a key leaves in an open session, as long as it does not complete the exchange. -/
def lineLeft (session : CaptureSession) (key : Key) : Buffer :=
  match session.cursor with
  | some cursor => ((Editor.mk session.buffer cursor false).handle key).2.buffer
  | none => ({ session with lastKey := key }.respond key).line

/-- The line that an operation has to read, if there is one.  A key is one of a started session. -/
def lineToRead? (session : CaptureSession) : Operation → Option Buffer
  | .start prefill recalled =>
      if session.rule.isLive then some (session.begun prefill recalled).buffer else none
  | .press key =>
      if session.state.isFinal then none
      else if session.state = .collecting ∧ (session.resolvedKey key).isCompleting = true then
        some session.aligned.buffer
      else if session.rule.isLive then some (session.lineLeft key)
      else none
  | .abort => none

/-! ## Reading a line -/

theorem Current.extract_ne_error (current : session.Current) :
    session.extractor.extract false session.buffer.text ≠ .error fault := by
  rcases current with ⟨reading, _, extracted⟩
  intro failed
  cases extracted.symm.trans failed

theorem validateIf_eq_error_iff (needed : Bool) :
    session.validateIf needed = .error fault ↔
      (session.rule.isLive && needed) = true ∧
        session.extractor.extract false session.buffer.text = .error fault := by
  rw [← session.extractor.extract_eq_error_iff_of_typing true]
  unfold validateIf validate
  cases live : session.rule.isLive && needed with
  | false => simp
  | true =>
      cases extracted : session.extractor.extract true session.buffer.text with
      | error other => simp
      | ok reading => simp

/-- A line that is read only where it is another than before fails as if it were always read. -/
theorem validateIf_relined_eq_error_iff {typed : CaptureSession} {needed : Bool}
    (same : SameSetting session typed) (current : session.rule.isLive = true → session.Current)
    (unneeded : needed = false → typed.buffer.text = session.buffer.text) :
    typed.validateIf needed = .error fault ↔
      session.rule.isLive = true ∧
        session.extractor.extract false typed.buffer.text = .error fault := by
  rw [validateIf_eq_error_iff, same.rule, same.extractor, Bool.and_eq_true]
  cases needed with
  | true => rw [eq_self_iff_true, and_true]
  | false =>
      rw [unneeded rfl]
      constructor
      · rintro ⟨⟨_, impossible⟩, _⟩
        cases impossible
      · rintro ⟨live, failed⟩
        exact absurd failed (current live).extract_ne_error

theorem start_eq_error_iff (prefill recalled : Text) :
    session.start prefill recalled = .error fault ↔
      session.rule.isLive = true ∧
        session.extractor.extract false (session.begun prefill recalled).buffer.text =
          .error fault := by
  have same := session.sameSetting_begun prefill recalled
  have reads : (session.begun prefill recalled).validateIf true = .error fault ↔ _ :=
    validateIf_eq_error_iff true
  rw [same.rule, same.extractor, Bool.and_true] at reads
  rw [← reads]
  constructor
  · intro failed
    unfold start at failed
    dsimp only at failed
    split at failed
    · rename_i other validated
      cases failed
      exact validated
    · cases failed
  · intro failed
    unfold start
    dsimp only
    split
    · rename_i other validated
      cases validated.symm.trans failed
      rfl
    · rename_i read shown validated
      cases validated.symm.trans failed

/-! ## What a key fails with -/

/-- A session whose line is empty ends without fault, read or not. -/
theorem finish_of_empty (empty : session.buffer.text = []) (state : CaptureState) (key : Key)
    (actions : List Action) : session.finish state key actions ≠ .error fault := by
  intro failed
  cases stored : session.reading with
  | some reading =>
      rw [finish_of_reading (Option.isSome_of_eq_some stored)] at failed
      cases failed
  | none =>
      rcases Extractor.exists_extract session.extractor.reads_nil false with ⟨reading, read⟩
      simp only [finish, readOnce, stored, empty, read] at failed
      cases failed

theorem extract_nil_ne_error : session.extractor.extract false [] ≠ .error fault := by
  rcases Extractor.exists_extract session.extractor.reads_nil false with ⟨reading, read⟩
  intro failed
  cases read.symm.trans failed

theorem complete_eq_error_iff (byRule : session.ReadsByRule) {key : Key}
    (completing : key.isCompleting = true) (actions : List Action) :
    session.complete key actions = .error fault ↔
      session.extractor.extract false session.aligned.buffer.text = .error fault := by
  rw [text_aligned]
  cases read : session.extractor.extract false session.completedText with
  | error other => simp only [complete_eq, read, Except.error.injEq]
  | ok reading =>
      rcases exists_completed byRule completing read actions with ⟨outcome, completed, _⟩
      simp only [completed, reduceCtorEq]

/-- A key that is passed on and completes nothing fails as the reading of the line that it types. -/
theorem passed_eq_error_iff {typed : CaptureSession} {resolved : Key} {actions : List Action}
    (same : SameSetting session typed) (current : session.rule.isLive = true → session.Current)
    (incomplete : resolved.isCompleting = false) :
    (match typed.validateIf (typed.buffer.text != session.buffer.text || typed.reading.isNone) with
      | .error fault => .error fault
      | .ok (read, shown) =>
          if resolved.isCompleting then read.complete resolved (actions ++ shown)
          else .ok (read.stay (actions ++ shown)) :
        Except Fault (CaptureSession × Transition)) = .error fault ↔
      session.rule.isLive = true ∧
        session.extractor.extract false typed.buffer.text = .error fault := by
  have unneeded : (typed.buffer.text != session.buffer.text || typed.reading.isNone) = false →
      typed.buffer.text = session.buffer.text := by
    intro unneeded
    rw [Bool.or_eq_false_iff, bne_eq_false_iff_eq] at unneeded
    exact unneeded.1
  rw [← validateIf_relined_eq_error_iff same current unneeded]
  cases typed.validateIf (typed.buffer.text != session.buffer.text || typed.reading.isNone) with
  | error other => simp
  | ok read => simp [incomplete]

theorem sameSetting_type {before : CaptureSession} (same : SameSetting session before) (key : Key) :
    SameSetting session (before.type key) := by
  rw [before.type_eq key]
  exact ⟨same.rule, same.extractor, same.settings, (before.width_type key).trans same.width⟩

theorem collect_eq_error_iff {key : Key} (current : session.rule.isLive = true → session.Current)
    (incomplete : (session.resolvedKey key).isCompleting = false) :
    session.collect key = .error fault ↔
      session.rule.isLive = true ∧
        session.extractor.extract false (session.respond key).line.text = .error fault := by
  have kept : ¬ (session.rule.isLive = true ∧
      session.extractor.extract false session.buffer.text = .error fault) := by
    rintro ⟨live, failed⟩
    exact (current live).extract_ne_error failed
  have emptied : ¬ (session.rule.isLive = true ∧
      session.extractor.extract false [] = .error fault) := by
    rintro ⟨_, failed⟩
    exact extract_nil_ne_error failed
  have answer := session.answer_respond key
  unfold collect
  generalize session.respond key = response at answer
  cases answer with
  | kept _ actions =>
      refine iff_of_false (fun failed => ?_) kept
      cases failed
  | opened _ position present =>
      refine iff_of_false (fun failed => ?_) kept
      cases failed
  | spotted =>
      refine iff_of_false ?_ emptied
      apply finish_of_empty
      rfl
  | left empty =>
      have nothing : session.buffer.text = [] := session.buffer.isEmpty_iff.mp empty
      exact iff_of_false (finish_of_empty nothing _ _ _) kept
  | emptied present =>
      have same : SameSetting session { session with buffer := session.buffer.clear } :=
        ⟨rfl, rfl, rfl, rfl⟩
      exact passed_eq_error_iff (sameSetting_type same _) current rfl
  | shortened =>
      have same : SameSetting session { session with buffer := session.buffer.pop.2 } :=
        ⟨rfl, rfl, rfl, rfl⟩
      exact passed_eq_error_iff (sameSetting_type same _) current rfl
  | resolved _ actions quiet =>
      refine passed_eq_error_iff (sameSetting_type (.refl session) _) current ?_
      rw [Key.isCompleting_promote]
      exact incomplete

theorem edit_eq_error_iff {cursor : Nat} {key : Key}
    (current : session.rule.isLive = true → session.Current) :
    session.edit cursor key = .error fault ↔
      session.rule.isLive = true ∧
        session.extractor.extract false
          ((Editor.mk session.buffer cursor false).handle key).2.buffer.text = .error fault := by
  have same : SameSetting session
      (session.withEditor ((Editor.mk session.buffer cursor false).handle key).2) :=
    sameSetting_withEditor (Editor.width_handle (Editor.mk session.buffer cursor false) key)
  refine Iff.trans ?_ (validateIf_relined_eq_error_iff same current
    fun unneeded => bne_eq_false_iff_eq.mp unneeded)
  unfold edit
  unfold withEditor
  dsimp only
  split
  · rename_i other failed
    rw [failed]
    simp only [Except.error.injEq]
  · rename_i read shown validated
    rw [validated]
    split <;> simp only [reduceCtorEq]

/-! ## Taking a key -/

theorem lineLeft_of_collecting (sound : Sound session) (collecting : session.state = .collecting)
    (key : Key) : session.lineLeft key = ({ session with lastKey := key }.respond key).line := by
  have noCursor := sound.noEditor (by rw [collecting]; exact CaptureState.noConfusion)
    (by rw [collecting]; exact CaptureState.noConfusion)
  rw [lineLeft, noCursor]

theorem lineToRead?_of_isFinal (final : session.state.isFinal = true) (key : Key) :
    session.lineToRead? (.press key) = none := by
  simp only [lineToRead?, final, if_true]

theorem lineToRead?_of_completing (collecting : session.state = .collecting) {key : Key}
    (completing : (session.resolvedKey key).isCompleting = true) :
    session.lineToRead? (.press key) = some session.aligned.buffer := by
  have isOpen : session.IsOpen := Or.inl collecting
  rw [lineToRead?, if_neg isOpen.not_isFinal, if_pos ⟨collecting, completing⟩]

theorem lineToRead?_of_typed (isOpen : session.IsOpen) {key : Key}
    (incomplete : session.state = .collecting → (session.resolvedKey key).isCompleting = false) :
    session.lineToRead? (.press key) =
      if session.rule.isLive then some (session.lineLeft key) else none := by
  have typed : ¬ (session.state = .collecting ∧
      (session.resolvedKey key).isCompleting = true) := by
    rintro ⟨collecting, completing⟩
    exact absurd ((incomplete collecting).symm.trans completing) Bool.noConfusion
  rw [lineToRead?, if_neg isOpen.not_isFinal, if_neg typed]

/-- Whether the reading of an open session is current where its rule is live. -/
def ReadsAsTyped (session : CaptureSession) : Prop :=
  session.rule.isLive = true → session.IsOpen → session.Current

theorem exists_lineToRead?_of_typed (isOpen : session.IsOpen) {key : Key}
    (incomplete : session.state = .collecting → (session.resolvedKey key).isCompleting = false) :
    (∃ line, session.lineToRead? (.press key) = some line ∧
        session.extractor.extract false line.text = .error fault) ↔
      session.rule.isLive = true ∧
        session.extractor.extract false (session.lineLeft key).text = .error fault := by
  rw [lineToRead?_of_typed isOpen incomplete]
  cases live : session.rule.isLive <;> simp

/-- A key that completes the exchange fails as the reading of the padded line does. -/
theorem take_eq_error_iff_of_completing {key : Key} (byRule : session.ReadsByRule)
    (collecting : session.state = .collecting)
    (current : session.rule.isLive = true → session.Current)
    (completing : (session.resolvedKey key).isCompleting = true) :
    session.take key = .error fault ↔
      session.extractor.extract false session.aligned.buffer.text = .error fault := by
  have read : (session.rule.isLive && session.reading.isNone) = false := by
    cases live : session.rule.isLive with
    | false => rfl
    | true =>
        rw [Option.isNone_eq_false_iff.mpr (current live).isSome]
        rfl
  have collects : ∃ actions, actions.countP Action.isNotify = 0 ∧
      { session with lastKey := key }.collect key =
        { session with lastKey := key }.complete (session.resolvedKey key) actions :=
    collect_of_completing completing read
  have pressed := byRule.of_sameSetting (session.sameSetting_pressed key)
  rcases collects with ⟨actions, _, collects⟩
  rw [take_of_collecting collecting, collects, complete_eq_error_iff pressed completing,
    text_aligned, text_aligned]
  rfl

/-- A key that is typed fails as the reading of the line that it leaves does. -/
theorem take_eq_error_iff_of_typed {key : Key} (sound : Sound session)
    (collecting : session.state = .collecting)
    (current : session.rule.isLive = true → session.Current)
    (incomplete : (session.resolvedKey key).isCompleting = false) :
    session.take key = .error fault ↔
      session.rule.isLive = true ∧
        session.extractor.extract false (session.lineLeft key).text = .error fault := by
  have pressedCurrent : session.rule.isLive = true → Current { session with lastKey := key } :=
    current
  have fails : { session with lastKey := key }.collect key = .error fault ↔
      session.rule.isLive = true ∧ session.extractor.extract false
        ({ session with lastKey := key }.respond key).line.text = .error fault :=
    collect_eq_error_iff pressedCurrent incomplete
  rw [take_of_collecting collecting, lineLeft_of_collecting sound collecting]
  exact fails

/-- A key that edits fails as the reading of the edited line does. -/
theorem take_eq_error_iff_of_editing {key : Key} (sound : Sound session)
    (editing : session.state = .editing)
    (current : session.rule.isLive = true → session.Current) :
    session.take key = .error fault ↔
      session.rule.isLive = true ∧
        session.extractor.extract false (session.lineLeft key).text = .error fault := by
  rcases sound.editor editing with ⟨cursor, placed, _⟩
  have pressedCurrent : session.rule.isLive = true → Current { session with lastKey := key } :=
    current
  have fails : { session with lastKey := key }.edit cursor key = .error fault ↔
      session.rule.isLive = true ∧ session.extractor.extract false
        ((Editor.mk session.buffer cursor false).handle key).2.buffer.text = .error fault :=
    edit_eq_error_iff pressedCurrent
  rw [take_of_editing editing placed, lineLeft, placed]
  exact fails

/-- A key fails in a started session as the reading of its line does, and without one not at all. -/
theorem take_eq_error_iff {key : Key} (byRule : session.ReadsByRule) (sound : Sound session)
    (started : session.state ≠ .idle) (reads : session.ReadsAsTyped) :
    session.take key = .error fault ↔
      ∃ line, session.lineToRead? (.press key) = some line ∧
        session.extractor.extract false line.text = .error fault := by
  by_cases final : session.state.isFinal = true
  · rw [take_of_isFinal final, lineToRead?_of_isFinal final]
    simp only [reduceCtorEq, false_and, exists_false]
  have isOpen := isOpen_of_started started final
  have current : session.rule.isLive = true → session.Current := fun live => reads live isOpen
  rcases isOpen with collecting | editing
  · cases completing : (session.resolvedKey key).isCompleting with
    | true =>
        rw [take_eq_error_iff_of_completing byRule collecting current completing,
          lineToRead?_of_completing collecting completing]
        simp only [Option.some.injEq, exists_eq_left']
    | false =>
        rw [take_eq_error_iff_of_typed sound collecting current completing,
          exists_lineToRead?_of_typed (Or.inl collecting) fun _ => completing]
  · have notCollecting : session.state = .collecting →
        (session.resolvedKey key).isCompleting = false := by
      intro collecting
      cases editing.symm.trans collecting
    rw [take_eq_error_iff_of_editing sound editing current,
      exists_lineToRead?_of_typed (Or.inr editing) notCollecting]

/-! ## Runs -/

theorem operate_eq_error_iff {operation : Operation} (byRule : session.ReadsByRule)
    (sound : Sound session) (started : ∀ key, operation = .press key → session.state ≠ .idle)
    (reads : session.ReadsAsTyped) :
    session.operate operation = .error fault ↔
      ∃ line, session.lineToRead? operation = some line ∧
        session.extractor.extract false line.text = .error fault := by
  cases operation with
  | start prefill recalled =>
      refine (start_eq_error_iff prefill recalled).trans ?_
      simp only [lineToRead?]
      cases session.rule.isLive <;> simp
  | press key =>
      have startedHere := started key rfl
      rw [operate, step_of_started startedHere]
      exact take_eq_error_iff byRule sound startedHere reads
  | abort => simp only [operate, lineToRead?, reduceCtorEq, false_and, exists_false]

/-- A run fails exactly if one of its operations does, and with the fault of the first of them. -/
theorem run_eq_error_iff {operations : List Operation} :
    session.run operations = .error fault ↔
      ∃ before operation after middle, operations = before ++ operation :: after ∧
        session.run before = .ok middle ∧ middle.operate operation = .error fault := by
  induction operations generalizing session with
  | nil =>
      constructor
      · intro failed
        cases failed
      · rintro ⟨before, operation, after, middle, split, _⟩
        cases before <;> cases split
  | cons operation rest inductionHypothesis =>
      constructor
      · intro failed
        cases operated : session.operate operation with
        | error other =>
            rw [run, operated] at failed
            cases failed
            exact ⟨[], operation, rest, session, rfl, rfl, operated⟩
        | ok outcome =>
            rw [run_cons operated] at failed
            rcases inductionHypothesis.mp failed with
              ⟨before, failing, after, middle, split, reached, fails⟩
            refine ⟨operation :: before, failing, after, middle, ?_, ?_, fails⟩
            · rw [split, List.cons_append]
            · rw [run_cons operated]
              exact reached
      · rintro ⟨before, failing, after, middle, split, reached, fails⟩
        cases before with
        | nil =>
            cases split
            cases reached
            rw [run, fails]
        | cons first before =>
            cases split
            rcases operate_of_run_cons reached with ⟨next, transition, operated, continued⟩
            rw [run_cons operated]
            exact inductionHypothesis.mpr ⟨before, failing, after, middle, rfl, continued, fails⟩

theorem started_of_presses {fresh last : CaptureSession} (invariant : Invariant fresh session)
    (started : session.state ≠ .idle) {keys : List Key}
    (done : session.run (keys.map .press) = .ok last) : last.state ≠ .idle := by
  refine presses_preserve (fun session => session.state ≠ .idle) ?_ invariant started started done
  intro session next key transition invariant isOpen _ taken
  exact (taken_of_take invariant.sound isOpen.started taken).started invariant.byRule

theorem start_notMem_presses {keys : List Key} (prefill recalled : Text) :
    .start prefill recalled ∉ keys.map Operation.press := by
  intro member
  rcases List.mem_map.mp member with ⟨key, _, same⟩
  cases same

/-- An operation of a capture that is started once and then only given keys is the start, or a key
after the start. -/
theorem start_or_press_of_split {prefill recalled : Text} {keys : List Key}
    {before after : List Operation} {operation : Operation}
    (split : .start prefill recalled :: keys.map .press = before ++ operation :: after) :
    before = [] ∧ operation = .start prefill recalled ∨
      ∃ (pressed : List Key) (key : Key), before = .start prefill recalled :: pressed.map .press ∧
        operation = .press key := by
  cases before with
  | nil =>
      cases split
      exact Or.inl ⟨rfl, rfl⟩
  | cons first before =>
      rw [List.cons_append, List.cons.injEq] at split
      rcases split with ⟨same, split⟩
      rcases List.map_eq_append_iff.mp split with ⟨pressed, others, _, earlier, later⟩
      rcases List.map_eq_cons_iff.mp later with ⟨key, rest, _, here, _⟩
      exact Or.inr ⟨pressed, key, by rw [← same, ← earlier], here.symm⟩

/-! ## What the line to read consists of -/

theorem width_line_respond (session : CaptureSession) (key : Key) :
    (session.respond key).line.width = session.buffer.width := by
  have answer := session.answer_respond key
  generalize session.respond key = response at answer
  cases answer with
  | kept | opened | spotted | left => rfl
  | emptied | shortened => exact width_type _ _
  | resolved => exact width_type _ _

theorem line_of_press {key : Key} {line : Buffer}
    (reads : session.lineToRead? (.press key) = some line) :
    session.state = .collecting ∧ (session.resolvedKey key).isCompleting = true ∧
        line = session.aligned.buffer ∨
      line = session.lineLeft key := by
  simp only [lineToRead?] at reads
  split at reads
  · cases reads
  split at reads
  · rename_i completes
    cases reads
    exact Or.inl ⟨completes.1, completes.2, rfl⟩
  split at reads
  · cases reads
    exact Or.inr rfl
  · cases reads

theorem width_lineToRead? {operation : Operation} {line : Buffer}
    (reads : session.lineToRead? operation = some line) :
    line.width = session.buffer.width := by
  cases operation with
  | abort => cases reads
  | start prefill recalled =>
      simp only [lineToRead?] at reads
      split at reads
      · cases reads
        exact (session.sameSetting_begun prefill recalled).width
      · cases reads
  | press key =>
      rcases line_of_press reads with ⟨_, _, same⟩ | same
      · rw [same]
        exact session.width_aligned
      · rw [same, lineLeft]
        split
        · exact Editor.width_handle _ key
        · exact width_line_respond _ key

theorem keystroke_line_respond (session : CaptureSession) (key : Key)
    (collecting : session.state = .collecting) :
    Keystroke session key (session.respond key).line.text := by
  have answer := session.answer_respond key
  generalize session.respond key = response at answer
  cases answer with
  | kept | opened => exact .kept
  | left => exact .kept
  | spotted => exact .emptied collecting (Or.inr rfl)
  | emptied present => exact (LineChange.emptied present).keystroke collecting
  | shortened => exact LineChange.shortened.keystroke collecting
  | resolved => exact (LineChange.typed key).keystroke collecting

/-- The line that is to be read after a key is one that a keystroke leaves. -/
theorem keystroke_lineToRead? (isOpen : session.IsOpen) (sound : Sound session) {key : Key}
    {line : Buffer} (reads : session.lineToRead? (.press key) = some line) :
    Keystroke session key line.text := by
  rcases line_of_press reads with ⟨collecting, completing, same⟩ | same
  · rw [same, text_aligned]
    exact keystroke_completedText collecting completing
  rw [same]
  rcases isOpen with collecting | editing
  · rw [lineLeft_of_collecting sound collecting]
    exact (keystroke_line_respond { session with lastKey := key } key collecting).of_pressed
  · rcases sound.editor editing with ⟨cursor, placed, _⟩
    rw [lineLeft, placed]
    exact keystroke_handle editing cursor key

/-! ## Whole captures -/

section Split

variable {rule : Rule} {table : MultiplierTable} {templates : TemplateSet}
  {settings : CaptureSettings} {contact : Contact} {fresh middle : CaptureSession}
  {prefill recalled : Text} {keys : List Key} {before after : List Operation}
  {operation : Operation}

/-- What a part of a capture has reached fails as the reading of its line does. -/
theorem operate_eq_error_iff_of_split
    (created : create rule (Extractor.ofRule rule table templates) settings contact = .ok fresh)
    (split : .start prefill recalled :: keys.map .press = before ++ operation :: after)
    (reached : fresh.run before = .ok middle) :
    middle.operate operation = .error fault ↔
      ∃ line, middle.lineToRead? operation = some line ∧ fault = .unreadableNumber ∧
        rule.strategy.scansNumber = true ∧
        ¬ Extraction.Readable templates.serials line.text := by
  have fromFresh := invariant_of_create created
  have invariant := invariant_of_run fromFresh reached
  rcases eq_of_create created with ⟨emptyLine, same⟩
  have reader : middle.extractor = Extractor.ofRule rule table templates := by
    rw [invariant.setting.extractor, same]
  have started : ∀ key, operation = .press key → middle.state ≠ .idle := by
    intro key isPress
    rcases start_or_press_of_split split with ⟨_, starts⟩ | ⟨pressed, other, earlier, _⟩
    · cases isPress.symm.trans starts
    · subst earlier
      rcases exists_started fromFresh reached with ⟨first, begun, startedFirst, _, continued⟩
      exact started_of_presses begun startedFirst continued
  have reads : middle.ReadsAsTyped := by
    intro live isOpen
    have liveFresh : fresh.rule.isLive = true := by rw [← invariant.setting.rule]; exact live
    exact current_of_run fromFresh (by rw [same]) liveFresh reached isOpen.isKept
  rw [operate_eq_error_iff invariant.byRule invariant.sound started reads]
  simp only [Extractor.extract_eq_error_iff, reader, Extractor.Reads, Classical.not_imp]
  rfl

/-- What holds of every character that can be typed, and of those of the text to start with, holds
of those of every line that a capture has to read. -/
theorem forall_mem_lineToRead? (fromFresh : Invariant fresh fresh)
    (split : .start prefill recalled :: keys.map .press = before ++ operation :: after)
    (reached : fresh.run before = .ok middle) {line : Buffer}
    (toRead : middle.lineToRead? operation = some line) {Holds : Char → Prop}
    (typable : ∀ character, Text.isTypable character = true → Holds character)
    (starts : ∀ character ∈ fresh.startText prefill recalled, Holds character) :
    ∀ character ∈ line.text, Holds character := by
  rcases start_or_press_of_split split with ⟨first, isStart⟩ | ⟨pressed, key, earlier, isPress⟩
  · subst first isStart
    cases reached
    simp only [lineToRead?] at toRead
    split at toRead
    · cases toRead
      exact forall_mem_begun starts
    · cases toRead
  · subst earlier isPress
    rcases exists_started fromFresh reached with ⟨first, begun, startedFirst, line, continued⟩
    have started := started_of_presses begun startedFirst continued
    have holds : ∀ character ∈ middle.buffer.text, Holds character := by
      refine forall_mem_of_run typable begun startedFirst ?_ start_notMem_presses continued
      rw [line]
      exact forall_mem_begun starts
    have sound := (invariant_of_run fromFresh reached).sound
    have unended : ¬ middle.state.isFinal = true := by
      intro final
      rw [lineToRead?_of_isFinal final] at toRead
      cases toRead
    have stroke := keystroke_lineToRead? (isOpen_of_started started unended) sound toRead
    exact stroke.forall_mem typable holds

end Split

/-- A capture fails exactly if one of the lines that it has to read spells no number where its
contest scans for one, and then with that fault.  Lines that are short enough and have no digits
without a value never make it fail. -/
theorem capture_fails_iff {rule : Rule} (wide : 1 ≤ rule.width) (table : MultiplierTable)
    (templates : TemplateSet) (settings : CaptureSettings) (contact : Contact)
    (prefill recalled : Text) (keys : List Key) :
    ∃ fresh, create rule (Extractor.ofRule rule table templates) settings contact = .ok fresh ∧
      (∀ fault, fresh.run (.start prefill recalled :: keys.map .press) = .error fault ↔
        fault = .unreadableNumber ∧ rule.strategy.scansNumber = true ∧
        ∃ before operation after middle line,
          .start prefill recalled :: keys.map .press = before ++ operation :: after ∧
          fresh.run before = .ok middle ∧ middle.lineToRead? operation = some line ∧
          ¬ Extraction.Readable templates.serials line.text) ∧
      ((rule.strategy.scansNumber = true → rule.width ≤ Literal.integerDigitLimit ∧
          ∀ character ∈ fresh.startText prefill recalled, Text.isDigit character = true →
            Text.isDecimal character = true) →
        ∃ last, fresh.run (.start prefill recalled :: keys.map .press) = .ok last) := by
  rcases create_of_wide wide (Extractor.ofRule rule table templates) settings contact with
    ⟨fresh, created, sameRule, sameWidth⟩
  have fromFresh := invariant_of_create created
  refine ⟨fresh, created, fun fault => ?_, fun moderate => ?_⟩
  · rw [run_eq_error_iff]
    constructor
    · rintro ⟨before, operation, after, middle, split, reached, failed⟩
      rcases (operate_eq_error_iff_of_split created split reached).mp failed with
        ⟨line, toRead, same, scans, unreadable⟩
      exact ⟨same, scans, before, operation, after, middle, line, split, reached, toRead,
        unreadable⟩
    · rintro ⟨same, scans, before, operation, after, middle, line, split, reached, toRead,
        unreadable⟩
      refine ⟨before, operation, after, middle, split, reached, ?_⟩
      apply (operate_eq_error_iff_of_split created split reached).mpr
      exact ⟨line, toRead, same, scans, unreadable⟩
  · cases done : fresh.run (.start prefill recalled :: keys.map .press) with
    | ok last => exact ⟨last, rfl⟩
    | error fault =>
        rcases run_eq_error_iff.mp done with
          ⟨before, operation, after, middle, split, reached, failed⟩
        rcases (operate_eq_error_iff_of_split created split reached).mp failed with
          ⟨line, toRead, _, scans, unreadable⟩
        rcases moderate scans with ⟨narrow, valued⟩
        refine absurd ?_ unreadable
        apply Extraction.readable_of_decimal
        · have sameLine := width_lineToRead? toRead
          rw [(invariant_of_run fromFresh reached).setting.width] at sameLine
          have fits := line.fits
          omega
        · exact forall_mem_lineToRead? fromFresh split reached toRead
            (fun _ typable => Text.isDecimal_of_isTypable typable) valued

/-- A superscript two counts as a digit and has no value, so Enter fails on it. -/
theorem capture_fails_on_superscript :
    1 ≤ (Rule.basic "WPX" .serial 12).width ∧
      ∃ fresh, create (Rule.basic "WPX" .serial 12)
          (Extractor.ofRule (Rule.basic "WPX" .serial 12) ⟨[]⟩ .builtIn) {} {} = .ok fresh ∧
        fresh.run [.start ['²'] [], .press .lineFeed] = .error .unreadableNumber := by
  have wide : 1 ≤ (Rule.basic "WPX" .serial 12).width := by decide
  refine ⟨wide, ?_⟩
  rcases capture_fails_iff wide ⟨[]⟩ .builtIn {} {} ['²'] [] [.lineFeed] with
    ⟨fresh, created, exactly, _⟩
  cases created
  refine ⟨_, rfl, (exactly .unreadableNumber).mpr ⟨rfl, rfl, [.start ['²'] []], .press .lineFeed,
    [], _, _, rfl, rfl, rfl, fun readable => ?_⟩⟩
  have start := readable 0 List.mem_cons_self
  exact absurd (start.2 '²' (by decide)) (by decide)

end CaptureSession
end ContestExchange
