import ContestExchange.Proofs.Completion
import ContestExchange.Proofs.SessionRun

namespace ContestExchange
namespace CaptureSession

/-!
# The state of a session and its fields

The fields of a session are written by every key branch, by the editor, by padding and by three
kinds of end, and yet they always agree with the state.  There is an editor exactly while the
exchange is edited, and its cursor lies in the line.  A session that went back has an empty line; one
that was accepted or rejected ended with a key that completes an exchange; and a rejection is always
for want of a section.

`Sound` collects these facts.  Every operation preserves it, from any session that has it, so it
holds after every run.  The last theorem adds what follows about the next key.
-/

/-- The agreement between the state of a session and its other fields. -/
structure Sound (session : CaptureSession) : Prop where
  editor : session.state = .editing →
    ∃ cursor, session.cursor = some cursor ∧ cursor ≤ session.buffer.length
  noEditor : session.state ≠ .editing → session.state ≠ .aborted → session.cursor = none
  back : session.state = .back → session.buffer.text = [] ∧ session.lastKey = .tab
  concluded : session.state = .complete ∨ session.state = .rejected →
    session.lastKey.isCompleting = true
  rejected : session.state = .rejected →
    session.rule.requiresSection = true ∧ session.lastKey ≠ .tab ∧
      ∃ reading, session.reading = some reading ∧ reading.place = []

/-! ## Sessions that are sound by their state -/

theorem Sound.of_collecting {session : CaptureSession} (collecting : session.state = .collecting)
    (noCursor : session.cursor = none) : Sound session where
  editor editing := by rw [collecting] at editing; cases editing
  noEditor _ _ := noCursor
  back back := by rw [collecting] at back; cases back
  concluded ended := by rw [collecting] at ended; rcases ended with ended | ended <;> cases ended
  rejected rejected := by rw [collecting] at rejected; cases rejected

theorem Sound.of_editing {session : CaptureSession} (editing : session.state = .editing)
    {cursor : Nat} (placed : session.cursor = some cursor)
    (inside : cursor ≤ session.buffer.length) : Sound session where
  editor _ := ⟨cursor, placed, inside⟩
  noEditor other _ := absurd editing other
  back back := by rw [editing] at back; cases back
  concluded ended := by rw [editing] at ended; rcases ended with ended | ended <;> cases ended
  rejected rejected := by rw [editing] at rejected; cases rejected

theorem Sound.of_back {session : CaptureSession} (back : session.state = .back)
    (noCursor : session.cursor = none) (empty : session.buffer.text = [])
    (lastKey : session.lastKey = .tab) : Sound session where
  editor editing := by rw [back] at editing; cases editing
  noEditor _ _ := noCursor
  back _ := ⟨empty, lastKey⟩
  concluded ended := by rw [back] at ended; rcases ended with ended | ended <;> cases ended
  rejected rejected := by rw [back] at rejected; cases rejected

theorem Sound.of_complete {session : CaptureSession} (complete : session.state = .complete)
    (noCursor : session.cursor = none) (completing : session.lastKey.isCompleting = true) :
    Sound session where
  editor editing := by rw [complete] at editing; cases editing
  noEditor _ _ := noCursor
  back back := by rw [complete] at back; cases back
  concluded _ := completing
  rejected rejected := by rw [complete] at rejected; cases rejected

theorem Sound.of_rejected {session : CaptureSession} (rejected : session.state = .rejected)
    (noCursor : session.cursor = none) (completing : session.lastKey.isCompleting = true)
    (lacking : session.rule.requiresSection = true ∧ session.lastKey ≠ .tab ∧
      ∃ reading, session.reading = some reading ∧ reading.place = []) : Sound session where
  editor editing := by rw [rejected] at editing; cases editing
  noEditor _ _ := noCursor
  back back := by rw [rejected] at back; cases back
  concluded _ := completing
  rejected _ := lacking

theorem Sound.of_aborted {session : CaptureSession} (aborted : session.state = .aborted) :
    Sound session where
  editor editing := by rw [aborted] at editing; cases editing
  noEditor _ other := absurd aborted other
  back back := by rw [aborted] at back; cases back
  concluded ended := by rw [aborted] at ended; rcases ended with ended | ended <;> cases ended
  rejected rejected := by rw [aborted] at rejected; cases rejected

/-! ## What a key does to a sound session -/

/-- What a key comes to in a started session. -/
inductive Taken (session : CaptureSession) (key : Key) : CaptureSession × Transition → Prop where
  | final (final : session.state.isFinal = true) :
      Taken session key (session, { state := session.state, key := session.lastKey })
  | collected (collecting : session.state = .collecting) (noCursor : session.cursor = none)
      (outcome : CaptureSession × Transition)
      (done : Collected { session with lastKey := key } key outcome) :
      Taken session key outcome
  | edited (editing : session.state = .editing) (cursor : Nat)
      (placed : session.cursor = some cursor) (inside : cursor ≤ session.buffer.length)
      (outcome : CaptureSession × Transition)
      (done : Edited { session with lastKey := key } cursor key outcome) :
      Taken session key outcome

theorem taken_of_take {session : CaptureSession} (sound : Sound session)
    (started : session.state ≠ .idle) {key : Key} {outcome : CaptureSession × Transition}
    (done : session.take key = .ok outcome) : Taken session key outcome := by
  by_cases final : session.state.isFinal = true
  · rw [take_of_isFinal final] at done
    cases done
    exact .final final
  cases state : session.state with
  | idle => exact absurd state started
  | collecting =>
      have noCursor := sound.noEditor (by rw [state]; exact CaptureState.noConfusion)
        (by rw [state]; exact CaptureState.noConfusion)
      rw [take_of_collecting state] at done
      exact .collected state noCursor outcome (collected_of_collect done)
  | editing =>
      rcases sound.editor state with ⟨cursor, placed, inside⟩
      rw [take_of_editing state placed] at done
      exact .edited state cursor placed inside outcome (edited_of_edit done)
  | complete | back | rejected | aborted =>
      rw [state] at final
      exact absurd rfl final

/-- A completion of a session that collects leaves a sound one. -/
theorem Completed.sound {session : CaptureSession} {key : Key} {actions : List Action}
    {reading : Extraction} {outcome : CaptureSession × Transition}
    (completed : Completed session key actions reading outcome)
    (collecting : session.state = .collecting) (noCursor : session.cursor = none)
    (completing : key.isCompleting = true) : Sound outcome.1 := by
  cases completed with
  | accepted admits shown => exact .of_complete rfl rfl completing
  | rejected requires refuses note shown =>
      have same := session.sameSetting_judged reading
      have requiresHere : (session.judged reading).rule.requiresSection = true :=
        same.rule ▸ requires
      rw [admits_iff_of_requiresSection requiresHere, not_or, not_or, Classical.not_not] at refuses
      rcases refuses with ⟨noTab, missing, _⟩
      exact .of_rejected rfl rfl completing ⟨requiresHere, noTab, reading, rfl, missing⟩
  | asked requires refuses prompt note =>
      refine .of_collecting ?_ ?_
      · exact (session.state_judged reading).trans collecting
      · exact (session.cursor_judged reading).trans noCursor

theorem Taken.sound {session : CaptureSession} {key : Key} {outcome : CaptureSession × Transition}
    (taken : Taken session key outcome) (byRule : session.ReadsByRule) (sound : Sound session) :
    Sound outcome.1 := by
  cases taken with
  | final final => exact sound
  | collected collecting noCursor outcome done =>
      cases done with
      | kept actions => exact .of_collecting collecting noCursor
      | opened position present => exact .of_editing rfl rfl (Editor.start_cursor_le _ position)
      | left line empty width unchanged outcome ended =>
          exact .of_back ended.state ended.cursor (by rw [ended.buffer]; exact empty) ended.lastKey
      | changed line change incomplete next after actions =>
          exact .of_collecting (after.state.trans collecting) (after.cursor.trans noCursor)
      | completed completing next after actions outcome concluded =>
          rcases completed_of_read byRule after completing concluded with
            ⟨same, reading, _, completed⟩
          exact completed.sound (after.state.trans collecting) (after.cursor.trans noCursor)
            completing
  | edited editing cursor placed inside outcome done =>
      cases done with
      | continued next after actions =>
          refine .of_editing (after.state.trans editing) after.cursor ?_
          have placedInside : (Editor.mk session.buffer cursor false).cursor ≤
              (Editor.mk session.buffer cursor false).buffer.length := inside
          show _ ≤ next.buffer.length
          rw [after.buffer]
          exact Editor.handle_cursor_le placedInside key
      | closed next after actions => exact .of_collecting rfl rfl

/-! ## The setting is kept -/

theorem Completed.sameSetting {session : CaptureSession} {key : Key} {actions : List Action}
    {reading : Extraction} {outcome : CaptureSession × Transition}
    (completed : Completed session key actions reading outcome) : SameSetting session outcome.1 := by
  have judged := session.sameSetting_judged reading
  cases completed with
  | accepted admits shown => exact ⟨judged.rule, judged.extractor, judged.settings, judged.width⟩
  | rejected requires refuses note shown =>
      exact ⟨judged.rule, judged.extractor, judged.settings, judged.width⟩
  | asked requires refuses prompt note =>
      exact ⟨judged.rule, judged.extractor, judged.settings, judged.width⟩

/-- No key changes the setting. -/
theorem Taken.sameSetting {session : CaptureSession} {key : Key}
    {outcome : CaptureSession × Transition} (taken : Taken session key outcome)
    (byRule : session.ReadsByRule) : SameSetting session outcome.1 := by
  -- A session differs in its setting from one with another line of the same width in nothing.
  have relined (line : Buffer) (width : line.width = session.buffer.width) :
      SameSetting session { session with lastKey := key, buffer := line } := ⟨rfl, rfl, rfl, width⟩
  cases taken with
  | final final => exact .refl session
  | collected collecting noCursor outcome done =>
      cases done with
      | kept actions => exact ⟨rfl, rfl, rfl, rfl⟩
      | opened position present => exact ⟨rfl, rfl, rfl, rfl⟩
      | left line empty width unchanged outcome ended =>
          exact (relined line width).trans ended.setting
      | changed line change incomplete next after actions =>
          exact (relined line change.width).trans after.setting
      | completed completing next after actions outcome concluded =>
          rcases completed_of_read byRule after completing concluded with
            ⟨same, reading, _, completed⟩
          exact same.trans completed.sameSetting
  | edited editing cursor placed inside outcome done =>
      have handled := (session.sameSetting_pressed key).trans
        (sameSetting_withEditor (Editor.width_handle (Editor.mk session.buffer cursor false) key))
      cases done with
      | continued next after actions =>
          exact handled.trans after.setting
      | closed next after actions =>
          have same := handled.trans after.setting
          exact ⟨same.rule, same.extractor, same.settings, same.width⟩

/-! ## Open and ended sessions -/

/-- Whether the exchange can still be changed. -/
def IsOpen (session : CaptureSession) : Prop :=
  session.state = .collecting ∨ session.state = .editing

theorem IsOpen.started {session : CaptureSession} (isOpen : session.IsOpen) :
    session.state ≠ .idle := by
  rcases isOpen with state | state <;> rw [state] <;> exact CaptureState.noConfusion

theorem IsOpen.not_isFinal {session : CaptureSession} (isOpen : session.IsOpen) :
    ¬ session.state.isFinal = true := by
  rcases isOpen with state | state <;> rw [state] <;> exact Bool.noConfusion

/-- Whether a session has been started, and has neither been left nor broken off since. -/
def IsKept (session : CaptureSession) : Prop :=
  session.state ≠ .idle ∧ session.state ≠ .back ∧ session.state ≠ .aborted

theorem IsOpen.isKept {session : CaptureSession} (isOpen : session.IsOpen) : session.IsKept := by
  rcases isOpen with state | state <;> rw [IsKept, state] <;>
    exact ⟨CaptureState.noConfusion, CaptureState.noConfusion, CaptureState.noConfusion⟩

/-- A session that has been started and has not ended is open. -/
theorem isOpen_of_started {session : CaptureSession} (started : session.state ≠ .idle)
    (unended : ¬ session.state.isFinal = true) : session.IsOpen := by
  cases state : session.state with
  | idle => exact absurd state started
  | collecting => exact Or.inl state
  | editing => exact Or.inr state
  | complete | back | rejected | aborted =>
      rw [state] at unended
      exact absurd rfl unended

theorem Completed.isOpen_or_isFinal {session : CaptureSession} {key : Key} {actions : List Action}
    {reading : Extraction} {outcome : CaptureSession × Transition}
    (completed : Completed session key actions reading outcome) (isOpen : session.IsOpen) :
    outcome.1.IsOpen ∨ outcome.1.state.isFinal = true := by
  cases completed with
  | accepted admits shown => exact Or.inr rfl
  | rejected requires refuses note shown => exact Or.inr rfl
  | asked requires refuses prompt note =>
      have same : (session.judged reading).state = session.state := session.state_judged reading
      refine Or.inl ?_
      show (session.judged reading).state = _ ∨ (session.judged reading).state = _
      rw [same]
      exact isOpen

/-- A key leaves a started session open or ended. -/
theorem Taken.isOpen_or_isFinal {session : CaptureSession} {key : Key}
    {outcome : CaptureSession × Transition} (taken : Taken session key outcome)
    (byRule : session.ReadsByRule) : outcome.1.IsOpen ∨ outcome.1.state.isFinal = true := by
  cases taken with
  | final final => exact Or.inr final
  | collected collecting noCursor outcome done =>
      cases done with
      | kept actions => exact Or.inl (Or.inl collecting)
      | opened position present => exact Or.inl (Or.inr rfl)
      | left line empty width unchanged outcome ended =>
          refine Or.inr ?_
          rw [ended.state]
          rfl
      | changed line change incomplete next after actions =>
          exact Or.inl (Or.inl (after.state.trans collecting))
      | completed completing next after actions outcome concluded =>
          rcases completed_of_read byRule after completing concluded with
            ⟨same, reading, _, completed⟩
          exact completed.isOpen_or_isFinal (Or.inl (after.state.trans collecting))
  | edited editing cursor placed inside outcome done =>
      cases done with
      | continued next after actions =>
          exact Or.inl (Or.inr (after.state.trans editing))
      | closed next after actions => exact Or.inl (Or.inl rfl)

/-! ## Every run -/

/-- What holds of a session that comes of a fresh one. -/
structure Invariant (fresh session : CaptureSession) : Prop where
  setting : SameSetting fresh session
  byRule : session.ReadsByRule
  sound : Sound session

theorem Invariant.start {fresh session next : CaptureSession} {prefill recalled : Text}
    {transition : Transition} (holds : Invariant fresh session)
    (done : session.start prefill recalled = .ok (next, transition)) : Invariant fresh next := by
  have read := read_of_start done
  have same := (session.sameSetting_begun prefill recalled).trans read.setting
  have sound : Sound next := .of_collecting read.state read.cursor
  exact ⟨holds.setting.trans same, holds.byRule.of_sameSetting same, sound⟩

theorem Invariant.take {fresh session next : CaptureSession} {key : Key} {transition : Transition}
    (holds : Invariant fresh session) (started : session.state ≠ .idle)
    (done : session.take key = .ok (next, transition)) : Invariant fresh next := by
  have taken := taken_of_take holds.sound started done
  have same := taken.sameSetting holds.byRule
  exact ⟨holds.setting.trans same, holds.byRule.of_sameSetting same,
    taken.sound holds.byRule holds.sound⟩

theorem Invariant.abort {fresh session : CaptureSession} (holds : Invariant fresh session) :
    Invariant fresh session.abort.1 := by
  have same : SameSetting session session.abort.1 := ⟨rfl, rfl, rfl, rfl⟩
  exact ⟨holds.setting.trans same, holds.byRule.of_sameSetting same, .of_aborted rfl⟩

/-- A fresh session has what it was created with, and a line of its own. -/
theorem eq_of_create {rule : Rule} {extractor : Extractor} {settings : CaptureSettings}
    {contact : Contact} {fresh : CaptureSession}
    (created : create rule extractor settings contact = .ok fresh) :
    ∃ line, fresh = ⟨rule, extractor, settings, line, contact, .idle, none, none, 0, []⟩ := by
  unfold create at created
  cases made : Buffer.create rule.width [] with
  | error fault =>
      rw [made] at created
      cases created
  | ok line =>
      rw [made] at created
      cases created
      exact ⟨line, rfl⟩

/-- A fresh session is read by its rule, and nothing has happened in it that could be unsound. -/
theorem invariant_of_create {rule : Rule} {table : MultiplierTable} {templates : TemplateSet}
    {settings : CaptureSettings} {contact : Contact} {fresh : CaptureSession}
    (created : create rule (Extractor.ofRule rule table templates) settings contact = .ok fresh) :
    Invariant fresh fresh := by
  rcases eq_of_create created with ⟨line, same⟩
  subst same
  refine ⟨.refl _, ⟨rfl, rfl⟩, ?_⟩
  constructor <;> intro impossible
  case noEditor => exact fun _ => rfl
  case concluded => rcases impossible with impossible | impossible <;> cases impossible
  all_goals cases impossible

theorem invariant_of_run {fresh session : CaptureSession} (holds : Invariant fresh fresh)
    {operations : List Operation} (done : fresh.run operations = .ok session) :
    Invariant fresh session :=
  run_preserves (Invariant fresh) (fun holds starting => holds.start starting)
    (fun holds started taken => holds.take started taken) (fun holds => holds.abort) holds done

/-- What a key preserves in an open session, a run of keys preserves from any started one: after the
end the keys do nothing. -/
theorem presses_preserve {fresh : CaptureSession} (Holds : CaptureSession → Prop)
    (takes : ∀ {session next key transition}, Invariant fresh session → session.IsOpen →
      Holds session → session.take key = .ok (next, transition) → Holds next)
    {session last : CaptureSession} (invariant : Invariant fresh session)
    (started : session.state ≠ .idle) (holds : Holds session) {keys : List Key}
    (done : session.run (keys.map .press) = .ok last) : Holds last := by
  induction keys generalizing session with
  | nil =>
      cases done
      exact holds
  | cons key rest inductionHypothesis =>
      rcases operate_of_run_cons done with ⟨next, transition, pressed, continued⟩
      have taken : session.take key = .ok (next, transition) :=
        (step_of_started started key).symm.trans pressed
      by_cases final : session.state.isFinal = true
      · rw [take_of_isFinal final] at taken
        cases taken
        exact inductionHypothesis invariant started holds continued
      · have isOpen := isOpen_of_started started final
        have reached := taken_of_take invariant.sound started taken
        refine inductionHypothesis (invariant.take started taken) ?_
          (takes invariant isOpen holds taken) continued
        intro idle
        rcases reached.isOpen_or_isFinal invariant.byRule with openStill | finalNow
        · exact openStill.started idle
        · rw [idle] at finalNow
          cases finalNow

/-- A rule whose exchange has room for a character has a session to begin with. -/
theorem create_of_wide {rule : Rule} (wide : 1 ≤ rule.width) (extractor : Extractor)
    (settings : CaptureSettings) (contact : Contact) :
    ∃ fresh, create rule extractor settings contact = .ok fresh ∧ fresh.rule = rule ∧
      (fresh.buffer.width : Int) = rule.width := by
  have fits : (([] : Text).length : Int) ≤ rule.width := Int.le_trans Int.one_nonneg wide
  rcases Buffer.create_of_fits wide fits with ⟨line, made, width, _⟩
  exact ⟨_, by rw [create, made]; rfl, rfl, width⟩

/-- A fresh session has an empty line of the width that its rule asks for. -/
theorem line_of_create {rule : Rule} {extractor : Extractor} {settings : CaptureSettings}
    {contact : Contact} {fresh : CaptureSession}
    (created : create rule extractor settings contact = .ok fresh) :
    fresh.buffer.text = [] ∧ (fresh.buffer.width : Int) = rule.width := by
  by_cases narrow : rule.width < 1
  · rw [create, Buffer.create, if_pos narrow] at created
    cases created
  · have fits : ([] : Text).length ≤ rule.width.toNat := Nat.zero_le _
    rw [create, Buffer.create, if_neg narrow, dif_pos fits] at created
    cases created
    exact ⟨rfl, Int.toNat_of_nonneg (by omega)⟩

theorem step_of_editing {session next : CaptureSession} {key : Key} {transition : Transition}
    (sound : Sound session) (editing : session.state = .editing)
    (done : session.step key = .ok (next, transition)) :
    next.state = .editing ∨ next.state = .collecting := by
  have started : session.state ≠ .idle := by rw [editing]; exact CaptureState.noConfusion
  rw [step_of_started started] at done
  rcases sound.editor editing with ⟨cursor, placed, inside⟩
  rw [take_of_editing editing placed] at done
  cases edited_of_edit done with
  | continued next after actions =>
      exact Or.inl (after.state.trans editing)
  | closed next after actions => exact Or.inr rfl

theorem started_of_isFinal {session : CaptureSession} (final : session.state.isFinal = true) :
    session.state ≠ .idle := by
  intro idle
  rw [idle] at final
  cases final

theorem step_of_isFinal {session : CaptureSession} (final : session.state.isFinal = true)
    (key : Key) :
    session.step key =
      .ok (session, { state := session.state, key := session.lastKey, actions := [] }) := by
  rw [step_of_started (started_of_isFinal final), take_of_isFinal final]

/-- After the end no keys do anything. -/
theorem run_of_isFinal {session : CaptureSession} (final : session.state.isFinal = true)
    (keys : List Key) : session.run (keys.map .press) = .ok session := by
  induction keys with
  | nil => rfl
  | cons key rest inductionHypothesis =>
      have pressed : session.operate (.press key) = _ := step_of_isFinal final key
      rw [List.map_cons, run_cons pressed]
      exact inductionHypothesis

/-- Whatever is asked of a session, in whatever order, its line keeps to the width of the rule and
its fields agree with its state; editing leads to nothing but editing and collecting, and after the
end a key does nothing. -/
theorem fields_agree_after_run (rule : Rule) (wide : 1 ≤ rule.width) (table : MultiplierTable)
    (templates : TemplateSet) (settings : CaptureSettings) (contact : Contact) :
    ∃ fresh, create rule (Extractor.ofRule rule table templates) settings contact = .ok fresh ∧
      ∀ operations session, fresh.run operations = .ok session →
        session.rule = rule ∧ (session.buffer.length : Int) ≤ rule.width ∧ Sound session ∧
        (session.state = .editing → ∀ key next transition,
          session.step key = .ok (next, transition) →
            next.state = .editing ∨ next.state = .collecting) ∧
        (session.state.isFinal = true → ∀ key, session.step key =
          .ok (session, { state := session.state, key := session.lastKey, actions := [] })) := by
  rcases create_of_wide wide (Extractor.ofRule rule table templates) settings contact with
    ⟨fresh, created, sameRule, sameWidth⟩
  refine ⟨fresh, created, fun operations session done => ?_⟩
  have holds := invariant_of_run (invariant_of_create created) done
  have room : (session.buffer.length : Int) ≤ rule.width := by
    rw [← sameWidth, ← holds.setting.width]
    exact Int.ofNat_le.mpr session.buffer.fits
  refine ⟨holds.setting.rule.trans sameRule, room, holds.sound, ?_, fun final key => ?_⟩
  · intro editing key next transition stepped
    exact step_of_editing holds.sound editing stepped
  · exact step_of_isFinal final key

/-- A zone that is typed and then edited in place: the line fits, and the next key may at most end
the editing. -/
theorem fields_agree_after_editing_zone :
    1 ≤ (Rule.basic "CQWW" .zone 12).width ∧
      ∃ fresh session, create (Rule.basic "CQWW" .zone 12)
          (Extractor.ofRule (Rule.basic "CQWW" .zone 12) ⟨[]⟩ ⟨[], [], [], []⟩) {} {} = .ok fresh ∧
        fresh.run [.press '1'.toNat, .press '4'.toNat, .press .left] = .ok session ∧
        session.state = .editing ∧ Sound session ∧ (session.buffer.length : Int) ≤ 12 ∧
        ∀ key next transition, session.step key = .ok (next, transition) →
          next.state = .editing ∨ next.state = .collecting := by
  have wide : 1 ≤ (Rule.basic "CQWW" .zone 12).width := by decide
  refine ⟨wide, ?_⟩
  rcases fields_agree_after_run (Rule.basic "CQWW" .zone 12) wide ⟨[]⟩ ⟨[], [], [], []⟩ {} {} with
    ⟨fresh, created, agree⟩
  cases created
  rcases agree [.press '1'.toNat, .press '4'.toNat, .press .left] _ rfl with
    ⟨_, room, sound, editing, _⟩
  exact ⟨_, _, rfl, rfl, rfl, sound, room, editing rfl⟩

end CaptureSession
end ContestExchange
