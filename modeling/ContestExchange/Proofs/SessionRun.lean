import ContestExchange.Proofs.SessionStep

namespace ContestExchange

/-!
# Runs of a capture

A session is started, given keys and aborted in any order, and it goes on from wherever the last
operation left it.  A run is such a list of operations all of which succeed; a session is reachable
under a rule when a run leads to it from a fresh one.

What holds of every reachable session is proved operation by operation.  The first key of a session
that was never started counts as two operations, a start and a key, so that no proof has to treat it
on its own.
-/

namespace CaptureSession

/-! ## Starting -/

/-- A session that has been opened but not read. -/
def begun (session : CaptureSession) (prefill recalled : Text) : CaptureSession :=
  let filled := session.fill (session.startText prefill recalled)
  let opened := { filled with state := .collecting, reading := none, cursor := none }
  opened.note (.started opened.contact.call)

theorem fill_eq (session : CaptureSession) (text : Text) :
    session.fill text =
      { session with buffer := (session.fill text).buffer, log := (session.fill text).log } := by
  unfold fill
  dsimp only
  split <;> rfl

theorem width_fill (session : CaptureSession) (text : Text) :
    (session.fill text).buffer.width = session.buffer.width := by
  unfold fill
  dsimp only
  split
  · exact Buffer.width_replace session.buffer text
  · rfl

theorem sameSetting_begun (session : CaptureSession) (prefill recalled : Text) :
    SameSetting session (session.begun prefill recalled) := by
  refine ⟨?_, ?_, ?_, session.width_fill _⟩ <;> rw [begun, fill_eq] <;> rfl

@[simp] theorem contact_begun (session : CaptureSession) (prefill recalled : Text) :
    (session.begun prefill recalled).contact = session.contact := by
  rw [begun, fill_eq]
  rfl

/-- Starting opens the session and reads the line it starts with. -/
theorem read_of_start {session next : CaptureSession} {prefill recalled : Text}
    {transition : Transition} (done : session.start prefill recalled = .ok (next, transition)) :
    Read (session.begun prefill recalled) next true := by
  unfold start at done
  dsimp only at done
  split at done
  · cases done
  · rename_i read shown validated
    cases done
    have opened : (session.begun prefill recalled).validateIf true = .ok (next, shown) := validated
    exact read_of_validateIf opened

/-! ## Editing -/

/-- The session with an editor's line and cursor. -/
def withEditor (session : CaptureSession) (editor : Editor) : CaptureSession :=
  { session with buffer := editor.buffer, cursor := some editor.cursor }

theorem sameSetting_withEditor {session : CaptureSession} {editor : Editor}
    (width : editor.buffer.width = session.buffer.width) :
    SameSetting session (session.withEditor editor) :=
  ⟨rfl, rfl, rfl, width⟩

/-- What a key comes to while the exchange is edited: the session and the transition after it. -/
inductive Edited (session : CaptureSession) (cursor : Nat) (key : Key) :
    CaptureSession × Transition → Prop where
  | continued (next : CaptureSession)
      (after : Read (session.withEditor ((Editor.mk session.buffer cursor false).handle key).2) next
        (((Editor.mk session.buffer cursor false).handle key).2.buffer.text != session.buffer.text))
      (actions : List Action) :
      Edited session cursor key (next.stay actions)
  | closed (next : CaptureSession)
      (after : Read (session.withEditor ((Editor.mk session.buffer cursor false).handle key).2) next
        (((Editor.mk session.buffer cursor false).handle key).2.buffer.text != session.buffer.text))
      (actions : List Action) :
      Edited session cursor key ({ next with cursor := none, state := .collecting }.stay actions)

theorem edited_of_edit {session : CaptureSession} {cursor : Nat} {key : Key}
    {outcome : CaptureSession × Transition} (done : session.edit cursor key = .ok outcome) :
    Edited session cursor key outcome := by
  unfold edit at done
  cases validated : (session.withEditor
      ((Editor.mk session.buffer cursor false).handle key).2).validateIf
      (((Editor.mk session.buffer cursor false).handle key).2.buffer.text != session.buffer.text) with
  | error fault =>
      unfold withEditor at validated
      simp only [validated] at done
      cases done
  | ok pair =>
      rcases pair with ⟨read, shown⟩
      have again := validated
      unfold withEditor at again
      simp only [again] at done
      split at done
      · cases done
        exact .continued read (read_of_validateIf validated) shown
      · cases done
        exact .closed read (read_of_validateIf validated) shown

/-! ## Taking a key -/

theorem take_of_isFinal {session : CaptureSession} (final : session.state.isFinal = true)
    (key : Key) :
    session.take key = .ok (session, { state := session.state, key := session.lastKey }) := by
  rw [take, if_pos final]

theorem take_of_collecting {session : CaptureSession} (collecting : session.state = .collecting)
    (key : Key) : session.take key = { session with lastKey := key }.collect key := by
  rw [take, collecting]
  rfl

theorem take_of_editing {session : CaptureSession} (editing : session.state = .editing)
    {cursor : Nat} (placed : session.cursor = some cursor) (key : Key) :
    session.take key = { session with lastKey := key }.edit cursor key := by
  rw [take, editing, placed]
  rfl

theorem step_of_started {session : CaptureSession} (started : session.state ≠ .idle) (key : Key) :
    session.step key = session.take key := by
  rw [step, ensureStarted, if_neg started]

/-- The first key of a session that was not started starts it. -/
theorem start_of_step {session : CaptureSession} (idle : session.state = .idle) {key : Key}
    {outcome : CaptureSession × Transition} (done : session.step key = .ok outcome) :
    ∃ started, session.start [] [] = .ok started ∧ started.1.take key = .ok outcome := by
  rw [step, ensureStarted, if_pos idle] at done
  cases starting : session.start [] [] with
  | error fault =>
      rw [starting] at done
      cases done
  | ok started =>
      rw [starting] at done
      exact ⟨started, rfl, done⟩

/-! ## Runs -/

/-- What can be asked of a capture session. -/
inductive Operation where
  | start (prefill recalled : Text)
  | press (key : Key)
  | abort

/-- Carries an operation out. -/
def operate (session : CaptureSession) : Operation → Except Fault (CaptureSession × Transition)
  | .start prefill recalled => session.start prefill recalled
  | .press key => session.step key
  | .abort => .ok session.abort

/-- Carries operations out, one after the other. -/
def run (session : CaptureSession) : List Operation → Except Fault CaptureSession
  | [] => .ok session
  | operation :: rest =>
      match session.operate operation with
      | .error fault => .error fault
      | .ok (next, _) => next.run rest

theorem run_cons {session next : CaptureSession} {transition : Transition} {operation : Operation}
    (done : session.operate operation = .ok (next, transition)) (rest : List Operation) :
    session.run (operation :: rest) = next.run rest := by
  rw [run, done]

theorem operate_of_run_cons {session last : CaptureSession} {operation : Operation}
    {rest : List Operation} (done : session.run (operation :: rest) = .ok last) :
    ∃ next transition, session.operate operation = .ok (next, transition) ∧
      next.run rest = .ok last := by
  cases operated : session.operate operation with
  | error fault =>
      rw [run, operated] at done
      cases done
  | ok outcome =>
      rw [run, operated] at done
      exact ⟨outcome.1, outcome.2, rfl, done⟩

/-- What starting, taking keys in a started session and aborting preserve, every run preserves. -/
theorem run_preserves (Holds : CaptureSession → Prop)
    (starts : ∀ {session next prefill recalled transition}, Holds session →
      session.start prefill recalled = .ok (next, transition) → Holds next)
    (takes : ∀ {session next key transition}, Holds session → session.state ≠ .idle →
      session.take key = .ok (next, transition) → Holds next)
    (aborts : ∀ {session}, Holds session → Holds session.abort.1)
    {session last : CaptureSession} (holds : Holds session) {operations : List Operation}
    (done : session.run operations = .ok last) : Holds last := by
  induction operations generalizing session with
  | nil =>
      cases done
      exact holds
  | cons operation rest inductionHypothesis =>
      rcases operate_of_run_cons done with ⟨next, transition, operated, continued⟩
      refine inductionHypothesis ?_ continued
      cases operation with
      | start prefill recalled => exact starts holds operated
      | abort =>
          cases operated
          exact aborts holds
      | press key =>
          -- The key of a session that was never started is a start and then a key.
          by_cases idle : session.state = .idle
          · rcases start_of_step idle operated with ⟨started, starting, taken⟩
            have collecting : started.1.state = .collecting := (read_of_start starting).state
            refine takes (starts holds starting) ?_ taken
            rw [collecting]
            exact CaptureState.noConfusion
          · exact takes holds idle ((step_of_started idle key).symm.trans operated)

end CaptureSession
end ContestExchange
