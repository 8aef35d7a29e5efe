import ContestExchange.Proofs.CaptureCalls
import ContestExchange.Proofs.SessionState

namespace ContestExchange

/-!
# The display shows the session

A display that starts with the call of the contact shows the session whenever the actions of a
transition have been performed: its line, its cursor and its call.  The line and the cursor are those
of the one action that closes the transition.  The call is the last one announced, and every reading
that changes it announces it.

To speak of the display at every such moment, a capture is watched: what its surroundings are is
kept after each transition.  Watching changes nothing.
-/

/-! ## Watching a capture -/

section Watched

variable {World : Type}

/-- The same surroundings, with what they were after each transition kept. -/
def Surroundings.watched (around : Surroundings World) : Surroundings (World × List World) where
  remembered watch call :=
    (((around.remembered watch.1 call).1, watch.2), (around.remembered watch.1 call).2)
  perform watch contact actions :=
    (around.perform watch.1 contact actions,
      watch.2 ++ [around.perform watch.1 contact actions])
  await watch := (around.await watch.1, watch.2)
  tick watch := (around.tick watch.1, watch.2)
  tickTerminal watch := (around.tickTerminal watch.1, watch.2)

variable (around : Surroundings World)

theorem Capture.goOn_watched (mode : Mode) (world : World) (kept : List World) :
    goOn around.watched mode (around.watched.await (world, kept)) =
      (goOn around mode (around.await world), kept) := by
  unfold goOn
  split <;> rfl

theorem Capture.follow_watched (world : World) (kept : List World) (session : CaptureSession)
    (polls : List (Option Key)) :
    (follow around.watched (world, kept) session polls).world.1 =
        (follow around world session polls).world ∧
      (follow around.watched (world, kept) session polls).unread =
        (follow around world session polls).unread ∧
      (follow around.watched (world, kept) session polls).session =
        (follow around world session polls).session := by
  induction polls generalizing world kept session with
  | nil => exact ⟨rfl, rfl, rfl⟩
  | cons arrived rest inductionHypothesis =>
      cases arrived with
      | none =>
          rw [follow_none, follow_none, goOn_watched]
          exact inductionHypothesis _ kept session
      | some key =>
          cases stepped : session.step key with
          | error fault =>
              rw [follow_of_error _ stepped, follow_of_error _ stepped, goOn_watched]
              exact ⟨rfl, rfl, rfl⟩
          | ok outcome =>
              rw [follow_some _ stepped, follow_some _ stepped, goOn_watched]
              cases outcome.2.isFinal with
              | true => exact ⟨rfl, rfl, rfl⟩
              | false => exact inductionHypothesis _ _ outcome.1

/-- A capture that is watched goes as one that is not. -/
theorem Capture.run_watched (world : World) (kept : List World) (session : CaptureSession)
    (prefill : Text) (polls : List (Option Key)) :
    (run around.watched (world, kept) session prefill polls).world.1 =
        (run around world session prefill polls).world ∧
      (run around.watched (world, kept) session prefill polls).unread =
        (run around world session prefill polls).unread ∧
      (run around.watched (world, kept) session prefill polls).session =
        (run around world session prefill polls).session := by
  have same : recalled around.watched (world, kept) session prefill =
      (((recalled around world session prefill).1, kept),
        (recalled around world session prefill).2) := by
    unfold recalled
    split <;> rfl
  rw [run, run, same]
  dsimp only
  cases session.start prefill (recalled around world session prefill).2 with
  | error fault => exact ⟨rfl, rfl, rfl⟩
  | ok opening => exact follow_watched around _ _ opening.1 polls

end Watched

/-! ## What is shown -/

/-- What a display shows of an exchange: the line and its cursor, once they have been shown, and the
call. -/
structure Shown where
  line : Option (Text × Int)
  call : Text

namespace Shown

/-- What is shown after a request. -/
def afterRequest (shown : Shown) : Request → Shown
  | .display (.exchange text cursor) => { shown with line := some (text, cursor) }
  | .display (.call call) => { shown with call := call }
  | _ => shown

/-- What is shown after an action. -/
def afterAction (shown : Shown) : Action → Shown
  | .refresh text cursor => { shown with line := some (text, cursor) }
  | .updateCall call => { shown with call := call }
  | _ => shown

theorem foldl_serve (shown : Shown) (rig : Rig) (action : Action) :
    (rig.serve action).2.foldl afterRequest shown = shown.afterAction action := by
  cases action <;> rfl

/-- The requests of actions show what the actions show. -/
theorem foldl_serveAll (shown : Shown) (rig : Rig) (actions : List Action) :
    (rig.serveAll actions).2.foldl afterRequest shown = actions.foldl afterAction shown := by
  induction actions generalizing shown rig with
  | nil => rfl
  | cons action rest inductionHypothesis =>
      rw [List.foldl_cons, ← foldl_serve shown rig action, ← inductionHypothesis,
        ← List.foldl_append]
      rfl

theorem foldl_quiet {actions : List Action}
    (quiet : ∀ action ∈ actions, action.isRefresh = false) (shown : Shown) :
    actions.foldl afterAction shown =
      { shown with call := actions.foldl Action.callAfter shown.call } := by
  induction actions generalizing shown with
  | nil => rfl
  | cons action rest inductionHypothesis =>
      have here := quiet action List.mem_cons_self
      have later := inductionHypothesis fun other member =>
        quiet other (List.mem_cons_of_mem action member)
      rw [List.foldl_cons, List.foldl_cons, later]
      cases action with
      | refresh => cases here
      | _ => rfl

end Shown

/-- Those who work with a capture, and a display. -/
def Collaborators.displayed {World : Type} (around : Collaborators World) :
    Collaborators (World × Shown) where
  remembered world call :=
    (((around.remembered world.1 call).1, world.2), (around.remembered world.1 call).2)
  serve world request := (around.serve world.1 request, world.2.afterRequest request)
  await world := (around.await world.1, world.2)
  tick world := (around.tick world.1, world.2)
  tickTerminal world := (around.tickTerminal world.1, world.2)

namespace CaptureSession

/-! ## The cursor -/

/-- Whether a started session has its cursor in place: while the exchange is edited it lies in the
line, and at any other time there is none. -/
structure Placed (session : CaptureSession) : Prop where
  started : session.state ≠ .idle
  editing : session.state = .editing →
    ∃ cursor, session.cursor = some cursor ∧ cursor ≤ session.buffer.length
  other : session.state ≠ .editing → session.cursor = none

theorem Placed.of_collecting {session : CaptureSession} (collecting : session.state = .collecting)
    (noCursor : session.cursor = none) : Placed session where
  started := by
    rw [collecting]
    exact CaptureState.noConfusion
  editing edits := by
    rw [collecting] at edits
    cases edits
  other _ := noCursor

theorem Placed.of_editing {session : CaptureSession} (editing : session.state = .editing)
    {cursor : Nat} (placed : session.cursor = some cursor)
    (inside : cursor ≤ session.buffer.length) : Placed session where
  started := by
    rw [editing]
    exact CaptureState.noConfusion
  editing _ := ⟨cursor, placed, inside⟩
  other other := absurd editing other

theorem Placed.of_isFinal {session : CaptureSession} (final : session.state.isFinal = true)
    (noCursor : session.cursor = none) : Placed session where
  started := started_of_isFinal final
  editing edits := by
    rw [edits] at final
    cases final
  other _ := noCursor

theorem Concluded.placed {session : CaptureSession} {key : Key} {actions : List Action}
    {outcome : CaptureSession × Transition} (concluded : Concluded session key actions outcome)
    (collecting : session.state = .collecting) (noCursor : session.cursor = none) :
    Placed outcome.1 := by
  cases concluded with
  | ended log prompts state final outcome done =>
      have ended := ended_of_finish done
      refine .of_isFinal ?_ ended.cursor
      rw [ended.state]
      exact final
  | asked log prompt => exact .of_collecting collecting noCursor

theorem Collected.placed {session : CaptureSession} {key : Key}
    {outcome : CaptureSession × Transition} (collected : Collected session key outcome)
    (collecting : session.state = .collecting) (noCursor : session.cursor = none) :
    Placed outcome.1 := by
  cases collected with
  | kept actions => exact .of_collecting collecting noCursor
  | opened position present => exact .of_editing rfl rfl (Editor.start_cursor_le _ position)
  | left line empty width unchanged outcome ended =>
      refine .of_isFinal ?_ ended.cursor
      rw [ended.state]
      rfl
  | changed line change incomplete next after actions =>
      exact .of_collecting (after.state.trans collecting) (after.cursor.trans noCursor)
  | completed completing next after actions outcome concluded =>
      rcases concluded_of_complete concluded with ⟨reading, judgement⟩
      apply judgement.placed
      · exact (next.state_judged reading).trans (after.state.trans collecting)
      · exact (next.cursor_judged reading).trans (after.cursor.trans noCursor)

theorem Edited.placed {session : CaptureSession} {cursor : Nat} {key : Key}
    {outcome : CaptureSession × Transition} (edited : Edited session cursor key outcome)
    (editing : session.state = .editing) (inside : cursor ≤ session.buffer.length) :
    Placed outcome.1 := by
  cases edited with
  | continued next after actions =>
      refine .of_editing (after.state.trans editing) after.cursor ?_
      have within : (Editor.mk session.buffer cursor false).cursor ≤
          (Editor.mk session.buffer cursor false).buffer.length := inside
      show _ ≤ next.buffer.length
      rw [after.buffer]
      exact Editor.handle_cursor_le within key
  | closed next after actions => exact .of_collecting rfl rfl

/-- A key leaves the cursor in place. -/
theorem Placed.take {session : CaptureSession} (placed : Placed session)
    (isOpen : ¬ session.state.isFinal = true) {key : Key}
    {outcome : CaptureSession × Transition} (done : session.take key = .ok outcome) :
    Placed outcome.1 := by
  cases state : session.state with
  | idle => exact absurd state placed.started
  | collecting =>
      have noCursor := placed.other (by rw [state]; exact CaptureState.noConfusion)
      rw [take_of_collecting state] at done
      exact (collected_of_collect done).placed state noCursor
  | editing =>
      rcases placed.editing state with ⟨cursor, here, inside⟩
      rw [take_of_editing state here] at done
      exact (edited_of_edit done).placed state inside
  | complete | back | rejected | aborted =>
      rw [state] at isOpen
      exact absurd rfl isOpen

theorem placed_of_start {session : CaptureSession} {prefill recalled : Text}
    {outcome : CaptureSession × Transition}
    (done : session.start prefill recalled = .ok outcome) : Placed outcome.1 := by
  have read : Read (session.begun prefill recalled) outcome.1 true := read_of_start done
  exact .of_collecting read.state read.cursor

/-! ## The display -/

/-- Whether a display shows a session: its line with the cursor, which is the editor's while there is
one and stands behind the line otherwise, and its call. -/
structure Displays (shown : Shown) (session : CaptureSession) : Prop where
  line : ∃ cursor : Nat, shown.line = some (session.buffer.text, (cursor : Int)) ∧
    cursor ≤ session.buffer.length ∧
    (session.state = .editing → session.cursor = some cursor) ∧
    (session.state ≠ .editing → cursor = session.buffer.length)
  call : shown.call = session.contact.call

/-- A transition that tells what has changed leaves a display that shows the session. -/
theorem Shows.displays {before : CaptureSession} {outcome : CaptureSession × Transition}
    (shows : Shows before outcome) (placed : Placed outcome.1) {shown : Shown}
    (call : shown.call = before.contact.call) :
    Displays (outcome.2.actions.foldl Shown.afterAction shown) outcome.1 := by
  rcases shows.told with ⟨told, actions, tells⟩
  have whole : outcome.2.actions.foldl Shown.afterAction shown =
      ⟨some (outcome.1.buffer.text,
        ((outcome.1.cursor.getD outcome.1.buffer.length : Nat) : Int)),
        outcome.1.contact.call⟩ := by
    rw [actions, List.foldl_append, Shown.foldl_quiet tells.quiet, call, tells.call]
    rfl
  rw [whole]
  refine ⟨?_, rfl⟩
  by_cases editing : outcome.1.state = .editing
  · rcases placed.editing editing with ⟨cursor, here, inside⟩
    refine ⟨cursor, by rw [here]; rfl, inside, fun _ => here, ?_⟩
    exact fun other => absurd editing other
  · have noCursor := placed.other editing
    refine ⟨outcome.1.buffer.length, by rw [noCursor]; rfl, Nat.le_refl _, ?_, fun _ => rfl⟩
    exact fun edits => absurd edits editing

/-- Whether a transition shows the line once, by its last action. -/
structure Refreshes (outcome : CaptureSession × Transition) : Prop where
  once : outcome.2.actions.countP Action.isRefresh = 1
  last : outcome.2.actions.getLast? = some outcome.1.refresh

theorem Shows.refreshes {before : CaptureSession} {outcome : CaptureSession × Transition}
    (shows : Shows before outcome) : Refreshes outcome := by
  rcases shows.told with ⟨told, actions, tells⟩
  have quiet : told.countP Action.isRefresh = 0 := by
    rw [List.countP_eq_zero]
    intro action member
    exact Bool.eq_false_iff.mp (tells.quiet action member)
  constructor
  · rw [actions, List.countP_append, quiet]
    rfl
  · rw [actions]
    exact List.getLast?_concat ..

/-! ## The run -/

section Run

variable {World : Type} (around : Collaborators World)

theorem foldl_displayed (station : World × Shown) (requests : List Request) :
    (requests.foldl around.displayed.serve station).2 =
      requests.foldl Shown.afterRequest station.2 := by
  induction requests generalizing station with
  | nil => rfl
  | cons request rest inductionHypothesis => exact inductionHypothesis _

theorem shown_perform (station : Rig × World × Shown) (contact : Contact) (actions : List Action) :
    (around.displayed.surroundings.perform station contact actions).2.2 =
      actions.foldl Shown.afterAction station.2.2 :=
  (foldl_displayed around station.2 (station.1.serveAll actions).2).trans
    (Shown.foldl_serveAll station.2.2 station.1 actions)

theorem shown_goOn (mode : Mode) (station : Rig × World × Shown) :
    (Capture.goOn around.displayed.surroundings mode
      (around.displayed.surroundings.await station)).2.2 = station.2.2 := by
  unfold Capture.goOn
  split <;> rfl

/-- Whether a transition refreshes the line, and leaves the display of a station to show the
session. -/
def IsShown (outcome : CaptureSession × Transition) (station : Rig × World × Shown) : Prop :=
  Refreshes outcome ∧ Displays station.2.2 outcome.1

theorem Shows.isShown {before : CaptureSession} {outcome : CaptureSession × Transition}
    (shows : Shows before outcome) (placed : Placed outcome.1) {station : Rig × World × Shown}
    (call : station.2.2.call = before.contact.call) :
    IsShown outcome (around.displayed.surroundings.perform station outcome.1.contact
      outcome.2.actions) := by
  refine ⟨shows.refreshes, ?_⟩
  rw [shown_perform]
  exact shows.displays placed call

/-- While a session is followed, the display shows it after every key. -/
theorem Answered.isShown {session : CaptureSession} {answers unread : List (Option Key)}
    {steps : List (CaptureSession × Transition)}
    (answered : Answered session answers steps unread) (placed : Placed session)
    (isOpen : ¬ session.state.isFinal = true) {station : Rig × World × Shown}
    (call : station.2.2.call = session.contact.call) (kept : List (Rig × World × Shown)) :
    ∃ frames, (Capture.follow around.displayed.surroundings.watched (station, kept) session
        (answers ++ unread)).world.2 = kept ++ frames ∧ List.Forall₂ IsShown steps frames := by
  -- Between two keys the display keeps the call of the session; that is all the next key needs.
  induction answered generalizing station kept with
  | exhausted session => exact ⟨[], (List.append_nil kept).symm, .nil⟩
  | idle later inductionHypothesis =>
      rw [List.cons_append, Capture.follow_none, Capture.goOn_watched]
      apply inductionHypothesis placed isOpen
      exact (congrArg Shown.call (shown_goOn around _ station)).trans call
  | @ended session key outcome done final unread =>
      have taken := (step_of_started placed.started key).symm.trans done
      have sameCall := (congrArg Shown.call (shown_goOn around session.settings.mode station)).trans
        call
      have shown := (shows_of_take isOpen taken).isShown around (placed.take isOpen taken) sameCall
      rw [List.singleton_append, Capture.follow_some _ done, if_pos final, Capture.goOn_watched]
      exact ⟨_, rfl, .cons shown .nil⟩
  | @went session key outcome answers unread steps done goesOn later inductionHypothesis =>
      have taken := (step_of_started placed.started key).symm.trans done
      have sameCall := (congrArg Shown.call (shown_goOn around session.settings.mode station)).trans
        call
      have shows := shows_of_take isOpen taken
      have stays := placed.take isOpen taken
      have shown := shows.isShown around stays sameCall
      have openStill : ¬ outcome.1.state.isFinal = true := by
        rw [← shows.state]
        exact Bool.eq_false_iff.mp goesOn
      rw [List.cons_append, Capture.follow_some _ done, if_neg (Bool.eq_false_iff.mp goesOn),
        Capture.goOn_watched]
      rcases inductionHypothesis stays openStill shown.2.call (kept ++ [_]) with
        ⟨frames, followed, all⟩
      refine ⟨_ :: frames, followed.trans ?_, .cons shown all⟩
      exact List.append_assoc kept [_] frames

theorem recalled_displayed (rig : Rig) (world : World) (shown : Shown) (session : CaptureSession)
    (prefill : Text) :
    ∃ after, Capture.recalled around.displayed.surroundings.watched ((rig, (world, shown)), [])
        session prefill = (((rig, (after, shown)), []), around.brought world session prefill) := by
  unfold Capture.recalled Collaborators.brought
  split
  · exact ⟨_, rfl⟩
  · exact ⟨_, rfl⟩

end Run

/-- With a display that starts with the call of the contact, every transition of a capture refreshes
the line once, by its last action, and once its actions have been performed the display shows the
session: its line and cursor, and its call. -/
theorem display_shows_session {World : Type} (around : Collaborators World) (rig : Rig)
    (world : World) {session : CaptureSession} {prefill : Text} {polls : List (Option Key)}
    {opening : CaptureSession × Transition} {steps : List (CaptureSession × Transition)}
    (started : session.start prefill (around.brought world session prefill) = .ok opening)
    (stepped : opening.1.stepsThrough polls.reduceOption = .ok steps) {shown : Shown}
    (call : shown.call = session.contact.call) :
    List.Forall₂ IsShown (opening :: steps)
      (Capture.run around.displayed.surroundings.watched ((rig, (world, shown)), []) session
        prefill polls).world.2 := by
  rcases recalled_displayed around rig world shown session prefill with ⟨after, recalls⟩
  rcases exists_answered stepped with ⟨answers, unread, split, answered⟩
  have shows := shows_of_start started
  have placed := placed_of_start started
  have isOpen : ¬ opening.1.state.isFinal = true := by
    rw [← shows.state]
    exact Bool.eq_false_iff.mp (isFinal_of_start started)
  have opened : IsShown opening (around.displayed.surroundings.perform (rig, (after, shown))
      opening.1.contact opening.2.actions) := shows.isShown around placed call
  generalize performed : around.displayed.surroundings.perform (rig, (after, shown))
    opening.1.contact opening.2.actions = first at opened
  have watched : around.displayed.surroundings.watched.perform ((rig, (after, shown)), [])
      opening.1.contact opening.2.actions = (first, [first]) := by
    rw [← performed]
    rfl
  rcases answered.isShown around placed isOpen opened.2.call [first] with ⟨frames, followed, all⟩
  have run : (Capture.run around.displayed.surroundings.watched ((rig, (world, shown)), []) session
      prefill polls).world.2 = first :: frames := by
    rw [Capture.run, recalls]
    simp only [started, watched]
    rw [split]
    exact followed
  rw [run]
  exact .cons opened all

/-- Answers to polls: a call typed behind the zone, a step back into the line, and the tabulator to
end the edit and then the exchange. -/
def callBehindZone : List (Option Key) :=
  [some (.ofChar 'K'), none, some (.ofChar '1'), some (.ofChar 'A'), some (.ofChar 'B'),
    some .left, some .tab, some .tab]

/-- A call that is retyped behind a zone: the display has the call from its third character on, and
the cursor inside the line as long as that is edited. -/
theorem display_shows_session_of_retyped_call :
    ∃ opening steps frames,
      digitalZone.start [] ((Collaborators.recorder ['1']).brought [] digitalZone []) =
        .ok opening ∧
      opening.1.stepsThrough callBehindZone.reduceOption = .ok steps ∧
      (⟨none, Text.ofString "DL1ABC"⟩ : Shown).call = digitalZone.contact.call ∧
      (Capture.run (Collaborators.recorder ['1']).displayed.surroundings.watched
        (({}, ([], ⟨none, Text.ofString "DL1ABC"⟩)), []) digitalZone [] callBehindZone).world.2 =
          frames ∧
      List.Forall₂ IsShown (opening :: steps) frames ∧
      frames.map (fun frame => frame.2.2.line.map Prod.snd) =
        [some 1, some 2, some 3, some 4, some 5, some 4, some 5, some 5] ∧
      frames.map (fun frame => frame.2.2.call) =
        [Text.ofString "DL1ABC", Text.ofString "DL1ABC", Text.ofString "DL1ABC",
          Text.ofString "K1A", Text.ofString "K1AB", Text.ofString "K1AB", Text.ofString "K1AB",
          Text.ofString "K1AB"] := by
  have opened : ∃ opening steps,
      digitalZone.start [] ((Collaborators.recorder ['1']).brought [] digitalZone []) =
        .ok opening ∧
      opening.1.stepsThrough callBehindZone.reduceOption = .ok steps := ⟨_, _, rfl, rfl⟩
  rcases opened with ⟨opening, steps, started, stepped⟩
  have call : (⟨none, Text.ofString "DL1ABC"⟩ : Shown).call = digitalZone.contact.call := rfl
  refine ⟨opening, steps, _, started, stepped, call, rfl, ?_, rfl, rfl⟩
  exact display_shows_session (Collaborators.recorder ['1']) {} [] started stepped call

end CaptureSession
end ContestExchange
