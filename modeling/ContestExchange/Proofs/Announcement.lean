import ContestExchange.Proofs.Completion
import ContestExchange.Proofs.SessionRun

namespace ContestExchange

/-!
# What a transition announces

A display knows a session only by the actions that it is handed.  So whatever changes the call has to
announce it, and the line has to be shown after everything else has changed it: after the padding of
a serial, and after the end of an edit.

`Tells` follows the actions that a key has queued so far, from the key to its end, and says that the
call they announce is the call of the session.  Every transition closes with the one action that
shows the line.  None of this depends on how a session came about, so nothing is asked of it here,
not even that it is read by its rule.
-/

namespace Action

/-- The call that is shown after an action. -/
def callAfter (call : Text) : Action → Text
  | .updateCall other => other
  | _ => call

/-- Whether an action shows the line. -/
def isRefresh : Action → Bool
  | .refresh _ _ => true
  | _ => false

/-- Whether an action shows neither the line nor the call. -/
def isPlain : Action → Bool
  | .refresh _ _ | .updateCall _ => false
  | _ => true

theorem callAfter_of_isPlain {action : Action} (plain : action.isPlain = true) (call : Text) :
    callAfter call action = call := by
  cases action with
  | refresh | updateCall => cases plain
  | _ => rfl

theorem isRefresh_of_isPlain {action : Action} (plain : action.isPlain = true) :
    action.isRefresh = false := by
  cases action with
  | refresh => cases plain
  | _ => rfl

theorem foldl_callAfter_of_isPlain {actions : List Action}
    (plain : ∀ action ∈ actions, action.isPlain = true) (call : Text) :
    actions.foldl callAfter call = call := by
  induction actions with
  | nil => rfl
  | cons action rest inductionHypothesis =>
      have here := callAfter_of_isPlain (plain action List.mem_cons_self) call
      rw [List.foldl_cons, here]
      exact inductionHypothesis fun other member => plain other (List.mem_cons_of_mem action member)

theorem plain_nil : ∀ action ∈ ([] : List Action), action.isPlain = true := by
  intro action member
  cases member

theorem plain_singleton {action : Action} (plain : action.isPlain = true) :
    ∀ other ∈ [action], other.isPlain = true := by
  intro other member
  rw [List.mem_singleton.mp member]
  exact plain

end Action

namespace CaptureSession

open ContestExchange.Action (plain_nil plain_singleton)

/-! ## What actions tell -/

/-- Whether actions tell what has changed between two sessions of the same settings: they announce
the call, and leave it to a later action to show the line. -/
structure Tells (before after : CaptureSession) (actions : List Action) : Prop where
  settings : after.settings = before.settings
  call : actions.foldl Action.callAfter before.contact.call = after.contact.call
  quiet : ∀ action ∈ actions, action.isRefresh = false

theorem Tells.of_plain {before after : CaptureSession} {actions : List Action}
    (settings : after.settings = before.settings)
    (call : after.contact.call = before.contact.call)
    (plain : ∀ action ∈ actions, action.isPlain = true) : Tells before after actions where
  settings := settings
  call := (Action.foldl_callAfter_of_isPlain plain before.contact.call).trans call.symm
  quiet action member := Action.isRefresh_of_isPlain (plain action member)

theorem Tells.trans {first second third : CaptureSession} {here there : List Action}
    (tells : Tells first second here) (later : Tells second third there) :
    Tells first third (here ++ there) := by
  constructor
  · exact later.settings.trans tells.settings
  · rw [List.foldl_append, tells.call]
    exact later.call
  · intro action member
    rcases List.mem_append.mp member with queued | added
    · exact tells.quiet action queued
    · exact later.quiet action added

/-- Further actions that announce no call tell the same. -/
theorem Tells.append {before after : CaptureSession} {actions added : List Action}
    (tells : Tells before after actions) (plain : ∀ action ∈ added, action.isPlain = true) :
    Tells before after (actions ++ added) :=
  tells.trans (.of_plain rfl rfl plain)

/-- Only the settings and the call of a session are told. -/
theorem Tells.of_same {before after other : CaptureSession} {actions : List Action}
    (tells : Tells before after actions) (settings : other.settings = after.settings)
    (call : other.contact.call = after.contact.call) : Tells before other actions where
  settings := settings.trans tells.settings
  call := tells.call.trans call.symm
  quiet := tells.quiet

/-! ## Reading the line -/

theorem tells_correctCall (session : CaptureSession) (reading : Extraction) :
    Tells session (session.correctCall reading).1 (session.correctCall reading).2 := by
  unfold correctCall
  split
  · exact .of_plain rfl rfl plain_nil
  · refine ⟨rfl, rfl, ?_⟩
    intro action member
    rw [List.mem_singleton.mp member]
    rfl

/-- Reading the line shows its fields, and announces the call if it corrects it. -/
theorem tells_of_validate {session next : CaptureSession} {shown : List Action}
    (done : session.validate = .ok (next, shown)) : Tells session next shown := by
  unfold validate at done
  cases extracted : session.extractor.extract true session.buffer.text with
  | error fault =>
      rw [extracted] at done
      cases done
  | ok reading =>
      rw [extracted] at done
      cases done
      have previews : Tells session { session with reading := some reading }
          (reading.previews.map .ofPreview) := by
        refine .of_plain rfl rfl ?_
        intro action member
        rcases List.mem_map.mp member with ⟨preview, _, same⟩
        rw [← same]
        rfl
      exact previews.trans (tells_correctCall _ reading)

theorem tells_of_validateIf {session next : CaptureSession} {needed : Bool} {shown : List Action}
    (done : session.validateIf needed = .ok (next, shown)) : Tells session next shown := by
  unfold validateIf at done
  split at done
  · exact tells_of_validate done
  · cases done
    exact .of_plain rfl rfl plain_nil

/-! ## What a key asks for -/

/-- The session that a key leaves at first sight. -/
def Response.session : Response → CaptureSession
  | .settled session _ | .backed session _ | .passed session _ _ => session

/-- What a key asks for at first sight. -/
def Response.actions : Response → List Action
  | .settled _ actions | .backed _ actions | .passed _ actions _ => actions

theorem plain_receivingActions (direction : QtcDirection) :
    ∀ action ∈ receivingActions direction, action.isPlain = true := by
  cases direction with
  | recv | both | send => exact plain_singleton rfl
  | off => exact plain_nil

theorem plain_sendingActions (direction : QtcDirection) :
    ∀ action ∈ sendingActions direction, action.isPlain = true := by
  cases direction with
  | send | both => exact plain_singleton rfl
  | recv | off => exact plain_nil

theorem isPlain_adjustment (settings : CaptureSettings) (direction : Direction) :
    (adjustment settings direction).isPlain = true := by
  unfold adjustment
  split
  · rfl
  · split <;> rfl

theorem isPlain_ownCall (settings : CaptureSettings) : (ownCall settings).isPlain = true := by
  unfold ownCall
  split <;> rfl

/-- Whether an answer asks for nothing that shows the line or the call. -/
def Response.IsPlain (response : Response) : Prop :=
  ∀ action ∈ response.actions, action.isPlain = true

theorem Response.IsPlain.ite {condition : Prop} [Decidable condition] {first second : Response}
    (here : first.IsPlain) (there : second.IsPlain) :
    (if condition then first else second).IsPlain := by
  split
  · exact here
  · exact there

theorem isPlain_escaped (session : CaptureSession) : session.escaped.IsPlain := by
  unfold escaped
  split
  · exact plain_singleton rfl
  · exact plain_singleton rfl

theorem isPlain_plused (session : CaptureSession) : session.plused.IsPlain := by
  unfold plused
  split
  · split
    · exact plain_nil
    · exact plain_singleton rfl
  · exact plain_nil

theorem isPlain_edited (session : CaptureSession) (position : Option Int) :
    (session.edited position).IsPlain := by
  unfold edited
  split
  · exact plain_nil
  · exact plain_nil

theorem isPlain_entered (session : CaptureSession) (key : Key) : (session.entered key).IsPlain := by
  unfold entered
  split
  · exact plain_nil
  · exact plain_nil

/-- At first sight no key shows the line or announces a call. -/
theorem isPlain_respond (session : CaptureSession) (key : Key) : (session.respond key).IsPlain := by
  have inserts : ∀ action ∈
      (if session.settings.ctCompatible then [Action.sendMessage 2] else []),
      action.isPlain = true := by
    split
    · exact plain_singleton rfl
    · exact plain_nil
  unfold respond
  refine .ite (plain_receivingActions session.settings.qtc) ?_
  refine .ite (plain_sendingActions session.settings.qtc) ?_
  refine .ite (plain_singleton rfl) ?_
  refine .ite session.isPlain_escaped ?_
  refine .ite plain_nil ?_
  refine .ite session.isPlain_plused ?_
  refine .ite inserts ?_
  refine .ite (plain_singleton (isPlain_ownCall session.settings)) ?_
  refine .ite (plain_singleton rfl) ?_
  refine .ite (plain_singleton rfl) ?_
  refine .ite (session.isPlain_edited (some 0)) ?_
  refine .ite (session.isPlain_edited none) ?_
  refine .ite (plain_singleton (isPlain_adjustment session.settings .up)) ?_
  refine .ite (plain_singleton (isPlain_adjustment session.settings .down)) ?_
  refine .ite (plain_singleton rfl) ?_
  exact .ite (session.isPlain_entered key) plain_nil

/-- What a key asks for at first sight tells of the session that it leaves. -/
theorem tells_respond (session : CaptureSession) (key : Key) :
    Tells session (session.respond key).session (session.respond key).actions := by
  have answer := session.answer_respond key
  have plain := session.isPlain_respond key
  generalize session.respond key = response at answer plain
  cases answer with
  | kept _ actions incomplete => exact .of_plain rfl rfl plain
  | opened _ position present incomplete => exact .of_plain rfl rfl plain
  | spotted => exact .of_plain rfl rfl plain
  | left empty => exact .of_plain rfl rfl plain
  | emptied present => exact .of_plain rfl rfl plain
  | shortened => exact .of_plain rfl rfl plain
  | resolved _ actions quiet => exact .of_plain rfl rfl plain

/-! ## Transitions -/

/-- Whether a transition tells what has changed and closes with the action that shows the line. -/
structure Shows (before : CaptureSession) (outcome : CaptureSession × Transition) : Prop where
  state : outcome.2.state = outcome.1.state
  told : ∃ told, outcome.2.actions = told ++ [outcome.1.refresh] ∧ Tells before outcome.1 told

theorem shows_stay {before session : CaptureSession} {actions : List Action}
    (tells : Tells before session actions) : Shows before (session.stay actions) where
  state := rfl
  told := ⟨actions, rfl, tells⟩

theorem shows_of_finish {before session : CaptureSession} {state : CaptureState} {key : Key}
    {actions : List Action} {outcome : CaptureSession × Transition}
    (tells : Tells before session actions)
    (done : session.finish state key actions = .ok outcome) : Shows before outcome := by
  have ended : Ended session outcome.1 state key := ended_of_finish done
  have told : outcome.2 = ⟨state, key, actions ++ [outcome.1.refresh]⟩ := by
    unfold finish at done
    dsimp only at done
    split at done
    · cases done
    · cases done
      rfl
  constructor
  · rw [told]
    exact ended.state.symm
  · refine ⟨actions, by rw [told], tells.of_same ended.setting.settings ?_⟩
    rw [ended.contact]

theorem shows_of_start {session : CaptureSession} {prefill recalled : Text}
    {outcome : CaptureSession × Transition}
    (done : session.start prefill recalled = .ok outcome) : Shows session outcome := by
  have begins : Tells session (session.begun prefill recalled) [] :=
    .of_plain (session.sameSetting_begun prefill recalled).settings
      (congrArg Contact.call (session.contact_begun prefill recalled)) plain_nil
  unfold start at done
  dsimp only at done
  split at done
  · cases done
  · rename_i next shown validated
    cases done
    exact ⟨rfl, shown, rfl, begins.trans (tells_of_validateIf validated)⟩

/-! ## Completing -/

/-- What a judgement can come to: the exchange ends, or it is asked about and stays open.  Only the
log of the session may be another one by then, and only a prompt may have been added. -/
inductive Concluded (session : CaptureSession) (key : Key) (actions : List Action) :
    CaptureSession × Transition → Prop where
  | ended (log : Log) (prompts : List Prompt) (state : CaptureState)
      (final : state.isFinal = true) (outcome : CaptureSession × Transition)
      (done : { session with log := log }.finish state key
        (actions ++ prompts.map fun prompt : Prompt => Action.notify prompt.message) = .ok outcome) :
      Concluded session key actions outcome
  | asked (log : Log) (prompt : Prompt) :
      Concluded session key actions
        ({ session with log := log }.stay (actions ++ [Action.notify prompt.message]))

theorem concluded_of_conclude {session : CaptureSession} {reading : Extraction} {key : Key}
    {actions : List Action} {outcome : CaptureSession × Transition}
    (done : session.conclude reading key actions = .ok outcome) :
    Concluded session key actions outcome := by
  have finished (state : CaptureState) (final : state.isFinal = true)
      (accepts : session.finish state key actions = .ok outcome) :
      Concluded session key actions outcome := by
    refine .ended session.log [] state final outcome ?_
    rw [List.map_nil, List.append_nil]
    exact accepts
  unfold conclude at done
  dsimp only at done
  split at done
  · cases done
    exact .asked _ .ofSection
  split at done
  · split at done
    · exact finished .complete rfl done
    · exact .ended (session.note (.sectionMissing session.buffer.text)).log [.ofSection] .rejected
        rfl outcome done
  split at done
  · cases done
    exact .asked _ .ofLocator
  split at done
  · split at done
    · cases done
      exact .asked _ .ofStateProvince
    · exact .ended session.log [.ofStateProvince] .complete rfl outcome done
  · exact finished .complete rfl done

theorem concluded_of_complete {session : CaptureSession} {key : Key} {actions : List Action}
    {outcome : CaptureSession × Transition} (done : session.complete key actions = .ok outcome) :
    ∃ reading, Concluded (session.judged reading) key actions outcome := by
  rw [complete_eq] at done
  cases read : session.extractor.extract false session.completedText with
  | error fault =>
      rw [read] at done
      cases done
  | ok reading =>
      rw [read] at done
      exact ⟨reading, concluded_of_conclude done⟩

theorem Concluded.shows {before session : CaptureSession} {key : Key} {actions : List Action}
    {outcome : CaptureSession × Transition} (concluded : Concluded session key actions outcome)
    (tells : Tells before session actions) : Shows before outcome := by
  cases concluded with
  | ended log prompts state final outcome done =>
      have same : Tells before { session with log := log } actions := tells.of_same rfl rfl
      refine shows_of_finish (same.append ?_) done
      intro action member
      rcases List.mem_map.mp member with ⟨prompt, _, same⟩
      rw [← same]
      rfl
  | asked log prompt =>
      have prompted : ∀ action ∈ [Action.notify prompt.message], action.isPlain = true :=
        plain_singleton rfl
      have same : Tells before { session with log := log } actions := tells.of_same rfl rfl
      exact shows_stay (same.append prompted)

/-! ## Keys -/

/-- A key shows what it comes to while the exchange is collected. -/
theorem shows_of_collect {session : CaptureSession} {key : Key}
    {outcome : CaptureSession × Transition} (done : session.collect key = .ok outcome) :
    Shows session outcome := by
  have first := session.tells_respond key
  unfold collect at done
  generalize session.respond key = response at done first
  cases response with
  | settled settled actions =>
      cases done
      exact shows_stay first
  | backed backed actions => exact shows_of_finish first done
  | passed passed actions resolved =>
      have typed : Tells session (passed.type resolved.promote) actions := by
        rw [passed.type_eq]
        exact ⟨first.settings, first.call, first.quiet⟩
      dsimp only at done
      split at done
      · cases done
      · rename_i read shown validated
        -- What the key asked for is queued before what the reading shows and announces.
        have tells := typed.trans (tells_of_validateIf validated)
        split at done
        · rcases concluded_of_complete done with ⟨reading, concluded⟩
          have same := read.sameSetting_judged reading
          refine concluded.shows (tells.of_same same.settings ?_)
          rw [read.contact_judged]
        · cases done
          exact shows_stay tells

/-- A key shows what it comes to while the exchange is edited. -/
theorem shows_of_edit {session : CaptureSession} {cursor : Nat} {key : Key}
    {outcome : CaptureSession × Transition} (done : session.edit cursor key = .ok outcome) :
    Shows session outcome := by
  have handled : Tells session
      (session.withEditor ((Editor.mk session.buffer cursor false).handle key).2) [] :=
    .of_plain rfl rfl plain_nil
  unfold edit at done
  dsimp only at done
  split at done
  · cases done
  · rename_i read shown validated
    have tells := handled.trans (tells_of_validateIf validated)
    split at done
    · cases done
      exact shows_stay tells
    · cases done
      exact shows_stay (tells.of_same rfl rfl)

theorem Shows.of_same {before same : CaptureSession} {outcome : CaptureSession × Transition}
    (shows : Shows same outcome) (settings : same.settings = before.settings)
    (contact : same.contact = before.contact) : Shows before outcome := by
  rcases shows.told with ⟨told, queued, tells⟩
  have begins : Tells before same [] :=
    .of_plain settings (congrArg Contact.call contact) plain_nil
  exact ⟨shows.state, told, queued, begins.trans tells⟩

/-- Every key before the end shows what it comes to, whatever the session. -/
theorem shows_of_take {session : CaptureSession} (isOpen : ¬ session.state.isFinal = true)
    {key : Key} {outcome : CaptureSession × Transition}
    (done : session.take key = .ok outcome) : Shows session outcome := by
  rw [take, if_neg isOpen] at done
  dsimp only at done
  split at done
  · have shows := shows_of_edit done
    exact shows.of_same rfl rfl
  · have shows := shows_of_collect done
    exact shows.of_same rfl rfl
  · have shows := shows_of_collect done
    exact shows.of_same rfl rfl

/-! ## What every operation keeps -/

theorem isFinal_of_start {session : CaptureSession} {prefill recalled : Text}
    {outcome : CaptureSession × Transition}
    (done : session.start prefill recalled = .ok outcome) : outcome.2.isFinal = false := by
  have collecting : outcome.1.state = .collecting := (read_of_start done).state
  rw [Transition.isFinal, (shows_of_start done).state, collecting]
  rfl

end CaptureSession
end ContestExchange
