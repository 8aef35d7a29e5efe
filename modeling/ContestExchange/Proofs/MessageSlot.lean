import ContestExchange.Morse.Message
import ContestExchange.Proofs.Announcement

namespace ContestExchange

/-!
# The messages that keys send

Messages are sent by their number.  The function keys, the digits with Alt, Insert and a plus sign
that logs at once have one each, and nothing else has.

Only the first sight of a key sends a message.  What follows, from the reading of the line to its
end, adds actions of other kinds, so the messages of a transition are those of the key.
-/

namespace Action

/-- The number of the message that an action sends. -/
def slot? : Action → Option Int
  | .sendMessage slot => some slot
  | _ => none

/-- The numbers of the messages that actions send. -/
def slots (actions : List Action) : List Int := actions.filterMap slot?

@[simp]
theorem slots_append (first second : List Action) :
    slots (first ++ second) = slots first ++ slots second :=
  List.filterMap_append

theorem mem_slots {slot : Int} {actions : List Action}
    (sent : Action.sendMessage slot ∈ actions) : slot ∈ slots actions :=
  List.mem_filterMap.mpr ⟨.sendMessage slot, sent, rfl⟩

theorem slots_map_notify (prompts : List Prompt) :
    slots (prompts.map fun prompt : Prompt => Action.notify prompt.message) = [] := by
  rw [slots, List.filterMap_map, List.filterMap_eq_nil_iff]
  exact fun _ _ => rfl

theorem slots_map_ofPreview (previews : List Preview) : slots (previews.map ofPreview) = [] := by
  rw [slots, List.filterMap_map, List.filterMap_eq_nil_iff]
  exact fun _ _ => rfl

end Action

/-- Whether a number is that of a prepared message. -/
structure IsSlot (slot : Int) : Prop where
  nonneg : 0 ≤ slot
  below : slot < 24

namespace CaptureSession

open ContestExchange.Action (slots slots_append)

variable {session : CaptureSession} {key : Key} {outcome : CaptureSession × Transition}

/-! ## What a key sends -/

/-- Whether an answer sends prepared messages only. -/
def Response.HasSlots (response : Response) : Prop := ∀ slot ∈ slots response.actions, IsSlot slot

theorem Response.hasSlots_of_slots_eq_nil {response : Response}
    (silent : slots response.actions = []) : response.HasSlots := by
  intro slot member
  rw [silent] at member
  cases member

theorem Response.hasSlots_of_slots_eq {response : Response} (sent : Int)
    (same : slots response.actions = [sent]) (fits : IsSlot sent) : response.HasSlots := by
  intro slot member
  rw [same, List.mem_singleton] at member
  rw [member]
  exact fits

theorem Response.HasSlots.ite {condition : Prop} [Decidable condition] {first second : Response}
    (here : condition → first.HasSlots) (there : second.HasSlots) :
    (if condition then first else second).HasSlots := by
  split
  · rename_i holds
    exact here holds
  · exact there

theorem slots_adjustment (settings : CaptureSettings) (direction : Direction) :
    slots [adjustment settings direction] = [] := by
  unfold adjustment
  split
  · rfl
  · split <;> rfl

theorem slots_ownCall (settings : CaptureSettings) : slots [ownCall settings] = [] := by
  unfold ownCall
  split <;> rfl

theorem hasSlots_plused (session : CaptureSession) : session.plused.HasSlots := by
  unfold plused
  split
  · split
    · exact Response.hasSlots_of_slots_eq_nil rfl
    · exact Response.hasSlots_of_slots_eq 3 rfl ⟨by decide, by decide⟩
  · exact Response.hasSlots_of_slots_eq_nil rfl

theorem hasSlots_inserted (session : CaptureSession) (key : Key) :
    (Response.passed session
      (if session.settings.ctCompatible then [Action.sendMessage 2] else []) key).HasSlots := by
  cases given : session.settings.ctCompatible with
  | true => exact Response.hasSlots_of_slots_eq 2 rfl ⟨by decide, by decide⟩
  | false => exact Response.hasSlots_of_slots_eq_nil rfl

/-- Every message that a key sends is a prepared one. -/
theorem hasSlots_respond (session : CaptureSession) (key : Key) :
    (session.respond key).HasSlots := by
  have quiet {response : Response} (silent : slots response.actions = []) :
      response.HasSlots := Response.hasSlots_of_slots_eq_nil silent
  have receiving : slots (receivingActions session.settings.qtc) = [] := by
    cases session.settings.qtc <;> rfl
  have sending : slots (sendingActions session.settings.qtc) = [] := by
    cases session.settings.qtc <;> rfl
  have leaving : slots session.escaped.actions = [] := by
    unfold escaped
    split <;> rfl
  have editing (position : Option Int) : slots (session.edited position).actions = [] := by
    unfold edited
    split <;> rfl
  have entering : slots (session.entered key).actions = [] := by
    unfold entered
    split <;> rfl
  unfold respond
  refine .ite (fun _ => quiet receiving) (.ite (fun _ => quiet sending) ?_)
  refine .ite (fun _ => quiet rfl) (.ite (fun _ => quiet leaving) ?_)
  refine .ite (fun _ => quiet rfl) (.ite (fun _ => session.hasSlots_plused) ?_)
  refine .ite (fun _ => session.hasSlots_inserted key) ?_
  refine .ite (fun _ => quiet (slots_ownCall session.settings)) ?_
  refine .ite (fun number => ?_) ?_
  · refine Response.hasSlots_of_slots_eq (key - Key.function 1) rfl ?_
    have low : (266 : Int) ≤ key := number.1
    have high : (275 : Int) ≥ key := number.2
    unfold Key.function
    constructor <;> omega
  refine .ite (fun digit => ?_) ?_
  · refine Response.hasSlots_of_slots_eq (key - Key.altZero + 14) rfl ?_
    have low : (176 : Int) ≤ key := digit.1
    have high : (185 : Int) ≥ key := digit.2
    unfold Key.altZero
    constructor <;> omega
  refine .ite (fun _ => quiet (editing (some 0))) (.ite (fun _ => quiet (editing none)) ?_)
  refine .ite (fun _ => quiet (slots_adjustment session.settings .up)) ?_
  refine .ite (fun _ => quiet (slots_adjustment session.settings .down)) ?_
  exact .ite (fun _ => quiet rfl) (.ite (fun _ => quiet entering) (quiet rfl))

/-! ## What follows a key -/

theorem slots_correctCall (session : CaptureSession) (reading : Extraction) :
    slots (session.correctCall reading).2 = [] := by
  unfold correctCall
  split <;> rfl

theorem slots_of_validateIf {next : CaptureSession} {needed : Bool} {shown : List Action}
    (done : session.validateIf needed = .ok (next, shown)) : slots shown = [] := by
  unfold validateIf at done
  split at done
  · unfold validate at done
    split at done
    · cases done
    · rename_i reading extracted
      cases done
      refine (slots_append _ _).trans ?_
      rw [Action.slots_map_ofPreview, List.nil_append]
      exact slots_correctCall _ reading
  · cases done
    rfl

theorem slots_stay (session : CaptureSession) (actions : List Action) :
    slots (session.stay actions).2.actions = slots actions := by
  show slots (actions ++ [session.refresh]) = slots actions
  rw [slots_append]
  exact List.append_nil _

theorem slots_of_finish {state : CaptureState} {actions : List Action}
    (done : session.finish state key actions = .ok outcome) :
    slots outcome.2.actions = slots actions := by
  unfold finish at done
  dsimp only at done
  split at done
  · cases done
  · cases done
    rw [slots_append]
    exact List.append_nil _

theorem Concluded.slots_eq {actions : List Action}
    (concluded : Concluded session key actions outcome) :
    slots outcome.2.actions = slots actions := by
  cases concluded with
  | ended log prompts state final outcome done =>
      rw [slots_of_finish done, slots_append, Action.slots_map_notify, List.append_nil]
  | asked log prompt =>
      rw [slots_stay, slots_append]
      exact List.append_nil _

/-- While the exchange is collected, a key sends what it does at first sight. -/
theorem slots_of_collect (done : session.collect key = .ok outcome) :
    slots outcome.2.actions = slots (session.respond key).actions := by
  unfold collect at done
  generalize session.respond key = response at done
  cases response with
  | settled settled actions =>
      cases done
      exact slots_stay settled actions
  | backed backed actions => exact slots_of_finish done
  | passed passed actions resolved =>
      dsimp only at done
      split at done
      · cases done
      · rename_i read shown validated
        have quiet : slots (actions ++ shown) = slots actions := by
          rw [slots_append, slots_of_validateIf validated, List.append_nil]
        split at done
        · rcases concluded_of_complete done with ⟨reading, concluded⟩
          exact concluded.slots_eq.trans quiet
        · cases done
          exact (slots_stay read (actions ++ shown)).trans quiet

theorem slots_of_edit {cursor : Nat} (done : session.edit cursor key = .ok outcome) :
    slots outcome.2.actions = [] := by
  unfold edit at done
  dsimp only at done
  split at done
  · cases done
  · rename_i read shown validated
    have quiet : slots shown = [] := slots_of_validateIf validated
    split at done
    · cases done
      exact (slots_stay read shown).trans quiet
    · cases done
      exact (slots_stay _ shown).trans quiet

theorem isSlot_of_collect (done : session.collect key = .ok outcome) :
    ∀ slot ∈ slots outcome.2.actions, IsSlot slot := by
  rw [slots_of_collect done]
  exact session.hasSlots_respond key

theorem isSlot_of_take (done : session.take key = .ok outcome) :
    ∀ slot ∈ slots outcome.2.actions, IsSlot slot := by
  unfold take at done
  dsimp only at done
  split at done
  · cases done
    intro slot member
    cases member
  · split at done
    · rw [slots_of_edit done]
      intro slot member
      cases member
    · exact isSlot_of_collect done
    · exact isSlot_of_collect done

/-- Every message that a step sends is a prepared one, whatever the session. -/
theorem isSlot_of_step (done : session.step key = .ok outcome) {slot : Int}
    (sent : Action.sendMessage slot ∈ outcome.2.actions) : IsSlot slot := by
  unfold step at done
  split at done
  · cases done
  · exact isSlot_of_take done slot (Action.mem_slots sent)

end CaptureSession
end ContestExchange
