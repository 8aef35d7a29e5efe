import ContestExchange.Capture.Session
import ContestExchange.Proofs.Line

namespace ContestExchange

/-!
# What a key can do to a session

About twenty keys mean something of their own while an exchange is collected.  What they can do to
the session is far less: nothing, open the editor, leave for the call field, change the line and
read it, or complete the exchange.  `Collected` lists these outcomes with the session that each of
them leaves, and `collected_of_collect` shows that there are no others.  Facts about every run are
proved from that list and never look at the keys again.

Reading the line touches only the reading, the contact's call and the log; the fields of a session
after a reading are therefore stated one by one and simplify away.
-/

/-- The call of a contact after a reading: one retyped with three characters or more replaces it. -/
def CaptureSettings.callAfter (settings : CaptureSettings) (call : Text) (reading : Extraction) :
    Text :=
  if settings.callUpdate && 3 ≤ reading.correction.length then reading.correction else call

/-- Whether an action asks the operator for something. -/
def Action.isNotify : Action → Bool
  | .notify _ => true
  | _ => false

namespace Key

theorem isTyped_of_isCompleting {key : Key} (completing : key.isCompleting = true) :
    key.isTyped = false := by
  simp only [isCompleting, isFinalizing, isEnter, Bool.or_eq_true, beq_iff_eq] at completing
  rcases completing with ((same | same) | same) | same <;> subst same <;> rfl

/-- Promotion makes no key complete an exchange that does not complete it by itself. -/
theorem isCompleting_promote (key : Key) : key.promote.isCompleting = key.isCompleting := by
  unfold promote
  split
  · rename_i small
    rw [Bool.eq_iff_iff]
    simp only [isCompleting, isFinalizing, isEnter, Bool.or_eq_true, beq_iff_eq, lineFeed, enter,
      backslash, tab]
    unfold Key at small ⊢
    omega
  · rfl

theorem promote_of_isCompleting {key : Key} (completing : key.isCompleting = true) :
    key.promote = key := by
  simp only [isCompleting, isFinalizing, isEnter, Bool.or_eq_true, beq_iff_eq] at completing
  rcases completing with ((same | same) | same) | same <;> subst same <;> rfl

end Key

namespace CaptureSession

/-! ## The setting of a session -/

/-- Two sessions in one setting: under the same rule, read and served alike, with lines of one
width. -/
structure SameSetting (before after : CaptureSession) : Prop where
  rule : after.rule = before.rule
  extractor : after.extractor = before.extractor
  settings : after.settings = before.settings
  width : after.buffer.width = before.buffer.width

theorem SameSetting.refl (session : CaptureSession) : SameSetting session session :=
  ⟨rfl, rfl, rfl, rfl⟩

theorem SameSetting.trans {first second third : CaptureSession} (here : SameSetting first second)
    (there : SameSetting second third) : SameSetting first third :=
  ⟨there.rule.trans here.rule, there.extractor.trans here.extractor,
    there.settings.trans here.settings, there.width.trans here.width⟩

/-- Only the last key of a session is another once a key has been pressed. -/
theorem sameSetting_pressed (session : CaptureSession) (key : Key) :
    SameSetting session { session with lastKey := key } :=
  ⟨rfl, rfl, rfl, rfl⟩

/-! ## Reading the line -/

section CorrectCall

variable (session : CaptureSession) (reading : Extraction)

@[simp] theorem rule_correctCall : (session.correctCall reading).1.rule = session.rule := by
  unfold correctCall; split <;> rfl

@[simp] theorem extractor_correctCall :
    (session.correctCall reading).1.extractor = session.extractor := by
  unfold correctCall; split <;> rfl

@[simp] theorem settings_correctCall :
    (session.correctCall reading).1.settings = session.settings := by
  unfold correctCall; split <;> rfl

@[simp] theorem buffer_correctCall : (session.correctCall reading).1.buffer = session.buffer := by
  unfold correctCall; split <;> rfl

@[simp] theorem state_correctCall : (session.correctCall reading).1.state = session.state := by
  unfold correctCall; split <;> rfl

@[simp] theorem reading_correctCall :
    (session.correctCall reading).1.reading = session.reading := by
  unfold correctCall; split <;> rfl

@[simp] theorem cursor_correctCall : (session.correctCall reading).1.cursor = session.cursor := by
  unfold correctCall; split <;> rfl

@[simp] theorem lastKey_correctCall :
    (session.correctCall reading).1.lastKey = session.lastKey := by
  unfold correctCall; split <;> rfl

/-- Taking a correction over sets the call and nothing else of the contact.  A correction that
repeats the call is not taken over, which leaves the same call. -/
@[simp] theorem contact_correctCall :
    (session.correctCall reading).1.contact =
      { session.contact with
        call := session.settings.callAfter session.contact.call reading } := by
  unfold correctCall correction? CaptureSettings.callAfter
  by_cases long : (session.settings.callUpdate && decide (3 ≤ reading.correction.length)) = true
  · by_cases same : reading.correction = session.contact.call
    · simp [same]
    · simp only [long, Bool.true_and, bne_iff_ne, ne_eq, same, not_false_eq_true, if_true]
      rfl
  · simp [long]

end CorrectCall

/-- What a session is after its line has been read, or left unread because there was no need. -/
structure Read (before after : CaptureSession) (needed : Bool) : Prop where
  setting : SameSetting before after
  buffer : after.buffer = before.buffer
  state : after.state = before.state
  cursor : after.cursor = before.cursor
  lastKey : after.lastKey = before.lastKey
  unread : (before.rule.isLive && needed) = false → after = before
  read : (before.rule.isLive && needed) = true →
    ∃ reading, before.extractor.extract true before.buffer.text = .ok reading ∧
      after.reading = some reading ∧
      after.contact =
        { before.contact with call := before.settings.callAfter before.contact.call reading }

theorem validateIf_of_unneeded {session : CaptureSession} {needed : Bool}
    (unneeded : (session.rule.isLive && needed) = false) :
    session.validateIf needed = .ok (session, []) := by
  rw [validateIf, unneeded]
  rfl

theorem read_of_validate {session next : CaptureSession} {shown : List Action}
    (done : session.validate = .ok (next, shown)) {needed : Bool}
    (live : (session.rule.isLive && needed) = true) :
    Read session next needed := by
  unfold validate at done
  cases extracted : session.extractor.extract true session.buffer.text with
  | error fault =>
      rw [extracted] at done
      cases done
  | ok reading =>
      rw [extracted] at done
      simp only [Except.ok.injEq, Prod.mk.injEq] at done
      rcases done with ⟨same, shows⟩
      subst same shows
      refine ⟨⟨?_, ?_, ?_, ?_⟩, ?_, ?_, ?_, ?_, fun unneeded => ?_, fun _ => ?_⟩
      case refine_9 => exact absurd (live.symm.trans unneeded) Bool.noConfusion
      case refine_10 => exact ⟨reading, extracted, by simp, by simp⟩
      all_goals simp

theorem read_of_validateIf {session next : CaptureSession} {needed : Bool} {shown : List Action}
    (done : session.validateIf needed = .ok (next, shown)) :
    Read session next needed := by
  cases live : session.rule.isLive && needed with
  | false =>
      rw [validateIf_of_unneeded live] at done
      cases done
      refine ⟨.refl session, rfl, rfl, rfl, rfl, fun _ => rfl, fun needed => ?_⟩
      exact absurd (live.symm.trans needed) Bool.noConfusion
  | true =>
      rw [validateIf, if_pos live] at done
      exact read_of_validate done live

/-! ## Ending -/

/-- The session after its end, once the line has been read. -/
def ended (session : CaptureSession) (state : CaptureState) (key : Key) : CaptureSession :=
  { session with state := state, lastKey := key, cursor := none }.note
    (.finished session.buffer.text state)

/-- What a session is at its end. -/
structure Ended (before after : CaptureSession) (state : CaptureState) (key : Key) : Prop where
  setting : SameSetting before after
  buffer : after.buffer = before.buffer
  state : after.state = state
  cursor : after.cursor = none
  lastKey : after.lastKey = key
  contact : after.contact = before.contact
  reading : before.reading.isSome = true → after.reading = before.reading

theorem ended_ended (session : CaptureSession) (state : CaptureState) (key : Key) :
    Ended session (session.ended state key) state key :=
  ⟨⟨rfl, rfl, rfl, rfl⟩, rfl, rfl, rfl, rfl, rfl, fun _ => rfl⟩

theorem readOnce_of_reading {session : CaptureSession} (read : session.reading.isSome = true) :
    session.readOnce = .ok session := by
  unfold readOnce
  cases present : session.reading with
  | some reading => rfl
  | none =>
      rw [present] at read
      cases read

/-- A session whose line has been read ends without a further reading. -/
theorem finish_of_reading {session : CaptureSession} (read : session.reading.isSome = true)
    (state : CaptureState) (key : Key) (actions : List Action) :
    session.finish state key actions =
      .ok (session.ended state key,
        ⟨state, key, actions ++ [(session.ended state key).refresh]⟩) := by
  have once : { session with state := state, lastKey := key, cursor := none }.readOnce =
      .ok { session with state := state, lastKey := key, cursor := none } :=
    readOnce_of_reading read
  rw [finish, once]
  rfl

theorem ended_of_finish {session next : CaptureSession} {transition : Transition}
    {state : CaptureState} {key : Key} {actions : List Action}
    (done : session.finish state key actions = .ok (next, transition)) :
    Ended session next state key := by
  cases present : session.reading with
  | some reading =>
      rw [finish_of_reading (Option.isSome_of_eq_some present)] at done
      cases done
      exact session.ended_ended state key
  | none =>
      simp only [finish, readOnce, present] at done
      cases extracted : session.extractor.extract false session.buffer.text with
      | error fault =>
          rw [extracted] at done
          cases done
      | ok reading =>
          rw [extracted] at done
          cases done
          refine ⟨⟨rfl, rfl, rfl, rfl⟩, rfl, rfl, rfl, rfl, rfl, fun impossible => ?_⟩
          rw [present] at impossible
          cases impossible

/-! ## What a key stands for -/

/-- Whether a key logs at once: an Enter where the contest asks for that or there is no contest, and
the plus sign once there is a call. -/
def logsAtOnce (session : CaptureSession) (key : Key) : Bool :=
  key.isEnter && (session.settings.ctCompatible || !session.rule.isContest) ||
    key == .plus && session.settings.ctCompatible && 2 < session.contact.call.length

/-- The key that a key stands for while the exchange is collected. -/
def resolvedKey (session : CaptureSession) (key : Key) : Key :=
  if session.logsAtOnce key then
    if session.buffer.isEmpty then refusedKey else .backslash
  else if key = .comma ∨ key = .ctrlK then noKey
  else key

/-- What a key may do at first sight. -/
inductive Answer (session : CaptureSession) : Key → Response → Prop where
  | kept (key : Key) (actions : List Action)
      (incomplete : (session.resolvedKey key).isCompleting = false) :
      Answer session key (.settled session actions)
  | opened (key : Key) (position : Option Int) (present : session.buffer.isEmpty = false)
      (incomplete : (session.resolvedKey key).isCompleting = false) :
      Answer session key (.settled
        ({ session with
          cursor := some (Editor.start session.buffer position).cursor
          state := .editing }.note .editing) [])
  | spotted :
      Answer session .ctrlA (.backed { session with buffer := session.buffer.clear } [.addSpot])
  | left (empty : session.buffer.isEmpty = true) :
      Answer session .escape (.backed session [.stopTransmission])
  | emptied (present : session.buffer.isEmpty = false) :
      Answer session .escape
        (.passed { session with buffer := session.buffer.clear } [.stopTransmission] noKey)
  | shortened :
      Answer session .backspace
        (.passed { session with buffer := session.buffer.pop.2 } [] .backspace)
  | resolved (key : Key) (actions : List Action)
      (quiet : actions.countP Action.isNotify = 0) :
      Answer session key (.passed session actions (session.resolvedKey key))

theorem Answer.passed {session : CaptureSession} {key resolved : Key} {actions : List Action}
    (resolves : session.resolvedKey key = resolved)
    (quiet : actions.countP Action.isNotify = 0) :
    Answer session key (.passed session actions resolved) := by
  subst resolves
  exact .resolved key actions quiet

/-- Apart from Enter, the plus sign and the keyer's keys, a key stands for itself. -/
theorem resolvedKey_of_plain (session : CaptureSession) {key : Key} (noEnter : key.isEnter = false)
    (noPlus : key ≠ .plus) (noKeyer : ¬ (key = .comma ∨ key = .ctrlK)) :
    session.resolvedKey key = key := by
  have later : session.logsAtOnce key = false := by
    simp only [logsAtOnce, noEnter, beq_eq_false_iff_ne.mpr noPlus, Bool.false_and, Bool.or_false]
  rw [resolvedKey, later, if_neg Bool.false_ne_true, if_neg noKeyer]

/-- An Enter logs at once or completes as itself. -/
theorem answer_entered (session : CaptureSession) {key : Key} (enters : key.isEnter = true)
    (noPlus : key ≠ .plus) (noKeyer : ¬ (key = .comma ∨ key = .ctrlK)) :
    Answer session key (session.entered key) := by
  have resolves : session.resolvedKey key =
      if session.settings.ctCompatible || !session.rule.isContest then
        if session.buffer.isEmpty then refusedKey else .backslash
      else key := by
    simp only [resolvedKey, logsAtOnce, enters, beq_eq_false_iff_ne.mpr noPlus, noKeyer,
      Bool.true_and, Bool.false_and, Bool.or_false, if_false]
  unfold entered
  split
  · rename_i atOnce
    rw [if_pos atOnce] at resolves
    exact .passed resolves rfl
  · rename_i later
    rw [if_neg later] at resolves
    exact .passed resolves rfl

theorem answer_plused (session : CaptureSession) : Answer session .plus session.plused := by
  have resolves : session.resolvedKey .plus =
      if session.settings.ctCompatible && 2 < session.contact.call.length then
        if session.buffer.isEmpty then refusedKey else .backslash
      else .plus := rfl
  unfold plused
  split
  · rename_i atOnce
    rw [if_pos atOnce] at resolves
    split
    · rename_i empty
      rw [if_pos empty] at resolves
      exact .passed resolves rfl
    · rename_i present
      rw [if_neg present] at resolves
      exact .passed resolves rfl
  · rename_i later
    rw [if_neg later] at resolves
    exact .passed resolves rfl

theorem answer_edited (session : CaptureSession) {key : Key} (position : Option Int)
    (incomplete : (session.resolvedKey key).isCompleting = false) :
    Answer session key (session.edited position) := by
  unfold edited
  cases empty : session.buffer.isEmpty with
  | true => exact .kept key [] incomplete
  | false => exact .opened key position empty incomplete

/-- Every key has one of the answers. -/
theorem answer_respond (session : CaptureSession) (key : Key) :
    Answer session key (session.respond key) := by
  unfold respond
  by_cases receives : key = .ctrlQ
  · subst receives
    exact .kept _ _ rfl
  rw [if_neg receives]
  by_cases sends : key = .ctrlS
  · subst sends
    exact .kept _ _ rfl
  rw [if_neg sends]
  by_cases spots : key = .ctrlA
  · subst spots
    exact .spotted
  rw [if_neg spots]
  by_cases escapes : key = .escape
  · subst escapes
    rw [if_pos rfl, escaped]
    cases empty : session.buffer.isEmpty with
    | true => exact .left empty
    | false => exact .emptied empty
  rw [if_neg escapes]
  by_cases erases : key = .backspace
  · subst erases
    exact .shortened
  rw [if_neg erases]
  by_cases adds : key = .plus
  · subst adds
    exact session.answer_plused
  rw [if_neg adds]
  by_cases keyed : key = .comma ∨ key = .ctrlK
  · rcases keyed with same | same <;> subst same
    · exact .passed rfl rfl
    · exact .passed rfl rfl
  by_cases enters : key.isEnter = true
  · have entered := session.answer_entered enters adds keyed
    simp only [Key.isEnter, Bool.or_eq_true, beq_iff_eq] at enters
    rcases enters with same | same <;> subst same <;> exact entered
  have plain := session.resolvedKey_of_plain (Bool.eq_false_iff.mpr enters) adds keyed
  by_cases inserts : key = .insert
  · rw [if_pos inserts]
    refine .passed plain ?_
    split <;> rfl
  rw [if_neg inserts]
  by_cases calls : key = Key.function 1
  · rw [if_pos calls]
    refine .passed plain ?_
    unfold ownCall
    split <;> rfl
  rw [if_neg calls]
  by_cases messages : Key.function 2 ≤ key ∧ key ≤ Key.function 11
  · rw [if_pos messages]
    exact .passed plain rfl
  rw [if_neg messages]
  by_cases numbered : Key.altZero ≤ key ∧ key ≤ Key.altNine
  · rw [if_pos numbered]
    exact .passed plain rfl
  rw [if_neg numbered]
  by_cases starts : key = .home
  · subst starts
    exact session.answer_edited (some 0) rfl
  rw [if_neg starts]
  by_cases stepsBack : key = .left
  · subst stepsBack
    exact session.answer_edited none rfl
  rw [if_neg stepsBack]
  have adjusts (direction : Direction) :
      [adjustment session.settings direction].countP Action.isNotify = 0 := by
    unfold adjustment
    split
    · rfl
    · split <;> rfl
  by_cases raises : key = .pageUp
  · rw [if_pos raises]
    exact .passed plain (adjusts .up)
  rw [if_neg raises]
  by_cases lowers : key = .pageDown
  · rw [if_pos lowers]
    exact .passed plain (adjusts .down)
  rw [if_neg lowers, if_neg keyed, if_neg enters]
  exact .passed plain rfl

/-! ## What a key comes to while the exchange is collected -/

theorem type_of_not_isTyped {session : CaptureSession} {key : Key} (mute : key.isTyped = false) :
    session.type key = session := by
  rw [type, mute]
  rfl

theorem type_eq (session : CaptureSession) (key : Key) :
    session.type key = { session with buffer := (session.type key).buffer } := by
  unfold type
  split <;> rfl

theorem width_type (session : CaptureSession) (key : Key) :
    (session.type key).buffer.width = session.buffer.width := by
  unfold type
  split
  · exact Buffer.width_append session.buffer [key.toChar]
  · rfl

/-- The line that a key leaves, as long as it does not leave the field. -/
inductive LineChange (session : CaptureSession) : Key → Buffer → Prop where
  | emptied (present : session.buffer.isEmpty = false) :
      LineChange session .escape session.buffer.clear
  | shortened : LineChange session .backspace session.buffer.pop.2
  | typed (key : Key) : LineChange session key (session.type (session.resolvedKey key).promote).buffer

theorem LineChange.width {session : CaptureSession} {key : Key} {line : Buffer}
    (change : LineChange session key line) : line.width = session.buffer.width := by
  cases change with
  | emptied present => rfl
  | shortened => rfl
  | typed => exact session.width_type _

/-- What a key comes to while the exchange is collected: the session and the transition after it. -/
inductive Collected (session : CaptureSession) (key : Key) :
    CaptureSession × Transition → Prop where
  | kept (actions : List Action) : Collected session key (session.stay actions)
  | opened (position : Option Int) (present : session.buffer.isEmpty = false) :
      Collected session key (({ session with
        cursor := some (Editor.start session.buffer position).cursor
        state := .editing }.note .editing).stay [])
  | left (line : Buffer) (empty : line.text = []) (width : line.width = session.buffer.width)
      (unchanged : line = session.buffer ∨ key = .ctrlA)
      (outcome : CaptureSession × Transition)
      (ended : Ended { session with buffer := line } outcome.1 .back .tab) :
      Collected session key outcome
  | changed (line : Buffer) (change : LineChange session key line)
      (incomplete : (session.resolvedKey key).isCompleting = false) (next : CaptureSession)
      (after : Read { session with buffer := line } next
        (line.text != session.buffer.text || session.reading.isNone)) (actions : List Action) :
      Collected session key (next.stay actions)
  | completed (completing : (session.resolvedKey key).isCompleting = true) (next : CaptureSession)
      (after : Read session next session.reading.isNone) (actions : List Action)
      (outcome : CaptureSession × Transition)
      (concluded : next.complete (session.resolvedKey key) actions = .ok outcome) :
      Collected session key outcome

/-- A key that is passed on and completes nothing leaves the line read if there is need. -/
theorem collected_of_passed {session : CaptureSession} {key : Key} {line : Buffer}
    (change : LineChange session key line)
    (incomplete : (session.resolvedKey key).isCompleting = false)
    (resolved : Key) (same : resolved.isCompleting = (session.resolvedKey key).isCompleting)
    {actions : List Action} {outcome : CaptureSession × Transition}
    (done : (match { session with buffer := line }.validateIf
        (line.text != session.buffer.text || session.reading.isNone) with
      | .error fault => .error fault
      | .ok (read, shown) =>
          if resolved.isCompleting then read.complete resolved (actions ++ shown)
          else .ok (read.stay (actions ++ shown)) :
        Except Fault (CaptureSession × Transition)) = .ok outcome) :
    Collected session key outcome := by
  cases validated : { session with buffer := line }.validateIf
      (line.text != session.buffer.text || session.reading.isNone) with
  | error fault =>
      rw [validated] at done
      cases done
  | ok pair =>
      rcases pair with ⟨read, shown⟩
      rw [validated] at done
      simp only [same, incomplete, Bool.false_eq_true, if_false, Except.ok.injEq] at done
      subst done
      exact .changed line change incomplete read (read_of_validateIf validated) (actions ++ shown)

/-- The outcomes of a key while the exchange is collected are those of `Collected`. -/
theorem collected_of_collect {session : CaptureSession} {key : Key}
    {outcome : CaptureSession × Transition} (done : session.collect key = .ok outcome) :
    Collected session key outcome := by
  have answer := session.answer_respond key
  unfold collect at done
  generalize session.respond key = response at done answer
  cases answer with
  | kept _ actions => cases done; exact .kept actions
  | opened _ position present => cases done; exact .opened position present
  | spotted =>
      exact .left session.buffer.clear rfl rfl (Or.inr rfl) outcome (ended_of_finish done)
  | left empty =>
      exact .left session.buffer (session.buffer.isEmpty_iff.mp empty) rfl (Or.inl rfl) outcome
        (ended_of_finish done)
  | emptied present =>
      have mute : (Key.promote noKey).isTyped = false := rfl
      dsimp only at done
      rw [type_of_not_isTyped mute] at done
      exact collected_of_passed (.emptied present) rfl (Key.promote noKey) rfl done
  | shortened =>
      have mute : (Key.promote .backspace).isTyped = false := rfl
      dsimp only at done
      rw [type_of_not_isTyped mute] at done
      exact collected_of_passed .shortened rfl (Key.promote .backspace) rfl done
  | resolved _ actions quiet =>
      dsimp only at done
      cases completing : (session.resolvedKey key).isCompleting with
      | false =>
          rw [session.type_eq] at done
          exact collected_of_passed (.typed key) completing (session.resolvedKey key).promote
            (Key.isCompleting_promote _) done
      | true =>
          rw [Key.promote_of_isCompleting completing,
            type_of_not_isTyped (Key.isTyped_of_isCompleting completing)] at done
          simp only [bne_self_eq_false, Bool.false_or, completing, if_true] at done
          cases validated : session.validateIf session.reading.isNone with
          | error fault =>
              rw [validated] at done
              cases done
          | ok pair =>
              rcases pair with ⟨read, shown⟩
              rw [validated] at done
              exact .completed completing read (read_of_validateIf validated) (actions ++ shown)
                outcome done

end CaptureSession
end ContestExchange
