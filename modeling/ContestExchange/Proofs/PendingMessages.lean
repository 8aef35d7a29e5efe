import ContestExchange.Morse.Playback
import Mathlib.Data.List.Forall2

namespace ContestExchange

/-!
# Which messages wait, and which are played

Without its limit an outbox would hold every message since it was last emptied, behind a mark if it
was emptied by closing it.  The limit cuts that row off: what comes when the row is full is refused,
so the messages that wait are the first ones of the row.  Each order keeps that, and so do all of them
together.

The playing takes the row from its front, one entry in each turn, up to the mark.  Since it looks
first whether it was stopped, and no order takes a stop back, a closed outbox is never played from.
-/

namespace Outbox

/-! ## Orders -/

/-- What can be asked of an outbox. -/
inductive Order where
  | send (message : Text)
  | silence
  | close
deriving DecidableEq

/-- Carries an order out. -/
def obey (outbox : Outbox) : Order → Outbox
  | .send message => outbox.send message
  | .silence => outbox.silence
  | .close => outbox.close

/-- Carries orders out, one after the other. -/
def obeyAll (outbox : Outbox) (orders : List Order) : Outbox := orders.foldl obey outbox

/-- What is in a row without a limit after an order: blank messages are not put in, both other
orders empty it, and closing leaves a mark. -/
def Order.enter (entries : List (Option Text)) : Order → List (Option Text)
  | .send message => if Text.isAllBlank message then entries else entries ++ [some message]
  | .silence => []
  | .close => [none]

/-- What was put in since the last order that emptied the row. -/
def Order.entries (orders : List Order) : List (Option Text) := orders.foldl Order.enter []

section Obey

variable {outbox : Outbox} {entries : List (Option Text)}

theorem pending_put (first : outbox.pending = entries.take capacity) (entry : Option Text) :
    (outbox.put entry).pending = (entries ++ [entry]).take capacity := by
  have count : outbox.pending.length = min capacity entries.length := by
    rw [first, List.length_take]
  unfold put isFull
  by_cases full : capacity ≤ entries.length
  · rw [count, Nat.min_eq_left full, if_pos (decide_eq_true (Nat.le_refl capacity)), first]
    exact (List.take_append_of_le_length full).symm
  · have room : entries.length < capacity := Nat.lt_of_not_le full
    have notFull : ¬ decide (capacity ≤ outbox.pending.length) = true := by
      rw [count, decide_eq_true_eq]
      omega
    have fits : (entries ++ [entry]).length ≤ capacity := by
      rw [List.length_append, List.length_singleton]
      exact room
    rw [if_neg notFull, List.take_of_length_le fits]
    exact congrArg (· ++ [entry]) (first.trans (List.take_of_length_le (Nat.le_of_lt room)))

/-- An order keeps the waiting entries the first ones of the row without a limit. -/
theorem pending_obey (first : outbox.pending = entries.take capacity) (order : Order) :
    (outbox.obey order).pending = (order.enter entries).take capacity := by
  cases order with
  | silence => rfl
  | close => rfl
  | send message =>
      rw [obey, send, Order.enter]
      by_cases blank : Text.isAllBlank message = true
      · rw [if_pos blank, if_pos blank]
        exact first
      · rw [if_neg blank, if_neg blank]
        exact pending_put first (some message)

theorem pending_obeyAll (first : outbox.pending = entries.take capacity) (orders : List Order) :
    (outbox.obeyAll orders).pending = (orders.foldl Order.enter entries).take capacity := by
  induction orders generalizing outbox entries with
  | nil => exact first
  | cons order rest inductionHypothesis => exact inductionHypothesis (pending_obey first order)

theorem isStopped_put (entry : Option Text) : (outbox.put entry).isStopped = outbox.isStopped := by
  unfold put
  split <;> rfl

theorem isStopped_obey (order : Order) :
    (outbox.obey order).isStopped = (outbox.isStopped || order == .close) := by
  cases order with
  | silence => exact (Bool.or_false _).symm
  | close =>
      rw [obey, close, isStopped_put, beq_self_eq_true, Bool.or_true]
      rfl
  | send message =>
      have another : (Order.send message == Order.close) = false :=
        beq_false_of_ne Order.noConfusion
      rw [obey, send, another, Bool.or_false]
      split
      · rfl
      · exact isStopped_put _

theorem isStopped_obeyAll (orders : List Order) :
    (outbox.obeyAll orders).isStopped = (outbox.isStopped || orders.contains .close) := by
  induction orders generalizing outbox with
  | nil => exact (Bool.or_false _).symm
  | cons order rest inductionHypothesis =>
      have later := @inductionHypothesis (outbox.obey order)
      rw [isStopped_obey, Bool.or_assoc] at later
      rw [List.contains_cons, Bool.beq_comm]
      exact later

end Obey

/-! ## What is due -/

/-- The messages that wait before the first mark, as long as the keying was not stopped. -/
def due (outbox : Outbox) : List Text :=
  if outbox.isStopped then [] else (outbox.pending.takeWhile Option.isSome).filterMap id

theorem due_of_pending {outbox : Outbox} {message : Text} {rest : List (Option Text)}
    (goesOn : outbox.isStopped = false) (waits : outbox.pending = some message :: rest) :
    outbox.due = message :: { outbox with pending := rest }.due := by
  have notStopped : ¬ outbox.isStopped = true := Bool.eq_false_iff.mp goesOn
  rw [due, due, if_neg notStopped, if_neg notStopped, waits]
  rfl

theorem pending_of_due {outbox : Outbox} {message : Text} {later : List Text}
    (messages : outbox.due = message :: later) :
    outbox.isStopped = false ∧ ∃ rest, outbox.pending = some message :: rest := by
  unfold due at messages
  split at messages
  · cases messages
  · rename_i goesOn
    refine ⟨Bool.eq_false_iff.mpr goesOn, ?_⟩
    match waits : outbox.pending with
    | [] | none :: _ =>
        rw [waits] at messages
        cases messages
    | some first :: rest =>
        rw [waits] at messages
        cases messages
        exact ⟨rest, rfl⟩

/-- Running keys what is due. -/
theorem run_fst (outbox : Outbox) : outbox.run.1 = outbox.due := by
  have messages (pending : List (Option Text)) :
      (untilMark pending).1 = (pending.takeWhile Option.isSome).filterMap id := by
    induction pending with
    | nil => rfl
    | cons entry rest inductionHypothesis =>
        cases entry with
        | none => rfl
        | some message => exact congrArg (message :: ·) inductionHypothesis
  unfold run due
  split
  · rfl
  · exact messages outbox.pending

end Outbox

namespace Playback

/-! ## Turns -/

/-- Whether an attempt plays a message on a device, rendered with a sidetone in the memory there is. -/
structure Plays (sidetone : Sidetone) (memory : Memory) (device : Option Int) (attempt : Attempt)
    (message : Text) : Prop where
  rendered : sidetone.render memory message = .ok attempt.sound.samples
  sampleRate : attempt.sound.sampleRate = sidetone.sampleRate
  device : attempt.sound.device = device

/-- Whether attempts play messages one by one; there are none without a speaker. -/
def HasPlayed (playback : Playback) (attempts : List Attempt) (messages : List Text) : Prop :=
  match playback.speaker with
  | none => attempts = []
  | some _ =>
      List.Forall₂ (Plays playback.sidetone playback.memory playback.device) attempts messages

/-- Whether a message is rendered, as far as it has to be. -/
def Renders (playback : Playback) (message : Text) : Prop :=
  playback.speaker.isSome = true →
    ∃ samples, playback.sidetone.render playback.memory message = .ok samples

section Turns

variable {playback : Playback}

theorem hasPlayed_nil (playback : Playback) : playback.HasPlayed [] [] := by
  unfold HasPlayed
  cases playback.speaker with
  | none => rfl
  | some speaker => exact .nil

/-- Turns that change nothing go on changing nothing. -/
theorem turns_of_turn_eq (same : playback.turn = playback) (count : Nat) :
    playback.turns count = playback := by
  induction count with
  | zero => rfl
  | succ count inductionHypothesis => rw [turns, same, inductionHypothesis]

theorem turns_of_ended (ended : playback.stage = .ended) (count : Nat) :
    playback.turns count = playback :=
  turns_of_turn_eq (by rw [turn, ended]) count

theorem turn_of_stopped (working : playback.stage = .working)
    (stopped : playback.outbox.isStopped = true) :
    playback.turn = { playback with stage := .ended } := by
  rw [turn, working]
  exact if_pos stopped

theorem turn_of_going (working : playback.stage = .working)
    (goesOn : playback.outbox.isStopped = false) : playback.turn = playback.next := by
  rw [turn, working]
  exact if_neg (Bool.eq_false_iff.mp goesOn)

/-- What the playing is after a turn that took a message. -/
structure HasTaken (playback : Playback) (message : Text) (after : Playback) : Prop where
  working : after.stage = .working
  outbox : after.outbox = { playback.outbox with pending := playback.outbox.pending.tail }
  due : playback.outbox.due = message :: after.outbox.due
  renders : ∀ other, playback.Renders other → after.Renders other
  attempts : ∃ attempts, after.attempts = playback.attempts ++ attempts ∧
    ∀ later messages, after.HasPlayed later messages →
      playback.HasPlayed (attempts ++ later) (message :: messages)

theorem HasTaken.renders_due {after : Playback} {message : Text}
    (taken : HasTaken playback message after)
    (renders : ∀ other ∈ playback.outbox.due, playback.Renders other) :
    ∀ other ∈ after.outbox.due, after.Renders other := by
  intro other member
  apply taken.renders other
  apply renders other
  rw [taken.due]
  exact List.mem_cons_of_mem message member

/-- A turn takes one message and attempts to play it, whether or not the speaker manages to. -/
theorem hasTaken_turn {message : Text} {rest : List (Option Text)}
    (working : playback.stage = .working) (goesOn : playback.outbox.isStopped = false)
    (waits : playback.outbox.pending = some message :: rest) (renders : playback.Renders message) :
    HasTaken playback message playback.turn := by
  have taken : playback.turn = (playback.withPending rest).key message := by
    rw [turn_of_going working goesOn, next, waits]
  have shorter : (playback.withPending rest).outbox =
      { playback.outbox with pending := playback.outbox.pending.tail } := by
    rw [waits]
    rfl
  have due : playback.outbox.due = message :: (playback.withPending rest).outbox.due :=
    Outbox.due_of_pending goesOn waits
  rw [taken, key]
  cases heard : playback.speaker with
  | none =>
      have silent : (playback.withPending rest).speaker = none := heard
      rw [silent]
      refine ⟨working, shorter, due, fun other same => same, [], ?_, ?_⟩
      · exact (List.append_nil _).symm
      · intro later messages nothing
        unfold HasPlayed at nothing ⊢
        rw [silent] at nothing
        rw [heard]
        exact nothing
  | some speaker =>
      have loud : (playback.withPending rest).speaker = some speaker := heard
      rcases renders (Option.isSome_of_eq_some heard) with ⟨samples, rendered⟩
      have renderedHere : (playback.withPending rest).sidetone.render
          (playback.withPending rest).memory message = .ok samples := rendered
      rw [loud]
      dsimp only
      rw [renderedHere]
      refine ⟨working, shorter, due, fun other same => same, [_], rfl, ?_⟩
      intro later messages played
      have sameSpeaker : ((playback.withPending rest).play speaker samples).speaker = some speaker :=
        heard
      unfold HasPlayed at played ⊢
      rw [sameSpeaker] at played
      rw [heard]
      exact .cons ⟨rendered, rfl, rfl⟩ played

/-- Where nothing is due no number of turns plays anything: they wait, or the first one is the last. -/
theorem attempts_turns_of_due_nil (working : playback.stage = .working)
    (nothing : playback.outbox.due = []) (count : Nat) :
    (playback.turns count).attempts = playback.attempts := by
  cases stopped : playback.outbox.isStopped with
  | true =>
      cases count with
      | zero => rfl
      | succ count => rw [turns, turn_of_stopped working stopped, turns_of_ended rfl]
  | false =>
      have taken := turn_of_going working stopped
      rw [Outbox.due, if_neg (Bool.eq_false_iff.mp stopped)] at nothing
      cases waits : playback.outbox.pending with
      | nil =>
          rw [turns_of_turn_eq (by rw [taken, next, waits])]
      | cons entry rest =>
          cases entry with
          | some message =>
              rw [waits] at nothing
              cases nothing
          | none =>
              have last : playback.turn = { playback.withPending rest with stage := .ended } := by
                rw [taken, next, waits]
              cases count with
              | zero => rfl
              | succ count =>
                  rw [turns, last, turns_of_ended rfl]
                  rfl

/-- However many turns there are, they play the messages that are due, one in each turn. -/
theorem attempts_turns (working : playback.stage = .working)
    (renders : ∀ message ∈ playback.outbox.due, playback.Renders message) (count : Nat) :
    ∃ attempts, (playback.turns count).attempts = playback.attempts ++ attempts ∧
      playback.HasPlayed attempts (playback.outbox.due.take count) := by
  induction count generalizing playback with
  | zero => exact ⟨[], (List.append_nil _).symm, playback.hasPlayed_nil⟩
  | succ count inductionHypothesis =>
      cases messages : playback.outbox.due with
      | nil =>
          rw [attempts_turns_of_due_nil working messages, List.take_nil]
          exact ⟨[], (List.append_nil _).symm, playback.hasPlayed_nil⟩
      | cons message later =>
          rcases Outbox.pending_of_due messages with ⟨goesOn, rest, waits⟩
          have first := renders message (messages ▸ List.mem_cons_self)
          have taken := hasTaken_turn working goesOn waits first
          rcases taken.attempts with ⟨attempts, here, played⟩
          rcases inductionHypothesis taken.working (taken.renders_due renders) with
            ⟨more, there, playedMore⟩
          have next : playback.turn.outbox.due = later :=
            List.tail_eq_of_cons_eq (taken.due.symm.trans messages)
          rw [next] at playedMore
          refine ⟨attempts ++ more, ?_, played more _ playedMore⟩
          rw [turns, there, here, List.append_assoc]

/-- Enough turns leave in the outbox what running it leaves there. -/
theorem outbox_turns (working : playback.stage = .working)
    (renders : ∀ message ∈ playback.outbox.due, playback.Renders message) {count : Nat}
    (enough : playback.outbox.pending.length < count) :
    (playback.turns count).outbox = playback.outbox.run.2 := by
  induction count generalizing playback with
  | zero => exact absurd enough (Nat.not_lt_zero _)
  | succ count inductionHypothesis =>
      rw [turns]
      cases stopped : playback.outbox.isStopped with
      | true =>
          rw [turn_of_stopped working stopped, turns_of_ended rfl, Outbox.run, if_pos stopped]
      | false =>
          have taken := turn_of_going working stopped
          have goesOn : ¬ playback.outbox.isStopped = true := Bool.eq_false_iff.mp stopped
          rw [Outbox.run, if_neg goesOn]
          match waits : playback.outbox.pending with
          | [] =>
              have idle : playback.turn = playback := by rw [taken, next, waits]
              rw [idle, turns_of_turn_eq idle, Outbox.untilMark, ← waits]
          | none :: rest =>
              rw [taken, next, waits, turns_of_ended rfl]
              rfl
          | some message :: rest =>
              have messages := Outbox.due_of_pending stopped waits
              have first := renders message (messages ▸ List.mem_cons_self)
              have taken := hasTaken_turn working stopped waits first
              have next : playback.turn.outbox = { playback.outbox with pending := rest } := by
                rw [taken.outbox, waits]
                rfl
              have shorter : playback.turn.outbox.pending.length < count := by
                rw [waits, List.length_cons] at enough
                rw [next]
                exact Nat.lt_of_succ_lt_succ enough
              rw [inductionHypothesis taken.working (taken.renders_due renders) shorter, next,
                Outbox.run, if_neg goesOn]
              rfl

end Turns

/-! ## Closing -/

/-- What can happen to the playing and to what waits for it. -/
inductive Event where
  | order (order : Outbox.Order)
  | resume
  | turn

/-- The playing after an event. -/
def handle (playback : Playback) : Event → Playback
  | .order order => { playback with outbox := playback.outbox.obey order }
  | .resume => playback.resume
  | .turn => playback.turn

/-- The playing after events, one after the other. -/
def handleAll (playback : Playback) (events : List Event) : Playback := events.foldl handle playback

section Closing

variable {playback : Playback}

/-- Once it was stopped, playing stays so, and no event plays anything. -/
theorem handle_of_isStopped (stopped : playback.outbox.isStopped = true) (event : Event) :
    (playback.handle event).outbox.isStopped = true ∧
      (playback.handle event).attempts = playback.attempts := by
  cases event with
  | order order =>
      refine ⟨?_, rfl⟩
      show (playback.outbox.obey order).isStopped = true
      rw [Outbox.isStopped_obey, stopped, Bool.true_or]
  | resume => exact ⟨stopped, rfl⟩
  | turn =>
      rw [handle, turn]
      split
      · rw [if_pos stopped]
        exact ⟨stopped, rfl⟩
      · exact ⟨stopped, rfl⟩
      · exact ⟨stopped, rfl⟩

theorem attempts_of_isStopped (stopped : playback.outbox.isStopped = true) (events : List Event) :
    (playback.handleAll events).attempts = playback.attempts := by
  induction events generalizing playback with
  | nil => rfl
  | cons event rest inductionHypothesis =>
      rcases handle_of_isStopped stopped event with ⟨stays, same⟩
      exact (inductionHypothesis stays).trans same

end Closing

/-- The messages that wait are the first ones, as many as there is room for, of those put in since the
outbox was last emptied, in order and behind a mark if closing it was what emptied it.  Playing hands
the speaker those of them that wait before the first mark, each once and in order, whether or not the
speaker manages to play them, and leaves behind what running the outbox leaves.  Once the outbox is
closed nothing is ever played again. -/
theorem plays_first_entries (orders : List Outbox.Order) :
    (({} : Outbox).obeyAll orders).pending =
        (Outbox.Order.entries orders).take Outbox.capacity ∧
      (({} : Outbox).obeyAll orders).isStopped = orders.contains .close ∧
      ∀ playback : Playback, playback.stage = .working →
        ((∀ message ∈ playback.outbox.due, playback.Renders message) →
          (∀ count, ∃ attempts, (playback.turns count).attempts = playback.attempts ++ attempts ∧
            playback.HasPlayed attempts (playback.outbox.due.take count)) ∧
          ∀ count, playback.outbox.pending.length < count →
            (playback.turns count).outbox = playback.outbox.run.2) ∧
        ∀ events, ((playback.handle (.order .close)).handleAll events).attempts =
          playback.attempts := by
  refine ⟨Outbox.pending_obeyAll rfl orders, Outbox.isStopped_obeyAll orders, ?_⟩
  intro playback working
  constructor
  · intro renders
    exact ⟨attempts_turns working renders, fun count enough => outbox_turns working renders enough⟩
  · intro events
    exact attempts_of_isStopped (Outbox.isStopped_put none) events

/-- Two messages and a blank one before a speaker that plays nothing: both messages are handed over. -/
theorem plays_first_entries_of_failing_speaker :
    ∃ playback : Playback,
      playback.outbox = ({} : Outbox).obeyAll [.send ['E'], .send [' '], .send ['T']] ∧
      ∃ attempts, (playback.turns 3).attempts = attempts ∧
        attempts.map Attempt.isHeard = [false, false] ∧
        playback.HasPlayed attempts [['E'], ['T']] ∧
        (playback.turns 3).outbox = playback.outbox.run.2 := by
  let orders : List Outbox.Order := [.send ['E'], .send [' '], .send ['T']]
  let playback : Playback :=
    { memory := ⟨fun _ => .ok ()⟩
      speaker := some ⟨fun _ _ => false⟩
      outbox := ({} : Outbox).obeyAll orders }
  have rendered : ∀ message ∈ playback.outbox.due, playback.Renders message := by
    intro message member _
    have listed : message ∈ [['E'], ['T']] := member
    rcases List.mem_cons.mp listed with same | listed
    · rw [same]
      exact ⟨_, rfl⟩
    · rw [List.mem_singleton.mp listed]
      exact ⟨_, rfl⟩
  have run := ((plays_first_entries orders).2.2 playback rfl).1 rendered
  rcases run.1 3 with ⟨attempts, same, played⟩
  refine ⟨playback, rfl, attempts, same, ?_, played, run.2 3 (by decide)⟩
  rw [List.nil_append] at same
  rw [← same]
  rfl

end Playback
end ContestExchange
