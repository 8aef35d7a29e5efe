import ContestExchange.Capture.Session

namespace ContestExchange

/-!
# Running a capture

A capture is run over the keys that arrive.  Each time it looks for a key there may be none yet;
then only the clock goes on.  Every other key is stepped, and the actions of its transition are
performed before the next key is looked for.  The capture ends with the first final state, and keys
behind it stay unread; if the keys end first, it is aborted.

The surroundings of a capture are whatever performs its actions.  They are a value like any other,
handed from one event to the next.
-/

/-- What a capture needs of its surroundings: the last exchange of a call, the actions of a transition
performed for the contact as it then stands, and what goes on while there may be no key. -/
structure Surroundings (World : Type) where
  remembered : World → Text → World × Text
  perform : World → Contact → List Action → World
  await : World → World
  tick : World → World
  tickTerminal : World → World

/-- Where a capture left off, with the polls that were not looked at.  There is a session at its end
unless reading the exchange failed. -/
structure CaptureOutcome (World : Type) where
  world : World
  unread : List (Option Key)
  session : Except Fault CaptureSession

namespace Capture

variable {World : Type}

/-- Lets everything go on that has to while there may be no key. -/
def goOn (around : Surroundings World) (mode : Mode) (world : World) : World :=
  let ticked := around.tick world
  if mode = .digi then around.tickTerminal ticked else ticked

/-- Steps a started session through the keys. -/
def follow (around : Surroundings World) (world : World) (session : CaptureSession) :
    List (Option Key) → CaptureOutcome World
  | [] => ⟨around.await world, [], .ok session.abort.1⟩
  | arrived :: rest =>
      let world := goOn around session.settings.mode (around.await world)
      match arrived with
      | none => follow around world session rest
      | some key =>
          match session.step key with
          | .error fault => ⟨world, rest, .error fault⟩
          | .ok (session, transition) =>
              let world := around.perform world session.contact transition.actions
              if transition.isFinal then ⟨world, rest, .ok session⟩
              else follow around world session rest

/-- Keys are read from the front, so no more are left than there were. -/
theorem length_unread_follow (around : Surroundings World) (world : World)
    (session : CaptureSession) (keys : List (Option Key)) :
    (follow around world session keys).unread.length ≤ keys.length := by
  induction keys generalizing world session with
  | nil => simp [follow]
  | cons arrived rest hypothesis =>
      simp only [follow, List.length_cons]
      split
      · exact Nat.le_succ_of_le (hypothesis _ _)
      · split
        · simp
        · split
          · simp
          · exact Nat.le_succ_of_le (hypothesis _ _)

/-- The exchange brought back for a capture: asked for only where the contest recalls exchanges
and there is nothing else to start with. -/
def recalled (around : Surroundings World) (world : World) (session : CaptureSession)
    (prefill : Text) : World × Text :=
  if session.rule.recallExchange && prefill.isEmpty then
    around.remembered world session.contact.call
  else (world, [])

/-- Runs a capture over the keys that arrive. -/
def run (around : Surroundings World) (world : World) (session : CaptureSession)
    (prefill : Text) (keys : List (Option Key)) : CaptureOutcome World :=
  let (world, brought) := recalled around world session prefill
  match session.start prefill brought with
  | .error fault => ⟨world, keys, .error fault⟩
  | .ok (session, transition) =>
      follow around (around.perform world session.contact transition.actions) session keys

/-- A capture leaves no more keys than there were. -/
theorem length_unread_run (around : Surroundings World) (world : World)
    (session : CaptureSession) (prefill : Text) (keys : List (Option Key)) :
    (run around world session prefill keys).unread.length ≤ keys.length := by
  simp only [run]
  split
  · exact Nat.le_refl _
  · exact length_unread_follow ..

end Capture
end ContestExchange
