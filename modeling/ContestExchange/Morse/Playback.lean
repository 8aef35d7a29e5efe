import ContestExchange.Morse.Outbox
import ContestExchange.Morse.Sidetone

namespace ContestExchange

/-!
# Playing what waits

Messages are played in turns.  Each turn first looks whether the playing was stopped, and then takes
the next entry out of the outbox: the mark ends the playing, a message is rendered and handed to the
speaker.  As long as nothing waits a turn changes nothing.

Without a speaker messages are taken all the same, but not rendered.  A speaker may fail, and then the
message is lost and the playing goes on.  A message that cannot be rendered ends it.
-/

/-- A sound that is handed to a speaker. -/
structure Sound where
  samples : Samples
  sampleRate : Quantity
  device : Option Int

/-- An attempt to play a sound. -/
structure Attempt where
  sound : Sound
  isHeard : Bool

/-- What plays sounds, or fails to, after the attempts made before. -/
structure Speaker where
  plays : List Attempt → Sound → Bool

/-- How far the playing has come. -/
inductive Playback.Stage where
  | working
  | ended
  | failed (fault : Fault)

/-- The playing of messages. -/
structure Playback where
  sidetone : Sidetone := {}
  device : Option Int := none
  memory : Memory
  speaker : Option Speaker
  outbox : Outbox := {}
  attempts : List Attempt := []
  stage : Playback.Stage := .working

namespace Playback

/-- Hands a sound to a speaker.  Whether it gets played makes no difference to what follows. -/
def play (playback : Playback) (speaker : Speaker) (samples : Samples) : Playback :=
  let sound : Sound := ⟨samples, playback.sidetone.sampleRate, playback.device⟩
  { playback with
    attempts := playback.attempts ++ [⟨sound, speaker.plays playback.attempts sound⟩] }

/-- Renders and plays a message. -/
def key (playback : Playback) (message : Text) : Playback :=
  match playback.speaker with
  | none => playback
  | some speaker =>
      match playback.sidetone.render playback.memory message with
      | .error fault => { playback with stage := .failed fault }
      | .ok samples => playback.play speaker samples

/-- The playing with other entries in the outbox. -/
def withPending (playback : Playback) (pending : List (Option Text)) : Playback :=
  { playback with outbox := { playback.outbox with pending := pending } }

/-- Takes the next entry out of the outbox. -/
def next (playback : Playback) : Playback :=
  match playback.outbox.pending with
  | [] => playback
  | none :: rest => { playback.withPending rest with stage := .ended }
  | some message :: rest => (playback.withPending rest).key message

/-- A turn of the playing; there are no more once it has ended or failed. -/
def turn (playback : Playback) : Playback :=
  match playback.stage with
  | .working => if playback.outbox.isStopped then { playback with stage := .ended } else playback.next
  | .ended | .failed _ => playback

/-- A number of turns. -/
def turns (playback : Playback) : Nat → Playback
  | 0 => playback
  | count + 1 => playback.turn.turns count

/-- Sets out to play again. -/
def resume (playback : Playback) : Playback := { playback with stage := .working }

end Playback
end ContestExchange
