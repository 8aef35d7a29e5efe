import ContestExchange.Fault
import ContestExchange.Text.Blank

namespace ContestExchange

/-!
# Messages waiting to be keyed

Messages are keyed one after the other, so they wait in an outbox.  It has a limited number of
places, and what finds no place is not sent.  Keying goes on until it meets the mark that ends it;
closing the outbox drops everything, leaves that mark and stops the keying for good.  Keying that goes
on in the background is not started twice, and it cannot be started again once it was stopped.

What is being played at the time is cut off as well when the outbox is emptied.  That is a matter of the
speaker, which is left out here.
-/

/-- The messages that wait; an entry without a text is the mark that ends the keying. -/
structure Outbox where
  pending : List (Option Text) := []
  isStopped : Bool := false
  isStarted : Bool := false

namespace Outbox

/-- The number of places. -/
def capacity : Nat := 32

/-- Whether every place is taken. -/
def isFull (outbox : Outbox) : Bool := capacity ≤ outbox.pending.length

/-- Puts an entry at the end, if there is a place. -/
def put (outbox : Outbox) (entry : Option Text) : Outbox :=
  if outbox.isFull then outbox else { outbox with pending := outbox.pending ++ [entry] }

/-- Sends a message; a blank one is nothing to send. -/
def send (outbox : Outbox) (message : Text) : Outbox :=
  if Text.isAllBlank message then outbox else outbox.put (some message)

/-- Drops everything that waits. -/
def silence (outbox : Outbox) : Outbox := { outbox with pending := [] }

/-- Drops everything and stops the keying. -/
def close (outbox : Outbox) : Outbox := { outbox with isStopped := true }.silence.put none

/-- Starts the keying in the background. -/
def start (outbox : Outbox) : Except Fault Outbox :=
  if outbox.isStarted && outbox.isStopped then .error .startedBefore
  else .ok { outbox with isStarted := true }

/-- Puts the mark that ends the keying, for which there has to be a place. -/
def mark (outbox : Outbox) : Except Fault Outbox :=
  if outbox.isFull then .error .queueFull else .ok (outbox.put none)

/-- The messages up to the mark, and what waits behind it. -/
def untilMark : List (Option Text) → List Text × List (Option Text)
  | [] => ([], [])
  | none :: rest => ([], rest)
  | some message :: rest => (message :: (untilMark rest).1, (untilMark rest).2)

/-- Keys what waits up to the mark, unless the keying has been stopped. -/
def run (outbox : Outbox) : List Text × Outbox :=
  if outbox.isStopped then ([], outbox)
  else ((untilMark outbox.pending).1, { outbox with pending := (untilMark outbox.pending).2 })

end Outbox
end ContestExchange
