import ContestExchange.Capture.Session
import ContestExchange.Document.Value

namespace ContestExchange

/-!
# Captures as documents

A finished capture is exported as its record: what was captured, what was read out of it, and every
note by its level, its state and its message.
-/

/-- A note as a document. -/
def LogEntry.toDocument (entry : LogEntry) : Value :=
  .list [.text entry.note.level, .text entry.state.name, .text entry.note.message]

namespace CaptureSession

/-- The record of a capture as a document. -/
def toDocument (session : CaptureSession) : Value :=
  Value.fields
    [("state", .text session.state.name),
     ("contest", .text session.rule.name),
     ("call", .text session.contact.call),
     ("exchange", .text session.buffer.text),
     ("normalized", .text session.latestReading.normalized),
     ("multiplier", .text session.latestReading.multiplier),
     ("logs", .list (session.log.map LogEntry.toDocument))]

/-- The records of the captures in a contest as a document. -/
def exportDocument (contest : Text) (sessions : List CaptureSession) : Value :=
  Value.fields
    [("contest", .text contest), ("sessions", .list (sessions.map toDocument))]

end CaptureSession
end ContestExchange
