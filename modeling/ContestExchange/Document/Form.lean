import ContestExchange.Document.Value
import ContestExchange.Fault

namespace ContestExchange

/-!
# The form of documents

In what language the text of a document is written is no matter of the station.  It reads and writes
documents in a form that it is given, which also tells how deep a value may lie inside of others to be
written out as a text.
-/

/-- How documents are read and written, and how deep a value that is written out may be nested. -/
structure DocumentForm where
  read : Text → Except Fault Value
  write : Value → Text
  depth : Nat

end ContestExchange
