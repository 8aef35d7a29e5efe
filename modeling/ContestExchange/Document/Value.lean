import ContestExchange.Document.Moment

namespace ContestExchange

/-!
# Document values

Rules, templates and the station's configuration are documents: nested lists and mappings of plain
values.  Where a setting is not converted when it is loaded, the document's own value is kept, so
that saving it writes back what was read.  Such a value then counts as on or off by `isSet`.

Beside numbers, texts, lists and mappings there are moments, bytes, sets and pairs.  A mapping keeps
its entries in the order of the document, and a set has its members in the order in which they are gone
through.  What a document names in two places is told twice here, so a value that is part of itself is
left out.  Writing a document keeps all of these apart but for pairs, which become lists.
-/

/-- A value of a parsed document. -/
inductive Value where
  | null
  | bool (flag : Bool)
  | int (number : Int)
  | double (number : Double)
  | text (content : Text)
  | moment (moment : Moment)
  | bytes (content : List UInt8)
  | list (items : List Value)
  | set (members : List Value)
  | pair (first second : Value)
  | mapping (entries : List (Value × Value))
deriving Inhabited

namespace Value

/-- A text value spelled by a string. -/
def ofString (source : String) : Value := .text (Text.ofString source)

/-- A mapping with texts as keys. -/
def fields (entries : List (String × Value)) : Value :=
  .mapping (entries.map fun entry => (ofString entry.1, entry.2))

/-- Whether a value counts as on: everything but no value, false, zero and what is empty. -/
def isSet : Value → Bool
  | .null => false
  | .bool flag => flag
  | .int number => number != 0
  | .double number => !number.isZero
  | .text content => !content.isEmpty
  | .bytes content => !content.isEmpty
  | .list items => !items.isEmpty
  | .set members => !members.isEmpty
  | .mapping entries => !entries.isEmpty
  | .moment _ | .pair _ _ => true

mutual

/-- A value as it is read again after it was written. -/
def asWritten : Value → Value
  | .list items => .list (itemsAsWritten items)
  | .set members => .set (itemsAsWritten members)
  | .pair first second => .list [asWritten first, asWritten second]
  | .mapping entries => .mapping (entriesAsWritten entries)
  | value => value

/-- Some values as they are read again. -/
def itemsAsWritten : List Value → List Value
  | [] => []
  | item :: rest => asWritten item :: itemsAsWritten rest

/-- Some entries as they are read again. -/
def entriesAsWritten : List (Value × Value) → List (Value × Value)
  | [] => []
  | (key, value) :: rest => (asWritten key, asWritten value) :: entriesAsWritten rest

end

/-- The value of a text key among the entries of a mapping. -/
def lookup? (entries : List (Value × Value)) (key : Text) : Option Value :=
  (entries.find? fun entry =>
    match entry.1 with
    | .text content => content == key
    | _ => false).map (·.2)

end Value
end ContestExchange
