import ContestExchange.Text.Basic

namespace ContestExchange

/-!
# What an exchange says

The result of reading an exchange.  Every part is a text and stays empty when the exchange does not
give it; reading a part wrongly typed is no failure.  The previews are shown beside the exchange
while it is being typed and play no further role.
-/

/-- A field shown while an exchange is being typed: its name and its text. -/
abbrev Preview := Text × Text

/-- What was read out of an exchange. -/
structure Extraction where
  normalized : Text := []
  multiplier : Text := []
  place : Text := []
  serial : Text := []
  correction : Text := []
  previews : List Preview := []
deriving DecidableEq

namespace Extraction

/-- The same reading with nothing to show. -/
def silent (extraction : Extraction) : Extraction := { extraction with previews := [] }

/-- The same reading, with one field to show while the exchange is being typed. -/
def showing (typing : Bool) (name : String) (text : Text) (extraction : Extraction) : Extraction :=
  if typing then { extraction with previews := [(Text.ofString name, text)] } else extraction

/-- Only the fields to show depend on typing. -/
theorem showing_eq (typing : Bool) (name : String) (text : Text) (extraction : Extraction) :
    showing typing name text extraction =
      { extraction with
        previews := if typing then [(Text.ofString name, text)] else extraction.previews } := by
  cases typing with
  | false => rfl
  | true => rfl

end Extraction
end ContestExchange
