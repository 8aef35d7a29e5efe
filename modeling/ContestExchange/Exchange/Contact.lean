import ContestExchange.Text.Capital

namespace ContestExchange

/-!
# The station being worked

What is known about a contact before its exchange arrives: its call, where it is, and whether its
country is divided into sections.  Zones are kept as typed; names of places are kept in capitals.
-/

/-- The station being worked. -/
structure Contact where
  call : Text := []
  cqZone : Text := []
  ituZone : Text := []
  continent : Text := []
  country : Text := []
  countryHasSections : Bool := false
  foreign : Bool := true
deriving DecidableEq

namespace Contact

/-- Enters what an operator typed: the call, the two zones, the continent and the country.  What is
not given becomes empty, and further words are ignored. -/
def enter (contact : Contact) (words : List Text) : Contact :=
  let word (place : Nat) : Text := (words[place]?).getD []
  { contact with
    call := Text.upper (word 0)
    cqZone := word 1
    ituZone := word 2
    continent := Text.upper (word 3)
    country := Text.upper (word 4) }

end Contact
end ContestExchange
