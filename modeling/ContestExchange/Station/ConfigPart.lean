import ContestExchange.Document.Value
import ContestExchange.Fault

namespace ContestExchange

/-!
# Parts of a configuration

A document gives the settings of a part one after the other, and a later one comes before an earlier
one of the same name.  Three kinds of names are no settings.  Some cannot be given at all.  Under
another all settings can be given at once: they take the place of the earlier ones.  And a part can
be given a list of settings that are written when the configuration is saved.
-/

/-- What is written of a part when the configuration is saved: all settings, no setting, or nothing at
all because the list of settings cannot be used. -/
inductive Listing where
  | full
  | empty
  | unusable
deriving DecidableEq, Repr

/-- The settings that a document gives for a part. -/
structure ConfigPart where
  settings : List (Value × Value) := []
  isWhole : Bool := false

namespace ConfigPart

/-! ## Names -/

/-- The names that cannot be given, with the fault of giving them. -/
def refused : List (Text × Fault) :=
  [(Text.ofString "__class__", .wrongKind), (Text.ofString "__weakref__", .withoutParts)]

/-- The name under which all settings are given at once. -/
def wholeName : Text := Text.ofString "__dict__"

/-- The name under which the settings to be written are listed. -/
def listingName : Text := Text.ofString "__dataclass_fields__"

/-- The settings without a standard value that all parts share. -/
def ownNames : List Text := [Text.ofString "messages"]

/-! ## Looking settings up -/

/-- The value of a setting, if it is given. -/
def find? (part : ConfigPart) (name : Text) : Option Value := Value.lookup? part.settings name

/-- The value of a setting, or its standard value. -/
def setting (part : ConfigPart) (name : String) (standard : Value) : Value :=
  (part.find? (Text.ofString name)).getD standard

/-- Whether a part does not know a setting, which then can be neither looked up nor given: one of
its own, when all settings were given at once and it was not among them. -/
def lacks (part : ConfigPart) (name : Text) : Bool :=
  part.isWhole && ownNames.contains name && (part.find? name).isNone

/-- The value of a setting that a part need not know. -/
def ownSetting (part : ConfigPart) (name : String) (standard : Value) : Except Fault Value :=
  if part.lacks (Text.ofString name) then .error .withoutParts
  else .ok (part.setting name standard)

/-- What is written of a part.  There is nothing in a document that could stand in a list of
settings, so only the empty list can be used. -/
def listing (part : ConfigPart) : Listing :=
  match part.find? listingName with
  | none => .full
  | some (.mapping []) => .empty
  | some _ => .unusable

/-! ## Reading -/

/-- Gives a setting. -/
def give (part : ConfigPart) (name : Text) (value : Value) : Except Fault ConfigPart :=
  match refused.find? fun entry => entry.1 == name with
  | some (_, fault) => .error fault
  | none =>
      if name == wholeName then
        match value with
        | .mapping settings => .ok ⟨settings, true⟩
        | _ => .error .wrongKind
      else if part.lacks name then .ok part
      else .ok { part with settings := (.text name, value) :: part.settings }

/-- Gives settings in order; their names are texts. -/
def giveAll (part : ConfigPart) : List (Value × Value) → Except Fault ConfigPart
  | [] => .ok part
  | (.text name, value) :: rest => do (← part.give name value).giveAll rest
  | _ :: _ => .error .wrongKind

/-- A part of a document. -/
def ofDocument (document : List (Value × Value)) (name : String) : Except Fault ConfigPart :=
  match Value.lookup? document (Text.ofString name) with
  | none => .ok {}
  | some (.mapping settings) => giveAll {} settings
  | some _ => .error .withoutParts

end ConfigPart
end ContestExchange
