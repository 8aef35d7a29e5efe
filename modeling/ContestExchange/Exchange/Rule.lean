import ContestExchange.Exchange.Serial

namespace ContestExchange

/-!
# Contest rules

A rule says what a contest exchanges and how the exchange field behaves.  In a rule document a
switch may be any value, and that value is kept, so a rule is a structure over the kind of its
switches: truth values for capturing an exchange, document values for showing what was loaded.
-/

/-- What a contest exchanges, and so how an exchange is read. -/
inductive Strategy where
  | none
  | serial
  | serialSection
  | sectionAlone
  | sectionOnce
  | dxSection
  | zone
  | grid
  | sweepstakes
deriving DecidableEq, Repr

namespace Strategy

/-- The name of a strategy in a rule document. -/
def name : Strategy → Text
  | .none => Text.ofString "none"
  | .serial => Text.ofString "serial"
  | .serialSection => Text.ofString "serial_section"
  | .sectionAlone => Text.ofString "section"
  | .sectionOnce => Text.ofString "section_once"
  | .dxSection => Text.ofString "dx_section"
  | .zone => Text.ofString "zone"
  | .grid => Text.ofString "grid"
  | .sweepstakes => Text.ofString "arrl_ss"

/-- All strategies. -/
def all : List Strategy :=
  [.none, .serial, .serialSection, .sectionAlone, .sectionOnce, .dxSection, .zone, .grid,
   .sweepstakes]

/-- The strategy of a name. -/
def named? (name : Text) : Option Strategy := all.find? fun strategy => strategy.name == name

/-- Whether the exchange is read again after every change. -/
def isLive : Strategy → Bool
  | .none | .serial => false
  | _ => true

/-- Whether an exchange is incomplete without a section. -/
def requiresSection : Strategy → Bool
  | .serialSection | .sectionAlone => true
  | _ => false

end Strategy

/-- Which zone of a contact an exchange starts with. -/
inductive ZonePrefill where
  | none
  | cq
  | itu
deriving DecidableEq, Repr

namespace ZonePrefill

/-- The name of a zone in a rule document. -/
def name : ZonePrefill → Text
  | .none => Text.ofString "none"
  | .cq => Text.ofString "cq"
  | .itu => Text.ofString "itu"

/-- All choices of a zone. -/
def all : List ZonePrefill := [.none, .cq, .itu]

/-- The zone of a name. -/
def named? (name : Text) : Option ZonePrefill := all.find? fun zone => zone.name == name

end ZonePrefill

/-- The rule of a contest, over a kind of switches. -/
structure RuleOf (Switch : Type) where
  name : Text
  strategy : Strategy
  width : Int
  recallExchange : Switch
  padding : Padding
  padForeignOnly : Switch
  serialOrSection : Switch
  locatorCheck : Switch
  zonePrefill : ZonePrefill
  continentPrefill : Switch
  stateProvinceCountries : List Text
  isContest : Switch

/-- A rule as capturing an exchange uses it. -/
abbrev Rule := RuleOf Bool

namespace RuleOf

variable {Switch Other : Type}

/-- The same rule over another kind of switches. -/
def map (convert : Switch → Other) (rule : RuleOf Switch) : RuleOf Other :=
  { name := rule.name
    strategy := rule.strategy
    width := rule.width
    recallExchange := convert rule.recallExchange
    padding := rule.padding
    padForeignOnly := convert rule.padForeignOnly
    serialOrSection := convert rule.serialOrSection
    locatorCheck := convert rule.locatorCheck
    zonePrefill := rule.zonePrefill
    continentPrefill := convert rule.continentPrefill
    stateProvinceCountries := rule.stateProvinceCountries
    isContest := convert rule.isContest }

/-- Whether the exchange is read again after every change. -/
def isLive (rule : RuleOf Switch) : Bool := rule.strategy.isLive

/-- Whether an exchange is incomplete without a section. -/
def requiresSection (rule : RuleOf Switch) : Bool := rule.strategy.requiresSection

end RuleOf

namespace Rule

/-- The rule that a name has before anything is defined about it. -/
def blank (name : Text) : Rule :=
  { name := name
    strategy := .none
    width := 24
    recallExchange := false
    padding := .none
    padForeignOnly := false
    serialOrSection := false
    locatorCheck := true
    zonePrefill := .none
    continentPrefill := false
    stateProvinceCountries := [Text.ofString "K", Text.ofString "VE"]
    isContest := true }

/-- A rule with a name, a strategy and a width, and otherwise as before anything is defined. -/
def basic (name : String) (strategy : Strategy) (width : Int) : Rule :=
  { blank (Text.ofString name) with strategy := strategy, width := width }

/-- The name of the rule for everything that is no contest. -/
def generalName : Text := Text.ofString "GENERAL"

/-- The built-in rules. -/
def builtIn : List Rule :=
  [{ basic "GENERAL" .none 24 with isContest := false },
   basic "QSO" .none 24,
   basic "DXPED" .none 24,
   { basic "CQWW" .zone 12 with zonePrefill := .cq },
   { basic "WAZ" .zone 12 with zonePrefill := .cq },
   { basic "IARU" .zone 12 with zonePrefill := .itu },
   { basic "WPX" .serial 12 with padding := .wpx },
   { basic "SPRINT" .serial 24 with padding := .compressed },
   { basic "PACC" .serial 12 with padding := .length, padForeignOnly := true },
   basic "ARRL_SS" .sweepstakes 24,
   { basic "ARRL_FD" .sectionAlone 12 with recallExchange := true },
   { basic "ARRLDX_USA" .dxSection 12 with recallExchange := true },
   { basic "NAQP" .sectionOnce 16 with recallExchange := true },
   { basic "SERIAL_SECTION" .serialSection 16 with padding := .length },
   { basic "EUSPRINT" .serialSection 16 with padding := .length, serialOrSection := true },
   { basic "STEWPERRY" .grid 8 with recallExchange := true },
   { basic "SERIAL_GRID4" .grid 12 with locatorCheck := false }]

end Rule
end ContestExchange
