import ContestExchange.Exchange.Grid
import ContestExchange.Exchange.Rule
import ContestExchange.Extraction.Call
import ContestExchange.Extraction.SectionCode
import ContestExchange.Extraction.SerialNumber
import ContestExchange.Extraction.Sweepstakes

namespace ContestExchange

/-!
# Reading an exchange

An extractor joins what a contest exchanges with the tables that it is looked up in.  Reading never
depends on anything but the text; it can fail only where a serial number is scanned that spells no
number.
-/

/-- How exchanges are read. -/
structure Extractor where
  strategy : Strategy
  locatorCheck : Bool
  table : MultiplierTable
  templates : TemplateSet

namespace Extractor

/-- The extractor of a rule. -/
def ofRule (rule : Rule) (table : MultiplierTable) (templates : TemplateSet) : Extractor :=
  ⟨rule.strategy, rule.locatorCheck, table, templates⟩

/-- The call retyped into an exchange. -/
def correction (extractor : Extractor) (text : Text) : Text :=
  Extraction.scanCall extractor.templates.callsigns text (classify text)

/-- The section of an exchange by the lookup of the strategy. -/
def sectionCode (extractor : Extractor) (text : Text) : Text :=
  match extractor.strategy with
  | .serialSection =>
      Extraction.findSection extractor.table.firstLeading? extractor.templates.sections text
        (classify text)
  | .sectionAlone | .sectionOnce =>
      Extraction.findSection extractor.table.closest? extractor.templates.genericSections text
        (classify text)
  | .dxSection => Extraction.stateCode extractor.table text
  | _ => []

/-- Reads a serial number. -/
def readSerial (extractor : Extractor) (text : Text) : Except Fault Extraction :=
  match Extraction.findSerial extractor.templates.serials text (classify text) with
  | .error fault => .error fault
  | .ok number =>
      .ok { normalized := Serial.normalText number
            serial := Serial.columnText number
            correction := extractor.correction text }

/-- Reads a section, with the number before it when there is one. -/
def readSection (extractor : Extractor) (typing : Bool) (number : Option Nat) (text : Text) :
    Extraction :=
  let code := extractor.sectionCode text
  let normalNumber := Serial.normalText (number.getD 0)
  let normalized :=
    if normalNumber.isEmpty then code
    else if code.isEmpty then normalNumber
    else normalNumber ++ ' ' :: code
  Extraction.showing typing "section" code
    { normalized := normalized
      multiplier := code
      place := code
      serial := match number with
        | some number => Serial.columnText number
        | none => []
      correction := extractor.correction text }

/-- Reads a serial number and a section. -/
def readSerialSection (extractor : Extractor) (typing : Bool) (text : Text) :
    Except Fault Extraction :=
  match Extraction.findSerial extractor.templates.serials text (classify text) with
  | .error fault => .error fault
  | .ok number => .ok (extractor.readSection typing (some number) text)

/-- Reads a grid square. -/
def readGrid (extractor : Extractor) (typing : Bool) (text : Text) : Extraction :=
  let square := Grid.candidate text
  Extraction.showing typing "grid" square
    { normalized := square
      multiplier := square
      place := square
      correction := extractor.correction text }

/-- Reads an exchange; `typing` asks for the fields to show while it is being typed. -/
def extract (extractor : Extractor) (typing : Bool) (text : Text) : Except Fault Extraction :=
  match extractor.strategy with
  | .none => .ok {}
  | .serial => extractor.readSerial text
  | .serialSection => extractor.readSerialSection typing text
  | .sectionAlone | .sectionOnce | .dxSection => .ok (extractor.readSection typing none text)
  | .zone => .ok (Extraction.ofZoneExchange typing text)
  | .grid => .ok (extractor.readGrid typing text)
  | .sweepstakes => .ok (Extraction.ofSweepstakes extractor.table typing text)

/-- Whether a reading has everything that the contest asks for. -/
def isComplete (extractor : Extractor) (extraction : Extraction) : Bool :=
  match extractor.strategy with
  | .none | .serial | .zone => true
  | .serialSection | .sectionAlone | .sectionOnce | .dxSection => !extraction.place.isEmpty
  | .grid => !extractor.locatorCheck || Grid.isSquare extraction.place
  | .sweepstakes => 2 ≤ extraction.place.length

end Extractor
end ContestExchange
