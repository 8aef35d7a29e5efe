import ContestExchange.Exchange.Placement
import ContestExchange.Exchange.Serial
import ContestExchange.Exchange.Template

namespace ContestExchange
namespace Extraction

/-!
# The serial number of an exchange

An exchange usually starts with the serial number.  Every serial template that is found behind it
overrides the number with the one that starts at the template's first figure, unless that is zero.
-/

/-- The place in the text where the number under a template starts. -/
def numberPlace (offset : Nat) (template : Template) : Nat :=
  (textIndex offset ((template.findIdx? (· == .figure)).getD 0)).toNat

/-- The number after one more template. -/
def serialUnder (text : Text) (line : List Symbol) (serial : Nat) (template : Template) :
    Except Fault Nat :=
  match locate line template with
  | none => .ok serial
  | some offset =>
      match Serial.leadingNumber (text.drop (numberPlace offset template)) with
      | .error fault => .error fault
      | .ok number => .ok (if number = 0 then serial else number)

/-- The number after all the templates, one after the other. -/
def serialFrom (text : Text) (line : List Symbol) : Nat → List Template → Except Fault Nat
  | serial, [] => .ok serial
  | serial, template :: rest =>
      match serialUnder text line serial template with
      | .error fault => .error fault
      | .ok serial => serialFrom text line serial rest

/-- The serial number of an exchange. -/
def findSerial (templates : List Template) (text : Text) (line : List Symbol) :
    Except Fault Nat :=
  match Serial.leadingNumber text with
  | .error fault => .error fault
  | .ok serial => serialFrom text line serial templates

end Extraction
end ContestExchange
