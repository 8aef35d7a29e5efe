import ContestExchange.Fault

namespace ContestExchange

/-!
# Quantities

A quantity is written with a fraction or without.  Without one it is exact, however large it is, and
it is rounded only where it meets a double.  An integer beyond all doubles cannot be rounded, so
what would need that has no result.
-/

/-- A number, exact if it was written without a fraction. -/
inductive Quantity where
  | whole (number : Int)
  | double (number : Double)
deriving DecidableEq

/-- A finite double, as any integer has to come from one. -/
def Double.finite (number : Double) : Except Fault Double :=
  if number.isNaN then .error .unreadableNumber
  else if number.isInfinite then .error .tooLarge
  else .ok number

namespace Quantity

/-- The nearest double. -/
def toDouble : Quantity → Except Fault Double
  | .whole number =>
      match Double.ofInt? number with
      | some nearest => .ok nearest
      | none => .error .tooLarge
  | .double number => .ok number

/-- The product, exact if both factors are. -/
def times : Quantity → Quantity → Except Fault Quantity
  | .whole left, .whole right => .ok (.whole (left * right))
  | left, right => return .double ((← left.toDouble).mul (← right.toDouble))

/-- A quantity brought between zero and one; what is not a number stays that. -/
def toUnit : Quantity → Double
  | .whole number => .ofInt (max 0 (min number 1))
  | .double number => Double.least (Double.greatest number .zero) (.ofInt 1)

/-- A quantity brought to one at least; what is not a number stays that. -/
def atLeastOne : Quantity → Quantity
  | .whole number => .whole (max 1 number)
  | .double number => if Double.lt number (.ofInt 1) then .whole 1 else .double number

/-- Whether a quantity is not above an integer; what is not a number is above all. -/
def isAtMost (quantity : Quantity) (bound : Int) : Bool :=
  match quantity with
  | .whole number => number ≤ bound
  | .double number => !number.isNaN && !Double.lt (.ofInt bound) number

end Quantity
end ContestExchange
