namespace ContestExchange

/-!
# Double precision numbers

Levels, intervals and durations are binary floating point numbers of 64 bits.  A number is kept by
its sign and by the remaining 63 bits read as a natural number.  For numbers of one sign the order
of these naturals is the order of the values, with infinity above every finite magnitude and the
magnitudes above infinity not being numbers.

Arithmetic is stated on exact fractions: an operation computes the exact result and rounds it once,
to the nearest representable value and to the even one of two that are equally near.  No statement
about these numbers therefore depends on the machine's arithmetic.
-/

/-- A double precision number: its sign bit, and the bits below it as a natural number. -/
structure Double where
  negative : Bool
  magnitude : Nat
deriving DecidableEq, Repr

namespace Double

/-- The number of magnitudes that share an exponent. -/
def binade : Nat := Nat.pow 2 52

/-- The magnitude of infinity: the least one that is not finite. -/
def infiniteMagnitude : Nat := 2047 * binade

/-- The value that is not a number. -/
def notANumber : Double := ⟨false, 2047 * binade + Nat.pow 2 51⟩

/-- Zero without a sign. -/
def zero : Double := ⟨false, 0⟩

/-- Whether the value is not a number. -/
def isNaN (value : Double) : Bool := infiniteMagnitude < value.magnitude

/-- Whether the value is an infinity. -/
def isInfinite (value : Double) : Bool := value.magnitude == infiniteMagnitude

/-- Whether the value is a zero of either sign. -/
def isZero (value : Double) : Bool := value.magnitude == 0

/-- The integer that a finite value scales by a power of two. -/
def mantissa (value : Double) : Nat :=
  if value.magnitude < binade then value.magnitude else binade + value.magnitude % binade

/-- The power of two that scales the mantissa of a finite value. -/
def exponent (value : Double) : Int :=
  if value.magnitude < binade then -1074 else (value.magnitude / binade : Nat) - 1075

/-- The numerator of a finite value without its sign. -/
def numerator (value : Double) : Nat := value.mantissa * Nat.pow 2 value.exponent.toNat

/-- The denominator of a finite value, a power of two. -/
def denominator (value : Double) : Nat := Nat.pow 2 (-value.exponent).toNat

/-- The integer nearest to a fraction; a half goes to the even neighbour. -/
def roundQuotient (numerator denominator : Nat) : Nat :=
  let quotient := numerator / denominator
  let remainder := numerator % denominator
  if 2 * remainder > denominator ∨ (2 * remainder = denominator ∧ quotient % 2 = 1) then
    quotient + 1
  else
    quotient

/-- A fraction divided by a power of two, again as a fraction. -/
def scaled (numerator denominator : Nat) (power : Int) : Nat × Nat :=
  (numerator * Nat.pow 2 (-power).toNat, denominator * Nat.pow 2 power.toNat)

/-- The power of two at which a positive fraction has a mantissa of at most 53 bits. -/
def powerFor (numerator denominator : Nat) : Int :=
  let estimate : Int := max ((Nat.log2 numerator : Int) - Nat.log2 denominator - 53) (-1074)
  let (top, bottom) := scaled numerator denominator estimate
  if top / bottom < 2 * binade then estimate else estimate + 1

/-- The magnitude nearest to a positive fraction.  A mantissa that is rounded up to the next power
of two carries into the exponent by itself, because magnitudes are consecutive. -/
def nearestMagnitude (numerator denominator : Nat) : Nat :=
  let power := powerFor numerator denominator
  let (top, bottom) := scaled numerator denominator power
  min infiniteMagnitude ((power + 1074).toNat * binade + roundQuotient top bottom)

/-- The double nearest to a fraction; a zero numerator gives a zero of the given sign. -/
def ofRatio (negative : Bool) (numerator denominator : Nat) : Double :=
  if numerator = 0 then ⟨negative, 0⟩ else ⟨negative, nearestMagnitude numerator denominator⟩

/-- The double nearest to an integer. -/
def ofInt (value : Int) : Double := ofRatio (value < 0) value.natAbs 1

/-- The double nearest to an integer, unless the integer lies beyond all finite doubles. -/
def ofInt? (value : Int) : Option Double :=
  let nearest := ofInt value
  if nearest.isInfinite then none else some nearest

/-- The product, rounded once. -/
def mul (left right : Double) : Double :=
  let negative := left.negative != right.negative
  if left.isNaN || right.isNaN then notANumber
  else if left.isInfinite || right.isInfinite then
    if left.isZero || right.isZero then notANumber else ⟨negative, infiniteMagnitude⟩
  else
    ofRatio negative (left.numerator * right.numerator) (left.denominator * right.denominator)

/-- The quotient by a number other than zero, rounded once. -/
def div (left right : Double) : Double :=
  let negative := left.negative != right.negative
  if left.isNaN || right.isNaN then notANumber
  else if left.isInfinite then
    if right.isInfinite then notANumber else ⟨negative, infiniteMagnitude⟩
  else if right.isInfinite then ⟨negative, 0⟩
  else
    ofRatio negative (left.numerator * right.denominator) (left.denominator * right.numerator)

/-- The place of a number in the order of all numbers; both zeros have the same place. -/
def rank (value : Double) : Int :=
  if value.negative then -(value.magnitude : Int) else value.magnitude

/-- Strictly less; false as soon as one side is not a number. -/
def lt (left right : Double) : Bool :=
  !left.isNaN && !right.isNaN && left.rank < right.rank

/-- The second number if it is less than the first, otherwise the first. -/
def least (first second : Double) : Double := if lt second first then second else first

/-- The second number if it is greater than the first, otherwise the first. -/
def greatest (first second : Double) : Double := if lt first second then second else first

/-- The integer part of a finite number, cut off toward zero. -/
def truncate (value : Double) : Int :=
  let whole : Int := value.numerator / value.denominator
  if value.negative then -whole else whole

/-- The integer nearest to a finite number; a half goes to the even neighbour. -/
def roundToInt (value : Double) : Int :=
  let whole : Int := roundQuotient value.numerator value.denominator
  if value.negative then -whole else whole

/-- The 64 bits as a natural number, one value standing for all that are not numbers. -/
def bits (value : Double) : Nat :=
  if value.isNaN then notANumber.magnitude
  else (if value.negative then Nat.pow 2 63 else 0) + value.magnitude

/-- The machine number with the same bits. -/
def toFloat (value : Double) : Float := Float.ofBits (UInt64.ofNat value.bits)

end Double
end ContestExchange
