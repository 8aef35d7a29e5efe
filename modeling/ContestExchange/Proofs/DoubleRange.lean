import ContestExchange.Number.Quantity
import Mathlib.Algebra.Group.Nat.Defs
import Mathlib.Order.MinMax

namespace ContestExchange
namespace Double

/-!
# The range of the doubles

A positive fraction is rounded at the power of two at which its mantissa has 53 bits, or at the least
power if it is too small for that.  The rounded mantissa may be the next power of two, so what is too
large for a double depends on the rounding as well: it is not the largest finite double that matters
but the number half a step above it, which is rounded to the even side and so to infinity.

From this number on an integer has no double, and nothing below it is lost to infinity.  In
particular a finite double stays finite when it is divided by a number that is not below one.
-/

/-! ## Rounding to an integer -/

/-- A fraction reaches an integer as soon as it is less than half below it.  From exactly half below
it reaches the integer only if that is even. -/
theorem le_roundQuotient_iff {numerator denominator bound : Nat} (positive : 0 < denominator) :
    bound ≤ roundQuotient numerator denominator ↔
      2 * (bound * denominator) < 2 * numerator + denominator ∨
        bound % 2 = 0 ∧ 2 * (bound * denominator) = 2 * numerator + denominator := by
  have whole := Nat.div_add_mod' numerator denominator
  have rest := Nat.mod_lt numerator positive
  unfold roundQuotient
  generalize numerator / denominator = quotient at whole ⊢
  generalize numerator % denominator = remainder at whole rest ⊢
  dsimp only
  have step := Nat.add_one_mul quotient denominator
  -- Only the integer next above the quotient depends on the remainder.
  rcases Nat.lt_trichotomy bound (quotient + 1) with below | next | above
  · have lower := Nat.mul_le_mul_right denominator (Nat.le_of_lt_succ below)
    split <;> omega
  · rw [next]
    split <;> omega
  · have after : quotient + 1 + 1 ≤ bound := above
    have upper := Nat.mul_le_mul_right denominator after
    have further := Nat.add_one_mul (quotient + 1) denominator
    split <;> omega

theorem le_roundQuotient_of_mul_le {numerator denominator bound : Nat}
    (positive : 0 < denominator) (reached : bound * denominator ≤ numerator) :
    bound ≤ roundQuotient numerator denominator :=
  (le_roundQuotient_iff positive).mpr (Or.inl (by omega))

theorem roundQuotient_le_of_lt_mul {numerator denominator bound : Nat}
    (positive : 0 < denominator) (below : numerator < bound * denominator) :
    roundQuotient numerator denominator ≤ bound := by
  apply Nat.le_of_not_lt
  intro above
  have next : bound + 1 ≤ roundQuotient numerator denominator := above
  have reached := (le_roundQuotient_iff positive).mp next
  have step := Nat.add_one_mul bound denominator
  omega

/-! ## The power of two of a fraction -/

section Power

variable {numerator denominator width : Nat} {power : Int}

theorem scaled_snd_pos (positive : 0 < denominator) (numerator : Nat) (power : Int) :
    0 < (scaled numerator denominator power).2 :=
  Nat.mul_pos positive (Nat.two_pow_pos power.toNat)

theorem scaled_natCast (numerator denominator power : Nat) :
    scaled numerator denominator power = (numerator, denominator * 2 ^ power) := by
  have none : (-(power : Int)).toNat = 0 := by omega
  rw [scaled, none, Int.toNat_natCast]
  exact Prod.ext (Nat.mul_one numerator) rfl

/-- A power of two is taken from the numerator or given to the denominator, as its sign has it. -/
theorem scaled_lt_of_bits {numeratorBits denominatorBits : Nat}
    (below : numerator < 2 ^ numeratorBits) (above : 2 ^ denominatorBits ≤ denominator)
    (fits : (numeratorBits : Int) ≤ denominatorBits + width + power) :
    (scaled numerator denominator power).1 <
      2 ^ width * (scaled numerator denominator power).2 := by
  have bits : numeratorBits + (-power).toNat ≤ width + (denominatorBits + power.toNat) := by omega
  calc
    numerator * 2 ^ (-power).toNat < 2 ^ numeratorBits * 2 ^ (-power).toNat :=
      Nat.mul_lt_mul_of_pos_right below (Nat.two_pow_pos _)
    _ ≤ 2 ^ width * (2 ^ denominatorBits * 2 ^ power.toNat) := by
      rw [← Nat.pow_add, ← Nat.pow_add, ← Nat.pow_add]
      exact Nat.pow_le_pow_right (by decide) bits
    _ ≤ 2 ^ width * (denominator * 2 ^ power.toNat) :=
      Nat.mul_le_mul_left _ (Nat.mul_le_mul_right _ above)

theorem le_scaled_of_bits {numeratorBits denominatorBits : Nat}
    (above : 2 ^ numeratorBits ≤ numerator) (below : denominator ≤ 2 ^ denominatorBits)
    (fits : (denominatorBits : Int) + width + power ≤ numeratorBits) :
    2 ^ width * (scaled numerator denominator power).2 ≤
      (scaled numerator denominator power).1 := by
  have bits : width + (denominatorBits + power.toNat) ≤ numeratorBits + (-power).toNat := by omega
  calc
    2 ^ width * (denominator * 2 ^ power.toNat) ≤
        2 ^ width * (2 ^ denominatorBits * 2 ^ power.toNat) :=
      Nat.mul_le_mul_left _ (Nat.mul_le_mul_right _ below)
    _ ≤ 2 ^ numeratorBits * 2 ^ (-power).toNat := by
      rw [← Nat.pow_add, ← Nat.pow_add, ← Nat.pow_add]
      exact Nat.pow_le_pow_right (by decide) bits
    _ ≤ numerator * 2 ^ (-power).toNat := Nat.mul_le_mul_right _ above

/-- The next power of two halves the numerator or doubles the denominator. -/
theorem le_scaled_succ
    (above : 2 ^ (width + 1) * (scaled numerator denominator power).2 ≤
      (scaled numerator denominator power).1) :
    2 ^ width * (scaled numerator denominator (power + 1)).2 ≤
      (scaled numerator denominator (power + 1)).1 := by
  have above : 2 ^ (width + 1) * (denominator * 2 ^ power.toNat) ≤
      numerator * 2 ^ (-power).toNat := above
  change 2 ^ width * (denominator * 2 ^ (power + 1).toNat) ≤
    numerator * 2 ^ (-(power + 1)).toNat
  rw [Nat.pow_succ] at above
  by_cases whole : 0 ≤ power
  · have raised : (power + 1).toNat = power.toNat + 1 := by omega
    have clear : (-(power + 1)).toNat = (-power).toNat := by omega
    rw [raised, clear, Nat.pow_succ]
    calc
      2 ^ width * (denominator * (2 ^ power.toNat * 2)) =
          2 ^ width * 2 * (denominator * 2 ^ power.toNat) := by ac_rfl
      _ ≤ numerator * 2 ^ (-power).toNat := above
  · have lowered : (-power).toNat = (-(power + 1)).toNat + 1 := by omega
    have clear : (power + 1).toNat = power.toNat := by omega
    rw [lowered, Nat.pow_succ] at above
    rw [clear]
    apply Nat.le_of_mul_le_mul_left _ (Nat.two_pos)
    calc
      2 * (2 ^ width * (denominator * 2 ^ power.toNat)) =
          2 ^ width * 2 * (denominator * 2 ^ power.toNat) := by ac_rfl
      _ ≤ numerator * (2 ^ (-(power + 1)).toNat * 2) := above
      _ = 2 * (numerator * 2 ^ (-(power + 1)).toNat) := by ac_rfl

end Power

/-- Whether a fraction has a mantissa of at most 53 bits at a power of two, and no shorter one unless
the power is the least. -/
structure HasMantissa (numerator denominator : Nat) (power : Int) : Prop where
  least : -1074 ≤ power
  short : (scaled numerator denominator power).1 <
    2 ^ 53 * (scaled numerator denominator power).2
  full : power = -1074 ∨
    2 ^ 52 * (scaled numerator denominator power).2 ≤ (scaled numerator denominator power).1

theorem hasMantissa_powerFor {numerator denominator : Nat} (present : 0 < numerator)
    (positive : 0 < denominator) :
    HasMantissa numerator denominator (powerFor numerator denominator) := by
  have numeratorAbove := Nat.log2_self_le (Nat.ne_of_gt present)
  have numeratorBelow := @Nat.lt_log2_self numerator
  have denominatorAbove := Nat.log2_self_le (Nat.ne_of_gt positive)
  have denominatorBelow := Nat.le_of_lt (@Nat.lt_log2_self denominator)
  unfold powerFor
  generalize numerator.log2 = top at numeratorAbove numeratorBelow ⊢
  generalize denominator.log2 = bottom at denominatorAbove denominatorBelow ⊢
  generalize estimated : max ((top : Int) - bottom - 53) (-1074) = estimate
  have size := scaled_snd_pos positive numerator estimate
  dsimp only
  split
  · rename_i quotientShort
    refine ⟨by omega, (Nat.div_lt_iff_lt_mul size).mp quotientShort, ?_⟩
    by_cases least : estimate = -1074
    · exact Or.inl least
    · exact Or.inr (le_scaled_of_bits numeratorAbove denominatorBelow (by omega))
  · rename_i quotientLong
    have long : ¬ (scaled numerator denominator estimate).1 <
        2 ^ 53 * (scaled numerator denominator estimate).2 :=
      mt (Nat.div_lt_iff_lt_mul size).mpr quotientLong
    -- An estimate that was raised to the least power makes the mantissa short.
    have plain : estimate = (top : Int) - bottom - 53 := by
      apply Classical.byContradiction
      intro raised
      exact long (scaled_lt_of_bits numeratorBelow denominatorAbove (by omega))
    refine ⟨by omega, ?_, Or.inr (le_scaled_succ (Nat.le_of_not_lt long))⟩
    exact scaled_lt_of_bits numeratorBelow denominatorAbove (by omega)

namespace HasMantissa

variable {numerator denominator : Nat}

theorem numerator_lt {power : Int} (mantissa : HasMantissa numerator denominator power)
    {height : Nat} (low : power ≤ height) : numerator < 2 ^ 53 * (denominator * 2 ^ height) := calc
  numerator ≤ numerator * 2 ^ (-power).toNat := Nat.le_mul_of_pos_right _ (Nat.two_pow_pos _)
  _ < 2 ^ 53 * (denominator * 2 ^ power.toNat) := mantissa.short
  _ ≤ 2 ^ 53 * (denominator * 2 ^ height) :=
    Nat.mul_le_mul_left _ (Nat.mul_le_mul_left _ (Nat.pow_le_pow_right (by decide) (by omega)))

theorem le_numerator {height : Nat} (mantissa : HasMantissa numerator denominator height) :
    2 ^ 52 * (denominator * 2 ^ height) ≤ numerator := by
  have full := mantissa.full.resolve_left (by omega)
  rw [scaled_natCast] at full
  exact full

end HasMantissa

/-! ## What is too large -/

/-- The power of two of half the step between the largest finite doubles. -/
def halfStep : Nat := 970

/-- The least number that is rounded to infinity: half a step above the largest finite double. -/
def leastInfinite : Nat := (2 ^ 54 - 1) * 2 ^ halfStep

theorem leastInfinite_pos : 0 < leastInfinite :=
  Nat.mul_pos (by decide) (Nat.two_pow_pos halfStep)

theorem leastInfinite_mul (denominator : Nat) :
    leastInfinite * denominator = (2 ^ 54 - 1) * (denominator * 2 ^ halfStep) := by
  rw [leastInfinite, Nat.mul_assoc, Nat.mul_comm (2 ^ halfStep)]

theorem nearestMagnitude_eq_infiniteMagnitude_iff {numerator denominator : Nat}
    (present : 0 < numerator) (positive : 0 < denominator) :
    nearestMagnitude numerator denominator = infiniteMagnitude ↔
      leastInfinite * denominator ≤ numerator := by
  have mantissa := hasMantissa_powerFor present positive
  unfold nearestMagnitude
  generalize powerFor numerator denominator = power at mantissa ⊢
  have size := scaled_snd_pos positive numerator power
  have rounded := roundQuotient_le_of_lt_mul size mantissa.short
  have unit : 0 < denominator * 2 ^ halfStep := Nat.mul_pos positive (Nat.two_pow_pos halfStep)
  have place : halfStep = 970 := rfl
  dsimp only
  rw [min_eq_left_iff, leastInfinite_mul, show binade = 2 ^ 52 from rfl,
    show infiniteMagnitude = 2047 * 2 ^ 52 from rfl]
  rcases Int.lt_or_le power (halfStep + 1) with low | high
  · have below := mantissa.numerator_lt (Int.le_of_lt_add_one low)
    omega
  · rcases Int.eq_ofNat_of_zero_le (show 0 ≤ power by omega) with ⟨height, same⟩
    rw [same] at mantissa
    rw [same, scaled_natCast] at size rounded ⊢
    dsimp only at size rounded ⊢
    have above := mantissa.le_numerator
    by_cases highest : height = halfStep + 1
    · -- At the highest power it is the carry of the rounded mantissa that decides.
      have carries : 2 ^ 53 ≤ roundQuotient numerator (denominator * 2 ^ height) ↔ _ :=
        le_roundQuotient_iff size
      have doubled : denominator * 2 ^ height = denominator * 2 ^ halfStep * 2 := by
        rw [highest, Nat.pow_succ, Nat.mul_assoc]
      rw [doubled] at carries rounded ⊢
      omega
    · have raised : denominator * 2 ^ (halfStep + 2) ≤ denominator * 2 ^ height :=
        Nat.mul_le_mul_left _ (Nat.pow_le_pow_right (by decide) (by omega))
      rw [Nat.pow_add, ← Nat.mul_assoc] at raised
      have reached := le_roundQuotient_of_mul_le size above
      omega

theorem isInfinite_ofRatio_iff {numerator denominator : Nat} (positive : 0 < denominator)
    (negative : Bool) :
    (ofRatio negative numerator denominator).isInfinite = true ↔
      leastInfinite * denominator ≤ numerator := by
  rw [isInfinite, beq_iff_eq, ofRatio]
  by_cases none : numerator = 0
  · have large := Nat.mul_pos leastInfinite_pos positive
    rw [if_pos none, none]
    exact iff_of_false (by decide : ¬0 = infiniteMagnitude) (Nat.not_le_of_gt large)
  · rw [if_neg none]
    exact nearestMagnitude_eq_infiniteMagnitude_iff (Nat.pos_of_ne_zero none) positive

theorem not_isNaN_ofRatio (negative : Bool) (numerator denominator : Nat) :
    (ofRatio negative numerator denominator).isNaN = false := by
  rw [isNaN, decide_eq_false_iff_not, Nat.not_lt, ofRatio]
  split
  · exact Nat.zero_le infiniteMagnitude
  · exact Nat.min_le_left _ _

/-! ## Integers -/

theorem isInfinite_ofInt_iff (value : Int) :
    (ofInt value).isInfinite = true ↔ leastInfinite ≤ value.natAbs := by
  rw [← Nat.mul_one leastInfinite]
  exact isInfinite_ofRatio_iff Nat.one_pos _

/-- An integer has a double exactly if it lies below the least number that is rounded to infinity,
whatever its sign. -/
theorem ofInt?_eq_some_iff {value : Int} {nearest : Double} :
    ofInt? value = some nearest ↔ nearest = ofInt value ∧ value.natAbs < leastInfinite := by
  rw [← Nat.not_le, ← isInfinite_ofInt_iff, ofInt?]
  split
  · rename_i infinite
    exact iff_of_false nofun fun given => given.2 infinite
  · rename_i finite
    rw [Option.some.injEq]
    exact ⟨fun same => ⟨same.symm, finite⟩, fun given => given.1.symm⟩

/-- Only zero is rounded to zero. -/
theorem isZero_ofInt_iff (value : Int) : (ofInt value).isZero = true ↔ value = 0 := by
  rw [isZero, beq_iff_eq, ofInt, ofRatio]
  by_cases none : value.natAbs = 0
  · rw [if_pos none]
    exact iff_of_true rfl (Int.natAbs_eq_zero.mp none)
  · rw [if_neg none]
    refine iff_of_false ?_ (mt Int.natAbs_eq_zero.mpr none)
    have present := Nat.pos_of_ne_zero none
    have mantissa := hasMantissa_powerFor present Nat.one_pos
    unfold nearestMagnitude
    generalize powerFor value.natAbs 1 = power at mantissa ⊢
    have full : 2 ^ 0 * (scaled value.natAbs 1 power).2 ≤ (scaled value.natAbs 1 power).1 := by
      rcases mantissa.full with least | full
      · have bits : 2 ^ 0 ≤ value.natAbs := present
        exact le_scaled_of_bits bits (Nat.le_refl (2 ^ 0)) (by omega)
      · omega
    have reached := le_roundQuotient_of_mul_le (scaled_snd_pos Nat.one_pos _ _) full
    have large : 0 < infiniteMagnitude := by decide
    dsimp only
    omega

/-! ## Finite doubles -/

/-- Whether a double is a number and not an infinity. -/
def IsFinite (value : Double) : Prop := value.magnitude < infiniteMagnitude

instance (value : Double) : Decidable value.IsFinite :=
  inferInstanceAs (Decidable (value.magnitude < infiniteMagnitude))

namespace IsFinite

variable {value left right : Double}

theorem not_isNaN (finite : value.IsFinite) : value.isNaN = false :=
  decide_eq_false (Nat.not_lt_of_gt finite)

theorem not_isInfinite (finite : value.IsFinite) : value.isInfinite = false :=
  beq_eq_false_iff_ne.mpr (Nat.ne_of_lt finite)

theorem of_not (isNumber : value.isNaN = false) (bounded : value.isInfinite = false) :
    value.IsFinite :=
  Nat.lt_of_le_of_ne (Nat.le_of_not_lt (of_decide_eq_false isNumber))
    (beq_eq_false_iff_ne.mp bounded)

end IsFinite

theorem finite_eq_ok_iff {value found : Double} :
    value.finite = .ok found ↔ value.IsFinite ∧ found = value := by
  rw [Double.finite]
  split
  · rename_i unread
    exact iff_of_false nofun fun given => ne_true_of_eq_false given.1.not_isNaN unread
  · rename_i isNumber
    split
    · rename_i infinite
      exact iff_of_false nofun fun given => ne_true_of_eq_false given.1.not_isInfinite infinite
    · rename_i bounded
      have finite := IsFinite.of_not (eq_false_of_ne_true isNumber) (eq_false_of_ne_true bounded)
      exact ⟨fun same => ⟨finite, (Except.ok.inj same).symm⟩,
        fun given => congrArg Except.ok given.2.symm⟩

theorem isFinite_ofInt_iff (value : Int) :
    (ofInt value).IsFinite ↔ value.natAbs < leastInfinite := by
  rw [← Nat.not_le, ← isInfinite_ofInt_iff]
  constructor
  · intro finite
    exact ne_true_of_eq_false finite.not_isInfinite
  · intro bounded
    exact IsFinite.of_not (not_isNaN_ofRatio _ _ _) (eq_false_of_ne_true bounded)

theorem denominator_pos (value : Double) : 0 < value.denominator :=
  Nat.two_pow_pos (-value.exponent).toNat

theorem mantissa_lt (value : Double) : value.mantissa < 2 ^ 53 := by
  have size : binade = 2 ^ 52 := rfl
  have rest := Nat.mod_lt value.magnitude (show 0 < binade by omega)
  unfold mantissa
  split <;> omega

/-- The value of a finite double lies below the least number that is rounded to infinity. -/
theorem IsFinite.numerator_lt {value : Double} (finite : value.IsFinite) :
    value.numerator < leastInfinite * value.denominator := by
  have high : value.exponent.toNat ≤ halfStep + 1 := by
    have place : halfStep = 970 := rfl
    have quotient : value.magnitude / binade < 2047 :=
      Nat.div_lt_of_lt_mul (Nat.mul_comm 2047 binade ▸ finite)
    unfold exponent
    split <;> omega
  have power : 2 ^ value.exponent.toNat ≤ 2 ^ halfStep * 2 := by
    rw [← Nat.pow_succ]
    exact Nat.pow_le_pow_right (by decide) high
  have unit := Nat.two_pow_pos halfStep
  calc
    value.numerator ≤ (2 ^ 53 - 1) * (2 ^ halfStep * 2) :=
      Nat.mul_le_mul (Nat.le_of_lt_succ value.mantissa_lt) power
    _ < leastInfinite := by
      unfold leastInfinite
      omega
    _ ≤ leastInfinite * value.denominator := Nat.le_mul_of_pos_right _ value.denominator_pos

/-- A finite double stays finite when it is divided by a number that is not below one. -/
theorem IsFinite.div {left right : Double} (finite : left.IsFinite) (divisor : right.IsFinite)
    (large : right.denominator ≤ right.numerator) : (left.div right).IsFinite := by
  have positive : 0 < left.denominator * right.numerator :=
    Nat.mul_pos left.denominator_pos (Nat.lt_of_lt_of_le right.denominator_pos large)
  have quotient : left.div right = ofRatio (left.negative != right.negative)
      (left.numerator * right.denominator) (left.denominator * right.numerator) := by
    rw [Double.div, finite.not_isNaN, divisor.not_isNaN, finite.not_isInfinite,
      divisor.not_isInfinite]
    rfl
  rw [quotient]
  refine IsFinite.of_not (not_isNaN_ofRatio _ _ _) ?_
  rw [← Bool.not_eq_true, isInfinite_ofRatio_iff positive, Nat.not_le]
  calc
    left.numerator * right.denominator <
        leastInfinite * left.denominator * right.denominator :=
      Nat.mul_lt_mul_of_pos_right finite.numerator_lt right.denominator_pos
    _ ≤ leastInfinite * left.denominator * right.numerator := Nat.mul_le_mul_left _ large
    _ = leastInfinite * (left.denominator * right.numerator) := Nat.mul_assoc _ _ _

end Double
end ContestExchange
