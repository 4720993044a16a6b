/-
**Sums of doubles keep the order.**

A finite double is a number, and the sum of two of them is the double nearest to the sum of the
numbers. Rounding keeps the order, so adding what is not below zero never makes a double smaller.

* `valueOf`: the number that a double is.
* `IsRounded`: the double nearest to a number of either sign.
* **`isRounded_add`**: a sum is rounded correctly.
* `le_add`, `sub_le`: adding and taking away what is not below zero.
-/

import LinearProgram.Proofs.Decimal.Comparison
import LinearProgram.Proofs.Decimal.Operations

namespace LinearProgram.Decimal

open Float.Model UnpackedFloat

/-! ### Numbers of either sign -/

/-- **The number that a finite double is.** -/
def valueOf (value : Float) : ℚ :=
  unitsOf value * 2 ^ (-1074 : ℤ)

/-- **The double nearest to a number of either sign.** A zero may have either sign. -/
def IsRounded (number : ℚ) (value : Float) : Prop :=
  ∃ sign, IsNearest sign |number| value ∧ signed sign |number| = number

theorem IsRounded.unitsOf_mono {number larger : ℚ} {value above : Float}
    (rounded : IsRounded number value) (rounded' : IsRounded larger above) (le : number ≤ larger) :
    unitsOf value ≤ unitsOf above := by
  obtain ⟨sign, near, same⟩ := rounded
  obtain ⟨other, near', same'⟩ := rounded'
  refine Decimal.unitsOf_mono near near' ?_
  rw [same, same']
  exact le

theorem IsRounded.isNaN {number : ℚ} {value : Float} (rounded : IsRounded number value) :
    value.isNaN = false := by
  obtain ⟨sign, near, -⟩ := rounded
  exact near.isNaN

section Sums

variable {first second value : Float} {sign : Sign} {digits : ℕ} {place : ℤ}

theorem abs_signed {number : ℚ} (nonneg : 0 ≤ number) : |signed sign number| = number := by
  cases sign with
  | negative => exact (abs_neg number).trans (abs_of_nonneg nonneg)
  | positive => exact abs_of_nonneg nonneg

/-- What is nearest to a magnitude is rounded from the number with the sign. -/
theorem IsNearest.isRounded {number : ℚ} (near : IsNearest sign number value) :
    IsRounded (signed sign number) value := by
  have nonneg : 0 ≤ number := by
    obtain ⟨given, ⟨nonneg, -⟩, -⟩ := near
    exact nonneg
  refine ⟨sign, ?_, ?_⟩ <;> rw [abs_signed nonneg]
  exact near

theorem cast_apply (sign : Sign) (least : -1074 ≤ place) :
    ((sign.apply (digits * 2 ^ (place + 1074).toNat : ℕ) : ℤ) : ℚ) * 2 ^ (-1074 : ℤ)
      = signed sign (digits * 2 ^ place) := by
  have magnitude : ((digits * 2 ^ (place + 1074).toNat : ℕ) : ℚ) * 2 ^ (-1074 : ℤ)
      = digits * 2 ^ place := by
    rw [cast_magnitude least, mul_assoc, ← zpow_add₀ two_ne_zero]
    norm_num
  cases sign with
  | positive =>
    show ((digits * 2 ^ (place + 1074).toNat : ℕ) : ℤ) * (2 : ℚ) ^ (-1074 : ℤ) = _
    rw [Int.cast_natCast, magnitude]
    rfl
  | negative =>
    show ((-((digits * 2 ^ (place + 1074).toNat : ℕ) : ℤ) : ℤ) : ℚ) * 2 ^ (-1074 : ℤ) = _
    rw [Int.cast_neg, Int.cast_natCast, neg_mul, magnitude]
    rfl

/-- **A finite double is rounded from itself.** -/
theorem isRounded_self (finite : value.isFinite = true) : IsRounded (valueOf value) value := by
  have canonical := canonical_parts value
  have same := ofParts_parts value
  rw [isFinite_eq] at finite
  rw [valueOf, unitsOf]
  cases whole : parts value with
  | notANumber | infinity => rw [whole] at finite; cases finite
  | zero sign =>
    have settled : Settled 0 (-1074) := ⟨by decide, le_rfl, .inr rfl⟩
    have near := isNearest_partsOf sign settled
    have parts : partsOf sign 0 (-1074) = .zero sign := rfl
    have none : ((0 : ℕ) : ℚ) * 2 ^ (-1074 : ℤ) = 0 := by rw [Nat.cast_zero, zero_mul]
    rw [whole] at same
    rw [parts, same, none] at near
    rw [units, Int.cast_zero, zero_mul]
    have zero : signed sign 0 = 0 := by cases sign <;> simp [signed]
    rw [← zero]
    exact near.isRounded
  | finite sign digits place positive =>
    rw [whole] at canonical same
    obtain ⟨short, least, -, full⟩ := canonical
    have near := isNearest_partsOf sign (Settled.mk short least full)
    rw [partsOf_of_pos sign positive, same] at near
    rw [units, cast_apply sign least]
    exact near.isRounded

theorem isRounded_zero : IsRounded 0 (ofParts (.zero .positive)) := by
  have self := isRounded_self (show (ofParts (.zero .positive)).isFinite = true from rfl)
  have none : valueOf (ofParts (.zero .positive)) = 0 := by
    rw [valueOf, show unitsOf (ofParts (.zero .positive)) = 0 from rfl, Int.cast_zero, zero_mul]
  rwa [none] at self

/-- An exact sum, rounded. -/
theorem isRounded_normalize (sum : ℤ) (exponent : ℤ) :
    IsRounded (sum * 2 ^ exponent)
      (ofParts (UnpackedFloat.normalize .binary64 sum exponent .positive)) := by
  rcases eq_or_ne sum 0 with rfl | nonzero
  · rw [Int.cast_zero, zero_mul]
    exact isRounded_zero
  · have near : IsNearest _ _ _ := ⟨_, rounds_normalize nonzero exponent, rfl⟩
    have rounded := near.isRounded
    have same : signed (if sum < 0 then .negative else .positive) (sum.natAbs * 2 ^ exponent)
        = sum * 2 ^ exponent := by
      rw [Nat.cast_natAbs]
      split
      next negative =>
        rw [abs_of_nonpos negative.le, signed]
        push_cast
        ring
      next notNegative =>
        rw [abs_of_nonneg (not_lt.mp notNegative), signed]
    rwa [same] at rounded

/-- What is the same as a finite double is rounded from it. -/
theorem isRounded_of_same (same : Same value first) (finite : first.isFinite = true) :
    IsRounded (valueOf first) value := by
  have rounded := isRounded_self ((isFinite_congr same).trans finite)
  rwa [valueOf, unitsOf_congr same, ← valueOf] at rounded

theorem valueOf_of_zero (zero : (value == 0) = true) : valueOf value = 0 := by
  have none : unitsOf value = 0 := (beq_iff.mp zero).2.2
  rw [valueOf, none, Int.cast_zero, zero_mul]

/-- The number that a finite double other than zero is, from its parts. -/
theorem valueOf_of_parts {positive : 0 < digits}
    (whole : parts value = .finite sign digits place positive) :
    valueOf value = signed sign (digits * 2 ^ place) := by
  have canonical := canonical_parts value
  rw [whole] at canonical
  rw [valueOf, unitsOf, whole, units, cast_apply sign canonical.2.1]

/-- The exact sum of two finite doubles other than zero. -/
theorem isRounded_add_of_ne {other : Sign} {mantissa larger : ℕ} {exponent higher : ℤ}
    {positive : 0 < mantissa} {positive' : 0 < larger}
    (whole : parts first = .finite sign mantissa exponent positive)
    (whole' : parts second = .finite other larger higher positive') :
    IsRounded (valueOf first + valueOf second) (first + second) := by
  have canonical := canonical_parts first
  have canonical' := canonical_parts second
  rw [whole] at canonical
  rw [whole'] at canonical'
  let low := min exponent higher
  have least : -1074 ≤ low := Int.le_min.mpr ⟨canonical.2.1, canonical'.2.1⟩
  have here := apply_shift sign positive least (Int.min_le_left ..)
  have there := apply_shift other positive' least (Int.min_le_right ..)
  have power : (2 : ℚ) ^ (low + 1074).toNat * 2 ^ (-1074 : ℤ) = 2 ^ low := by
    have exponents : ((low + 1074).toNat : ℤ) + -1074 = low := by omega
    rw [← zpow_natCast, ← zpow_add₀ two_ne_zero, exponents]
  have number : valueOf first + valueOf second
      = ((sign.apply (mantissa <<< (exponent - low).toNat : ℕ)
        + other.apply (larger <<< (higher - low).toNat : ℕ) : ℤ) : ℚ) * 2 ^ low := by
    rw [valueOf, valueOf, unitsOf, unitsOf, whole, whole', ← here, ← there, ← power]
    generalize (2 : ℚ) ^ (-1074 : ℤ) = unit
    push_cast
    ring
  have added : first + second = ofParts (UnpackedFloat.normalize .binary64
      (sign.apply (mantissa <<< (exponent - low).toNat : ℕ)
        + other.apply (larger <<< (higher - low).toNat : ℕ)) low .positive) := by
    rw [add_eq, whole, whole']
    rfl
  rw [number, added]
  exact isRounded_normalize _ low

/-- **The sum of two finite doubles is rounded correctly.** -/
theorem isRounded_add (finite : first.isFinite = true) (finite' : second.isFinite = true) :
    IsRounded (valueOf first + valueOf second) (first + second) := by
  cases whole : parts first with
  | notANumber | infinity => rw [isFinite_eq, whole] at finite; cases finite
  | zero =>
    have zero : (first == 0) = true := beq_zero_iff.mpr ⟨_, whole⟩
    have same : Same (first + second) second :=
      (same_add (Same.zero zero).symm (.refl second)).trans (zero_add second)
    rw [valueOf_of_zero zero, Rat.zero_add]
    exact isRounded_of_same same finite'
  | finite =>
    cases whole' : parts second with
    | notANumber | infinity => rw [isFinite_eq, whole'] at finite'; cases finite'
    | zero =>
      have zero : (second == 0) = true := beq_zero_iff.mpr ⟨_, whole'⟩
      have same : Same (first + second) first :=
        (same_add (.refl first) (Same.zero zero).symm).trans (add_zero first)
      rw [valueOf_of_zero zero, Rat.add_zero]
      exact isRounded_of_same same finite
    | finite => exact isRounded_add_of_ne whole whole'

/-- A finite double leaves what is infinite as it is. -/
theorem add_of_isInf (infinite : first.isInf = true) (finite : second.isFinite = true) :
    first + second = first := by
  rw [isInf_eq] at infinite
  rw [isFinite_eq] at finite
  have same := ofParts_parts first
  rw [add_eq]
  cases whole : parts first with
  | notANumber | zero | finite => rw [whole] at infinite; cases infinite
  | infinity sign =>
    rw [whole] at same
    cases whole' : parts second with
    | notANumber | infinity => rw [whole'] at finite; cases finite
    | zero | finite => exact same

/-- **A larger summand gives no smaller sum.** -/
theorem unitsOf_add_mono (number : first.isNaN = false) (finite : second.isFinite = true)
    (finite' : value.isFinite = true) (le : unitsOf second ≤ unitsOf value) :
    unitsOf (first + second) ≤ unitsOf (first + value) := by
  by_cases infinite : first.isInf = true
  · rw [add_of_isInf infinite finite, add_of_isInf infinite finite']
  · have bounded := isFinite_of_not_isInf number infinite
    refine (isRounded_add bounded finite).unitsOf_mono (isRounded_add bounded finite') ?_
    have cast : (unitsOf second : ℚ) ≤ unitsOf value := by exact_mod_cast le
    exact add_le_add_right (mul_le_mul_of_nonneg_right cast (zpow_pos two_pos _).le) _

theorem isNaN_add (number : first.isNaN = false) (finite : second.isFinite = true) :
    (first + second).isNaN = false := by
  by_cases infinite : first.isInf = true
  · rw [add_of_isInf infinite finite]
    exact number
  · exact (isRounded_add (isFinite_of_not_isInf number infinite) finite).isNaN

/-- **Adding what is not below zero makes nothing smaller.** -/
theorem le_add (number : first.isNaN = false) (finite : second.isFinite = true)
    (nonneg : 0 ≤ second) : first ≤ first + second := by
  refine le_iff.mpr ⟨number, isNaN_add number finite, ?_⟩
  have mono := unitsOf_add_mono number (by decide) finite (le_iff.mp nonneg).2.2
  rwa [unitsOf_congr (add_zero first)] at mono

/-- **Taking away what is not below zero makes nothing larger.** -/
theorem sub_le (number : first.isNaN = false) (finite : second.isFinite = true)
    (nonneg : 0 ≤ second) : first - second ≤ first := by
  have finite' : (-second).isFinite = true := (isFinite_neg second).trans finite
  have opposite : unitsOf (-second) ≤ unitsOf 0 := by
    have zero : unitsOf 0 = 0 := rfl
    have le := (le_iff.mp nonneg).2.2
    rw [unitsOf_neg]
    omega
  rw [sub_eq_add_neg]
  refine le_iff.mpr ⟨isNaN_add number finite', number, ?_⟩
  have mono := unitsOf_add_mono number finite' (by decide) opposite
  rwa [unitsOf_congr (add_zero first)] at mono

end Sums

end LinearProgram.Decimal
