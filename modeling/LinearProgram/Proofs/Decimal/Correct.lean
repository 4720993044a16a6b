/-
**Rounding to a double is correct.**

An operation hands over a mantissa and what is known of the digits behind it. Rounding shifts the
mantissa to the place that 53 digits leave, keeping track of the digits that fall off, and takes the
nearest multiple; a carry beyond 53 digits costs one more shift.

* `Describes`: a mantissa with an accuracy stands for a number.
* `Describes.shiftRight`: a shift divides the number by a power of two.
* `Describes.nearest`: the rounded mantissa is the nearest one.
* `Settled`: a mantissa and an exponent as they come out of rounding.
* `Rounds`: parts whose magnitude is the nearest number of the grid of doubles.
* **`rounds_roundWithAccuracy`**: what comes out of rounding are these parts.
-/

import LinearProgram.Proofs.Decimal.Nearest
import LinearProgram.Proofs.Decimal.Rounding

namespace LinearProgram.Decimal

open Float.Model UnpackedFloat

/-! ### A mantissa and the digits behind it -/

/-- **A mantissa with an accuracy stands for a number.** -/
def Describes (mantissa : ℕ) (accuracy : Accuracy) (number : ℚ) : Prop :=
  match accuracy with
  | .exact => number = mantissa
  | .inexact .lt => (mantissa : ℚ) < number ∧ number < mantissa + 1 / 2
  | .inexact .eq => number = mantissa + 1 / 2
  | .inexact .gt => (mantissa : ℚ) + 1 / 2 < number ∧ number < mantissa + 1

namespace Describes

variable {mantissa : ℕ} {accuracy : Accuracy} {number : ℚ}

theorem bounds (describes : Describes mantissa accuracy number) :
    (mantissa : ℚ) ≤ number ∧ number < mantissa + 1 := by
  match accuracy with
  | .exact =>
    have same : number = mantissa := describes
    constructor <;> linarith
  | .inexact .lt =>
    obtain ⟨low, high⟩ : (mantissa : ℚ) < number ∧ number < mantissa + 1 / 2 := describes
    constructor <;> linarith
  | .inexact .eq =>
    have same : number = mantissa + 1 / 2 := describes
    constructor <;> linarith
  | .inexact .gt =>
    obtain ⟨low, high⟩ : (mantissa : ℚ) + 1 / 2 < number ∧ number < mantissa + 1 := describes
    constructor <;> linarith

/-- **The rounded mantissa is the nearest one.** -/
theorem nearest (describes : Describes mantissa accuracy number) :
    NearestEven number (accuracy.roundToNearestEven mantissa) := by
  match accuracy with
  | .exact =>
    have same : number = mantissa := describes
    rw [same]
    exact .natCast mantissa
  | .inexact .lt =>
    obtain ⟨low, high⟩ : (mantissa : ℚ) < number ∧ number < mantissa + 1 / 2 := describes
    refine .inl (abs_lt.mpr ⟨?_, ?_⟩) <;> simp only [Accuracy.roundToNearestEven] <;> linarith
  | .inexact .eq =>
    have same : number = mantissa + 1 / 2 := describes
    refine .inr ⟨?_, ?_⟩
    · rcases Nat.mod_two_eq_zero_or_one mantissa with even | odd
      · rw [Accuracy.roundToNearestEven, even, Nat.add_zero, same, add_sub_cancel_left]
        norm_num
      · rw [Accuracy.roundToNearestEven, odd, same, Nat.cast_add, Nat.cast_one, add_sub_add_left_eq_sub]
        norm_num [abs_of_nonpos]
    · rw [Accuracy.roundToNearestEven, Nat.even_iff]
      omega
  | .inexact .gt =>
    obtain ⟨low, high⟩ : (mantissa : ℚ) + 1 / 2 < number ∧ number < mantissa + 1 := describes
    refine .inl (abs_lt.mpr ⟨?_, ?_⟩) <;> simp only [Accuracy.roundToNearestEven] <;> push_cast <;>
      linarith

/-- The digits that a quotient leaves. -/
theorem quotient (numerator : ℕ) {denominator : ℕ} (positive : 0 < denominator) :
    Describes (numerator / denominator)
      (accuracyOfFraction (numerator % denominator) denominator) (numerator / denominator : ℚ) := by
  have positive' : (0 : ℚ) < denominator := by exact_mod_cast positive
  have split : (numerator : ℚ)
      = denominator * (numerator / denominator : ℕ) + (numerator % denominator : ℕ) := by
    exact_mod_cast (Nat.div_add_mod numerator denominator).symm
  have remainder : ((numerator % denominator : ℕ) : ℚ) < denominator := by
    exact_mod_cast Nat.mod_lt numerator positive
  generalize numerator / denominator = whole at split ⊢
  generalize numerator % denominator = rest at split remainder ⊢
  have number : (numerator / denominator : ℚ) = whole + rest / denominator := by
    rw [split]
    field_simp
  have below : (rest / denominator : ℚ) < 1 := (div_lt_one positive').mpr remainder
  rw [number, accuracyOfFraction]
  split
  next zero =>
    rw [zero, Nat.cast_zero, zero_div, Rat.add_zero]
    rfl
  next nonzero =>
    have above : (0 : ℚ) < rest / denominator :=
      div_pos (by exact_mod_cast Nat.pos_of_ne_zero nonzero) positive'
    rcases Nat.lt_trichotomy (2 * rest) denominator with less | equal | greater
    · rw [Nat.compare_eq_lt.mpr less]
      have less : (rest / denominator : ℚ) < 1 / 2 := by
        rw [div_lt_iff₀ positive']
        have cast : (2 * rest : ℚ) < denominator := by exact_mod_cast less
        linarith
      exact ⟨by linarith, by linarith⟩
    · rw [Nat.compare_eq_eq.mpr equal]
      have equal : (rest / denominator : ℚ) = 1 / 2 := by
        rw [div_eq_iff positive'.ne']
        have cast : (2 * rest : ℚ) = denominator := by exact_mod_cast equal
        linarith
      exact congrArg (fun part : ℚ => whole + part) equal
    · rw [Nat.compare_eq_gt.mpr greater]
      have greater : 1 / 2 < (rest / denominator : ℚ) := by
        rw [lt_div_iff₀ positive']
        have cast : (denominator : ℚ) < 2 * rest := by exact_mod_cast greater
        linarith
      exact ⟨by linarith, by linarith⟩

end Describes

/-! ### Shifts -/

/-- A mantissa with its round and sticky bits stands for a number. -/
def Represents (extended : ExtendedMantissa) (number : ℚ) : Prop :=
  Describes extended.mantissa extended.accuracy number

theorem represents_of_describes {mantissa : ℕ} {accuracy : Accuracy} {number : ℚ}
    (describes : Describes mantissa accuracy number) :
    Represents (.ofMantissaAndAccuracy mantissa accuracy) number := by
  match accuracy with
  | .exact | .inexact .lt | .inexact .eq | .inexact .gt => exact describes

namespace Represents

variable {extended : ExtendedMantissa} {number : ℚ}

/-- The digit that falls off becomes the round bit, and the round bit joins the sticky one. -/
theorem shiftRightOne (represents : Represents extended number) :
    Represents extended.shiftRightOne (number / 2) := by
  obtain ⟨mantissa, roundBit, stickyBit⟩ := extended
  obtain ⟨half, rfl | rfl⟩ := Nat.even_or_odd' mantissa
  · have shifted : ExtendedMantissa.shiftRightOne ⟨2 * half, roundBit, stickyBit⟩
        = ⟨half, false, roundBit || stickyBit⟩ := by
      simp [ExtendedMantissa.shiftRightOne]
    rw [shifted]
    cases roundBit <;> cases stickyBit <;>
      simp only [Represents, Describes, ExtendedMantissa.accuracy, Bool.or_false, Bool.or_true,
        Nat.cast_mul, Nat.cast_ofNat] at represents ⊢ <;>
      first | linarith | constructor <;> linarith
  · have shifted : ExtendedMantissa.shiftRightOne ⟨2 * half + 1, roundBit, stickyBit⟩
        = ⟨half, true, roundBit || stickyBit⟩ := by
      rw [ExtendedMantissa.shiftRightOne, Nat.mul_add_mod, Nat.mul_add_div Nat.two_pos]
      rfl
    rw [shifted]
    cases roundBit <;> cases stickyBit <;>
      simp only [Represents, Describes, ExtendedMantissa.accuracy, Bool.or_false, Bool.or_true,
        Nat.cast_add, Nat.cast_mul, Nat.cast_ofNat, Nat.cast_one] at represents ⊢ <;>
      first | linarith | constructor <;> linarith

/-- **A shift divides by a power of two.** -/
theorem shiftRight (represents : Represents extended number) (shift : ℕ) :
    Represents (extended >>> shift) (number / 2 ^ shift) := by
  show Represents (Nat.repeat ExtendedMantissa.shiftRightOne shift extended) _
  induction shift with
  | zero =>
    rw [Nat.repeat, pow_zero, Rat.div_def, inv_one, Rat.mul_one]
    exact represents
  | succ shift hyp =>
    rw [Nat.repeat, pow_succ, ← div_div]
    exact hyp.shiftRightOne

end Represents

/-! ### Rounding -/

/-- **A mantissa and an exponent as they come out of rounding.** The exponent may be too high for a
double. -/
structure Settled (mantissa : ℕ) (exponent : ℤ) : Prop where
  short : mantissa < 2 ^ 53
  least : -1074 ≤ exponent
  full : 2 ^ 52 ≤ mantissa ∨ exponent = -1074

/-- The parts with a mantissa that may be zero. -/
def partsOf (sign : Sign) (mantissa : ℕ) (exponent : ℤ) : UnpackedFloat :=
  if zero : mantissa = 0 then .zero sign
  else .finite sign mantissa exponent (Nat.pos_of_ne_zero zero)

/-- **The parts with a sign whose magnitude is the nearest number of the grid of doubles.** -/
def Rounds (sign : Sign) (number : ℚ) (given : UnpackedFloat) : Prop :=
  0 ≤ number ∧ ∃ digits place, Settled digits place
    ∧ doubles.Nearest number (digits * 2 ^ place) ∧ given = partsOf sign digits place

@[simp] theorem weight_doubles (place : ℤ) : doubles.weight place = 2 ^ place := by
  simp [Grid.weight, doubles]

theorem targetExponent_totalExponent (mantissa : ℕ) (exponent : ℤ) :
    Format.binary64.targetExponent (totalExponent mantissa exponent)
      = max (mantissa.log2 + 1 + exponent - 53) (-1074) := rfl

theorem natCast_lt_zpow {number : ℚ} {power : ℕ} (less : number < (2 ^ power : ℕ)) (exponent : ℤ) :
    number * 2 ^ exponent < 2 ^ (power + exponent) := by
  rw [zpow_add₀ two_ne_zero, zpow_natCast]
  exact mul_lt_mul_of_pos_right (by exact_mod_cast less) (zpow_pos two_pos exponent)

theorem zpow_le_natCast {number : ℚ} {power : ℕ} (le : (2 ^ power : ℕ) ≤ number) (exponent : ℤ) :
    2 ^ (power + exponent) ≤ number * 2 ^ exponent := by
  rw [zpow_add₀ two_ne_zero, zpow_natCast]
  exact mul_le_mul_of_nonneg_right (by exact_mod_cast le) (zpow_pos two_pos exponent).le

section Rounding

variable {mantissa : ℕ} {exponent : ℤ} {accuracy : Accuracy} {number : ℚ}

/-- **Rounding aims at the place of the number.** -/
theorem place_targetExponent (describes : Describes mantissa accuracy number)
    (some : 0 < mantissa ∨ exponent ≤ -1074) :
    doubles.Place (number * 2 ^ exponent)
      (Format.binary64.targetExponent (totalExponent mantissa exponent)) := by
  rw [targetExponent_totalExponent]
  obtain ⟨low, high⟩ := describes.bounds
  have digits : (doubles.digits : ℤ) = 53 := rfl
  refine ⟨WithBot.coe_le_coe.mpr (le_max_right _ _), ?_, ?_⟩
  · have next : number < (2 ^ (mantissa.log2 + 1) : ℕ) := by
      have below : mantissa + 1 ≤ 2 ^ (mantissa.log2 + 1) := Nat.lt_log2_self
      exact high.trans_le (by exact_mod_cast below)
    refine (natCast_lt_zpow next exponent).trans_le ?_
    rw [weight_doubles, digits]
    refine zpow_le_zpow_right₀ one_le_two ?_
    push_cast
    omega
  · rcases le_total (mantissa.log2 + 1 + exponent - 53) (-1074) with subnormal | normal
    · exact .inl (congrArg _ (max_eq_right subnormal))
    · right
      have positive : mantissa ≠ 0 := by
        rintro rfl
        have none : Nat.log2 0 = 0 := by decide
        omega
      have power : ((2 ^ mantissa.log2 : ℕ) : ℚ) ≤ number := by
        refine le_trans ?_ low
        exact_mod_cast Nat.log2_self_le positive
      have same : (53 : ℤ) + (mantissa.log2 + 1 + exponent - 53) - 1
          = (mantissa.log2 : ℤ) + exponent := by omega
      rw [weight_doubles, digits, max_eq_left normal, same]
      exact zpow_le_natCast power exponent

/-- The shift to the place, for an exponent that is not above it. -/
theorem shiftToTargetExponent_eq (accuracy : Accuracy)
    (le : exponent ≤ Format.binary64.targetExponent (totalExponent mantissa exponent)) :
    ∃ shift : ℕ, (shift : ℤ)
        = Format.binary64.targetExponent (totalExponent mantissa exponent) - exponent
      ∧ shiftToTargetExponent .binary64 mantissa exponent accuracy
        = (ExtendedMantissa.ofMantissaAndAccuracy mantissa accuracy >>> shift,
          Format.binary64.targetExponent (totalExponent mantissa exponent)) := by
  obtain ⟨shift, same⟩ := Int.eq_ofNat_of_zero_le (Int.sub_nonneg_of_le le)
  refine ⟨shift, same.symm, ?_⟩
  unfold shiftToTargetExponent shiftToExponent
  dsimp only
  rw [same]
  refine Prod.ext rfl ?_
  show exponent + ((shift : ℤ).toNat : ℤ) = _
  omega

/-- **A carry costs one more shift**, and changes no number. -/
theorem carry (atMost : mantissa ≤ 2 ^ 53) (least : -1074 ≤ exponent)
    (full : 2 ^ 52 ≤ mantissa ∨ exponent = -1074) :
    ∃ digits place, Settled digits place ∧ (digits * 2 ^ place : ℚ) = mantissa * 2 ^ exponent
      ∧ shiftToTargetExponent .binary64 mantissa exponent .exact = (⟨digits, false, false⟩, place) := by
  rcases atMost.lt_or_eq with short | rfl
  · refine ⟨mantissa, exponent, ⟨short, least, full⟩, rfl, ?_⟩
    have none : (Format.binary64.targetExponent (totalExponent mantissa exponent) - exponent).toNat
        = 0 := by
      have small : mantissa.log2 < 53 := by
        by_cases zero : mantissa = 0
        · rw [zero]
          decide
        · exact (Nat.log2_lt zero).mpr short
      rw [targetExponent_totalExponent]
      omega
    rw [shiftToTargetExponent, shiftToExponent, none]
    exact Prod.ext rfl (Int.add_zero exponent)
  · refine ⟨2 ^ 52, exponent + 1, ⟨by decide, by omega, .inl le_rfl⟩, ?_, ?_⟩
    · rw [zpow_add₀ two_ne_zero]
      push_cast
      ring
    · have one : (Format.binary64.targetExponent (totalExponent (2 ^ 53) exponent) - exponent).toNat
          = 1 := by
        rw [targetExponent_totalExponent, Nat.log2_two_pow]
        omega
      rw [shiftToTargetExponent, shiftToExponent, one]
      rfl

/-- **Rounding is correct**: what comes out is the nearest number of the grid of doubles. -/
theorem rounds_roundWithAccuracy (sign : Sign) (describes : Describes mantissa accuracy number)
    (le : exponent ≤ Format.binary64.targetExponent (totalExponent mantissa exponent))
    (some : 0 < mantissa ∨ exponent ≤ -1074) :
    Rounds sign (number * 2 ^ exponent)
      (roundWithAccuracy .binary64 sign mantissa exponent accuracy) := by
  have nonneg : 0 ≤ number * 2 ^ exponent :=
    mul_nonneg ((Nat.cast_nonneg _).trans describes.bounds.1) (zpow_pos two_pos exponent).le
  have here := place_targetExponent describes some
  obtain ⟨shift, amount, shifted⟩ := shiftToTargetExponent_eq accuracy le
  generalize Format.binary64.targetExponent (totalExponent mantissa exponent) = target at *
  have represents := (represents_of_describes describes).shiftRight shift
  have near : NearestEven (number * 2 ^ exponent / doubles.weight target)
      (ExtendedMantissa.roundedMantissa (ExtendedMantissa.ofMantissaAndAccuracy mantissa accuracy >>> shift)) := by
    have scaled : number * 2 ^ exponent / doubles.weight target = number / 2 ^ shift := by
      have target : target = shift + exponent := by omega
      rw [weight_doubles, target, zpow_add₀ two_ne_zero, zpow_natCast]
      exact mul_div_mul_right _ _ (zpow_pos two_pos exponent).ne'
    rw [scaled]
    exact represents.nearest
  have full : 2 ^ 52 ≤ ExtendedMantissa.roundedMantissa
      (ExtendedMantissa.ofMantissaAndAccuracy mantissa accuracy >>> shift) ∨ target = -1074 := by
    rcases here.low with least | low
    · exact .inr (WithBot.coe_injective least)
    · exact .inl (Grid.Place.le_multiple near low)
  obtain ⟨digits, place, settled, same, again⟩ :=
    carry (here.multiple_le near) (WithBot.coe_le_coe.mp here.least) full
  refine ⟨nonneg, digits, place, settled, ⟨target, _, here, near, ?_⟩, ?_⟩
  · rw [same, weight_doubles]
  · unfold roundWithAccuracy
    simp only [shifted, again]
    rfl

end Rounding

end LinearProgram.Decimal
