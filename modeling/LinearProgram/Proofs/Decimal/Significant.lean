/-
**Significant digits are the nearest ones.**

A positive quotient is compared with powers of ten to find its decimal exponent, scaled so that all
the digits that are kept stand before the point, and rounded to the nearest integer. What comes out
is the nearest decimal with so many digits.

* `value_scale`, `nearestEven_roundHalfEven`: the steps.
* `exponentOf_spec`: the powers of ten around a quotient.
* **`rounded_spec`**: the digits are those of the nearest decimal, and there are as many as asked.
-/

import LinearProgram.Decimal.Rounded
import LinearProgram.Proofs.Decimal.Correct

namespace LinearProgram.Decimal

open Float.Model.UnpackedFloat

/-- The number that a quotient is. -/
def Quotient.value (quotient : Quotient) : ℚ :=
  quotient.numerator / quotient.denominator

/-- The number that rounded digits are, with the first of `places` digits at the exponent. -/
def Rounded.value (places : ℕ) (number : Rounded) : ℚ :=
  number.digits * 10 ^ (number.exponent - (places - 1))

/-! ### Digits -/

section Digits

variable {number : ℕ}

theorem lt_pow_length_digits (number : ℕ) : number < 10 ^ (digits number).length :=
  (Nat.length_toDigits_le_iff (by decide) Nat.length_toDigits_pos).mp le_rfl

theorem pow_length_digits_le (positive : 0 < number) : 10 ^ ((digits number).length - 1) ≤ number := by
  have some : 0 < (digits number).length := Nat.length_toDigits_pos
  by_cases one : (digits number).length = 1
  · rw [one]
    exact positive
  · have short : ¬ (digits number).length ≤ (digits number).length - 1 := by omega
    rw [digits, Nat.length_toDigits_le_iff (by decide) (by rw [← digits]; omega)] at short
    exact not_lt.mp short

/-- The powers of ten around a number tell how many digits it has. -/
theorem length_digits {places : ℕ} (some : 0 < places) (low : 10 ^ (places - 1) ≤ number)
    (high : number < 10 ^ places) : (digits number).length = places := by
  have atMost : (digits number).length ≤ places :=
    (Nat.length_toDigits_le_iff (by decide) some).mpr high
  by_contra other
  have less : 10 ^ (digits number).length ≤ 10 ^ (places - 1) :=
    Nat.pow_le_pow_right (by decide) (by omega)
  exact absurd (lt_pow_length_digits number) (not_lt.mpr (less.trans low))

end Digits

/-! ### The steps -/

theorem cast_ten_pow (power : ℕ) : ((Nat.pow 10 power : ℕ) : ℚ) = 10 ^ power := by
  rw [Nat.pow_eq, Nat.cast_pow, Nat.cast_ofNat]

namespace Quotient

variable (quotient : Quotient)

theorem value_scale (power : ℤ) : (quotient.scale power).value = quotient.value * 10 ^ power := by
  unfold scale
  split
  next nonneg =>
    obtain ⟨shift, rfl⟩ := Int.eq_ofNat_of_zero_le nonneg
    rw [value, value, Int.toNat_natCast, zpow_natCast]
    rw [Nat.cast_mul, cast_ten_pow, mul_div_right_comm]
  next negative =>
    obtain ⟨shift, same⟩ := Int.eq_ofNat_of_zero_le (by omega : 0 ≤ -power)
    have opposite : power = -(shift : ℤ) := by omega
    rw [value, value, same, Int.toNat_natCast, opposite, zpow_neg, zpow_natCast]
    rw [Nat.cast_mul, cast_ten_pow, ← div_div, div_eq_mul_inv (_ / _)]

theorem denominator_scale_pos (positive : 0 < quotient.denominator) (power : ℤ) :
    0 < (quotient.scale power).denominator := by
  unfold scale
  split
  · exact positive
  · exact Nat.mul_pos positive (Nat.pow_pos (by decide))

/-- Rounding half to even looks at what a division leaves, as rounding to a double does. -/
theorem roundHalfEven_eq (positive : 0 < quotient.denominator) :
    quotient.roundHalfEven
      = (accuracyOfFraction (quotient.numerator % quotient.denominator)
          quotient.denominator).roundToNearestEven (quotient.numerator / quotient.denominator) := by
  unfold roundHalfEven accuracyOfFraction
  dsimp only
  generalize quotient.numerator / quotient.denominator = whole
  generalize quotient.numerator % quotient.denominator = rest
  generalize quotient.denominator = denominator at positive
  by_cases zero : rest = 0
  · simp [zero, positive.ne, Accuracy.roundToNearestEven]
  rw [if_neg zero]
  rcases Nat.lt_trichotomy (2 * rest) denominator with less | equal | greater
  · rw [Nat.compare_eq_lt.mpr less]
    simp [Accuracy.roundToNearestEven, less.ne, less.le]
  · rw [Nat.compare_eq_eq.mpr equal]
    rcases Nat.mod_two_eq_zero_or_one whole with even | odd
    · simp [Accuracy.roundToNearestEven, equal, even]
    · simp [Accuracy.roundToNearestEven, equal, odd]
  · rw [Nat.compare_eq_gt.mpr greater]
    simp [Accuracy.roundToNearestEven, greater]

/-- **The nearest integer to a quotient.** -/
theorem nearestEven_roundHalfEven (positive : 0 < quotient.denominator) :
    NearestEven quotient.value quotient.roundHalfEven := by
  rw [quotient.roundHalfEven_eq positive]
  exact (Describes.quotient quotient.numerator positive).nearest

/-- Counting digits leaves two candidates for the exponent. -/
theorem bounds_of_length (positive : 0 < quotient.numerator) (positive' : 0 < quotient.denominator)
    {guess : ℤ} (same : guess = ((digits quotient.numerator).length : ℤ)
      - (digits quotient.denominator).length) :
    (10 : ℚ) ^ (guess - 1) ≤ quotient.value ∧ quotient.value < 10 ^ (guess + 1) := by
  have ten : (1 : ℚ) < 10 := by norm_num
  have some : 0 < (digits quotient.numerator).length := Nat.length_toDigits_pos
  have some' : 0 < (digits quotient.denominator).length := Nat.length_toDigits_pos
  have positive'' : (0 : ℚ) < quotient.denominator := by exact_mod_cast positive'
  have low : (10 : ℚ) ^ ((digits quotient.numerator).length - 1) ≤ quotient.numerator := by
    exact_mod_cast pow_length_digits_le positive
  have high : (quotient.numerator : ℚ) < 10 ^ (digits quotient.numerator).length := by
    exact_mod_cast lt_pow_length_digits quotient.numerator
  have low' : (10 : ℚ) ^ ((digits quotient.denominator).length - 1) ≤ quotient.denominator := by
    exact_mod_cast pow_length_digits_le positive'
  have high' : (quotient.denominator : ℚ) < 10 ^ (digits quotient.denominator).length := by
    exact_mod_cast lt_pow_length_digits quotient.denominator
  have power : (0 : ℚ) < 10 ^ (guess - 1) := zpow_pos (by norm_num) _
  constructor
  · rw [value, le_div_iff₀ positive'']
    calc (10 : ℚ) ^ (guess - 1) * quotient.denominator
        ≤ 10 ^ (guess - 1) * 10 ^ (digits quotient.denominator).length :=
          mul_le_mul_of_nonneg_left high'.le power.le
      _ = 10 ^ ((digits quotient.numerator).length - 1) := by
          rw [← zpow_natCast, ← zpow_natCast, ← zpow_add₀ (by norm_num)]
          congr 1
          omega
      _ ≤ quotient.numerator := low
  · rw [value, div_lt_iff₀ positive'']
    calc (quotient.numerator : ℚ) < 10 ^ (digits quotient.numerator).length := high
      _ = 10 ^ (guess + 1) * 10 ^ ((digits quotient.denominator).length - 1) := by
          rw [← zpow_natCast, ← zpow_natCast, ← zpow_add₀ (by norm_num)]
          congr 1
          omega
      _ ≤ 10 ^ (guess + 1) * quotient.denominator :=
          mul_le_mul_of_nonneg_left low' (zpow_pos (by norm_num) _).le

/-- **The powers of ten around a quotient.** -/
theorem exponentOf_spec (positive : 0 < quotient.numerator) (positive' : 0 < quotient.denominator) :
    (10 : ℚ) ^ quotient.exponentOf ≤ quotient.value
      ∧ quotient.value < 10 ^ (quotient.exponentOf + 1) := by
  obtain ⟨low, high⟩ := quotient.bounds_of_length positive positive' rfl
  unfold exponentOf
  dsimp only
  generalize ((digits quotient.numerator).length : ℤ) - (digits quotient.denominator).length = guess
    at low high ⊢
  have scaled := quotient.value_scale (-guess)
  have positive'' : (0 : ℚ) < (quotient.scale (-guess)).denominator := by
    exact_mod_cast quotient.denominator_scale_pos positive' (-guess)
  have reaches : (quotient.scale (-guess)).denominator ≤ (quotient.scale (-guess)).numerator
      ↔ (10 : ℚ) ^ guess ≤ quotient.value := by
    rw [zpow_neg, ← div_eq_mul_inv] at scaled
    have cast : ((quotient.scale (-guess)).denominator : ℚ) ≤ (quotient.scale (-guess)).numerator
        ↔ (quotient.scale (-guess)).denominator ≤ (quotient.scale (-guess)).numerator := Nat.cast_le
    rw [← cast, ← one_le_div positive'', ← value, scaled, one_le_div (zpow_pos (by norm_num) guess)]
  split
  next le => exact ⟨reaches.mp le, high⟩
  next less =>
    rw [sub_add_cancel]
    exact ⟨low, not_le.mp (mt reaches.mpr less)⟩

/-- **The digits are those of the nearest decimal, and as many as are asked for.** -/
theorem rounded_spec {places : ℕ} (some : 0 < places) (positive : 0 < quotient.numerator)
    (positive' : 0 < quotient.denominator) :
    (decimals places some).Nearest quotient.value ((quotient.rounded places).value places)
      ∧ 10 ^ (places - 1) ≤ (quotient.rounded places).digits
      ∧ (quotient.rounded places).digits < 10 ^ places := by
  obtain ⟨low, high⟩ := quotient.exponentOf_spec positive positive'
  let place := quotient.exponentOf - (places - 1)
  let nearest := (quotient.scale (places - 1 - quotient.exponentOf)).roundHalfEven
  have weight (place : ℤ) : (decimals places some).weight place = 10 ^ place := by
    simp [Grid.weight, decimals]
  have width : ((decimals places some).digits : ℤ) = places := rfl
  have here : (decimals places some).Place quotient.value place := by
    have last : (places : ℤ) + place = quotient.exponentOf + 1 := by omega
    have first : (places : ℤ) + place - 1 = quotient.exponentOf := by omega
    refine ⟨bot_le, ?_, .inr ?_⟩
    · rw [weight, width, last]
      exact high
    · rw [weight, width, first]
      exact low
  have near : NearestEven (quotient.value / (decimals places some).weight place) nearest := by
    have scaled := quotient.value_scale (places - 1 - quotient.exponentOf)
    have opposite : (places : ℤ) - 1 - quotient.exponentOf = -place := by omega
    rw [weight, div_eq_mul_inv, ← zpow_neg, ← opposite, ← scaled]
    exact nearestEven_roundHalfEven _ (quotient.denominator_scale_pos positive' _)
  have atMost : nearest ≤ 10 ^ places := here.multiple_le near
  have atLeast : 10 ^ (places - 1) ≤ nearest := by
    refine Grid.Place.le_multiple near ?_
    have first : (places : ℤ) + place - 1 = quotient.exponentOf := by omega
    rw [weight, width, first]
    exact low
  have result : (decimals places some).Nearest quotient.value (nearest * 10 ^ place) :=
    ⟨place, nearest, here, near, by rw [weight]⟩
  have rounded : quotient.rounded places = if nearest = 10 ^ places then
      ⟨10 ^ (places - 1), quotient.exponentOf + 1⟩ else ⟨nearest, quotient.exponentOf⟩ := rfl
  rw [rounded]
  split
  -- A carry moves the first digit up, and the number stays.
  next carry =>
    refine ⟨?_, le_rfl, Nat.pow_lt_pow_right (by decide) (by omega)⟩
    have same : (nearest * 10 ^ place : ℚ)
        = Rounded.value places ⟨10 ^ (places - 1), quotient.exponentOf + 1⟩ := by
      rw [carry, Rounded.value, Nat.cast_pow, Nat.cast_pow, Nat.cast_ofNat, ← zpow_natCast,
        ← zpow_natCast, ← zpow_add₀ (by norm_num), ← zpow_add₀ (by norm_num)]
      congr 1
      show (places : ℤ) + (quotient.exponentOf - (places - 1))
        = (places - 1 : ℕ) + (quotient.exponentOf + 1 - (places - 1))
      omega
    rwa [← same]
  next short => exact ⟨result, atLeast, lt_of_le_of_ne atMost short⟩

end Quotient

end LinearProgram.Decimal
