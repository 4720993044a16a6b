/-
**Scientific notation is read as the nearest double.**

A mantissa and a power of ten are a number. If both are short, they are doubles themselves and one
multiplication or division gives the result; otherwise the exact product or quotient is rounded. Far
too large or too small a power is not even computed.

* `exactly_natural`, `exactly_power`: short mantissas and short powers of ten are doubles.
* `rounds_product`, `rounds_quotient`: the exact product or quotient, rounded.
* **`isNearest_ofScientific`**: the double that is read is the one nearest to the number.
-/

import LinearProgram.Decimal.Literal
import LinearProgram.Proofs.Decimal.Operations

namespace LinearProgram.Decimal

open Float.Model UnpackedFloat

/-! ### Numbers that are doubles -/

/-- The double is a positive number with 53 digits. -/
def Exactly (number : ℚ) (value : Float) : Prop :=
  ∃ digits place positive, parts value = .finite .positive digits place positive
    ∧ (digits * 2 ^ place : ℚ) = number ∧ 2 ^ 52 ≤ digits

/-- Mantissas with at most 53 digits are doubles. -/
theorem exactly_natural {mantissa : ℕ} (positive : 0 < mantissa) (short : mantissa < 2 ^ 53) :
    Exactly mantissa mantissa.toUInt64.toFloat := by
  have log : mantissa.log2 ≤ 52 := Nat.lt_succ_iff.mp ((Nat.log2_lt positive.ne').mpr short)
  obtain ⟨shift, same⟩ := Nat.exists_eq_add_of_le log
  have low : 2 ^ 52 ≤ mantissa * 2 ^ shift := by
    rw [same, Nat.pow_add]
    exact Nat.mul_le_mul_right _ (Nat.log2_self_le positive.ne')
  have high : mantissa * 2 ^ shift < 2 ^ 53 := by
    have power : (53 : ℕ) = mantissa.log2 + 1 + shift := by omega
    rw [power, Nat.pow_add]
    exact Nat.mul_lt_mul_of_pos_right Nat.lt_log2_self (Nat.two_pow_pos shift)
  have settled : Settled (mantissa * 2 ^ shift) (-shift) := ⟨high, by omega, .inl low⟩
  have number : (((mantissa * 2 ^ shift : ℕ) : ℚ) * 2 ^ (-shift : ℤ)) = mantissa := by
    rw [zpow_neg, zpow_natCast]
    push_cast
    field_simp
  have kept : mantissa.toUInt64.toNat = mantissa := Nat.mod_eq_of_lt (by omega)
  have converted : mantissa.toUInt64.toFloat
      = ofParts (UnpackedFloat.normalize .binary64 mantissa 0 .positive) := by
    show ofParts (UnpackedFloat.normalize .binary64 (mantissa.toUInt64.toNat : ℕ) 0 .positive) = _
    rw [kept]
  have near : IsNearest .positive mantissa mantissa.toUInt64.toFloat := by
    have rounds := rounds_normalize (Int.natCast_ne_zero.mpr positive.ne') 0
    rw [zpow_zero, mul_one, if_neg (Int.not_lt.mpr (Int.natCast_nonneg _)), Int.natAbs_natCast]
      at rounds
    exact ⟨_, rounds, converted⟩
  have self := isNearest_partsOf .positive settled
  rw [number] at self
  refine ⟨mantissa * 2 ^ shift, -shift, Nat.mul_pos positive (Nat.two_pow_pos shift), ?_, number, low⟩
  rw [near.unique self, parts_ofParts (canonical_partsOf settled (by omega))]
  exact partsOf_of_pos .positive _ _

/-- Whether a double has the parts of a power of ten with 53 digits. -/
def isPower (power : ℕ) (value : Float) : Bool :=
  match parts value with
  | .finite .positive digits place _ =>
    -52 ≤ place && digits * 2 ^ (place + 52).toNat == 10 ^ power * 2 ^ 52 && 2 ^ 52 ≤ digits
  | _ => false

theorem exactly_of_isPower {power : ℕ} {value : Float} (tabled : isPower power value = true) :
    Exactly ((10 : ℚ) ^ power) value := by
  unfold isPower at tabled
  split at tabled
  next digits place positive whole =>
    rw [Bool.and_eq_true, Bool.and_eq_true, decide_eq_true_eq, beq_iff_eq, decide_eq_true_eq]
      at tabled
    obtain ⟨⟨least, same⟩, low⟩ := tabled
    refine ⟨digits, place, positive, whole, ?_, low⟩
    obtain ⟨shift, shifted⟩ := Int.eq_ofNat_of_zero_le (by omega : 0 ≤ place + 52)
    have place : place = shift - (52 : ℕ) := by omega
    rw [shifted, Int.toNat_natCast] at same
    have cast : (digits * 2 ^ shift : ℚ) = 10 ^ power * 2 ^ 52 := by exact_mod_cast same
    rw [place, zpow_sub₀ two_ne_zero, zpow_natCast, zpow_natCast, ← mul_div_assoc, cast,
      mul_div_cancel_right₀ _ (pow_ne_zero _ two_ne_zero)]
  next => cases tabled

/-- Short powers of ten are doubles. -/
theorem exactly_power {power : ℕ} (short : power ≤ 22) :
    Exactly ((10 : ℚ) ^ power)
      (getElem Float.exactlyRepresentablePowersOfTen power (Nat.lt_succ_of_le short)) := by
  have tabled : ∀ power : Fin 23, isPower power Float.exactlyRepresentablePowersOfTen[power] = true := by
    decide +kernel
  exact exactly_of_isPower (tabled ⟨power, Nat.lt_succ_of_le short⟩)

namespace Exactly

variable {number factor : ℚ} {value other : Float}

/-- The product of two of them is rounded correctly. -/
theorem isNearest_mul (exactly : Exactly number value) (exactly' : Exactly factor other) :
    IsNearest .positive (number * factor) (value * other) := by
  obtain ⟨digits, place, positive, whole, rfl, low⟩ := exactly
  obtain ⟨digits', place', positive', whole', rfl, low'⟩ := exactly'
  have many : 2 ^ 53 ≤ digits * digits' :=
    le_trans (by decide) (Nat.mul_le_mul low low' : 2 ^ 52 * 2 ^ 52 ≤ _)
  have rounds := rounds_mul .positive .positive place place' positive positive' many
  refine ⟨_, rounds, ?_⟩
  show ofParts (UnpackedFloat.mul .binary64 (parts value) (parts other)) = _
  rw [whole, whole']

/-- The quotient of two of them is rounded correctly. -/
theorem isNearest_div (exactly : Exactly number value) (exactly' : Exactly factor other) :
    IsNearest .positive (number / factor) (value / other) := by
  obtain ⟨digits, place, positive, whole, rfl, -⟩ := exactly
  obtain ⟨digits', place', positive', whole', rfl, -⟩ := exactly'
  have rounds := rounds_div .positive .positive place place' positive positive'
  refine ⟨_, rounds, ?_⟩
  rw [div_eq, whole, whole']

end Exactly

/-! ### Exact products and quotients -/

section Scientific

variable {mantissa : ℕ} (positive : 0 < mantissa)

theorem ten_pow_pos (power : ℕ) : 0 < 10 ^ power :=
  Nat.pow_pos (by decide)

include positive

theorem shifted_pos (shift : ℕ) : 0 < mantissa <<< shift := by
  rw [Nat.shiftLeft_eq]
  exact Nat.mul_pos positive (Nat.two_pow_pos shift)

/-- A mantissa that is shifted left has digits enough for a product with a power of ten. -/
theorem rounds_product (power : ℕ) :
    Rounds .positive (mantissa * 10 ^ power)
      (UnpackedFloat.mul .binary64
        (.finite .positive (mantissa <<< 53) (-53) (shifted_pos positive 53))
        (.finite .positive (10 ^ power) 0 (ten_pow_pos power))) := by
  have many : 2 ^ 53 ≤ mantissa <<< 53 * 10 ^ power := by
    rw [Nat.shiftLeft_eq]
    calc 2 ^ 53 ≤ mantissa * 2 ^ 53 := Nat.le_mul_of_pos_left _ positive
      _ ≤ mantissa * 2 ^ 53 * 10 ^ power := Nat.le_mul_of_pos_right _ (ten_pow_pos power)
  have rounds : Rounds (.positive * .positive)
      ((mantissa <<< 53 : ℕ) * 2 ^ (-53 : ℤ) * ((10 ^ power : ℕ) * 2 ^ (0 : ℤ))) _ :=
    rounds_mul .positive .positive (-53) 0 (shifted_pos positive 53) (ten_pow_pos power) many
  have number : ((mantissa <<< 53 : ℕ) * 2 ^ (-53 : ℤ) * ((10 ^ power : ℕ) * 2 ^ (0 : ℤ)) : ℚ)
      = mantissa * 10 ^ power := by
    rw [Nat.shiftLeft_eq]
    push_cast
    field_simp
    norm_num
  rwa [number] at rounds

theorem rounds_quotient (power : ℕ) :
    Rounds .positive (mantissa / 10 ^ power)
      (UnpackedFloat.div .binary64 (.finite .positive mantissa 0 positive)
        (.finite .positive (10 ^ power) 0 (ten_pow_pos power))) := by
  have rounds : Rounds (.positive / .positive)
      (mantissa * 2 ^ (0 : ℤ) / ((10 ^ power : ℕ) * 2 ^ (0 : ℤ))) _ :=
    rounds_div .positive .positive 0 0 positive (ten_pow_pos power)
  have number : (mantissa * 2 ^ (0 : ℤ) / ((10 ^ power : ℕ) * 2 ^ (0 : ℤ)) : ℚ)
      = mantissa / 10 ^ power := by
    push_cast
    norm_num
  rwa [number] at rounds

end Scientific

/-! ### The double that is read -/

theorem isNearest_zero : IsNearest .positive 0 (ofParts (.zero .positive)) := by
  have settled : Settled 0 (-1074) := ⟨by decide, le_rfl, .inr rfl⟩
  have near := isNearest_partsOf .positive settled
  rwa [Nat.cast_zero, zero_mul] at near

section Reading

variable {mantissa : ℕ} {exponent : ℤ}

/-- A power of ten as a factor or a divisor. -/
theorem mul_ten_zpow (number : ℚ) (exponent : ℤ) :
    number * 10 ^ exponent
      = if exponent < 0 then number / 10 ^ exponent.natAbs else number * 10 ^ exponent.natAbs := by
  split
  next negative =>
    have opposite : exponent = -(exponent.natAbs : ℤ) := by omega
    conv_lhs => rw [opposite]
    rw [zpow_neg, zpow_natCast, div_eq_mul_inv]
  next notNegative =>
    have same : exponent = (exponent.natAbs : ℤ) := by omega
    conv_lhs => rw [same]
    rw [zpow_natCast]

/-- Short mantissas and powers of ten need one operation. -/
theorem isNearest_short (short : mantissa < 2 ^ 53 ∧ exponent.natAbs ≤ 22) :
    IsNearest .positive (mantissa * 10 ^ exponent) (ofScientific mantissa exponent) := by
  have power := exactly_power short.2
  have read : ofScientific mantissa exponent
      = if exponent < 0 then
          mantissa.toUInt64.toFloat
            / getElem Float.exactlyRepresentablePowersOfTen exponent.natAbs
              (Nat.lt_succ_of_le short.2)
        else
          mantissa.toUInt64.toFloat
            * getElem Float.exactlyRepresentablePowersOfTen exponent.natAbs
              (Nat.lt_succ_of_le short.2) := by
    rw [ofScientific, Float.ofScientific, dif_pos short]
    by_cases negative : exponent < 0
    · rw [if_pos negative, decide_eq_true negative, if_pos rfl]
      rfl
    · rw [if_neg negative, decide_eq_false negative, if_neg Bool.false_ne_true]
      rfl
  rw [mul_ten_zpow, read]
  rcases Nat.eq_zero_or_pos mantissa with rfl | positive
  · have whole : parts (Nat.toUInt64 0).toFloat = .zero .positive := rfl
    obtain ⟨digits, place, positive, whole', -⟩ := power
    rw [Nat.cast_zero, zero_mul, zero_div, ite_self]
    split
    · rw [div_eq, whole, whole']
      exact isNearest_zero
    · show IsNearest .positive 0 (ofParts (UnpackedFloat.mul .binary64 (parts _) (parts _)))
      rw [whole, whole']
      exact isNearest_zero
  · have natural := exactly_natural positive short.1
    split
    · exact natural.isNearest_div power
    · exact natural.isNearest_mul power

theorem two_pow_le_ten_pow (power : ℕ) : (2 : ℚ) ^ power ≤ 10 ^ power :=
  pow_le_pow_left₀ zero_le_two (by norm_num) power

/-- A power of ten that is far too large makes a number infinite. -/
theorem isNearest_large (positive : 0 < mantissa) (large : 2048 < exponent) :
    IsNearest .positive (mantissa * 10 ^ exponent) (ofParts (.infinity .positive)) := by
  obtain ⟨power, same⟩ := Int.eq_ofNat_of_zero_le (by omega : 0 ≤ exponent)
  have rounds := rounds_product positive power
  rw [← zpow_natCast, ← same] at rounds
  obtain ⟨nonneg, digits, place, settled, nearest, rounded⟩ := rounds
  have threshold : Settled (2 ^ 52) 972 := ⟨by decide, by decide, .inl le_rfl⟩
  have far : ((2 ^ 52 : ℕ) * 2 ^ (972 : ℤ) : ℚ) ≤ mantissa * 10 ^ exponent := by
    have one : (1 : ℚ) ≤ mantissa := by exact_mod_cast positive
    calc ((2 ^ 52 : ℕ) * 2 ^ (972 : ℤ) : ℚ) = 2 ^ (1024 : ℤ) := by
          have exponents : ((52 : ℕ) : ℤ) + 972 = 1024 := rfl
          rw [Nat.cast_pow, Nat.cast_ofNat, ← zpow_natCast, ← zpow_add₀ two_ne_zero, exponents]
      _ ≤ 2 ^ exponent := zpow_le_zpow_right₀ one_le_two (by omega)
      _ ≤ 10 ^ exponent := by
          rw [same, zpow_natCast, zpow_natCast]
          exact two_pow_le_ten_pow power
      _ ≤ mantissa * 10 ^ exponent := le_mul_of_one_le_left (zpow_pos (by norm_num) _).le one
  have high : 971 < place := by
    by_contra low
    exact absurd (threshold.nearest.mono nearest far) (not_le.mpr (settled.lt threshold (by omega)))
  exact ⟨_, ⟨nonneg, digits, place, settled, nearest, rfl⟩, (ofParts_of_lt settled high).symm⟩

/-- A power of ten that is far too small makes a number zero. -/
theorem isNearest_small (positive : 0 < mantissa) (small : exponent < -(2048 + mantissa.log2)) :
    IsNearest .positive (mantissa * 10 ^ exponent) (ofParts (.zero .positive)) := by
  obtain ⟨power, same⟩ := Int.eq_ofNat_of_zero_le (by omega : 0 ≤ -exponent)
  have number : (mantissa * 10 ^ exponent : ℚ) = mantissa / 10 ^ power := by
    have opposite : exponent = -(power : ℤ) := by omega
    rw [opposite, zpow_neg, zpow_natCast, div_eq_mul_inv]
  have rounds := rounds_quotient positive power
  rw [← number] at rounds
  obtain ⟨nonneg, digits, place, settled, nearest, rounded⟩ := rounds
  have near : (mantissa * 10 ^ exponent : ℚ) < doubles.weight (-1074) / 2 := by
    have high : (mantissa : ℚ) < 2 ^ (mantissa.log2 + 1) := by
      exact_mod_cast (Nat.lt_log2_self : mantissa < 2 ^ (mantissa.log2 + 1))
    rw [number, weight_doubles]
    calc (mantissa / 10 ^ power : ℚ) < 2 ^ (mantissa.log2 + 1) / 10 ^ power :=
          div_lt_div_of_pos_right high (pow_pos (by norm_num) power)
      _ ≤ 2 ^ (mantissa.log2 + 1) / 2 ^ power :=
          div_le_div_of_nonneg_left (pow_pos two_pos _).le (pow_pos two_pos power)
            (two_pow_le_ten_pow power)
      _ = 2 ^ ((mantissa.log2 + 1 : ℕ) - power : ℤ) := by
          rw [zpow_sub₀ two_ne_zero, zpow_natCast, zpow_natCast]
      _ ≤ 2 ^ (-1074 - 1 : ℤ) := zpow_le_zpow_right₀ one_le_two (by push_cast; omega)
      _ = 2 ^ (-1074 : ℤ) / 2 := by rw [zpow_sub_one₀ two_ne_zero, div_eq_mul_inv]
  have none := nearest.eq_zero_of_lt rfl nonneg near
  have settled : Settled 0 (-1074) := ⟨by decide, le_rfl, .inr rfl⟩
  refine ⟨_, ⟨nonneg, 0, -1074, settled, ?_, rfl⟩, rfl⟩
  rw [Nat.cast_zero, zero_mul, ← none]
  exact nearest

/-- **The double that is read is the one nearest to the number.** -/
theorem isNearest_ofScientific (mantissa : ℕ) (exponent : ℤ) :
    IsNearest .positive (mantissa * 10 ^ exponent) (ofScientific mantissa exponent) := by
  by_cases short : mantissa < 2 ^ 53 ∧ exponent.natAbs ≤ 22
  · exact isNearest_short short
  have read : ofScientific mantissa exponent
      = ofParts (UnpackedFloat.ofScientific .binary64 mantissa exponent) := by
    have number : (if decide (exponent < 0) = true then Int.negOfNat exponent.natAbs
        else Int.ofNat exponent.natAbs) = exponent := by
      rw [Int.negOfNat_eq, Int.ofNat_eq_natCast]
      split
      next negative =>
        rw [decide_eq_true_eq] at negative
        omega
      next notNegative =>
        rw [decide_eq_true_eq] at notNegative
        omega
    rw [ofScientific, Float.ofScientific, dif_neg short]
    simp only [number]
    rfl
  rw [read, UnpackedFloat.ofScientific]
  split
  next zero =>
    rw [zero, Nat.cast_zero, zero_mul]
    exact isNearest_zero
  next nonzero =>
    have positive := Nat.pos_of_ne_zero nonzero
    split
    next large => exact isNearest_large positive large
    split
    next small => exact isNearest_small positive small
    split
    next nonneg =>
      have same : exponent = (exponent.toNat : ℤ) := (Int.toNat_of_nonneg nonneg).symm
      have number : (mantissa * 10 ^ exponent : ℚ) = mantissa * 10 ^ exponent.toNat := by
        conv_lhs => rw [same]
        rw [zpow_natCast]
      rw [number]
      exact ⟨_, rounds_product positive exponent.toNat, rfl⟩
    next negative =>
      have opposite : exponent = -((-exponent).toNat : ℤ) := by omega
      have number : (mantissa * 10 ^ exponent : ℚ) = mantissa / 10 ^ (-exponent).toNat := by
        conv_lhs => rw [opposite]
        rw [zpow_neg, zpow_natCast, div_eq_mul_inv]
      rw [number]
      exact ⟨_, rounds_quotient positive (-exponent).toNat, rfl⟩

end Reading

end LinearProgram.Decimal
