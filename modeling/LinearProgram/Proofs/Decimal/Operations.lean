/-
**Products, quotients and sums are rounded correctly.**

Multiplication and addition hand their exact results to rounding, and division the quotient with
what is left over. The exponent has to be low enough for 53 digits, which each operation sees to in
its own way.

* `rounds_mul`, `rounds_div`, `rounds_normalize`: what the operations do on parts.
* `IsNearest`: the double with a sign whose magnitude is nearest to a number.
* **`IsNearest.unique`, `unitsOf_mono`**: there is one, and numbers in order have them in order.
-/

import LinearProgram.Proofs.Decimal.Arithmetic
import LinearProgram.Proofs.Decimal.Correct

namespace LinearProgram.Decimal

open Float.Model UnpackedFloat

/-! ### Operations on parts -/

section Parts

variable {mantissa factor : ℕ} {exponent : ℤ}

/-- An exact mantissa is rounded at a place that is not below its exponent. -/
theorem rounds_exact (sign : Sign) (positive : 0 < mantissa)
    (le : exponent ≤ Format.binary64.targetExponent (totalExponent mantissa exponent)) :
    Rounds sign (mantissa * 2 ^ exponent)
      (roundWithAccuracy .binary64 sign mantissa exponent .exact) :=
  rounds_roundWithAccuracy sign (show Describes mantissa .exact mantissa from rfl) le (.inl positive)

/-- Digits are added at the end until there are enough of them. -/
theorem rounds_round (sign : Sign) (positive : 0 < mantissa) (exponent : ℤ) :
    Rounds sign (mantissa * 2 ^ exponent) (UnpackedFloat.round .binary64 sign mantissa exponent) := by
  let target := Format.binary64.targetExponent (totalExponent mantissa exponent)
  let shift := (exponent - target).toNat
  have shifted : UnpackedFloat.round .binary64 sign mantissa exponent
      = roundWithAccuracy .binary64 sign (mantissa * 2 ^ shift) (exponent - shift) .exact := by
    rw [← Nat.shiftLeft_eq]
    rfl
  have same : ((mantissa * 2 ^ shift : ℕ) : ℚ) * 2 ^ (exponent - shift) = mantissa * 2 ^ exponent := by
    rw [zpow_sub₀ two_ne_zero, zpow_natCast]
    push_cast
    field_simp
  have le : exponent - shift ≤ Format.binary64.targetExponent
      (totalExponent (mantissa * 2 ^ shift) (exponent - shift)) := by
    have total : totalExponent (mantissa * 2 ^ shift) (exponent - shift)
        = totalExponent mantissa exponent := by
      rw [totalExponent, totalExponent, log2_mul_pow positive]
      omega
    rw [total]
    omega
  rw [shifted, ← same]
  exact rounds_exact sign (Nat.mul_pos positive (Nat.two_pow_pos shift)) le

/-- **The product of two mantissas with at least 54 digits together is rounded correctly.** -/
theorem rounds_mul (sign other : Sign) (exponent power : ℤ) (positive : 0 < mantissa)
    (positive' : 0 < factor) (digits : 2 ^ 53 ≤ mantissa * factor) :
    Rounds (sign * other) (mantissa * 2 ^ exponent * (factor * 2 ^ power))
      (UnpackedFloat.mul .binary64 (.finite sign mantissa exponent positive)
        (.finite other factor power positive')) := by
  have product : (mantissa * 2 ^ exponent * (factor * 2 ^ power) : ℚ)
      = (mantissa * factor : ℕ) * 2 ^ (exponent + power) := by
    rw [zpow_add₀ two_ne_zero]
    push_cast
    ring
  rw [product]
  refine rounds_exact _ (Nat.mul_pos positive positive') ?_
  have log : 53 ≤ (mantissa * factor).log2 :=
    (Nat.le_log2 (Nat.mul_pos positive positive').ne').mpr digits
  rw [targetExponent_totalExponent]
  omega

/-- The digits of a quotient. -/
theorem log2_le_log2_div {divisor : ℕ} (positive : 0 < divisor) (some : 0 < mantissa / divisor) :
    mantissa.log2 ≤ (mantissa / divisor).log2 + divisor.log2 + 1 := by
  have nonzero : mantissa ≠ 0 := by
    rintro rfl
    rw [Nat.zero_div] at some
    exact Nat.lt_irrefl 0 some
  have below : mantissa < 2 ^ ((mantissa / divisor).log2 + 1 + (divisor.log2 + 1)) := by
    rw [Nat.pow_add]
    calc mantissa < divisor * (mantissa / divisor + 1) := Nat.lt_mul_div_succ mantissa positive
      _ ≤ 2 ^ (divisor.log2 + 1) * 2 ^ ((mantissa / divisor).log2 + 1) :=
        Nat.mul_le_mul Nat.lt_log2_self.le Nat.lt_log2_self
      _ = 2 ^ ((mantissa / divisor).log2 + 1) * 2 ^ (divisor.log2 + 1) := Nat.mul_comm ..
  have := (Nat.log2_lt nonzero).mpr below
  omega

/-- **The quotient of two mantissas is rounded correctly.** -/
theorem rounds_div {divisor : ℕ} (sign other : Sign) (exponent power : ℤ)
    (positive : 0 < mantissa) (positive' : 0 < divisor) :
    Rounds (sign / other) (mantissa * 2 ^ exponent / (divisor * 2 ^ power))
      (UnpackedFloat.div .binary64 (.finite sign mantissa exponent positive)
        (.finite other divisor power positive')) := by
  let target := min (exponent - power) (Format.binary64.targetExponent
    (totalExponent mantissa exponent - totalExponent divisor power))
  obtain ⟨shift, amount⟩ := Int.eq_ofNat_of_zero_le
    (Int.sub_nonneg_of_le (min_le_left _ _ : target ≤ exponent - power))
  have divided : UnpackedFloat.div .binary64 (.finite sign mantissa exponent positive)
        (.finite other divisor power positive')
      = roundWithAccuracy .binary64 (sign / other) (mantissa * 2 ^ shift / divisor) target
        (accuracyOfFraction (mantissa * 2 ^ shift % divisor) divisor) := by
    have shifted : (exponent - power - target).toNat = shift := by omega
    rw [← Nat.shiftLeft_eq, ← shifted]
    rfl
  have quotient : (mantissa * 2 ^ exponent / (divisor * 2 ^ power) : ℚ)
      = ((mantissa * 2 ^ shift : ℕ) / divisor : ℚ) * 2 ^ target := by
    have exponents : exponent = shift + target + power := by omega
    rw [exponents, zpow_add₀ two_ne_zero, zpow_add₀ two_ne_zero, zpow_natCast]
    push_cast
    field_simp
  have targets : Format.binary64.targetExponent
      (totalExponent mantissa exponent - totalExponent divisor power)
      = max (mantissa.log2 + exponent - (divisor.log2 + power) - 53) (-1074) := by
    have total : totalExponent mantissa exponent - totalExponent divisor power
        = mantissa.log2 + exponent - (divisor.log2 + power) := by
      rw [totalExponent, totalExponent]
      omega
    rw [total]
    rfl
  have logs : (mantissa * 2 ^ shift).log2 = mantissa.log2 + shift := log2_mul_pow positive shift
  have least : target ≤ max (mantissa.log2 + exponent - (divisor.log2 + power) - 53) (-1074) :=
    targets ▸ min_le_right _ _
  have least' : target = exponent - power
      ∨ target = max (mantissa.log2 + exponent - (divisor.log2 + power) - 53) (-1074) :=
    targets ▸ min_choice _ _
  -- A quotient without digits lies below the least place.
  have small : mantissa * 2 ^ shift / divisor = 0 → target ≤ -1074 := by
    intro zero
    have less : mantissa * 2 ^ shift < divisor :=
      (Nat.div_eq_zero_iff_lt positive').mp zero
    have nonzero : mantissa * 2 ^ shift ≠ 0 := (Nat.mul_pos positive (Nat.two_pow_pos shift)).ne'
    have digits : (mantissa * 2 ^ shift).log2 ≤ divisor.log2 :=
      (Nat.le_log2 positive'.ne').mpr ((Nat.log2_self_le nonzero).trans less.le)
    omega
  rw [divided, quotient]
  refine rounds_roundWithAccuracy _ (.quotient _ positive') ?_ ?_
  · rw [targetExponent_totalExponent]
    rcases Nat.eq_zero_or_pos (mantissa * 2 ^ shift / divisor) with zero | some
    · have low := small zero
      omega
    · have digits := log2_le_log2_div positive' some
      omega
  · exact (Nat.eq_zero_or_pos _).symm.imp_right small

/-- **A sum is rounded correctly** from its exact mantissa. -/
theorem rounds_normalize {sum : ℤ} (nonzero : sum ≠ 0) (exponent : ℤ) :
    Rounds (if sum < 0 then .negative else .positive) (sum.natAbs * 2 ^ exponent)
      (UnpackedFloat.normalize .binary64 sum exponent .positive) := by
  have positive : 0 < sum.natAbs := Int.natAbs_pos.mpr nonzero
  rcases Int.lt_or_gt_of_ne nonzero with negative | above
  · have magnitude : (-sum).toNat = sum.natAbs := by omega
    rw [if_pos negative, UnpackedFloat.normalize, Int.compare_eq_lt.mpr negative]
    dsimp only
    rw [magnitude]
    exact rounds_round .negative positive exponent
  · have magnitude : sum.toNat = sum.natAbs := by omega
    rw [if_neg (Int.not_lt.mpr (Int.le_of_lt above)), UnpackedFloat.normalize,
      Int.compare_eq_gt.mpr above]
    dsimp only
    rw [magnitude]
    exact rounds_round .positive positive exponent

end Parts

/-! ### Doubles -/

/-- **The double with a sign whose magnitude is nearest to a number**; what has too high an exponent
is infinite. -/
def IsNearest (sign : Sign) (number : ℚ) (value : Float) : Prop :=
  ∃ given, Rounds sign number given ∧ value = ofParts given

/-- The magnitude of what comes out of rounding, as a multiple of the least positive double. -/
def reach (digits : ℕ) (place : ℤ) : ℕ :=
  if place ≤ 971 then digits * 2 ^ (place + 1074).toNat else beyond 2100

section Settled

variable {sign : Sign} {digits more : ℕ} {place higher : ℤ}

theorem partsOf_of_pos (sign : Sign) (positive : 0 < digits) (place : ℤ) :
    partsOf sign digits place = .finite sign digits place positive :=
  dif_neg positive.ne'

theorem canonical_partsOf (settled : Settled digits place) (bounded : place ≤ 971) :
    Canonical (partsOf sign digits place) := by
  unfold partsOf
  split
  · trivial
  · exact ⟨settled.short, settled.least, bounded, settled.full⟩

/-- Too high an exponent makes a number infinite. -/
theorem ofParts_of_lt (settled : Settled digits place) (high : 971 < place) :
    ofParts (partsOf sign digits place) = ofParts (.infinity sign) := by
  have positive : 0 < digits := by
    have low : 2 ^ 52 ≤ digits := settled.full.resolve_right (by omega)
    omega
  have biased : (place + Format.binary64.exponentBias
      + Format.binary64.mantissaBitsWithoutImplicit).toNat = (place + 1075).toNat :=
    congrArg Int.toNat (Int.add_assoc place 1023 52)
  have large : 2 ^ 11 ≤ (place + 1075).toNat + 1 := by omega
  have packed : UnpackedFloat.pack .binary64 (.finite sign digits place positive)
      = UnpackedFloat.pack .binary64 (.infinity sign) := by
    unfold UnpackedFloat.pack
    dsimp only
    rw [biased]
    exact if_pos large
  rw [partsOf_of_pos sign positive, ofParts, ofParts, Float.Model.pack, Float.Model.pack]
  simp only [packed]

theorem units_partsOf (sign : Sign) (digits : ℕ) (place : ℤ) :
    units (partsOf sign digits place) = sign.apply (digits * 2 ^ (place + 1074).toNat : ℕ) := by
  unfold partsOf
  split
  next zero =>
    subst zero
    rw [Nat.zero_mul]
    cases sign <;> rfl
  next => rfl

/-- **A double that comes out of rounding, as a multiple of the least positive one.** -/
theorem unitsOf_ofParts (settled : Settled digits place) :
    unitsOf (ofParts (partsOf sign digits place)) = sign.apply (reach digits place) := by
  unfold reach
  split
  next bounded =>
    rw [unitsOf, parts_ofParts (canonical_partsOf settled bounded), units_partsOf]
  next high =>
    have infinite : Canonical (.infinity sign) := trivial
    rw [ofParts_of_lt settled (not_le.mp high), unitsOf, parts_ofParts infinite]
    rfl

theorem cast_magnitude (least : -1074 ≤ place) :
    ((digits * 2 ^ (place + 1074).toNat : ℕ) : ℚ) = digits * 2 ^ place * 2 ^ (1074 : ℤ) := by
  obtain ⟨power, same⟩ := Int.eq_ofNat_of_zero_le (by omega : 0 ≤ place + 1074)
  rw [same, Int.toNat_natCast, mul_assoc, ← zpow_add₀ two_ne_zero, same, zpow_natCast]
  push_cast
  rfl

/-- A higher exponent makes a larger number. -/
theorem Settled.lt (settled : Settled digits place) (settled' : Settled more higher)
    (less : place < higher) : (digits * 2 ^ place : ℚ) < more * 2 ^ higher := by
  have low : 2 ^ 52 ≤ more := settled'.full.resolve_right (by have := settled.least; omega)
  have short : (digits : ℚ) < 2 ^ 53 := by exact_mod_cast settled.short
  have full : (2 ^ 52 : ℚ) ≤ more := by exact_mod_cast low
  calc (digits * 2 ^ place : ℚ) < 2 ^ 53 * 2 ^ place :=
        mul_lt_mul_of_pos_right short (zpow_pos two_pos place)
    _ = 2 ^ 52 * 2 ^ (place + 1) := by
        rw [zpow_add₀ two_ne_zero]
        ring
    _ ≤ more * 2 ^ higher :=
        mul_le_mul full (zpow_le_zpow_right₀ one_le_two less) (zpow_pos two_pos _).le
          (Nat.cast_nonneg more)

/-- A larger number reaches farther. -/
theorem reach_mono (settled : Settled digits place) (settled' : Settled more higher)
    (le : (digits * 2 ^ place : ℚ) ≤ more * 2 ^ higher) : reach digits place ≤ reach more higher := by
  unfold reach
  split
  next bounded =>
    split
    next bounded' =>
      have cast : ((digits * 2 ^ (place + 1074).toNat : ℕ) : ℚ)
          ≤ (more * 2 ^ (higher + 1074).toNat : ℕ) := by
        rw [cast_magnitude settled.least, cast_magnitude settled'.least]
        exact mul_le_mul_of_nonneg_right le (zpow_pos two_pos _).le
      exact_mod_cast cast
    next =>
      calc digits * 2 ^ (place + 1074).toNat ≤ 2 ^ 53 * 2 ^ (place + 1074).toNat :=
            Nat.mul_le_mul_right _ settled.short.le
        _ = 2 ^ (53 + (place + 1074).toNat) := (Nat.pow_add ..).symm
        _ ≤ beyond 2100 := two_pow_le_beyond (by omega)
  next high =>
    split
    next bounded' => exact absurd le (not_le.mpr (settled'.lt settled (by omega)))
    next => exact le_rfl

/-- What is nearest to zero does not reach beyond it. -/
theorem reach_eq_zero (settled : Settled digits place)
    (nearest : doubles.Nearest 0 (digits * 2 ^ place)) : reach digits place = 0 := by
  have none : digits = 0 := by
    have zero := (mul_eq_zero_iff_right (zpow_pos two_pos place).ne').mp nearest.eq_zero
    exact_mod_cast zero
  subst none
  have least : place = -1074 := settled.full.resolve_left (by decide)
  rw [reach, if_pos (by omega), Nat.zero_mul]

/-- The opposite of a double that comes out of rounding. -/
theorem neg_ofParts (sign : Sign) (settled : Settled digits place) :
    -ofParts (partsOf sign digits place) = ofParts (partsOf (-sign) digits place) := by
  refine eq_of_parts ?_
  rw [parts_neg]
  by_cases bounded : place ≤ 971
  · rw [parts_ofParts (canonical_partsOf settled bounded),
      parts_ofParts (canonical_partsOf settled bounded), partsOf, partsOf]
    split <;> rfl
  · rw [ofParts_of_lt settled (not_le.mp bounded), ofParts_of_lt settled (not_le.mp bounded)]
    cases sign <;> rfl

/-- A mantissa and an exponent that come out of rounding are determined by the number. -/
theorem Settled.unique (settled : Settled digits place) (settled' : Settled more higher)
    (same : (digits * 2 ^ place : ℚ) = more * 2 ^ higher) : digits = more ∧ place = higher := by
  rcases lt_trichotomy place higher with less | rfl | greater
  · exact absurd same (settled.lt settled' less).ne
  · have cast := mul_right_cancel₀ (zpow_pos two_pos place).ne' same
    exact ⟨by exact_mod_cast cast, rfl⟩
  · exact absurd same (settled'.lt settled greater).ne'

/-- What comes out of rounding needs no rounding. -/
theorem Settled.nearest (settled : Settled digits place) :
    doubles.Nearest (digits * 2 ^ place) (digits * 2 ^ place) := by
  have width : (doubles.digits : ℤ) = 53 := rfl
  rw [← weight_doubles]
  refine Grid.nearest_self ⟨WithBot.coe_le_coe.mpr settled.least, ?_, ?_⟩
  · rw [weight_doubles, weight_doubles, width]
    exact natCast_lt_zpow (by exact_mod_cast settled.short) place
  · rcases settled.full with full | least
    · right
      have same : (53 : ℤ) + place - 1 = (52 : ℕ) + place := by omega
      rw [weight_doubles, weight_doubles, width, same]
      exact zpow_le_natCast (by exact_mod_cast full) place
    · exact .inl (congrArg _ least)

/-- A double that comes out of rounding is nearest to itself. -/
theorem isNearest_partsOf (sign : Sign) (settled : Settled digits place) :
    IsNearest sign (digits * 2 ^ place) (ofParts (partsOf sign digits place)) :=
  ⟨_, ⟨mul_nonneg (Nat.cast_nonneg _) (zpow_pos two_pos _).le, digits, place, settled,
    settled.nearest, rfl⟩, rfl⟩

end Settled

namespace IsNearest

variable {sign other : Sign} {number larger : ℚ} {value above : Float}

/-- **There is one nearest double.** -/
theorem unique (near : IsNearest sign number value) (near' : IsNearest sign number above) :
    value = above := by
  obtain ⟨given, ⟨-, digits, place, settled, nearest, rfl⟩, rfl⟩ := near
  obtain ⟨given', ⟨-, digits', place', settled', nearest', rfl⟩, rfl⟩ := near'
  obtain ⟨rfl, rfl⟩ := settled.unique settled' (nearest.unique nearest')
  rfl

theorem neg (near : IsNearest sign number value) : IsNearest (-sign) number (-value) := by
  obtain ⟨given, ⟨nonneg, digits, place, settled, nearest, rfl⟩, rfl⟩ := near
  exact ⟨_, ⟨nonneg, digits, place, settled, nearest, rfl⟩, neg_ofParts sign settled⟩

theorem sign?_eq (near : IsNearest sign number value) : sign? (parts value) = some sign := by
  obtain ⟨given, ⟨-, digits, place, -, -, rfl⟩, rfl⟩ := near
  rw [sign?_parts_ofParts, partsOf]
  split <;> rfl

theorem isNaN (near : IsNearest sign number value) : value.isNaN = false := by
  have sign := near.sign?_eq
  rw [isNaN_eq]
  cases whole : parts value with
  | notANumber => rw [whole] at sign; cases sign
  | infinity | zero | finite => rfl

end IsNearest

/-- A number with a sign. -/
def signed (sign : Sign) (number : ℚ) : ℚ :=
  match sign with
  | .negative => -number
  | .positive => number

/-- **Numbers in order have nearest doubles in order.** -/
theorem unitsOf_mono {sign other : Sign} {number larger : ℚ} {value above : Float}
    (near : IsNearest sign number value) (near' : IsNearest other larger above)
    (le : signed sign number ≤ signed other larger) : unitsOf value ≤ unitsOf above := by
  obtain ⟨given, ⟨nonneg, digits, place, settled, nearest, rfl⟩, rfl⟩ := near
  obtain ⟨given', ⟨nonneg', digits', place', settled', nearest', rfl⟩, rfl⟩ := near'
  rw [unitsOf_ofParts settled, unitsOf_ofParts settled']
  cases sign with
  | positive =>
    cases other with
    | positive =>
      exact Int.ofNat_le.mpr (reach_mono settled settled' (nearest.mono nearest' le))
    | negative =>
      -- A number that is neither below zero nor above it is zero.
      have le : number ≤ -larger := le
      obtain rfl : number = 0 := by linarith
      obtain rfl : larger = 0 := by linarith
      rw [reach_eq_zero settled nearest, reach_eq_zero settled' nearest']
      exact Int.le_refl 0
  | negative =>
    cases other with
    | positive => exact (Int.neg_nonpos_of_nonneg (Int.natCast_nonneg _)).trans (Int.natCast_nonneg _)
    | negative =>
      have le' : larger ≤ number := neg_le_neg_iff.mp le
      exact Int.neg_le_neg (Int.ofNat_le.mpr (reach_mono settled' settled (nearest'.mono nearest le')))

end LinearProgram.Decimal
