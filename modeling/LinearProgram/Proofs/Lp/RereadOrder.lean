/-
**Numbers that are written and read keep their order.**

A number is rounded twice on its way: to twelve digits when it is written, and to a double when it is
read. Both keep the order, so limits that are not empty between them are not empty when they come
back.

* `NearestDecimal`: a number with a sign and its nearest decimal.
* `isRounded_written`: what is read is the double nearest to the decimal that is written.
* **`rereadLimit_mono`**: limits in order come back in order.
-/

import LinearProgram.Proofs.Decimal.Additive
import LinearProgram.Proofs.Lp.Recovered
import LinearProgram.Proofs.Lp.TextValue

namespace LinearProgram.Lp

open Decimal

/-- **The nearest decimal of a number with a sign.** -/
def NearestDecimal (number decimal : ℚ) : Prop :=
  number = 0 ∧ decimal = 0 ∨ ∃ sign magnitude rounded, 0 < magnitude
    ∧ decimalGrid.Nearest magnitude rounded ∧ number = signed sign magnitude
    ∧ decimal = signed sign rounded

/-- Numbers in order have nearest decimals in order. -/
theorem NearestDecimal.mono {number larger decimal above : ℚ} (near : NearestDecimal number decimal)
    (near' : NearestDecimal larger above) (le : number ≤ larger) : decimal ≤ above := by
  obtain ⟨rfl, rfl⟩ | ⟨sign, magnitude, rounded, positive, nearest, rfl, rfl⟩ := near
  · obtain ⟨rfl, rfl⟩ | ⟨sign, magnitude, rounded, positive, nearest, rfl, rfl⟩ := near'
    · exact le
    · cases sign with
      | negative =>
        have le : 0 ≤ -magnitude := le
        linarith
      | positive => exact nearest.nonneg
  · obtain ⟨rfl, rfl⟩ | ⟨sign', magnitude', rounded', positive', nearest', rfl, rfl⟩ := near'
    · cases sign with
      | negative => exact neg_nonpos_of_nonneg nearest.nonneg
      | positive =>
        have le : magnitude ≤ 0 := le
        linarith
    · cases sign with
      | negative =>
        cases sign' with
        | negative => exact neg_le_neg (nearest'.mono nearest (neg_le_neg_iff.mp le))
        | positive => exact (neg_nonpos_of_nonneg nearest.nonneg).trans nearest'.nonneg
      | positive =>
        cases sign' with
        | negative =>
          have le : magnitude ≤ -magnitude' := le
          linarith
        | positive => exact nearest.mono nearest' le

open Float.Model UnpackedFloat

section Finite

variable {value larger : Float}

/-- **What is read is the double nearest to the decimal that is written.** -/
theorem isRounded_written (finite : value.isFinite = true) :
    ∃ decimal, NearestDecimal (valueOf value) decimal ∧ IsRounded decimal (written value) := by
  cases whole : parts value with
  | notANumber | infinity => rw [isFinite_eq, whole] at finite; cases finite
  | zero sign =>
    have zero : (value == 0) = true := beq_zero_iff.mpr ⟨sign, whole⟩
    have none : written 0 = ofParts (.zero .positive) := by decide +kernel
    refine ⟨0, .inl ⟨valueOf_of_zero zero, rfl⟩, ?_⟩
    rw [← written_congr (Same.zero zero), none]
    exact isRounded_zero
  | finite sign mantissa exponent positive =>
    obtain ⟨back, near, same⟩ := written_of_finite whole
    obtain ⟨nearest, -, -⟩ := writtenDecimal_spec positive exponent
    refine ⟨signed sign ((writtenDecimal mantissa exponent).value writtenDigits),
      .inr ⟨sign, _, _, ?_, nearest, valueOf_of_parts whole, rfl⟩, ?_⟩
    · exact mul_pos (by exact_mod_cast positive) (zpow_pos two_pos exponent)
    · rw [same]
      cases sign with
      | positive => exact near.isRounded
      | negative => exact near.neg.isRounded

theorem unitsOf_written_mono (finite : value.isFinite = true) (finite' : larger.isFinite = true)
    (le : unitsOf value ≤ unitsOf larger) : unitsOf (written value) ≤ unitsOf (written larger) := by
  obtain ⟨decimal, near, rounded⟩ := isRounded_written finite
  obtain ⟨above, near', rounded'⟩ := isRounded_written finite'
  refine rounded.unitsOf_mono rounded' (near.mono near' ?_)
  have cast : (unitsOf value : ℚ) ≤ unitsOf larger := by exact_mod_cast le
  exact mul_le_mul_of_nonneg_right cast (zpow_pos two_pos _).le

end Finite

/-! ### Limits -/

section Limits

variable {value larger : Float}

/-- What is finite lies between the infinite ones. -/
theorem unitsOf_lt (finite : value.isFinite = true) :
    unitsOf (-infinity) < unitsOf value ∧ unitsOf value < unitsOf infinity :=
  units_bounds (canonical_parts value) finite

/-- Everything that is a number lies between the infinite ones, or is one of them. -/
theorem unitsOf_bounds (number : value.isNaN = false) :
    unitsOf (-infinity) ≤ unitsOf value ∧ unitsOf value ≤ unitsOf infinity := by
  by_cases infinite : value.isInf = true
  · have order : unitsOf (-infinity) ≤ unitsOf infinity := by decide +kernel
    rcases eq_infinity_of_isInf infinite with rfl | rfl
    · exact ⟨order, Int.le_refl _⟩
    · exact ⟨Int.le_refl _, order⟩
  · obtain ⟨low, high⟩ := unitsOf_lt (isFinite_of_not_isInf number infinite)
    exact ⟨Int.le_of_lt low, Int.le_of_lt high⟩

/-- What does not lie between the infinite ones is one of them. -/
theorem eq_of_unitsOf_le (number : value.isNaN = false) :
    (unitsOf infinity ≤ unitsOf value → value = infinity)
      ∧ (unitsOf value ≤ unitsOf (-infinity) → value = -infinity) := by
  by_cases infinite : value.isInf = true
  · have order : unitsOf (-infinity) < unitsOf infinity := by decide +kernel
    rcases eq_infinity_of_isInf infinite with rfl | rfl
    · exact ⟨fun _ => rfl, fun le => absurd order (Int.not_lt.mpr le)⟩
    · exact ⟨fun le => absurd order (Int.not_lt.mpr le), fun _ => rfl⟩
  · obtain ⟨low, high⟩ := unitsOf_lt (isFinite_of_not_isInf number infinite)
    exact ⟨fun le => absurd high (Int.not_lt.mpr le), fun le => absurd low (Int.not_lt.mpr le)⟩

theorem isNaN_clamp (number : value.isNaN = false) : (clamp value).isNaN = false := by
  unfold clamp
  split
  · decide
  split
  · decide
  · exact number

theorem unitsOf_clamp_mono (number : value.isNaN = false) (number' : larger.isNaN = false)
    (le : unitsOf value ≤ unitsOf larger) : unitsOf (clamp value) ≤ unitsOf (clamp larger) := by
  by_cases high : infiniteFrom ≤ larger
  · have top : clamp larger = infinity := by rw [clamp, if_pos high]
    rw [top]
    exact (unitsOf_bounds (isNaN_clamp number)).2
  by_cases low : value ≤ -infiniteFrom
  · have notHigh : ¬ infiniteFrom ≤ value := fun above =>
      high (le_iff.mpr ⟨(le_iff.mp above).1, number', (le_iff.mp above).2.2.trans le⟩)
    have bottom : clamp value = -infinity := by rw [clamp, if_neg notHigh, if_pos low]
    rw [bottom]
    exact (unitsOf_bounds (isNaN_clamp number')).1
  · have notHigh : ¬ infiniteFrom ≤ value := fun above =>
      high (le_iff.mpr ⟨(le_iff.mp above).1, number', (le_iff.mp above).2.2.trans le⟩)
    have notLow : ¬ larger ≤ -infiniteFrom := fun below =>
      low (le_iff.mpr ⟨number, (le_iff.mp below).2.1, le.trans (le_iff.mp below).2.2⟩)
    have same : clamp value = value := by rw [clamp, if_neg notHigh, if_neg low]
    have same' : clamp larger = larger := by rw [clamp, if_neg high, if_neg notLow]
    rw [same, same']
    exact le

/-- A number is read where a finite number was written. -/
theorem isNaN_rereadNumber (finite : value.isFinite = true) : (rereadNumber value).isNaN = false := by
  obtain ⟨decimal, -, rounded⟩ := isRounded_written finite
  exact (isNaN_congr (zero_add _)).trans rounded.isNaN

theorem isNaN_rereadLimit (number : value.isNaN = false) : (rereadLimit value).isNaN = false := by
  by_cases infinite : value.isInf = true
  · rw [rereadLimit_of_isInf infinite]
    exact number
  · exact isNaN_clamp (isNaN_rereadNumber (isFinite_of_not_isInf number infinite))

/-- **Limits in order come back in order.** -/
theorem rereadLimit_mono (le : value ≤ larger) : rereadLimit value ≤ rereadLimit larger := by
  obtain ⟨number, number', units⟩ := le_iff.mp le
  have numbers := isNaN_rereadLimit number
  have numbers' := isNaN_rereadLimit number'
  refine le_iff.mpr ⟨numbers, numbers', ?_⟩
  have kept : rereadLimit infinity = infinity := rereadLimit_of_isInf rfl
  have kept' : rereadLimit (-infinity) = -infinity := rereadLimit_of_isInf rfl
  by_cases infinite : value.isInf = true
  · rcases eq_infinity_of_isInf infinite with rfl | rfl
    · rw [(eq_of_unitsOf_le number').1 units]
    · rw [kept']
      exact (unitsOf_bounds numbers').1
  by_cases infinite' : larger.isInf = true
  · rcases eq_infinity_of_isInf infinite' with rfl | rfl
    · rw [kept]
      exact (unitsOf_bounds numbers).2
    · rw [(eq_of_unitsOf_le number).2 units]
  have finite := isFinite_of_not_isInf number infinite
  have finite' := isFinite_of_not_isInf number' infinite'
  refine unitsOf_clamp_mono (isNaN_rereadNumber finite) (isNaN_rereadNumber finite') ?_
  rw [rereadNumber, rereadNumber, unitsOf_congr (zero_add _), unitsOf_congr (zero_add _)]
  exact unitsOf_written_mono finite finite' units

end Limits

end LinearProgram.Lp
