/-
**Comparing numbers, their opposites and their magnitudes.**

* `lt_congr`, `le_congr`: numbers that are the same compare alike.
* `nonneg_neg`, `nonneg_abs`: the opposite of what is below zero, and a magnitude, are not.
* `isFinite_of_not_isInf`, `eq_infinity_of_isInf`: a number is finite, or one of two infinite ones.
-/

import LinearProgram.Proofs.Decimal.Arithmetic

namespace LinearProgram.Decimal

/-! ### Opposites and magnitudes -/

theorem isNaN_neg (value : Float) : (-value).isNaN = value.isNaN := by
  rw [isNaN_eq, isNaN_eq, parts_neg]
  cases parts value <;> rfl

theorem isNaN_abs (value : Float) : value.abs.isNaN = value.isNaN := by
  rw [isNaN_eq, isNaN_eq, parts_abs]
  cases parts value <;> rfl

theorem isInf_abs (value : Float) : value.abs.isInf = value.isInf := by
  rw [isInf_eq, isInf_eq, parts_abs]
  cases parts value <;> rfl

theorem isFinite_neg (value : Float) : (-value).isFinite = value.isFinite := by
  rw [isFinite_eq, isFinite_eq, parts_neg]
  cases parts value <;> rfl

theorem isFinite_abs (value : Float) : value.abs.isFinite = value.isFinite := by
  rw [isFinite_eq, isFinite_eq, parts_abs]
  cases parts value <;> rfl

/-! ### Numbers that are the same -/

section Same

variable {first second : Float}

theorem unitsOf_congr (same : Same first second) : unitsOf first = unitsOf second := by
  rcases same with rfl | ⟨zero, zero'⟩
  · rfl
  · exact (beq_iff.mp zero).2.2.trans (beq_iff.mp zero').2.2.symm

theorem isNaN_congr (same : Same first second) : first.isNaN = second.isNaN := by
  rcases same with rfl | ⟨zero, zero'⟩
  · rfl
  · exact (beq_iff.mp zero).1.trans (beq_iff.mp zero').1.symm

theorem isInf_congr (same : Same first second) : first.isInf = second.isInf := by
  rcases same_iff.mp same with rfl | ⟨⟨sign, whole⟩, sign', whole'⟩
  · rfl
  · rw [isInf_eq, isInf_eq, whole, whole']
    rfl

theorem isFinite_congr (same : Same first second) : first.isFinite = second.isFinite := by
  rcases same_iff.mp same with rfl | ⟨⟨sign, whole⟩, sign', whole'⟩
  · rfl
  · rw [isFinite_eq, isFinite_eq, whole, whole']
    rfl

theorem lt_congr {left right : Float} (same : Same first left) (same' : Same second right) :
    first < second ↔ left < right := by
  rw [lt_iff, lt_iff, isNaN_congr same, isNaN_congr same', unitsOf_congr same, unitsOf_congr same']

theorem le_congr {left right : Float} (same : Same first left) (same' : Same second right) :
    first ≤ second ↔ left ≤ right := by
  rw [le_iff, le_iff, isNaN_congr same, isNaN_congr same', unitsOf_congr same, unitsOf_congr same']

theorem isNaN_of_isFinite (finite : first.isFinite = true) : first.isNaN = false := by
  rw [isFinite_eq] at finite
  rw [isNaN_eq]
  cases whole : parts first with
  | notANumber => rw [whole] at finite; cases finite
  | infinity | zero | finite => rfl

theorem isInf_of_isFinite (finite : first.isFinite = true) : first.isInf = false := by
  rw [isFinite_eq] at finite
  rw [isInf_eq]
  cases whole : parts first with
  | infinity => rw [whole] at finite; cases finite
  | notANumber | zero | finite => rfl

theorem isFinite_of_not_isInf (number : first.isNaN = false) (bounded : ¬ first.isInf = true) :
    first.isFinite = true := by
  rw [isInf_eq] at bounded
  rw [isNaN_eq] at number
  rw [isFinite_eq]
  cases whole : parts first with
  | notANumber => rw [whole] at number; cases number
  | infinity => rw [whole] at bounded; exact absurd rfl bounded
  | zero | finite => rfl

end Same

/-! ### Below zero and not -/

section Sides

variable {value : Float}

/-- What is not below zero is zero or above it. -/
theorem ne_zero_of_neg (number : value.isNaN = false) (negative : ¬ 0 ≤ value) :
    (value == 0) = false ∧ ¬ 0 < value := by
  have below : ¬ unitsOf 0 ≤ unitsOf value := fun le => negative (le_iff.mpr ⟨rfl, number, le⟩)
  constructor
  · refine Bool.eq_false_iff.mpr fun zero => below ?_
    exact Int.le_of_eq (beq_iff.mp zero).2.2.symm
  · exact fun positive => below (Int.le_of_lt (lt_iff.mp positive).2.2)

/-- The magnitude of what is below zero is its opposite. -/
theorem abs_of_neg (number : value.isNaN = false) (negative : ¬ 0 ≤ value) :
    value.abs = -value := by
  obtain ⟨nonzero, notPositive⟩ := ne_zero_of_neg number negative
  rw [← neg_neg value.abs, neg_abs nonzero notPositive]

/-- The opposite of what is below zero is above it. -/
theorem nonneg_neg (number : value.isNaN = false) (negative : ¬ 0 ≤ value) : 0 ≤ -value := by
  rw [le_iff] at negative ⊢
  refine ⟨rfl, (isNaN_neg value).trans number, ?_⟩
  have below : ¬ unitsOf 0 ≤ unitsOf value := fun le => negative ⟨rfl, number, le⟩
  have zero : unitsOf 0 = 0 := rfl
  have opposite : unitsOf (-value) = -unitsOf value := unitsOf_neg value
  omega

/-- A magnitude is not below zero. -/
theorem nonneg_abs (number : value.isNaN = false) : 0 ≤ value.abs := by
  by_cases notNegative : 0 ≤ value
  · exact (le_congr (.refl 0) (same_abs notNegative)).mpr notNegative
  · rw [abs_of_neg number notNegative]
    exact nonneg_neg number notNegative

end Sides

theorem eq_infinity_of_isInf {value : Float} (infinite : value.isInf = true) :
    value = infinity ∨ value = -infinity := by
  rw [isInf_eq] at infinite
  cases whole : parts value with
  | notANumber | zero | finite => rw [whole] at infinite; cases infinite
  | infinity sign =>
    cases sign with
    | positive => exact .inl (eq_of_parts whole)
    | negative => exact .inr (eq_of_parts whole)

end LinearProgram.Decimal
