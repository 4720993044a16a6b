/-
**Sums of small integers are exact.**

A double that is an integer may be added, taken away and negated without rounding as long as the result
is an integer that doubles can tell from its neighbours, which all integers up to `2 ^ 53` are.

* `IsWhole`: the integer that a finite double is. `exists_isWhole`: small integers are doubles.
* **`IsRounded.isWhole`**: a small integer is rounded to itself.
* `IsWhole.add`, `sub`, `neg`: operations on small integers are exact.
* `ExactDifference`: a difference that is not rounded, of any two doubles.
* **`same_sub_abs`, `same_add_abs`**: such a difference leads back to what it was taken from.
-/

import LinearProgram.Proofs.Decimal.Additive
import LinearProgram.Proofs.Decimal.Scientific

namespace LinearProgram.Decimal

open Float.Model UnpackedFloat

/-! ### The order of the numbers that doubles are -/

section Order

variable {first second : Float}

theorem valueOf_le_valueOf_iff : valueOf first ≤ valueOf second ↔ unitsOf first ≤ unitsOf second := by
  rw [valueOf, valueOf, mul_le_mul_iff_left₀ (zpow_pos two_pos _), Int.cast_le]

theorem valueOf_inj : valueOf first = valueOf second ↔ unitsOf first = unitsOf second := by
  rw [le_antisymm_iff, valueOf_le_valueOf_iff, valueOf_le_valueOf_iff, le_antisymm_iff]

theorem valueOf_neg (value : Float) : valueOf (-value) = -valueOf value := by
  rw [valueOf, unitsOf_neg, Int.cast_neg, neg_mul, valueOf]

/-- What lies between two finite doubles is finite. -/
theorem isFinite_of_unitsOf_eq (number : first.isNaN = false) (finite : second.isFinite = true)
    (same : unitsOf first = unitsOf second) : first.isFinite = true := by
  obtain ⟨low, high⟩ := units_bounds (canonical_parts second) finite
  rw [← unitsOf, ← same] at low high
  rw [isNaN_eq] at number
  rw [isFinite_eq]
  cases whole : parts first with
  | notANumber => rw [whole] at number; cases number
  | zero | finite => rfl
  | infinity sign =>
    rw [unitsOf, whole] at low high
    cases sign with
    | positive => exact absurd high (lt_irrefl _)
    | negative => exact absurd low (lt_irrefl _)

end Order

/-! ### Integers -/

/-- **The integer that a finite double is.** -/
structure IsWhole (value : Float) (number : ℤ) : Prop where
  finite : value.isFinite = true
  value : valueOf value = number

/-- Whether a double is an integer, told from its multiple of the least positive double. -/
theorem isWhole_iff {value : Float} {number : ℤ} :
    IsWhole value number ↔ value.isFinite = true ∧ unitsOf value = number * beyond 1074 := by
  have least : (beyond 1074 : ℚ) * 2 ^ (-1074 : ℤ) = 1 := by
    rw [beyond, Nat.cast_pow, Nat.cast_ofNat, ← zpow_natCast, ← zpow_add₀ two_ne_zero]
    exact zpow_zero 2
  have whole : valueOf value = number ↔ unitsOf value = number * beyond 1074 := by
    rw [← mul_one (number : ℚ), ← least, ← mul_assoc, valueOf,
      mul_left_inj' (zpow_pos two_pos _).ne', ← Int.cast_natCast, ← Int.cast_mul, Int.cast_inj]
  exact ⟨fun given => ⟨given.finite, whole.mp given.value⟩,
    fun given => ⟨given.1, whole.mpr given.2⟩⟩

instance (value : Float) (number : ℤ) : Decidable (IsWhole value number) :=
  decidable_of_iff _ isWhole_iff.symm

theorem isWhole_zero : IsWhole 0 0 := by decide +kernel

theorem isWhole_one : IsWhole 1 1 := by decide +kernel

theorem isWhole_large : IsWhole 9007199254740992 (2 ^ 53) := by decide +kernel

namespace IsWhole

variable {first second value : Float} {number other : ℤ}

theorem neg (whole : IsWhole value number) : IsWhole (-value) (-number) :=
  ⟨(isFinite_neg value).trans whole.finite, by rw [valueOf_neg, whole.value, Int.cast_neg]⟩

end IsWhole

/-- **Small integers are doubles.** -/
theorem exists_isWhole {number : ℤ} (small : |number| ≤ 2 ^ 53) : ∃ value, IsWhole value number := by
  have natural : ∃ value, IsWhole value number.natAbs := by
    rcases Nat.eq_zero_or_pos number.natAbs with none | positive
    · exact ⟨0, none ▸ isWhole_zero⟩
    rcases Nat.lt_or_ge number.natAbs (2 ^ 53) with short | long
    · obtain ⟨digits, place, positive, whole, same, -⟩ := exactly_natural positive short
      refine ⟨_, ?_, (valueOf_of_parts whole).trans same⟩
      rw [isFinite_eq, whole]
      rfl
    · have all : (number.natAbs : ℤ) = 2 ^ 53 := by
        rw [Int.natCast_natAbs]
        exact le_antisymm small (by rw [← Int.natCast_natAbs]; exact_mod_cast long)
      exact ⟨_, all ▸ isWhole_large⟩
  obtain ⟨value, whole⟩ := natural
  rcases Int.natAbs_eq number with same | same
  · exact ⟨value, same ▸ whole⟩
  · exact ⟨-value, same ▸ whole.neg⟩

/-- **A small integer is rounded to itself.** -/
theorem IsRounded.isWhole {number : ℤ} {value : Float} (rounded : IsRounded number value)
    (small : |number| ≤ 2 ^ 53) : IsWhole value number := by
  obtain ⟨given, whole⟩ := exists_isWhole small
  have self := isRounded_self whole.finite
  rw [whole.value] at self
  have same : unitsOf value = unitsOf given :=
    le_antisymm (rounded.unitsOf_mono self le_rfl) (self.unitsOf_mono rounded le_rfl)
  exact ⟨isFinite_of_unitsOf_eq rounded.isNaN whole.finite same,
    (valueOf_inj.mpr same).trans whole.value⟩

namespace IsWhole

variable {first second value : Float} {number other : ℤ}

/-- **Sums of small integers are exact.** -/
theorem add (whole : IsWhole first number) (whole' : IsWhole second other)
    (small : |number + other| ≤ 2 ^ 53) : IsWhole (first + second) (number + other) := by
  have rounded := isRounded_add whole.finite whole'.finite
  rw [whole.value, whole'.value, ← Int.cast_add] at rounded
  exact rounded.isWhole small

theorem sub (whole : IsWhole first number) (whole' : IsWhole second other)
    (small : |number - other| ≤ 2 ^ 53) : IsWhole (first - second) (number - other) := by
  rw [sub_eq_add_neg, Int.sub_eq_add_neg]
  exact whole.add whole'.neg small

end IsWhole

/-! ### Differences that are not rounded -/

/-- **A difference that is not rounded.** -/
structure ExactDifference (first second : Float) : Prop where
  finite : (first - second).isFinite = true
  value : valueOf (first - second) = valueOf first - valueOf second

theorem exactDifference_of_isWhole {first second : Float} {number other : ℤ}
    (whole : IsWhole first number) (whole' : IsWhole second other)
    (small : |number - other| ≤ 2 ^ 53) : ExactDifference first second := by
  have difference := whole.sub whole' small
  refine ⟨difference.finite, ?_⟩
  rw [difference.value, whole.value, whole'.value, Int.cast_sub]

section Differences

variable {first second value : Float}

/-- Finite doubles are the same if they are one number. -/
theorem same_of_valueOf (finite : first.isFinite = true) (finite' : second.isFinite = true)
    (same : valueOf first = valueOf second) : Same first second :=
  same_of_beq (beq_iff.mpr ⟨isNaN_of_isFinite finite, isNaN_of_isFinite finite',
    valueOf_inj.mp same⟩)

/-- What is rounded from the number of a finite double is that double. -/
theorem IsRounded.same (rounded : IsRounded (valueOf second) first)
    (finite : second.isFinite = true) : Same first second := by
  have self := isRounded_self finite
  have same : unitsOf first = unitsOf second :=
    le_antisymm (rounded.unitsOf_mono self le_rfl) (self.unitsOf_mono rounded le_rfl)
  exact same_of_valueOf (isFinite_of_unitsOf_eq rounded.isNaN finite same) finite
    (valueOf_inj.mpr same)

/-- The size of a difference that is not below zero is the difference. -/
theorem ExactDifference.same_abs (difference : ExactDifference first second)
    (le : second ≤ first) : Same (first - second).abs (first - second) := by
  refine Decimal.same_abs (le_iff.mpr ⟨rfl, isNaN_of_isFinite difference.finite, ?_⟩)
  rw [← valueOf_le_valueOf_iff, valueOf_of_zero (by decide), difference.value, sub_nonneg,
    valueOf_le_valueOf_iff]
  exact (le_iff.mp le).2.2

/-- **A number minus its distance from a smaller one** is the smaller one. -/
theorem ExactDifference.same_sub_abs (difference : ExactDifference first second)
    (finite : first.isFinite = true) (finite' : second.isFinite = true) (le : second ≤ first) :
    Same (first - (first - second).abs) second := by
  refine (same_sub (.refl first) (difference.same_abs le)).trans ?_
  have rounded := isRounded_add finite ((isFinite_neg _).trans difference.finite)
  rw [valueOf_neg, difference.value, neg_sub, add_sub_cancel, ← sub_eq_add_neg] at rounded
  exact rounded.same finite'

/-- **A number plus its distance from a larger one** is the larger one. -/
theorem ExactDifference.same_add_abs (difference : ExactDifference first second)
    (finite : first.isFinite = true) (finite' : second.isFinite = true) (le : second ≤ first) :
    Same (second + (first - second).abs) first := by
  refine (same_add (.refl second) (difference.same_abs le)).trans ?_
  have rounded := isRounded_add finite' difference.finite
  rw [difference.value, add_sub_cancel] at rounded
  exact rounded.same finite

end Differences

end LinearProgram.Decimal
