/-
**Numbers up to the sign of zero.**

* `Same`: equal numbers, zeros of either sign being one number.
-/

import LinearProgram.Decimal.Value

namespace LinearProgram

/-- The numbers are equal, or both are zeros. -/
def Same (first second : Float) : Prop :=
  first = second ∨ (first == 0) = true ∧ (second == 0) = true

instance (first second : Float) : Decidable (Same first second) :=
  inferInstanceAs (Decidable (_ ∨ _))

namespace Same

theorem refl (value : Float) : Same value value :=
  .inl rfl

theorem symm {first second : Float} (same : Same first second) : Same second first := by
  rcases same with rfl | ⟨left, right⟩
  · exact .inl rfl
  · exact .inr ⟨right, left⟩

theorem trans {first second third : Float} (left : Same first second) (right : Same second third) :
    Same first third := by
  rcases left with rfl | left
  · exact right
  rcases right with rfl | right
  · exact .inr left
  · exact .inr ⟨left.1, right.2⟩

/-- A zero of either sign is zero. -/
theorem zero {value : Float} (isZero : (value == 0) = true) : Same 0 value :=
  .inr ⟨by decide, isZero⟩

theorem of_not_ne {value : Float} (isZero : ¬ (value != 0) = true) : Same 0 value := by
  refine .zero ?_
  cases test : value == 0 with
  | true => rfl
  | false => exact absurd (show (value != 0) = true by rw [bne, test]; rfl) isZero

end Same

end LinearProgram
