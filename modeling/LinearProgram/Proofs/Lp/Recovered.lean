/-
**Numbers that come back.**

A number has twelve digits in the text, so not every number comes back. One whose text is read as
the number does, in all the places where numbers are written.

* `Recovered`: the text of the number is read as the number. `Bounded`: infinite, or below `1e30` in
  magnitude.
* **`same_rereadCoefficient`, `same_rereadConstant`, `same_rereadLimit`**: what comes back is the
  number, zeros of either sign being one number.
-/

import LinearProgram.Proofs.Lp.Reread

namespace LinearProgram.Lp

open Decimal

/-! ### Numbers that come back -/

/-- Numbers that are the same have the same text. -/
theorem numberText_congr {first second : Float} (same : Same first second) :
    numberText first = numberText second := by
  rcases same_iff.mp same with rfl | ⟨⟨sign, whole⟩, sign', whole'⟩
  · rfl
  · have zero {value : Float} {sign : Float.Model.UnpackedFloat.Sign}
        (whole : parts value = .zero sign) : numberText value = "0" := by
      have shape : Shape.of value = .zero (isNegative sign) := by
        unfold Shape.of
        rw [show value.toModel.unpack = .zero sign from whole]
      rw [numberText, shape]
    rw [zero whole, zero whole']

/-- What comes back rests on the text alone. -/
theorem written_congr {first second : Float} (same : Same first second) :
    written first = written second := by
  rw [written, written, numberText_congr same]

/-- **The text of the number is read as the number.** -/
def Recovered (value : Float) : Prop :=
  ∃ back, signed? (numberText value).toList = some back ∧ Same back value

/-- **Infinite, or below `1e30` in magnitude.** -/
def Bounded (value : Float) : Prop :=
  value.isInf = true ∨ -infiniteFrom < value ∧ value < infiniteFrom

instance (value : Float) : Decidable (Recovered value) :=
  decidable_of_iff ((signed? (numberText value).toList).any fun back => Same back value) <| by
    rw [Option.any_eq_true]
    exact exists_congr fun back => and_congr_right fun _ => decide_eq_true_iff

instance (value : Float) : Decidable (Bounded value) :=
  inferInstanceAs (Decidable (_ ∨ _))

section Numbers

variable {value : Float}

theorem Recovered.same_written (recovered : Recovered value) : Same (written value) value := by
  obtain ⟨back, read, same⟩ := recovered
  rw [written, read]
  exact same

/-- What is not below zero is recovered if its magnitude is. -/
theorem same_written_of_abs (notNegative : 0 ≤ value) (recovered : Recovered value.abs) :
    Same (written value) value := by
  have same := same_abs notNegative
  rw [← written_congr same]
  exact recovered.same_written.trans same

/-- **A coefficient comes back**, if its magnitude does. -/
theorem same_rereadCoefficient (number : value.isNaN = false) (recovered : Recovered value.abs) :
    Same (rereadCoefficient value) value := by
  unfold rereadCoefficient
  split
  next one => exact (same_of_beq one).symm
  split
  next one => exact (same_of_beq one).symm
  split
  next notNegative => exact same_written_of_abs notNegative recovered
  next negative =>
    have same := same_neg recovered.same_written
    rw [abs_of_neg number negative, neg_neg] at same
    exact same

/-- **The constant of the objective comes back**, if its magnitude does. -/
theorem same_rereadConstant (recovered : Recovered value.abs) :
    Same (rereadConstant value) value := by
  unfold rereadConstant
  split
  next zero => exact .zero zero
  next nonzero =>
    refine (zero_add _).trans ?_
    split
    next positive =>
      have same := recovered.same_written
      rw [abs_of_pos positive] at same ⊢
      exact same
    next notPositive =>
      have same := same_neg recovered.same_written
      rw [neg_abs (Bool.eq_false_iff.mpr nonzero) notPositive] at same
      exact same

/-- A number that is below `1e30` in magnitude is not taken for an infinite one. -/
theorem clamp_eq {given : Float} (same : Same given value) (low : -infiniteFrom < value)
    (high : value < infiniteFrom) : clamp given = given := by
  have below := not_le_of_lt ((lt_congr same (.refl _)).mpr high)
  have above := not_le_of_lt ((lt_congr (.refl _) same).mpr low)
  rw [clamp, if_neg below, if_neg above]

/-- What is infinite comes back. -/
theorem rereadLimit_of_isInf (infinite : value.isInf = true) : rereadLimit value = value := by
  rcases eq_infinity_of_isInf infinite with rfl | rfl
  · decide +kernel
  · decide +kernel

/-- **A limit comes back**, if it is infinite, or is recovered and below `1e30` in magnitude. -/
theorem same_rereadLimit (bounded : Bounded value)
    (recovered : value.isFinite = true → Recovered value) : Same (rereadLimit value) value := by
  rcases bounded with infinite | ⟨low, high⟩
  · rw [rereadLimit_of_isInf infinite]
    exact .refl value
  · by_cases infinite : value.isInf = true
    · rw [rereadLimit_of_isInf infinite]
      exact .refl value
    · have finite := isFinite_of_not_isInf (lt_iff.mp low).2.1 infinite
      have same : Same (rereadNumber value) value :=
        (zero_add _).trans (recovered finite).same_written
      rw [rereadLimit, clamp_eq same low high]
      exact same

end Numbers

end LinearProgram.Lp
