/-
**Rounding what needs no rounding.**

An operation finds an exact mantissa and an exponent, and rounds to 53 digits. If a double equals
the exact result already, that double comes out; and whatever comes out has the sign of the exact
result.

* `roundWithAccuracy_exact`: canonical parts come back, at whatever lower exponent they are given.
* `sign?_roundWithAccuracy`, `sign?_normalize_of_neg`: rounding keeps the sign.
-/

import LinearProgram.Proofs.Decimal.Parts

namespace LinearProgram.Decimal

open Float.Model UnpackedFloat

theorem log2_mul_pow {mantissa : Nat} (positive : 0 < mantissa) (shift : Nat) :
    (mantissa * 2 ^ shift).log2 = mantissa.log2 + shift := by
  have nonzero : mantissa * 2 ^ shift ≠ 0 :=
    Nat.ne_of_gt (Nat.mul_pos positive (Nat.two_pow_pos shift))
  have low := Nat.log2_self_le (Nat.ne_of_gt positive)
  have high : mantissa < 2 ^ (mantissa.log2 + 1) := Nat.lt_log2_self
  rw [Nat.log2_eq_iff nonzero, Nat.add_right_comm, Nat.pow_add, Nat.pow_add _ (_ + 1)]
  exact ⟨Nat.mul_le_mul_right _ low, Nat.mul_lt_mul_of_pos_right high (Nat.two_pow_pos shift)⟩

/-- Digits that are all zero are shifted out without a trace. -/
theorem repeat_shiftRightOne (mantissa shift : Nat) :
    Nat.repeat ExtendedMantissa.shiftRightOne shift ⟨mantissa * 2 ^ shift, false, false⟩
      = ⟨mantissa, false, false⟩ := by
  induction shift generalizing mantissa with
  | zero => rw [Nat.pow_zero, Nat.mul_one, Nat.repeat]
  | succ shift hyp =>
    rw [Nat.pow_succ, Nat.mul_comm _ 2, ← Nat.mul_assoc, Nat.repeat, hyp,
      ExtendedMantissa.shiftRightOne]
    simp

/-- The exponent of canonical parts is the one that rounding aims at. -/
theorem targetExponent_eq {sign : Sign} {mantissa : Nat} {exponent : Int} {positive : 0 < mantissa}
    (canonical : Canonical (.finite sign mantissa exponent positive)) (shift : Nat) :
    Format.binary64.targetExponent (totalExponent (mantissa * 2 ^ shift) (exponent - shift))
      = exponent := by
  obtain ⟨high, least, most, short⟩ := canonical
  have aim : ∀ total, Format.binary64.targetExponent total = max (total - 53) (-1074) :=
    fun _ => rfl
  rw [aim, totalExponent, log2_mul_pow positive]
  by_cases low : 2 ^ 52 ≤ mantissa
  · rw [log2_normal low high]
    omega
  · have below : mantissa.log2 < 52 :=
      (Nat.log2_lt (Nat.ne_of_gt positive)).mpr (Nat.lt_of_not_le low)
    omega

theorem shiftToTargetExponent_exact {sign : Sign} {mantissa : Nat} {exponent : Int}
    {positive : 0 < mantissa} (canonical : Canonical (.finite sign mantissa exponent positive))
    (shift : Nat) :
    shiftToTargetExponent .binary64 (mantissa * 2 ^ shift) (exponent - shift) .exact
      = (⟨mantissa, false, false⟩, exponent) := by
  rw [shiftToTargetExponent, targetExponent_eq canonical, shiftToExponent]
  have amount : (exponent - (exponent - (shift : Int))).toNat = shift := by omega
  rw [amount]
  refine Prod.ext (repeat_shiftRightOne mantissa shift) ?_
  show exponent - (shift : Int) + shift = exponent
  omega

/-- **Canonical parts come back**, at whatever lower exponent they are given. -/
theorem roundWithAccuracy_exact {sign : Sign} {mantissa : Nat} {exponent : Int}
    {positive : 0 < mantissa} (canonical : Canonical (.finite sign mantissa exponent positive))
    (shift : Nat) :
    roundWithAccuracy .binary64 sign (mantissa * 2 ^ shift) (exponent - shift) .exact
      = .finite sign mantissa exponent positive := by
  have again := shiftToTargetExponent_exact canonical 0
  rw [Nat.pow_zero, Nat.mul_one, Int.natCast_zero, Int.sub_zero] at again
  have rounded : ExtendedMantissa.roundedMantissa ⟨mantissa, false, false⟩ = mantissa := rfl
  unfold roundWithAccuracy
  simp only [shiftToTargetExponent_exact canonical shift, rounded, again]
  exact dif_neg (Nat.ne_of_gt positive)

/-! ### Signs -/

theorem sign?_roundWithAccuracy (sign : Sign) (mantissa : Nat) (exponent : Int)
    (accuracy : Accuracy) :
    sign? (roundWithAccuracy .binary64 sign mantissa exponent accuracy) = some sign := by
  unfold roundWithAccuracy
  dsimp only
  split <;> rfl

/-- A difference that is negative stays so. -/
theorem sign?_normalize_of_neg {mantissa : Int} (negative : mantissa < 0) (exponent : Int)
    (zeroSign : Sign) :
    sign? (UnpackedFloat.normalize .binary64 mantissa exponent zeroSign) = some .negative := by
  have order : compare mantissa 0 = .lt := Int.compare_eq_lt.mpr negative
  rw [UnpackedFloat.normalize, order]
  exact sign?_roundWithAccuracy .negative _ _ .exact

end LinearProgram.Decimal
