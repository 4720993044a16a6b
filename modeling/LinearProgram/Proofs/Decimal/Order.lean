/-
**The order of doubles.**

Every finite double is a multiple of the least positive one, so the order of doubles is that of
integers, with the infinite ones beyond all others.

* `units`: a number as a multiple of the least positive double.
* `compare_eq`: numbers compare as their multiples do.
* `lt_iff`, `le_iff`, `beq_iff`: the comparisons of doubles.
* `beq_zero_iff`: what compares equal to zero is a zero.
-/

import LinearProgram.Proofs.Decimal.Parts

namespace LinearProgram.Decimal

open Float.Model UnpackedFloat

/-- More than any finite double is times the least positive one, if the exponent is high enough. -/
def beyond (exponent : Nat) : Nat :=
  2 ^ exponent

/-- **A number as a multiple of the least positive double**; what is infinite lies beyond. -/
def units : UnpackedFloat → Int
  | .notANumber => 0
  | .infinity sign => sign.apply (beyond 2100)
  | .zero _ => 0
  | .finite sign mantissa exponent _ => sign.apply (mantissa * 2 ^ (exponent + 1074).toNat : Nat)

/-! ### Magnitudes -/

section Magnitudes

variable {sign other : Sign} {mantissa larger : Nat} {exponent higher : Int}
  {positive : 0 < mantissa} {positive' : 0 < larger}

theorem magnitude_pos (positive : 0 < mantissa) (exponent : Int) :
    0 < mantissa * 2 ^ (exponent + 1074).toNat :=
  Nat.mul_pos positive (Nat.two_pow_pos _)

theorem beyond_pos (exponent : Nat) : 0 < beyond exponent :=
  Nat.two_pow_pos exponent

theorem two_pow_le_beyond {low high : Nat} (le : low ≤ high) : 2 ^ low ≤ beyond high :=
  Nat.pow_le_pow_right (by decide) le

theorem magnitude_lt_beyond (canonical : Canonical (.finite sign mantissa exponent positive)) :
    mantissa * 2 ^ (exponent + 1074).toNat < beyond 2100 := by
  obtain ⟨high, least, most, -⟩ := canonical
  have bound : 53 + (exponent + 1074).toNat ≤ 2100 := by omega
  calc mantissa * 2 ^ (exponent + 1074).toNat
      < 2 ^ 53 * 2 ^ (exponent + 1074).toNat :=
        Nat.mul_lt_mul_of_pos_right high (Nat.two_pow_pos _)
    _ = 2 ^ (53 + (exponent + 1074).toNat) := (Nat.pow_add ..).symm
    _ ≤ beyond 2100 := two_pow_le_beyond bound

/-- A higher exponent makes a larger magnitude. -/
theorem magnitude_lt_of_exponent (below : Canonical (.finite sign mantissa exponent positive))
    (above : Canonical (.finite other larger higher positive')) (less : exponent < higher) :
    mantissa * 2 ^ (exponent + 1074).toNat < larger * 2 ^ (higher + 1074).toNat := by
  obtain ⟨high, least, -, -⟩ := below
  obtain ⟨-, -, -, low⟩ := above
  have low : 2 ^ 52 ≤ larger := low.resolve_right (by omega)
  have power : 2 ^ ((exponent + 1074).toNat + 1) ≤ 2 ^ (higher + 1074).toNat :=
    Nat.pow_le_pow_right (by decide) (by omega)
  calc mantissa * 2 ^ (exponent + 1074).toNat
      < 2 ^ 53 * 2 ^ (exponent + 1074).toNat :=
        Nat.mul_lt_mul_of_pos_right high (Nat.two_pow_pos _)
    _ = 2 ^ 52 * 2 ^ ((exponent + 1074).toNat + 1) := by
        rw [Nat.pow_succ _ (exponent + 1074).toNat, Nat.pow_succ, Nat.mul_assoc, Nat.mul_comm 2]
    _ ≤ larger * 2 ^ (higher + 1074).toNat := Nat.mul_le_mul low power

/-- Magnitudes compare by their exponents, and then by their mantissas. -/
theorem compare_magnitudes (first : Canonical (.finite sign mantissa exponent positive))
    (second : Canonical (.finite other larger higher positive')) :
    (compare exponent higher).then (compare mantissa larger)
      = compare (mantissa * 2 ^ (exponent + 1074).toNat) (larger * 2 ^ (higher + 1074).toNat) := by
  rcases Int.lt_trichotomy exponent higher with less | rfl | greater
  · rw [Int.compare_eq_lt.mpr less,
      Nat.compare_eq_lt.mpr (magnitude_lt_of_exponent first second less)]
    rfl
  · have power := Nat.two_pow_pos (exponent + 1074).toNat
    rw [Int.compare_eq_eq.mpr rfl]
    rcases Nat.lt_trichotomy mantissa larger with less | rfl | greater
    · rw [Nat.compare_eq_lt.mpr less,
        Nat.compare_eq_lt.mpr (Nat.mul_lt_mul_of_pos_right less power)]
      rfl
    · rw [Nat.compare_eq_eq.mpr rfl, Nat.compare_eq_eq.mpr rfl]
      rfl
    · rw [Nat.compare_eq_gt.mpr greater,
        Nat.compare_eq_gt.mpr (Nat.mul_lt_mul_of_pos_right greater power)]
      rfl
  · rw [Int.compare_eq_gt.mpr greater,
      Nat.compare_eq_gt.mpr (magnitude_lt_of_exponent second first greater)]
    rfl

/-- Magnitudes that are equal have equal parts. -/
theorem eq_of_magnitudes (first : Canonical (.finite sign mantissa exponent positive))
    (second : Canonical (.finite other larger higher positive'))
    (same : mantissa * 2 ^ (exponent + 1074).toNat = larger * 2 ^ (higher + 1074).toNat) :
    mantissa = larger ∧ exponent = higher := by
  have order := compare_magnitudes first second
  rw [Nat.compare_eq_eq.mpr same, Ordering.then_eq_eq, Int.compare_eq_eq,
    Nat.compare_eq_eq] at order
  exact order.symm

end Magnitudes

/-! ### Numbers -/

theorem compare_natCast (first second : Nat) :
    compare (first : Int) (second : Int) = compare first second := by
  rw [Int.compare_eq_ite_lt, Nat.compare_eq_ite_lt]
  simp only [Int.ofNat_lt]

theorem compare_neg_natCast (first second : Nat) :
    compare (-(first : Int)) (-(second : Int)) = (compare first second).swap := by
  rw [Nat.compare_swap, Int.compare_eq_ite_lt, Nat.compare_eq_ite_lt]
  simp only [Int.neg_lt_neg_iff, Int.ofNat_lt]

section Comparing

variable {before after : UnpackedFloat}

theorem some_lt_eq (less : units before < units after) :
    some .lt = some (compare (units before) (units after)) :=
  congrArg some (Int.compare_eq_lt.mpr less).symm

theorem some_gt_eq (greater : units after < units before) :
    some .gt = some (compare (units before) (units after)) :=
  congrArg some (Int.compare_eq_gt.mpr greater).symm

/-- What has a sign lies on that side of zero, and nothing finite lies as far out as the infinite
ones. -/
theorem units_bounds (canonical : Canonical before) (finite : before.isFinite = true) :
    -(beyond 2100 : Int) < units before ∧ units before < beyond 2100 := by
  have far : (0 : Int) < beyond 2100 := Int.natCast_pos.mpr (beyond_pos 2100)
  cases before with
  | notANumber | infinity => cases finite
  | zero => exact ⟨Int.neg_neg_of_pos far, far⟩
  | finite sign mantissa exponent positive =>
    have low := Int.natCast_pos.mpr (magnitude_pos positive exponent)
    have high := Int.ofNat_lt.mpr (magnitude_lt_beyond canonical)
    cases sign <;> simp only [units, Sign.apply] <;> omega

theorem units_neg {mantissa : Nat} (positive : 0 < mantissa) (exponent : Int) :
    units (.finite .negative mantissa exponent positive) < 0 :=
  Int.neg_neg_of_pos (Int.natCast_pos.mpr (magnitude_pos positive exponent))

theorem units_pos {mantissa : Nat} (positive : 0 < mantissa) (exponent : Int) :
    0 < units (.finite .positive mantissa exponent positive) :=
  Int.natCast_pos.mpr (magnitude_pos positive exponent)

/-- **Numbers compare as their multiples do.** -/
theorem compare_eq (first : Canonical before) (second : Canonical after)
    (firstNumber : before.isNaN = false) (secondNumber : after.isNaN = false) :
    before.compare after = some (compare (units before) (units after)) := by
  have far : (0 : Int) < beyond 2100 := Int.natCast_pos.mpr (beyond_pos 2100)
  have opposite : -(beyond 2100 : Int) < beyond 2100 := by omega
  cases before with
  | notANumber => cases firstNumber
  | infinity sign =>
    cases after with
    | notANumber => cases secondNumber
    | infinity other =>
      cases sign <;> cases other
      · exact congrArg some (Int.compare_eq_eq.mpr rfl).symm
      · exact some_lt_eq opposite
      · exact some_gt_eq opposite
      · exact congrArg some (Int.compare_eq_eq.mpr rfl).symm
    | zero | finite =>
      obtain ⟨low, high⟩ := units_bounds second rfl
      cases sign with
      | negative => exact some_lt_eq low
      | positive => exact some_gt_eq high
  | zero sign =>
    cases after with
    | notANumber => cases secondNumber
    | infinity other =>
      cases other with
      | negative => exact some_gt_eq (Int.neg_neg_of_pos far)
      | positive => exact some_lt_eq far
    | zero => exact congrArg some (Int.compare_eq_eq.mpr rfl).symm
    | finite other mantissa exponent positive =>
      cases other with
      | negative => exact some_gt_eq (units_neg positive exponent)
      | positive => exact some_lt_eq (units_pos positive exponent)
  | finite sign mantissa exponent positive =>
    obtain ⟨low, high⟩ := units_bounds first rfl
    cases after with
    | notANumber => cases secondNumber
    | infinity other =>
      cases other with
      | negative => cases sign <;> exact some_gt_eq low
      | positive => cases sign <;> exact some_lt_eq high
    | zero =>
      cases sign with
      | negative => exact some_lt_eq (units_neg positive exponent)
      | positive => exact some_gt_eq (units_pos positive exponent)
    | finite other larger higher positive' =>
      have order := compare_magnitudes first second
      cases sign <;> cases other
      · exact congrArg some ((congrArg Ordering.swap order).trans (compare_neg_natCast ..).symm)
      · exact some_lt_eq (Int.lt_trans (units_neg positive exponent) (units_pos positive' higher))
      · exact some_gt_eq (Int.lt_trans (units_neg positive' higher) (units_pos positive exponent))
      · exact congrArg some (order.trans (compare_natCast ..).symm)

end Comparing

/-! ### Doubles -/

/-- A double as a multiple of the least positive one. -/
def unitsOf (value : Float) : Int :=
  units (parts value)

variable {first second : Float}

theorem isNaN_eq (value : Float) : value.isNaN = (parts value).isNaN := rfl

theorem isInf_eq (value : Float) : value.isInf = (parts value).isInf := rfl

theorem isFinite_eq (value : Float) : value.isFinite = (parts value).isFinite := rfl

theorem compare_eq_none (missing : first.isNaN = true ∨ second.isNaN = true) :
    (parts first).compare (parts second) = none := by
  rw [isNaN_eq, isNaN_eq] at missing
  cases before : parts first <;> cases after : parts second <;> rw [before, after] at missing <;>
    first | rfl | (rcases missing with missing | missing <;> cases missing)

theorem compare_parts (firstNumber : first.isNaN = false) (secondNumber : second.isNaN = false) :
    (parts first).compare (parts second) = some (compare (unitsOf first) (unitsOf second)) :=
  compare_eq (canonical_parts first) (canonical_parts second) firstNumber secondNumber

/-- **Only numbers are compared**, by their units. -/
theorem compare_eq_some_iff {order : Ordering} : (parts first).compare (parts second) = some order
    ↔ first.isNaN = false ∧ second.isNaN = false
      ∧ compare (unitsOf first) (unitsOf second) = order := by
  cases firstNumber : first.isNaN with
  | true => simp [compare_eq_none (.inl firstNumber)]
  | false =>
    cases secondNumber : second.isNaN with
    | true => simp [compare_eq_none (.inr secondNumber)]
    | false => simp [compare_parts firstNumber secondNumber]

theorem lt_iff_compare : first < second ↔ (parts first).compare (parts second) = some .lt := by
  show decide (first.toModel < second.toModel) = true ↔ _
  rw [decide_eq_true_iff]
  exact beq_iff_eq

theorem le_iff_compare : first ≤ second ↔ (parts first).compare (parts second) = some .lt
    ∨ (parts first).compare (parts second) = some .eq := by
  show decide (first.toModel ≤ second.toModel) = true ↔ _
  rw [decide_eq_true_iff]
  show ((parts first).compare (parts second)).any (·.isLE) = true ↔ _
  cases (parts first).compare (parts second) with
  | none => simp
  | some order => cases order <;> simp

theorem beq_iff_compare :
    (first == second) = true ↔ (parts first).compare (parts second) = some .eq := by
  show ((parts first).compare (parts second) == some .eq) = true ↔ _
  exact beq_iff_eq

theorem lt_iff : first < second
    ↔ first.isNaN = false ∧ second.isNaN = false ∧ unitsOf first < unitsOf second := by
  rw [lt_iff_compare, compare_eq_some_iff, Int.compare_eq_lt]

theorem le_iff : first ≤ second
    ↔ first.isNaN = false ∧ second.isNaN = false ∧ unitsOf first ≤ unitsOf second := by
  rw [le_iff_compare, compare_eq_some_iff, compare_eq_some_iff, Int.compare_eq_lt, Int.compare_eq_eq,
    Int.le_iff_lt_or_eq, and_or_left, and_or_left]

theorem beq_iff : (first == second) = true
    ↔ first.isNaN = false ∧ second.isNaN = false ∧ unitsOf first = unitsOf second := by
  rw [beq_iff_compare, compare_eq_some_iff, Int.compare_eq_eq]

end LinearProgram.Decimal
