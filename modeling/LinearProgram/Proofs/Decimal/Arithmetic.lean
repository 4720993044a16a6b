/-
**Arithmetic of doubles.**

Every operation takes its operands apart, works on the parts, and puts the result together. The laws
here hold of all doubles; they are enough to follow a number through the sums, differences and
quotients that a reader takes it through.

* `sub_zero`, `zero_add`, `div_one`: what leaves a number as it is.
* `neg_neg`, `abs_of_pos`, `neg_abs`, `same_abs`: signs.
* `same_of_beq`: equal numbers, and zeros of either sign.
* `same_neg`, `same_add`, `same_sub`: an operation does not see the sign of a zero, except in a
  zero.
* `sign?_sub_of_lt`: the difference of a smaller and a larger number has the negative sign.
-/

import LinearProgram.Proofs.Decimal.Order
import LinearProgram.Proofs.Decimal.Rounding
import LinearProgram.Proofs.Decimal.Same

namespace LinearProgram.Decimal

open Float.Model UnpackedFloat

variable {first second : Float}

/-! ### Operations on the parts -/

theorem parts_zero : parts 0 = .zero .positive := rfl

theorem add_eq (first second : Float) :
    first + second = ofParts (UnpackedFloat.add .binary64 (parts first) (parts second)) := rfl

theorem sub_eq (first second : Float) :
    first - second = ofParts (UnpackedFloat.sub .binary64 (parts first) (parts second)) := rfl

theorem div_eq (first second : Float) :
    first / second = ofParts (UnpackedFloat.div .binary64 (parts first) (parts second)) := rfl

theorem parts_neg (value : Float) : parts (-value) = (parts value).neg := by
  have canonical : Canonical (parts value).neg := by
    have canonical := canonical_parts value
    cases whole : parts value <;> rw [whole] at canonical <;> exact canonical
  exact parts_ofParts canonical

theorem parts_abs (value : Float) : parts value.abs = (parts value).abs := by
  have canonical : Canonical (parts value).abs := by
    have canonical := canonical_parts value
    cases whole : parts value <;> rw [whole] at canonical <;> exact canonical
  exact parts_ofParts canonical

/-! ### Zeros of either sign -/

/-- What compares equal to zero is a zero. -/
theorem beq_zero_iff : (first == 0) = true ↔ ∃ sign, parts first = .zero sign := by
  rw [beq_iff_compare, parts_zero]
  cases parts first with
  | notANumber => simp [UnpackedFloat.compare]
  | infinity sign => cases sign <;> simp [UnpackedFloat.compare]
  | zero sign => simp [UnpackedFloat.compare]
  | finite sign => cases sign <;> simp [UnpackedFloat.compare]

theorem same_iff : Same first second ↔ first = second
    ∨ (∃ sign, parts first = .zero sign) ∧ ∃ sign, parts second = .zero sign := by
  rw [Same, beq_zero_iff, beq_zero_iff]

/-- Canonical parts that compare equal are equal, or both are zeros. -/
theorem eq_of_compare_eq {before after : UnpackedFloat} (canonical : Canonical before)
    (canonical' : Canonical after) (equal : before.compare after = some .eq) :
    before = after ∨ (∃ sign, before = .zero sign) ∧ ∃ sign, after = .zero sign := by
  unfold UnpackedFloat.compare at equal
  split at equal
  all_goals try cases equal
  next sign other =>
    left
    cases sign <;> cases other <;> first | rfl | cases equal
  next => exact .inr ⟨⟨_, rfl⟩, _, rfl⟩
  next =>
    rw [compare_magnitudes canonical canonical', Option.some.injEq, Ordering.swap_eq_eq,
      Nat.compare_eq_eq] at equal
    obtain ⟨rfl, rfl⟩ := eq_of_magnitudes canonical canonical' equal
    exact .inl rfl
  next =>
    rw [compare_magnitudes canonical canonical', Option.some.injEq, Nat.compare_eq_eq] at equal
    obtain ⟨rfl, rfl⟩ := eq_of_magnitudes canonical canonical' equal
    exact .inl rfl

/-- What compares equal is the same. -/
theorem same_of_beq (equal : (first == second) = true) : Same first second := by
  rw [same_iff]
  exact (eq_of_compare_eq (canonical_parts first) (canonical_parts second)
    (beq_iff_compare.mp equal)).imp_left eq_of_parts

theorem same_neg (same : Same first second) : Same (-first) (-second) := by
  rw [same_iff] at same ⊢
  rcases same with rfl | ⟨⟨sign, before⟩, other, after⟩
  · exact .inl rfl
  · rw [parts_neg, parts_neg, before, after]
    exact .inr ⟨⟨-sign, rfl⟩, -other, rfl⟩

theorem same_add_left (same : Same first second) (value : Float) :
    Same (first + value) (second + value) := by
  rw [same_iff] at same
  rcases same with rfl | ⟨⟨sign, before⟩, other, after⟩
  · exact .refl _
  · rw [add_eq, add_eq, before, after]
    cases parts value with
    | notANumber | infinity | finite => exact .refl _
    | zero third =>
      refine .inr ⟨?_, ?_⟩
      · cases sign <;> cases third <;> decide
      · cases other <;> cases third <;> decide

theorem same_add_right (value : Float) (same : Same first second) :
    Same (value + first) (value + second) := by
  rw [same_iff] at same
  rcases same with rfl | ⟨⟨sign, before⟩, other, after⟩
  · exact .refl _
  · rw [add_eq, add_eq, before, after]
    cases parts value with
    | notANumber | infinity | finite => exact .refl _
    | zero third =>
      refine .inr ⟨?_, ?_⟩
      · cases sign <;> cases third <;> decide
      · cases other <;> cases third <;> decide

theorem same_add {left right : Float} (same : Same first left) (same' : Same second right) :
    Same (first + second) (left + right) :=
  (same_add_left same second).trans (same_add_right left same')

theorem sub_eq_add_neg_parts (before after : UnpackedFloat) :
    UnpackedFloat.sub .binary64 before after = UnpackedFloat.add .binary64 before after.neg := by
  cases before with
  | notANumber => rfl
  | infinity sign | zero sign =>
    cases after with
    | notANumber | finite => rfl
    | infinity other | zero other => cases sign <;> cases other <;> rfl
  | finite sign mantissa exponent positive =>
    cases after with
    | notANumber | infinity | zero => rfl
    | finite other larger higher positive' =>
      have opposite : ∀ magnitude : Int, -(other.apply magnitude) = (-other).apply magnitude := by
        intro magnitude
        cases other with
        | negative => exact Int.neg_neg magnitude
        | positive => rfl
      unfold UnpackedFloat.sub UnpackedFloat.neg UnpackedFloat.add
      dsimp only
      rw [Int.sub_eq_add_neg, opposite]

theorem sub_eq_add_neg (first second : Float) : first - second = first + -second := by
  rw [sub_eq, sub_eq_add_neg_parts, add_eq, parts_neg]

theorem same_sub {left right : Float} (same : Same first left) (same' : Same second right) :
    Same (first - second) (left - right) := by
  rw [sub_eq_add_neg, sub_eq_add_neg]
  exact same_add same (same_neg same')

/-! ### What leaves a number as it is -/

theorem sub_zero (value : Float) : value - 0 = value := by
  have same : UnpackedFloat.sub .binary64 (parts value) (.zero .positive) = parts value := by
    cases parts value with
    | notANumber | infinity | finite => rfl
    | zero sign => cases sign <;> rfl
  rw [sub_eq, parts_zero, same, ofParts_parts]

theorem zero_add (value : Float) : Same (0 + value) value := by
  rw [add_eq, parts_zero]
  by_cases zero : ∃ sign, parts value = .zero sign
  · obtain ⟨sign, whole⟩ := zero
    refine .inr ⟨?_, beq_zero_iff.mpr ⟨sign, whole⟩⟩
    rw [whole]
    cases sign <;> decide
  · have same : UnpackedFloat.add .binary64 (.zero .positive) (parts value) = parts value := by
      cases whole : parts value with
      | notANumber | infinity | finite => rfl
      | zero sign => exact absurd ⟨sign, whole⟩ zero
    rw [same, ofParts_parts]
    exact .refl value

/-- The exact quotient by one. -/
theorem divCore_one {sign : Sign} {mantissa : Nat} {exponent : Int} {positive : 0 < mantissa}
    (canonical : Canonical (.finite sign mantissa exponent positive)) :
    ∃ shift : Nat, divCore .binary64 mantissa exponent (2 ^ 52) (-52)
      = (mantissa * 2 ^ shift, exponent - shift, .exact) := by
  obtain ⟨high, least, -, -⟩ := canonical
  have aim : ∀ total, Format.binary64.targetExponent total = max (total - 53) (-1074) :=
    fun _ => rfl
  have one : totalExponent (2 ^ 52) (-52) = 1 := rfl
  have below : mantissa.log2 < 53 := (Nat.log2_lt (Nat.ne_of_gt positive)).mpr high
  let target := min (exponent - -52) (max (totalExponent mantissa exponent - 1 - 53) (-1074))
  have le : target ≤ exponent := by
    show min _ (max (mantissa.log2 + 1 + exponent - 1 - 53) _) ≤ _
    omega
  obtain ⟨shift, same⟩ := Int.eq_ofNat_of_zero_le (Int.sub_nonneg_of_le le)
  have amount : (exponent - -52 - target).toNat = 52 + shift := by omega
  refine ⟨shift, ?_⟩
  rw [divCore, aim, one]
  show (mantissa <<< (exponent - -52 - target).toNat / 2 ^ 52, target,
    accuracyOfFraction (mantissa <<< (exponent - -52 - target).toNat % 2 ^ 52) (2 ^ 52)) = _
  rw [amount, Nat.shiftLeft_eq, Nat.pow_add, Nat.mul_left_comm, Nat.mul_mod_right,
    Nat.mul_div_cancel_left _ (Nat.two_pow_pos 52), show target = exponent - shift by omega]
  rfl

theorem div_one (value : Float) : value / 1 = value := by
  have one : parts 1 = .finite .positive (2 ^ 52) (-52) (by decide) := rfl
  have canonical := canonical_parts value
  have same : UnpackedFloat.div .binary64 (parts value)
      (.finite .positive (2 ^ 52) (-52) (by decide)) = parts value := by
    generalize parts value = given at canonical ⊢
    cases given with
    | notANumber => rfl
    | infinity sign | zero sign => cases sign <;> rfl
    | finite sign mantissa exponent positive =>
      obtain ⟨shift, exact⟩ := divCore_one canonical
      have rounded := roundWithAccuracy_exact canonical shift
      rw [UnpackedFloat.div, exact]
      cases sign <;> exact rounded
  rw [div_eq, one, same, ofParts_parts]

/-! ### Signs -/

theorem sign_neg_neg (sign : Sign) : - -sign = sign := by
  cases sign <;> rfl

theorem neg_neg (value : Float) : - -value = value := by
  refine eq_of_parts ?_
  rw [parts_neg, parts_neg]
  cases parts value with
  | notANumber => rfl
  | infinity sign => exact congrArg UnpackedFloat.infinity (sign_neg_neg sign)
  | zero sign => exact congrArg UnpackedFloat.zero (sign_neg_neg sign)
  | finite sign mantissa exponent positive =>
    show UnpackedFloat.finite (- -sign) mantissa exponent positive = _
    rw [sign_neg_neg]

/-- A zero behind a number leaves it as it is, up to the sign of zero. -/
theorem add_zero (value : Float) : Same (value + 0) value := by
  have opposite : value + 0 = value - -0 := by rw [sub_eq_add_neg, neg_neg]
  have zero : Same (-0) 0 := .inr ⟨by decide, by decide⟩
  have same := same_sub (.refl value) zero
  rw [← opposite, sub_zero] at same
  exact same

theorem apply_neg (sign : Sign) (number : Int) : (-sign).apply number = -sign.apply number := by
  cases sign with
  | negative => exact (Int.neg_neg number).symm
  | positive => rfl

theorem unitsOf_neg (value : Float) : unitsOf (-value) = -unitsOf value := by
  rw [unitsOf, unitsOf, parts_neg]
  cases parts value with
  | notANumber | zero => rfl
  | infinity sign | finite sign => exact apply_neg sign _

/-- A number lies on the side of zero that its sign says. -/
theorem units_nonpos {given : UnpackedFloat} (negative : sign? given = some .negative) :
    units given ≤ 0 := by
  cases given with
  | notANumber => cases negative
  | infinity sign =>
    obtain rfl := Option.some.inj negative
    exact Int.neg_nonpos_of_nonneg (Int.natCast_nonneg _)
  | zero => exact Int.le_refl 0
  | finite sign mantissa exponent positive =>
    obtain rfl := Option.some.inj negative
    exact Int.le_of_lt (units_neg positive exponent)

theorem sign?_of_pos (positive : 0 < first) : sign? (parts first) = some .positive := by
  obtain ⟨-, number, less⟩ := lt_iff.mp positive
  cases sign : sign? (parts first) with
  | none =>
    cases whole : parts first <;> rw [whole] at sign <;> cases sign
    rw [isNaN_eq, whole] at number
    cases number
  | some sign' =>
    cases sign' with
    | positive => rfl
    | negative => exact absurd (units_nonpos sign) (Int.not_le.mpr less)

/-- What has the positive sign is its own magnitude. -/
theorem abs_of_sign (positive : sign? (parts first) = some .positive) : first.abs = first := by
  refine eq_of_parts ?_
  rw [parts_abs]
  cases whole : parts first with
  | notANumber => rfl
  | infinity sign | zero sign | finite sign =>
    rw [whole] at positive
    obtain rfl := Option.some.inj positive
    rfl

theorem abs_of_pos (positive : 0 < first) : first.abs = first :=
  abs_of_sign (sign?_of_pos positive)

/-- What is not zero and not above it is the opposite of its magnitude. -/
theorem neg_abs (nonzero : (first == 0) = false) (notPositive : ¬ 0 < first) :
    -first.abs = first := by
  have zero : ∀ sign, parts first ≠ .zero sign := fun sign whole =>
    Bool.false_ne_true (nonzero.symm.trans (beq_zero_iff.mpr ⟨sign, whole⟩))
  rw [lt_iff_compare, parts_zero] at notPositive
  refine eq_of_parts ?_
  rw [parts_neg, parts_abs]
  cases whole : parts first with
  | notANumber => rfl
  | zero sign => exact absurd whole (zero sign)
  | infinity sign | finite sign =>
    rw [whole] at notPositive
    cases sign with
    | negative => rfl
    | positive => exact absurd rfl notPositive

theorem same_abs (notNegative : 0 ≤ first) : Same first.abs first := by
  rcases le_iff_compare.mp notNegative with positive | equal
  · rw [abs_of_pos (lt_iff_compare.mpr positive)]
    exact .refl first
  · have zero : Same 0 first := same_of_beq (beq_iff_compare.mpr equal)
    rw [same_iff] at zero ⊢
    rcases zero with rfl | ⟨-, sign, whole⟩
    · exact .inl (by decide)
    · rw [parts_abs, whole]
      exact .inr ⟨⟨.positive, rfl⟩, sign, rfl⟩

/-! ### Comparisons -/

theorem not_le_of_lt (less : first < second) : ¬ second ≤ first := by
  rw [lt_iff] at less
  rw [le_iff]
  omega

/-- Mantissas at one exponent are in proportion to the numbers. -/
theorem apply_shift (sign : Sign) {mantissa : Nat} {exponent low : Int} (positive : 0 < mantissa)
    (least : -1074 ≤ low) (le : low ≤ exponent) :
    sign.apply (mantissa <<< (exponent - low).toNat : Nat) * (2 ^ (low + 1074).toNat : Nat)
      = units (.finite sign mantissa exponent positive) := by
  have power : (exponent + 1074).toNat = (exponent - low).toNat + (low + 1074).toNat := by omega
  have magnitude : mantissa <<< (exponent - low).toNat * 2 ^ (low + 1074).toNat
      = mantissa * 2 ^ (exponent + 1074).toNat := by
    rw [Nat.shiftLeft_eq, Nat.mul_assoc, ← Nat.pow_add, power]
  cases sign with
  | positive => exact congrArg Int.ofNat magnitude
  | negative =>
    show -_ * _ = -_
    rw [Int.neg_mul]
    exact congrArg (fun magnitude : Nat => -(magnitude : Int)) magnitude

theorem sign?_sub {before after : UnpackedFloat} (canonical : Canonical before)
    (canonical' : Canonical after) (number : before.isNaN = false) (number' : after.isNaN = false)
    (less : units before < units after) :
    sign? (UnpackedFloat.sub .binary64 before after) = some .negative := by
  have far : (0 : Int) < beyond 2100 := Int.natCast_pos.mpr (beyond_pos 2100)
  cases before with
  | notANumber => cases number
  | infinity sign =>
    cases after with
    | notANumber => cases number'
    | infinity other =>
      cases sign <;> cases other
      · exact absurd less (Int.lt_irrefl _)
      · rfl
      · exact absurd (Int.lt_trans less (Int.neg_neg_of_pos far))
          (Int.not_lt.mpr (Int.le_of_lt far))
      · exact absurd less (Int.lt_irrefl _)
    | zero | finite =>
      have bounds := units_bounds canonical' rfl
      cases sign with
      | negative => rfl
      | positive => exact absurd less (Int.not_lt.mpr (Int.le_of_lt bounds.2))
  | zero sign =>
    cases after with
    | notANumber => cases number'
    | infinity other =>
      cases other with
      | negative => exact absurd less (Int.not_lt.mpr (Int.neg_nonpos_of_nonneg (Int.le_of_lt far)))
      | positive => rfl
    | zero => exact absurd less (Int.lt_irrefl 0)
    | finite other larger higher positive' =>
      cases other with
      | negative => exact absurd less (Int.not_lt.mpr (Int.le_of_lt (units_neg positive' higher)))
      | positive => rfl
  | finite sign mantissa exponent positive =>
    have bounds := units_bounds canonical rfl
    cases after with
    | notANumber => cases number'
    | infinity other =>
      cases other with
      | negative => exact absurd less (Int.not_lt.mpr (Int.le_of_lt bounds.1))
      | positive => rfl
    | zero =>
      cases sign with
      | negative => rfl
      | positive => exact absurd less (Int.not_lt.mpr (Int.le_of_lt (units_pos positive exponent)))
    | finite other larger higher positive' =>
      -- In multiples of the smaller step the two are integers, and so is their difference.
      have least : -1074 ≤ min exponent higher := Int.le_min.mpr ⟨canonical.2.1, canonical'.2.1⟩
      have here := apply_shift sign positive least (Int.min_le_left ..)
      have there := apply_shift other positive' least (Int.min_le_right ..)
      rw [← here, ← there] at less
      refine sign?_normalize_of_neg ?_ _ _
      exact Int.sub_neg_of_lt (Int.lt_of_mul_lt_mul_right less (Int.natCast_nonneg _))

/-- **The difference of a smaller and a larger number has the negative sign.** -/
theorem sign?_sub_of_lt (less : first < second) :
    sign? (parts (first - second)) = some .negative := by
  obtain ⟨number, number', less⟩ := lt_iff.mp less
  rw [sub_eq, sign?_parts_ofParts]
  exact sign?_sub (canonical_parts first) (canonical_parts second) number number' less

end LinearProgram.Decimal
