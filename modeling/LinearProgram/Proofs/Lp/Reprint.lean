/-
**Numbers that are written again.**

Twelve digits are fewer than a double has, so what is read is so near to the decimal that was written
that the same decimal is written again. This holds down to the least normal double; below it doubles
are far apart, and some numbers are not written again.

* `nearest_again`: the nearest decimal is also that of the double nearest to it.
* **`numberText_written`**: the text of a normal number is the text of what it is read as.
* `sign_written`: what is read has the sign of what was written, however small it is.
* `Lasting`: numbers whose text is that of what they are read as.
-/

import LinearProgram.Proofs.Lp.RereadOrder

namespace LinearProgram.Lp

open Decimal

/-! ### The decimal of the double that is nearest to a decimal -/

theorem weight_decimalGrid (place : ℤ) : decimalGrid.weight place = 10 ^ place := by
  simp [Grid.weight, decimalGrid, decimals]

/-- The nearest decimal of a number is more than half of it. -/
theorem half_le_of_nearest {number decimal : ℚ} (near : decimalGrid.Nearest number decimal) :
    number / 2 ≤ decimal := by
  obtain ⟨place, here, close⟩ := near.exists_place
  have low := here.low.resolve_left WithBot.coe_ne_bot
  have le : decimalGrid.weight place ≤ decimalGrid.weight (decimalGrid.digits + place - 1) :=
    decimalGrid.weight_le_weight (by show place ≤ (12 : ℤ) + place - 1; omega)
  have below := (abs_le.mp close).2
  linarith

/-- **The nearest decimal of a normal number is also that of the double nearest to it.** -/
theorem nearest_again {number double : ℚ} {digits : ℕ} {place : ℤ}
    (near : decimalGrid.Nearest number (digits * 10 ^ place)) (low : 10 ^ (writtenDigits - 1) ≤ digits)
    (high : digits < 10 ^ writtenDigits) (normal : 2 ^ (-1022 : ℤ) ≤ number)
    (near' : doubles.Nearest (digits * 10 ^ place) double) :
    decimalGrid.Nearest double (digits * 10 ^ place) := by
  have half := half_le_of_nearest near
  obtain ⟨least, here, close⟩ := near'.exists_place
  rw [weight_doubles] at close
  -- The unit of the double is small against that of the decimal.
  have unit : (2 : ℚ) ^ least / 2 * (20 * 10 ^ 12) ≤ digits * 10 ^ place := by
    rcases here.low with last | full
    · have same : least = -1074 := WithBot.coe_injective last
      have step : (2 : ℚ) ^ (-1022 : ℤ) = 2 ^ (-1074 : ℤ) * 2 ^ 52 := by
        rw [← zpow_natCast, ← zpow_add₀ two_ne_zero]
        norm_num
      have positive : (0 : ℚ) < 2 ^ (-1074 : ℤ) := zpow_pos two_pos _
      rw [step] at normal
      rw [same]
      generalize (2 : ℚ) ^ (-1074 : ℤ) = weight at normal positive ⊢
      linarith
    · have step : doubles.weight (doubles.digits + least - 1) = 2 ^ least * 2 ^ 52 := by
        rw [weight_doubles, ← zpow_natCast, ← zpow_add₀ two_ne_zero]
        congr 1
        show (53 : ℤ) + least - 1 = least + 52
        omega
      have positive : (0 : ℚ) < 2 ^ least := zpow_pos two_pos _
      rw [step] at full
      generalize (2 : ℚ) ^ least = weight at full positive ⊢
      linarith
  have bound : (digits : ℚ) * 10 ^ place < 10 ^ 12 * 10 ^ place :=
    mul_lt_mul_of_pos_right (by exact_mod_cast high) (zpow_pos (by norm_num) place)
  have tenth : (10 : ℚ) ^ place = 10 ^ (place - 1) * 10 := by
    rw [zpow_sub_one₀ (by norm_num)]
    field_simp
  rw [← weight_decimalGrid]
  refine Grid.nearest_of_close bot_le low high ?_
  rw [weight_decimalGrid, weight_decimalGrid, abs_sub_comm]
  exact lt_of_le_of_lt close (by linarith)

/-- **One number of digits and one exponent** give a value. -/
theorem eq_of_value {first second : Rounded} (low : 10 ^ (writtenDigits - 1) ≤ first.digits)
    (high : first.digits < 10 ^ writtenDigits) (low' : 10 ^ (writtenDigits - 1) ≤ second.digits)
    (high' : second.digits < 10 ^ writtenDigits)
    (same : first.value writtenDigits = second.value writtenDigits) : first = second := by
  have here {number : Rounded} (low : 10 ^ (writtenDigits - 1) ≤ number.digits)
      (high : number.digits < 10 ^ writtenDigits) :
      decimalGrid.Place (number.value writtenDigits) (number.exponent - (writtenDigits - 1)) := by
    rw [Rounded.value, ← weight_decimalGrid]
    exact Grid.place_of_digits bot_le low high
  have exponents := (same ▸ here low high).unique (here low' high')
  obtain ⟨digits, exponent⟩ := first
  obtain ⟨digits', exponent'⟩ := second
  obtain rfl : exponent = exponent' := by
    dsimp only at exponents
    omega
  have cast := mul_right_cancel₀ (zpow_pos (by norm_num) _).ne' same
  obtain rfl : digits = digits' := Nat.cast_injective cast
  rfl

/-! ### What is read where a number was written -/

/-- The largest finite double. -/
def largest : Float := 1.7976931348623157e308

section Finite

open Float.Model UnpackedFloat

variable {value : Float} {sign : Sign} {mantissa : ℕ} {exponent : ℤ} {positive : 0 < mantissa}

/-- No finite double is farther from zero than the largest one. -/
theorem units_le_largest (finite : value.isFinite = true) :
    unitsOf (-largest) ≤ unitsOf value ∧ unitsOf value ≤ unitsOf largest := by
  obtain ⟨last, place, top⟩ : ∃ last : ℕ, last = 971 + 1074
      ∧ unitsOf largest = ((2 ^ 53 - 1) * 2 ^ last : ℕ) := ⟨971 + 1074, rfl, by decide +kernel⟩
  rw [unitsOf_neg, top]
  have canonical := canonical_parts value
  unfold unitsOf
  cases whole : parts value with
  | notANumber | infinity => rw [isFinite_eq, whole] at finite; cases finite
  | zero => exact ⟨Int.neg_nonpos_of_nonneg (Int.natCast_nonneg _), Int.natCast_nonneg _⟩
  | finite sign mantissa exponent positive =>
    rw [whole] at canonical
    obtain ⟨short, -, high, -⟩ := canonical
    have bound : mantissa * 2 ^ (exponent + 1074).toNat ≤ (2 ^ 53 - 1) * 2 ^ last :=
      Nat.mul_le_mul (by omega) (Nat.pow_le_pow_right (by decide) (by omega))
    cases sign <;> simp only [units, Sign.apply] <;> omega

/-- What is finite is read as something finite. -/
theorem isFinite_written (finite : value.isFinite = true) : (written value).isFinite = true := by
  obtain ⟨_, -, rounded⟩ := isRounded_written finite
  have ends : (written largest).isFinite = true ∧ (written (-largest)).isFinite = true := by
    decide +kernel
  obtain ⟨low, high⟩ := units_le_largest finite
  have high := unitsOf_written_mono finite (by decide +kernel) high
  have low := unitsOf_written_mono (by decide +kernel) finite low
  refine isFinite_of_not_isInf rounded.isNaN fun infinite => ?_
  rcases eq_infinity_of_isInf infinite with same | same
  · rw [same] at high
    exact absurd (unitsOf_lt ends.1).2 (Int.not_lt.mpr high)
  · rw [same] at low
    exact absurd (unitsOf_lt ends.2).1 (Int.not_lt.mpr low)

/-- **A normal number is read as one with the same decimal.** -/
theorem parts_written (whole : parts value = .finite sign mantissa exponent positive)
    (normal : (2 : ℚ) ^ (-1022 : ℤ) ≤ mantissa * 2 ^ exponent) :
    ∃ digits place positive', parts (written value) = .finite sign digits place positive'
      ∧ writtenDecimal digits place = writtenDecimal mantissa exponent := by
  have finite : (written value).isFinite = true :=
    isFinite_written (by rw [isFinite_eq, whole]; rfl)
  obtain ⟨nearest, low, high⟩ := writtenDecimal_spec positive exponent
  obtain ⟨back, near, same⟩ := written_of_finite whole
  obtain ⟨-, ⟨-, digits, place, settled, close, rfl⟩, rfl⟩ := near
  have again := nearest_again nearest low high normal close
  -- Zero is nearest to zero only, and what is too large would not be finite.
  have some : 0 < digits := by
    refine Nat.pos_of_ne_zero ?_
    rintro rfl
    rw [Nat.cast_zero, zero_mul] at again
    have decimal : (0 : ℚ) < (writtenDecimal mantissa exponent).value writtenDigits :=
      mul_pos (by exact_mod_cast lt_of_lt_of_le (by decide) low) (zpow_pos (by norm_num) _)
    exact decimal.ne' again.eq_zero
  have bounded : place ≤ 971 := by
    by_contra above
    rw [same, ofParts_of_lt settled (not_le.mp above)] at finite
    cases sign <;> exact absurd finite (by decide)
  have parted : parts (written value) = .finite sign digits place some := by
    have canonical : Canonical (partsOf .positive digits place) :=
      canonical_partsOf settled bounded
    have plain := parts_ofParts canonical
    rw [partsOf_of_pos .positive some] at plain
    rw [same]
    cases sign with
    | positive =>
      rw [partsOf_of_pos .positive some]
      exact plain
    | negative =>
      refine (parts_neg _).trans ?_
      rw [partsOf_of_pos .positive some, plain]
      rfl
  obtain ⟨nearest', low', high'⟩ := writtenDecimal_spec some place
  exact ⟨digits, place, some, parted, eq_of_value low' high' low high (nearest'.unique again)⟩

end Finite

/-! ### Signs -/

section Signs

variable {value : Float}

/-- A number is read as a number. -/
theorem isNaN_written (number : value.isNaN = false) : (written value).isNaN = false := by
  by_cases infinite : value.isInf = true
  · rcases eq_infinity_of_isInf infinite with rfl | rfl <;> decide +kernel
  · obtain ⟨_, -, rounded⟩ := isRounded_written (isFinite_of_not_isInf number infinite)
    exact rounded.isNaN

/-- **What is read has the sign of what was written**: even the least positive double is read as
something positive, and its opposite as something negative. -/
theorem sign_written (number : value.isNaN = false) :
    (0 < unitsOf value → 0 < unitsOf (written value))
      ∧ (unitsOf value < 0 → unitsOf (written value) < 0) := by
  by_cases infinite : value.isInf = true
  · rcases eq_infinity_of_isInf infinite with rfl | rfl <;> decide +kernel
  have finite := isFinite_of_not_isInf number infinite
  constructor
  · intro above
    obtain ⟨least, finite', one, read⟩ : ∃ least : Float, least.isFinite = true
        ∧ unitsOf least = 1 ∧ 0 < unitsOf (written least) := ⟨5e-324, by decide +kernel⟩
    have more := unitsOf_written_mono finite' finite (by omega)
    omega
  · intro below
    obtain ⟨least, finite', one, read⟩ : ∃ least : Float, least.isFinite = true
        ∧ unitsOf least = -1 ∧ unitsOf (written least) < 0 := ⟨-5e-324, by decide +kernel⟩
    have less := unitsOf_written_mono finite finite' (by omega)
    omega

/-- What is positive is read as something positive. -/
theorem written_pos (positive : 0 < value) : 0 < written value := by
  obtain ⟨-, number, above⟩ := lt_iff.mp positive
  exact lt_iff.mpr ⟨rfl, isNaN_written number, (sign_written number).1 above⟩

/-- Only zero is read as zero. -/
theorem eq_zero_of_written (number : value.isNaN = false) (zero : (written value == 0) = true) :
    (value == 0) = true := by
  have none : unitsOf 0 = 0 := rfl
  have read := (beq_iff.mp zero).2.2
  obtain ⟨positive, negative⟩ := sign_written number
  exact beq_iff.mpr ⟨number, rfl, by omega⟩

end Signs

/-! ### Lasting numbers -/

/-- The least normal double. -/
def leastNormal : Float := 2.2250738585072014e-308

/-- **A number that lasts**: its text is the text of what it is read as. Only numbers below the least
normal double in magnitude have to be looked at. -/
structure Lasting (value : Float) : Prop where
  number : value.isNaN = false
  small : value.abs < leastNormal → numberText (written value) = numberText value

instance (value : Float) : Decidable (Lasting value) :=
  decidable_of_iff (value.isNaN = false ∧ (_ → _))
    ⟨fun ⟨number, small⟩ => ⟨number, small⟩, fun lasting => ⟨lasting.number, lasting.small⟩⟩

section Lasting

open Float.Model UnpackedFloat

variable {value : Float}

theorem Lasting.isNaN_of_abs (lasting : Lasting value.abs) : value.isNaN = false :=
  (isNaN_abs value).symm.trans lasting.number

/-- What is not below the least normal double and finite has digits. -/
theorem exists_digits (normal : leastNormal ≤ value.abs) (finite : ¬ value.isInf = true) :
    ∃ sign mantissa exponent positive, parts value = .finite sign mantissa exponent positive
      ∧ (2 : ℚ) ^ (-1022 : ℤ) ≤ mantissa * 2 ^ exponent := by
  have canonical := canonical_parts value
  have least : unitsOf leastNormal = (2 ^ 52 : ℕ) := by decide +kernel
  obtain ⟨-, number, large⟩ := le_iff.mp normal
  rw [isNaN_abs, isNaN_eq] at number
  rw [least, unitsOf, parts_abs] at large
  cases whole : parts value with
  | notANumber => rw [whole] at number; cases number
  | infinity => exact absurd (by rw [isInf_eq, whole]; rfl) finite
  | zero sign =>
    rw [whole] at large
    exact absurd large (Int.not_le.mpr (by positivity))
  | finite sign mantissa exponent positive =>
    rw [whole] at canonical large
    have large : (2 ^ 52 : ℕ) ≤ mantissa * 2 ^ (exponent + 1074).toNat := Int.ofNat_le.mp large
    have large' : ((2 ^ 52 : ℕ) : ℚ) ≤ (mantissa * 2 ^ (exponent + 1074).toNat : ℕ) := by
      exact_mod_cast large
    have step : ((2 ^ 52 : ℕ) : ℚ) = 2 ^ (-1022 : ℤ) * 2 ^ (1074 : ℤ) := by
      rw [← zpow_add₀ two_ne_zero]
      norm_num
    rw [cast_magnitude canonical.2.1, step] at large'
    exact ⟨sign, mantissa, exponent, positive, rfl,
      le_of_mul_le_mul_right large' (zpow_pos two_pos _)⟩

/-- **Infinite and normal numbers last.** -/
theorem numberText_written (normal : leastNormal ≤ value.abs) :
    numberText (written value) = numberText value := by
  by_cases infinite : value.isInf = true
  · rcases eq_infinity_of_isInf infinite with rfl | rfl <;> decide +kernel
  · obtain ⟨sign, mantissa, exponent, positive, whole, large⟩ := exists_digits normal infinite
    obtain ⟨digits, place, positive', back, same⟩ := parts_written whole large
    refine String.toList_injective ?_
    rw [numberText_of_finite back, numberText_of_finite whole, same]

/-- **The text of a lasting number is the text of what it is read as.** -/
theorem Lasting.numberText_written (lasting : Lasting value) :
    numberText (written value) = numberText value := by
  by_cases small : value.abs < leastNormal
  · exact lasting.small small
  · exact Lp.numberText_written
      (le_of_not_lt ((isNaN_abs value).trans lasting.number) (by decide +kernel) small)

end Lasting

/-! ### Terms and constants -/

/-- **Numbers that are told apart** when they are written: with one text they are equal. -/
def ToldApart (first second : Float) : Prop :=
  numberText first = numberText second → (first == second) = true

instance (first second : Float) : Decidable (ToldApart first second) :=
  inferInstanceAs (Decidable (_ → _))

section Terms

variable {value : Float}

theorem beq_neg_iff {other : Float} : (-value == -other) = true ↔ (value == other) = true := by
  rw [beq_iff, beq_iff, isNaN_neg, isNaN_neg, unitsOf_neg, unitsOf_neg, Int.neg_inj]

/-- What is known of a positive number and its opposite. -/
structure Sided (value : Float) : Prop where
  nonzero : ¬ (value == 0) = true
  nonzero' : ¬ (-value == 0) = true
  nonneg : 0 ≤ value
  below : ¬ 0 ≤ -value
  notAbove : ¬ 0 < -value
  notMinusOne : ¬ (value == -1) = true
  notOne : ¬ (-value == 1) = true

theorem sided (positive : 0 < value) : Sided value := by
  have zero : unitsOf 0 = 0 := rfl
  have one : 0 < unitsOf 1 := by decide +kernel
  have opposite := unitsOf_neg value
  have opposite' := unitsOf_neg 1
  have less := (lt_iff.mp positive).2.2
  constructor
  all_goals first | rw [beq_iff] | rw [le_iff] | rw [lt_iff]
  all_goals first | omega | exact ⟨rfl, (lt_iff.mp positive).2.1, by omega⟩

/-- A number is zero, or it is a magnitude with a sign. -/
theorem zero_or_signed (number : value.isNaN = false) :
    (value == 0) = true ∨ 0 < value ∧ value.abs = value
      ∨ ∃ size, 0 < size ∧ value = -size ∧ value.abs = size := by
  have zero : unitsOf 0 = 0 := rfl
  have opposite := unitsOf_neg value
  rcases lt_trichotomy (unitsOf value) 0 with below | equal | above
  · have positive : 0 < -value := lt_iff.mpr ⟨rfl, (isNaN_neg value).trans number, by omega⟩
    refine .inr (.inr ⟨-value, positive, (neg_neg value).symm, abs_of_neg number fun above => ?_⟩)
    have above := (le_iff.mp above).2.2
    omega
  · exact .inl (beq_iff.mpr ⟨number, rfl, equal⟩)
  · have positive : 0 < value := lt_iff.mpr ⟨rfl, number, above⟩
    exact .inr (.inl ⟨positive, abs_of_pos positive⟩)

/-- Zero is neither one nor minus one, and not negative. -/
theorem sided_zero (zero : (value == 0) = true) :
    ¬ (value == 1) = true ∧ ¬ (value == -1) = true ∧ 0 ≤ value := by
  have one : unitsOf 1 ≠ 0 ∧ unitsOf (-1) ≠ 0 := by decide +kernel
  have none : unitsOf 0 = 0 := rfl
  obtain ⟨number, -, equal⟩ := beq_iff.mp zero
  rw [beq_iff, beq_iff, le_iff]
  exact ⟨by omega, by omega, rfl, number, Int.le_of_eq equal.symm⟩

theorem signedTerm_of_zero (name : String) (zero : (value == 0) = true) :
    signedTerm name value = "+" ++ "0" ++ " " ++ name := by
  obtain ⟨notOne, notMinusOne, nonneg⟩ := sided_zero zero
  rw [signedTerm, if_neg notOne, if_neg notMinusOne, if_pos nonneg,
    ← numberText_congr (.zero zero)]
  rfl

theorem rereadCoefficient_of_zero (zero : (value == 0) = true) : rereadCoefficient value = 0 := by
  obtain ⟨notOne, notMinusOne, nonneg⟩ := sided_zero zero
  rw [rereadCoefficient, if_neg notOne, if_neg notMinusOne, if_pos nonneg,
    ← written_congr (.zero zero)]
  decide +kernel

variable (name : String) (positive : 0 < value)

include positive

theorem signedTerm_of_pos (notOne : ¬ (value == 1) = true) :
    signedTerm name value = "+" ++ numberText value ++ " " ++ name := by
  have sided := sided positive
  rw [signedTerm, if_neg notOne, if_neg sided.notMinusOne, if_pos sided.nonneg]

theorem signedTerm_neg_of_pos (notOne : ¬ (value == 1) = true) :
    signedTerm name (-value) = "-" ++ numberText value ++ " " ++ name := by
  have sided := sided positive
  have notMinusOne : ¬ (-value == -1) = true := fun equal => notOne (beq_neg_iff.mp equal)
  rw [signedTerm, if_neg sided.notOne, if_neg notMinusOne, if_neg sided.below, neg_neg]

theorem rereadCoefficient_of_pos (notOne : ¬ (value == 1) = true) :
    rereadCoefficient value = written value := by
  have sided := sided positive
  rw [rereadCoefficient, if_neg notOne, if_neg sided.notMinusOne, if_pos sided.nonneg]

theorem rereadCoefficient_neg_of_pos (notOne : ¬ (value == 1) = true) :
    rereadCoefficient (-value) = -written value := by
  have sided := sided positive
  have notMinusOne : ¬ (-value == -1) = true := fun equal => notOne (beq_neg_iff.mp equal)
  rw [rereadCoefficient, if_neg sided.notOne, if_neg notMinusOne, if_neg sided.below, neg_neg]

theorem constantText_of_pos (hasTerms : Bool) :
    constantText hasTerms value = (if hasTerms then " " else "") ++ "+" ++ numberText value := by
  rw [constantText, if_neg (sided positive).nonzero, if_pos positive, abs_of_pos positive]

theorem constantText_neg_of_pos (hasTerms : Bool) :
    constantText hasTerms (-value) = (if hasTerms then " " else "") ++ "-" ++ numberText value := by
  have sided := sided positive
  have number : (-value).isNaN = false := (isNaN_neg value).trans (lt_iff.mp positive).2.1
  rw [constantText, if_neg sided.nonzero', if_neg sided.notAbove,
    abs_of_neg number sided.below, neg_neg]

end Terms

section Again

variable {value : Float} (name : String)

/-- What is told apart from one is not read as one. -/
theorem written_ne_one (lasting : Lasting value) (apart : ToldApart value 1)
    (notOne : ¬ (value == 1) = true) : ¬ (written value == 1) = true := by
  intro one
  refine notOne (apart ?_)
  rw [← lasting.numberText_written, numberText_congr (same_of_beq one)]

/-- **The text of a term is the text of what it is read as.** -/
theorem signedTerm_reread (lasting : Lasting value.abs) (apart : ToldApart value.abs 1) :
    signedTerm name (rereadCoefficient value) = signedTerm name value := by
  rcases zero_or_signed lasting.isNaN_of_abs with zero | ⟨positive, size⟩ | ⟨size, positive, rfl, same⟩
  · rw [rereadCoefficient_of_zero zero, signedTerm_of_zero name zero, signedTerm_of_zero name rfl]
  · rw [size] at lasting apart
    by_cases one : (value == 1) = true
    · rw [rereadCoefficient, if_pos one, signedTerm, signedTerm, if_pos one]
      rfl
    · rw [rereadCoefficient_of_pos positive one, signedTerm_of_pos name positive one,
        signedTerm_of_pos name (written_pos positive) (written_ne_one lasting apart one),
        lasting.numberText_written]
  · rw [same] at lasting apart
    by_cases one : (size == 1) = true
    · have minusOne : (-size == -1) = true := beq_neg_iff.mpr one
      have notOne := (sided positive).notOne
      rw [rereadCoefficient, if_neg notOne, if_pos minusOne, signedTerm, signedTerm, if_neg notOne,
        if_pos minusOne]
      rfl
    · rw [rereadCoefficient_neg_of_pos positive one, signedTerm_neg_of_pos name positive one,
        signedTerm_neg_of_pos name (written_pos positive) (written_ne_one lasting apart one),
        lasting.numberText_written]

/-- Only zero is read as zero. -/
theorem eq_zero_of_rereadCoefficient (number : value.isNaN = false)
    (zero : (rereadCoefficient value == 0) = true) : (value == 0) = true := by
  have ones : ¬ ((1 : Float) == 0) = true ∧ ¬ ((-1 : Float) == 0) = true := by decide
  rcases zero_or_signed number with none | ⟨positive, -⟩ | ⟨size, positive, rfl, -⟩
  · exact none
  · by_cases one : (value == 1) = true
    · rw [rereadCoefficient, if_pos one] at zero
      exact absurd zero ones.1
    · rw [rereadCoefficient_of_pos positive one] at zero
      exact eq_zero_of_written number zero
  · by_cases one : (size == 1) = true
    · rw [rereadCoefficient, if_neg (sided positive).notOne, if_pos (beq_neg_iff.mpr one)] at zero
      exact absurd zero ones.2
    · rw [rereadCoefficient_neg_of_pos positive one] at zero
      exact absurd zero (sided (written_pos positive)).nonzero'

theorem zero_add_of_ne (nonzero : ¬ (value == 0) = true) : 0 + value = value :=
  (Decimal.zero_add value).resolve_right fun zeros => nonzero zeros.2

/-- **The text of the constant is the text of what it is read as.** -/
theorem constantText_reread (lasting : Lasting value.abs) (hasTerms : Bool) :
    constantText hasTerms (rereadConstant value) = constantText hasTerms value := by
  rcases zero_or_signed lasting.isNaN_of_abs with zero | ⟨positive, size⟩ | ⟨size, positive, rfl, same⟩
  · rw [rereadConstant, if_pos zero, constantText, constantText, if_pos zero]
    rfl
  · rw [size] at lasting
    have back := written_pos positive
    rw [rereadConstant, if_neg (sided positive).nonzero, if_pos positive, size,
      zero_add_of_ne (sided back).nonzero, constantText_of_pos back, constantText_of_pos positive,
      lasting.numberText_written]
  · have sides := sided positive
    rw [same] at lasting
    have back := written_pos positive
    rw [rereadConstant, if_neg sides.nonzero', if_neg sides.notAbove, same,
      zero_add_of_ne (sided back).nonzero', constantText_neg_of_pos back,
      constantText_neg_of_pos positive, lasting.numberText_written]

/-! ### Limits -/

/-- What is at most `1e30` in magnitude has the text that it has when it is infinite from there. -/
theorem numberText_clamp (low : -infiniteFrom ≤ value) (high : value ≤ infiniteFrom) :
    numberText (clamp value) = numberText value := by
  obtain ⟨bottom, number, low⟩ := le_iff.mp low
  obtain ⟨-, top, high⟩ := le_iff.mp high
  have ends : numberText infinity = numberText infiniteFrom
      ∧ numberText (-infinity) = numberText (-infiniteFrom) := by decide +kernel
  unfold clamp
  split
  next above =>
    have equal : (value == infiniteFrom) = true :=
      beq_iff.mpr ⟨number, top, Int.le_antisymm high (le_iff.mp above).2.2⟩
    rw [ends.1, numberText_congr (same_of_beq equal)]
  split
  next below =>
    have equal : (value == -infiniteFrom) = true :=
      beq_iff.mpr ⟨number, bottom, Int.le_antisymm (le_iff.mp below).2.2 low⟩
    rw [ends.2, numberText_congr (same_of_beq equal)]
  next => rfl

/-- **The text of a limit is the text of what it is read as.** -/
theorem numberText_rereadLimit (lasting : Lasting value) (bounded : Bounded value) :
    numberText (rereadLimit value) = numberText value := by
  by_cases infinite : value.isInf = true
  · rw [rereadLimit_of_isInf infinite]
  obtain ⟨low, high⟩ := bounded.resolve_left infinite
  obtain ⟨bottom, -, low⟩ := lt_iff.mp low
  obtain ⟨-, top, high⟩ := lt_iff.mp high
  have finite := isFinite_of_not_isInf lasting.number infinite
  have number := isNaN_rereadNumber finite
  have same : Same (rereadNumber value) (written value) := Decimal.zero_add _
  have ends : unitsOf (written infiniteFrom) = unitsOf infiniteFrom
      ∧ unitsOf (written (-infiniteFrom)) = unitsOf (-infiniteFrom) := by decide +kernel
  have below := unitsOf_written_mono (by decide +kernel) finite (Int.le_of_lt low)
  have above := unitsOf_written_mono finite (by decide +kernel) (Int.le_of_lt high)
  rw [ends.2, ← unitsOf_congr same] at below
  rw [ends.1, ← unitsOf_congr same] at above
  rw [rereadLimit, numberText_clamp (le_iff.mpr ⟨bottom, number, below⟩)
    (le_iff.mpr ⟨number, top, above⟩), numberText_congr same, lasting.numberText_written]

/-- Only zero is read as the limit zero. -/
theorem eq_zero_of_rereadLimit (number : value.isNaN = false)
    (zero : (rereadLimit value == 0) = true) :
    (value == 0) = true := by
  refine eq_zero_of_written number ?_
  have same : Same (rereadNumber value) (written value) := Decimal.zero_add _
  have nonzero : ¬ (infinity == 0) = true ∧ ¬ (-infinity == 0) = true := by decide
  unfold rereadLimit clamp at zero
  split at zero
  · exact absurd zero nonzero.1
  split at zero
  · exact absurd zero nonzero.2
  · obtain ⟨number', -, equal⟩ := beq_iff.mp zero
    exact beq_iff.mpr ⟨(isNaN_congr same).symm.trans number', rfl,
      (unitsOf_congr same).symm.trans equal⟩

end Again

end LinearProgram.Lp
