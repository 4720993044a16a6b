/-
**The text of rounded digits denotes the number that they are.**

Whichever layout is chosen, zeros that are left out at the end of a fraction and zeros that fill the
gap to the point are made up for by the exponent. So a reader gets the double nearest to the rounded
number.

* `denotes_withFraction`: what a whole part, a fraction and an exponent denote together.
* **`denotes_layout`**: the text of rounded digits is read as the double nearest to them.
-/

import LinearProgram.Proofs.Decimal.Scientific
import LinearProgram.Proofs.Decimal.Significant
import LinearProgram.Proofs.Lp.NumberText

namespace LinearProgram.Lp

open Decimal

/-! ### Rows of digits -/

section Rows

variable {first second : List Char}

theorem natOfDigits_digits (number : Nat) : natOfDigits (digits number) = number :=
  Nat.ofDigitChars_toDigits (by decide) (by decide)

theorem natOfDigits_zeros_append (count : Nat) (text : List Char) :
    natOfDigits (List.replicate count '0' ++ text) = natOfDigits text := by
  induction count with
  | zero => rfl
  | succ count hyp => exact hyp

/-- Zeros at the end are powers of ten. -/
theorem natOfDigits_append_zeros (text : List Char) (count : Nat) :
    natOfDigits (text ++ List.replicate count '0') = natOfDigits text * 10 ^ count := by
  induction count with
  | zero => rw [List.replicate_zero, List.append_nil, Nat.pow_zero, Nat.mul_one]
  | succ count hyp =>
    rw [List.replicate_succ', ← List.append_assoc, natOfDigits, List.foldl_append, ← natOfDigits, hyp,
      Nat.pow_succ, ← Nat.mul_assoc, Nat.mul_comm _ 10]
    rfl

/-- Only zeros are left out at the end. -/
theorem exists_dropTrailingZeros (text : List Char) :
    ∃ count, text = dropTrailingZeros text ++ List.replicate count '0' := by
  have split : text.reverse.takeWhile (· == '0') ++ text.reverse.dropWhile (· == '0') = text.reverse :=
    List.takeWhile_append_dropWhile
  have zeros : text.reverse.takeWhile (· == '0')
      = List.replicate (text.reverse.takeWhile (· == '0')).length '0' := by
    refine List.eq_replicate_of_mem fun character member => ?_
    have zero := List.mem_takeWhile_imp member
    exact beq_iff_eq.mp zero
  refine ⟨(text.reverse.takeWhile (· == '0')).length, ?_⟩
  rw [zeros] at split
  have reversed := congrArg List.reverse split
  rw [List.reverse_append, List.reverse_replicate, List.reverse_reverse] at reversed
  exact reversed.symm

/-- What the zeros at the end of a fraction stand for. -/
theorem natOfDigits_dropTrailingZeros (whole fraction : List Char) :
    ∃ count, fraction.length = (dropTrailingZeros fraction).length + count
      ∧ natOfDigits (whole ++ fraction)
        = natOfDigits (whole ++ dropTrailingZeros fraction) * 10 ^ count := by
  obtain ⟨count, split⟩ := exists_dropTrailingZeros fraction
  refine ⟨count, ?_, ?_⟩
  · conv_lhs => rw [split]
    rw [List.length_append, List.length_replicate]
  · conv_lhs => rw [split]
    rw [← List.append_assoc, natOfDigits_append_zeros]

/-- The point makes up for them. -/
theorem value_dropTrailingZeros (whole fraction : List Char) (power : ℤ) :
    (natOfDigits (whole ++ fraction) * 10 ^ (power - fraction.length) : ℚ)
      = natOfDigits (whole ++ dropTrailingZeros fraction)
        * 10 ^ (power - (dropTrailingZeros fraction).length) := by
  obtain ⟨count, length, digits⟩ := natOfDigits_dropTrailingZeros whole fraction
  have exponents : power - (dropTrailingZeros fraction).length
      = count + (power - fraction.length) := by omega
  rw [digits, exponents, zpow_add₀ (by norm_num), zpow_natCast, Nat.cast_mul, Nat.cast_pow,
    Nat.cast_ofNat, mul_assoc]

end Rows

/-! ### A whole part, a fraction and an exponent -/

/-- The text is read as the double nearest to the number. -/
def Denotes (text : List Char) (number : ℚ) : Prop :=
  ∃ value, decimal? text = some value ∧ IsNearest .positive number value

/-- What may follow the digits and the point of a decimal. -/
def Behind (rest : List Char) : Prop :=
  ∀ character ∈ rest.head?, isMantissa character = false

theorem Behind.not_digit {rest : List Char} (behind : Behind rest) :
    ∀ character ∈ rest.head?, character.isDigit = false := by
  intro character member
  have other := behind character member
  rw [isMantissa, Bool.or_eq_false_iff] at other
  exact other.1

/-- A decimal without a point. -/
theorem decimal?_whole {whole rest : List Char} {power : Int} (some : whole ≠ [])
    (digits : AllDigits whole) (behind : Behind rest) (parsed : exponent? rest = Option.some power) :
    decimal? (whole ++ rest) = Option.some (ofScientific (natOfDigits whole) power) := by
  have nonempty : whole.isEmpty = false := List.isEmpty_eq_false_iff.mpr some
  unfold decimal?
  rw [spanDigits_append digits behind.not_digit]
  cases rest with
  | nil => simp [nonempty, parsed]
  | cons first tail =>
    have notPoint : first ≠ '.' := by
      rintro rfl
      exact absurd (behind '.' rfl) (by decide)
    simp [nonempty, parsed, notPoint]

/-- A decimal with a point. -/
theorem decimal?_point {whole fraction rest : List Char} {power : Int} (some : whole ≠ [])
    (digits : AllDigits whole) (digits' : AllDigits fraction) (behind : Behind rest)
    (parsed : exponent? rest = Option.some power) :
    decimal? (whole ++ '.' :: fraction ++ rest)
      = Option.some (ofScientific (natOfDigits (whole ++ fraction)) (power - fraction.length)) := by
  have nonempty : whole.isEmpty = false := List.isEmpty_eq_false_iff.mpr some
  have point : ∀ character ∈ ('.' :: fraction ++ rest).head?, character.isDigit = false := by
    intro character member
    obtain rfl := Option.some.inj member
    rfl
  unfold decimal?
  rw [List.append_assoc, spanDigits_append digits point]
  simp [nonempty, parsed, spanDigits_append digits' behind.not_digit]

/-- **What a whole part, a fraction and an exponent denote together.** -/
theorem denotes_withFraction {whole fraction rest : List Char} {power : Int} (some : whole ≠ [])
    (digits : AllDigits whole) (digits' : AllDigits fraction) (behind : Behind rest)
    (parsed : exponent? rest = Option.some power) :
    Denotes (withFraction whole fraction ++ rest)
      (natOfDigits (whole ++ fraction) * 10 ^ (power - fraction.length)) := by
  have kept : AllDigits (dropTrailingZeros fraction) :=
    digits'.sublist (dropTrailingZeros_sublist fraction)
  rw [value_dropTrailingZeros]
  unfold withFraction
  split
  next none =>
    rw [none, List.append_nil, List.length_nil, Nat.cast_zero, Int.sub_zero]
    exact ⟨_, decimal?_whole some digits behind parsed, isNearest_ofScientific _ _⟩
  next =>
    exact ⟨_, decimal?_point some digits kept behind parsed, isNearest_ofScientific _ _⟩

/-! ### Rounded digits in their layout -/

/-- An exponent as it is written. -/
theorem exponent?_written (power : Int) :
    exponent? ('e' :: (if power < 0 then '-' else '+')
        :: (List.replicate (2 - (digits power.natAbs).length) '0' ++ digits power.natAbs))
      = some power := by
  have all := (allDigits_zeros (2 - (digits power.natAbs).length)).append
    (allDigits_digits power.natAbs)
  have value : natOfDigits
      (List.replicate (2 - (digits power.natAbs).length) '0' ++ digits power.natAbs)
        = power.natAbs := by
    rw [natOfDigits_zeros_append, natOfDigits_digits]
  have some : List.replicate (2 - (digits power.natAbs).length) '0' ++ digits power.natAbs ≠ [] :=
    List.append_ne_nil_of_right_ne_nil _ Nat.toDigits_ne_nil
  generalize List.replicate (2 - (digits power.natAbs).length) '0' ++ digits power.natAbs = body
    at all value some ⊢
  have accepted : ¬ (body.isEmpty || !body.all Char.isDigit) = true := by
    rw [List.isEmpty_eq_false_iff.mpr some, List.all_eq_true.mpr all]
    decide
  split
  next negative =>
    refine (if_neg accepted).trans ?_
    rw [value]
    exact congrArg Option.some (by show -(power.natAbs : Int) = power; omega)
  next notNegative =>
    refine (if_neg accepted).trans ?_
    rw [value]
    exact congrArg Option.some (by show (power.natAbs : Int) = power; omega)

section Layout

variable {number : Rounded} (length : (digits number.digits).length = writtenDigits)

include length

theorem denotes_scientific : Denotes (scientific number) (number.value writtenDigits) := by
  have all := allDigits_digits number.digits
  have some : (digits number.digits).take 1 ≠ [] := by
    intro none
    have count := congrArg List.length none
    rw [List.length_take, length] at count
    exact absurd count (by decide)
  have behind : Behind ('e' :: (if number.exponent < 0 then '-' else '+')
      :: (List.replicate (2 - (digits number.exponent.natAbs).length) '0'
        ++ digits number.exponent.natAbs)) := by
    intro character member
    obtain rfl := Option.some.inj member
    rfl
  have denotes := denotes_withFraction some (all.sublist (List.take_sublist ..))
    (all.sublist (List.drop_sublist 1 _)) behind (exponent?_written number.exponent)
  rw [List.take_append_drop, natOfDigits_digits, List.length_drop, length] at denotes
  exact denotes

theorem denotes_plain (high : number.exponent < writtenDigits) :
    Denotes (plain number) (number.value writtenDigits) := by
  have all := allDigits_digits number.digits
  have behind : Behind [] := fun _ member => absurd member (Option.not_mem_none _)
  have parsed : exponent? [] = some 0 := rfl
  unfold plain
  dsimp only
  split
  next negative =>
    have zero : AllDigits ['0'] := allDigits_zeros 1
    have denotes := denotes_withFraction (List.cons_ne_nil _ _) zero
      ((allDigits_zeros (-number.exponent - 1).toNat).append all) behind parsed
    have value : natOfDigits (['0'] ++ (List.replicate (-number.exponent - 1).toNat '0'
        ++ digits number.digits)) = number.digits :=
      (natOfDigits_zeros_append _ _).trans (natOfDigits_digits _)
    have exponents : (0 : Int) - ((List.replicate (-number.exponent - 1).toNat '0'
        ++ digits number.digits).length : Nat) = number.exponent - (writtenDigits - 1) := by
      rw [List.length_append, List.length_replicate, length]
      omega
    rw [List.append_nil] at denotes
    rw [value, exponents] at denotes
    exact denotes
  next notNegative =>
    have bound : number.exponent.toNat + 1 ≤ writtenDigits := by omega
    have some : (digits number.digits).take (number.exponent.toNat + 1) ≠ [] := by
      intro none
      have count := congrArg List.length none
      rw [List.length_take, length, Nat.min_eq_left bound] at count
      exact absurd count (Nat.succ_ne_zero _)
    have denotes := denotes_withFraction some (all.sublist (List.take_sublist ..))
      (all.sublist (List.drop_sublist (number.exponent.toNat + 1) _)) behind parsed
    have exponents : (0 : Int)
        - (((digits number.digits).drop (number.exponent.toNat + 1)).length : Nat)
          = number.exponent - (writtenDigits - 1) := by
      rw [List.length_drop, length]
      omega
    rw [List.append_nil, List.take_append_drop, natOfDigits_digits, exponents] at denotes
    exact denotes

/-- **The text of rounded digits is read as the double nearest to them.** -/
theorem denotes_layout : Denotes (layout number) (number.value writtenDigits) := by
  unfold layout
  split
  next positional => exact denotes_plain length positional.2
  next => exact denotes_scientific length

end Layout

/-! ### Finite numbers -/

/-- The decimals that are written. -/
def decimalGrid : Grid :=
  decimals writtenDigits (by decide)

section Finite

open Float.Model UnpackedFloat

variable {value : Float} {sign : Sign} {mantissa : ℕ} {exponent : ℤ} {positive : 0 < mantissa}

/-- The digits that a positive number is written with. -/
def writtenDecimal (mantissa : ℕ) (exponent : ℤ) : Rounded :=
  (Magnitude.quotient ⟨mantissa, exponent⟩).rounded writtenDigits

theorem value_quotient (mantissa : ℕ) (exponent : ℤ) :
    (Magnitude.quotient ⟨mantissa, exponent⟩).value = mantissa * 2 ^ exponent := by
  unfold Magnitude.quotient
  split
  next nonneg =>
    obtain ⟨shift, rfl⟩ := Int.eq_ofNat_of_zero_le nonneg
    simp [Quotient.value]
  next negative =>
    have negative : ¬ 0 ≤ exponent := negative
    obtain ⟨shift, same⟩ := Int.eq_ofNat_of_zero_le (by omega : 0 ≤ -exponent)
    have opposite : exponent = -(shift : ℤ) := by omega
    simp [Quotient.value, opposite, div_eq_mul_inv]

theorem quotient_pos (positive : 0 < mantissa) (exponent : ℤ) :
    0 < (Magnitude.quotient ⟨mantissa, exponent⟩).numerator
      ∧ 0 < (Magnitude.quotient ⟨mantissa, exponent⟩).denominator := by
  unfold Magnitude.quotient
  split
  · exact ⟨Nat.mul_pos positive (Nat.pow_pos (by decide)), Nat.one_pos⟩
  · exact ⟨positive, Nat.pow_pos (by decide)⟩

/-- **The digits are those of the nearest decimal**, and there are as many as are written. -/
theorem writtenDecimal_spec (positive : 0 < mantissa) (exponent : ℤ) :
    decimalGrid.Nearest (mantissa * 2 ^ exponent)
        ((writtenDecimal mantissa exponent).value writtenDigits)
      ∧ 10 ^ (writtenDigits - 1) ≤ (writtenDecimal mantissa exponent).digits
      ∧ (writtenDecimal mantissa exponent).digits < 10 ^ writtenDigits := by
  obtain ⟨numerator, denominator⟩ := quotient_pos positive exponent
  have spec := Quotient.rounded_spec _ (by decide : 0 < writtenDigits) numerator denominator
  rw [value_quotient] at spec
  exact spec

/-- The text of a finite number other than zero. -/
theorem numberText_of_finite (whole : parts value = .finite sign mantissa exponent positive) :
    (numberText value).toList
      = signText (isNegative sign) ++ layout (writtenDecimal mantissa exponent) := by
  have shape : Shape.of value = .finite (isNegative sign) ⟨mantissa, exponent⟩ := by
    unfold Shape.of
    rw [show value.toModel.unpack = .finite sign mantissa exponent positive from whole]
  rw [numberText, shape]
  dsimp only
  rw [String.toList_ofList]
  cases isNegative sign <;> rfl

/-- **A finite number is read as the double nearest to the decimal that is written.** -/
theorem written_of_finite (whole : parts value = .finite sign mantissa exponent positive) :
    ∃ back, IsNearest .positive ((writtenDecimal mantissa exponent).value writtenDigits) back
      ∧ written value = withSign (isNegative sign) back := by
  obtain ⟨-, low, high⟩ := writtenDecimal_spec positive exponent
  obtain ⟨back, read, near⟩ := denotes_layout (length_digits (by decide) low high)
  refine ⟨back, near, ?_⟩
  have decimal := isDecimal_layout (writtenDecimal mantissa exponent)
  rw [written, numberText_of_finite whole]
  cases isNegative sign with
  | false =>
    show (signed? (layout _)).getD 0 = _
    rw [decimal.signed?_eq, read]
    rfl
  | true =>
    show ((magnitude? (layout _)).map (- ·)).getD 0 = _
    rw [decimal.magnitude?_eq, read]
    rfl

end Finite

end LinearProgram.Lp
