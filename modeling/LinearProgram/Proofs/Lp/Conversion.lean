/-
**The general conversion of a number to a text.**

A number is rounded to so many significant digits, half to even. If the exponent of the first digit
is in a range, the number is written with a point, rounded anew to the places behind it; otherwise
it is written with one digit before the point and an exponent. Zeros at the end of the fraction are
dropped, and so is a point with nothing behind it. With a range from `-4` on this is what `%g`
prints; the LP format has a range from `-5` on.

* `lastDigits`, `trimmed`, `exponentText`: the pieces of a text.
* `RoundsTo`: a number rounded to significant digits. `RoundsTo.unique`: there is one result.
* `IsGeneral`: the general conversion, from a least exponent on. `RoundsTo.isGeneral_iff`: what its
  text is.
* `Writes`: what a text says, exactly.
* **`numberText_general`**: the text of every finite number other than zero.
-/

import LinearProgram.Proofs.Decimal.Additive
import LinearProgram.Proofs.Lp.TextValue

namespace LinearProgram.Lp

open Decimal

/-! ### The pieces of a text -/

/-- The last digits of a number, with zeros in front of a number that has fewer. -/
def lastDigits (number : ℕ) : ℕ → List Char
  | 0 => []
  | count + 1 => lastDigits (number / 10) count ++ [Nat.digitChar (number % 10)]

/-- Digits before and behind a point, which is left out if there are none behind it. -/
def pointed (whole fraction : List Char) : List Char :=
  if fraction = [] then whole else whole ++ '.' :: fraction

/-- A whole part and a fraction, without the zeros at the end of the fraction. -/
def trimmed (whole fraction : List Char) : List Char :=
  pointed whole (fraction.rdropWhile (· == '0'))

/-- A multiple of a negative power of ten, with as many digits behind the point. -/
def fixedText (places multiple : ℕ) : List Char :=
  trimmed (Nat.toDigits 10 (multiple / 10 ^ places)) (lastDigits multiple places)

/-- An exponent with its sign, and with two digits at least. -/
def exponentText (exponent : ℤ) : List Char :=
  'e' :: (if exponent < 0 then '-' else '+')
    :: if exponent.natAbs < 10 then '0' :: Nat.toDigits 10 exponent.natAbs
      else Nat.toDigits 10 exponent.natAbs

section Digits

variable {number : ℕ}

theorem digits_of_le (large : 10 ≤ number) :
    digits number = digits (number / 10) ++ [Nat.digitChar (number % 10)] :=
  Nat.toDigits_of_base_le (by decide) large

theorem digits_of_lt (small : number < 10) : digits number = [Nat.digitChar number] :=
  Nat.toDigits_of_lt_base small

/-- The last digits are behind those of the number without them. -/
theorem digits_eq_append {count : ℕ} (enough : 10 ^ count ≤ number) :
    digits number = digits (number / 10 ^ count) ++ lastDigits number count := by
  induction count generalizing number with
  | zero => rw [Nat.pow_zero, Nat.div_one, lastDigits, List.append_nil]
  | succ count hyp =>
    have enough' : 10 ^ count ≤ number / 10 := by
      rw [Nat.le_div_iff_mul_le (by decide), ← Nat.pow_succ]
      exact enough
    have large : 10 ≤ number := (Nat.le_self_pow (Nat.succ_ne_zero count) 10).trans enough
    rw [digits_of_le large, hyp enough', lastDigits, Nat.div_div_eq_div_mul, Nat.pow_succ',
      List.append_assoc]

theorem lastDigits_zero (count : ℕ) : lastDigits 0 count = List.replicate count '0' := by
  induction count with
  | zero => rfl
  | succ count hyp =>
    rw [lastDigits, Nat.zero_div, hyp, List.replicate_succ']
    rfl

/-- Zeros are in front of a number that has fewer digits. -/
theorem lastDigits_eq_pad {count : ℕ} (fits : (digits number).length ≤ count) :
    lastDigits number count
      = List.replicate (count - (digits number).length) '0' ++ digits number := by
  induction count generalizing number with
  | zero => exact absurd fits (Nat.not_le.mpr Nat.length_toDigits_pos)
  | succ count hyp =>
    rw [lastDigits]
    by_cases large : 10 ≤ number
    · have digits := digits_of_le large
      rw [digits, List.length_append, List.length_singleton] at fits ⊢
      rw [hyp (Nat.le_of_succ_le_succ fits), Nat.add_sub_add_right, List.append_assoc]
    · have small := Nat.lt_of_not_le large
      rw [digits_of_lt small, Nat.div_eq_of_lt small, Nat.mod_eq_of_lt small, lastDigits_zero,
        List.length_singleton, Nat.add_sub_cancel]

theorem length_lastDigits (number count : ℕ) : (lastDigits number count).length = count := by
  induction count generalizing number with
  | zero => rfl
  | succ count hyp => rw [lastDigits, List.length_append, hyp, List.length_singleton]

theorem allDigits_lastDigits (number count : ℕ) : AllDigits (lastDigits number count) := by
  induction count generalizing number with
  | zero => exact List.forall_mem_nil _
  | succ count hyp =>
    refine (hyp _).append (List.forall_mem_singleton.mpr ?_)
    rw [Nat.isDigit_digitChar, decide_eq_true_eq]
    exact Nat.mod_lt _ (by decide)

theorem natOfDigits_append_digit (front : List Char) {digit : ℕ} (small : digit < 10) :
    natOfDigits (front ++ [Nat.digitChar digit]) = 10 * natOfDigits front + digit := by
  rw [natOfDigits, List.foldl_append, ← natOfDigits, List.foldl_cons, List.foldl_nil,
    Nat.toNat_digitChar_of_lt_ten small]
  exact congrArg (10 * natOfDigits front + ·) (Nat.add_sub_cancel_left 48 digit)

/-- A whole part and its fraction together write the number. -/
theorem natOfDigits_fixed (number count : ℕ) :
    natOfDigits (digits (number / 10 ^ count) ++ lastDigits number count) = number := by
  induction count generalizing number with
  | zero =>
    rw [Nat.pow_zero, Nat.div_one, lastDigits, List.append_nil, natOfDigits_digits]
  | succ count hyp =>
    have front := hyp (number / 10)
    rw [Nat.div_div_eq_div_mul, ← Nat.pow_succ'] at front
    rw [lastDigits, ← List.append_assoc, natOfDigits_append_digit _ (Nat.mod_lt _ (by decide)),
      front]
    exact Nat.div_add_mod number 10

end Digits

/-! ### Significant digits -/

/-- **A number rounded to significant digits, half to even.** The first digit stands at the
exponent, which is one more than that of the number if there was a carry. -/
structure RoundsTo (places : ℕ) (number : ℚ) (nearest : ℕ) (exponent : ℤ) : Prop where
  some : 0 < places
  near : (decimals places some).Nearest number (nearest * 10 ^ (exponent - (places - 1)))
  low : 10 ^ (places - 1) ≤ nearest
  high : nearest < 10 ^ places

section Rounding

variable {places nearest other : ℕ} {number : ℚ} {exponent place : ℤ}

theorem weight_decimals (some : 0 < places) (place : ℤ) :
    (decimals places some).weight place = 10 ^ place := by
  rw [Grid.weight, decimals, Nat.cast_ofNat]

/-- Digits at one place are no digits at another one. -/
theorem digits_unique (some : 0 < places) (low : 10 ^ (places - 1) ≤ nearest)
    (high : nearest < 10 ^ places) (low' : 10 ^ (places - 1) ≤ other) (high' : other < 10 ^ places)
    (same : (nearest * 10 ^ exponent : ℚ) = other * 10 ^ place) :
    exponent = place ∧ nearest = other := by
  have here : (decimals places some).Place (nearest * (decimals places some).weight exponent)
      exponent := Grid.place_of_digits bot_le low high
  have there : (decimals places some).Place (other * (decimals places some).weight place) place :=
    Grid.place_of_digits bot_le low' high'
  rw [weight_decimals] at here there
  rw [same] at here
  obtain rfl := here.unique there
  exact ⟨rfl, by exact_mod_cast mul_right_cancel₀ (zpow_pos (by norm_num) exponent).ne' same⟩

namespace RoundsTo

theorem unique (rounds : RoundsTo places number nearest exponent)
    (rounds' : RoundsTo places number other place) : nearest = other ∧ exponent = place := by
  obtain ⟨places_eq, digits_eq⟩ := digits_unique rounds.some rounds.low rounds.high rounds'.low
    rounds'.high (rounds.near.unique rounds'.near)
  exact ⟨digits_eq, by omega⟩

/-- **The digits are the nearest ones at their place.** After a carry they are so too, since the
number is as close to a power of ten at the next higher place. -/
theorem nearestEven (rounds : RoundsTo places number nearest exponent) :
    NearestEven (number / 10 ^ (exponent - (places - 1))) nearest := by
  obtain ⟨some, ⟨place, multiple, here, near, same⟩, low, high⟩ := rounds
  have least := here.low.resolve_left WithBot.coe_ne_bot
  have atMost := here.multiple_le near
  have atLeast := Grid.Place.le_multiple near least
  rw [weight_decimals] at near same
  rcases Nat.lt_or_ge multiple (10 ^ places) with short | carry
  · obtain ⟨places_eq, rfl⟩ := digits_unique some low high atLeast short same
    rw [places_eq]
    exact near
  · have power : multiple = 10 * 10 ^ (places - 1) := by
      rw [← Nat.pow_succ', Nat.succ_eq_add_one, Nat.sub_add_cancel some]
      exact Nat.le_antisymm atMost carry
    have moved : (nearest * 10 ^ (exponent - (places - 1)) : ℚ)
        = (10 ^ (places - 1) : ℕ) * 10 ^ (place + 1) := by
      rw [same, power, zpow_add_one₀ (by norm_num)]
      push_cast
      ring
    obtain ⟨places_eq, rfl⟩ := digits_unique some low high le_rfl
      (Nat.pow_lt_pow_right (by decide) (by omega)) moved
    have close := near.abs_sub_le
    have scaled : number / 10 ^ (place + 1) - (10 ^ (places - 1) : ℕ)
        = (number / 10 ^ place - multiple) / 10 := by
      rw [power, zpow_add_one₀ (by norm_num)]
      push_cast
      field_simp
    left
    rw [places_eq, scaled, abs_div, abs_of_pos (by norm_num : (0 : ℚ) < 10)]
    linarith

end RoundsTo

end Rounding

/-! ### The general conversion -/

/-- **The general conversion of a positive number**, with a point for exponents from the least one
up to below the number of digits. Both layouts round the number: one to the places behind the point
that leave so many significant digits, the other one to these. -/
inductive IsGeneral (least : ℤ) (places : ℕ) (number : ℚ) : List Char → Prop where
  | positional {nearest multiple behind : ℕ} {exponent : ℤ}
      (rounds : RoundsTo places number nearest exponent) (low : least ≤ exponent)
      (high : exponent < places) (leaves : (behind : ℤ) = places - 1 - exponent)
      (near : NearestEven (number * 10 ^ behind) multiple) :
      IsGeneral least places number (fixedText behind multiple)
  | scientific {nearest : ℕ} {exponent : ℤ} (rounds : RoundsTo places number nearest exponent)
      (outside : ¬ (least ≤ exponent ∧ exponent < places)) :
      IsGeneral least places number (fixedText (places - 1) nearest ++ exponentText exponent)

/-- The text of digits with their exponent. -/
def generalText (least : ℤ) (places nearest : ℕ) (exponent : ℤ) : List Char :=
  if least ≤ exponent ∧ exponent < places then fixedText (places - 1 - exponent).toNat nearest
  else fixedText (places - 1) nearest ++ exponentText exponent

/-- **What the text of the general conversion is.** Rounding anew gives the same digits. -/
theorem RoundsTo.isGeneral_iff {places nearest : ℕ} {number : ℚ} {exponent : ℤ}
    (rounds : RoundsTo places number nearest exponent) (least : ℤ) (text : List Char) :
    IsGeneral least places number text ↔ text = generalText least places nearest exponent := by
  have anew {behind : ℕ} (leaves : (behind : ℤ) = places - 1 - exponent) :
      NearestEven (number * 10 ^ behind) nearest := by
    have near := rounds.nearestEven
    have opposite : exponent - (places - 1) = -(behind : ℤ) := by omega
    rw [opposite, zpow_neg, div_inv_eq_mul, zpow_natCast] at near
    exact near
  constructor
  · rintro (⟨rounds', low, high, leaves, near⟩ | ⟨rounds', outside⟩)
    · obtain ⟨rfl, rfl⟩ := rounds.unique rounds'
      rw [generalText, if_pos ⟨low, high⟩, near.unique (anew leaves), ← leaves, Int.toNat_natCast]
    · obtain ⟨rfl, rfl⟩ := rounds.unique rounds'
      rw [generalText, if_neg outside]
  · rintro rfl
    rw [generalText]
    split
    next within =>
      have leaves : (((places - 1 - exponent).toNat : ℕ) : ℤ) = places - 1 - exponent :=
        Int.toNat_of_nonneg (by omega)
      exact .positional rounds within.1 within.2 leaves (anew leaves)
    next outside => exact .scientific rounds outside

/-! ### Exact readings -/

/-- What the exponent of a text says. -/
inductive WritesPower : List Char → ℤ → Prop where
  | none : WritesPower [] 0
  | plus {body : List Char} (some : body ≠ []) (digits : AllDigits body) :
      WritesPower ('e' :: '+' :: body) (natOfDigits body)
  | minus {body : List Char} (some : body ≠ []) (digits : AllDigits body) :
      WritesPower ('e' :: '-' :: body) (-natOfDigits body)

/-- **What a text says, exactly**: the number of all digits together, times a power of ten. -/
inductive Writes : List Char → ℕ → ℤ → Prop where
  | intro {whole fraction tail : List Char} {power : ℤ} (some : whole ≠ [])
      (digits : AllDigits whole) (digits' : AllDigits fraction)
      (exponent : WritesPower tail power) :
      Writes (pointed whole fraction ++ tail) (natOfDigits (whole ++ fraction))
        (power - fraction.length)

theorem writesPower_exponentText (exponent : ℤ) : WritesPower (exponentText exponent) exponent := by
  obtain ⟨body, text, value, some, all⟩ : ∃ body, exponentText exponent
      = 'e' :: (if exponent < 0 then '-' else '+') :: body
        ∧ natOfDigits body = exponent.natAbs ∧ body ≠ [] ∧ AllDigits body := by
    refine ⟨_, rfl, ?_⟩
    have all := allDigits_digits exponent.natAbs
    split
    · exact ⟨natOfDigits_digits _, List.cons_ne_nil _ _, (allDigits_zeros 1).append all⟩
    · exact ⟨natOfDigits_digits _, Nat.toDigits_ne_nil, all⟩
  rw [text]
  split
  next negative =>
    have same : exponent = -(natOfDigits body : ℤ) := by omega
    rw [same]
    exact .minus some all
  next notNegative =>
    have same : exponent = natOfDigits body := by omega
    rw [same]
    exact .plus some all

/-- **A fraction that is written says just what it is**, with no more digits than it has. -/
theorem writes_fixedText (places multiple : ℕ) {tail : List Char} {power : ℤ}
    (exponent : WritesPower tail power) :
    ∃ mantissa rest, Writes (fixedText places multiple ++ tail) mantissa rest
      ∧ (mantissa * 10 ^ rest : ℚ) = multiple * 10 ^ (power - places) ∧ mantissa ≤ multiple := by
  have all := allDigits_lastDigits multiple places
  have value := value_dropTrailingZeros (digits (multiple / 10 ^ places))
    (lastDigits multiple places) power
  obtain ⟨count, -, together⟩ := natOfDigits_dropTrailingZeros (digits (multiple / 10 ^ places))
    (lastDigits multiple places)
  rw [natOfDigits_fixed, length_lastDigits] at value
  rw [natOfDigits_fixed] at together
  refine ⟨_, _, .intro Nat.toDigits_ne_nil (allDigits_digits _)
    (all.sublist (dropTrailingZeros_sublist _)) exponent, value.symm, ?_⟩
  have unit : 1 ≤ 10 ^ count := Nat.one_le_pow _ _ (by decide)
  calc natOfDigits _ = natOfDigits _ * 1 := (Nat.mul_one _).symm
    _ ≤ natOfDigits _ * 10 ^ count := Nat.mul_le_mul_left _ unit
    _ = multiple := together.symm

/-- **The text of digits with their exponent says just that.** -/
theorem writes_generalText (least : ℤ) {places nearest : ℕ} (some : 0 < places) (exponent : ℤ) :
    ∃ mantissa power, Writes (generalText least places nearest exponent) mantissa power
      ∧ (mantissa * 10 ^ power : ℚ) = nearest * 10 ^ (exponent - (places - 1))
      ∧ mantissa ≤ nearest := by
  rw [generalText]
  split
  next within =>
    obtain ⟨mantissa, power, writes, value, most⟩ :=
      writes_fixedText (places - 1 - exponent).toNat nearest .none
    rw [List.append_nil] at writes
    refine ⟨mantissa, power, writes, ?_, most⟩
    rw [value, Int.toNat_of_nonneg (by omega)]
    congr 2
    omega
  next =>
    obtain ⟨mantissa, power, writes, value, most⟩ :=
      writes_fixedText (places - 1) nearest (writesPower_exponentText exponent)
    refine ⟨mantissa, power, writes, ?_, most⟩
    rw [value, Nat.cast_sub some, Nat.cast_one]

/-! ### The layouts of the LP format -/

theorem trimmed_eq (whole fraction : List Char) :
    trimmed whole fraction = withFraction whole fraction := by
  unfold trimmed pointed withFraction
  split
  next none => rw [show dropTrailingZeros fraction = [] from none]
  next some =>
    split
    next none => exact absurd none some
    next => rfl

theorem exponentText_eq (exponent : ℤ) :
    exponentText exponent = 'e' :: (if exponent < 0 then '-' else '+')
      :: (List.replicate (2 - (digits exponent.natAbs).length) '0' ++ digits exponent.natAbs) := by
  rw [exponentText]
  refine congrArg (fun size => 'e' :: (if exponent < 0 then '-' else '+') :: size) ?_
  split
  next small =>
    rw [← digits, digits_of_lt small, List.length_singleton]
    rfl
  next large =>
    have two : 2 - (digits exponent.natAbs).length = 0 := by
      have some : 0 < (digits (exponent.natAbs / 10)).length := Nat.length_toDigits_pos
      rw [digits_of_le (Nat.le_of_not_lt large), List.length_append, List.length_singleton]
      omega
    rw [two]
    rfl

section Layout

variable {number : Rounded} (low : 10 ^ (writtenDigits - 1) ≤ number.digits)
  (high : number.digits < 10 ^ writtenDigits)

include low high

/-- Behind the point stand the last digits. -/
theorem take_drop_digits {behind : ℕ} (some : behind < writtenDigits) :
    (digits number.digits).take (writtenDigits - behind) = digits (number.digits / 10 ^ behind)
      ∧ (digits number.digits).drop (writtenDigits - behind) = lastDigits number.digits behind := by
  have enough : 10 ^ behind ≤ number.digits :=
    (Nat.pow_le_pow_right (by decide) (Nat.le_sub_one_of_lt some)).trans low
  have split := digits_eq_append enough
  have length := congrArg List.length split
  rw [length_digits (by decide) low high, List.length_append, length_lastDigits] at length
  have front : writtenDigits - behind = (digits (number.digits / 10 ^ behind)).length := by omega
  rw [split, front]
  exact ⟨List.take_left, List.drop_left⟩

/-- **The layout is the general conversion with a point from `1e-5` on.** -/
theorem layout_eq :
    layout number = generalText (-5) writtenDigits number.digits number.exponent := by
  rw [layout, generalText]
  split
  next within =>
    rw [fixedText, trimmed_eq, plain]
    split
    next negative =>
      have width : writtenDigits ≤ (writtenDigits - 1 - number.exponent).toNat := by
        rw [writtenDigits]
        omega
      have none : number.digits / 10 ^ (writtenDigits - 1 - number.exponent).toNat = 0 :=
        Nat.div_eq_of_lt (high.trans_le (Nat.pow_le_pow_right (by decide) width))
      have length := length_digits (by decide) low high
      rw [none, lastDigits_eq_pad (length ▸ width), length]
      congr 3
      rw [writtenDigits]
      omega
    next notNegative =>
      obtain ⟨front, back⟩ := take_drop_digits low high
        (show (writtenDigits - 1 - number.exponent).toNat < writtenDigits by
          rw [writtenDigits]
          omega)
      have here : number.exponent.toNat + 1
          = writtenDigits - (writtenDigits - 1 - number.exponent).toNat := by
        rw [writtenDigits] at within ⊢
        omega
      rw [here]
      exact congrArg₂ withFraction front back
  next outside =>
    obtain ⟨front, back⟩ := take_drop_digits low high
      (show writtenDigits - 1 < writtenDigits by decide)
    rw [fixedText, trimmed_eq, exponentText_eq, scientific]
    exact congrArg₂ (withFraction · · ++ _) front back

end Layout

/-! ### Where a point is written that `%g` does not write -/

theorem isMantissa_fixedText (places multiple : ℕ) :
    ∀ character ∈ fixedText places multiple, isMantissa character = true := by
  have digit {text : List Char} (all : AllDigits text) :
      ∀ character ∈ text, isMantissa character = true := by
    intro character member
    rw [isMantissa, all character member, Bool.true_or]
  have whole := digit (allDigits_digits (multiple / 10 ^ places))
  have fraction := digit ((allDigits_lastDigits multiple places).sublist
    (dropTrailingZeros_sublist _))
  unfold fixedText trimmed pointed
  split
  · exact whole
  · exact List.forall_mem_append.mpr ⟨whole, List.forall_mem_cons.mpr ⟨rfl, fraction⟩⟩

/-- **Only the exponent `-5` makes a difference**: there the LP format has a point, and `%g` an
exponent. -/
theorem generalText_eq_iff {places nearest : ℕ} {exponent : ℤ} :
    generalText (-5) places nearest exponent = generalText (-4) places nearest exponent
      ↔ exponent ≠ -5 := by
  constructor
  · rintro same rfl
    have member : 'e' ∈ generalText (-5) places nearest (-5) := by
      rw [same, generalText, if_neg (by omega)]
      exact List.mem_append_right _ List.mem_cons_self
    rw [generalText, if_pos (by omega)] at member
    exact absurd (isMantissa_fixedText _ _ 'e' member) (by decide)
  · intro other
    by_cases within : -4 ≤ exponent ∧ exponent < places
    · rw [generalText, generalText, if_pos within, if_pos (by omega)]
    · rw [generalText, generalText, if_neg within, if_neg (by omega)]

/-! ### Finite numbers -/

section Finite

open Float.Model UnpackedFloat

variable {value : Float}

/-- A finite number other than zero has a mantissa. -/
theorem exists_parts (finite : value.isFinite = true) (nonzero : (value == 0) = false) :
    ∃ sign mantissa exponent, ∃ positive : 0 < mantissa,
      parts value = .finite sign mantissa exponent positive := by
  rw [isFinite_eq] at finite
  cases whole : parts value with
  | notANumber | infinity => rw [whole] at finite; cases finite
  | zero sign =>
    have number : value.isNaN = false := by
      rw [isNaN_eq, whole]
      rfl
    have none : unitsOf value = unitsOf 0 := by
      rw [unitsOf, whole]
      rfl
    rw [beq_iff.mpr ⟨number, rfl, none⟩] at nonzero
    cases nonzero
  | finite sign mantissa exponent positive => exact ⟨sign, mantissa, exponent, positive, rfl⟩

/-- A text of a number, what `%.12g` prints, and the digits that the number is rounded to with the
exponent of the first one. -/
structure Converts (value : Float) (text printed : List Char) (nearest : ℕ) (exponent : ℤ) :
    Prop where
  text_eq : (numberText value).toList = signText (valueOf value < 0) ++ text
  rounds : RoundsTo 12 |valueOf value| nearest exponent
  general : ∀ other, IsGeneral (-5) 12 |valueOf value| other ↔ other = text
  general_printed : ∀ other, IsGeneral (-4) 12 |valueOf value| other ↔ other = printed
  eq_printed_iff : text = printed ↔ exponent ≠ -5
  /-- The text says just what the number is rounded to, and with twelve digits at most. -/
  written : ∃ mantissa power, Writes text mantissa power
    ∧ (mantissa * 10 ^ power : ℚ) = nearest * 10 ^ (exponent - 11) ∧ mantissa < 10 ^ 12

/-- **The text of a finite number other than zero.** Behind a minus sign, if the number is below
zero, stands what the general conversion to twelve digits gives, with a point from the exponent `-5`
on. That is what `%.12g` prints unless the exponent is `-5`. -/
theorem numberText_general (finite : value.isFinite = true) (nonzero : (value == 0) = false) :
    ∃ text printed nearest exponent, Converts value text printed nearest exponent := by
  obtain ⟨sign, mantissa, exponent, positive, whole⟩ := exists_parts finite nonzero
  have number := valueOf_of_parts whole
  have above : (0 : ℚ) < mantissa * 2 ^ exponent := by
    have cast : (0 : ℚ) < mantissa := by exact_mod_cast positive
    positivity
  have magnitude : |valueOf value| = mantissa * 2 ^ exponent := by
    rw [number, abs_signed above.le]
  have below : decide (valueOf value < 0) = isNegative sign := by
    rw [number]
    cases sign with
    | negative => exact decide_eq_true (neg_lt_zero.mpr above)
    | positive => exact decide_eq_false (not_lt.mpr above.le)
  obtain ⟨near, low, high⟩ := writtenDecimal_spec positive exponent
  rw [← magnitude] at near
  have rounds : RoundsTo 12 |valueOf value| (writtenDecimal mantissa exponent).digits
      (writtenDecimal mantissa exponent).exponent := ⟨by decide, near, low, high⟩
  obtain ⟨digits, power, writes, exact', most⟩ := writes_generalText (-5) rounds.some
    (writtenDecimal mantissa exponent).exponent
  refine ⟨_, _, _, _, ?_, rounds, rounds.isGeneral_iff (-5), rounds.isGeneral_iff (-4),
    generalText_eq_iff, digits, power, writes, ?_, most.trans_lt high⟩
  · rw [numberText_of_finite whole, below, layout_eq low high]
    rfl
  · rw [exact']
    norm_num

/-- The text of a thousandth. -/
theorem numberText_general_thousandth :
    ∃ text printed nearest exponent, Converts 0.001 text printed nearest exponent :=
  numberText_general (by decide) (by decide)

-- `%.12g` prints `1e-05` here.
example : numberText 1e-5 = "0.00001" := by rfl

end Finite

end LinearProgram.Lp
