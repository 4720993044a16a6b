/-
**The nearest number of so many digits.**

A number is rounded at a place: to a multiple of a power of the base, the nearest one, and of two
that are as near the even one. The powers of the base around the number fix the place, so that the
multiple has just as many digits as are kept; only at the least place it may have fewer.

* `NearestEven`: the nearest natural number. `NearestEven.mono`, `NearestEven.unique`.
* `Grid`: the base, the number of digits and the least place. `doubles` and `decimals` are grids.
* `Grid.Nearest`: the nearest number of a grid.
* **`Grid.Nearest.mono`, `Grid.Nearest.unique`**: rounding keeps the order, and there is one result.
* `Grid.nearest_of_close`: a multiple of the unit that is close to a number is its nearest one.
-/

import Mathlib

namespace LinearProgram.Decimal

/-! ### The nearest natural number -/

/-- The natural number is the one nearest to the number, and the even one of two that are as near. -/
def NearestEven (number : ℚ) (nearest : ℕ) : Prop :=
  |number - nearest| < 1 / 2 ∨ |number - nearest| = 1 / 2 ∧ Even nearest

namespace NearestEven

variable {number larger : ℚ} {nearest above : ℕ}

theorem abs_sub_le (near : NearestEven number nearest) : |number - nearest| ≤ 1 / 2 :=
  near.elim le_of_lt fun tie => le_of_eq tie.1

theorem natCast (nearest : ℕ) : NearestEven nearest nearest :=
  .inl (by rw [sub_self, abs_zero]; norm_num)

/-- **The nearest number keeps the order.** Only a tie could break it, and of two neighbours one is
odd. -/
theorem mono (near : NearestEven number nearest) (near' : NearestEven larger above)
    (le : number ≤ larger) : nearest ≤ above := by
  by_contra greater
  have next : above + 1 ≤ nearest := Nat.lt_of_not_le greater
  have next' : (above : ℚ) + 1 ≤ nearest := by exact_mod_cast next
  have low := (abs_le.mp near.abs_sub_le).1
  have high := (abs_le.mp near'.abs_sub_le).2
  have middle : number = nearest - 1 / 2 := by linarith
  have middle' : larger = above + 1 / 2 := by linarith
  have even : Even nearest := by
    refine (near.resolve_left fun less => ?_).2
    rw [middle, abs_lt] at less
    linarith [less.1]
  have even' : Even above := by
    refine (near'.resolve_left fun less => ?_).2
    rw [middle', abs_lt] at less
    linarith [less.2]
  have same : nearest = above + 1 := by
    have cast : (nearest : ℚ) = (above + 1 : ℕ) := by push_cast; linarith
    exact_mod_cast cast
  rw [same, Nat.even_add_one] at even
  exact even even'

theorem unique {other : ℕ} (near : NearestEven number nearest) (near' : NearestEven number other) :
    nearest = other :=
  Nat.le_antisymm (near.mono near' le_rfl) (near'.mono near le_rfl)

end NearestEven

/-! ### Grids -/

/-- **A grid**: the numbers with so many digits in a base, the last digit not behind the least
place. -/
structure Grid where
  base : ℕ
  digits : ℕ
  least : WithBot ℤ
  one_lt_base : 1 < base
  digits_pos : 0 < digits

/-- The finite doubles, if their exponents had no upper limit. -/
def doubles : Grid where
  base := 2
  digits := 53
  least := (-1074 : ℤ)
  one_lt_base := by decide
  digits_pos := by decide

/-- The decimals with a number of digits. -/
def decimals (digits : ℕ) (digits_pos : 0 < digits) : Grid where
  base := 10
  digits := digits
  least := ⊥
  one_lt_base := by decide
  digits_pos := digits_pos

namespace Grid

variable (grid : Grid)

/-- The weight of a place. -/
def weight (place : ℤ) : ℚ :=
  (grid.base : ℚ) ^ place

/-- **The place at which a number is rounded.** -/
structure Place (number : ℚ) (place : ℤ) : Prop where
  least : grid.least ≤ place
  high : number < grid.weight (grid.digits + place)
  low : (place : WithBot ℤ) = grid.least ∨ grid.weight (grid.digits + place - 1) ≤ number

/-- **The nearest number of a grid.** -/
def Nearest (number rounded : ℚ) : Prop :=
  ∃ place multiple, grid.Place number place ∧ NearestEven (number / grid.weight place) multiple
    ∧ rounded = multiple * grid.weight place

variable {grid}

/-! ### Weights -/

theorem one_lt_base' : (1 : ℚ) < grid.base := by
  exact_mod_cast grid.one_lt_base

variable (grid) in
theorem weight_pos (place : ℤ) : 0 < grid.weight place :=
  zpow_pos (lt_trans one_pos one_lt_base') place

variable (grid) in
theorem weight_le_weight {place higher : ℤ} (le : place ≤ higher) :
    grid.weight place ≤ grid.weight higher :=
  zpow_le_zpow_right₀ one_lt_base'.le le

theorem weight_add (place higher : ℤ) :
    grid.weight (place + higher) = grid.weight place * grid.weight higher :=
  zpow_add₀ (lt_trans one_pos one_lt_base').ne' place higher

theorem weight_natCast (digits : ℕ) : grid.weight digits = (grid.base ^ digits : ℕ) := by
  rw [weight, zpow_natCast, Nat.cast_pow]

/-! ### Places -/

namespace Place

variable {number larger : ℚ} {place higher : ℤ}

/-- A larger number is not rounded at a lower place. -/
theorem mono (here : grid.Place number place) (there : grid.Place larger higher)
    (le : number ≤ larger) : place ≤ higher := by
  by_contra less
  have less : higher < place := lt_of_not_ge less
  have low : grid.weight (grid.digits + place - 1) ≤ number := by
    refine here.low.resolve_left fun same => ?_
    have least := there.least
    rw [← same, WithBot.coe_le_coe] at least
    exact absurd less (not_lt.mpr least)
  have high : grid.weight (grid.digits + higher) ≤ grid.weight (grid.digits + place - 1) :=
    grid.weight_le_weight (by omega)
  exact absurd (lt_of_le_of_lt le there.high) (not_lt.mpr (high.trans low))

theorem unique (here : grid.Place number place) (there : grid.Place number higher) :
    place = higher :=
  le_antisymm (here.mono there le_rfl) (there.mono here le_rfl)

/-- The multiple has no more digits than the grid. -/
theorem multiple_le {multiple : ℕ} (here : grid.Place number place)
    (near : NearestEven (number / grid.weight place) multiple) :
    multiple ≤ grid.base ^ grid.digits := by
  refine near.mono (.natCast _) ?_
  rw [div_le_iff₀ (grid.weight_pos place), ← weight_natCast, ← weight_add]
  exact here.high.le

/-- Above the least place the multiple has as many digits as the grid. -/
theorem le_multiple {multiple : ℕ} (near : NearestEven (number / grid.weight place) multiple)
    (low : grid.weight (grid.digits + place - 1) ≤ number) :
    grid.base ^ (grid.digits - 1) ≤ multiple := by
  refine (NearestEven.natCast _).mono near ?_
  have exponent : ((grid.digits - 1 : ℕ) : ℤ) + place = grid.digits + place - 1 := by
    have := grid.digits_pos
    omega
  rw [le_div_iff₀ (grid.weight_pos place), ← weight_natCast, ← weight_add, exponent]
  exact low

end Place

/-! ### The nearest number -/

namespace Nearest

variable {number larger rounded above : ℚ}

/-- **Rounding keeps the order.** -/
theorem mono (near : grid.Nearest number rounded) (near' : grid.Nearest larger above)
    (le : number ≤ larger) : rounded ≤ above := by
  obtain ⟨place, multiple, here, nearest, rfl⟩ := near
  obtain ⟨higher, multiple', there, nearest', rfl⟩ := near'
  rcases (here.mono there le).eq_or_lt with rfl | less
  · have multiples : multiple ≤ multiple' :=
      nearest.mono nearest' (div_le_div_of_nonneg_right le (grid.weight_pos place).le)
    exact mul_le_mul_of_nonneg_right (by exact_mod_cast multiples) (grid.weight_pos place).le
  -- The power of the base between the two places separates the results.
  · have low : grid.weight (grid.digits + higher - 1) ≤ larger := by
      refine there.low.resolve_left fun same => ?_
      have least := here.least
      rw [← same, WithBot.coe_le_coe] at least
      exact absurd less (not_lt.mpr least)
    have high : (multiple : ℚ) ≤ (grid.base ^ grid.digits : ℕ) := by
      exact_mod_cast here.multiple_le nearest
    have low : ((grid.base ^ (grid.digits - 1) : ℕ) : ℚ) ≤ multiple' := by
      exact_mod_cast Place.le_multiple nearest' low
    calc (multiple : ℚ) * grid.weight place
        ≤ (grid.base ^ grid.digits : ℕ) * grid.weight place :=
          mul_le_mul_of_nonneg_right high (grid.weight_pos place).le
      _ = grid.weight (grid.digits + place) := by rw [weight_add, weight_natCast]
      _ ≤ grid.weight ((grid.digits - 1 : ℕ) + higher) := by
          have := grid.digits_pos
          exact grid.weight_le_weight (by omega)
      _ = (grid.base ^ (grid.digits - 1) : ℕ) * grid.weight higher := by
          rw [weight_add, weight_natCast]
      _ ≤ multiple' * grid.weight higher :=
          mul_le_mul_of_nonneg_right low (grid.weight_pos higher).le

/-- **There is one nearest number.** -/
theorem unique (near : grid.Nearest number rounded) (near' : grid.Nearest number above) :
    rounded = above :=
  le_antisymm (near.mono near' le_rfl) (near'.mono near le_rfl)

theorem nonneg (near : grid.Nearest number rounded) : 0 ≤ rounded := by
  obtain ⟨place, multiple, -, -, rfl⟩ := near
  exact mul_nonneg (Nat.cast_nonneg _) (grid.weight_pos place).le

/-- Nothing is as near to zero as zero. -/
theorem eq_zero (near : grid.Nearest 0 rounded) : rounded = 0 := by
  obtain ⟨place, multiple, -, nearest, rfl⟩ := near
  rw [zero_div] at nearest
  have none : multiple = 0 := nearest.unique (.natCast 0)
  rw [none, Nat.cast_zero, zero_mul]

/-- What is below half the least weight is rounded to zero. -/
theorem eq_zero_of_lt {least : ℤ} (bounded : grid.least = least) (nonneg : 0 ≤ number)
    (small : number < grid.weight least / 2) (near : grid.Nearest number rounded) : rounded = 0 := by
  obtain ⟨place, multiple, here, nearest, rfl⟩ := near
  have le : least ≤ place := by
    have le := here.least
    rwa [bounded, WithBot.coe_le_coe] at le
  have positive := grid.weight_pos place
  have close : NearestEven (number / grid.weight place) 0 := by
    left
    rw [Nat.cast_zero, sub_zero, abs_of_nonneg (div_nonneg nonneg positive.le), div_lt_iff₀ positive]
    linarith [grid.weight_le_weight le]
  rw [nearest.unique close, Nat.cast_zero, zero_mul]

end Nearest

/-- A multiple of the weight of a place is as near to itself as can be. -/
theorem nearest_self {multiple : ℕ} {place : ℤ}
    (here : grid.Place (multiple * grid.weight place) place) :
    grid.Nearest (multiple * grid.weight place) (multiple * grid.weight place) := by
  refine ⟨place, multiple, here, ?_, rfl⟩
  rw [mul_div_cancel_right₀ _ (grid.weight_pos place).ne']
  exact .natCast multiple

/-- A multiple with as many digits as the grid lies at its place. -/
theorem place_of_digits {multiple : ℕ} {place : ℤ} (least : grid.least ≤ place)
    (low : grid.base ^ (grid.digits - 1) ≤ multiple) (high : multiple < grid.base ^ grid.digits) :
    grid.Place (multiple * grid.weight place) place := by
  have positive := grid.weight_pos place
  have first : ((grid.digits - 1 : ℕ) : ℤ) + place = grid.digits + place - 1 := by
    have := grid.digits_pos
    omega
  refine ⟨least, ?_, .inr ?_⟩
  · rw [weight_add, weight_natCast]
    exact mul_lt_mul_of_pos_right (by exact_mod_cast high) positive
  · rw [← first, weight_add, weight_natCast]
    exact mul_le_mul_of_nonneg_right (by exact_mod_cast low) positive.le

/-- **A multiple of the weight of a place is nearest to every number that is close to it.** Below a
power of the base the next lower place counts, so close means half the weight of that one. -/
theorem nearest_of_close {multiple : ℕ} {place : ℤ} {number : ℚ}
    (least : grid.least ≤ (place - 1 : ℤ)) (low : grid.base ^ (grid.digits - 1) ≤ multiple)
    (high : multiple < grid.base ^ grid.digits)
    (close : |number - multiple * grid.weight place| < grid.weight (place - 1) / 2) :
    grid.Nearest number (multiple * grid.weight place) := by
  obtain ⟨below, above⟩ := abs_lt.mp close
  have step : grid.weight (place - 1) ≤ grid.weight place := grid.weight_le_weight (by omega)
  have positive := grid.weight_pos place
  have positive' := grid.weight_pos (place - 1)
  by_cases within : grid.weight (grid.digits + place - 1) ≤ number
  · refine ⟨place, multiple, ⟨?_, ?_, .inr within⟩, .inl ?_, rfl⟩
    · exact least.trans (WithBot.coe_le_coe.mpr (by omega))
    · have next : ((multiple : ℚ) + 1) * grid.weight place ≤ grid.weight (grid.digits + place) := by
        rw [weight_add, weight_natCast]
        exact mul_le_mul_of_nonneg_right (by exact_mod_cast high) positive.le
      linarith
    · have scaled : number / grid.weight place - multiple
          = (number - multiple * grid.weight place) / grid.weight place := by
        field_simp
      rw [scaled, abs_div, abs_of_pos positive, div_lt_iff₀ positive]
      linarith
  -- Only the power of the base itself is that close to a number below it.
  · have less : number < grid.weight (grid.digits + place - 1) := not_le.mp within
    have split : grid.weight (grid.digits + place - 1)
        = (grid.base ^ (grid.digits - 1) : ℕ) * grid.weight place := by
      rw [← weight_natCast, ← weight_add]
      congr 1
      have := grid.digits_pos
      omega
    have power : multiple = grid.base ^ (grid.digits - 1) := by
      by_contra other
      have more : grid.base ^ (grid.digits - 1) + 1 ≤ multiple := by omega
      have more' : ((grid.base ^ (grid.digits - 1) : ℕ) : ℚ) + 1 ≤ multiple := by
        exact_mod_cast more
      have := mul_le_mul_of_nonneg_right more' positive.le
      linarith
    have same : (multiple : ℚ) * grid.weight place
        = (grid.base ^ grid.digits : ℕ) * grid.weight (place - 1) := by
      rw [power, ← split, ← weight_natCast, ← weight_add]
      congr 1
      omega
    rw [same] at close ⊢
    refine ⟨place - 1, grid.base ^ grid.digits, ⟨least, ?_, .inr ?_⟩, .inl ?_, rfl⟩
    · rw [show (grid.digits : ℤ) + (place - 1) = grid.digits + place - 1 by omega]
      exact less
    · have lower : grid.weight (place - 1) ≤ grid.weight (grid.digits + (place - 1) - 1) := by
        have := grid.digits_pos
        exact grid.weight_le_weight (by omega)
      have whole : grid.weight (grid.digits + place - 1)
          = grid.base * grid.weight (grid.digits + (place - 1) - 1) := by
        have base : (grid.base : ℚ) = grid.weight 1 := (zpow_one _).symm
        rw [base, ← weight_add]
        congr 1
        omega
      have two : (2 : ℚ) ≤ grid.base := by exact_mod_cast grid.one_lt_base
      have := mul_le_mul_of_nonneg_right two (grid.weight_pos (grid.digits + (place - 1) - 1)).le
      rw [power, ← split, whole] at below
      linarith
    · have scaled : number / grid.weight (place - 1) - (grid.base ^ grid.digits : ℕ)
          = (number - (grid.base ^ grid.digits : ℕ) * grid.weight (place - 1))
            / grid.weight (place - 1) := by
        field_simp
      rw [scaled, abs_div, abs_of_pos positive', div_lt_iff₀ positive']
      linarith

/-- A number is at most half the weight of its place away from the nearest one. -/
theorem Nearest.exists_place {number rounded : ℚ} (near : grid.Nearest number rounded) :
    ∃ place, grid.Place number place ∧ |number - rounded| ≤ grid.weight place / 2 := by
  obtain ⟨place, multiple, here, nearest, rfl⟩ := near
  have positive := grid.weight_pos place
  have scaled : number / grid.weight place - multiple
      = (number - multiple * grid.weight place) / grid.weight place := by
    field_simp
  have close := nearest.abs_sub_le
  rw [scaled, abs_div, abs_of_pos positive, div_le_iff₀ positive] at close
  exact ⟨place, here, by linarith⟩

end Grid

end LinearProgram.Decimal
