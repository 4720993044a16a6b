/-
**Dividing a limit and taking large numbers for infinite.**

Numbers from `1e30` on are infinite to a reader. A limit for a multiple of a variable is also divided by
the coefficient, and the two do not commute: a quotient can lie on the other side of `1e30`. It is the
only way in which they differ, for an infinite limit stays infinite and overflow is infinite anyway.

* `Unlimited`: a number that counts as infinite. `clamp_eq_self_iff`: every other one is left alone.
* `parts_clamp`: what an unlimited number becomes. `sign?_div`: the sign of a quotient.
* `Evenly`: the division does not cross `1e30`. **`clamp_div_iff`**: exactly then the order is the same.
* `bounded_clamp`, `bounded_div`: what is clamped, before or after the division, is infinite or below
  `1e30`.
-/

import LinearProgram.Lp.Reader
import LinearProgram.Proofs.Decimal.Rounding
import LinearProgram.Proofs.Lp.Recovered
import LinearProgram.Proofs.Lp.RereadOrder

namespace LinearProgram.Lp

open Decimal Float.Model

variable {value divisor : Float}

/-! ### Numbers that count as infinite -/

/-- **The number counts as infinite.** -/
def Unlimited (value : Float) : Prop :=
  infiniteFrom ≤ value ∨ value ≤ -infiniteFrom

instance (value : Float) : Decidable (Unlimited value) :=
  inferInstanceAs (Decidable (_ ∨ _))

theorem Unlimited.isNaN (far : Unlimited value) : value.isNaN = false := by
  rcases far with high | low
  · exact (le_iff.mp high).2.1
  · exact (le_iff.mp low).1

theorem unlimited_of_isInf (infinite : value.isInf = true) : Unlimited value := by
  rcases eq_infinity_of_isInf infinite with rfl | rfl
  · exact .inl (by decide +kernel)
  · exact .inr (by decide +kernel)

theorem clamp_of_not (near : ¬ Unlimited value) : clamp value = value := by
  rw [clamp, if_neg fun high => near (.inl high), if_neg fun low => near (.inr low)]

/-- **A number that counts as infinite becomes infinite**, with its sign. -/
theorem parts_clamp (far : Unlimited value) :
    ∃ sign, sign? (parts value) = some sign ∧ parts (clamp value) = .infinity sign := by
  have positive : unitsOf 0 < unitsOf infiniteFrom := by decide +kernel
  have negative : unitsOf (-infiniteFrom) = -unitsOf infiniteFrom := unitsOf_neg _
  by_cases high : infiniteFrom ≤ value
  · obtain ⟨-, number, le⟩ := le_iff.mp high
    have above : 0 < value := lt_iff.mpr ⟨rfl, number, Int.lt_of_lt_of_le positive le⟩
    exact ⟨.positive, sign?_of_pos above, by rw [clamp, if_pos high]; rfl⟩
  · have low := far.resolve_left high
    obtain ⟨number, -, le⟩ := le_iff.mp low
    have zero : unitsOf 0 = 0 := rfl
    have opposite : 0 < -value := by
      refine lt_iff.mpr ⟨rfl, (isNaN_neg value).trans number, ?_⟩
      rw [unitsOf_neg]
      omega
    have sign := sign?_of_pos opposite
    rw [parts_neg] at sign
    refine ⟨.negative, ?_, by rw [clamp, if_neg high, if_pos low]; rfl⟩
    cases whole : parts value with
    | notANumber => rw [whole] at sign; cases sign
    | infinity given | zero given | finite given =>
      rw [whole] at sign
      cases given with
      | negative => rfl
      | positive => cases sign

/-- **Numbers that are left alone**: the infinite ones and those below `1e30`. -/
theorem clamp_eq_self_iff : clamp value = value ↔ (value.isFinite = true → ¬ Unlimited value) := by
  constructor
  · intro same finite far
    obtain ⟨sign, -, infinite⟩ := parts_clamp far
    rw [same] at infinite
    rw [isFinite_eq, infinite] at finite
    cases finite
  · intro near
    by_cases far : Unlimited value
    · have infinite : value.isInf = true := by
        by_contra bounded
        exact near (isFinite_of_not_isInf far.isNaN bounded) far
      obtain ⟨sign, same, clamped⟩ := parts_clamp far
      refine eq_of_parts ?_
      rw [clamped]
      rw [isInf_eq] at infinite
      cases whole : parts value with
      | notANumber | zero | finite => rw [whole] at infinite; cases infinite
      | infinity other =>
        rw [whole] at same
        rw [Option.some.inj same]
    · exact clamp_of_not far

theorem clamp_of_isNaN (missing : value.isNaN = true) : clamp value = value :=
  clamp_of_not fun far => Bool.false_ne_true (far.isNaN.symm.trans missing)

theorem not_unlimited_zero {sign : UnpackedFloat.Sign} (zero : parts value = .zero sign) :
    ¬ Unlimited value := by
  have units : unitsOf value = 0 := by
    rw [unitsOf, zero]
    rfl
  have ends : unitsOf (-infiniteFrom) < 0 ∧ 0 < unitsOf infiniteFrom := by decide +kernel
  rintro (high | low)
  · have := (le_iff.mp high).2.2
    omega
  · have := (le_iff.mp low).2.2
    omega

/-! ### Quotients -/

/-- What is not a number has no quotient. -/
theorem isNaN_div (missing : value.isNaN = true ∨ divisor.isNaN = true) :
    (value / divisor).isNaN = true := by
  have none : UnpackedFloat.div .binary64 (parts value) (parts divisor) = .notANumber := by
    rcases missing with missing | missing
    · rw [isNaN_eq] at missing
      cases whole : parts value with
      | notANumber => cases parts divisor <;> rfl
      | infinity | zero | finite => rw [whole] at missing; cases missing
    · rw [isNaN_eq] at missing
      cases whole : parts divisor with
      | notANumber => cases parts value <;> rfl
      | infinity | zero | finite => rw [whole] at missing; cases missing
  rw [isNaN_eq, div_eq, none]
  rfl

/-- Infinities have no quotient. -/
theorem isNaN_div_infinity {sign other : UnpackedFloat.Sign} (whole : parts value = .infinity sign)
    (whole' : parts divisor = .infinity other) : (value / divisor).isNaN = true := by
  have none : UnpackedFloat.div .binary64 (.infinity sign) (.infinity other) = .notANumber := rfl
  rw [isNaN_eq, div_eq, whole, whole', none]
  rfl

/-- A finite number by an infinite one is a zero. -/
theorem exists_zero_div {other : UnpackedFloat.Sign} (finite : value.isFinite = true)
    (whole : parts divisor = .infinity other) : ∃ sign, parts (value / divisor) = .zero sign := by
  rw [isFinite_eq] at finite
  cases own : parts value with
  | notANumber | infinity => rw [own] at finite; cases finite
  | zero sign | finite sign =>
    refine ⟨sign / other, ?_⟩
    rw [div_eq, own, whole]
    exact parts_ofParts trivial

/-- What is not a number is equal to what is none either. -/
theorem eq_of_isNaN {other : Float} (missing : value.isNaN = true) (missing' : other.isNaN = true) :
    value = other := by
  refine eq_of_parts ?_
  rw [isNaN_eq] at missing missing'
  cases whole : parts value with
  | notANumber =>
    cases whole' : parts other with
    | notANumber => rfl
    | infinity | zero | finite => rw [whole'] at missing'; cases missing'
  | infinity | zero | finite => rw [whole] at missing; cases missing

/-- **The sign of a quotient** of numbers with a finite divisor. -/
theorem sign?_div {sign other : UnpackedFloat.Sign} {mantissa : Nat} {exponent : Int}
    {positive : 0 < mantissa} (signed : sign? (parts value) = some sign)
    (whole : parts divisor = .finite other mantissa exponent positive) :
    sign? (parts (value / divisor)) = some (sign / other) := by
  rw [div_eq, sign?_parts_ofParts, whole]
  cases given : parts value with
  | notANumber => rw [given] at signed; cases signed
  | infinity own | zero own =>
    rw [given] at signed
    obtain rfl := Option.some.inj signed
    rfl
  | finite own =>
    rw [given] at signed
    obtain rfl := Option.some.inj signed
    exact sign?_roundWithAccuracy _ _ _ _

/-- **The division does not cross `1e30`**: the number counts as infinite exactly if its quotient does,
unless the quotient is infinite or no number. -/
def Evenly (divisor value : Float) : Prop :=
  (value / divisor).isFinite = true → (Unlimited value ↔ Unlimited (value / divisor))

instance (divisor value : Float) : Decidable (Evenly divisor value) :=
  inferInstanceAs (Decidable (_ → (_ ↔ _)))

theorem evenly_of_isNaN (missing : (value / divisor).isNaN = true) : Evenly divisor value := by
  intro finite
  rw [isNaN_of_isFinite finite] at missing
  cases missing

section Crossing

variable {other : UnpackedFloat.Sign}

/-- By an infinite divisor: what is finite becomes zero, and what is infinite is no number any more. -/
theorem clamp_div_infinity_iff (far : Unlimited value) (whole : parts divisor = .infinity other) :
    clamp value / divisor = clamp (value / divisor) ↔ Evenly divisor value := by
  obtain ⟨sign, signed, clamped⟩ := parts_clamp far
  have limit := isNaN_div_infinity clamped whole
  by_cases finite : value.isFinite = true
  · obtain ⟨own, zero⟩ := exists_zero_div finite whole
    have finite' : (value / divisor).isFinite = true := by
      rw [isFinite_eq, zero]
      rfl
    have near := not_unlimited_zero zero
    rw [clamp_of_not near]
    refine iff_of_false (fun same => ?_) fun even => near ((even finite').mp far)
    rw [same, isNaN_of_isFinite finite'] at limit
    cases limit
  · have quotient : (value / divisor).isNaN = true := by
      rw [isFinite_eq] at finite
      have number := far.isNaN
      rw [isNaN_eq] at number
      cases own : parts value with
      | notANumber => rw [own] at number; cases number
      | zero | finite => rw [own] at finite; exact absurd rfl finite
      | infinity => exact isNaN_div_infinity own whole
    rw [clamp_of_isNaN quotient]
    exact iff_of_true (eq_of_isNaN limit quotient) (evenly_of_isNaN quotient)

/-- By a finite divisor the limit stays infinite, so the quotient has to count as infinite too. -/
theorem clamp_div_finite_iff {mantissa : Nat} {exponent : Int} {positive : 0 < mantissa}
    (far : Unlimited value) (whole : parts divisor = .finite other mantissa exponent positive) :
    clamp value / divisor = clamp (value / divisor) ↔ Evenly divisor value := by
  obtain ⟨sign, signed, clamped⟩ := parts_clamp far
  have limit : parts (clamp value / divisor) = .infinity (sign / other) := by
    rw [div_eq, clamped, whole]
    exact parts_ofParts trivial
  have quotient := sign?_div signed whole
  have agree : clamp value / divisor = clamp (value / divisor) ↔ Unlimited (value / divisor) := by
    constructor
    · intro same
      by_contra near
      rw [clamp_of_not near] at same
      refine near (unlimited_of_isInf ?_)
      rw [isInf_eq, ← same, limit]
      rfl
    · intro beyond
      obtain ⟨own, signed', clamped'⟩ := parts_clamp beyond
      refine eq_of_parts ?_
      rw [limit, clamped', Option.some.inj (quotient.symm.trans signed')]
  refine agree.trans ⟨fun beyond _ => iff_of_true far beyond, fun even => ?_⟩
  by_cases finite : (value / divisor).isFinite = true
  · exact (even finite).mp far
  -- It has a sign, so it is a number, and one that is not finite is infinite.
  · refine unlimited_of_isInf ?_
    rw [isFinite_eq] at finite
    rw [isInf_eq]
    cases given : parts (value / divisor) with
    | notANumber => rw [given] at quotient; cases quotient
    | infinity => rfl
    | zero | finite => rw [given] at finite; exact absurd rfl finite

/-- **A quotient is clamped before or after the division** to the same effect exactly if the division
does not cross `1e30`. -/
theorem clamp_div_iff (nonzero : (divisor == 0) = false) :
    clamp value / divisor = clamp (value / divisor) ↔ Evenly divisor value := by
  by_cases far : Unlimited value
  · cases whole : parts divisor with
    | zero other =>
      rw [beq_zero_iff.mpr ⟨other, whole⟩] at nonzero
      cases nonzero
    | notANumber =>
      have missing : divisor.isNaN = true := by
        rw [isNaN_eq, whole]
        rfl
      have quotient : (value / divisor).isNaN = true := isNaN_div (.inr missing)
      rw [clamp_of_isNaN quotient]
      exact iff_of_true (eq_of_isNaN (isNaN_div (.inr missing)) quotient) (evenly_of_isNaN quotient)
    | infinity => exact clamp_div_infinity_iff far whole
    | finite => exact clamp_div_finite_iff far whole
  · rw [clamp_of_not far, eq_comm, clamp_eq_self_iff]
    exact forall_congr' fun _ => (iff_false_left far).symm

end Crossing

/-! ### What is clamped -/

theorem clamp_clamp (value : Float) : clamp (clamp value) = clamp value := by
  refine clamp_eq_self_iff.mpr fun finite far => ?_
  by_cases before : Unlimited value
  · obtain ⟨sign, -, infinite⟩ := parts_clamp before
    rw [isFinite_eq, infinite] at finite
    cases finite
  · rw [clamp_of_not before] at far
    exact before far

/-- **A number that is left alone** is infinite or below `1e30` in magnitude. -/
theorem bounded_of_clamp_eq (settled : clamp value = value) (number : value.isNaN = false) :
    Bounded value := by
  by_cases finite : value.isFinite = true
  · have near := clamp_eq_self_iff.mp settled finite
    obtain ⟨least, most⟩ : (-infiniteFrom).isNaN = false ∧ infiniteFrom.isNaN = false := by
      decide +kernel
    refine .inr ⟨lt_iff.mpr ⟨least, number, ?_⟩, lt_iff.mpr ⟨number, most, ?_⟩⟩
    · exact Int.not_le.mp fun le => near (.inr (le_iff.mpr ⟨number, least, le⟩))
    · exact Int.not_le.mp fun le => near (.inl (le_iff.mpr ⟨most, number, le⟩))
  · refine .inl ?_
    by_contra bounded
    exact finite (isFinite_of_not_isInf number bounded)

theorem bounded_clamp (number : value.isNaN = false) : Bounded (clamp value) :=
  bounded_of_clamp_eq (clamp_clamp value) (isNaN_clamp number)

/-- **A quotient of what is left alone** is left alone too, if the division does not cross `1e30`. -/
theorem bounded_div (settled : clamp value = value) (even : Evenly divisor value)
    (nonzero : (divisor == 0) = false) (number : (value / divisor).isNaN = false) :
    Bounded (value / divisor) := by
  have same := (clamp_div_iff nonzero).mpr even
  rw [settled] at same
  exact bounded_of_clamp_eq same.symm number

/-! ### Two limits -/

/-- The limits of a variable, from those of a multiple of it: clamped before the division. -/
def limitsBefore (divisor low high : Float) : Float × Float :=
  if 0 < divisor then (clamp low / divisor, clamp high / divisor)
  else (clamp high / divisor, clamp low / divisor)

/-- The limits of a variable, from those of a multiple of it: clamped behind the division. -/
def limitsBehind (divisor low high : Float) : Float × Float :=
  if divisor < 0 then (clamp (high / divisor), clamp (low / divisor))
  else (clamp (low / divisor), clamp (high / divisor))

/-- What is neither above nor below zero is zero or no number. -/
theorem isNaN_of_sides (nonzero : (divisor == 0) = false) (notAbove : ¬ 0 < divisor)
    (notBelow : ¬ divisor < 0) : divisor.isNaN = true := by
  by_contra some
  have number := Bool.eq_false_iff.mpr some
  have zero : unitsOf 0 = 0 := rfl
  rw [lt_iff] at notAbove notBelow
  have equal : (divisor == 0) = true := by
    refine beq_iff.mpr ⟨number, rfl, ?_⟩
    have above : ¬ unitsOf 0 < unitsOf divisor := fun less => notAbove ⟨rfl, number, less⟩
    have below : ¬ unitsOf divisor < unitsOf 0 := fun less => notBelow ⟨number, rfl, less⟩
    omega
  rw [equal] at nonzero
  cases nonzero

/-- **Both ways give the same limits** exactly if no division crosses `1e30`. -/
theorem limitsBefore_eq_iff {low high : Float} (nonzero : (divisor == 0) = false) :
    limitsBefore divisor low high = limitsBehind divisor low high
      ↔ Evenly divisor low ∧ Evenly divisor high := by
  unfold limitsBefore limitsBehind
  by_cases above : 0 < divisor
  · have notBelow : ¬ divisor < 0 := by
      obtain ⟨-, -, less⟩ := lt_iff.mp above
      rw [lt_iff]
      omega
    rw [if_pos above, if_neg notBelow, Prod.mk.injEq, clamp_div_iff nonzero, clamp_div_iff nonzero]
  · rw [if_neg above]
    by_cases below : divisor < 0
    · rw [if_pos below, Prod.mk.injEq, clamp_div_iff nonzero, clamp_div_iff nonzero, and_comm]
    · -- The coefficient is no number, and neither is any limit.
      have missing := isNaN_of_sides nonzero above below
      have quotient (value : Float) : (value / divisor).isNaN = true := isNaN_div (.inr missing)
      rw [if_neg below, clamp_of_isNaN (quotient low), clamp_of_isNaN (quotient high)]
      refine iff_of_true ?_ ⟨evenly_of_isNaN (quotient low), evenly_of_isNaN (quotient high)⟩
      rw [eq_of_isNaN (quotient (clamp high)) (quotient low),
        eq_of_isNaN (quotient (clamp low)) (quotient high)]

end LinearProgram.Lp
