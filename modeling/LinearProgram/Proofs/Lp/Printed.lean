/-
**What printed numbers, terms and sums are read as.**

* `rereadNumber`, `rereadCoefficient`, `rereadConstant`: the values that come back.
* **`reads_number`, `reads_terms`**: the tokens of a number and of a row of terms, and what they are
  read as.
-/

import LinearProgram.Proofs.Decimal.Arithmetic
import LinearProgram.Proofs.Lp.Sums
import LinearProgram.Proofs.Lp.Terms
import LinearProgram.Proofs.Lp.Tokens

namespace LinearProgram.Lp

open Decimal

/-! ### The values that come back -/

/-- What a lone number is read as. -/
def rereadNumber (value : Float) : Float :=
  0 + written value

/-- What the coefficient of a term is read as. -/
def rereadCoefficient (coefficient : Float) : Float :=
  if coefficient == 1 then 1
  else if coefficient == -1 then -1
  else if 0 ≤ coefficient then written coefficient
  else -written (-coefficient)

/-- What the constant behind the terms of the objective is read as. -/
def rereadConstant (constant : Float) : Float :=
  if constant == 0 then 0
  else 0 + (if 0 < constant then written constant.abs else -written constant.abs)

/-- A term as it is read back. -/
def rereadTerm (name : String) (coefficient : Float) : Term :=
  ⟨name, rereadCoefficient coefficient⟩

/-! ### Numbers -/

/-- The tokens of a number, and the number that they are read as. -/
theorem exists_written_tokens {value : Float} (number : value.isNaN = false) :
    ∃ negative magnitude, numberTokens value = signTokens negative ++ [.number magnitude]
      ∧ written value = withSign negative magnitude ∧ (0 ≤ value → negative = false) := by
  obtain ⟨negative, magnitude, tokens, signed, positive, -⟩ := exists_numberTokens number
  refine ⟨negative, magnitude, tokens, ?_, positive⟩
  rw [written, signed, Option.getD_some]

theorem numberTokens_of_nonneg {value : Float} (notNegative : 0 ≤ value) :
    numberTokens value = [.number (written value)] := by
  have number : value.isNaN = false := (le_iff.mp notNegative).2.1
  obtain ⟨negative, magnitude, tokens, same, positive⟩ := exists_written_tokens number
  obtain rfl := positive notNegative
  rw [tokens, same]
  rfl

/-- **The tokens of a number are read as the number.** -/
theorem reads_number {value : Float} (number : value.isNaN = false) :
    numberTokens value ≠ [] ∧ Reads (numberTokens value) { constant := rereadNumber value } := by
  obtain ⟨negative, magnitude, tokens, same, -⟩ := exists_written_tokens number
  rw [tokens, rereadNumber, same]
  cases negative with
  | true =>
    refine ⟨List.cons_ne_nil _ _, ?_⟩
    exact reads_total [⟨some true, some magnitude, none⟩]
      (List.forall_mem_singleton.mpr (List.cons_ne_nil _ _)) nofun
  | false =>
    refine ⟨List.cons_ne_nil _ _, ?_⟩
    exact reads_total [⟨none, some magnitude, none⟩]
      (List.forall_mem_singleton.mpr (List.cons_ne_nil _ _)) nofun

theorem reads_zero : Reads [.number 0] {} := by
  have sum : (0 : Float) + 0 = 0 := by decide
  have read := reads_total [⟨none, some 0, none⟩]
    (List.forall_mem_singleton.mpr (List.cons_ne_nil _ _)) nofun
  have same : total [⟨none, some 0, none⟩] = { constant := 0 + 0 } := rfl
  rw [same, sum] at read
  exact read

theorem reads_name (name : String) : Reads [.name name] { terms := [⟨name, 1⟩] } :=
  reads_total [⟨none, none, some name⟩]
    (List.forall_mem_singleton.mpr (List.cons_ne_nil _ _)) nofun

/-! ### Terms -/

/-- The summand that a term is written as. -/
def termSummand (name : String) (coefficient : Float) : SignedSummand :=
  if coefficient == 1 then ⟨some false, none, some name⟩
  else if coefficient == -1 then ⟨some true, none, some name⟩
  else if 0 ≤ coefficient then ⟨some false, some (written coefficient), some name⟩
  else ⟨some true, some (written (-coefficient)), some name⟩

theorem tokens_termSummand (name : String) {coefficient : Float}
    (number : coefficient.isNaN = false) :
    (termSummand name coefficient).tokens = termTokens name coefficient := by
  unfold termSummand termTokens
  split
  · rfl
  split
  · rfl
  split
  next notNegative =>
    rw [numberTokens_of_nonneg notNegative]
    rfl
  next negative =>
    rw [numberTokens_of_nonneg (nonneg_neg number negative)]
    rfl

theorem summand_termSummand (name : String) (coefficient : Float) :
    (termSummand name coefficient).summand = .term name (rereadCoefficient coefficient) := by
  unfold termSummand rereadCoefficient
  split
  · rfl
  split
  · rfl
  split
  · rfl
  · rfl

theorem whole_termSummand (name : String) (coefficient : Float) :
    (termSummand name coefficient).Whole := by
  unfold termSummand
  split
  · exact List.cons_ne_nil _ _
  split
  · exact List.cons_ne_nil _ _
  split
  · exact List.cons_ne_nil _ _
  · exact List.cons_ne_nil _ _

theorem isSome_sign_termSummand (name : String) (coefficient : Float) :
    (termSummand name coefficient).sign.isSome = true := by
  unfold termSummand
  split
  · rfl
  split
  · rfl
  split
  · rfl
  · rfl

/-- Terms with distinct names are added one after the other. -/
theorem foldl_terms (before : List Term) {given : List Term} (distinct : Distinct (before ++ given))
    (constant : Float) :
    (given.map fun term => Summand.term term.name term.coefficient).foldl Expression.plus
        { terms := before, constant }
      = { terms := before ++ given, constant } := by
  induction given generalizing before with
  | nil => rw [List.append_nil]; rfl
  | cons term rest hyp =>
    have fresh : term.name ∉ before.map (·.name) := by
      intro member
      rw [Distinct, List.map_append, List.nodup_append] at distinct
      exact distinct.2.2 _ member _ List.mem_cons_self rfl
    have moved : before ++ term :: rest = before ++ [term] ++ rest := by
      rw [List.append_assoc]
      rfl
    rw [moved] at distinct ⊢
    rw [← hyp _ distinct]
    show List.foldl _ (Expression.mk (addTerm term.name term.coefficient before) constant) _ = _
    rw [addTerm_of_notMem fresh]

/-- The summand that the constant of the objective is written as, if it is not zero. -/
def constantSummands (constant : Float) : List SignedSummand :=
  if constant == 0 then []
  else [⟨some (!decide (0 < constant)), some (written constant.abs), none⟩]

theorem tokens_constantSummands {constant : Float} (number : constant.isNaN = false) :
    (constantSummands constant).flatMap SignedSummand.tokens = constantTokens constant := by
  unfold constantSummands constantTokens
  split
  · rfl
  · rw [numberTokens_of_nonneg (nonneg_abs number), List.flatMap_singleton]
    by_cases positive : 0 < constant
    · rw [if_pos positive, decide_eq_true positive]
      rfl
    · rw [if_neg positive, decide_eq_false positive]
      rfl

theorem foldl_constantSummands (terms : List Term) (constant : Float) :
    (constantSummands constant).foldl
        (fun (expression : Expression) one => expression.plus one.summand) ⟨terms, 0⟩
      = ⟨terms, rereadConstant constant⟩ := by
  unfold constantSummands rereadConstant
  split
  · rfl
  · by_cases positive : 0 < constant
    · rw [if_pos positive, decide_eq_true positive]
      rfl
    · rw [if_neg positive, decide_eq_false positive]
      rfl

/-! ### Terms and a constant -/

section Written

variable {α : Type} {items : List α} {name : α → String} {coefficient : α → Float} {constant : Float}

/-- The summands that terms and a constant are written as. -/
def writtenSummands (items : List α) (name : α → String) (coefficient : α → Float)
    (constant : Float) : List SignedSummand :=
  items.map (fun item => termSummand (name item) (coefficient item)) ++ constantSummands constant

/-- Each summand says something, and is written with its sign. -/
theorem whole_of_mem_writtenSummands :
    ∀ one ∈ writtenSummands items name coefficient constant,
      one.Whole ∧ one.sign.isSome = true := by
  intro one member
  rcases List.mem_append.mp member with member | member
  · obtain ⟨item, -, rfl⟩ := List.mem_map.mp member
    exact ⟨whole_termSummand _ _, isSome_sign_termSummand _ _⟩
  · unfold constantSummands at member
    split at member
    · exact (List.not_mem_nil member).elim
    · obtain rfl := List.mem_singleton.mp member
      exact ⟨List.cons_ne_nil _ _, rfl⟩

theorem tokens_writtenSummands (numbers : ∀ item ∈ items, (coefficient item).isNaN = false)
    (number : constant.isNaN = false) :
    (writtenSummands items name coefficient constant).flatMap SignedSummand.tokens
      = items.flatMap (fun item => termTokens (name item) (coefficient item))
        ++ constantTokens constant := by
  have each : ∀ item ∈ items, (termSummand (name item) (coefficient item)).tokens
      = termTokens (name item) (coefficient item) :=
    fun item member => tokens_termSummand _ (numbers item member)
  rw [writtenSummands, List.flatMap_append, tokens_constantSummands number, List.flatMap_map,
    List.flatMap_def, List.map_congr_left each, List.flatMap_def]

theorem total_writtenSummands (distinct : (items.map name).Nodup) :
    total (writtenSummands items name coefficient constant)
      = { terms := items.map fun item => rereadTerm (name item) (coefficient item)
          constant := rereadConstant constant } := by
  have names : Distinct (items.map fun item => rereadTerm (name item) (coefficient item)) := by
    rw [Distinct, List.map_map]
    exact distinct
  have terms := foldl_terms [] names 0
  rw [List.nil_append, List.map_map, List.foldl_map] at terms
  rw [total, writtenSummands, List.foldl_append, List.foldl_map]
  simp only [summand_termSummand]
  refine Eq.trans (congrArg (List.foldl _ · _) terms) ?_
  exact foldl_constantSummands _ constant

/-- **The tokens of terms with distinct names and of a constant are read as their sum.** -/
theorem reads_terms (distinct : (items.map name).Nodup)
    (numbers : ∀ item ∈ items, (coefficient item).isNaN = false) (number : constant.isNaN = false) :
    Reads (items.flatMap (fun item => termTokens (name item) (coefficient item))
        ++ constantTokens constant)
      { terms := items.map fun item => rereadTerm (name item) (coefficient item)
        constant := rereadConstant constant } := by
  rw [← tokens_writtenSummands numbers number, ← total_writtenSummands distinct]
  exact reads_total _ (fun one member => (whole_of_mem_writtenSummands one member).1)
    fun one member => (whole_of_mem_writtenSummands one (List.mem_of_mem_tail member)).2

end Written

end LinearProgram.Lp
