/-
**What an expression says, and that reading keeps it.**

An expression writes operands with signs: a number for a variable, or a number alone. What they amount
to, the variables given, is their sum. Reading collects the operands of one variable in one term, which
changes nothing as long as no sum is rounded.

* `operands`: what a row of tokens writes. `worth`: what operands amount to.
* `load`: how much operands have of one variable, signs aside. `Light`: so little that sums are exact.
* `Gathers`: operands that amount to the same as others, and have no more of anything.
* **`gathers_read`**: what is read gathers what is written. `gathers_subtract`: so does a difference.
-/

import LinearProgram.Proofs.Decimal.Whole
import LinearProgram.Proofs.Lp.Terms

namespace LinearProgram.Lp

open Decimal

/-! ### Operands -/

/-- An operand of a sum: a number for a variable, or a number alone. -/
structure Operand where
  name : Option String
  number : ℚ

/-- A number with a sign. -/
def turned (negative : Bool) (number : ℚ) : ℚ :=
  if negative then -number else number

/-- **The operands that a row of tokens writes.** Signs in front of one are taken together, and a number
right in front of a name is its coefficient. -/
def operands (negative : Bool) : List Located → List Operand
  | ⟨.plus, _⟩ :: rest => operands negative rest
  | ⟨.minus, _⟩ :: rest => operands (!negative) rest
  | ⟨.number value, _⟩ :: ⟨.name name, _⟩ :: rest =>
    ⟨some name, turned negative (valueOf value)⟩ :: operands false rest
  | ⟨.number value, _⟩ :: rest => ⟨none, turned negative (valueOf value)⟩ :: operands false rest
  | ⟨.name name, _⟩ :: rest => ⟨some name, turned negative 1⟩ :: operands false rest
  | _ :: rest => operands negative rest
  | [] => []

/-- The operand with the opposite sign. -/
def Operand.opposite (operand : Operand) : Operand :=
  ⟨operand.name, -operand.number⟩

/-- What an operand amounts to, the variables given. -/
def Operand.worth (assignment : String → ℚ) (operand : Operand) : ℚ :=
  operand.number * operand.name.elim 1 assignment

/-- **What operands amount to**, the variables given. -/
def worth (assignment : String → ℚ) (operands : List Operand) : ℚ :=
  (operands.map (·.worth assignment)).sum

/-- How much operands have of one variable, or of numbers alone, signs aside. -/
def load (key : Option String) (operands : List Operand) : ℚ :=
  (operands.map fun operand => if operand.name = key then |operand.number| else 0).sum

/-- **So little of everything that sums of integers are exact.** -/
def Light (operands : List Operand) : Prop :=
  ∀ key, load key operands ≤ 2 ^ 53

section Operands

variable (assignment : String → ℚ) (key : Option String) (first second : List Operand)
  (operand : Operand)

theorem worth_cons : worth assignment (operand :: first)
    = operand.worth assignment + worth assignment first := by
  rw [worth, List.map_cons, List.sum_cons, worth]

theorem worth_append : worth assignment (first ++ second)
    = worth assignment first + worth assignment second := by
  rw [worth, List.map_append, List.sum_append, worth, worth]

theorem worth_opposite : worth assignment (first.map Operand.opposite)
    = -worth assignment first := by
  induction first with
  | nil => rfl
  | cons operand rest hyp =>
    rw [List.map_cons, worth_cons, hyp, worth_cons, Operand.worth, Operand.worth, Operand.opposite]
    ring

theorem load_cons : load key (operand :: first)
    = (if operand.name = key then |operand.number| else 0) + load key first := by
  rw [load, List.map_cons, List.sum_cons, load]

theorem load_append : load key (first ++ second) = load key first + load key second := by
  rw [load, List.map_append, List.sum_append, load, load]

theorem load_opposite : load key (first.map Operand.opposite) = load key first := by
  induction first with
  | nil => rfl
  | cons operand rest hyp =>
    rw [List.map_cons, load_cons, hyp, load_cons, Operand.opposite, abs_neg]

theorem load_nonneg : 0 ≤ load key first := by
  refine List.sum_nonneg fun part member => ?_
  obtain ⟨operand, -, rfl⟩ := List.mem_map.mp member
  split_ifs
  · exact abs_nonneg _
  · exact le_rfl

variable {key operand first} in
/-- An operand is no more than all operands have of its variable. -/
theorem abs_le_load (member : operand ∈ first) (same : operand.name = key) :
    |operand.number| ≤ load key first := by
  obtain ⟨before, after, rfl⟩ := List.append_of_mem member
  rw [load_append, load_cons, if_pos same]
  linarith [load_nonneg key before, load_nonneg key after]

end Operands

/-! ### Operands that gather others -/

/-- **Operands that gather others** amount to the same, and have no more of anything. -/
structure Gathers (given gathered : List Operand) : Prop where
  worth : ∀ assignment, worth assignment gathered = worth assignment given
  load : ∀ key, load key gathered ≤ load key given

namespace Gathers

variable {given gathered other more : List Operand}

theorem refl (given : List Operand) : Gathers given given :=
  ⟨fun _ => rfl, fun _ => le_rfl⟩

theorem trans (left : Gathers given gathered) (right : Gathers gathered other) :
    Gathers given other :=
  ⟨fun assignment => (right.worth assignment).trans (left.worth assignment),
    fun key => (right.load key).trans (left.load key)⟩

theorem append (left : Gathers given gathered) (right : Gathers other more) :
    Gathers (given ++ other) (gathered ++ more) where
  worth := fun assignment => by
    rw [worth_append, worth_append, left.worth, right.worth]
  load := fun key => by
    rw [load_append, load_append]
    exact add_le_add (left.load key) (right.load key)

theorem of_perm (perm : given.Perm gathered) : Gathers given gathered where
  worth := fun assignment =>
    (perm.symm.map fun operand : Operand => operand.worth assignment).sum_eq
  load := fun key => (perm.symm.map fun operand : Operand =>
    if operand.name = key then |operand.number| else 0).sum_eq.le

theorem light (gathers : Gathers given gathered) (light : Light given) : Light gathered :=
  fun key => (gathers.load key).trans (light key)

end Gathers

/-- **Two operands of one variable gather in their sum.** -/
theorem gathers_pair (name : Option String) (first second : ℚ) :
    Gathers [⟨name, second⟩, ⟨name, first⟩] [⟨name, first + second⟩] where
  worth := fun assignment => by
    rw [worth_cons, worth_cons, worth_cons, Operand.worth, Operand.worth, Operand.worth]
    ring
  load := fun key => by
    rw [load_cons, load_cons, load_cons]
    split_ifs
    · linarith [abs_add_le first second]
    · linarith

/-- Light operands are small. -/
theorem Light.abs_le {operand : Operand} {rest : List Operand} (light : Light (operand :: rest)) :
    |operand.number| ≤ 2 ^ 53 :=
  (abs_le_load List.mem_cons_self rfl).trans (light operand.name)

theorem Light.of_append_left {first second : List Operand} (light : Light (first ++ second)) :
    Light first := fun key => by
  have all := light key
  rw [load_append] at all
  linarith [load_nonneg key second]

theorem Light.of_append_right {first second : List Operand} (light : Light (first ++ second)) :
    Light second := fun key => by
  have all := light key
  rw [load_append] at all
  linarith [load_nonneg key first]

/-! ### Integers -/

/-- A double that is an integer. -/
def IsInteger (value : Float) : Prop :=
  ∃ number : ℤ, IsWhole value number

/-- All numbers in a row of tokens are integers. -/
def Integers (tokens : List Located) : Prop :=
  ∀ value line, ⟨.number value, line⟩ ∈ tokens → IsInteger value

namespace IsInteger

variable {first second value : Float}

theorem zero : IsInteger 0 := ⟨0, isWhole_zero⟩

theorem isFinite (integer : IsInteger value) : value.isFinite = true := by
  obtain ⟨number, whole⟩ := integer
  exact whole.finite

theorem neg (integer : IsInteger value) : IsInteger (-value) := by
  obtain ⟨number, whole⟩ := integer
  exact ⟨-number, whole.neg⟩

theorem withSign (integer : IsInteger value) (negative : Bool) :
    IsInteger (withSign negative value) := by
  cases negative with
  | true => exact integer.neg
  | false => exact integer

/-- A sum of integers that is small is exact. -/
theorem add (integer : IsInteger first) (integer' : IsInteger second)
    (small : |valueOf first + valueOf second| ≤ 2 ^ 53) :
    IsInteger (first + second) ∧ valueOf (first + second) = valueOf first + valueOf second := by
  obtain ⟨number, whole⟩ := integer
  obtain ⟨other, whole'⟩ := integer'
  rw [whole.value, whole'.value] at small ⊢
  have sum := whole.add whole' (by exact_mod_cast small)
  exact ⟨⟨_, sum⟩, by rw [sum.value, Int.cast_add]⟩

theorem sub (integer : IsInteger first) (integer' : IsInteger second)
    (small : |valueOf first - valueOf second| ≤ 2 ^ 53) :
    IsInteger (first - second) ∧ valueOf (first - second) = valueOf first - valueOf second := by
  have opposite := valueOf_neg second
  have sum := integer.add integer'.neg (by rwa [opposite, ← Rat.sub_eq_add_neg])
  rwa [opposite, ← Rat.sub_eq_add_neg, ← sub_eq_add_neg] at sum

end IsInteger

theorem valueOf_withSign (negative : Bool) (value : Float) :
    valueOf (withSign negative value) = turned negative (valueOf value) := by
  cases negative with
  | true => exact valueOf_neg value
  | false => rfl

/-! ### Terms -/

/-- A term as an operand. -/
def Term.operand (term : Term) : Operand :=
  ⟨some term.name, valueOf term.coefficient⟩

/-- The coefficients of the terms are integers. -/
def WholeTerms (terms : List Term) : Prop :=
  ∀ term ∈ terms, IsInteger term.coefficient

/-- **A coefficient is added up with the term of its name.** -/
theorem gathers_addTerm {name : String} {coefficient : Float} {terms : List Term}
    (whole : WholeTerms terms) (integer : IsInteger coefficient)
    (light : Light (⟨some name, valueOf coefficient⟩ :: terms.map Term.operand)) :
    WholeTerms (addTerm name coefficient terms)
      ∧ Gathers (⟨some name, valueOf coefficient⟩ :: terms.map Term.operand)
        ((addTerm name coefficient terms).map Term.operand) := by
  induction terms with
  | nil =>
    exact ⟨fun term member => List.mem_singleton.mp member ▸ integer, .refl _⟩
  | cons term rest hyp =>
    obtain ⟨here, later⟩ := List.forall_mem_cons.mp whole
    rw [addTerm]
    split
    next same =>
      rw [List.map_cons, Term.operand, same] at light ⊢
      have gathers : Gathers _
          (⟨some name, valueOf term.coefficient + valueOf coefficient⟩ :: rest.map Term.operand) :=
        (gathers_pair (some name) _ (valueOf coefficient)).append (.refl _)
      have small := (gathers.light light).abs_le
      obtain ⟨sum, value⟩ := here.add integer small
      refine ⟨List.forall_mem_cons.mpr ⟨sum, later⟩, ?_⟩
      rw [List.map_cons, Term.operand, value]
      exact gathers
    next =>
      -- The term in front stays, and the coefficient goes behind it.
      have swapped : (⟨some name, valueOf coefficient⟩ :: (term :: rest).map Term.operand).Perm
          ([term.operand] ++ ⟨some name, valueOf coefficient⟩ :: rest.map Term.operand) :=
        List.Perm.swap _ _ _
      obtain ⟨whole', gathers⟩ :=
        hyp later ((Gathers.of_perm swapped).light light).of_append_right
      exact ⟨List.forall_mem_cons.mpr ⟨here, whole'⟩,
        (Gathers.of_perm swapped).trans ((Gathers.refl [term.operand]).append gathers)⟩

/-! ### Expressions -/

namespace Expression

/-- The operands of an expression. -/
def operands (expression : Expression) : List Operand :=
  ⟨none, valueOf expression.constant⟩ :: expression.terms.map Term.operand

/-- All numbers of an expression are integers. -/
structure Whole (expression : Expression) : Prop where
  terms : WholeTerms expression.terms
  constant : IsInteger expression.constant

theorem whole_empty : ({} : Expression).Whole :=
  ⟨fun _ member => (List.not_mem_nil member).elim, .zero⟩

end Expression

/-- A summand as an operand. -/
def Summand.operand : Summand → Operand
  | .term name coefficient => ⟨some name, valueOf coefficient⟩
  | .constant value => ⟨none, valueOf value⟩

/-- The number of a summand. -/
def Summand.number : Summand → Float
  | .term _ coefficient => coefficient
  | .constant value => value

/-- **A summand is added up with what was read before.** -/
theorem gathers_plus {expression : Expression} {added : Summand} (whole : expression.Whole)
    (integer : IsInteger added.number) (light : Light (added.operand :: expression.operands)) :
    (expression.plus added).Whole
      ∧ Gathers (added.operand :: expression.operands) (expression.plus added).operands := by
  have swapped (operand : Operand) : (operand :: expression.operands).Perm
      ([⟨none, valueOf expression.constant⟩] ++ operand :: expression.terms.map Term.operand) :=
    List.Perm.swap _ _ _
  cases added with
  | term name coefficient =>
    have gathers := Gathers.of_perm (swapped ⟨some name, valueOf coefficient⟩)
    obtain ⟨whole', gathers'⟩ :=
      gathers_addTerm whole.terms integer (gathers.light light).of_append_right
    exact ⟨⟨whole', whole.constant⟩, gathers.trans ((Gathers.refl _).append gathers')⟩
  | constant value =>
    have integer : IsInteger value := integer
    have gathers : Gathers ((Summand.constant value).operand :: expression.operands)
        (⟨none, valueOf expression.constant + valueOf value⟩
          :: expression.terms.map Term.operand) :=
      (gathers_pair none _ (valueOf value)).append (.refl _)
    have small := (gathers.light light).abs_le
    obtain ⟨sum, exact_⟩ := whole.constant.add integer small
    refine ⟨⟨whole.terms, sum⟩, ?_⟩
    rw [Expression.operands.eq_def (expression.plus _), Expression.plus, Expression.addConstant,
      exact_]
    exact gathers

/-! ### Reading -/

/-- A summand is the same on every line. -/
theorem summand_line {line other : Nat} {negative : Bool} {tokens : List Located}
    {found : Summand × List Located} (read : summand line negative tokens = .ok found) :
    summand other negative tokens = .ok found := by
  unfold summand at read ⊢
  split at read <;> first | exact read | cases read

/-- **An expression is the same on every line**; only faults tell lines apart. -/
theorem Expression.read_line {line other : Nat} {tokens : List Located} {expression : Expression}
    (read : Expression.read line tokens = .ok expression) :
    Expression.read other tokens = .ok expression := by
  unfold Expression.read at read ⊢
  generalize true = first at read ⊢
  generalize ({} : Expression) = start at read ⊢
  fun_induction readFrom line first start tokens with
  | case1 =>
    rw [readFrom]
    exact read
  | case2 => cases read
  | case3 => cases read
  | case4 first expression token rest signed added after found hyp =>
    rw [readFrom, if_neg signed]
    split
    next failure missing =>
      rw [summand_line found] at missing
      cases missing
    next added' after' found' =>
      rw [summand_line found] at found'
      obtain ⟨rfl, rfl⟩ := Prod.mk.inj (Except.ok.inj found')
      exact hyp read

theorem operands_spanSigns (negative : Bool) (tokens : List Located) :
    operands negative tokens
      = operands (spanSigns negative tokens).1 (spanSigns negative tokens).2 := by
  fun_induction spanSigns negative tokens with
  | case1 negative line rest hyp => rw [operands, hyp]
  | case2 negative line rest hyp => rw [operands, hyp]
  | case3 => rfl

/-- **A summand is the operand in front**, and its number an integer if all numbers are. -/
theorem operands_of_summand {line : Nat} {negative : Bool} {tokens after : List Located}
    {found : Summand} (read : summand line negative tokens = .ok (found, after)) :
    operands negative tokens = found.operand :: operands false after ∧ after <:+ tokens
      ∧ (Integers tokens → IsInteger found.number) := by
  unfold summand at read
  split at read
  · cases read
    refine ⟨?_, (List.suffix_cons _ _).trans (List.suffix_cons _ _), fun integers => ?_⟩
    · rw [operands, Summand.operand, valueOf_withSign]
    · exact (integers _ _ List.mem_cons_self).withSign negative
  next value place rest other =>
    cases read
    refine ⟨?_, List.suffix_cons _ _, fun integers => ?_⟩
    · rw [operands, Summand.operand, valueOf_withSign]
      exact other
    · exact (integers _ _ List.mem_cons_self).withSign negative
  · cases read
    refine ⟨?_, List.suffix_cons _ _, fun _ => ?_⟩
    · rw [operands, Summand.operand, valueOf_withSign, isWhole_one.value, Int.cast_one]
    · exact IsInteger.withSign ⟨1, isWhole_one⟩ negative
  · cases read
  · cases read

theorem Integers.mono {tokens rest : List Located} (integers : Integers tokens)
    (within : rest ⊆ tokens) : Integers rest :=
  fun value line member => integers value line (within member)

namespace Expression

/-- **What is read from some tokens on** gathers what they write with what was read before. -/
theorem gathers_readFrom {line : Nat} {first : Bool} {expression result : Expression}
    {tokens : List Located} (whole : expression.Whole) (integers : Integers tokens)
    (light : Light (Lp.operands false tokens ++ expression.operands))
    (read : readFrom line first expression tokens = .ok result) :
    result.Whole ∧ Gathers (Lp.operands false tokens ++ expression.operands) result.operands := by
  fun_induction readFrom line first expression tokens with
  | case1 first expression =>
    cases read
    exact ⟨whole, .refl _⟩
  | case2 => cases read
  | case3 => cases read
  | case4 first expression token rest signed added after found hyp =>
    have signs := operands_spanSigns false (token :: rest)
    obtain ⟨front, suffix, integer⟩ := operands_of_summand found
    have within := spanSigns_suffix false (token :: rest)
    rw [signs, front] at light ⊢
    have perm : (added.operand :: Lp.operands false after ++ expression.operands).Perm
        (Lp.operands false after ++ added.operand :: expression.operands) :=
      List.perm_middle.symm
    have light' := (Gathers.of_perm perm).light light
    obtain ⟨whole', added'⟩ := gathers_plus whole (integer (integers.mono within.subset))
      light'.of_append_right
    have gathered := (Gathers.of_perm perm).trans ((Gathers.refl _).append added')
    obtain ⟨done, gathers⟩ := hyp whole' (integers.mono (suffix.trans within).subset)
      (gathered.light light) read
    exact ⟨done, gathered.trans gathers⟩

/-- **What is read gathers what is written.** -/
theorem gathers_read {line : Nat} {tokens : List Located} {result : Expression}
    (integers : Integers tokens) (light : Light (Lp.operands false tokens))
    (read : Expression.read line tokens = .ok result) :
    result.Whole ∧ Gathers (Lp.operands false tokens) result.operands := by
  -- Before anything is read there is a zero.
  have zero : Gathers (Lp.operands false tokens)
      (Lp.operands false tokens ++ ({} : Expression).operands) := by
    have none : valueOf 0 = 0 := valueOf_of_zero (by decide)
    refine ⟨fun assignment => ?_, fun key => ?_⟩
    · rw [worth_append, Expression.operands, worth_cons, Operand.worth, none, zero_mul,
        Rat.zero_add]
      exact Rat.add_zero _
    · rw [load_append, Expression.operands, load_cons, none, abs_zero, ite_self, Rat.zero_add]
      exact (Rat.add_zero _).le
  obtain ⟨whole, gathers⟩ := gathers_readFrom whole_empty integers (zero.light light) read
  exact ⟨whole, zero.trans gathers⟩

/-- **The terms of a difference** gather those of both expressions, the ones of the second with the
opposite sign. -/
theorem gathers_subtract {first second : Expression} (whole : WholeTerms first.terms)
    (whole' : WholeTerms second.terms)
    (light : Light ((second.terms.map Term.operand).map Operand.opposite
      ++ first.terms.map Term.operand)) :
    WholeTerms (first.subtract second)
      ∧ Gathers ((second.terms.map Term.operand).map Operand.opposite
          ++ first.terms.map Term.operand) ((first.subtract second).map Term.operand) := by
  rw [subtract]
  generalize first.terms = terms at whole light
  generalize second.terms = others at whole' light
  induction others generalizing terms with
  | nil => exact ⟨whole, .refl _⟩
  | cons term rest hyp =>
    obtain ⟨here, later⟩ := List.forall_mem_cons.mp whole'
    have opposite : term.operand.opposite = ⟨some term.name, valueOf (-term.coefficient)⟩ := by
      rw [valueOf_neg]
      rfl
    have perm : (((term :: rest).map Term.operand).map Operand.opposite
          ++ terms.map Term.operand).Perm
        ((rest.map Term.operand).map Operand.opposite
          ++ ⟨some term.name, valueOf (-term.coefficient)⟩ :: terms.map Term.operand) := by
      rw [List.map_cons, List.map_cons, opposite]
      exact List.perm_middle.symm
    have light' := (Gathers.of_perm perm).light light
    obtain ⟨whole, added⟩ := gathers_addTerm whole here.neg light'.of_append_right
    have gathered := (Gathers.of_perm perm).trans ((Gathers.refl _).append added)
    obtain ⟨done, gathers⟩ := hyp _ whole later (gathered.light light)
    exact ⟨done, gathered.trans gathers⟩

end Expression

end LinearProgram.Lp
