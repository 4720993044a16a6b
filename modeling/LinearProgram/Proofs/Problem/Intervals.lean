/-
**The interval of a row, and moving one end of it.**

A row stores the interval in which its activity must lie as a right-hand side and a range. A limit sets
one end of the interval or both, and the other end has to be put in terms of these again. It is not
where the end that is set is the right-hand side itself and there is a range: then the range goes along
and the other end moves too.

* `moveSide`: the interval with one end moved. `MovesOneSide`: where no more than that happens.
* `sameBounds_below`, `sameBounds_above`: a limit on the other side of a right-hand side.
* `Row.limited?`: the row that a limit makes of a row. **`sameBounds_limited`**: its interval.
* `Problem.getD_setRange?_setRelation`: setting a range replaces one row.
-/

import LinearProgram.Proofs.Problem.Activity

namespace LinearProgram

open Decimal

/-! ### Intervals -/

/-- **An interval with an end moved**, or with both. -/
def moveSide (bounds : Float × Float) (limit : Relation × Float) : Float × Float :=
  match limit with
  | (.atLeast, value) => (value, bounds.2)
  | (.atMost, value) => (bounds.1, value)
  | (.equal, value) => (value, value)

namespace SameBounds

variable {first second : Float × Float}

theorem moveSide (same : SameBounds first second) (limit : Relation × Float) :
    SameBounds (moveSide first limit) (moveSide second limit) := by
  obtain ⟨relation, value⟩ := limit
  cases relation with
  | atMost => exact ⟨same.lower, .refl _⟩
  | atLeast => exact ⟨.refl _, same.upper⟩
  | equal => exact .refl _

theorem foldl_moveSide (same : SameBounds first second) (limits : List (Relation × Float)) :
    SameBounds (limits.foldl LinearProgram.moveSide first)
      (limits.foldl LinearProgram.moveSide second) := by
  induction limits generalizing first second with
  | nil => exact same
  | cons limit rest hyp => exact hyp (same.moveSide limit)

end SameBounds

/-! ### Rows -/

/-- A row with a relation and a range, unless the range is not a number. -/
def Row.ranged (row : Row) (relation : Relation) (range : Float) : Row :=
  (({ row with relation } : Row).setRange? range).getD { row with relation }

/-- **The row that a limit makes of a row**; none if no activity would keep to both ends. -/
def Row.limited? (row : Row) (relation : Relation) (limit : Float) : Option Row :=
  match relation with
  | .equal => some { row with relation := .equal, rhs := limit, range := none }
  | .atLeast =>
    if row.relation = .atLeast then some { row with rhs := limit }
    else if row.rhs < limit then none
    else some (row.ranged .atMost (row.rhs - limit))
  | .atMost =>
    if row.relation = .atMost then some { row with rhs := limit }
    else if limit < row.rhs then none
    else some (row.ranged row.relation (limit - row.rhs))

/-- **Where a limit moves no other end.** The distance between the limit and the right-hand side must
not be rounded. A limit on the side of the right-hand side must find no range, and one above an equality
must be finite. -/
def MovesOneSide (row : Row) (relation : Relation) (limit : Float) : Prop :=
  match row.relation, relation with
  | _, .equal => True
  | .atMost, .atMost | .atLeast, .atLeast => row.range = none
  | .atMost, .atLeast => row.rhs.isFinite = true ∧ limit.isNaN = false
    ∧ (limit.isFinite = true → ExactDifference row.rhs limit)
  | .equal, .atLeast => Same row.bounds.2 row.rhs ∧ row.rhs.isFinite = true ∧ limit.isNaN = false
    ∧ (limit.isFinite = true → ExactDifference row.rhs limit)
  | .atLeast, .atMost => row.rhs.isFinite = true ∧ limit.isNaN = false
    ∧ (limit.isFinite = true → ExactDifference limit row.rhs)
  | .equal, .atMost => row.rhs.isFinite = true ∧ limit.isFinite = true
    ∧ ExactDifference limit row.rhs

section Rows

variable {row moved : Row} {limit range : Float}

theorem limited?_below (other : row.relation ≠ .atLeast) (notLess : ¬ row.rhs < limit) :
    row.limited? .atLeast limit = some (row.ranged .atMost (row.rhs - limit)) := by
  rw [Row.limited?, if_neg other, if_neg notLess]

theorem limited?_above (other : row.relation ≠ .atMost) (notLess : ¬ limit < row.rhs) :
    row.limited? .atMost limit = some (row.ranged row.relation (limit - row.rhs)) := by
  rw [Row.limited?, if_neg other, if_neg notLess]

theorem of_limited?_below (other : row.relation ≠ .atLeast)
    (takes : row.limited? .atLeast limit = some moved) :
    ¬ row.rhs < limit ∧ moved = row.ranged .atMost (row.rhs - limit) := by
  rw [Row.limited?, if_neg other, Option.ite_none_left_eq_some] at takes
  exact ⟨takes.1, (Option.some.inj takes.2).symm⟩

theorem of_limited?_above (other : row.relation ≠ .atMost)
    (takes : row.limited? .atMost limit = some moved) :
    ¬ limit < row.rhs ∧ moved = row.ranged row.relation (limit - row.rhs) := by
  rw [Row.limited?, if_neg other, Option.ite_none_left_eq_some] at takes
  exact ⟨takes.1, (Option.some.inj takes.2).symm⟩

/-- Setting a range changes the range alone. -/
theorem setRange?_eq_some (set : row.setRange? range = some moved) :
    moved = { row with range := moved.range } := by
  unfold Row.setRange? at set
  split at set
  next => cases set
  next =>
    cases set
    rfl

/-- **A range that is set** is finite and not below zero, if it is kept at all. -/
theorem range_of_setRange? (set : row.setRange? range = some moved) :
    ∀ stored ∈ moved.range, stored.isFinite = true ∧ 0 ≤ stored := by
  unfold Row.setRange? at set
  split at set
  next => cases set
  next number =>
    cases set
    intro stored member
    dsimp only at member
    split at member
    next => cases member
    next finite =>
      obtain rfl := Option.some.inj member
      have number := Bool.eq_false_iff.mpr number
      refine ⟨isFinite_of_not_isInf ((isNaN_abs range).trans number) ?_, nonneg_abs number⟩
      rwa [isInf_abs]

theorem ranged_eq (row : Row) (relation : Relation) (range : Float) :
    row.ranged relation range = { row with relation, range := (row.ranged relation range).range } := by
  unfold Row.ranged
  cases set : ({ row with relation } : Row).setRange? range with
  | none => rfl
  | some moved => exact setRange?_eq_some set

/-- **What a limit can make of a row**: an equality, the row with another right-hand side, or with a
range. -/
theorem limited?_cases {relation : Relation} (limited : row.limited? relation limit = some moved) :
    moved = { row with relation := .equal, rhs := limit, range := none }
      ∨ moved = { row with rhs := limit } ∨ ∃ relation range, moved = row.ranged relation range := by
  unfold Row.limited? at limited
  cases relation with
  | equal => exact .inl (Option.some.inj limited).symm
  | atLeast | atMost =>
    dsimp only at limited
    split at limited
    next => exact .inr (.inl (Option.some.inj limited).symm)
    next =>
      obtain ⟨-, limited⟩ := Option.ite_none_left_eq_some.mp limited
      exact .inr (.inr ⟨_, _, (Option.some.inj limited).symm⟩)

/-- **A limit keeps the name of a row**, and its right-hand side unless it takes its place. -/
theorem limited?_keeps {relation : Relation} (limited : row.limited? relation limit = some moved) :
    moved.name = row.name ∧ (moved.rhs = row.rhs ∨ moved.rhs = limit) := by
  rcases limited?_cases limited with rfl | rfl | ⟨relation, range, rfl⟩
  · exact ⟨rfl, .inr rfl⟩
  · exact ⟨rfl, .inr rfl⟩
  · rw [ranged_eq]
    exact ⟨rfl, .inl rfl⟩

/-- An infinite range is none. -/
theorem setRange?_of_isInf (infinite : range.isInf = true) :
    row.setRange? range = some { row with range := none } := by
  have number : range.isNaN = false := by
    rcases eq_infinity_of_isInf infinite with rfl | rfl <;> rfl
  rw [Row.setRange?, number, infinite]
  rfl

/-- A finite range is stored without its sign. -/
theorem setRange?_of_isFinite (finite : range.isFinite = true) :
    row.setRange? range = some { row with range := some range.abs } := by
  rw [Row.setRange?, isNaN_of_isFinite finite, isInf_of_isFinite finite]
  rfl

/-- What is finite lies between the infinite ends. -/
theorem lt_infinity {value : Float} (finite : value.isFinite = true) :
    -infinity < value ∧ value < infinity := by
  obtain ⟨low, high⟩ := units_bounds (canonical_parts value) finite
  exact ⟨lt_iff.mpr ⟨rfl, isNaN_of_isFinite finite, low⟩,
    lt_iff.mpr ⟨isNaN_of_isFinite finite, rfl, high⟩⟩

theorem le_of_not_lt {first second : Float} (number : first.isNaN = false)
    (number' : second.isNaN = false) (notLess : ¬ first < second) : second ≤ first := by
  rw [lt_iff] at notLess
  refine le_iff.mpr ⟨number', number, ?_⟩
  by_contra more
  exact notLess ⟨number, number', not_le.mp more⟩

/-- The distance to an infinite end is infinite. -/
theorem isInf_sub_infinity {value : Float} (finite : value.isFinite = true) :
    (value - -infinity).isInf = true ∧ (infinity - value).isInf = true := by
  rw [sub_eq_add_neg, neg_neg, sub_eq_add_neg,
    add_of_isInf (by decide) ((isFinite_neg value).trans finite)]
  refine ⟨?_, rfl⟩
  have far : parts infinity = .infinity .positive := rfl
  have infinite : (ofParts (.infinity .positive)).isInf = true := by decide
  rw [isFinite_eq] at finite
  rw [add_eq, far]
  cases whole : parts value with
  | notANumber | infinity => rw [whole] at finite; cases finite
  | zero | finite => exact infinite

/-- **A lower limit below a right-hand side** becomes a range below it. -/
theorem sameBounds_below (finite : row.rhs.isFinite = true) (number : limit.isNaN = false)
    (difference : limit.isFinite = true → ExactDifference row.rhs limit)
    (notLess : ¬ row.rhs < limit) (related : row.relation = .atMost) :
    SameBounds ((row.setRange? (row.rhs - limit)).getD row).bounds (limit, row.rhs) := by
  by_cases infinite : limit.isInf = true
  · obtain rfl : limit = -infinity := by
      refine (eq_infinity_of_isInf infinite).resolve_left ?_
      rintro rfl
      exact notLess (lt_infinity finite).2
    rw [setRange?_of_isInf (isInf_sub_infinity finite).1, Option.getD_some, Row.bounds, related]
    exact .refl _
  · have finite' := isFinite_of_not_isInf number infinite
    have difference := difference finite'
    rw [setRange?_of_isFinite difference.finite, Option.getD_some, Row.bounds, related]
    have le := le_of_not_lt (isNaN_of_isFinite finite) number notLess
    exact ⟨difference.same_sub_abs finite finite' le, .refl _⟩

/-- **An upper limit above a right-hand side** becomes a range above it. -/
theorem sameBounds_above (finite : row.rhs.isFinite = true) (finite' : limit.isFinite = true)
    (difference : ExactDifference limit row.rhs) (notLess : ¬ limit < row.rhs)
    (related : row.relation ≠ .atMost) :
    SameBounds ((row.setRange? (limit - row.rhs)).getD row).bounds (row.rhs, limit) := by
  have le := le_of_not_lt (isNaN_of_isFinite finite') (isNaN_of_isFinite finite) notLess
  have same := difference.same_add_abs finite' finite le
  rw [setRange?_of_isFinite difference.finite, Option.getD_some, Row.bounds]
  cases relation : row.relation with
  | atMost => exact absurd relation related
  | atLeast | equal => exact ⟨.refl _, same⟩

/-- The same for what has no upper end yet. -/
theorem sameBounds_above_of_atLeast (finite : row.rhs.isFinite = true) (number : limit.isNaN = false)
    (difference : limit.isFinite = true → ExactDifference limit row.rhs)
    (notLess : ¬ limit < row.rhs) (related : row.relation = .atLeast) :
    SameBounds ((row.setRange? (limit - row.rhs)).getD row).bounds (row.rhs, limit) := by
  by_cases infinite : limit.isInf = true
  · obtain rfl : limit = infinity := by
      refine (eq_infinity_of_isInf infinite).resolve_right ?_
      rintro rfl
      exact notLess (lt_infinity finite).1
    rw [setRange?_of_isInf (isInf_sub_infinity finite).2, Option.getD_some, Row.bounds, related]
    exact .refl _
  · have finite' := isFinite_of_not_isInf number infinite
    refine sameBounds_above finite finite' (difference finite') notLess fun same => ?_
    rw [related] at same
    cases same

/-- **A limit moves one end of the interval of a row.** -/
theorem sameBounds_limited {relation : Relation}
    (takes : row.limited? relation limit = some moved) (oneSided : MovesOneSide row relation limit) :
    SameBounds moved.bounds (moveSide row.bounds (relation, limit)) := by
  obtain ⟨given, rhs, stored, name⟩ := row
  cases relation with
  | equal =>
    obtain rfl : moved = { relation := .equal, rhs := limit, range := none, name } := by
      cases given <;> exact (Option.some.inj takes).symm
    exact ⟨.refl _, add_zero limit⟩
  | atLeast =>
    cases given with
    | atMost =>
      obtain ⟨finite, number, difference⟩ := oneSided
      obtain ⟨notLess, rfl⟩ := of_limited?_below (nofun : Relation.atMost ≠ .atLeast) takes
      exact sameBounds_below finite number difference notLess rfl
    | equal =>
      obtain ⟨same, finite, number, difference⟩ := oneSided
      obtain ⟨notLess, rfl⟩ := of_limited?_below (nofun : Relation.equal ≠ .atLeast) takes
      -- The upper end of the equality is its right-hand side, which stays.
      have moved : SameBounds _ (limit, rhs) :=
        @sameBounds_below ⟨.atMost, rhs, stored, name⟩ _ finite number difference notLess rfl
      exact moved.trans ⟨.refl _, same.symm⟩
    | atLeast =>
      obtain rfl : stored = none := oneSided
      obtain rfl := Option.some.inj takes
      exact ⟨.refl limit, .refl infinity⟩
  | atMost =>
    cases given with
    | atMost =>
      obtain rfl : stored = none := oneSided
      obtain rfl := Option.some.inj takes
      exact ⟨.refl (-infinity), .refl limit⟩
    | atLeast =>
      obtain ⟨finite, number, difference⟩ := oneSided
      obtain ⟨notLess, rfl⟩ := of_limited?_above (nofun : Relation.atLeast ≠ .atMost) takes
      exact sameBounds_above_of_atLeast finite number difference notLess rfl
    | equal =>
      obtain ⟨finite, finite', difference⟩ := oneSided
      obtain ⟨notLess, rfl⟩ := of_limited?_above (nofun : Relation.equal ≠ .atMost) takes
      exact sameBounds_above finite finite' difference notLess nofun

end Rows

/-! ### Nothing but the row changes -/

namespace Problem

variable (problem : Problem) (index : Nat)

/-- A row that changes is replaced by what the change makes of it. -/
theorem modifyRow_const (change : Row → Row) :
    problem.modifyRow index change
      = problem.modifyRow index fun _ => change (problem.rowInfo index) := by
  rw [modifyRow, modifyRow]
  congr 1
  refine List.ext_getElem? fun place => ?_
  rw [List.getElem?_modify, List.getElem?_modify]
  split
  next here =>
    rw [rowInfo, here]
    cases problem.rows[place]? <;> rfl
  next => rfl

theorem modifyRow_modifyRow (first second : Row → Row) :
    (problem.modifyRow index first).modifyRow index second
      = problem.modifyRow index (second ∘ first) := by
  rw [modifyRow, modifyRow, modifyRow]
  congr 1
  exact List.modify_modify_eq _ _ _ _

/-- A row that stays is replaced by itself. -/
theorem modifyRow_self : (problem.modifyRow index fun _ => problem.rowInfo index) = problem := by
  have same := problem.modifyRow_const index id
  rw [modifyRow, List.modify_id] at same
  exact same.symm

/-- A range is set on a row, unless it is not a number. -/
theorem getD_setRange? (range : Float) :
    (problem.setRange? index range).getD problem
      = problem.modifyRow index fun row => (row.setRange? range).getD row := by
  rw [modifyRow_const, setRange?]
  cases (problem.rowInfo index).setRange? range with
  | none => exact (problem.modifyRow_self index).symm
  | some row => rfl

/-- A range is set on a row, which has got a relation before. -/
theorem getD_setRange?_setRelation (relation : Relation) (range : Float) :
    ((problem.setRelation index relation).setRange? index range).getD
        (problem.setRelation index relation)
      = problem.modifyRow index (·.ranged relation range) := by
  rw [getD_setRange?, setRelation, modifyRow_modifyRow]
  rfl

end Problem

end LinearProgram
