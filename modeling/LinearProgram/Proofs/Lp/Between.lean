/-
**An expression between two constants means what it says.**

Such a statement is stored as one limit if the other one is infinite, as an equality if both agree, and
otherwise as a lower limit with a range. A range keeps how far the limits are apart and not which one is
the larger, so all this is about limits in order; with limits the wrong way round the range would reach
up from the lower limit to where nobody set one.

* `ComparesBetween`: a statement with two relations. `writtenLimits`: the limits that it sets.
* `Reader.last_of_addRowBetween`: the row that it adds. `Reader.sameBounds_rangedRow`: its interval.
* **`between_means`**: the row lies between the limits as they are written, less the constant of the
  expression, and admits what the expression may then be.
-/

import LinearProgram.Proofs.Lp.Comparisons

namespace LinearProgram.Lp

open Decimal Problem

/-! ### Statements with two relations -/

/-- **A statement with two relations**, behind a row name or not. -/
structure ComparesBetween (tokens : List Located) (label : Option String) (left : List Located)
    (first : Relation) (middle : List Located) (second : Relation) (right : List Located) :
    Prop where
  written : ∃ front line place, front.map (·.token) = labelTokens label
    ∧ tokens = front ++ (left ++ ⟨.relation first, line⟩ ::
      (middle ++ ⟨.relation second, place⟩ :: right))
  left_plain : ∀ relation, .relation relation ∉ left.map (·.token)
  middle_plain : ∀ relation, .relation relation ∉ middle.map (·.token)
  right_plain : ∀ relation, .relation relation ∉ right.map (·.token)
  unlabelled : .colon ∉ left.map (·.token)

/-- **The limits that constants on both sides set** to an expression without its own constant. -/
def writtenLimits (relation : Relation) (left middle right : Float) : Float × Float :=
  match relation with
  | .atLeast => (clamp (right - middle), clamp (left - middle))
  | _ => (clamp (left - middle), clamp (right - middle))

/-- The action of such a statement that adds a row. -/
theorem Action.exists_of_compareBetween {line : Nat} {label : Option String}
    {left middle right : List Located} {first second : Relation} {action : Action}
    (asks : compareBetween line label left first middle second right = .ok action)
    (adds : action.AddsRow) :
    ∃ lower inner upper : Expression, Expression.read line left = .ok lower
      ∧ Expression.read line middle = .ok inner ∧ Expression.read line right = .ok upper
      ∧ action = .addRowBetween label inner.terms
        (writtenLimits first lower.constant inner.constant upper.constant).1
        (writtenLimits first lower.constant inner.constant upper.constant).2 := by
  have double {terms : List Term} {low high : Float} (asks : double label terms low high = action) :
      action = .addRowBetween label terms (clamp low) (clamp high) := by
    unfold Action.double at asks
    split at asks
    · subst asks
      exact adds.elim
    · exact asks.symm
  unfold compareBetween at asks
  obtain ⟨lower, readLower, asks⟩ := exists_of_bind_ok asks
  obtain ⟨inner, readInner, asks⟩ := exists_of_bind_ok asks
  obtain ⟨upper, readUpper, asks⟩ := exists_of_bind_ok asks
  refine ⟨lower, inner, upper, readLower, readInner, readUpper, ?_⟩
  dsimp only at asks
  split at asks
  · cases asks
  split at asks
  · have between := double (Except.ok.inj asks)
    dsimp only [writtenLimits]
    exact between
  · have between := double (Except.ok.inj asks)
    dsimp only [writtenLimits]
    exact between
  · cases asks

/-! ### The row that is added -/

namespace Reader

variable {reader after : Reader} {line : Nat} {label : Option String} {terms : List Term}
  {lower upper : Float}

/-- The row between two limits. -/
def rangedRow (lower upper : Float) : Row :=
  if lower == -infinity then { relation := .atMost, rhs := upper }
  else if lower == upper then { relation := .equal, rhs := lower }
  else if upper == infinity then { relation := .atLeast, rhs := lower }
  else ({ relation := .atLeast, rhs := lower } : Row).ranged .atLeast (upper - lower)

/-- **The row between two limits is the last one.** -/
theorem last_of_addRowBetween (sound : reader.Sound) (distinct : Distinct terms)
    (done : reader.addRowBetween line label terms lower upper = .ok after) :
    LastRow after.problem terms (rangedRow lower upper) := by
  unfold Reader.addRowBetween at done
  unfold rangedRow
  split at done
  next none =>
    rw [if_pos none]
    exact last_of_addRow sound distinct done
  next some =>
    rw [if_neg some]
    split at done
    next equal =>
      rw [if_pos equal]
      exact last_of_addRow sound distinct done
    next different =>
      rw [if_neg different]
      split at done
      next none =>
        rw [if_pos none]
        exact last_of_addRow sound distinct done
      next some =>
        rw [if_neg some]
        obtain ⟨added, row, done⟩ := exists_of_bind_ok done
        obtain rfl := Except.ok.inj done
        obtain ⟨sound_added, count⟩ := sound.addRow distinct row
        have last := last_of_addRow sound distinct row
        have ranged := last.modifyRow sound_added.stored (by rw [count]; exact Nat.succ_pos _)
          (fun row => (row.setRange? (upper - lower)).getD row)
          (({ relation := .atLeast, rhs := lower } : Row).ranged .atLeast (upper - lower))
          fun name => ⟨name, by
            unfold Row.ranged Row.setRange?
            split <;> rfl⟩
        rw [← Problem.getD_setRange?] at ranged
        exact ranged

/-- **Its interval reaches from one limit to the other.** -/
theorem sameBounds_rangedRow (ordered : lower ≤ upper)
    (difference : lower.isFinite = true → upper.isFinite = true → ExactDifference upper lower) :
    SameBounds (rangedRow lower upper).bounds (lower, upper) := by
  obtain ⟨number, number', le⟩ := le_iff.mp ordered
  unfold rangedRow
  split
  next none => exact ⟨(same_of_beq none).symm, .refl _⟩
  split
  next equal => exact ⟨.refl _, (add_zero lower).trans (same_of_beq equal)⟩
  split
  next none => exact ⟨.refl _, (same_of_beq none).symm⟩
  next notBelow notEqual notAbove =>
    -- An infinite limit is none of its own, or the other limit is the same.
    have below : lower.isFinite = true := by
      refine isFinite_of_not_isInf number fun infinite => ?_
      rcases eq_infinity_of_isInf infinite with rfl | rfl
      · by_cases far : upper.isInf = true
        · rcases eq_infinity_of_isInf far with rfl | rfl
          · exact notEqual (by decide)
          · exact absurd ordered (by decide)
        · have above := (lt_iff.mp (lt_infinity (isFinite_of_not_isInf number' far)).2).2.2
          omega
      · exact notBelow (by decide)
    have above : upper.isFinite = true := by
      refine isFinite_of_not_isInf number' fun infinite => ?_
      rcases eq_infinity_of_isInf infinite with rfl | rfl
      · exact notAbove (by decide)
      · have above := (lt_iff.mp (lt_infinity below).1).2.2
        omega
    refine sameBounds_above below above (difference below above) (fun less => ?_) nofun
    exact absurd (lt_iff.mp less).2.2 (not_lt.mpr le)

end Reader

/-! ### What such a statement means -/

/-- **An expression between two constants means what it says.** With the limits in order and their
difference not rounded, the row that is stored lies between the limits as they are written, less the
constant of the expression. Its activity is the expression less that constant, the numbers in it being
integers that are small enough for exact sums, so the row admits exactly what lies between the limits. -/
theorem between_means {reader after : Reader} {tokens left middle right : List Located}
    {label : Option String} {first second : Relation} {lower inner upper : Expression}
    {line place other : Nat} (sound : reader.Sound)
    (between : ComparesBetween tokens label left first middle second right)
    (readLower : Expression.read line left = .ok lower)
    (readInner : Expression.read place middle = .ok inner)
    (readUpper : Expression.read other right = .ok upper)
    (accepted : reader.statement tokens = .ok after)
    (stored : after.problem.rowCount = reader.problem.rowCount + 1) {low high : Float}
    (limits : writtenLimits first lower.constant inner.constant upper.constant = (low, high))
    (ordered : low ≤ high)
    (difference : low.isFinite = true → high.isFinite = true → ExactDifference high low) :
    SameBounds (after.problem.rowInfo after.problem.rowCount).bounds (low, high)
      ∧ (Integers middle → Light (operands false middle) → ∀ assignment : String → ℚ,
        Admits (after.problem.rowInfo after.problem.rowCount).bounds
            (after.problem.activity (fun column => assignment (after.problem.columnName column))
              after.problem.rowCount)
          ↔ Admits (low, high)
            (worth assignment (operands false middle) - valueOf inner.constant)) := by
  have stored_after := (sound.statement accepted).stored
  obtain ⟨front, where_, behind, labelled, rfl⟩ := between.written
  obtain ⟨line, action, asks, adds, distinct, done⟩ := Reader.exists_constraint labelled
    (unlabelled_of_notMem between.unlabelled)
    (List.append_ne_nil_of_right_ne_nil _ (List.cons_ne_nil _ _)) accepted stored
  rw [Action.ofConstraint, splitRelations_cut between.left_plain,
    splitRelations_cut between.middle_plain, splitRelations_none between.right_plain] at asks
  obtain ⟨lower', inner', upper', readLower', readInner', readUpper', rfl⟩ :=
    Action.exists_of_compareBetween asks adds
  obtain rfl := Except.ok.inj (readLower'.symm.trans (Expression.read_line readLower))
  obtain rfl := Except.ok.inj (readInner'.symm.trans (Expression.read_line readInner))
  obtain rfl := Except.ok.inj (readUpper'.symm.trans (Expression.read_line readUpper))
  rw [limits] at done distinct
  have last := Reader.last_of_addRowBetween sound distinct done
  have same := last.bounds_eq ▸ Reader.sameBounds_rangedRow ordered difference
  refine ⟨same, fun integers light assignment => ?_⟩
  obtain ⟨-, gathers⟩ := Expression.gathers_read integers light readInner
  have activity : worth assignment (inner'.terms.map Term.operand)
      = worth assignment (operands false middle) - valueOf inner'.constant := by
    rw [← gathers.worth, Expression.operands, worth_cons, Operand.worth]
    show _ = valueOf inner'.constant * 1 + _ - _
    ring
  rw [last.activity_eq stored_after, activity]
  exact same.admits_iff _

/-- The expression of the statement `c: 2 <= x + 1 <= 6`. -/
def enclosed : List Located :=
  [⟨.name "x", 1⟩, ⟨.plus, 1⟩, ⟨.number 1, 1⟩]

def enclosure : List Located :=
  [⟨.name "c", 1⟩, ⟨.colon, 1⟩] ++ ([⟨.number 2, 1⟩] ++ ⟨.relation .atMost, 1⟩ ::
    (enclosed ++ ⟨.relation .atMost, 1⟩ :: [⟨.number 6, 1⟩]))

theorem comparesBetween_enclosure :
    ComparesBetween enclosure (some "c") [⟨.number 2, 1⟩] .atMost enclosed .atMost
      [⟨.number 6, 1⟩] where
  written := ⟨_, 1, 1, rfl, rfl⟩
  left_plain := fun relation member => by simp at member
  middle_plain := fun relation member => by simp [enclosed] at member
  right_plain := fun relation member => by simp at member
  unlabelled := fun member => by simp at member

theorem between_means_enclosure : ∃ after : Reader,
    ({} : Reader).statement enclosure = .ok after ∧ after.problem.rowCount = 1
      ∧ SameBounds (after.problem.rowInfo 1).bounds (1, 5)
      ∧ ∀ assignment : String → ℚ,
        Admits (after.problem.rowInfo 1).bounds
            (after.problem.activity (fun column => assignment (after.problem.columnName column)) 1)
          ↔ Admits (1, 5) (assignment "x" + 1 - 1) := by
  have constants : (Expression.read 1 [⟨.number 2, 1⟩]).toOption.map (·.constant) = some 2
      ∧ (Expression.read 1 enclosed).toOption.map (·.constant) = some 1
      ∧ (Expression.read 1 [⟨.number 6, 1⟩]).toOption.map (·.constant) = some 6 := by
    decide +kernel
  obtain ⟨lower, readLower, two⟩ := exists_ok_of_view constants.1
  obtain ⟨inner, readInner, one⟩ := exists_ok_of_view constants.2.1
  obtain ⟨upper, readUpper, six⟩ := exists_ok_of_view constants.2.2
  have count : (({} : Reader).statement enclosure).toOption.map (·.problem.rowCount) = some 1 := by
    decide +kernel
  obtain ⟨after, accepted, stored⟩ := exists_ok_of_view count
  have limits : writtenLimits .atMost lower.constant inner.constant upper.constant = (1, 5) := by
    rw [two, one, six]
    decide +kernel
  have difference : ExactDifference 5 1 :=
    exactDifference_of_isWhole (by decide +kernel : IsWhole 5 5) isWhole_one (by decide)
  obtain ⟨bounds, means⟩ := between_means Reader.sound_empty comparesBetween_enclosure readLower
    readInner readUpper accepted stored limits (by decide) fun _ _ => difference
  have operands_enclosed : operands false enclosed = [⟨some "x", 1⟩, ⟨none, 1⟩] := by
    simp [enclosed, operands, turned, isWhole_one.value]
  have integers : Integers enclosed := by
    intro value line member
    simp only [enclosed, List.mem_cons, Located.mk.injEq, Token.number.injEq, reduceCtorEq,
      false_and, or_false, false_or, List.not_mem_nil] at member
    rw [member.1]
    exact ⟨1, isWhole_one⟩
  have light : Light (operands false enclosed) := by
    intro key
    rw [operands_enclosed]
    simp only [load, List.map_cons, List.map_nil, List.sum_cons, List.sum_nil]
    split_ifs <;> norm_num
  rw [stored] at bounds
  refine ⟨after, accepted, stored, bounds, fun assignment => ?_⟩
  have here := means integers light assignment
  rw [stored, operands_enclosed, one, isWhole_one.value] at here
  simpa [worth, Operand.worth] using here

end LinearProgram.Lp
