/-
**The activity of a row, and what its limits admit.**

A row takes the coefficients times the values of the columns, and its sum must lie between two limits,
each of which may be infinite. Both are said in rational numbers, in which nothing is rounded.

* `Problem.activity`: the sum of the coefficients of a row times the values of the columns.
* **`activity_eq_sum_row`**: only the stored entries count.
* `Relation.Holds`: a relation between numbers. `holds_flip`: seen from the other side.
* `Admits`: the limits that a number keeps. `SameBounds.admits_iff`: a zero may have either sign.
* **`admits_bounds`**: what a row without a range admits.
-/

import LinearProgram.Proofs.Decimal.Whole
import LinearProgram.Proofs.Problem.Preserved

namespace LinearProgram

open Decimal

/-! ### Relations and limits -/

namespace Relation

/-- The relation between two numbers. -/
def Holds (relation : Relation) (left right : ℚ) : Prop :=
  match relation with
  | .atMost => left ≤ right
  | .atLeast => right ≤ left
  | .equal => left = right

theorem holds_flip (relation : Relation) (left right : ℚ) :
    relation.flip.Holds left right ↔ relation.Holds right left := by
  cases relation with
  | atMost | atLeast => exact Iff.rfl
  | equal => exact eq_comm

/-- What is added on both sides makes no difference. -/
theorem holds_congr {relation : Relation} {left right other more : ℚ}
    (same : left - right = other - more) : relation.Holds left right ↔ relation.Holds other more := by
  cases relation with
  | atMost =>
    show left ≤ right ↔ other ≤ more
    rw [← sub_nonpos, same, sub_nonpos]
  | atLeast =>
    show right ≤ left ↔ more ≤ other
    rw [← sub_nonneg, same, sub_nonneg]
  | equal =>
    show left = right ↔ other = more
    rw [← sub_eq_zero, same, sub_eq_zero]

end Relation

/-- **The number lies between the limits**, an infinite one being none on its own side. -/
structure Admits (limits : Float × Float) (number : ℚ) : Prop where
  lower : limits.1 = -infinity ∨ limits.1.isFinite = true ∧ valueOf limits.1 ≤ number
  upper : limits.2 = infinity ∨ limits.2.isFinite = true ∧ number ≤ valueOf limits.2

/-! ### Limits with the same ends -/

/-- Intervals with the same ends. -/
structure SameBounds (first second : Float × Float) : Prop where
  lower : Same first.1 second.1
  upper : Same first.2 second.2

namespace SameBounds

variable {first second third : Float × Float}

theorem refl (bounds : Float × Float) : SameBounds bounds bounds :=
  ⟨.refl _, .refl _⟩

theorem symm (same : SameBounds first second) : SameBounds second first :=
  ⟨same.lower.symm, same.upper.symm⟩

theorem trans (left : SameBounds first second) (right : SameBounds second third) :
    SameBounds first third :=
  ⟨left.lower.trans right.lower, left.upper.trans right.upper⟩

/-- What limits admit does not depend on the sign of a zero. -/
theorem admits (same : SameBounds first second) {number : ℚ} (admits : Admits first number) :
    Admits second number := by
  have infinite {value other : Float} (same : Same value other)
      (infinite : value = infinity ∨ value = -infinity) : other = value := by
    rcases same with rfl | ⟨zero, -⟩
    · rfl
    · rcases infinite with rfl | rfl
      · exact absurd zero (by decide)
      · exact absurd zero (by decide)
  constructor
  · rcases admits.lower with none | ⟨bounded, le⟩
    · exact .inl ((infinite same.lower (.inr none)).trans none)
    · refine .inr ⟨(isFinite_congr same.lower).symm.trans bounded, ?_⟩
      rwa [← valueOf_inj.mpr (unitsOf_congr same.lower)]
  · rcases admits.upper with none | ⟨bounded, le⟩
    · exact .inl ((infinite same.upper (.inl none)).trans none)
    · refine .inr ⟨(isFinite_congr same.upper).symm.trans bounded, ?_⟩
      rwa [← valueOf_inj.mpr (unitsOf_congr same.upper)]

theorem admits_iff (same : SameBounds first second) (number : ℚ) :
    Admits first number ↔ Admits second number :=
  ⟨same.admits, same.symm.admits⟩

end SameBounds

/-- **A row without a range and with a finite right-hand side** admits what has the relation to it. -/
theorem admits_bounds {row : Row} (plain : row.range = none) (finite : row.rhs.isFinite = true)
    (number : ℚ) : Admits row.bounds number ↔ row.relation.Holds number (valueOf row.rhs) := by
  have low : row.rhs ≠ -infinity := fun same => by
    rw [same] at finite
    exact absurd finite (by decide)
  have high : row.rhs ≠ infinity := fun same => by
    rw [same] at finite
    exact absurd finite (by decide)
  cases related : row.relation with
  | atMost =>
    have limits : row.bounds = (-infinity, row.rhs) := by
      rw [Row.bounds, related, plain]
      rfl
    rw [limits]
    exact ⟨fun admits => (admits.upper.resolve_left high).2,
      fun below => ⟨.inl rfl, .inr ⟨finite, below⟩⟩⟩
  | atLeast =>
    have limits : row.bounds = (row.rhs, infinity) := by
      rw [Row.bounds, related, plain]
      rfl
    rw [limits]
    exact ⟨fun admits => (admits.lower.resolve_left low).2,
      fun above => ⟨.inr ⟨finite, above⟩, .inl rfl⟩⟩
  | equal =>
    -- The upper limit is the right-hand side, a zero with another sign perhaps.
    have same : SameBounds row.bounds (row.rhs, row.rhs) := by
      rw [Row.bounds, related, plain]
      exact ⟨.refl _, add_zero row.rhs⟩
    rw [same.admits_iff]
    constructor
    · intro admits
      exact le_antisymm (admits.upper.resolve_left high).2 (admits.lower.resolve_left low).2
    · rintro rfl
      exact ⟨.inr ⟨finite, le_rfl⟩, .inr ⟨finite, le_rfl⟩⟩

namespace Problem

/-- A row that changes. -/
theorem rowInfo_modifyRow {problem : Problem} (stored : problem.WellStored) {index : ℕ}
    (has : problem.HasRow index) (change : Row → Row) :
    (problem.modifyRow index change).rowInfo index = change (problem.rowInfo index) := by
  have inside : index - 1 < problem.rows.length := by
    have count := stored.rows_length_eq
    obtain ⟨low, high⟩ := has
    omega
  rw [rowInfo, modifyRow, List.getElem?_modify_eq, List.getElem?_eq_getElem inside, rowInfo,
    List.getElem?_eq_getElem inside]
  rfl

/-! ### Activity -/

/-- **The activity of a row**: over all columns, the coefficient times the value of the column. -/
def activity (problem : Problem) (value : ℕ → ℚ) (index : ℕ) : ℚ :=
  (problem.columnIndices.map fun column =>
    valueOf (problem.coefficient index column) * value column).sum

/-- The sum over columns that contain those of the entries is the sum over the entries. -/
theorem sum_coefficients {entries : List Entry} (distinct : (entries.map (·.column)).Nodup)
    {columns : List ℕ} (nodup : columns.Nodup) (within : ∀ entry ∈ entries, entry.column ∈ columns)
    (value : ℕ → ℚ) :
    (columns.map fun column =>
        valueOf (((entries.find? fun entry => entry.column == column).map (·.coefficient)).getD 0)
          * value column).sum
      = (entries.map fun entry => valueOf entry.coefficient * value entry.column).sum := by
  have zero : valueOf 0 = 0 := valueOf_of_zero (by decide)
  induction entries with
  | nil =>
    refine List.sum_eq_zero fun term member => ?_
    obtain ⟨column, -, rfl⟩ := List.mem_map.mp member
    show valueOf 0 * value column = 0
    rw [zero, zero_mul]
  | cons entry rest hyp =>
    obtain ⟨fresh, others⟩ := List.nodup_cons.mp distinct
    obtain ⟨here, later⟩ := List.forall_mem_cons.mp within
    have absent : rest.find? (fun other => other.column == entry.column) = none :=
      List.find?_eq_none.mpr fun other member same =>
        fresh (List.mem_map.mpr ⟨other, member, beq_iff_eq.mp same⟩)
    have split (column : ℕ) : valueOf ((((entry :: rest).find? fun other =>
          other.column == column).map (·.coefficient)).getD 0) * value column
        = if column = entry.column then valueOf entry.coefficient * value entry.column
          else valueOf (((rest.find? fun other => other.column == column).map
            (·.coefficient)).getD 0) * value column := by
      rw [List.find?_cons]
      split_ifs with same
      · rw [same, beq_self_eq_true]
        rfl
      · rw [beq_false_of_ne (Ne.symm same)]
    rw [List.map_congr_left fun column _ => split column, List.sum_map_ite_eq, nodup.count, if_pos here,
      one_smul, hyp others later, absent, List.map_cons, List.sum_cons]
    show _ - valueOf 0 * _ + _ = _
    rw [zero, zero_mul]
    ring

/-- **Only the stored entries count in the activity of a row.** -/
theorem activity_eq_sum_row {problem : Problem} (stored : problem.WellStored) (value : ℕ → ℚ)
    (index : ℕ) :
    problem.activity value index
      = ((problem.row index).map fun entry => valueOf entry.coefficient * value entry.column).sum := by
  have fit := stored.row_fit index
  refine sum_coefficients fit.distinct List.nodup_range' (fun entry member => ?_) value
  exact mem_columnIndices.mpr (fit.within entry member)

end Problem

end LinearProgram
