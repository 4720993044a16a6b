/-
**What a text is written about.**

A text mentions nothing but rows and columns that exist, and no sum in it mentions a column twice.

* `fit_objectiveEntries`, `fit_writtenEntries`: the entries of the objective and of a row.
* `declaredColumns_le`: the objective lists no more columns than there are.
* `hasColumn_of_mem_occurrences`: the columns that are mentioned behind the objective exist.
* `ColumnsDiffer`: the columns have distinct names, and so have the entries of a sum.
-/

import Mathlib.Data.List.Nodup
import Mathlib.Data.List.TakeWhile
import LinearProgram.Lp.Writer
import LinearProgram.Proofs.Problem.Preserved

namespace LinearProgram.Lp

open Problem

variable {problem : Problem}

/-! ### The entries of a sum -/

theorem unsettledColumns_le (mentions : List Nat) (total count : Nat) :
    unsettledColumns mentions total count ≤ count := by
  fun_induction unsettledColumns mentions total count with
  | case1 => exact Nat.le_refl _
  | case2 count place settled hyp => exact Nat.le_succ_of_le hyp
  | case3 => exact Nat.le_refl _

theorem lastObjective_le (problem : Problem) : lastObjective problem ≤ problem.columnCount := by
  have le := List.length_dropWhile_le (· == 0) problem.objective.reverse
  rw [List.length_reverse, objective, List.length_map] at le
  exact le

theorem declaredColumns_le (problem : Problem) :
    declaredColumns problem ≤ problem.columnCount :=
  Nat.max_le.mpr ⟨unsettledColumns_le _ _ _, lastObjective_le problem⟩

/-- The columns that the objective lists exist. -/
theorem hasColumn_of_declared {index : Nat}
    (listed : index ∈ List.range' 1 (declaredColumns problem)) : problem.HasColumn index := by
  have le := declaredColumns_le problem
  rw [List.mem_range'_1] at listed
  exact ⟨listed.1, by omega⟩

theorem columns_objectiveEntries (problem : Problem) :
    (objectiveEntries problem).map (·.column) = List.range' 1 (declaredColumns problem) := by
  rw [objectiveEntries, List.map_map]
  exact List.map_id _

theorem fit_objectiveEntries (problem : Problem) :
    FitEntries problem.columnCount (objectiveEntries problem) := by
  constructor
  · rw [columns_objectiveEntries]
    exact List.nodup_range'
  · intro entry member
    obtain ⟨index, listed, rfl⟩ := List.mem_map.mp member
    exact hasColumn_of_declared listed

theorem fit_writtenEntries (stored : problem.WellStored) (index : Nat) :
    FitEntries problem.columnCount (writtenEntries problem index) :=
  (stored.row_fit index).filter fun entry => entry.coefficient != 0

/-- Every column that is mentioned behind the objective exists. -/
theorem hasColumn_of_mem_occurrences (stored : problem.WellStored) {index : Nat}
    (member : index ∈ occurrences problem) : problem.HasColumn index := by
  rcases List.mem_append.mp member with member | member
  · rcases List.mem_append.mp member with member | member
    · obtain ⟨row, -, member⟩ := List.mem_flatMap.mp member
      obtain ⟨entry, written, rfl⟩ := List.mem_map.mp member
      exact (fit_writtenEntries stored row).within entry written
    · exact mem_columnIndices.mp (List.mem_filter.mp member).1
  · exact mem_columnIndices.mp (List.mem_filter.mp member).1

/-! ### Names -/

/-- The columns have distinct names. -/
def ColumnsDiffer (problem : Problem) : Prop :=
  (problem.columnIndices.map problem.columnName).Nodup

namespace ColumnsDiffer

variable (differ : ColumnsDiffer problem)

include differ

theorem eq {first second : Nat} (has : problem.HasColumn first) (has' : problem.HasColumn second)
    (same : problem.columnName first = problem.columnName second) : first = second :=
  List.inj_on_of_nodup_map differ (mem_columnIndices.mpr has) (mem_columnIndices.mpr has') same

theorem nodup_names {entries : List Entry} (fit : FitEntries problem.columnCount entries) :
    (entries.map fun entry => problem.columnName entry.column).Nodup := by
  have columns := List.Nodup.map_on (f := problem.columnName)
    (fun first member second member' same => ?_) fit.distinct
  · rw [List.map_map] at columns
    exact columns
  · obtain ⟨entry, written, rfl⟩ := List.mem_map.mp member
    obtain ⟨other, written', rfl⟩ := List.mem_map.mp member'
    exact differ.eq (fit.within entry written) (fit.within other written') same

end ColumnsDiffer

end LinearProgram.Lp
