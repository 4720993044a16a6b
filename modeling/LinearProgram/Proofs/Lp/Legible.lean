/-
**What can be written can be read.**

A problem whose names are names and whose numbers are numbers is printable. Its ranges are not empty
when they are read: a far limit lies on its side of the right-hand side, and limits in order come
back in order. So nothing but the names, taken together, can keep a reader from taking its text.

* `printable_of_writable`: such a problem is printable if its own name stays within the comment.
* `roomy_of_writable`: its ranges are not empty when they are read.
* **`legible_of_writable`**: it is legible if names that are written are distinct.
* `writtenLabels_normalize`: the labels do not depend on the order of the entries.
-/

import LinearProgram.Proofs.Lp.RereadOrder
import LinearProgram.Proofs.Problem.Alike
import LinearProgram.Proofs.Problem.Writable

namespace LinearProgram.Lp

open Decimal Problem

variable {problem : Problem}

/-- **A far limit lies on its side of the right-hand side.** -/
theorem farLimit_side {row : Row} (writable : row.Writable) (ranged : row.range.isSome) :
    match row.relation with
    | .atMost => farLimit row ≤ row.rhs
    | _ => row.rhs ≤ farLimit row := by
  obtain ⟨range, some⟩ := Option.isSome_iff_exists.mp ranged
  obtain ⟨finite, nonneg⟩ := writable.range range some
  unfold farLimit Row.bounds
  rw [some]
  cases row.relation with
  | atMost => exact sub_le writable.rhs finite nonneg
  | atLeast | equal => exact le_add writable.rhs finite nonneg

/-- The limits of a row that can be written are numbers. -/
theorem isNaN_bounds {row : Row} (writable : row.Writable) (ranged : row.range.isSome) :
    row.bounds.1.isNaN = false ∧ row.bounds.2.isNaN = false := by
  have side := farLimit_side writable ranged
  unfold farLimit Row.bounds at side
  unfold Row.bounds
  cases relation : row.relation with
  | atMost =>
    rw [relation] at side
    exact ⟨(le_iff.mp side).1, writable.rhs⟩
  | atLeast | equal =>
    rw [relation] at side
    exact ⟨writable.rhs, (le_iff.mp side).2.1⟩

/-- Ranges are not empty when they are read. -/
theorem roomy_of_writable {index : Nat} (writable : (problem.rowInfo index).Writable)
    (ranged : (problem.rowInfo index).range.isSome) :
    Progress.Roomy (rereadPlainRow problem index)
      (rereadLimit (farLimit (problem.rowInfo index))) := by
  have side := farLimit_side writable ranged
  unfold Progress.Roomy
  rw [rereadPlainRow]
  dsimp only
  cases relation : (problem.rowInfo index).relation with
  | atMost =>
    rw [relation] at side
    exact fun less => not_le_of_lt less (rereadLimit_mono side)
  | atLeast | equal =>
    rw [relation] at side
    exact fun less => not_le_of_lt less (rereadLimit_mono side)

/-- **A problem that can be written is printable.** -/
theorem printable_of_writable (stored : problem.WellStored) (writable : problem.Writable)
    (name : ¬ ['*', '/'] <:+: problem.name.toList) : Printable problem where
  name := name
  columnNames := by
    intro index _
    rw [columnName]
    cases named : (problem.column index).name with
    | none => exact isName_columnDefault index
    | some text => exact (writable.column index).name text named
  rowNames := by
    intro index _
    rw [rowName]
    cases named : (problem.rowInfo index).name with
    | none => exact isRowName_default index
    | some text => exact (writable.rowInfo index).name text named
  objective := fun index _ => (writable.column index).objective
  constant := writable.constant
  coefficients := fun index _ entry member =>
    ⟨mem_columnIndices.mpr ((fit_writtenEntries stored index).within entry member),
      (writable.row stored index).filter _ entry member⟩
  rhs := fun index _ => (writable.rowInfo index).rhs
  limits := fun index _ ranged => isNaN_bounds (writable.rowInfo index) ranged
  bounds := fun index _ => ⟨(writable.column index).lower, (writable.column index).upper⟩

/-- **A problem that can be written is legible** if the names that are written are distinct. -/
theorem legible_of_writable (stored : problem.WellStored) (writable : problem.Writable)
    (name : ¬ ['*', '/'] <:+: problem.name.toList) (columnsDiffer : ColumnsDiffer problem)
    (labelsDiffer : (writtenLabels problem).Nodup) : Legible problem where
  stored := stored
  printable := printable_of_writable stored writable name
  columnsDiffer := columnsDiffer
  labelsDiffer := labelsDiffer
  roomy := fun index _ ranged => roomy_of_writable (writable.rowInfo index) ranged

/-! ### Putting rows in order -/

theorem rowName_normalize (stored : problem.WellStored) (index : Nat) :
    problem.normalize.rowName index = problem.rowName index := by
  rw [rowName, rowName, rowInfo, rowInfo, (reordered_normalize stored).rows]

theorem columnName_normalize (stored : problem.WellStored) (index : Nat) :
    problem.normalize.columnName index = problem.columnName index := by
  rw [columnName, columnName, column, column, (reordered_normalize stored).columns]

theorem row_normalize (stored : problem.WellStored) (index : Nat) :
    problem.normalize.row index = sortEntries (problem.row index) := by
  have laid := stored.matrix_eq
  rw [normalize_eq stored laid, row_of_rows rfl, row_of_rows laid, List.getElem?_map]
  cases problem.matrix.rows[index - 1]? with
  | none => exact (sortEntries_eq_self (show Increasing [] from List.Pairwise.nil)).symm
  | some row => rfl

/-- **The labels do not depend on the order of the entries.** -/
theorem writtenLabels_normalize (stored : problem.WellStored) :
    writtenLabels problem.normalize = writtenLabels problem := by
  have count : problem.normalize.rowCount = problem.rowCount :=
    (alike_normalize stored).rowCount_eq
  have length (index : Nat) : (writtenEntries problem.normalize index).length
      = (writtenEntries problem index).length := by
    rw [writtenEntries, writtenEntries, row_normalize stored]
    exact ((sortEntries_perm _).filter _).length_eq
  have info (index : Nat) : problem.normalize.rowInfo index = problem.rowInfo index := by
    rw [rowInfo, rowInfo, (reordered_normalize stored).rows]
  have rows : labelledRows problem.normalize = labelledRows problem := by
    rw [labelledRows, labelledRows, rowIndices, rowIndices, count]
    refine List.filter_congr fun index _ => ?_
    rw [info, length]
  rw [writtenLabels, writtenLabels, rows]
  exact List.map_congr_left fun index _ => rowName_normalize stored index

theorem columnsDiffer_normalize (stored : problem.WellStored) (differ : ColumnsDiffer problem) :
    ColumnsDiffer problem.normalize := by
  have count : problem.normalize.columnCount = problem.columnCount :=
    (alike_normalize stored).columnCount_eq
  have names : problem.normalize.columnIndices.map problem.normalize.columnName
      = problem.columnIndices.map problem.columnName := by
    rw [columnIndices, columnIndices, count]
    exact List.map_congr_left fun index _ => columnName_normalize stored index
  rw [ColumnsDiffer, names]
  exact differ

end LinearProgram.Lp
