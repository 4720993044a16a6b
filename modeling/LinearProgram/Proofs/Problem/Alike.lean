/-
**Problems that differ in names and in the order of entries at most.**

* `Problem.Alike`: the relation. It is what an engine could tell two problems apart by.
* `Problem.Reordered`: problems that differ in the order of entries only; `reordered_normalize`.
* `alike_normalize`, `alike_setName`, `alike_setRowName`, `alike_setColumnName`: operations that
  stay within it.
* `Alike.rowCount_eq`, `Alike.columnCount_eq`: the dimensions agree.
-/

import Mathlib.Data.List.Forall2
import LinearProgram.Proofs.Problem.Preserved

namespace LinearProgram

/-- A column apart from its name. -/
def Column.unnamed (column : Column) : Column :=
  { column with name := none }

/-- A row apart from its name. -/
def Row.unnamed (row : Row) : Row :=
  { row with name := none }

namespace Problem

/-- **The problems are the same**, apart from names and from the order of the entries of a row. -/
structure Alike (first second : Problem) : Prop where
  maximize : first.maximize = second.maximize
  constant : first.constant = second.constant
  columns : first.columns.map (·.unnamed) = second.columns.map (·.unnamed)
  rows : first.rows.map (·.unnamed) = second.rows.map (·.unnamed)
  entries : List.Forall₂ List.Perm first.matrix.rows second.matrix.rows

/-- **The problems are the same**, names included, apart from the order of the entries of a row. -/
structure Reordered (first second : Problem) : Prop where
  name : first.name = second.name
  maximize : first.maximize = second.maximize
  constant : first.constant = second.constant
  columns : first.columns = second.columns
  rows : first.rows = second.rows
  entries : List.Forall₂ List.Perm first.matrix.rows second.matrix.rows

theorem forall₂_perm_trans {first second third : List (List Entry)}
    (left : List.Forall₂ List.Perm first second) (right : List.Forall₂ List.Perm second third) :
    List.Forall₂ List.Perm first third := by
  induction left generalizing third with
  | nil => exact right
  | cons here _ hyp =>
    cases right with
    | cons there rest => exact .cons (here.trans there) (hyp rest)

namespace Alike

variable {first second third : Problem}

theorem refl (problem : Problem) : Alike problem problem :=
  ⟨rfl, rfl, rfl, rfl, List.forall₂_same.mpr fun row _ => List.Perm.refl row⟩

theorem trans (left : Alike first second) (right : Alike second third) : Alike first third where
  maximize := left.maximize.trans right.maximize
  constant := left.constant.trans right.constant
  columns := left.columns.trans right.columns
  rows := left.rows.trans right.rows
  entries := forall₂_perm_trans left.entries right.entries

theorem columnCount_eq (alike : Alike first second) : first.columnCount = second.columnCount := by
  have lengths := congrArg List.length alike.columns
  rw [List.length_map, List.length_map] at lengths
  exact lengths

theorem rowCount_eq (alike : Alike first second) : first.rowCount = second.rowCount := by
  rw [← length_matrix_rows, ← length_matrix_rows]
  exact alike.entries.length_eq

end Alike

variable {problem : Problem}

theorem Reordered.refl (problem : Problem) : Reordered problem problem :=
  ⟨rfl, rfl, rfl, rfl, rfl, (Alike.refl problem).entries⟩

theorem Reordered.alike {first second : Problem} (same : Reordered first second) :
    Alike first second :=
  ⟨same.maximize, same.constant, congrArg _ same.columns, congrArg _ same.rows, same.entries⟩

theorem reordered_normalize (stored : problem.WellStored) : Reordered problem.normalize problem := by
  obtain ⟨rows, laid, -, -, -, -⟩ := stored.exists_rows
  rw [normalize_eq stored laid]
  refine ⟨rfl, rfl, rfl, rfl, rfl, ?_⟩
  dsimp only
  rw [SparseRows.rows_ofRows, laid, SparseRows.rows_ofRows, List.forall₂_map_left_iff]
  exact List.forall₂_same.mpr fun row _ => sortEntries_perm row

theorem alike_normalize (stored : problem.WellStored) : Alike problem.normalize problem :=
  (reordered_normalize stored).alike

theorem alike_setName (problem : Problem) (name : String) : Alike { problem with name } problem :=
  ⟨rfl, rfl, rfl, rfl, (Alike.refl problem).entries⟩

/-- A change at a place that a map does not see. -/
theorem map_modify_eq {α β : Type} (view : α → β) (items : List α) (place : Nat) (change : α → α)
    (same : ∀ item, view (change item) = view item) :
    (items.modify place change).map view = items.map view := by
  refine List.ext_getElem? fun index => ?_
  rw [List.getElem?_map, List.getElem?_modify, List.getElem?_map]
  cases items[index]? with
  | none => rfl
  | some item =>
    by_cases here : place = index
    · simp [here, same]
    · simp [here]

theorem alike_setRowName (problem : Problem) (index : Nat) (name : String) :
    Alike (problem.setRowName index name) problem :=
  ⟨rfl, rfl, rfl, map_modify_eq _ _ _ _ fun _ => rfl, (Alike.refl problem).entries⟩

theorem alike_setColumnName (problem : Problem) (index : Nat) (name : String) :
    Alike (problem.setColumnName index name) problem :=
  ⟨rfl, rfl, map_modify_eq _ _ _ _ fun _ => rfl, rfl, (Alike.refl problem).entries⟩

end Problem

end LinearProgram
