/-
**What holds of every problem that a text describes.**

A reader gives two columns different names and every column and row a name that can be written. Its
rows are in order, and no row is given the name that it has anyway. The problem itself has no name,
for a name is written in a comment only.

* `Orderly`: these facts. `Orderly.edit`: a change that an action makes keeps them.
* **`orderly_parse`**: they hold of every problem that a text describes.
-/

import LinearProgram.Proofs.Lp.Written
import LinearProgram.Proofs.Ranges

namespace LinearProgram.Lp

open Problem

/-- **What holds of every problem that a text describes.** -/
structure Orderly (problem : Problem) : Prop where
  stored : problem.WellStored
  name : problem.name = ""
  ordered : problem.sortedUpTo = problem.rowCount
  columnsDiffer : ColumnsDiffer problem
  columnNames : ∀ index ∈ problem.columnIndices, isName (problem.columnName index) = true
  rowNames : ∀ place row, problem.rows[place]? = some row → ∀ name ∈ row.name,
    isRowName name = true ∧ name ≠ "R" ++ toString (place + 1)
  ranges : ∀ row ∈ problem.rows, ∀ range ∈ row.range, range.isFinite = true ∧ 0 ≤ range

theorem orderly_empty : Orderly {} where
  stored := wellStored_empty
  name := rfl
  ordered := rfl
  columnsDiffer := List.nodup_nil
  columnNames := fun _ member => (List.not_mem_nil member).elim
  rowNames := nofun
  ranges := fun _ member => (List.not_mem_nil member).elim

namespace Orderly

variable {problem : Problem}

/-- The names of the columns are what they were. -/
theorem congr_columns (orderly : Orderly problem) {changed : Problem}
    (stored : changed.WellStored) (name : changed.name = problem.name)
    (ordered : changed.sortedUpTo = changed.rowCount) (rows : changed.rows = problem.rows)
    (count : changed.columnCount = problem.columnCount)
    (names : ∀ index, changed.columnName index = problem.columnName index) : Orderly changed := by
  have indices : changed.columnIndices = problem.columnIndices := by
    rw [columnIndices, columnIndices, count]
  refine ⟨stored, name.trans orderly.name, ordered, ?_, ?_, ?_, ?_⟩
  · rw [ColumnsDiffer, indices, List.map_congr_left fun index _ => names index]
    exact orderly.columnsDiffer
  · rw [indices]
    intro index member
    rw [names]
    exact orderly.columnNames index member
  · rw [rows]
    exact orderly.rowNames
  · rw [rows]
    exact orderly.ranges

/-! ### Columns -/

theorem columnName_modifyColumn (problem : Problem) (index : Nat) {change : Column → Column}
    (keeps : ∀ column, (change column).name = column.name) (other : Nat) :
    (problem.modifyColumn index change).columnName other = problem.columnName other := by
  unfold columnName Problem.column modifyColumn
  dsimp only
  rw [List.getElem?_modify]
  cases problem.columns[other - 1]? with
  | none => rfl
  | some column =>
    show (if index - 1 = other - 1 then change column else column).name.getD _ = _
    split
    · rw [keeps]
      rfl
    · rfl

theorem modifyColumn (orderly : Orderly problem) (index : Nat) {change : Column → Column}
    (keeps : ∀ column, (change column).name = column.name) :
    Orderly (problem.modifyColumn index change) :=
  orderly.congr_columns (orderly.stored.modifyColumn index change) rfl orderly.ordered rfl
    (List.length_modify ..) (columnName_modifyColumn problem index keeps)

/-- A column with a new name. -/
theorem addColumn {reader : Reader} (orderly : Orderly reader.problem) {name : String}
    (named : isName name = true) : Orderly (reader.column name).2.problem := by
  have grows := Reader.column_grows reader name
  have last := Reader.columnName_column reader name
  have stored := grows.wellStored orderly.stored
  cases found : reader.findColumn? name with
  | some index =>
    rw [Reader.column, found]
    exact orderly
  | none =>
    have place : (reader.column name).1 = reader.problem.columnCount + 1 := by
      rw [Reader.column, found]
    obtain ⟨given, after⟩ : ∃ given, (reader.column name).2.problem
        = reader.problem.addColumn given := by
      rw [Reader.column, found]
      exact ⟨_, rfl⟩
    have count : (reader.column name).2.problem.columnCount = reader.problem.columnCount + 1 := by
      rw [after]
      exact List.length_append
    have indices : (reader.column name).2.problem.columnIndices
        = reader.problem.columnIndices ++ [reader.problem.columnCount + 1] := by
      rw [columnIndices, count, List.range'_1_concat, Nat.add_comm 1]
      rfl
    have same : ∀ index ∈ reader.problem.columnIndices,
        (reader.column name).2.problem.columnName index = reader.problem.columnName index :=
      fun index member => grows.columnName_eq (mem_columnIndices.mp member)
    rw [place] at last
    have fresh : ∀ index ∈ reader.problem.columnIndices,
        ¬ (reader.problem.columnName index == name) = true := List.find?_eq_none.mp found
    constructor
    case stored => exact stored
    case columnsDiffer =>
      rw [ColumnsDiffer, indices, List.map_append, List.map_congr_left same, List.map_singleton,
        last]
      refine List.nodup_append.mpr ⟨orderly.columnsDiffer, List.nodup_singleton _, ?_⟩
      intro old member new member' equal
      obtain ⟨index, listed, rfl⟩ := List.mem_map.mp member
      rw [List.mem_singleton.mp member'] at equal
      exact fresh index listed (beq_iff_eq.mpr equal)
    case columnNames =>
      rw [indices]
      intro index member
      rcases List.mem_append.mp member with member | member
      · rw [same index member]
        exact orderly.columnNames index member
      · rw [List.mem_singleton.mp member, last]
        exact named
    all_goals rw [after]
    case name => exact orderly.name
    case ordered => exact orderly.ordered
    case rowNames => exact orderly.rowNames
    case ranges => exact orderly.ranges

/-! ### Rows -/

/-- A row changes. -/
theorem modifyRow (orderly : Orderly problem) (index : Nat) {change : Row → Row}
    (names : ∀ row, problem.rows[index - 1]? = some row → ∀ name ∈ (change row).name,
      isRowName name = true ∧ name ≠ "R" ++ toString (index - 1 + 1))
    (ranges : ∀ row ∈ problem.rows[index - 1]?, ∀ range ∈ (change row).range,
      range.isFinite = true ∧ 0 ≤ range) : Orderly (problem.modifyRow index change) where
  stored := orderly.stored.modifyRow index change
  name := orderly.name
  ordered := orderly.ordered
  columnsDiffer := orderly.columnsDiffer
  columnNames := orderly.columnNames
  rowNames := by
    intro place row found
    rw [Problem.modifyRow, List.getElem?_modify] at found
    obtain ⟨old, stood, rfl⟩ := Option.map_eq_some_iff.mp found
    split
    next same =>
      obtain rfl := same
      exact names old stood
    next => exact orderly.rowNames place old stood
  ranges := RangesFit.forall_mem_modify orderly.ranges fun row found _ => ranges row found

theorem appendRow (orderly : Orderly problem) {entries : List Entry}
    (fit : FitEntries problem.columnCount entries) (relation : Relation) (rhs : Float) :
    Orderly (problem.appendRow entries relation rhs false) := by
  have stored := orderly.stored.appendRow relation rhs false fit
  obtain ⟨rows, laid, count, length, -, -⟩ := orderly.stored.exists_rows
  have all : (problem.sortedUpTo == rows.length && !false) = true := by
    rw [orderly.ordered, count, beq_self_eq_true]
    rfl
  have after := appendRow_eq laid entries relation rhs false
  rw [if_pos all, if_pos all] at after
  rw [after] at stored ⊢
  refine ⟨stored, orderly.name, ?_, orderly.columnsDiffer, orderly.columnNames, ?_, ?_⟩
  · exact ((SparseRows.count_ofRows (rows ++ [sortEntries entries])).trans List.length_append).symm
  · intro place row found name named
    by_cases inside : place < problem.rows.length
    · rw [List.getElem?_append_left inside] at found
      exact orderly.rowNames place row found name named
    · rw [List.getElem?_append_right (Nat.le_of_not_lt inside)] at found
      obtain rfl := List.mem_singleton.mp (List.mem_of_getElem? found)
      cases named
  · intro row member
    rcases List.mem_append.mp member with member | member
    · exact orderly.ranges row member
    · rw [List.mem_singleton.mp member]
      nofun

/-! ### Readers -/

/-- **A change that an action makes keeps what holds of the problem.** -/
theorem edit {reader after : Reader} (edit : Reader.Edit reader after)
    (orderly : Orderly reader.problem) : Orderly after.problem := by
  cases edit with
  | column named => exact orderly.addColumn named
  | mark maximize constant hasObjective =>
    exact orderly.congr_columns (orderly.stored.congr rfl rfl (Nat.le_refl _) rfl) rfl
      orderly.ordered rfl rfl fun _ => rfl
  | modifyColumn index change keeps => exact orderly.modifyColumn index keeps
  | appendRow fit relation rhs => exact orderly.appendRow fit relation rhs
  | modifyRow index change moved =>
    refine orderly.modifyRow index (fun row found => ?_) fun row found => ?_
    all_goals
      have here : reader.problem.rowInfo index = row := congrArg (Option.getD · default) found
      rw [here] at moved
    · rw [moved.name]
      exact orderly.rowNames _ row found
    · exact fun range ranged => (moved.range range ranged).elim
        (orderly.ranges row (List.mem_of_getElem? found) range) id
  | nameRow low named other =>
    refine orderly.modifyRow _ (fun row _ => ?_) fun row found => ?_
    · rintro name ⟨⟩
      rw [Nat.sub_add_cancel low]
      exact ⟨named, other⟩
    · exact orderly.ranges row (List.mem_of_getElem? found)
  | label => exact orderly

end Orderly

/-- **What holds of every problem that a text describes.** -/
theorem orderly_parse {text : String} {problem : Problem} (read : parse text = .ok problem) :
    Orderly problem := by
  obtain ⟨reader, edits, rfl⟩ := exists_reader_of_parse read
  exact edits.preserves (fun edit orderly => Orderly.edit edit orderly) orderly_empty

end LinearProgram.Lp
