/-
**Every operation preserves the storage invariant.**

* `WellStored.appendRow`, `setRow`, `setCoefficient`, `normalize`, `resize?`: the operations on
  coefficients. `WellStored.modifyRow`, `modifyColumn`: all others.
* **`WellStored.apply`**: one operation. **`WellStored.applyAll`**: a row of them.
-/

import LinearProgram.Proofs.Problem.Storage

namespace LinearProgram.Problem

variable {problem : Problem}

/-! ### Attributes of rows and columns -/

theorem WellStored.modifyRow (stored : problem.WellStored) (index : Nat) (change : Row → Row) :
    (problem.modifyRow index change).WellStored :=
  stored.congr rfl (List.length_modify ..) (Nat.le_refl _) rfl

theorem WellStored.modifyColumn (stored : problem.WellStored) (index : Nat)
    (change : Column → Column) : (problem.modifyColumn index change).WellStored :=
  stored.congr rfl rfl (Nat.le_of_eq (List.length_modify ..).symm) rfl

theorem WellStored.addColumn (stored : problem.WellStored) (name : Option String) :
    (problem.addColumn name).WellStored := by
  refine stored.congr rfl rfl ?_ rfl
  show problem.columns.length ≤ (problem.columns ++ [({ name } : Column)]).length
  rw [List.length_append]
  exact Nat.le_add_right _ _

/-- An item set for every entry, one after the other. -/
theorem WellStored.foldl (set : Problem → Entry → Problem)
    (preserves : ∀ problem entry, problem.WellStored → (set problem entry).WellStored)
    (stored : problem.WellStored) (entries : List Entry) :
    (entries.foldl set problem).WellStored := by
  induction entries generalizing problem with
  | nil => exact stored
  | cons entry rest hyp => exact hyp (preserves problem entry stored)

theorem WellStored.setObjectiveRow (stored : problem.WellStored) (entries : List Entry) :
    (problem.setObjectiveRow entries).WellStored := by
  have cleared : ({ problem with
      columns := problem.columns.map ({ · with objective := 0 }) } : Problem).WellStored :=
    stored.congr rfl rfl (Nat.le_of_eq (List.length_map _).symm) rfl
  exact cleared.foldl _ (fun _ _ stored => stored.modifyColumn _ _) entries

theorem WellStored.setRhsVector (stored : problem.WellStored) (entries : List Entry) :
    (problem.setRhsVector entries).WellStored := by
  have cleared : ({ problem with
      rows := problem.rows.map ({ · with rhs := 0 }) } : Problem).WellStored :=
    stored.congr rfl (List.length_map _) (Nat.le_refl _) rfl
  exact cleared.foldl _ (fun _ _ stored => stored.modifyRow _ _) entries

/-- An operation that is refused leaves the problem as it is. -/
theorem WellStored.getD_map {α : Type} (stored : problem.WellStored) (outcome : Option α)
    (change : α → Problem) (preserves : ∀ result, (change result).WellStored) :
    ((outcome.map change).getD problem).WellStored := by
  cases outcome with
  | none => exact stored
  | some result => exact preserves result

theorem WellStored.setRange? (stored : problem.WellStored) (index : Nat) (range : Float) :
    ((problem.setRange? index range).getD problem).WellStored :=
  stored.getD_map _ _ fun _ => stored.modifyRow _ _

theorem WellStored.setBounds? (stored : problem.WellStored) (index : Nat) (lower upper : Float) :
    ((problem.setBounds? index lower upper).getD problem).WellStored :=
  stored.getD_map _ _ fun _ => stored.modifyColumn _ _

/-! ### Coefficients -/

/-- The rows of a problem, as the lemmas on single operations ask for them. -/
theorem WellStored.exists_rows (stored : problem.WellStored) :
    ∃ rows : List (List Entry), problem.matrix = SparseRows.ofRows rows
      ∧ rows.length = problem.rowCount ∧ problem.rows.length = rows.length
      ∧ (∀ row ∈ rows, FitEntries problem.columnCount row)
      ∧ ∀ row ∈ rows.take problem.sortedUpTo, Increasing row :=
  ⟨problem.matrix.rows, stored.matrix_eq, length_matrix_rows problem,
    stored.rows_length.trans (length_matrix_rows problem).symm, stored.fit, stored.ordered⟩

theorem HasRow.inside {index : Nat} (has : problem.HasRow index) {rows : List (List Entry)}
    (length : rows.length = problem.rowCount) : index - 1 < rows.length := by
  obtain ⟨low, high⟩ := has
  omega

theorem WellStored.setRow (stored : problem.WellStored) {index : Nat} {entries : List Entry}
    (has : problem.HasRow index) (fit : FitEntries problem.columnCount entries) :
    (problem.setRow index entries).WellStored := by
  obtain ⟨rows, laid, count, length, fits, ordered⟩ := stored.exists_rows
  rw [setRow_eq laid (has.inside count)]
  refine .of_rows rfl ?_ ?_ ?_ ?_
  · rw [List.length_set]
    exact length
  · intro row member
    rcases List.mem_or_eq_of_mem_set member with member | rfl
    · exact fits row member
    · exact fit.sort
  · rw [List.length_set, count]
    exact stored.sortedUpTo_le
  · intro row member
    rw [List.take_set] at member
    rcases List.mem_or_eq_of_mem_set member with member | rfl
    · exact ordered row member
    · exact increasing_sortEntries fit.distinct

theorem mem_rowIndices {index : Nat} : index ∈ problem.rowIndices ↔ problem.HasRow index := by
  rw [rowIndices, List.mem_range'_1, HasRow]
  omega

theorem mem_columnIndices {index : Nat} :
    index ∈ problem.columnIndices ↔ problem.HasColumn index := by
  rw [columnIndices, List.mem_range'_1, HasColumn]
  omega

theorem WellStored.row_fit (stored : problem.WellStored) (index : Nat) :
    FitEntries problem.columnCount (problem.row index) := by
  obtain ⟨rows, laid, -, -, fits, -⟩ := stored.exists_rows
  rw [row_of_rows laid]
  cases found : rows[index - 1]? with
  | none => exact .nil _
  | some row => exact fits row (List.mem_of_getElem? found)

theorem WellStored.setCoefficient (stored : problem.WellStored) {row column : Nat} (value : Float)
    (hasRow : problem.HasRow row) (hasColumn : problem.HasColumn column) :
    (problem.setCoefficient row column value).WellStored :=
  stored.setRow hasRow ((stored.row_fit row).setCoefficient value hasColumn.1 hasColumn.2)

theorem WellStored.appendRow (stored : problem.WellStored) {entries : List Entry}
    (relation : Relation) (rhs : Float) (deferOrder : Bool)
    (fit : FitEntries problem.columnCount entries) :
    (problem.appendRow entries relation rhs deferOrder).WellStored := by
  obtain ⟨rows, laid, count, length, fits, ordered⟩ := stored.exists_rows
  have le : problem.sortedUpTo ≤ rows.length := count ▸ stored.sortedUpTo_le
  rw [appendRow_eq laid]
  refine .of_rows rfl ?_ ?_ ?_ ?_
  · rw [List.length_append, List.length_append, length]
    rfl
  · intro row member
    rcases List.mem_append.mp member with member | member
    · exact fits row member
    · rw [List.mem_singleton.mp member]
      split
      · exact fit.sort
      · exact fit
  · dsimp only
    rw [List.length_append, List.length_singleton]
    split <;> omega
  · by_cases sorted : (problem.sortedUpTo == rows.length && !deferOrder) = true
    · have all : problem.sortedUpTo = rows.length := by
        rw [Bool.and_eq_true, beq_iff_eq] at sorted
        exact sorted.1
      rw [all, List.take_length] at ordered
      rw [if_pos sorted, if_pos sorted, List.take_of_length_le (by simp)]
      intro row member
      rcases List.mem_append.mp member with member | member
      · exact ordered row member
      · rw [List.mem_singleton.mp member]
        exact increasing_sortEntries fit.distinct
    · rw [if_neg sorted, if_neg sorted, List.take_append_of_le_length le]
      exact ordered

theorem rowCount_appendRow (stored : problem.WellStored) (entries : List Entry)
    (relation : Relation) (rhs : Float) (deferOrder : Bool) :
    (problem.appendRow entries relation rhs deferOrder).rowCount = problem.rowCount + 1 := by
  obtain ⟨rows, laid, count, -, -, -⟩ := stored.exists_rows
  rw [appendRow_eq laid, ← count]
  exact (SparseRows.count_ofRows _).trans List.length_append

theorem WellStored.normalize (stored : problem.WellStored) : problem.normalize.WellStored := by
  obtain ⟨rows, laid, count, length, fits, ordered⟩ := stored.exists_rows
  rw [normalize_eq stored laid]
  refine .of_rows rfl ?_ ?_ ?_ ?_
  · rw [List.length_map]
    exact length
  · intro row member
    obtain ⟨old, stood, rfl⟩ := List.mem_map.mp member
    exact (fits old stood).sort
  · exact Nat.le_of_eq (List.length_map _).symm
  · intro row member
    obtain ⟨old, stood, rfl⟩ := List.mem_map.mp (List.mem_of_mem_take member)
    exact increasing_sortEntries (fits old stood).distinct

theorem length_fit {α : Type} [Inhabited α] (items : List α) (length : Nat) :
    (fit items length).length = length := by
  rw [fit, List.length_append, List.length_take, List.length_replicate]
  omega

theorem enough_of_resize? {resized : Problem} {rowCount columnCount : Nat}
    (fits : problem.resize? rowCount columnCount = some resized) :
    Storable rowCount columnCount := by
  by_cases enough : Storable rowCount columnCount
  · exact enough
  · simp [Problem.resize?, enough] at fits

theorem WellStored.resize? (stored : problem.WellStored) {resized : Problem}
    {rowCount columnCount : Nat} (fits : problem.resize? rowCount columnCount = some resized) :
    resized.WellStored := by
  obtain ⟨rows, laid, count, length, fit, ordered⟩ := stored.exists_rows
  have enough := enough_of_resize? fits
  rw [resize?_eq laid enough] at fits
  obtain rfl := Option.some.inj fits
  refine .of_rows rfl ?_ ?_ ?_ ?_
  · dsimp only
    rw [length_fit, List.length_append, List.length_map, List.length_take, List.length_replicate]
    omega
  · intro row member
    show FitEntries (Problem.fit problem.columns columnCount).length row
    rw [length_fit]
    rcases List.mem_append.mp member with member | member
    · obtain ⟨old, stood, rfl⟩ := List.mem_map.mp member
      exact (fit old (List.mem_of_mem_take stood)).keep
    · rw [List.eq_of_mem_replicate member]
      exact .nil _
  · dsimp only
    rw [List.length_append, List.length_map, List.length_take, List.length_replicate]
    omega
  · intro row member
    dsimp only at member
    rw [List.take_append] at member
    rcases List.mem_append.mp member with member | member
    · rw [← List.map_take, List.take_take, Nat.min_assoc, Nat.min_self, Nat.min_comm,
        ← List.take_take] at member
      obtain ⟨old, stood, rfl⟩ := List.mem_map.mp member
      exact (ordered old (List.mem_of_mem_take stood)).filter _
    · rw [List.eq_of_mem_replicate (List.mem_of_mem_take member)]
      exact List.Pairwise.nil

/-! ### Operations -/

/-- **An operation preserves the storage invariant.** -/
theorem WellStored.apply (stored : problem.WellStored) {operation : Operation}
    (fits : operation.Fits problem) : (operation.apply problem).WellStored := by
  cases operation with
  | resize rows columns =>
    show ((problem.resize? rows columns).getD problem).WellStored
    cases resized : problem.resize? rows columns with
    | none => exact stored
    | some _ => exact stored.resize? resized
  | addColumn name => exact stored.addColumn name
  | setName | setMaximize | setConstant => exact stored.congr rfl rfl (Nat.le_refl _) rfl
  | setObjective | forceBounds | setInteger | setBinary | setColumnName =>
    exact stored.modifyColumn _ _
  | setObjectiveRow entries => exact stored.setObjectiveRow entries
  | appendRow entries relation rhs deferOrder => exact stored.appendRow relation rhs deferOrder fits
  | setRow row entries => exact stored.setRow fits.1 fits.2
  | setCoefficient row column value => exact stored.setCoefficient value fits.1 fits.2
  | normalize => exact stored.normalize
  | setRelation | setRhs | setRowName => exact stored.modifyRow _ _
  | setRhsVector entries => exact stored.setRhsVector entries
  | setRange row range => exact stored.setRange? row range
  | setBounds column lower upper => exact stored.setBounds? column lower upper
  | setLower column lower => exact stored.setBounds? column lower _
  | setUpper column upper => exact stored.setBounds? column _ upper

/-- **A row of operations preserves the storage invariant.** -/
theorem WellStored.applyAll (stored : problem.WellStored) {operations : List Operation}
    (fits : Operation.FitAll problem operations) :
    (Operation.applyAll problem operations).WellStored := by
  induction operations generalizing problem with
  | nil => exact stored
  | cons operation rest hyp => exact hyp (stored.apply fits.1) fits.2

/-- A row that is appended out of order, changed and put in order. -/
def rowHistory : List Operation :=
  [.resize 1 2, .appendRow [⟨2, 1⟩, ⟨1, 3⟩] .atMost 4 true, .setCoefficient 2 2 5, .normalize]

theorem fitAll_rowHistory : Operation.FitAll {} rowHistory := by
  refine ⟨trivial, ⟨by decide, fun entry member => ?_⟩, ⟨⟨by decide, by decide⟩, by decide,
    by decide⟩, trivial, trivial⟩
  rcases List.mem_cons.mp member with rfl | member
  · exact ⟨by decide, by decide⟩
  · rw [List.mem_singleton.mp member]
    exact ⟨by decide, by decide⟩

end LinearProgram.Problem
