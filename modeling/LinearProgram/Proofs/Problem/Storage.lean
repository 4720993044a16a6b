/-
**The storage invariant of a problem.**

`WellStored` couples the rows, the spans, the entries and the mark up to which rows are known to be
in order. Under it a problem is its columns, its rows and one list of entries a row:

* `WellStored.matrix_eq`: the matrix is its rows laid end to end.
* `appendRow_eq`, `setRow_eq`, `sortRow_eq`, `normalize_eq`, `resize?_eq`: what the operations on
  coefficients make of a problem whose rows are laid end to end.
* `sortEntries_eq_self`, `increasing_sortEntries`: putting a row in order.
-/

import LinearProgram.Problem.Operation

namespace LinearProgram

/-- The columns of the entries grow strictly. -/
def Increasing (entries : List Entry) : Prop :=
  (entries.map (·.column)).Pairwise (· < ·)

instance (entries : List Entry) : Decidable (Increasing entries) :=
  inferInstanceAs (Decidable (List.Pairwise _ _))

/-! ### Putting a row in order -/

theorem sortEntries_perm (entries : List Entry) : (sortEntries entries).Perm entries :=
  List.mergeSort_perm _ _

theorem increasing_sortEntries {entries : List Entry}
    (distinct : (entries.map (·.column)).Nodup) : Increasing (sortEntries entries) := by
  have ordered : (sortEntries entries).Pairwise fun first second =>
      decide (first.column ≤ second.column) = true :=
    List.pairwise_mergeSort
      (fun first second third before after => by
        simp only [decide_eq_true_eq] at before after ⊢
        exact Nat.le_trans before after)
      (fun first second => by
        simp only [Bool.or_eq_true, decide_eq_true_eq]
        exact Nat.le_total _ _)
      entries
  have unequal : ((sortEntries entries).map (·.column)).Nodup :=
    ((sortEntries_perm entries).map _).nodup_iff.mpr distinct
  rw [Increasing, List.pairwise_map]
  rw [List.nodup_iff_pairwise_ne, List.pairwise_map] at unequal
  refine (ordered.and unequal).imp fun both => ?_
  obtain ⟨before, different⟩ := both
  exact Nat.lt_of_le_of_ne (of_decide_eq_true before) different

theorem sortEntries_eq_self {entries : List Entry} (increasing : Increasing entries) :
    sortEntries entries = entries := by
  refine List.mergeSort_of_pairwise ?_
  rw [Increasing, List.pairwise_map] at increasing
  exact increasing.imp fun before => decide_eq_true (Nat.le_of_lt before)

theorem Increasing.filter {entries : List Entry} (increasing : Increasing entries)
    (chosen : Entry → Bool) : Increasing (entries.filter chosen) :=
  increasing.sublist (List.filter_sublist.map _)

/-! ### Entries that fit -/

namespace FitEntries

theorem nil (dimension : Nat) : FitEntries dimension [] :=
  ⟨List.nodup_nil, fun _ member => (List.not_mem_nil member).elim⟩

theorem mono {smaller larger : Nat} {entries : List Entry} (fit : FitEntries smaller entries)
    (le : smaller ≤ larger) : FitEntries larger entries :=
  ⟨fit.distinct, fun entry member =>
    ⟨(fit.within entry member).1, Nat.le_trans (fit.within entry member).2 le⟩⟩

theorem perm {dimension : Nat} {first second : List Entry} (fit : FitEntries dimension first)
    (perm : second.Perm first) : FitEntries dimension second :=
  ⟨(perm.map _).nodup_iff.mpr fit.distinct, fun entry member =>
    fit.within entry (perm.mem_iff.mp member)⟩

theorem sort {dimension : Nat} {entries : List Entry} (fit : FitEntries dimension entries) :
    FitEntries dimension (sortEntries entries) :=
  fit.perm (sortEntries_perm entries)

theorem filter {dimension : Nat} {entries : List Entry} (fit : FitEntries dimension entries)
    (chosen : Entry → Bool) : FitEntries dimension (entries.filter chosen) :=
  ⟨fit.distinct.sublist (List.filter_sublist.map _), fun entry member =>
    fit.within entry (List.mem_filter.mp member).1⟩

theorem keep {dimension columnCount : Nat} {entries : List Entry}
    (fit : FitEntries dimension entries) :
    FitEntries columnCount (SparseRows.keep columnCount entries) :=
  ⟨(fit.filter _).distinct, fun entry member =>
    ⟨(fit.within entry (List.mem_filter.mp member).1).1,
      of_decide_eq_true (List.mem_filter.mp member).2⟩⟩

/-- The entries of a row in which one coefficient is set. -/
theorem setCoefficient {dimension column : Nat} {entries : List Entry}
    (fit : FitEntries dimension entries) (value : Float) (low : 1 ≤ column)
    (high : column ≤ dimension) :
    FitEntries dimension
      (if value != 0 then (entries.filter fun entry => entry.column != column) ++ [⟨column, value⟩]
        else entries.filter fun entry => entry.column != column) := by
  have others := fit.filter fun entry => entry.column != column
  split
  · constructor
    · rw [List.map_append, List.nodup_append]
      refine ⟨others.distinct, by simp, ?_⟩
      intro left leftMember right rightMember
      obtain ⟨entry, member, rfl⟩ := List.mem_map.mp leftMember
      rw [List.map_singleton, List.mem_singleton] at rightMember
      rw [rightMember]
      exact bne_iff_ne.mp (List.mem_filter.mp member).2
    · intro entry member
      rcases List.mem_append.mp member with member | member
      · exact others.within entry member
      · rw [List.mem_singleton.mp member]
        exact ⟨low, high⟩
  · exact others

end FitEntries

namespace Problem

/-! ### The invariant -/

/-- **What holds of the storage of a problem after every operation.** There is one span for every
row, the spans tile the entries, the entries of a row have distinct columns that exist, and the rows
before the mark are in order. -/
structure WellStored (problem : Problem) : Prop where
  rows_length : problem.rows.length = problem.matrix.spans.length
  tiles : Tiles 0 problem.matrix.spans problem.matrix.entries.length
  fit : ∀ row ∈ problem.matrix.rows, FitEntries problem.columnCount row
  sortedUpTo_le : problem.sortedUpTo ≤ problem.rowCount
  ordered : ∀ row ∈ problem.matrix.rows.take problem.sortedUpTo, Increasing row

theorem WellStored.matrix_eq {problem : Problem} (stored : problem.WellStored) :
    problem.matrix = SparseRows.ofRows problem.matrix.rows :=
  (SparseRows.tiles_iff_eq_ofRows _).mp stored.tiles

theorem length_matrix_rows (problem : Problem) :
    problem.matrix.rows.length = problem.rowCount := List.length_map ..

theorem WellStored.rows_length_eq {problem : Problem} (stored : problem.WellStored) :
    problem.rows.length = problem.rowCount := stored.rows_length

/-- The invariant from a list of rows that are laid end to end. -/
theorem WellStored.of_rows {problem : Problem} {rows : List (List Entry)}
    (matrix : problem.matrix = SparseRows.ofRows rows) (length : problem.rows.length = rows.length)
    (fit : ∀ row ∈ rows, FitEntries problem.columnCount row)
    (sortedUpTo_le : problem.sortedUpTo ≤ rows.length)
    (ordered : ∀ row ∈ rows.take problem.sortedUpTo, Increasing row) : problem.WellStored where
  rows_length := by rw [length, matrix, SparseRows.ofRows, SparseRows.length_spansFrom]
  tiles := by
    rw [SparseRows.tiles_iff_eq_ofRows, matrix, SparseRows.rows_ofRows]
  fit := by
    rw [matrix, SparseRows.rows_ofRows]
    exact fit
  sortedUpTo_le := by
    rw [rowCount, matrix, SparseRows.count_ofRows]
    exact sortedUpTo_le
  ordered := by
    rw [matrix, SparseRows.rows_ofRows]
    exact ordered

/-- Attributes of rows and columns play no part in the invariant, only their number does. -/
theorem WellStored.congr {problem changed : Problem} (stored : problem.WellStored)
    (matrix : changed.matrix = problem.matrix) (rows : changed.rows.length = problem.rows.length)
    (columns : problem.columnCount ≤ changed.columnCount)
    (sortedUpTo : changed.sortedUpTo = problem.sortedUpTo) : changed.WellStored where
  rows_length := by rw [rows, matrix, stored.rows_length]
  tiles := by
    rw [matrix]
    exact stored.tiles
  fit := by
    rw [matrix]
    exact fun row member => (stored.fit row member).mono columns
  sortedUpTo_le := by
    rw [sortedUpTo, rowCount, matrix]
    exact stored.sortedUpTo_le
  ordered := by
    rw [sortedUpTo, matrix]
    exact stored.ordered

theorem wellStored_empty : ({} : Problem).WellStored :=
  ⟨rfl, rfl, fun _ member => (List.not_mem_nil member).elim, Nat.le_refl _,
    fun _ member => (List.not_mem_nil (List.mem_of_mem_take member)).elim⟩

/-! ### Rows of the matrix -/

theorem modify_append_cons {α : Type} (before : List α) (item : α) (after : List α)
    (change : α → α) :
    (before ++ item :: after).modify before.length change = before ++ change item :: after := by
  induction before with
  | nil => rfl
  | cons first rest hyp => exact congrArg (first :: ·) hyp

section Rows

variable {problem : Problem} {rows : List (List Entry)} {index : Nat}

theorem row_of_rows (laid : problem.matrix = SparseRows.ofRows rows) (index : Nat) :
    problem.row index = (rows[index - 1]?).getD [] := by
  rw [row, laid, SparseRows.row_ofRows]

theorem sortRow_eq (laid : problem.matrix = SparseRows.ofRows rows)
    (inside : index - 1 < rows.length) :
    problem.sortRow index = { problem with
      matrix := SparseRows.ofRows (rows.modify (index - 1) sortEntries) } := by
  have found : rows[index - 1]? = some rows[index - 1] := List.getElem?_eq_getElem inside
  have changed : rows.modify (index - 1) sortEntries
      = rows.set (index - 1) (sortEntries rows[index - 1]) := by
    rw [List.modify_eq_set, found]
    rfl
  rw [sortRow, row_of_rows laid, laid, SparseRows.replace_ofRows _ inside, found, changed,
    Option.getD_some]

theorem setRow_eq (laid : problem.matrix = SparseRows.ofRows rows)
    (inside : index - 1 < rows.length) (entries : List Entry) :
    problem.setRow index entries = { problem with
      matrix := SparseRows.ofRows (rows.set (index - 1) (sortEntries entries)) } := by
  rw [setRow, laid, SparseRows.replace_ofRows _ inside,
    sortRow_eq rfl (by rwa [List.length_set]), List.modify_eq_set, List.getElem?_set_self inside,
    List.set_set]
  rfl

/-- A row that is appended stands at the end, in order if that is asked for and known. -/
theorem appendRow_eq (laid : problem.matrix = SparseRows.ofRows rows) (entries : List Entry)
    (relation : Relation) (rhs : Float) (deferOrder : Bool) :
    problem.appendRow entries relation rhs deferOrder = { problem with
      rows := problem.rows ++ [{ relation, rhs }]
      matrix := SparseRows.ofRows (rows ++
        [if problem.sortedUpTo == rows.length && !deferOrder then sortEntries entries else entries])
      sortedUpTo := if problem.sortedUpTo == rows.length && !deferOrder then rows.length + 1
        else problem.sortedUpTo } := by
  have count : problem.rowCount = rows.length := by
    rw [rowCount, laid, SparseRows.count_ofRows]
  rw [appendRow, laid, SparseRows.push_ofRows, count]
  split
  · rw [sortRow_eq rfl (by rw [Nat.add_sub_cancel, List.length_append]; simp), Nat.add_sub_cancel,
      modify_append_cons]
  · rfl

theorem resize?_eq (laid : problem.matrix = SparseRows.ofRows rows) {rowCount columnCount : Nat}
    (enough : Storable rowCount columnCount) :
    problem.resize? rowCount columnCount = some { problem with
      columns := fit problem.columns columnCount
      rows := fit problem.rows rowCount
      matrix := SparseRows.ofRows ((rows.take rowCount).map (SparseRows.keep columnCount)
        ++ List.replicate (rowCount - rows.length) [])
      sortedUpTo := min problem.sortedUpTo rowCount } := by
  rw [resize?, if_pos enough, laid, SparseRows.resize_ofRows]

/-- Putting rows in order one after the other, from a place on. -/
theorem foldl_sortRow_eq (before after : List (List Entry))
    (laid : problem.matrix = SparseRows.ofRows (before ++ after)) :
    (List.range' (before.length + 1) after.length).foldl sortRow problem
      = { problem with matrix := SparseRows.ofRows (before ++ after.map sortEntries) } := by
  induction after generalizing before problem with
  | nil =>
    show problem = { problem with matrix := SparseRows.ofRows (before ++ []) }
    rw [← laid]
  | cons row rest hyp =>
    have inside : before.length + 1 - 1 < (before ++ row :: rest).length := by
      rw [Nat.add_sub_cancel, List.length_append, List.length_cons]
      omega
    have first := sortRow_eq laid inside
    rw [Nat.add_sub_cancel, modify_append_cons] at first
    have laid : (problem.sortRow (before.length + 1)).matrix
        = SparseRows.ofRows ((before ++ [sortEntries row]) ++ rest) := by
      rw [first, List.append_assoc]
      rfl
    have step := hyp _ laid
    rw [List.length_append, List.length_singleton] at step
    rw [List.length_cons, List.range'_succ, List.foldl_cons, step, first, List.append_assoc]
    rfl

/-- The rows before the mark are in order, so that putting the others in order does it for all. -/
theorem map_sortEntries_of_stored (stored : problem.WellStored)
    (laid : problem.matrix = SparseRows.ofRows rows) :
    rows.take problem.sortedUpTo ++ (rows.drop problem.sortedUpTo).map sortEntries
      = rows.map sortEntries := by
  have ordered := stored.ordered
  rw [laid, SparseRows.rows_ofRows] at ordered
  have front : (rows.take problem.sortedUpTo).map sortEntries = rows.take problem.sortedUpTo :=
    (List.map_congr_left fun row member => sortEntries_eq_self (ordered row member)).trans
      (List.map_id _)
  rw [← front, ← List.map_append, List.take_append_drop]

theorem normalize_eq (stored : problem.WellStored)
    (laid : problem.matrix = SparseRows.ofRows rows) :
    problem.normalize = { problem with
      matrix := SparseRows.ofRows (rows.map sortEntries), sortedUpTo := rows.length } := by
  have count : problem.rowCount = rows.length := by
    rw [rowCount, laid, SparseRows.count_ofRows]
  have le := stored.sortedUpTo_le
  have front : (rows.take problem.sortedUpTo).length = problem.sortedUpTo := by
    rw [List.length_take]
    omega
  have back : (rows.drop problem.sortedUpTo).length = rows.length - problem.sortedUpTo :=
    List.length_drop
  have sorted := foldl_sortRow_eq (rows.take problem.sortedUpTo)
    (rows.drop problem.sortedUpTo) (by rw [laid, List.take_append_drop])
  rw [front, back, map_sortEntries_of_stored stored laid] at sorted
  rw [normalize, count, sorted]

end Rows

end Problem

end LinearProgram
