/-
**The order in which entries are stored plays no part.**

Two problems that are stored well and stand for the same plain problem differ in nothing but the
order of entries and the mark up to which rows are known to be in order.

* `eq_of_increasing`: entries in order are determined by the coefficients of their columns.
* **`normalize_eq_of_plain`**: putting the rows in order makes such problems equal.
* `rows_eq_of_plain`, `rowCount_eq_of_plain`, `denseRow_eq_of_plain`, `coefficient_eq_of_plain`: what
  can be asked about them is equal as they are.
* `isNormalized_normalize`, `increasing_normalize`: what holds of a problem that was put in order.
-/

import LinearProgram.Proofs.Problem.Refinement

namespace LinearProgram

/-! ### Entries in order -/

theorem Increasing.distinct {entries : List Entry} (increasing : Increasing entries) :
    (entries.map (·.column)).Nodup :=
  increasing.imp Nat.ne_of_lt

/-- **Entries in order are determined by the coefficients of their columns.** -/
theorem eq_of_increasing {first second : List Entry} (ordered : Increasing first)
    (ordered' : Increasing second) (same : coefficient? first = coefficient? second) :
    first = second := by
  have members : ∀ entry, entry ∈ first ↔ entry ∈ second := by
    intro ⟨column, value⟩
    rw [← coefficient?_eq_some_iff ordered.distinct, ← coefficient?_eq_some_iff ordered'.distinct,
      same]
  have nodup {entries : List Entry} (increasing : Increasing entries) : entries.Nodup :=
    List.Pairwise.imp (fun less same => Nat.ne_of_lt less (congrArg Entry.column same))
      (List.pairwise_map.mp increasing)
  have perm := (List.perm_ext_iff_of_nodup (nodup ordered) (nodup ordered')).mpr members
  refine perm.eq_of_pairwise ?_ (List.pairwise_map.mp ordered) (List.pairwise_map.mp ordered')
  intro one other _ _ less more
  exact absurd less (Nat.lt_asymm more)

/-- Rows with the same coefficients by column are the same once they are in order. -/
theorem map_sortEntries_eq {first second : List (List Entry)}
    (same : first.map coefficient? = second.map coefficient?)
    (distinct : ∀ row ∈ first, (row.map (·.column)).Nodup)
    (distinct' : ∀ row ∈ second, (row.map (·.column)).Nodup) :
    first.map sortEntries = second.map sortEntries := by
  refine List.ext_getElem? fun place => ?_
  have here := congrArg (·[place]?) same
  simp only [List.getElem?_map] at here ⊢
  cases one : first[place]? with
  | none =>
    rw [one] at here
    rw [Option.map_eq_none_iff.mp here.symm]
  | some row =>
    rw [one] at here
    obtain ⟨row', other, equal⟩ := Option.map_eq_some_iff.mp here.symm
    have nodup := distinct row (List.mem_of_getElem? one)
    have nodup' := distinct' row' (List.mem_of_getElem? other)
    rw [other]
    refine congrArg some (eq_of_increasing (increasing_sortEntries nodup)
      (increasing_sortEntries nodup') ?_)
    rw [coefficient?_sortEntries nodup, coefficient?_sortEntries nodup', equal]

namespace Problem

theorem map_info_plainRows {infos : List Row} {rows : List (List Entry)}
    (length : infos.length = rows.length) : (plainRows infos rows).map (·.info) = infos := by
  rw [plainRows, List.map_zipWith]
  refine List.ext_getElem? fun place => ?_
  rw [List.getElem?_zipWith]
  by_cases inside : place < infos.length
  · simp [inside, length ▸ inside]
  · simp [Nat.le_of_not_lt inside]

theorem map_coefficients_plainRows {infos : List Row} {rows : List (List Entry)}
    (length : infos.length = rows.length) :
    (plainRows infos rows).map (·.coefficients) = rows.map coefficient? := by
  rw [plainRows, List.map_zipWith]
  refine List.ext_getElem? fun place => ?_
  rw [List.getElem?_zipWith, List.getElem?_map]
  by_cases inside : place < rows.length
  · simp [inside, length.symm ▸ inside]
  · simp [Nat.le_of_not_lt inside]

variable {first second : Problem}

/-! ### Problems that stand for the same plain problem -/

theorem columns_eq_of_plain (same : first.plain = second.plain) :
    first.columns = second.columns :=
  congrArg Plain.columns same

theorem column_eq_of_plain (same : first.plain = second.plain) (index : Nat) :
    first.column index = second.column index := by
  rw [column, columns_eq_of_plain same, column]

theorem columnCount_eq_of_plain (same : first.plain = second.plain) :
    first.columnCount = second.columnCount :=
  congrArg List.length (columns_eq_of_plain same)

theorem hasColumn_iff_of_plain (same : first.plain = second.plain) (index : Nat) :
    first.HasColumn index ↔ second.HasColumn index := by
  rw [HasColumn, columnCount_eq_of_plain same, HasColumn]

variable (stored : first.WellStored) (stored' : second.WellStored)
include stored stored'

theorem rows_eq_of_plain (same : first.plain = second.plain) : first.rows = second.rows := by
  obtain ⟨rows, laid, -, length, -, -⟩ := stored.exists_rows
  obtain ⟨rows', laid', -, length', -, -⟩ := stored'.exists_rows
  have plain := congrArg (fun plain : Plain => plain.rows.map (·.info)) same
  rw [plain_of_rows laid, plain_of_rows laid'] at plain
  dsimp only at plain
  rw [map_info_plainRows length, map_info_plainRows length'] at plain
  exact plain

theorem rowInfo_eq_of_plain (same : first.plain = second.plain) (index : Nat) :
    first.rowInfo index = second.rowInfo index := by
  rw [rowInfo, rows_eq_of_plain stored stored' same, rowInfo]

theorem rowCount_eq_of_plain (same : first.plain = second.plain) :
    first.rowCount = second.rowCount := by
  rw [← length_plain_rows stored, same, length_plain_rows stored']

theorem hasRow_iff_of_plain (same : first.plain = second.plain) (index : Nat) :
    first.HasRow index ↔ second.HasRow index := by
  rw [HasRow, rowCount_eq_of_plain stored stored' same, HasRow]

theorem coefficient_eq_of_plain (same : first.plain = second.plain) {row : Nat}
    (has : first.HasRow row) (column : Nat) :
    first.coefficient row column = second.coefficient row column := by
  have has' := (hasRow_iff_of_plain stored stored' same row).mp has
  rw [coefficient_eq_plain stored has, same, coefficient_eq_plain stored' has']

/-- **Putting the rows in order makes them equal.** -/
theorem normalize_eq_of_plain (same : first.plain = second.plain) :
    first.normalize = second.normalize := by
  have infos := rows_eq_of_plain stored stored' same
  obtain ⟨rows, laid, -, length, fits, -⟩ := stored.exists_rows
  obtain ⟨rows', laid', -, length', fits', -⟩ := stored'.exists_rows
  rw [normalize_eq stored laid, normalize_eq stored' laid']
  rw [plain_of_rows laid, plain_of_rows laid'] at same
  injection same with name maximize constant columns plain
  have coefficients := congrArg (List.map (·.coefficients)) plain
  rw [map_coefficients_plainRows length, map_coefficients_plainRows length'] at coefficients
  have sorted := map_sortEntries_eq coefficients (fun row member => (fits row member).distinct)
    fun row member => (fits' row member).distinct
  have count : rows.length = rows'.length := by rw [← length, infos, length']
  simp only [name, maximize, constant, columns, infos, sorted, count]

end Problem

namespace Problem

variable {problem : Problem}

/-! ### Rows in order -/

theorem isNormalized_normalize (stored : problem.WellStored) :
    problem.normalize.isNormalized = true := by
  obtain ⟨rows, laid, -, -, -, -⟩ := stored.exists_rows
  rw [normalize_eq stored laid, isNormalized, rowCount]
  simp

theorem increasing_normalize (stored : problem.WellStored) :
    ∀ row ∈ problem.normalize.matrix.rows, Increasing row := by
  obtain ⟨rows, laid, -, -, fits, -⟩ := stored.exists_rows
  rw [normalize_eq stored laid]
  intro row member
  rw [SparseRows.rows_ofRows] at member
  obtain ⟨entries, there, rfl⟩ := List.mem_map.mp member
  exact increasing_sortEntries (fits entries there).distinct

theorem normalize_normalize (stored : problem.WellStored) :
    problem.normalize.normalize = problem.normalize :=
  normalize_eq_of_plain stored.normalize stored (plain_normalize stored)

theorem length_denseRow (problem : Problem) (row : Nat) :
    (problem.denseRow row).length = problem.columnCount := by
  have sets (entries : List Entry) (values : List Float) :
      (entries.foldl (fun values entry => values.set (entry.column - 1) entry.coefficient)
        values).length = values.length := by
    induction entries generalizing values with
    | nil => rfl
    | cons entry rest hyp => exact (hyp _).trans List.length_set
  rw [denseRow, sets, List.length_replicate]

/-- **A dense row is determined by the coefficients by column.** -/
theorem denseRow_eq_of_plain {first second : Problem} (stored : first.WellStored)
    (stored' : second.WellStored) (same : first.plain = second.plain) {row : Nat}
    (has : first.HasRow row) : first.denseRow row = second.denseRow row := by
  have columns := columnCount_eq_of_plain same
  refine List.ext_getElem? fun place => ?_
  by_cases inside : place < first.columnCount
  · have hasColumn : first.HasColumn (place + 1) := ⟨by omega, by omega⟩
    have one := getElem?_denseRow stored row hasColumn
    have other := getElem?_denseRow stored' row ((hasColumn_iff_of_plain same _).mp hasColumn)
    rw [Nat.add_sub_cancel] at one other
    rw [one, other, coefficient_eq_of_plain stored stored' same has]
  · rw [List.getElem?_eq_none, List.getElem?_eq_none]
    · rw [length_denseRow]
      omega
    · rw [length_denseRow]
      omega

end Problem

end LinearProgram
