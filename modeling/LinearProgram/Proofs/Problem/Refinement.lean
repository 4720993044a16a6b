/-
**The sparse store refines plain problems.**

* `plain_modifyRow`, `plain_setRow`, `plain_appendRow`, `plain_resize?`, `plain_normalize`,
  `plain_sortRow`: what the operations on the store do to the plain problem.
* **`plain_apply`**: one operation on the store is the operation on the plain problem.
* `coefficient_eq_plain`, `getElem?_denseRow`: what is read of the coefficients.
* **`refines_plain`**: all of this together, and what it means for single coefficients.
-/

import LinearProgram.Proofs.Decimal.Same
import LinearProgram.Proofs.Problem.Plain

namespace LinearProgram.Problem

variable {problem : Problem}

/-! ### Two lists side by side -/

section Lists

variable {α β γ : Type} (combine : α → β → γ)

theorem zipWith_modify_left (first : List α) (second : List β) (place : Nat) (change : α → α)
    (changed : γ → γ) (same : ∀ a b, combine (change a) b = changed (combine a b)) :
    List.zipWith combine (first.modify place change) second
      = (List.zipWith combine first second).modify place changed := by
  refine List.ext_getElem? fun index => ?_
  rw [List.getElem?_zipWith, List.getElem?_modify, List.getElem?_modify, List.getElem?_zipWith]
  by_cases here : place = index
  · cases first[index]? <;> cases second[index]? <;> simp [here, same]
  · cases first[index]? <;> cases second[index]? <;> simp [here]

theorem zipWith_set_right (first : List α) (second : List β) (place : Nat) (item : β)
    (changed : γ → γ) (same : ∀ a b, combine a item = changed (combine a b)) :
    List.zipWith combine first (second.set place item)
      = (List.zipWith combine first second).modify place changed := by
  refine List.ext_getElem? fun index => ?_
  rw [List.getElem?_zipWith, List.getElem?_modify, List.getElem?_set, List.getElem?_zipWith]
  by_cases here : place = index
  · subst here
    by_cases inside : place < second.length
    · rw [List.getElem?_eq_getElem inside]
      cases first[place]? <;> simp [inside, same _ second[place]]
    · rw [List.getElem?_eq_none (Nat.le_of_not_lt inside)]
      cases first[place]? <;> simp [inside]
  · cases first[index]? <;> cases second[index]? <;> simp [here]

/-- A change that may be refused, of the item at a place. -/
theorem modify_getD [Inhabited α] (items : List α) (place : Nat) (change : α → Option α) :
    items.modify place (fun item => (change item).getD item)
      = ((change ((items[place]?).getD default)).map fun item =>
          items.modify place fun _ => item).getD items := by
  cases changed : change ((items[place]?).getD default) with
  | some item =>
    rw [List.modify_eq_set, changed, Option.map_some, Option.getD_some, List.modify_eq_set]
    rfl
  | none =>
    rw [List.modify_eq_set, changed, Option.map_none, Option.getD_none, Option.getD_none]
    by_cases inside : place < items.length
    · rw [List.getElem?_eq_getElem inside, Option.getD_some, List.set_getElem_self]
    · exact List.set_eq_of_length_le (Nat.le_of_not_lt inside)

/-- Setting an item for every entry, one after the other, sets each place once. -/
theorem getElem?_foldl_modify (set : α → Float → α) (items : List α) {entries : List Entry}
    (distinct : (entries.map (·.column)).Nodup) (positive : ∀ entry ∈ entries, 1 ≤ entry.column)
    (place : Nat) :
    (entries.foldl (fun items entry =>
        items.modify (entry.column - 1) (set · entry.coefficient)) items)[place]?
      = items[place]?.map fun item =>
          ((coefficient? entries (place + 1)).map (set item)).getD item := by
  induction entries generalizing items with
  | nil =>
    rw [List.foldl_nil]
    exact Option.map_id'.symm
  | cons entry rest hyp =>
    obtain ⟨fresh, others⟩ := List.nodup_cons.mp distinct
    have low := positive entry List.mem_cons_self
    have step := hyp (items.modify (entry.column - 1) (set · entry.coefficient)) others
      fun other member => positive other (List.mem_cons_of_mem _ member)
    rw [List.foldl_cons, step, List.getElem?_modify]
    by_cases here : entry.column = place + 1
    · have absent : coefficient? rest (place + 1) = none := by
        rw [coefficient?, List.find?_eq_none.mpr, Option.map_none]
        intro other member same
        rw [← here] at same
        exact fresh (List.mem_map.mpr ⟨other, member, beq_iff_eq.mp same⟩)
      have found : coefficient? (entry :: rest) (place + 1) = some entry.coefficient := by
        rw [coefficient?, List.find?_cons, beq_iff_eq.mpr here]
        rfl
      rw [absent, found, here, Nat.add_sub_cancel]
      cases items[place]? with
      | none => rfl
      | some item => simp
    · have passed : coefficient? (entry :: rest) (place + 1) = coefficient? rest (place + 1) := by
        rw [coefficient?, List.find?_cons, beq_eq_false_iff_ne.mpr here]
        rfl
      have elsewhere : entry.column - 1 ≠ place := by omega
      rw [passed]
      cases items[place]? with
      | none => rfl
      | some item => simp [elsewhere]

/-- Items that are cleared first and then set for every entry. -/
theorem foldl_modify_clear (set : α → Float → α)
    (overwrites : ∀ item first second, set (set item first) second = set item second)
    (items : List α) {entries : List Entry} (distinct : (entries.map (·.column)).Nodup)
    (positive : ∀ entry ∈ entries, 1 ≤ entry.column) :
    entries.foldl (fun items entry =>
        items.modify (entry.column - 1) (set · entry.coefficient)) (items.map (set · 0))
      = items.mapIdx fun place item => set item ((coefficient? entries (place + 1)).getD 0) := by
  refine List.ext_getElem? fun place => ?_
  rw [getElem?_foldl_modify set _ distinct positive, List.getElem?_map, List.getElem?_mapIdx]
  cases items[place]? with
  | none => rfl
  | some item =>
    cases coefficient? entries (place + 1) with
    | none => rfl
    | some value => exact congrArg some (overwrites item 0 value)

end Lists

/-! ### The plain problem of rows that are laid end to end -/

section Rows

variable {rows : List (List Entry)} {index : Nat}

/-- The plain rows of rows. -/
def plainRows (infos : List Row) (rows : List (List Entry)) : List PlainRow :=
  List.zipWith (fun info entries => ⟨info, coefficient? entries⟩) infos rows

theorem plain_of_rows (laid : problem.matrix = SparseRows.ofRows rows) :
    problem.plain = ⟨problem.name, problem.maximize, problem.constant, problem.columns,
      plainRows problem.rows rows⟩ := by
  rw [plain, laid, SparseRows.rows_ofRows, plainRows]

/-- Rows with the same coefficients by column stand for the same plain rows. -/
theorem plainRows_congr (infos : List Row) {first second : List (List Entry)}
    (same : first.map coefficient? = second.map coefficient?) :
    plainRows infos first = plainRows infos second := by
  have mapped (rows : List (List Entry)) : plainRows infos rows
      = List.zipWith (fun info coefficients => ⟨info, coefficients⟩) infos
          (rows.map coefficient?) := by
    rw [List.zipWith_map_right, plainRows]
  rw [mapped, mapped, same]

theorem plain_modifyRow (problem : Problem) (index : Nat) (change : Row → Row) :
    (problem.modifyRow index change).plain = problem.plain.modifyInfo index change := by
  have rows := zipWith_modify_left (fun info entries => (⟨info, coefficient? entries⟩ : PlainRow))
    problem.rows problem.matrix.rows (index - 1) change
    (fun row => { row with info := change row.info }) (fun _ _ => rfl)
  rw [Plain.modifyInfo, Plain.modifyRow, plain, modifyRow]
  rw [plain, rows]

theorem plain_setRow (stored : problem.WellStored) (has : problem.HasRow index)
    {entries : List Entry} (distinct : (entries.map (·.column)).Nodup) :
    (problem.setRow index entries).plain
      = problem.plain.modifyRow index ({ · with coefficients := coefficient? entries }) := by
  obtain ⟨rows, laid, count, length, -, -⟩ := stored.exists_rows
  have replaced := zipWith_set_right
    (fun info entries => (⟨info, coefficient? entries⟩ : PlainRow)) problem.rows rows (index - 1)
    (sortEntries entries) ({ · with coefficients := coefficient? entries })
    (fun _ _ => by rw [coefficient?_sortEntries distinct])
  rw [setRow_eq laid (has.inside count), plain_of_rows rfl, plain_of_rows laid, Plain.modifyRow,
    plainRows, replaced, plainRows]

/-- What a plain row has is what the stored one has. -/
theorem getElem?_plain_rows (stored : problem.WellStored) (has : problem.HasRow index) :
    problem.plain.rows[index - 1]?
      = some ⟨problem.rowInfo index, coefficient? (problem.row index)⟩ := by
  obtain ⟨rows, laid, count, length, -, -⟩ := stored.exists_rows
  have inside := has.inside count
  have info : index - 1 < problem.rows.length := by rwa [length]
  rw [plain_of_rows laid, plainRows, List.getElem?_zipWith, row_of_rows laid, rowInfo,
    List.getElem?_eq_getElem inside, List.getElem?_eq_getElem info]
  rfl

theorem plain_setCoefficient (stored : problem.WellStored) (has : problem.HasRow index)
    {column : Nat} (hasColumn : problem.HasColumn column) (value : Float) :
    (problem.setCoefficient index column value).plain
      = problem.plain.modifyRow index fun row => { row with
          coefficients := Function.update row.coefficients column
            (if value != 0 then some value else none) } := by
  have fit := (stored.row_fit index).setCoefficient value hasColumn.1 hasColumn.2
  rw [setCoefficient, plain_setRow stored has fit.distinct, coefficient?_setCoefficient,
    Plain.modifyRow, Plain.modifyRow]
  refine congrArg (fun rows => ({ problem.plain with rows } : Plain)) ?_
  rw [List.modify_eq_set, List.modify_eq_set, getElem?_plain_rows stored has]
  rfl

theorem plain_sortRow (stored : problem.WellStored) (has : problem.HasRow index) :
    (problem.sortRow index).plain = problem.plain := by
  obtain ⟨rows, laid, count, length, fits, -⟩ := stored.exists_rows
  have inside := has.inside count
  rw [sortRow_eq laid inside, plain_of_rows rfl, plain_of_rows laid]
  refine congrArg (Plain.mk _ _ _ _) (plainRows_congr _ (List.ext_getElem? fun place => ?_))
  rw [List.getElem?_map, List.getElem?_map, List.getElem?_modify]
  cases found : rows[place]? with
  | none => rfl
  | some row =>
    have same := coefficient?_sortEntries (fits row (List.mem_of_getElem? found)).distinct
    by_cases here : index - 1 = place
    · simp [here, same]
    · simp [here]

theorem plain_normalize (stored : problem.WellStored) :
    problem.normalize.plain = problem.plain := by
  obtain ⟨rows, laid, count, length, fits, -⟩ := stored.exists_rows
  rw [normalize_eq stored laid, plain_of_rows rfl, plain_of_rows laid]
  refine congrArg (Plain.mk _ _ _ _) (plainRows_congr _ ?_)
  rw [List.map_map]
  exact List.map_congr_left fun row member => coefficient?_sortEntries (fits row member).distinct

theorem plain_appendRow (stored : problem.WellStored) {entries : List Entry}
    (distinct : (entries.map (·.column)).Nodup) (relation : Relation) (rhs : Float)
    (deferOrder : Bool) :
    (problem.appendRow entries relation rhs deferOrder).plain = { problem.plain with
      rows := problem.plain.rows ++ [⟨{ relation, rhs }, coefficient? entries⟩] } := by
  obtain ⟨rows, laid, count, length, -, -⟩ := stored.exists_rows
  have last : coefficient?
      (if problem.sortedUpTo == rows.length && !deferOrder then sortEntries entries else entries)
        = coefficient? entries := by
    split
    · exact coefficient?_sortEntries distinct
    · rfl
  rw [appendRow_eq laid, plain_of_rows rfl, plain_of_rows laid, plainRows,
    List.zipWith_append length]
  refine congrArg (fun row => Plain.mk _ _ _ _ (_ ++ [PlainRow.mk _ row])) last

/-- Fitting the rows of a plain problem fits what they are made of. -/
theorem plainRows_resize (infos : List Row) (rows : List (List Entry))
    (length : infos.length = rows.length) (rowCount columnCount : Nat) :
    plainRows (fit infos rowCount) ((rows.take rowCount).map (SparseRows.keep columnCount)
        ++ List.replicate (rowCount - rows.length) [])
      = fit ((plainRows infos rows).map fun row =>
          { row with coefficients := Plain.upTo columnCount row.coefficients }) rowCount := by
  have count : (plainRows infos rows).length = rows.length := by
    rw [plainRows, List.length_zipWith, length, Nat.min_self]
  have front : plainRows (infos.take rowCount)
      ((rows.take rowCount).map (SparseRows.keep columnCount))
        = ((plainRows infos rows).map fun row =>
            { row with coefficients := Plain.upTo columnCount row.coefficients }).take rowCount := by
    rw [plainRows, plainRows, List.zipWith_map_right, List.map_zipWith, List.take_zipWith]
    refine congrArg (List.zipWith · _ _) (funext fun info => funext fun entries => ?_)
    rw [coefficient?_keep]
  have back : plainRows (List.replicate (rowCount - rows.length) default)
      (List.replicate (rowCount - rows.length) [])
        = List.replicate (rowCount - rows.length) default := by
    rw [plainRows, List.zipWith_replicate, Nat.min_self]
    rfl
  rw [fit, fit, List.length_map, count, length, ← front, ← back, plainRows, plainRows, plainRows,
    List.zipWith_append]
  rw [List.length_take, List.length_map, List.length_take, length]

theorem plain_resize? (stored : problem.WellStored) {rowCount columnCount : Nat}
    {resized : Problem} (fits : problem.resize? rowCount columnCount = some resized) :
    resized.plain = problem.plain.resize rowCount columnCount := by
  obtain ⟨rows, laid, count, length, -, -⟩ := stored.exists_rows
  have enough := enough_of_resize? fits
  rw [resize?_eq laid enough] at fits
  obtain rfl := Option.some.inj fits
  rw [plain_of_rows rfl, plain_of_rows laid, Plain.resize]
  exact congrArg (Plain.mk _ _ _ _) (plainRows_resize problem.rows rows length _ _)

end Rows

/-! ### Operations -/

theorem foldl_setObjective_eq (problem : Problem) (entries : List Entry) :
    entries.foldl (fun problem entry => problem.setObjective entry.column entry.coefficient) problem
      = { problem with
          columns := entries.foldl (fun columns entry => columns.modify (entry.column - 1)
            ({ · with objective := entry.coefficient })) problem.columns } := by
  induction entries generalizing problem with
  | nil => rfl
  | cons entry rest hyp => exact hyp _

theorem foldl_setRhs_eq (problem : Problem) (entries : List Entry) :
    entries.foldl (fun problem entry => problem.setRhs entry.column entry.coefficient) problem
      = { problem with
          rows := entries.foldl (fun rows entry => rows.modify (entry.column - 1)
            ({ · with rhs := entry.coefficient })) problem.rows } := by
  induction entries generalizing problem with
  | nil => rfl
  | cons entry rest hyp => exact hyp _

theorem plain_setObjectiveRow {entries : List Entry}
    (fit : FitEntries problem.columnCount entries) :
    (problem.setObjectiveRow entries).plain
      = problem.plain.apply (.setObjectiveRow entries) := by
  have columns := foldl_modify_clear (fun column value => { column with objective := value })
    (fun _ _ _ => rfl) problem.columns fit.distinct fun entry member => (fit.within entry member).1
  rw [setObjectiveRow, foldl_setObjective_eq]
  exact congrArg (fun columns => ({ problem.plain with columns } : Plain)) columns

theorem plain_setRhsVector {entries : List Entry} (fit : FitEntries problem.rowCount entries) :
    (problem.setRhsVector entries).plain = problem.plain.apply (.setRhsVector entries) := by
  have rows := foldl_modify_clear (fun row value => { row with rhs := value })
    (fun _ _ _ => rfl) problem.rows fit.distinct fun entry member => (fit.within entry member).1
  have mapped : List.zipWith (fun info entries => (⟨info, coefficient? entries⟩ : PlainRow))
      (problem.rows.mapIdx fun place row =>
        { row with rhs := (coefficient? entries (place + 1)).getD 0 }) problem.matrix.rows
        = problem.plain.rows.mapIdx fun place row =>
          { row with info := { row.info with
              rhs := (coefficient? entries (place + 1)).getD 0 } } := by
    refine List.ext_getElem? fun place => ?_
    rw [List.getElem?_zipWith, List.getElem?_mapIdx, List.getElem?_mapIdx, plain,
      List.getElem?_zipWith]
    cases problem.rows[place]? <;> cases problem.matrix.rows[place]? <;> rfl
  rw [setRhsVector, foldl_setRhs_eq]
  refine congrArg (fun rows => ({ problem.plain with rows } : Plain)) ?_
  exact (congrArg (List.zipWith _ · problem.matrix.rows) rows).trans mapped

theorem plain_setBounds? (problem : Problem) (index : Nat) (bounds : Column → Float × Float) :
    ((problem.setBounds? index (bounds (problem.column index)).1
        (bounds (problem.column index)).2).getD problem).plain
      = problem.plain.setBounds index bounds := by
  have changed := modify_getD problem.columns (index - 1) fun column =>
    column.setBounds? (bounds column).1 (bounds column).2
  rw [Plain.setBounds, Plain.modifyColumn, show problem.plain.columns = problem.columns from rfl,
    changed, setBounds?, column]
  cases ((problem.columns[index - 1]?).getD default).setBounds?
      (bounds ((problem.columns[index - 1]?).getD default)).1
      (bounds ((problem.columns[index - 1]?).getD default)).2 with
  | none => rfl
  | some column => rfl

theorem plain_setRange? (problem : Problem) (index : Nat) (range : Float) :
    ((problem.setRange? index range).getD problem).plain
      = problem.plain.modifyInfo index fun info => (info.setRange? range).getD info := by
  rw [← plain_modifyRow, modifyRow, modify_getD problem.rows (index - 1) (·.setRange? range),
    setRange?, rowInfo]
  cases ((problem.rows[index - 1]?).getD default).setRange? range with
  | none => rfl
  | some row => rfl

/-- **An operation on the store is the operation on the plain problem.** -/
theorem plain_apply (stored : problem.WellStored) {operation : Operation}
    (fits : operation.Fits problem) :
    (operation.apply problem).plain = problem.plain.apply operation := by
  cases operation with
  | resize rows columns =>
    rw [Operation.apply, Plain.apply]
    cases resized : problem.resize? rows columns with
    | none =>
      have short : ¬ Storable rows columns := fun enough => by
        rw [resize?, if_pos enough] at resized
        exact absurd resized nofun
      rw [if_neg short]
      rfl
    | some result =>
      rw [if_pos (enough_of_resize? resized)]
      exact plain_resize? stored resized
  | addColumn | setName | setMaximize | setConstant => rfl
  | setObjective | forceBounds | setInteger | setBinary | setColumnName => rfl
  | setObjectiveRow entries => exact plain_setObjectiveRow fits
  | appendRow entries relation rhs deferOrder =>
    exact plain_appendRow stored fits.distinct relation rhs deferOrder
  | setRow row entries => exact plain_setRow stored fits.1 fits.2.distinct
  | setCoefficient row column value => exact plain_setCoefficient stored fits.1 fits.2 value
  | normalize => exact plain_normalize stored
  | setRelation | setRhs | setRowName => exact plain_modifyRow problem _ _
  | setRhsVector entries => exact plain_setRhsVector fits
  | setRange row range => exact plain_setRange? problem row range
  | setBounds column lower upper => exact plain_setBounds? problem column fun _ => (lower, upper)
  | setLower column lower =>
    exact plain_setBounds? problem column fun column => (lower, column.upper)
  | setUpper column upper =>
    exact plain_setBounds? problem column fun column => (column.lower, upper)

/-! ### Reading coefficients -/

theorem coefficient_eq_plain (stored : problem.WellStored) {row : Nat}
    (has : problem.HasRow row) (column : Nat) :
    problem.coefficient row column = problem.plain.coefficient row column := by
  rw [Plain.coefficient, getElem?_plain_rows stored has]
  rfl

/-- **A dense row holds the coefficients of the row.** -/
theorem getElem?_denseRow (stored : problem.WellStored) (row : Nat) {column : Nat}
    (has : problem.HasColumn column) :
    (problem.denseRow row)[column - 1]? = some (problem.coefficient row column) := by
  have fit := stored.row_fit row
  have values := getElem?_foldl_modify (fun _ value => value)
    (List.replicate problem.columnCount (0 : Float)) fit.distinct
    (fun entry member => (fit.within entry member).1) (column - 1)
  obtain ⟨low, high⟩ := has
  have sets : (fun (values : List Float) (entry : Entry) =>
        values.set (entry.column - 1) entry.coefficient)
      = fun values entry => values.modify (entry.column - 1) fun _ => entry.coefficient := by
    funext values entry
    exact (List.modify_eq_set (fun _ : Float => entry.coefficient) _ _).symm
  rw [denseRow, sets, values, List.getElem?_replicate, if_pos (by omega), Nat.sub_add_cancel low]
  show some (((coefficient? (problem.row row) column).map fun value => value).getD 0) = _
  rw [Option.map_id']
  rfl

theorem length_plain_rows (stored : problem.WellStored) :
    problem.plain.rows.length = problem.rowCount := by
  rw [plain, List.length_zipWith, length_matrix_rows, stored.rows_length_eq, Nat.min_self]

theorem rowCount_setCoefficient (stored : problem.WellStored) {row column : Nat}
    (hasRow : problem.HasRow row) (hasColumn : problem.HasColumn column) (value : Float) :
    (problem.setCoefficient row column value).rowCount = problem.rowCount := by
  rw [← length_plain_rows (stored.setCoefficient value hasRow hasColumn),
    plain_setCoefficient stored hasRow hasColumn, Plain.modifyRow, List.length_modify,
    length_plain_rows stored]

/-- **What is read of a coefficient that was set.** -/
theorem coefficient_setCoefficient (stored : problem.WellStored) {row column : Nat}
    (hasRow : problem.HasRow row) (hasColumn : problem.HasColumn column) (value : Float) :
    Same ((problem.setCoefficient row column value).coefficient row column) value := by
  have has : (problem.setCoefficient row column value).HasRow row :=
    ⟨hasRow.1, Nat.le_trans hasRow.2
      (Nat.le_of_eq (rowCount_setCoefficient stored hasRow hasColumn value).symm)⟩
  rw [coefficient_eq_plain (stored.setCoefficient value hasRow hasColumn) has,
    plain_setCoefficient stored hasRow hasColumn, Plain.coefficient, Plain.modifyRow]
  dsimp only
  rw [List.getElem?_modify_eq, getElem?_plain_rows stored hasRow]
  show Same ((Function.update (coefficient? (problem.row row)) column _ column).getD 0) value
  rw [Function.update_self]
  split
  · exact .refl value
  next isZero => exact .of_not_ne isZero

/-! ### Dimensions -/

theorem getElem?_fit {α : Type} [Inhabited α] (items : List α) {length place : Nat}
    (inside : place < length) :
    (fit items length)[place]? = some ((items[place]?).getD default) := by
  rw [fit]
  by_cases old : place < items.length
  · rw [List.getElem?_append_left (by rw [List.length_take]; omega), List.getElem?_take,
      if_pos inside, List.getElem?_eq_getElem old, Option.getD_some]
  · have past := Nat.le_of_not_lt old
    rw [List.getElem?_append_right (by rw [List.length_take]; omega), List.length_take,
      Nat.min_eq_right (by omega), List.getElem?_replicate, if_pos (by omega),
      List.getElem?_eq_none past, Option.getD_none]

theorem rowCount_resize? (stored : problem.WellStored) {rowCount columnCount : Nat}
    {resized : Problem} (fits : problem.resize? rowCount columnCount = some resized) :
    resized.rowCount = rowCount := by
  rw [← length_plain_rows (stored.resize? fits), plain_resize? stored fits]
  exact length_fit _ _

theorem columns_resize? {rowCount columnCount : Nat} {resized : Problem}
    (fits : problem.resize? rowCount columnCount = some resized) :
    resized.columns = fit problem.columns columnCount
      ∧ resized.rows = fit problem.rows rowCount := by
  rw [resize?, if_pos (enough_of_resize? fits)] at fits
  obtain rfl := Option.some.inj fits
  exact ⟨rfl, rfl⟩

theorem columnCount_resize? {rowCount columnCount : Nat} {resized : Problem}
    (fits : problem.resize? rowCount columnCount = some resized) :
    resized.columnCount = columnCount := by
  show resized.columns.length = columnCount
  rw [(columns_resize? fits).1, length_fit]

/-- A row and a column of the new dimensions are those of the old problem, which has default ones
outside its dimensions. -/
theorem resize?_attributes {rowCount columnCount : Nat} {resized : Problem}
    (fits : problem.resize? rowCount columnCount = some resized) :
    (∀ row, 1 ≤ row → row ≤ rowCount → resized.rowInfo row = problem.rowInfo row)
      ∧ ∀ column, 1 ≤ column → column ≤ columnCount →
        resized.column column = problem.column column := by
  obtain ⟨columns, rows⟩ := columns_resize? fits
  constructor
  · intro row low high
    rw [rowInfo, rows, getElem?_fit _ (by omega)]
    rfl
  · intro column low high
    rw [Problem.column, columns, getElem?_fit _ (by omega)]
    rfl

theorem resize?_coefficient (stored : problem.WellStored) {rowCount columnCount : Nat}
    {resized : Problem} (fits : problem.resize? rowCount columnCount = some resized)
    {row column : Nat} (has : resized.HasRow row) (hasColumn : resized.HasColumn column) :
    resized.coefficient row column = problem.plain.coefficient row column := by
  have rows := rowCount_resize? stored fits
  have columns := columnCount_resize? fits
  obtain ⟨low, high⟩ := has
  have within : column ≤ columnCount := columns ▸ hasColumn.2
  rw [coefficient_eq_plain (stored.resize? fits) ⟨low, high⟩, plain_resize? stored fits,
    Plain.coefficient, Plain.resize]
  dsimp only
  rw [getElem?_fit _ (by omega), List.getElem?_map, Plain.coefficient]
  cases problem.plain.rows[row - 1]? with
  | none => rfl
  | some old =>
    show (Plain.upTo columnCount old.coefficients column).getD 0 = _
    rw [Plain.upTo, if_pos within]
    rfl

theorem rowInfo_of_not_hasRow (stored : problem.WellStored) {row : Nat} (low : 1 ≤ row)
    (absent : ¬ problem.HasRow row) : problem.rowInfo row = {} := by
  have past : problem.rows.length ≤ row - 1 := by
    rw [stored.rows_length_eq]
    rw [HasRow] at absent
    omega
  rw [rowInfo, List.getElem?_eq_none past]
  rfl

theorem column_of_not_hasColumn {column : Nat} (low : 1 ≤ column)
    (absent : ¬ problem.HasColumn column) : problem.column column = {} := by
  have past : problem.columns.length ≤ column - 1 := by
    rw [HasColumn, columnCount] at absent
    omega
  rw [Problem.column, List.getElem?_eq_none past]
  rfl

theorem plain_coefficient_of_absent (stored : problem.WellStored) {row column : Nat}
    (low : 1 ≤ row)
    (absent : ¬ (problem.HasRow row ∧ problem.HasColumn column)) :
    problem.plain.coefficient row column = 0 := by
  by_cases has : problem.HasRow row
  · rw [← coefficient_eq_plain stored has, coefficient, List.find?_eq_none.mpr]
    · rfl
    · intro entry member same
      have within := (stored.row_fit row).within entry member
      rw [beq_iff_eq.mp same] at within
      exact absent ⟨has, within⟩
  · have past : problem.plain.rows.length ≤ row - 1 := by
      rw [length_plain_rows stored]
      rw [HasRow] at has
      omega
    rw [Plain.coefficient, List.getElem?_eq_none past]
    rfl

/-- **What exact dimensions do to a problem.** Rows, columns and coefficients within the old and the
new dimensions stay; the other rows are empty and read `≤ 0`, and the other columns are default. -/
structure ResizedTo (old : Problem) (rowCount columnCount : Nat) (new : Problem) : Prop where
  rowCount_eq : new.rowCount = rowCount
  columnCount_eq : new.columnCount = columnCount
  row_kept : ∀ row, old.HasRow row → new.HasRow row → new.rowInfo row = old.rowInfo row
  row_new : ∀ row, ¬ old.HasRow row → new.HasRow row → new.rowInfo row = { relation := .atMost }
  column_kept : ∀ column, old.HasColumn column → new.HasColumn column →
    new.column column = old.column column
  column_new : ∀ column, ¬ old.HasColumn column → new.HasColumn column → new.column column = {}
  coefficient_kept : ∀ row column, old.HasRow row → old.HasColumn column → new.HasRow row →
    new.HasColumn column → new.coefficient row column = old.coefficient row column
  coefficient_new : ∀ row column, ¬ (old.HasRow row ∧ old.HasColumn column) → new.HasRow row →
    new.HasColumn column → new.coefficient row column = 0
  others : new.name = old.name ∧ new.maximize = old.maximize ∧ new.constant = old.constant

theorem resizedTo (stored : problem.WellStored) {rowCount columnCount : Nat} {resized : Problem}
    (fits : problem.resize? rowCount columnCount = some resized) :
    ResizedTo problem rowCount columnCount resized := by
  have rows := rowCount_resize? stored fits
  have columns := columnCount_resize? fits
  obtain ⟨row_same, column_same⟩ := resize?_attributes fits
  constructor
  case rowCount_eq => exact rows
  case columnCount_eq => exact columns
  case row_kept => exact fun row _ has => row_same row has.1 (rows ▸ has.2)
  case row_new =>
    intro row absent has
    rw [row_same row has.1 (rows ▸ has.2), rowInfo_of_not_hasRow stored has.1 absent]
  case column_kept => exact fun column _ has => column_same column has.1 (columns ▸ has.2)
  case column_new =>
    intro column absent has
    rw [column_same column has.1 (columns ▸ has.2), column_of_not_hasColumn has.1 absent]
  case coefficient_kept =>
    intro row column hadRow _ hasRow hasColumn
    rw [resize?_coefficient stored fits hasRow hasColumn, coefficient_eq_plain stored hadRow]
  case coefficient_new =>
    intro row column absent hasRow hasColumn
    rw [resize?_coefficient stored fits hasRow hasColumn]
    exact plain_coefficient_of_absent stored hasRow.1 absent
  case others =>
    rw [resize?, if_pos (enough_of_resize? fits)] at fits
    obtain rfl := Option.some.inj fits
    exact ⟨rfl, rfl, rfl⟩

/-- **The sparse store refines plain problems.** Every operation does to the plain problem what the
operation on plain problems says; putting rows in order does nothing to it; a coefficient that was
set is read back; exact dimensions keep what is within both; and a dense row holds the coefficients
of its row. -/
theorem refines_plain (stored : problem.WellStored) :
    (∀ operation : Operation, operation.Fits problem →
        (operation.apply problem).plain = problem.plain.apply operation)
      ∧ problem.normalize.plain = problem.plain
      ∧ (∀ row, problem.HasRow row → (problem.sortRow row).plain = problem.plain)
      ∧ (∀ row column value, problem.HasRow row → problem.HasColumn column →
          Same ((problem.setCoefficient row column value).coefficient row column) value)
      ∧ (∀ rowCount columnCount resized, problem.resize? rowCount columnCount = some resized →
          ResizedTo problem rowCount columnCount resized)
      ∧ (∀ row column, problem.HasRow row →
          problem.coefficient row column = problem.plain.coefficient row column)
      ∧ ∀ row column, problem.HasRow row → problem.HasColumn column →
          (problem.denseRow row)[column - 1]? = some (problem.coefficient row column) := by
  refine ⟨fun operation fits => plain_apply stored fits, plain_normalize stored,
    fun row has => plain_sortRow stored has, ?_, ?_, ?_, ?_⟩
  · exact fun row column value hasRow hasColumn =>
      coefficient_setCoefficient stored hasRow hasColumn value
  · exact fun rowCount columnCount resized fits => resizedTo stored fits
  · exact fun row column has => coefficient_eq_plain stored has column
  · exact fun row column _ has => getElem?_denseRow stored row has

/-- The rows of a problem that was changed out of order, put in order once more. -/
theorem refines_plain_rowHistory :
    (Operation.applyAll {} rowHistory).WellStored
      ∧ (Operation.applyAll {} rowHistory).normalize.plain
          = (Operation.applyAll {} rowHistory).plain :=
  have stored := wellStored_empty.applyAll fitAll_rowHistory
  ⟨stored, (refines_plain stored).2.1⟩

end LinearProgram.Problem
