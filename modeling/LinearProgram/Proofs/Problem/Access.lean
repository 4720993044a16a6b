/-
**The arrays of a problem carry it through every operation.**

On the arrays of a problem whose storage is as `WellStored` says, and with arguments that fit, no
operation reads or writes outside an array, and what it leaves are the arrays of what the operation
makes of the problem.

* `item?_columns`, `item?_rows`, `put?_columns`: access by index.
* `sortRow_ofProblem`, `setRow_ofProblem`, `appendRow_ofProblem`, `normalize_ofProblem`,
  `resize_ofProblem`: the coefficients.
* **`apply_ofProblem`**: every operation. **`applyAll_ofProblem`**: a row of them.
-/

import LinearProgram.Problem.Arrays
import LinearProgram.Proofs.Problem.Alike
import LinearProgram.Proofs.Problem.Preserved

namespace LinearProgram.Arrays

variable {problem : Problem} {index : Nat}

/-! ### Access through a view of the items -/

section Views

variable {α β : Type}

theorem item?_map (view : α → β) (items : List α) (index : Nat) :
    item? (items.map view) index = (item? items index).map view := by
  rw [item?, item?]
  split
  · rfl
  · exact List.getElem?_map

theorem stretch_map (view : α → β) (items : List α) (span : Span) :
    stretch (items.map view) span = (stretch items span).map view := by
  rw [stretch, stretch, List.map_take, List.map_drop]

theorem cut?_map (view : α → β) (items : List α) (span : Span) :
    cut? (items.map view) span = (cut? items span).map (·.map view) := by
  rw [cut?, cut?, List.length_map, stretch_map]
  split <;> rfl

theorem splice?_map (view : α → β) (items : List α) (span : Span) (others : List α) :
    splice? (items.map view) span (others.map view)
      = (splice? items span others).map (·.map view) := by
  rw [splice?, splice?, List.length_map]
  split
  · rw [Option.map_some, List.map_append, List.map_append, List.map_take, List.map_drop]
  · rfl

theorem mapM_eq_some_map {items : List α} {checked : α → Option β} {plain : α → β}
    (same : ∀ item ∈ items, checked item = some (plain item)) :
    items.mapM checked = some (items.map plain) := by
  induction items with
  | nil => rfl
  | cons item rest hyp =>
    rw [List.mapM_cons, same item List.mem_cons_self,
      hyp fun other member => same other (List.mem_cons_of_mem _ member)]
    rfl

/-- A change that gives the items one view puts it in the place of the old one. -/
theorem map_modify_eq_set (view : α → β) (items : List α) (place : Nat) (change : α → α)
    (value : β) (gives : ∀ item, view (change item) = value) :
    (items.modify place change).map view = (items.map view).set place value := by
  induction items generalizing place with
  | nil => rw [List.modify_nil]; rfl
  | cons item rest hyp =>
    cases place with
    | zero => exact congrArg (· :: rest.map view) (gives item)
    | succ place => exact congrArg (view item :: ·) (hyp place)

end Views

/-! ### Columns and rows by index -/

theorem item?_columns (has : problem.HasColumn index) :
    item? problem.columns index = some (problem.column index) := by
  obtain ⟨low, high⟩ := has
  have inside : index - 1 < problem.columns.length := by
    show index - 1 < problem.columnCount
    omega
  rw [item?, if_neg (by omega), Problem.column, List.getElem?_eq_getElem inside, Option.getD_some]

theorem item?_rows (stored : problem.WellStored) (has : problem.HasRow index) :
    item? problem.rows index = some (problem.rowInfo index) := by
  obtain ⟨low, high⟩ := has
  have inside : index - 1 < problem.rows.length := by
    rw [stored.rows_length_eq]
    omega
  rw [item?, if_neg (by omega), Problem.rowInfo, List.getElem?_eq_getElem inside,
    Option.getD_some]

theorem item?_bounds (has : problem.HasColumn index) :
    item? (ofProblem problem).bounds index = some (problem.column index).bounds := by
  show item? (problem.columns.map (·.bounds)) index = _
  rw [item?_map, item?_columns has]
  rfl

theorem columnName_ofProblem (has : problem.HasColumn index) :
    columnName (ofProblem problem) index = some (problem.columnName index) := by
  rw [columnName]
  show (item? (problem.columns.map (·.name)) index).map _ = _
  rw [item?_map, item?_columns has]
  rfl

theorem rowName_ofProblem (stored : problem.WellStored) (has : problem.HasRow index) :
    rowName (ofProblem problem) index = some (problem.rowName index) := by
  rw [rowName]
  show (item? problem.rows index).map _ = _
  rw [item?_rows stored has]
  rfl

theorem put?_columns {β : Type} (has : problem.HasColumn index) (view : Column → β) (value : β) :
    put? (problem.columns.map view) index value
      = some ((problem.columns.map view).set (index - 1) value) := by
  rw [put?, if_pos]
  rw [List.length_map]
  exact has

theorem modifyRow_ofProblem (stored : problem.WellStored) (has : problem.HasRow index)
    (change : Row → Row) :
    modifyRow (ofProblem problem) index change
      = some (ofProblem (problem.modifyRow index change)) := by
  have written : put? problem.rows index (change (problem.rowInfo index))
      = some (problem.rows.set (index - 1) (change (problem.rowInfo index))) := by
    rw [put?, if_pos]
    rw [stored.rows_length_eq]
    exact has
  have read : item? (ofProblem problem).rows index = some (problem.rowInfo index) :=
    item?_rows stored has
  rw [modifyRow, read, Option.bind_eq_bind, Option.bind_some]
  show (put? problem.rows index _).bind _ = _
  rw [written, Option.bind_some, Problem.modifyRow, List.modify_eq_set]
  rfl

/-- The arrays of a problem one of whose columns is changed, view by view. -/
theorem ofProblem_modifyColumn (problem : Problem) (index : Nat) (change : Column → Column)
    {costs : List Float} {bounds : List ColumnBounds} {integers : List Bool}
    {columnNames : List (Option String)}
    (costs_eq : (problem.columns.modify (index - 1) change).map (·.objective) = costs)
    (bounds_eq : (problem.columns.modify (index - 1) change).map (·.bounds) = bounds)
    (integers_eq : (problem.columns.modify (index - 1) change).map (·.integer) = integers)
    (names_eq : (problem.columns.modify (index - 1) change).map (·.name) = columnNames) :
    ofProblem (problem.modifyColumn index change)
      = { ofProblem problem with costs, bounds, integers, columnNames } := by
  subst costs_eq bounds_eq integers_eq names_eq
  rfl

theorem setObjective_ofProblem (has : problem.HasColumn index) (value : Float) :
    setObjective (ofProblem problem) index value
      = some (ofProblem (problem.setObjective index value)) := by
  have changed := ofProblem_modifyColumn problem index ({ · with objective := value })
    (map_modify_eq_set _ _ _ _ value fun _ => rfl) (Problem.map_modify_eq _ _ _ _ fun _ => rfl)
    (Problem.map_modify_eq _ _ _ _ fun _ => rfl) (Problem.map_modify_eq _ _ _ _ fun _ => rfl)
  rw [setObjective, Problem.setObjective, changed]
  show (put? (problem.columns.map (·.objective)) index value).bind _ = _
  rw [put?_columns has]
  rfl

theorem forceBounds_ofProblem (has : problem.HasColumn index) (lower upper : Float) :
    forceBounds (ofProblem problem) index lower upper
      = some (ofProblem (problem.forceBounds index lower upper)) := by
  have changed := ofProblem_modifyColumn problem index ({ · with lower, upper })
    (Problem.map_modify_eq _ _ _ _ fun _ => rfl) (map_modify_eq_set _ _ _ _ ⟨lower, upper⟩ fun _ => rfl)
    (Problem.map_modify_eq _ _ _ _ fun _ => rfl) (Problem.map_modify_eq _ _ _ _ fun _ => rfl)
  rw [forceBounds, Problem.forceBounds, changed]
  show (put? (problem.columns.map (·.bounds)) index ⟨lower, upper⟩).bind _ = _
  rw [put?_columns has]
  rfl

theorem setInteger_ofProblem (has : problem.HasColumn index) (integer : Bool) :
    setInteger (ofProblem problem) index integer
      = some (ofProblem (problem.setInteger index integer)) := by
  have changed := ofProblem_modifyColumn problem index ({ · with integer })
    (Problem.map_modify_eq _ _ _ _ fun _ => rfl) (Problem.map_modify_eq _ _ _ _ fun _ => rfl)
    (map_modify_eq_set _ _ _ _ integer fun _ => rfl) (Problem.map_modify_eq _ _ _ _ fun _ => rfl)
  rw [setInteger, Problem.setInteger, changed]
  show (put? (problem.columns.map (·.integer)) index integer).bind _ = _
  rw [put?_columns has]
  rfl

theorem setColumnName_ofProblem (has : problem.HasColumn index) (name : String) :
    setColumnName (ofProblem problem) index name
      = some (ofProblem (problem.setColumnName index name)) := by
  have changed := ofProblem_modifyColumn problem index ({ · with name := some name })
    (Problem.map_modify_eq _ _ _ _ fun _ => rfl) (Problem.map_modify_eq _ _ _ _ fun _ => rfl)
    (Problem.map_modify_eq _ _ _ _ fun _ => rfl) (map_modify_eq_set _ _ _ _ (some name) fun _ => rfl)
  rw [setColumnName, Problem.setColumnName, changed]
  show (put? (problem.columns.map (·.name)) index (some name)).bind _ = _
  rw [put?_columns has]
  rfl

theorem setBinary_ofProblem (has : problem.HasColumn index) (binary : Bool) :
    setBinary (ofProblem problem) index binary
      = some (ofProblem (problem.setBinary index binary)) := by
  rw [setBinary, setInteger_ofProblem has, Option.bind_eq_bind, Option.bind_some]
  cases binary with
  | false => rfl
  | true =>
    have twice : (problem.setInteger index true).forceBounds index 0 1
        = problem.setBinary index true := by
      rw [Problem.setBinary, Problem.setInteger, Problem.forceBounds, Problem.modifyColumn,
        Problem.modifyColumn, Problem.modifyColumn]
      dsimp only
      rw [List.modify_modify_eq]
      rfl
    have still : (problem.setInteger index true).HasColumn index :=
      ⟨has.1, Nat.le_trans has.2 (Nat.le_of_eq (List.length_modify ..).symm)⟩
    rw [if_pos rfl, forceBounds_ofProblem still, twice]

/-! ### Sorting a row -/

theorem mapM_map_view {α β γ : Type} (read : α → Option β) (view : β → γ) (items : List α) :
    items.mapM (fun item => (read item).map view) = (items.mapM read).map (·.map view) := by
  induction items with
  | nil => rfl
  | cons item rest hyp =>
    rw [List.mapM_cons, List.mapM_cons, hyp]
    cases read item with
    | none => rfl
    | some value =>
      cases rest.mapM read with
      | none => rfl
      | some values => rfl

theorem mapM_congr {α β : Type} {items : List α} {first second : α → Option β}
    (same : ∀ item ∈ items, first item = second item) : items.mapM first = items.mapM second := by
  induction items with
  | nil => rfl
  | cons item rest hyp =>
    rw [List.mapM_cons, List.mapM_cons, same item List.mem_cons_self,
      hyp fun other member => same other (List.mem_cons_of_mem _ member)]

/-- **The sorted places list the entries in the order of their columns.** -/
theorem sortedPlaces_map (entries : List Entry) :
    ∃ places, sortedPlaces (entries.map (·.column)) = some places
      ∧ places.mapM (entries[·]?) = some (sortEntries entries)
      ∧ ∀ place ∈ places, place < entries.length := by
  let key (place : Nat) : Nat := (entries.getD place default).column
  let places := (List.range entries.length).mergeSort fun first second => key first ≤ key second
  have inside : ∀ place ∈ places, place < entries.length := fun place member =>
    List.mem_range.mp (List.mem_mergeSort.mp member)
  have read : ∀ place < entries.length, entries[place]? = some (entries.getD place default) :=
    fun place bound => by
      rw [List.getD_eq_getElem?_getD, List.getElem?_eq_getElem bound, Option.getD_some]
  have keyed : (List.range (entries.map (·.column)).length).mapM
      (fun place => ((entries.map (·.column))[place]?).map (·, place))
        = some ((List.range entries.length).map fun place => (key place, place)) := by
    rw [List.length_map]
    refine mapM_eq_some_map fun place member => ?_
    rw [List.getElem?_map, read place (List.mem_range.mp member)]
    rfl
  have all : (List.range entries.length).map (entries.getD · default) = entries := by
    refine List.ext_getElem (by simp) fun place first second => ?_
    rw [List.getElem_map, List.getElem_range, List.getD_eq_getElem?_getD,
      List.getElem?_eq_getElem second, Option.getD_some]
  have order : ((List.range entries.length).map fun place => (key place, place)).mergeSort
      (fun first second => first.1 ≤ second.1) = places.map fun place => (key place, place) :=
    (List.map_mergeSort (by intros; rfl)).symm
  have sorted : places.map (entries.getD · default) = sortEntries entries := by
    rw [sortEntries, ← congrArg (List.mergeSort · _) all]
    exact List.map_mergeSort (by intros; rfl)
  refine ⟨places, ?_, ?_, inside⟩
  · rw [sortedPlaces, keyed, Option.bind_eq_bind, Option.bind_some, order, List.map_map]
    exact congrArg some (List.map_id _)
  · rw [mapM_eq_some_map fun place member => read place (inside place member), sorted]

section Rows

variable {rows : List (List Entry)} {position : Nat}

/-- A row put in the place of one of its length leaves the spans where they are. -/
theorem replace_of_length_eq {matrix : SparseRows} {span : Span} {old row : List Entry}
    (found : matrix.spans[position]? = some span) (cut : matrix.slice? span = some old)
    (length : row.length = old.length) (span_length : span.length = old.length) :
    matrix.replace position row = ⟨matrix.spans,
      matrix.entries.take span.start ++ row
        ++ matrix.entries.drop (span.start + span.length)⟩ := by
  have still : ∀ spans : List Span,
      spans.mapM (·.shift? row.length old.length) = some spans := fun spans => by
    refine (mapM_eq_some_map fun span _ => ?_).trans (congrArg some (List.map_id spans))
    rw [Span.shift?, length, if_pos (Nat.le_add_left _ _), Nat.add_sub_cancel]
    rfl
  have spans : matrix.spans.take position ++ ⟨span.start, row.length⟩ ::
      matrix.spans.drop (position + 1) = matrix.spans := by
    obtain ⟨inside, rfl⟩ := List.getElem?_eq_some_iff.mp found
    rw [length, ← span_length, List.getElem_cons_drop, List.take_append_drop]
  rw [SparseRows.replace, SparseRows.replace?, found]
  dsimp only [bind, Option.bind]
  rw [cut]
  dsimp only [bind, Option.bind]
  rw [still]
  dsimp only [pure, Option.getD_some]
  rw [spans]

/-- A row that is laid end to end with others, as it is found and cut out. -/
theorem exists_span (laid : problem.matrix = SparseRows.ofRows rows)
    (inside : position < rows.length) :
    ∃ span, problem.matrix.spans[position]? = some span
      ∧ cut? problem.matrix.entries span = some rows[position]
      ∧ problem.row (position + 1) = rows[position]
      ∧ span.length = rows[position].length := by
  have read := SparseRows.row?_ofRows rows position
  rw [List.getElem?_eq_getElem inside, ← laid, SparseRows.row?] at read
  obtain ⟨span, found, cut⟩ := Option.bind_eq_some_iff.mp read
  refine ⟨span, found, cut, ?_, ?_⟩
  · rw [Problem.row, Nat.add_sub_cancel, SparseRows.row, SparseRows.row?, found, Option.bind_some,
      cut, Option.getD_some]
  · rw [SparseRows.slice?, SparseRows.slice] at cut
    split at cut
    · rw [← Option.some.inj cut, List.length_take, List.length_drop]
      omega
    · cases cut

theorem take_stretch_drop {α : Type} (items : List α) (span : Span) :
    items.take span.start ++ stretch items span ++ items.drop (span.start + span.length)
      = items := by
  rw [stretch, List.append_assoc, ← List.drop_drop, List.take_append_drop, List.take_append_drop]

theorem of_cut? {α : Type} {items old : List α} {span : Span} (cut : cut? items span = some old) :
    span.start + span.length ≤ items.length ∧ stretch items span = old := by
  rw [cut?] at cut
  split at cut
  case isTrue enough => exact ⟨enough, Option.some.inj cut⟩
  case isFalse => cases cut

/-- **Putting a row in order.** -/
theorem sortRow_ofProblem (laid : problem.matrix = SparseRows.ofRows rows)
    (inside : position < rows.length) :
    sortRow (ofProblem problem) position = some (ofProblem (problem.sortRow (position + 1))) := by
  obtain ⟨span, found, cut, row, length⟩ := exists_span laid inside
  obtain ⟨enough, old⟩ := of_cut? cut
  have columns : cut? (ofProblem problem).indices span
      = some (rows[position].map (·.column)) := by
    show cut? (problem.matrix.entries.map _) span = _
    rw [cut?_map, cut]
    rfl
  have same : (sortEntries rows[position]).length = rows[position].length := List.length_mergeSort _
  have sorted : problem.sortRow (position + 1) = { problem with
      matrix := ⟨problem.matrix.spans, problem.matrix.entries.take span.start
        ++ sortEntries rows[position]
        ++ problem.matrix.entries.drop (span.start + span.length)⟩ } := by
    rw [Problem.sortRow, Nat.add_sub_cancel, row, replace_of_length_eq found cut same length]
  rw [sortRow, show (ofProblem problem).spans[position]? = some span from found]
  dsimp only [bind, Option.bind]
  rw [columns]
  dsimp only [bind, Option.bind]
  rw [sorted]
  by_cases increasing : (rows[position].map (·.column)).Pairwise (· < ·)
  · rw [if_pos increasing, sortEntries_eq_self increasing, ← old, take_stretch_drop]
    rfl
  · obtain ⟨places, found, read, within⟩ := sortedPlaces_map rows[position]
    have indices : places.mapM ((rows[position].map (·.column))[·]?)
        = some ((sortEntries rows[position]).map (·.column)) := by
      simp only [List.getElem?_map]
      rw [mapM_map_view, read]
      rfl
    have coefficients :
        places.mapM (fun place => (ofProblem problem).coefficients[span.start + place]?)
          = some ((sortEntries rows[position]).map (·.coefficient)) := by
      have moved : ∀ place ∈ places, (ofProblem problem).coefficients[span.start + place]?
          = (rows[position][place]?).map (·.coefficient) := fun place member => by
        have bound := within place member
        rw [← length] at bound
        show (problem.matrix.entries.map _)[span.start + place]? = _
        rw [List.getElem?_map, ← old, stretch, List.getElem?_take_of_lt bound,
          List.getElem?_drop]
      rw [mapM_congr moved, mapM_map_view, read]
      rfl
    have copied {α : Type} (view : Entry → α) :
        copy? (problem.matrix.entries.map view) span ((sortEntries rows[position]).map view)
          = some ((problem.matrix.entries.take span.start ++ sortEntries rows[position]
            ++ problem.matrix.entries.drop (span.start + span.length)).map view) := by
      rw [copy?, if_pos (by rw [List.length_map, same, length]), splice?_map, splice?,
        if_pos enough]
      rfl
    rw [if_neg increasing, found]
    dsimp only
    rw [indices]
    dsimp only
    rw [show copy? (ofProblem problem).indices span _ = _ from copied (·.column), coefficients]
    dsimp only
    rw [show copy? (ofProblem problem).coefficients span _ = _ from copied (·.coefficient)]
    rfl

/-- Putting rows in order one after the other, from a place on. -/
theorem foldlM_sortRow_ofProblem (before after : List (List Entry))
    (laid : problem.matrix = SparseRows.ofRows (before ++ after)) :
    (List.range' before.length after.length).foldlM sortRow (ofProblem problem)
      = some (ofProblem ((List.range' (before.length + 1) after.length).foldl Problem.sortRow
          problem)) := by
  induction after generalizing before problem with
  | nil => rfl
  | cons head rest hyp =>
    have inside : before.length < (before ++ head :: rest).length := by
      rw [List.length_append, List.length_cons]
      omega
    have first : problem.sortRow (before.length + 1) = _ := Problem.sortRow_eq laid inside
    rw [Nat.add_sub_cancel, Problem.modify_append_cons] at first
    have laid' : (problem.sortRow (before.length + 1)).matrix
        = SparseRows.ofRows ((before ++ [sortEntries head]) ++ rest) := by
      rw [first, List.append_assoc]
      rfl
    have step := hyp _ laid'
    rw [List.length_append, List.length_singleton] at step
    rw [List.length_cons, List.range'_succ, List.range'_succ, List.foldlM_cons, List.foldl_cons,
      sortRow_ofProblem laid inside]
    exact step

end Rows

/-! ### Replacing and appending rows -/

/-- Indices and values of one number are the two sides of the entries that they make. -/
theorem map_zipWith_mk {indices : List Nat} {values : List Float}
    (length : indices.length = values.length) :
    (List.zipWith Entry.mk indices values).map (·.column) = indices
      ∧ (List.zipWith Entry.mk indices values).map (·.coefficient) = values := by
  induction indices generalizing values with
  | nil => exact ⟨rfl, (List.eq_nil_of_length_eq_zero length.symm).symm⟩
  | cons index rest hyp =>
    cases values with
    | nil => cases length
    | cons value others =>
      obtain ⟨columns, coefficients⟩ := hyp (Nat.succ.inj length)
      exact ⟨congrArg (index :: ·) columns, congrArg (value :: ·) coefficients⟩

theorem setRow_ofProblem (stored : problem.WellStored) (has : problem.HasRow index)
    (entries : List Entry) :
    setRow (ofProblem problem) index (entries.map (·.column)) (entries.map (·.coefficient))
      = some (ofProblem (problem.setRow index entries)) := by
  obtain ⟨rows, laid, count, -, -, -⟩ := stored.exists_rows
  have inside := has.inside count
  obtain ⟨span, found, cut, -, length⟩ := exists_span laid inside
  obtain ⟨enough, -⟩ := of_cut? cut
  have read : item? (ofProblem problem).spans index = some span := by
    rw [item?, if_neg (Nat.ne_of_gt has.1)]
    exact found
  have replaced := SparseRows.replace?_ofRows entries inside
  rw [← laid, SparseRows.replace?, found] at replaced
  dsimp only [bind, Option.bind] at replaced
  rw [show problem.matrix.slice? span = _ from cut] at replaced
  dsimp only [bind, Option.bind] at replaced
  obtain ⟨later, shifted, same⟩ := Option.bind_eq_some_iff.mp replaced
  rw [← length] at shifted
  have spliced {α : Type} (view : Entry → α) :
      splice? (problem.matrix.entries.map view) span (entries.map view)
        = some ((problem.matrix.entries.take span.start ++ entries
          ++ problem.matrix.entries.drop (span.start + span.length)).map view) := by
    rw [splice?_map, splice?, if_pos enough]
    rfl
  have moved : (ofProblem problem).spans.drop index = problem.matrix.spans.drop (index - 1 + 1) := by
    rw [Nat.sub_add_cancel has.1]
    rfl
  let changed : Problem := { problem with
    matrix := SparseRows.ofRows (rows.set (index - 1) entries) }
  have made : problem.setRow index entries = changed.sortRow index := by
    rw [Problem.setRow, laid, SparseRows.replace_ofRows _ inside]
  have sorted : sortRow (ofProblem changed) (index - 1) = _ :=
    sortRow_ofProblem rfl (show index - 1 < (rows.set (index - 1) entries).length by
      rwa [List.length_set])
  rw [Nat.sub_add_cancel has.1, ← made] at sorted
  rw [setRow, read]
  dsimp only [bind, Option.bind]
  rw [show splice? (ofProblem problem).indices span _ = _ from spliced (·.column),
    show splice? (ofProblem problem).coefficients span _ = _ from spliced (·.coefficient), moved,
    List.length_map, shifted]
  dsimp only
  refine Eq.trans ?_ sorted
  have all : changed = { problem with matrix := changed.matrix } := rfl
  rw [all, show changed.matrix = _ from (Option.some.inj same).symm]
  rfl

/-- The two sides of the entries of a row. -/
theorem row_ofProblem (stored : problem.WellStored) (has : problem.HasRow index) :
    row (ofProblem problem) index
      = some ((problem.row index).map (·.column), (problem.row index).map (·.coefficient)) := by
  obtain ⟨rows, laid, count, -, -, -⟩ := stored.exists_rows
  obtain ⟨span, found, cut, same, -⟩ := exists_span laid (has.inside count)
  rw [Nat.sub_add_cancel has.1] at same
  have read : item? (ofProblem problem).spans index = some span := by
    rw [item?, if_neg (Nat.ne_of_gt has.1)]
    exact found
  have viewed {α : Type} (view : Entry → α) :
      cut? (problem.matrix.entries.map view) span = some ((problem.row index).map view) := by
    rw [cut?_map, cut, same]
    rfl
  rw [row, read]
  dsimp only [bind, Option.bind]
  rw [show cut? (ofProblem problem).indices span = _ from viewed (·.column),
    show cut? (ofProblem problem).coefficients span = _ from viewed (·.coefficient)]
  rfl

theorem setCoefficient_ofProblem (stored : problem.WellStored) (has : problem.HasRow index)
    (column : Nat) (value : Float) :
    setCoefficient (ofProblem problem) index column value
      = some (ofProblem (problem.setCoefficient index column value)) := by
  let pair (entry : Entry) : Nat × Float := (entry.column, entry.coefficient)
  let others := (problem.row index).filter fun entry => entry.column != column
  let entries := if value != 0 then others ++ [⟨column, value⟩] else others
  have filtered : (((problem.row index).map (·.column)).zip
      ((problem.row index).map (·.coefficient))).filter (·.1 != column) = others.map pair := by
    rw [List.zip_map', List.filter_map]
    rfl
  have chosen : (if value != 0 then others.map pair ++ [(column, value)] else others.map pair)
      = entries.map pair := by
    show _ = List.map pair (if value != 0 then _ else _)
    split
    · rw [List.map_append]
      rfl
    · rfl
  rw [setCoefficient, row_ofProblem stored has]
  dsimp only [bind, Option.bind]
  rw [filtered, chosen, List.unzip_eq_map, List.map_map, List.map_map]
  exact setRow_ofProblem stored has entries

theorem appendRow_ofProblem (stored : problem.WellStored) (entries : List Entry)
    (relation : Relation) (rhs : Float) (deferOrder : Bool) :
    appendRow (ofProblem problem) (entries.map (·.column)) (entries.map (·.coefficient)) relation
        rhs deferOrder
      = some (ofProblem (problem.appendRow entries relation rhs deferOrder)) := by
  obtain ⟨rows, laid, count, -, -, -⟩ := stored.exists_rows
  let longer : Problem := { problem with
    rows := problem.rows ++ [{ relation, rhs }]
    matrix := problem.matrix.push entries }
  have arrays : ofProblem longer = { ofProblem problem with
      indices := (ofProblem problem).indices ++ entries.map (·.column)
      coefficients := (ofProblem problem).coefficients ++ entries.map (·.coefficient)
      spans := (ofProblem problem).spans
        ++ [⟨(ofProblem problem).indices.length, (entries.map (·.column)).length⟩]
      rows := (ofProblem problem).rows ++ [{ relation, rhs }] } := by
    simp only [ofProblem, longer, SparseRows.push, List.map_append, List.length_map]
  have pushed : longer.matrix = SparseRows.ofRows (rows ++ [entries]) := by
    show problem.matrix.push entries = _
    rw [laid, SparseRows.push_ofRows]
  have inside : problem.rowCount < (rows ++ [entries]).length := by
    rw [List.length_append, List.length_singleton]
    omega
  have sorted := sortRow_ofProblem pushed inside
  rw [appendRow, ← arrays]
  show (if problem.sortedUpTo == problem.rowCount && !deferOrder then
    (sortRow (ofProblem longer) problem.rowCount).map _ else _) = _
  rw [Problem.appendRow]
  split
  · rw [sorted]
    rfl
  · rfl

theorem normalize_ofProblem (stored : problem.WellStored) :
    normalize (ofProblem problem) = some (ofProblem problem.normalize) := by
  obtain ⟨rows, laid, count, -, -, -⟩ := stored.exists_rows
  have le := stored.sortedUpTo_le
  have front : (rows.take problem.sortedUpTo).length = problem.sortedUpTo := by
    rw [List.length_take]
    omega
  have back : (rows.drop problem.sortedUpTo).length = problem.rowCount - problem.sortedUpTo := by
    rw [List.length_drop, count]
  have sorted := foldlM_sortRow_ofProblem (rows.take problem.sortedUpTo)
    (rows.drop problem.sortedUpTo) (by rw [laid, List.take_append_drop])
  rw [front, back] at sorted
  show (List.foldlM sortRow (ofProblem problem) (List.range' problem.sortedUpTo
    (problem.rowCount - problem.sortedUpTo))).map _ = _
  rw [sorted]
  rfl

/-! ### Dimensions -/

/-- What packing entries comes to in the arrays of their two sides. -/
abbrev bothSides {α : Type} (packed : List Entry × α) : List Nat × List Float × α :=
  (packed.1.map (·.column), packed.1.map (·.coefficient), packed.2)

theorem packEntry_map (columnCount position : Nat) (entries : List Entry) (place : Nat) :
    packEntry columnCount position (entries.map (·.column)) (entries.map (·.coefficient)) place
      = (SparseRows.packEntry? columnCount position entries place).map bothSides := by
  rw [packEntry, SparseRows.packEntry?, List.getElem?_map, List.getElem?_map]
  cases entries[position]? with
  | none => rfl
  | some entry =>
    dsimp only [Option.map_some, bind, Option.bind]
    split
    · rw [List.length_map, List.length_map]
      by_cases inside : place < entries.length
      · rw [if_pos ⟨inside, inside⟩, if_pos inside, ← List.map_set, ← List.map_set]
        rfl
      · rw [if_neg fun both => inside both.1, if_neg inside]
        rfl
    · rfl

theorem packRow_map (columnCount position count : Nat) (entries : List Entry) (place : Nat) :
    packRow columnCount position count (entries.map (·.column)) (entries.map (·.coefficient)) place
      = (SparseRows.packRow? columnCount position count entries place).map bothSides := by
  induction count generalizing position entries place with
  | zero => rfl
  | succ count hyp =>
    rw [packRow, SparseRows.packRow?, packEntry_map]
    cases SparseRows.packEntry? columnCount position entries place with
    | none => rfl
    | some packed => exact hyp (position + 1) packed.1 packed.2

theorem pack_map (columnCount : Nat) (spans : List Span) (entries : List Entry) (place : Nat) :
    pack columnCount spans (entries.map (·.column)) (entries.map (·.coefficient)) place
      = (SparseRows.pack? columnCount spans entries place).map fun packed =>
          (packed.1, bothSides packed.2) := by
  induction spans generalizing entries place with
  | nil => rfl
  | cons span rest hyp =>
    rw [pack, SparseRows.pack?, packRow_map]
    cases SparseRows.packRow? columnCount span.start span.length entries place with
    | none => rfl
    | some packed =>
      dsimp only [Option.map_some, bind, Option.bind]
      rw [hyp packed.1 packed.2]
      cases SparseRows.pack? columnCount rest packed.1 packed.2 with
      | none => rfl
      | some others => rfl

theorem fitColumns_ofProblem {α : Type} (view : Column → α) (columnCount : Nat) :
    fitColumns (ofProblem problem) columnCount (problem.columns.map view) (view default)
      = (Problem.fit problem.columns columnCount).map view := by
  have count : (ofProblem problem).columnCount = problem.columns.length := List.length_map _
  rw [fitColumns, count, Problem.fit, List.map_append, List.map_replicate, List.length_map,
    List.map_take]
  split
  case isTrue fewer =>
    rw [Nat.sub_eq_zero_of_le (Nat.le_of_lt fewer), List.replicate_zero, List.append_nil]
  case isFalse => rfl

theorem dropRows_eq {arrays : Arrays} (rows : arrays.rows.length = arrays.rowCount)
    (mark : arrays.sortedUpTo ≤ arrays.rowCount) (rowCount : Nat) :
    dropRows arrays rowCount = { arrays with
      spans := arrays.spans.take rowCount
      rows := arrays.rows.take rowCount
      sortedUpTo := min arrays.sortedUpTo rowCount } := by
  rw [dropRows]
  split
  case isTrue => rfl
  case isFalse enough =>
    have all : arrays.rowCount ≤ rowCount := Nat.le_of_not_lt enough
    rw [List.take_of_length_le (show arrays.spans.length ≤ rowCount from all),
      List.take_of_length_le (rows.symm ▸ all), Nat.min_eq_left (Nat.le_trans mark all)]

theorem length_of_pack? {columnCount : Nat} {spans packed : List Span} {entries : List Entry}
    {place : Nat} {rest : List Entry × Nat}
    (done : SparseRows.pack? columnCount spans entries place = some (packed, rest)) :
    packed.length = spans.length := by
  induction spans generalizing entries place packed rest with
  | nil =>
    obtain ⟨rfl, -⟩ := Prod.mk.inj (Option.some.inj done)
    rfl
  | cons span others hyp =>
    rw [SparseRows.pack?] at done
    obtain ⟨⟨entries, next⟩, -, done⟩ := Option.bind_eq_some_iff.mp done
    obtain ⟨⟨later, rest⟩, step, done⟩ := Option.bind_eq_some_iff.mp done
    obtain ⟨rfl, -⟩ := Prod.mk.inj (Option.some.inj done)
    exact congrArg Nat.succ (hyp step)

/-- **Setting the dimensions.** -/
theorem resize_ofProblem (stored : problem.WellStored) (rowCount columnCount : Nat) :
    resize (ofProblem problem) rowCount columnCount
      = some (ofProblem ((problem.resize? rowCount columnCount).getD problem)) := by
  obtain ⟨rows, laid, -, -, -, -⟩ := stored.exists_rows
  rw [resize, Problem.resize?]
  split
  case isFalse => rfl
  have resized : problem.matrix.resize? rowCount columnCount
      = some (problem.matrix.resize rowCount columnCount) := by
    rw [laid, SparseRows.resize?_ofRows, SparseRows.resize_ofRows]
  rw [SparseRows.resize?] at resized
  obtain ⟨⟨spans, entries, place⟩, packed, same⟩ := Option.bind_eq_some_iff.mp resized
  have length := length_of_pack? packed
  have missing : rowCount - spans.length = rowCount - problem.matrix.count := by
    rw [length, List.length_take]
    show _ = rowCount - problem.matrix.spans.length
    omega
  have rowsLength : problem.rows.length = problem.matrix.count := stored.rows_length
  have costs : fitColumns (ofProblem problem) columnCount (ofProblem problem).costs 0 = _ :=
    fitColumns_ofProblem (·.objective) columnCount
  have bounds : fitColumns (ofProblem problem) columnCount (ofProblem problem).bounds {} = _ :=
    fitColumns_ofProblem (·.bounds) columnCount
  have integers :
      fitColumns (ofProblem problem) columnCount (ofProblem problem).integers false = _ :=
    fitColumns_ofProblem (·.integer) columnCount
  have names :
      fitColumns (ofProblem problem) columnCount (ofProblem problem).columnNames none = _ :=
    fitColumns_ofProblem (·.name) columnCount
  have both : pack columnCount ((ofProblem problem).spans.take rowCount)
      (ofProblem problem).indices (ofProblem problem).coefficients 0 = _ :=
    pack_map columnCount (problem.matrix.spans.take rowCount) problem.matrix.entries 0
  rw [packed] at both
  rw [costs, bounds, integers, names]
  dsimp only
  rw [dropRows_eq (by exact stored.rows_length) (by exact stored.sortedUpTo_le)]
  dsimp only
  rw [both]
  dsimp only [Option.map_some, bind, Option.bind, pure, Option.getD_some]
  rw [← Option.some.inj same, missing, ← List.map_take, ← List.map_take, ← rowsLength]
  rfl
/-! ### Attributes of rows and columns -/

theorem setBounds_ofProblem (has : problem.HasColumn index) (lower upper : Float) :
    setBounds (ofProblem problem) index lower upper
      = some (ofProblem ((problem.setBounds? index lower upper).getD problem)) := by
  rw [setBounds, Problem.setBounds?, Column.setBounds?]
  split
  · rw [forceBounds_ofProblem has, Option.map_some, Option.getD_some, Problem.forceBounds,
      Problem.modifyColumn, Problem.modifyColumn, Problem.column, List.modify_eq_set,
      List.modify_eq_set]
  · rfl

theorem setRange_ofProblem (stored : problem.WellStored) (has : problem.HasRow index)
    (range : Float) :
    setRange (ofProblem problem) index range
      = some (ofProblem ((problem.setRange? index range).getD problem)) := by
  rw [setRange, Problem.setRange?, Row.setRange?]
  split
  · rfl
  · rw [modifyRow_ofProblem stored has, Option.map_some, Option.getD_some, Problem.modifyRow,
      Problem.modifyRow, Problem.rowInfo, List.modify_eq_set, List.modify_eq_set]

/-- An item set for every entry, one after the other. -/
theorem setEach_ofProblem (checked : Arrays → Nat → Float → Option Arrays)
    (set : Problem → Nat → Float → Problem) (valid : Problem → Nat → Prop)
    (same : ∀ problem index value, valid problem index →
      checked (ofProblem problem) index value = some (ofProblem (set problem index value)))
    (stays : ∀ problem index value other, valid problem other →
      valid (set problem index value) other)
    (entries : List Entry) (all : ∀ entry ∈ entries, valid problem entry.column) :
    setEach checked (entries.map (·.column)) (entries.map (·.coefficient)) (ofProblem problem)
      = some (ofProblem (entries.foldl
          (fun problem entry => set problem entry.column entry.coefficient) problem)) := by
  induction entries generalizing problem with
  | nil => rfl
  | cons entry rest hyp =>
    have others : ∀ other ∈ rest,
        valid (set problem entry.column entry.coefficient) other.column := fun other member =>
      stays _ _ _ _ (all other (List.mem_cons_of_mem _ member))
    have step := hyp others
    rw [setEach, List.map_cons, List.map_cons, List.zip_cons_cons, List.foldlM_cons,
      same _ _ _ (all entry List.mem_cons_self), List.foldl_cons]
    exact step

theorem hasColumn_modifyColumn {other : Nat} (has : problem.HasColumn other)
    (change : Column → Column) : (problem.modifyColumn index change).HasColumn other :=
  ⟨has.1, Nat.le_trans has.2 (Nat.le_of_eq (List.length_modify ..).symm)⟩

theorem setObjectives_ofProblem (entries : List Entry)
    (all : ∀ entry ∈ entries, problem.HasColumn entry.column) :
    setEach setObjective (entries.map (·.column)) (entries.map (·.coefficient))
        (ofProblem problem)
      = some (ofProblem (entries.foldl (fun problem entry =>
          problem.setObjective entry.column entry.coefficient) problem)) :=
  setEach_ofProblem setObjective Problem.setObjective Problem.HasColumn
    (fun _ _ _ has => setObjective_ofProblem has _)
    (fun _ _ _ _ has => hasColumn_modifyColumn has _) entries all

theorem setRhss_ofProblem (stored : problem.WellStored) (entries : List Entry)
    (all : ∀ entry ∈ entries, problem.HasRow entry.column) :
    setEach setRhs (entries.map (·.column)) (entries.map (·.coefficient)) (ofProblem problem)
      = some (ofProblem (entries.foldl (fun problem entry =>
          problem.setRhs entry.column entry.coefficient) problem)) :=
  setEach_ofProblem setRhs Problem.setRhs
    (fun problem index => problem.WellStored ∧ problem.HasRow index)
    (fun _ _ _ has => modifyRow_ofProblem has.1 has.2 _)
    (fun _ _ _ _ has => ⟨has.1.modifyRow _ _, has.2⟩) entries
    (fun entry member => ⟨stored, all entry member⟩)

/-! ### Operations -/

theorem columnCount_ofProblem (problem : Problem) :
    (ofProblem problem).columnCount = problem.columnCount := List.length_map _

theorem FitLists.entries {dimension : Nat} {indices : List Nat} {values : List Float}
    (fit : FitLists dimension indices values) :
    FitEntries dimension (List.zipWith Entry.mk indices values) := by
  obtain ⟨columns, -⟩ := map_zipWith_mk fit.length_eq
  constructor
  · rw [columns]
    exact fit.distinct
  · intro entry member
    refine fit.within _ ?_
    rw [← columns]
    exact List.mem_map_of_mem member

/-- Arguments that fit the arrays of a problem fit the problem. -/
theorem Operation.Fits.onProblem {operation : Operation}
    (fits : operation.Fits (ofProblem problem)) : operation.onProblem.Fits problem := by
  have columns := columnCount_ofProblem problem
  cases operation with
  | setObjectiveRow | appendRow =>
    have fit : FitLists _ _ _ := fits
    rw [columns] at fit
    exact fit.entries
  | setRhsVector => exact FitLists.entries fits
  | setRow =>
    have fit : FitLists _ _ _ := fits.2
    rw [columns] at fit
    exact ⟨fits.1, fit.entries⟩
  | setCoefficient => exact ⟨fits.1, fits.2.1, columns ▸ fits.2.2⟩
  | setRelation | setRhs | setRange | setRowName => exact fits
  | setObjective | setBounds | setLower | setUpper | forceBounds | setInteger | setBinary
  | setColumnName => exact ⟨fits.1, columns ▸ fits.2⟩
  | resize | addColumn | setName | setMaximize | setConstant | normalize => trivial

/-- **No operation whose arguments fit leaves the arrays**, and it does to them what it does to the
problem. -/
theorem apply_ofProblem (stored : problem.WellStored) {operation : Operation}
    (fits : operation.Fits (ofProblem problem)) :
    apply (ofProblem problem) operation
      = some (ofProblem (operation.onProblem.apply problem)) := by
  have fitting := fits.onProblem
  cases operation with
  | resize rows columns => exact resize_ofProblem stored rows columns
  | addColumn name =>
    show some _ = some (ofProblem (problem.addColumn name))
    simp only [addColumn, Problem.addColumn, ofProblem, List.map_append]
    rfl
  | setName | setMaximize | setConstant => rfl
  | setObjective => exact setObjective_ofProblem fitting _
  | setObjectiveRow indices values =>
    obtain ⟨columns, values_eq⟩ := map_zipWith_mk fits.length_eq
    have cleared : ofProblem { problem with
        columns := problem.columns.map ({ · with objective := 0 }) }
          = { ofProblem problem with costs := (ofProblem problem).costs.map fun _ => 0 } := by
      simp only [ofProblem, List.map_map]
      rfl
    have set := setObjectives_ofProblem (List.zipWith Entry.mk indices values)
      fun entry member => (⟨(fitting.within entry member).1,
        Nat.le_trans (fitting.within entry member).2 (Nat.le_of_eq (List.length_map _).symm)⟩ :
        Problem.HasColumn { problem with
          columns := problem.columns.map ({ · with objective := 0 }) } entry.column)
    rw [columns, values_eq, cleared] at set
    exact set
  | appendRow indices values relation rhs deferOrder =>
    obtain ⟨columns, coefficients⟩ := map_zipWith_mk fits.length_eq
    have appended := appendRow_ofProblem stored (List.zipWith Entry.mk indices values) relation rhs
      deferOrder
    rw [columns, coefficients] at appended
    exact appended
  | setRow row indices values =>
    obtain ⟨columns, coefficients⟩ := map_zipWith_mk fits.2.length_eq
    have replaced := setRow_ofProblem stored fitting.1 (List.zipWith Entry.mk indices values)
    rw [columns, coefficients] at replaced
    exact replaced
  | setCoefficient row column value => exact setCoefficient_ofProblem stored fitting.1 column value
  | normalize => exact normalize_ofProblem stored
  | setRelation | setRhs | setRowName => exact modifyRow_ofProblem stored fitting _
  | setRhsVector indices values =>
    obtain ⟨columns, values_eq⟩ := map_zipWith_mk fits.length_eq
    have cleared : ({ problem with
        rows := problem.rows.map ({ · with rhs := 0 }) } : Problem).WellStored :=
      stored.congr rfl (List.length_map _) (Nat.le_refl _) rfl
    have set := setRhss_ofProblem cleared (List.zipWith Entry.mk indices values) fitting.within
    rw [columns, values_eq] at set
    exact set
  | setRange row range => exact setRange_ofProblem stored fitting range
  | setBounds column lower upper => exact setBounds_ofProblem fitting lower upper
  | setLower index lower =>
    rw [apply, item?_bounds fitting]
    exact setBounds_ofProblem fitting _ _
  | setUpper index upper =>
    rw [apply, item?_bounds fitting]
    exact setBounds_ofProblem fitting _ _
  | forceBounds => exact forceBounds_ofProblem fitting _ _
  | setInteger => exact setInteger_ofProblem fitting _
  | setBinary => exact setBinary_ofProblem fitting _
  | setColumnName => exact setColumnName_ofProblem fitting _

/-- **A row of operations whose arguments fit** does not leave the arrays either. -/
theorem applyAll_ofProblem (stored : problem.WellStored) {operations : List Operation}
    (fits : Operation.FitAll (ofProblem problem) operations) :
    applyAll (ofProblem problem) operations
        = some (ofProblem (LinearProgram.Operation.applyAll problem
          (operations.map (·.onProblem))))
      ∧ LinearProgram.Operation.FitAll problem (operations.map (·.onProblem)) := by
  induction operations generalizing problem with
  | nil => exact ⟨rfl, trivial⟩
  | cons operation rest hyp =>
    obtain ⟨first, others⟩ := fits
    have step := apply_ofProblem stored first
    obtain ⟨done, fit⟩ := hyp (stored.apply first.onProblem) (others _ step)
    refine ⟨?_, first.onProblem, fit⟩
    rw [applyAll, List.foldlM_cons, step]
    exact done

end LinearProgram.Arrays
