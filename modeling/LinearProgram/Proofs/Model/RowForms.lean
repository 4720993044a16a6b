/-
**The forms of an argument mean the same.**

The same values can be given as a list, as the ones that are not zero with their indices in any
order, and as a text. Each form becomes entries, and those of two forms differ in their order at
most. The order of entries is lost where a row is put in order, and where single values are set for
entries. It is kept only where a row is appended to rows that are not in order, or in row mode.

* `RowArgument.Lists`: an argument gives a list of values. `exists_entries`: what its entries are.
* `setObjectiveRow_perm`, `setRhsVector_perm`, `setRow_perm`, `sameUpToOrder_appendRow`: what the
  order of entries matters to a problem.
* `ObjectiveSet`, `RowAppended`, `RowReplaced`, `RhsSet`: what an edit does to a model.
* **`forms_agree`**: edits whose arguments give the same values lead to the same model.
-/

import LinearProgram.Proofs.Arguments.Load
import LinearProgram.Proofs.Model.Calm
import LinearProgram.Proofs.Problem.Alike
import LinearProgram.Proofs.Problem.Order

namespace LinearProgram

/-! ### The values of an argument -/

/-- **An argument gives a list of values**: as that list; as the values that are not zero with their
indices, in any order, with anything behind the first `count`; or as a text whose words read as the
values. -/
inductive RowArgument.Lists (values : List Float) : RowArgument → Prop where
  | dense : Lists values (.dense values)
  | sparse {count : Nat} {listed : List Float} {indices : List Nat}
      (lengths : listed.length = indices.length) (fits : count ≤ listed.length)
      (nonzero : (List.zipWith Entry.mk (indices.take count) (listed.take count)).Perm
        (nonzeroEntries 1 values)) : Lists values (.sparse count listed indices)
  | text {source : String}
      (reads : (Text.words source.toList).map Decimal.signed? = values.map some) :
      Lists values (.text source)

theorem wordValues_of_map {words : List (List Char)} {values : List Float}
    (reads : words.map Decimal.signed? = values.map some) : wordValues words = .ok values := by
  induction words generalizing values with
  | nil =>
    obtain rfl := List.map_eq_nil_iff.mp reads.symm
    rfl
  | cons word rest hyp =>
    cases values with
    | nil => cases reads
    | cons value others =>
      rw [List.map_cons, List.map_cons, List.cons.injEq] at reads
      rw [wordValues, reads.1, hyp reads.2]
      rfl

/-- The coefficient of a place in a list is the value there, unless it is zero. -/
theorem coefficient?_nonzeroEntries (first : Nat) (values : List Float) (place : Nat) :
    coefficient? (nonzeroEntries first values) (first + place)
      = (values[place]?).filter (· != 0) := by
  induction values generalizing first place with
  | nil => rfl
  | cons value rest hyp =>
    rw [nonzeroEntries]
    cases place with
    | zero =>
      have later : coefficient? (nonzeroEntries (first + 1) rest) first = none := by
        rw [coefficient?, List.find?_eq_none.mpr, Option.map_none]
        intro entry member
        have bound := nonzeroEntries_within (first + 1) rest entry member
        rw [beq_iff_eq]
        omega
      rw [List.getElem?_cons_zero, Option.filter_some]
      show coefficient? _ first = _
      split
      · rw [coefficient?, List.find?_cons, beq_self_eq_true]
        rfl
      · exact later
    | succ place =>
      have passed := hyp (first + 1) place
      rw [Nat.add_right_comm, Nat.add_assoc] at passed
      rw [List.getElem?_cons_succ]
      split
      · rw [coefficient?, List.find?_cons, beq_eq_false_iff_ne.mpr (by dsimp only; omega)]
        exact passed
      · exact passed

section Entries

variable {values : List Float} {entries : List Entry}

/-- The entries of a list of values, in any order. -/
theorem coefficient?_eq (perm : entries.Perm (nonzeroEntries 1 values)) :
    coefficient? entries = coefficient? (nonzeroEntries 1 values) :=
  coefficient?_perm (nonzeroEntries_distinct 1 values) perm

/-- What stands at a place is the value there, and zero behind the values. -/
theorem same_coefficient (perm : entries.Perm (nonzeroEntries 1 values)) (place : Nat) :
    Same ((coefficient? entries (place + 1)).getD 0) ((values[place]?).getD 0) := by
  rw [coefficient?_eq perm, Nat.add_comm, coefficient?_nonzeroEntries]
  cases values[place]? with
  | none => exact .refl 0
  | some value =>
    rw [Option.filter_some]
    split
    · exact .refl value
    next isZero => exact .of_not_ne isZero

/-- **The entries of an argument that gives a list of values**, which the argument does if there are
not more of them than the dimension. -/
theorem exists_entries {argument : RowArgument} (lists : argument.Lists values) {dimension : Nat}
    (short : values.length ≤ dimension) :
    ∃ entries, argument.given dimension = .ok entries
      ∧ entries.Perm (nonzeroEntries 1 values) := by
  cases lists with
  | dense => exact ⟨_, if_neg (Nat.not_lt.mpr short), .refl _⟩
  | @sparse count listed indices lengths fits nonzero =>
    have fit := (fit_nonzeroEntries short).perm nonzero
    have taken : (indices.take count).length = (listed.take count).length := by
      rw [List.length_take, List.length_take, lengths]
    have columns := columns_zipWith taken
    refine ⟨_, (sparseEntries_eq_ok_iff count listed indices dimension _).mpr
      ⟨lengths, fits, fun index member => ?_, columns ▸ fit.distinct, rfl⟩, nonzero⟩
    rw [← columns] at member
    obtain ⟨entry, there, rfl⟩ := List.mem_map.mp member
    exact fit.within entry there
  | @text source reads =>
    have count := congrArg List.length reads
    rw [List.length_map, List.length_map] at count
    refine ⟨nonzeroEntries 1 values, ?_, .refl _⟩
    dsimp only [RowArgument.given]
    rw [if_neg (by omega), wordValues_of_map reads]
    rfl

end Entries

/-! ### Padded lists -/

/-- A list of values up to a length, with zeros behind it. -/
def padded (length : Nat) (values : List Float) : List Float :=
  values ++ List.replicate (length - values.length) 0

theorem getElem?_padded {length place : Nat} (values : List Float) (inside : place < length) :
    (padded length values)[place]? = some ((values[place]?).getD 0) := by
  rw [padded, List.getElem?_append]
  split
  next there => rw [List.getElem?_eq_getElem there, Option.getD_some]
  next past =>
    rw [List.getElem?_replicate, if_pos (by omega), List.getElem?_eq_none (Nat.le_of_not_lt past),
      Option.getD_none]

/-- Numbers that are those of a padded list, place by place. -/
theorem forall₂_padded {length : Nat} {read values : List Float} (count : read.length = length)
    (short : values.length ≤ length)
    (each : ∀ place < length, ∃ number, read[place]? = some number
      ∧ Same number ((values[place]?).getD 0)) :
    List.Forall₂ Same read (padded length values) := by
  have count' : (padded length values).length = length := by
    rw [padded, List.length_append, List.length_replicate]
    omega
  refine List.forall₂_iff_get.mpr ⟨by rw [count, count'], fun place inside inside' => ?_⟩
  obtain ⟨number, there, same⟩ := each place (by omega)
  have there' := getElem?_padded values (show place < length by omega)
  rw [List.getElem?_eq_getElem inside, Option.some.injEq] at there
  rw [List.getElem?_eq_getElem inside', Option.some.injEq] at there'
  rw [List.get_eq_getElem, List.get_eq_getElem, there, there']
  exact same

/-- Changes that a map does not see. -/
theorem map_mapIdx_eq {α β : Type} (view : α → β) (items : List α) (change : Nat → α → α)
    (same : ∀ place item, view (change place item) = view item) :
    (items.mapIdx change).map view = items.map view := by
  refine List.ext_getElem? fun place => ?_
  rw [List.getElem?_map, List.getElem?_mapIdx, List.getElem?_map, Option.map_map]
  exact congrArg (Option.map · _) (funext fun item => same place item)

/-! ### What the order of entries matters to a problem -/

theorem sortEntries_perm_eq {first second : List Entry} (distinct : (second.map (·.column)).Nodup)
    (perm : first.Perm second) : sortEntries first = sortEntries second := by
  have distinct' := (perm.map (·.column)).nodup_iff.mpr distinct
  refine eq_of_increasing (increasing_sortEntries distinct') (increasing_sortEntries distinct) ?_
  rw [coefficient?_sortEntries distinct', coefficient?_sortEntries distinct,
    coefficient?_perm distinct perm]

namespace Problem

/-- **The problems are the same**, apart from the order of the entries in rows that are not known to
be in order. -/
structure SameUpToOrder (first second : Problem) : Prop where
  reordered : Reordered first second
  sortedUpTo : first.sortedUpTo = second.sortedUpTo
  ordered : ∀ index, 1 ≤ index → index ≤ first.sortedUpTo → first.row index = second.row index

theorem SameUpToOrder.of_eq {first second : Problem} (same : first = second) :
    SameUpToOrder first second := by
  subst same
  exact ⟨.refl first, rfl, fun _ _ _ => rfl⟩

variable {problem : Problem} {first second entries : List Entry} {index : Nat}

/-- An objective that is set for entries has their coefficients by column. -/
theorem setObjectiveRow_eq (fit : FitEntries problem.columnCount entries) :
    problem.setObjectiveRow entries = { problem with
      columns := problem.columns.mapIdx fun place column =>
        { column with objective := (coefficient? entries (place + 1)).getD 0 } } := by
  have columns := foldl_modify_clear (fun column value => { column with objective := value })
    (fun _ _ _ => rfl) problem.columns fit.distinct fun entry member => (fit.within entry member).1
  rw [setObjectiveRow, foldl_setObjective_eq]
  exact congrArg (fun columns => ({ problem with columns } : Problem)) columns

theorem setRhsVector_eq (fit : FitEntries problem.rowCount entries) :
    problem.setRhsVector entries = { problem with
      rows := problem.rows.mapIdx fun place row =>
        { row with rhs := (coefficient? entries (place + 1)).getD 0 } } := by
  have rows := foldl_modify_clear (fun row value => { row with rhs := value })
    (fun _ _ _ => rfl) problem.rows fit.distinct fun entry member => (fit.within entry member).1
  rw [setRhsVector, foldl_setRhs_eq]
  exact congrArg (fun rows => ({ problem with rows } : Problem)) rows

theorem setObjectiveRow_perm (fit : FitEntries problem.columnCount second)
    (perm : first.Perm second) :
    problem.setObjectiveRow first = problem.setObjectiveRow second := by
  rw [setObjectiveRow_eq (fit.perm perm), setObjectiveRow_eq fit,
    coefficient?_perm fit.distinct perm]

theorem setRhsVector_perm (fit : FitEntries problem.rowCount second) (perm : first.Perm second) :
    problem.setRhsVector first = problem.setRhsVector second := by
  rw [setRhsVector_eq (fit.perm perm), setRhsVector_eq fit, coefficient?_perm fit.distinct perm]

theorem setRow_perm (stored : problem.WellStored) (has : problem.HasRow index)
    (fit : FitEntries problem.columnCount second) (perm : first.Perm second) :
    problem.setRow index first = problem.setRow index second := by
  obtain ⟨rows, laid, count, -, -, -⟩ := stored.exists_rows
  rw [setRow_eq laid (has.inside count), setRow_eq laid (has.inside count),
    sortEntries_perm_eq fit.distinct perm]

/-- **The order of entries is kept only where a row is appended behind rows that are not in order**,
or in row mode. -/
theorem sameUpToOrder_appendRow (stored : problem.WellStored)
    (fit : FitEntries problem.columnCount second) (perm : first.Perm second) (relation : Relation)
    (rhs : Float) (deferOrder : Bool) :
    SameUpToOrder (problem.appendRow first relation rhs deferOrder)
      (problem.appendRow second relation rhs deferOrder) := by
  obtain ⟨rows, laid, count, -, -, -⟩ := stored.exists_rows
  have within := stored.sortedUpTo_le
  rw [appendRow_eq laid, appendRow_eq laid]
  by_cases ordered : (problem.sortedUpTo == rows.length && !deferOrder) = true
  · rw [if_pos ordered, if_pos ordered, if_pos ordered, sortEntries_perm_eq fit.distinct perm]
    exact .of_eq rfl
  · rw [if_neg ordered, if_neg ordered, if_neg ordered]
    refine ⟨⟨rfl, rfl, rfl, rfl, rfl, ?_⟩, rfl, fun index low high => ?_⟩
    · dsimp only
      rw [SparseRows.rows_ofRows, SparseRows.rows_ofRows]
      exact List.rel_append (List.forall₂_same.mpr fun row _ => .refl row) (.cons perm .nil)
    · have inside : index - 1 < rows.length := by
        dsimp only at high
        omega
      rw [row_of_rows rfl, row_of_rows rfl, List.getElem?_append_left inside,
        List.getElem?_append_left inside]

/-! ### What is read of entries -/

variable {values : List Float}

/-- A row whose entries are those of a list of values reads as the list. -/
theorem denseRow_padded (stored : problem.WellStored) (short : values.length ≤ problem.columnCount)
    (holds : coefficient? (problem.row index) = coefficient? (nonzeroEntries 1 values)) :
    List.Forall₂ Same (problem.denseRow index) (padded problem.columnCount values) := by
  refine forall₂_padded (length_denseRow problem index) short fun place inside => ?_
  have read := getElem?_denseRow stored index (show problem.HasColumn (place + 1) from
    ⟨Nat.le_add_left _ _, inside⟩)
  rw [Nat.add_sub_cancel] at read
  refine ⟨_, read, ?_⟩
  show Same ((coefficient? (problem.row index) (place + 1)).getD 0) _
  rw [holds]
  exact same_coefficient (.refl _) place

theorem objective_padded (short : values.length ≤ problem.columnCount)
    (perm : entries.Perm (nonzeroEntries 1 values)) :
    List.Forall₂ Same (problem.setObjectiveRow entries).objective
      (padded problem.columnCount values) := by
  rw [setObjectiveRow_eq ((fit_nonzeroEntries short).perm perm), objective]
  refine forall₂_padded ?_ short fun place inside => ?_
  · rw [List.length_map, List.length_mapIdx]
    rfl
  · refine ⟨_, ?_, same_coefficient perm place⟩
    rw [List.getElem?_map, List.getElem?_mapIdx, List.getElem?_eq_getElem inside]
    rfl

end Problem

/-! ### What an edit does to a model -/

namespace Model

open Problem

variable {Engine : Type}

/-- **The models are the same**, apart from the order of the entries in rows that are not known to
be in order, and from what their buffers were used for. -/
structure SameUpToOrder (first second : Model Engine) : Prop where
  problem : Problem.SameUpToOrder first.problem second.problem
  outstanding : first.work.outstanding = second.work.outstanding
  others : { first with problem := second.problem, work := second.work } = second

/-- A model after an edit that was accepted: the problem may be another, and no solution belongs to
it. -/
structure Edited (before after : Model Engine) : Prop where
  outstanding : after.work.outstanding = before.work.outstanding
  others : after = { before with problem := after.problem, work := after.work, solution := none }

/-- **The objective is a list of values**, padded with zeros. -/
structure ObjectiveSet (values : List Float) (before after : Model Engine) : Prop
    extends Edited before after where
  answer : ∃ read, (after.ask .objective).1 = .ok (.numbers read)
    ∧ List.Forall₂ Same read (padded before.problem.columnCount values)
  columns : after.problem.columns.map ({ · with objective := 0 })
    = before.problem.columns.map ({ · with objective := 0 })
  problem : after.problem = { before.problem with columns := after.problem.columns }

/-- **A row with a list of values was added**, padded with zeros. -/
structure RowAppended (values : List Float) (relation : Relation) (rhs : Float)
    (before after : Model Engine) : Prop extends Edited before after where
  count : (after.ask .rowCount).1 = .ok (.count (before.problem.rowCount + 1))
  answer : ∃ read, (after.ask (.row (before.problem.rowCount + 1))).1 = .ok (.numbers read)
    ∧ List.Forall₂ Same read (padded before.problem.columnCount values)
  infos : after.problem.rows = before.problem.rows ++ [({ relation, rhs } : Row)]
  rows : ∀ index, before.problem.HasRow index →
    after.problem.row index = before.problem.row index
  problem : after.problem = { before.problem with
    rows := after.problem.rows
    matrix := after.problem.matrix
    sortedUpTo := after.problem.sortedUpTo }

/-- **A row is a list of values**, padded with zeros. -/
structure RowReplaced (values : List Float) (index : Nat) (before after : Model Engine) : Prop
    extends Edited before after where
  count : (after.ask .rowCount).1 = .ok (.count before.problem.rowCount)
  answer : ∃ read, (after.ask (.row index)).1 = .ok (.numbers read)
    ∧ List.Forall₂ Same read (padded before.problem.columnCount values)
  rows : ∀ other, before.problem.HasRow other → other ≠ index →
    after.problem.row other = before.problem.row other
  problem : after.problem = { before.problem with matrix := after.problem.matrix }

/-- **The right-hand sides are a list of values**, padded with zeros. -/
structure RhsSet (values : List Float) (before after : Model Engine) : Prop
    extends Edited before after where
  answers : ∀ index, before.problem.HasRow index →
    ∃ read, (after.ask (.rhs index)).1 = .ok (.number read)
      ∧ Same read ((values[index - 1]?).getD 0)
  rows : after.problem.rows.map ({ · with rhs := 0 })
    = before.problem.rows.map ({ · with rhs := 0 })
  problem : after.problem = { before.problem with rows := after.problem.rows }

/-- **Both edits are accepted, and lead to the same model**, about which something holds. -/
def Agree (before : Model Engine) (first second : Edit) (holds : Model Engine → Prop) : Prop :=
  ∃ one other, before.edit first = (.ok true, one) ∧ before.edit second = (.ok true, other)
    ∧ one.SameUpToOrder other ∧ holds one ∧ holds other

/-- The model with another problem, after its buffers were used. -/
def changed (model : Model Engine) (problem : Problem) (work : WorkStack) : Model Engine :=
  { model with problem, work, solution := none }

variable {model : Model Engine} {problem : Problem} {work : WorkStack} {values : List Float}

theorem ask_changed (idle : model.checkIdle = .ok ()) {query : Query}
    (plain : query.ordersRows = false) :
    ((model.changed problem work).ask query).1 = query.answer (model.changed problem work) := by
  have active : (model.changed problem work).checkActive = .ok () := by
    unfold checkIdle at idle
    split at idle
    · cases idle
    next active => exact if_neg active
  rw [ask, active, plain]
  rfl

theorem checkRow_of_hasRow {index : Nat} (has : problem.HasRow index) :
    checkRow problem index = .ok () := by
  obtain ⟨low, high⟩ := has
  exact if_neg (by omega)

theorem ask_row (idle : model.checkIdle = .ok ()) {index : Nat} (has : problem.HasRow index) :
    ((model.changed problem work).ask (.row index)).1
      = .ok (.numbers (problem.denseRow index)) := by
  rw [ask_changed idle rfl, Query.answer, Query.ofRow, changed, checkRow_of_hasRow has]
  rfl

theorem ask_rhs (idle : model.checkIdle = .ok ()) {index : Nat} (has : problem.HasRow index) :
    ((model.changed problem work).ask (.rhs index)).1
      = .ok (.number (problem.rowInfo index).rhs) := by
  rw [ask_changed idle rfl, Query.answer, Query.ofRow, changed, checkRow_of_hasRow has]
  rfl

section Changes

variable {entries : List Entry}

theorem objectiveSet_changed (idle : model.checkIdle = .ok ())
    (short : values.length ≤ model.problem.columnCount)
    (perm : entries.Perm (nonzeroEntries 1 values))
    (outstanding : work.outstanding = model.work.outstanding) :
    ObjectiveSet values model (model.changed (model.problem.setObjectiveRow entries) work) := by
  have read := objective_padded short perm
  refine ⟨⟨outstanding, rfl⟩, ⟨_, ask_changed idle rfl, read⟩, ?_, ?_⟩
  · rw [changed, setObjectiveRow_eq ((fit_nonzeroEntries short).perm perm)]
    exact map_mapIdx_eq _ _ _ fun _ _ => rfl
  · rw [changed, setObjectiveRow_eq ((fit_nonzeroEntries short).perm perm)]

theorem rhsSet_changed (idle : model.checkIdle = .ok ()) (stored : model.problem.WellStored)
    (short : values.length ≤ model.problem.rowCount)
    (perm : entries.Perm (nonzeroEntries 1 values))
    (outstanding : work.outstanding = model.work.outstanding) :
    RhsSet values model (model.changed (model.problem.setRhsVector entries) work) := by
  rw [setRhsVector_eq ((fit_nonzeroEntries short).perm perm)]
  refine ⟨⟨outstanding, rfl⟩, fun index has => ⟨_, ask_rhs idle has, ?_⟩, ?_, rfl⟩
  · obtain ⟨low, high⟩ := has
    have inside : index - 1 < model.problem.rows.length := by
      rw [stored.rows_length_eq]
      omega
    rw [rowInfo, List.getElem?_mapIdx, List.getElem?_eq_getElem inside]
    exact same_coefficient perm (index - 1)
  · exact map_mapIdx_eq _ _ _ fun _ _ => rfl

theorem rowReplaced_changed (idle : model.checkIdle = .ok ()) (stored : model.problem.WellStored)
    {index : Nat} (has : model.problem.HasRow index)
    (short : values.length ≤ model.problem.columnCount)
    (perm : entries.Perm (nonzeroEntries 1 values))
    (outstanding : work.outstanding = model.work.outstanding) :
    RowReplaced values index model (model.changed (model.problem.setRow index entries) work) := by
  have fit := (fit_nonzeroEntries short).perm perm
  have stored' := stored.setRow has fit
  obtain ⟨rows, laid, count, -, -, -⟩ := stored.exists_rows
  have inside := has.inside count
  have made := setRow_eq laid inside entries
  have count' : (model.problem.setRow index entries).rowCount = model.problem.rowCount := by
    rw [made, ← count, rowCount, SparseRows.count_ofRows, List.length_set]
  refine ⟨⟨outstanding, rfl⟩, ?_, ⟨_, ask_row idle ⟨has.1, count' ▸ has.2⟩, ?_⟩, ?_, ?_⟩
  · rw [ask_changed idle rfl, ← count']
    rfl
  · rw [made] at stored' ⊢
    refine denseRow_padded stored' short ?_
    rw [row_of_rows rfl, List.getElem?_set_self inside, Option.getD_some,
      coefficient?_sortEntries fit.distinct, coefficient?_eq perm]
  · intro other there different
    rw [changed, made, row_of_rows rfl, row_of_rows laid, List.getElem?_set_ne]
    obtain ⟨low, -⟩ := there
    have low' := has.1
    omega
  · rw [changed, made]

theorem rowAppended_changed (idle : model.checkIdle = .ok ()) (stored : model.problem.WellStored)
    (short : values.length ≤ model.problem.columnCount)
    (perm : entries.Perm (nonzeroEntries 1 values)) (relation : Relation) (rhs : Float)
    (deferOrder : Bool) (outstanding : work.outstanding = model.work.outstanding) :
    RowAppended values relation rhs model
      (model.changed (model.problem.appendRow entries relation rhs deferOrder) work) := by
  have fit := (fit_nonzeroEntries short).perm perm
  have stored' := stored.appendRow relation rhs deferOrder fit
  have count' := rowCount_appendRow stored entries relation rhs deferOrder
  obtain ⟨rows, laid, count, -, -, -⟩ := stored.exists_rows
  have made := appendRow_eq laid entries relation rhs deferOrder
  refine ⟨⟨outstanding, rfl⟩, ?_, ⟨_, ask_row idle ⟨Nat.le_add_left _ _, count'.ge⟩, ?_⟩, ?_, ?_,
    ?_⟩
  · rw [ask_changed idle rfl, ← count']
    rfl
  · rw [made] at stored' ⊢
    refine denseRow_padded stored' short ?_
    rw [row_of_rows rfl, Nat.add_sub_cancel, ← count, List.getElem?_concat_length, Option.getD_some]
    split
    · rw [coefficient?_sortEntries fit.distinct, coefficient?_eq perm]
    · exact coefficient?_eq perm
  · rw [changed, made]
  · intro index there
    rw [changed, made, row_of_rows rfl, row_of_rows laid,
      List.getElem?_append_left (there.inside count)]
  · rw [changed, made]

end Changes

/-! ### Edits whose arguments give the same values -/

/-- **An edit whose argument gives a list of values** is carried out for the entries of the list, in
some order. -/
theorem edit_of_lists (idle : model.checkIdle = .ok ()) {argument : RowArgument}
    (lists : argument.Lists values) {dimension : Nat} (short : values.length ≤ dimension)
    {edit : Edit} {change : List Entry → Problem}
    (applies : edit.apply model.options.rowMode model.problem model.work
      = Edit.withEntries argument dimension model.work change) :
    ∃ entries work, entries.Perm (nonzeroEntries 1 values)
      ∧ work.outstanding = model.work.outstanding
      ∧ model.edit edit = (.ok true, model.changed (change entries) work) := by
  obtain ⟨entries, given, perm⟩ := exists_entries lists short
  have loads := (load_eq argument dimension model.work).trans given
  cases outcome : argument.load dimension model.work with
  | mk result work =>
    obtain rfl : result = .ok entries := by rw [← loads, outcome]
    refine ⟨entries, work.close model.work.openFrame, perm, rfl, ?_⟩
    rw [Model.edit, idle]
    dsimp only
    rw [applies, Edit.withEntries, outcome]
    rfl

theorem agree_of_lists (idle : model.checkIdle = .ok ()) {argument other : RowArgument}
    (lists : argument.Lists values) (lists' : other.Lists values) {dimension : Nat}
    (short : values.length ≤ dimension) (makes : RowArgument → Edit) {change : List Entry → Problem}
    (applies : ∀ argument, (makes argument).apply model.options.rowMode model.problem model.work
      = Edit.withEntries argument dimension model.work change)
    (same : ∀ first second, FitEntries dimension second → first.Perm second →
      (change first).SameUpToOrder (change second))
    {holds : Model Engine → Prop}
    (makesTrue : ∀ entries work, entries.Perm (nonzeroEntries 1 values) →
      work.outstanding = model.work.outstanding → holds (model.changed (change entries) work)) :
    Agree model (makes argument) (makes other) holds := by
  obtain ⟨first, work, perm, kept, done⟩ := edit_of_lists idle lists short (applies argument)
  obtain ⟨second, work', perm', kept', done'⟩ := edit_of_lists idle lists' short (applies other)
  have fit := (fit_nonzeroEntries short).perm perm'
  refine ⟨_, _, done, done', ⟨?_, kept.trans kept'.symm, rfl⟩, makesTrue _ _ perm kept,
    makesTrue _ _ perm' kept'⟩
  exact same first second fit (perm.trans perm'.symm)

/-- **The forms of an argument mean the same.** Whatever a model's buffers were used for, an edit
that takes a list of values takes it in every form. The model afterwards has the values where they
belong, padded with zeros, and is otherwise what it was. -/
theorem forms_agree (stored : model.problem.WellStored) (active : model.isDisposed = false)
    (idle : model.isRunning = false) :
    (∀ values argument other, values.length ≤ model.problem.columnCount →
        argument.Lists values → other.Lists values →
          Agree model (.setObjectiveRow argument) (.setObjectiveRow other)
              (ObjectiveSet values model)
            ∧ (∀ relation rhs, Agree model (.addRow argument relation rhs)
                (.addRow other relation rhs) (RowAppended values relation rhs model))
            ∧ ∀ index, model.problem.HasRow index → Agree model (.setRow index argument)
                (.setRow index other) (RowReplaced values index model))
      ∧ ∀ values argument other, values.length ≤ model.problem.rowCount →
          argument.Lists values → other.Lists values →
            Agree model (.setRhsVector argument) (.setRhsVector other) (RhsSet values model) := by
  have passes : model.checkIdle = .ok () := by
    rw [checkIdle, active, idle]
    rfl
  refine ⟨fun values argument other short lists lists' => ⟨?_, fun relation rhs => ?_,
    fun index has => ?_⟩, fun values argument other short lists lists' => ?_⟩
  · exact agree_of_lists passes lists lists' short .setObjectiveRow (fun _ => rfl)
      (fun _ _ fit perm => .of_eq (setObjectiveRow_perm fit perm))
      fun _ _ => objectiveSet_changed passes short
  · exact agree_of_lists passes lists lists' short (.addRow · relation rhs) (fun _ => rfl)
      (fun _ _ fit perm =>
        sameUpToOrder_appendRow stored fit perm relation rhs model.options.rowMode)
      fun _ _ perm => rowAppended_changed passes stored short perm relation rhs _
  · refine agree_of_lists passes lists lists' short (.setRow index) (fun _ => ?_)
      (fun _ _ fit perm => .of_eq (setRow_perm stored has fit perm))
      fun _ _ => rowReplaced_changed passes stored has short
    rw [Edit.apply, checkRow_of_hasRow has]
  · exact agree_of_lists passes lists lists' short .setRhsVector (fun _ => rfl)
      (fun _ _ fit perm => .of_eq (setRhsVector_perm fit perm))
      fun _ _ => rhsSet_changed passes stored short

/-- A row that is added as values with indices and as a text. -/
theorem forms_agree_rowHistory :
    Agree ({ problem := Operation.applyAll {} rowHistory } : Model Unit)
      (.addRow (.sparse 2 [3, 2, 7] [2, 1, 1]) .atLeast 1) (.addRow (.text " 2 3 ") .atLeast 1)
      (RowAppended [2, 3] .atLeast 1 { problem := Operation.applyAll {} rowHistory }) :=
  have nonzero : nonzeroEntries 1 [2, 3] = [⟨1, 2⟩, ⟨2, 3⟩] := by
    rw [nonzeroEntries, if_pos (by decide), nonzeroEntries, if_pos (by decide), nonzeroEntries]
  ((forms_agree (wellStored_empty.applyAll fitAll_rowHistory) rfl rfl).1 [2, 3]
    (.sparse 2 [3, 2, 7] [2, 1, 1]) (.text " 2 3 ") (by decide)
    (.sparse rfl (by decide) (nonzero ▸ .swap _ _ _)) (.text rfl)).2.1 .atLeast 1

end Model

end LinearProgram
