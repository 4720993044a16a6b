/-
**What comes back when a written problem is read.**

A reader takes the statements of a written problem one after the other. What it has read after each
of the sections is told column by column and row by row.

* `rereadEntries`, `rereadRow`, `rereadObjective`, `rereadBounds`: the parts of the problem that
  comes back.
* `Legible`: a printable problem with distinct columns and distinct written labels, whose ranges are
  not empty when they are read.
* `takes_bound`, `takes_row`, `takes_range`: the statements one by one.
* **`parse_render`**: reading the text of a legible problem succeeds, and gives `reread`.
-/

import LinearProgram.Proofs.Lp.Progress
import LinearProgram.Proofs.Lp.Statements

namespace LinearProgram.Lp

open Decimal Problem

/-! ### What comes back -/

/-- What a bound or a right-hand side is read as. -/
def rereadLimit (value : Float) : Float :=
  clamp (rereadNumber value)

/-- The entries of a sum. -/
def rereadEntries (entries : List Entry) : List Entry :=
  entries.map fun entry => ⟨entry.column, rereadCoefficient entry.coefficient⟩

@[simp] theorem columns_rereadEntries (entries : List Entry) :
    (rereadEntries entries).map (·.column) = entries.map (·.column) := by
  simp [rereadEntries]

theorem terms_rereadEntries (problem : Problem) (entries : List Entry) :
    (rereadEntries entries).map (fun entry =>
        ⟨problem.columnName entry.column, entry.coefficient⟩)
      = entries.map fun entry =>
          rereadTerm (problem.columnName entry.column) entry.coefficient := by
  simp [rereadEntries, rereadTerm]

theorem fit_rereadEntries {dimension : Nat} {entries : List Entry}
    (fit : FitEntries dimension entries) : FitEntries dimension (rereadEntries entries) := by
  constructor
  · rw [columns_rereadEntries]
    exact fit.distinct
  · intro entry member
    obtain ⟨written, listed, rfl⟩ := List.mem_map.mp member
    exact fit.within written listed

/-- The name that a row is written with, if it is. -/
def rowLabel (problem : Problem) (index : Nat) : Option String :=
  if isLabelled (problem.rowInfo index) (writtenEntries problem index).length then
    some (problem.rowName index)
  else none

/-- A row before its range is read. -/
def rereadPlainRow (problem : Problem) (index : Nat) : Row where
  relation := (problem.rowInfo index).relation
  rhs := rereadLimit (problem.rowInfo index).rhs
  name := Progress.storedLabel (rowLabel problem index) index

/-- The limit of a row on the side where the right-hand side is not. -/
def farLimit (info : Row) : Float :=
  match info.relation with
  | .atMost => info.bounds.1
  | _ => info.bounds.2

/-- A row. -/
def rereadRow (problem : Problem) (index : Nat) : Row :=
  if (problem.rowInfo index).range.isSome then
    Progress.limited (rereadPlainRow problem index)
      (rereadLimit (farLimit (problem.rowInfo index)))
  else rereadPlainRow problem index

section Rows

variable (problem : Problem) (index : Nat)

@[simp] theorem relation_rereadRow :
    (rereadRow problem index).relation = (problem.rowInfo index).relation := by
  unfold rereadRow
  split
  · rw [Progress.relation_limited, rereadPlainRow]
  · rw [rereadPlainRow]

@[simp] theorem rhs_rereadRow :
    (rereadRow problem index).rhs = rereadLimit (problem.rowInfo index).rhs := by
  unfold rereadRow
  split
  · rw [Progress.rhs_limited, rereadPlainRow]
  · rw [rereadPlainRow]

@[simp] theorem name_rereadRow :
    (rereadRow problem index).name = Progress.storedLabel (rowLabel problem index) index := by
  unfold rereadRow
  split
  · rw [Progress.name_limited, rereadPlainRow]
  · rw [rereadPlainRow]

end Rows

/-- A column with the objective coefficient that is read. -/
def rereadObjective (problem : Problem) (index : Nat) (column : Column) : Column :=
  { column with objective := rereadCoefficient (problem.column index).objective }

/-- A column with the bounds that are read. -/
def rereadBounds (problem : Problem) (index : Nat) (column : Column) : Column :=
  let given := problem.column index
  if given.lower == given.upper then
    { column with lower := rereadLimit given.lower, upper := rereadLimit given.lower }
  else if given.upper == infinity then { column with lower := rereadLimit given.lower }
  else if given.lower == 0 then { column with upper := rereadLimit given.upper }
  else { column with lower := rereadLimit given.lower, upper := rereadLimit given.upper }

section Columns

variable (problem : Problem) (index : Nat) (column : Column)

@[simp] theorem name_rereadBounds : (rereadBounds problem index column).name = column.name := by
  unfold rereadBounds
  dsimp only
  split_ifs <;> rfl

@[simp] theorem objective_rereadBounds :
    (rereadBounds problem index column).objective = column.objective := by
  unfold rereadBounds
  dsimp only
  split_ifs <;> rfl

@[simp] theorem integer_rereadBounds :
    (rereadBounds problem index column).integer = column.integer := by
  unfold rereadBounds
  dsimp only
  split_ifs <;> rfl

end Columns

/-- A column that is declared to be integer. -/
def rereadInteger (_ : Nat) (column : Column) : Column :=
  { column with integer := true }

/-- The columns whose bounds are written. -/
def boundedColumns (problem : Problem) : List Nat :=
  problem.columnIndices.filter fun index => !(problem.column index).hasDefaultBounds

/-- The columns that are declared to be integer. -/
def integerColumns (problem : Problem) : List Nat :=
  problem.columnIndices.filter fun index => (problem.column index).integer

/-- The columns that the rows up to one mention. -/
def rowMentions (problem : Problem) (count : Nat) : List Nat :=
  (List.range' 1 count).flatMap fun index => (writtenEntries problem index).map (·.column)

theorem occurrences_eq (problem : Problem) :
    occurrences problem
      = rowMentions problem problem.rowCount ++ boundedColumns problem ++ integerColumns problem :=
  rfl

/-! ### The reader after each section -/

namespace Progress

/-- Before anything is read. -/
def start (problem : Problem) : Progress where
  view := fun index => { name := storedName problem index }

/-- After the objective. -/
def afterObjective (problem : Problem) : Progress :=
  let listed := List.range' 1 (declaredColumns problem)
  { ((start problem).mention listed).edit listed (rereadObjective problem) with
    maximize := problem.maximize
    constant := rereadConstant problem.constant
    hasObjective := true }

/-- After some of the rows. -/
def afterRows (problem : Problem) (count : Nat) : Progress :=
  { (afterObjective problem).mention (rowMentions problem count) with
    rows := (List.range' 1 count).map (rereadRow problem)
    lists := (List.range' 1 count).map fun index => sortEntries (rereadEntries (writtenEntries problem index))
    labels := (List.range' 1 count).flatMap fun index =>
      ((rowLabel problem index).map fun name => (name, index)).toList }

/-- Some columns are mentioned and change. -/
def visit (progress : Progress) (indices : List Nat) (change : Nat → Column → Column) : Progress :=
  (progress.mention indices).edit indices change

/-- After everything. -/
def afterAll (problem : Problem) : Progress :=
  ((afterRows problem problem.rowCount).visit (boundedColumns problem) (rereadBounds problem)).visit
    (integerColumns problem) rereadInteger

end Progress

/-- **The problem that comes back.** -/
def reread (problem : Problem) : Problem :=
  (Progress.afterAll problem).reader.problem

/-- The rows that are written with their names. -/
def labelledRows (problem : Problem) : List Nat :=
  problem.rowIndices.filter fun index =>
    isLabelled (problem.rowInfo index) (writtenEntries problem index).length

/-- The names that rows are written with, in order. -/
def writtenLabels (problem : Problem) : List String :=
  (labelledRows problem).map problem.rowName

theorem rowLabel_eq_some {problem : Problem} {index : Nat} {label : String}
    (member : index ∈ problem.rowIndices) (own : rowLabel problem index = some label) :
    index ∈ labelledRows problem ∧ problem.rowName index = label := by
  unfold rowLabel at own
  split at own
  next labelled => exact ⟨List.mem_filter.mpr ⟨member, labelled⟩, Option.some.inj own⟩
  next => cases own

/-- **What reading can bring back**: a printable problem in which neither two columns nor two written
labels of rows are the same, and whose ranges are not empty when they are read. -/
structure Legible (problem : Problem) : Prop where
  stored : problem.WellStored
  printable : Printable problem
  columnsDiffer : ColumnsDiffer problem
  labelsDiffer : (writtenLabels problem).Nodup
  roomy : ∀ index ∈ problem.rowIndices, (problem.rowInfo index).range.isSome →
    Progress.Roomy (rereadPlainRow problem index) (rereadLimit (farLimit (problem.rowInfo index)))

/-! ### Columns one by one -/

namespace Progress

variable {problem : Problem} {progress : Progress}

theorem visit_cons (progress : Progress) {index : Nat} {rest : List Nat} (new : index ∉ rest)
    (change : Nat → Column → Column) :
    (progress.visit [index] change).visit rest change = progress.visit (index :: rest) change :=
  edit_cons (progress.mention (index :: rest)) new change

theorem visit_nil (progress : Progress) (change : Nat → Column → Column) :
    progress.visit [] change = progress :=
  edit_nil progress change

theorem Follows.visit (follows : progress.Follows problem) {indices : List Nat}
    {change : Nat → Column → Column} (inside : ∀ index ∈ indices, problem.HasColumn index)
    (keeps : ∀ index column, (change index column).name = column.name) :
    (progress.visit indices change).Follows problem :=
  (follows.mention fun index member => (inside index member).2).edit
    (fun _ member => le_reached_of_mem _ member) keeps

/-- Bounds are set on a column that was mentioned. -/
theorem forceBounds_eq (progress : Progress) {index : Nat} (low : 1 ≤ index) {lower upper : Float}
    {change : Nat → Column → Column}
    (same : change index (progress.view index) = { progress.view index with lower, upper }) :
    progress.reader.change (·.forceBounds index lower upper)
      = (progress.edit [index] change).reader := by
  have forced := modifyColumn_eq progress low fun _ column => { column with lower, upper }
  refine forced.trans (congrArg (fun view => ({ progress with view } : Progress).reader) ?_)
  funext other
  by_cases here : other ∈ [index]
  · rw [if_pos here, if_pos here, List.mem_singleton.mp here, same]
  · rw [if_neg here, if_neg here]

section Visits

variable (follows : progress.Follows problem) (differ : ColumnsDiffer problem) {index : Nat}
  (has : problem.HasColumn index) (next : index ≤ progress.count + 1)

include follows differ has next

theorem declare_eq :
    progress.reader.declare .integer (problem.columnName index)
      = (progress.visit [index] rereadInteger).reader := by
  rw [Reader.declare, column_eq follows differ has next]
  exact modifyColumn_eq _ has.1 rereadInteger

theorem bound_eq (line : Nat) (relation : Relation) (value : Float)
    {change : Nat → Column → Column}
    (same : change index (progress.view index) =
      match relation with
      | .atLeast => { progress.view index with lower := clamp value }
      | .atMost => { progress.view index with upper := clamp value }
      | .equal => { progress.view index with lower := clamp value, upper := clamp value }) :
    progress.reader.bound line ⟨problem.columnName index, 1⟩ relation (value - 0)
      = .ok (progress.visit [index] change).reader := by
  have known : (progress.mention [index]).reader.problem.column index = progress.view index :=
    column_reader _ has.1 (le_reached_of_mem _ List.mem_cons_self)
  have nonzero : ¬ ((1 : Float) == 0) = true := by decide
  have positive : ¬ (1 : Float) < 0 := by decide
  rw [Reader.bound, if_neg nonzero, column_eq follows differ has next]
  refine congrArg Except.ok ?_
  dsimp only
  rw [sub_zero, div_one, if_neg positive]
  unfold Reader.change
  cases relation with
  | atLeast | atMost =>
    dsimp only
    rw [known]
    exact forceBounds_eq (progress.mention [index]) has.1 same
  | equal => exact forceBounds_eq (progress.mention [index]) has.1 same

theorem boundBoth_eq (line : Nat) (lower upper : Float) {change : Nat → Column → Column}
    (same : change index (progress.view index)
      = { progress.view index with lower := clamp lower, upper := clamp upper }) :
    progress.reader.boundBoth line ⟨problem.columnName index, 1⟩ (clamp (lower - 0))
        (clamp (upper - 0))
      = .ok (progress.visit [index] change).reader := by
  have nonzero : ¬ ((1 : Float) == 0) = true := by decide
  have positive : (0 : Float) < 1 := by decide
  rw [Reader.boundBoth, if_neg nonzero, column_eq follows differ has next]
  refine congrArg Except.ok ?_
  dsimp only
  simp only [if_pos positive, sub_zero, div_one]
  exact forceBounds_eq (progress.mention [index]) has.1 same

/-- **The bounds of a column.** -/
theorem takes_bound (printable : Printable problem) :
    Takes (boundTokens (problem.columnName index) (problem.column index)) progress.reader
      (progress.visit [index] (rereadBounds problem)).reader := by
  obtain ⟨lower, upper⟩ := printable.bounds index (mem_columnIndices.mpr has)
  obtain ⟨some, reads⟩ := reads_number lower
  obtain ⟨some', reads'⟩ := reads_number upper
  unfold boundTokens
  split
  next equal =>
    refine (asks_single (reads_name _) reads rfl rfl some .equal).takes fun line => ?_
    exact bound_eq follows differ has next line .equal _ (if_pos equal)
  next different =>
  split
  next infinite =>
    refine (asks_single (reads_name _) reads rfl rfl some .atLeast).takes fun line => ?_
    exact bound_eq follows differ has next line .atLeast _
      ((if_neg different).trans (if_pos infinite))
  next finite =>
  split
  next zero =>
    refine (asks_single (reads_name _) reads' rfl rfl some' .atMost).takes fun line => ?_
    refine bound_eq follows differ has next line .atMost _ ?_
    exact (if_neg different).trans ((if_neg finite).trans (if_pos zero))
  next nonzero =>
    refine (asks_between reads (reads_name _) reads' rfl rfl rfl).takes fun line => ?_
    refine boundBoth_eq follows differ has next line _ _ ?_
    exact (if_neg different).trans ((if_neg finite).trans (if_neg nonzero))

end Visits

/-! ### Columns one after the other -/

theorem takesAll_bounds (printable : Printable problem) (differ : ColumnsDiffer problem)
    {indices : List Nat} (follows : progress.Follows problem)
    (inOrder : InOrder progress.count indices) (distinct : indices.Nodup)
    (has : ∀ index ∈ indices, problem.HasColumn index) :
    TakesAll
      (indices.map fun index => boundTokens (problem.columnName index) (problem.column index))
      progress.reader (progress.visit indices (rereadBounds problem)).reader := by
  induction indices generalizing progress with
  | nil =>
    rw [visit_nil]
    exact .nil _
  | cons index rest hyp =>
    obtain ⟨⟨-, next⟩, later⟩ := inOrder
    obtain ⟨new, distinct⟩ := List.nodup_cons.mp distinct
    have here := has index List.mem_cons_self
    rw [← visit_cons progress new]
    refine .cons (takes_bound follows differ here next printable) ?_
    exact hyp (follows.visit (List.forall_mem_singleton.mpr here) (name_rereadBounds problem)) later
      distinct fun other member => has other (List.mem_cons_of_mem _ member)

theorem foldl_declare (differ : ColumnsDiffer problem) {indices : List Nat}
    (follows : progress.Follows problem) (inOrder : InOrder progress.count indices)
    (distinct : indices.Nodup) (has : ∀ index ∈ indices, problem.HasColumn index) :
    (indices.map problem.columnName).foldl (fun reader name => reader.declare .integer name)
        progress.reader
      = (progress.visit indices rereadInteger).reader := by
  induction indices generalizing progress with
  | nil => rw [visit_nil]; rfl
  | cons index rest hyp =>
    obtain ⟨⟨-, next⟩, later⟩ := inOrder
    obtain ⟨new, distinct⟩ := List.nodup_cons.mp distinct
    have here := has index List.mem_cons_self
    rw [List.map_cons, List.foldl_cons, declare_eq follows differ here next,
      ← visit_cons progress new]
    exact hyp (follows.visit (List.forall_mem_singleton.mpr here) fun _ _ => rfl) later distinct
      fun other member => has other (List.mem_cons_of_mem _ member)

theorem foldl_modifyColumn (progress : Progress) {indices : List Nat} (distinct : indices.Nodup)
    (low : ∀ index ∈ indices, 1 ≤ index) (change : Nat → Column → Column) :
    indices.foldl (fun problem index => problem.modifyColumn index (change index))
        progress.reader.problem
      = (progress.edit indices change).reader.problem := by
  induction indices generalizing progress with
  | nil => rw [edit_nil]; rfl
  | cons index rest hyp =>
    obtain ⟨new, distinct⟩ := List.nodup_cons.mp distinct
    have first := congrArg Reader.problem
      (modifyColumn_eq progress (low index List.mem_cons_self) change)
    rw [List.foldl_cons, ← edit_cons progress new,
      ← hyp _ distinct fun other member => low other (List.mem_cons_of_mem _ member), ← first]
    rfl

/-! ### The objective -/

theorem start_follows (problem : Problem) : (start problem).Follows problem where
  count_le := Nat.zero_le _
  names := fun _ => rfl
  fresh := fun _ _ => rfl

theorem afterObjective_follows (problem : Problem) :
    (afterObjective problem).Follows problem := by
  have follows : ((start problem).visit (List.range' 1 (declaredColumns problem))
      (rereadObjective problem)).Follows problem :=
    (start_follows problem).visit (fun _ => hasColumn_of_declared) fun _ _ => rfl
  exact ⟨follows.count_le, follows.names, follows.fresh⟩

theorem count_afterObjective (problem : Problem) :
    (afterObjective problem).count = declaredColumns problem :=
  (reached_range' 0 _).trans (Nat.zero_add _)

/-- Setting the coefficients that are read changes the columns that the objective lists. -/
theorem foldl_setObjective (problem : Problem) (progress : Progress) :
    (rereadEntries (objectiveEntries problem)).foldl
        (fun given entry => given.setObjective entry.column entry.coefficient)
        progress.reader.problem
      = (progress.edit (List.range' 1 (declaredColumns problem))
          (rereadObjective problem)).reader.problem := by
  have low : ∀ index ∈ List.range' 1 (declaredColumns problem), 1 ≤ index :=
    fun index member => (List.mem_range'_1.mp member).1
  rw [rereadEntries, objectiveEntries, List.map_map, List.foldl_map]
  exact foldl_modifyColumn progress List.nodup_range' low (rereadObjective problem)

/-- **The objective.** -/
theorem takes_objectiveTokens (legible : Legible problem) :
    Takes (objectiveTokens problem) {} (afterObjective problem).reader := by
  have printable := objectiveEntries_printable legible.printable
  have fit := fit_rereadEntries (fit_objectiveEntries problem)
  have reads := reads_terms (legible.columnsDiffer.nodup_names (fit_objectiveEntries problem))
    (fun entry member => (printable entry member).2) legible.printable.constant
  let begun : Progress := { start problem with hasObjective := true }
  have begins : begun.Follows problem := ⟨Nat.zero_le _, fun _ => rfl, fun _ _ => rfl⟩
  have columns : (rereadEntries (objectiveEntries problem)).map (·.column)
      = List.range' 1 (declaredColumns problem) := by
    rw [columns_rereadEntries, columns_objectiveEntries]
  have inOrder : InOrder begun.count ((rereadEntries (objectiveEntries problem)).map (·.column)) := by
    rw [columns]
    exact inOrder_range' 0 _
  have found := entries_eq begins legible.columnsDiffer inOrder fit.within
  rw [columns, terms_rereadEntries] at found
  let mentioned := begun.mention (List.range' 1 (declaredColumns problem))
  have sets := foldl_setObjective problem { mentioned with maximize := problem.maximize }
  have done : mentioned.reader.change (fun given =>
      { (rereadEntries (objectiveEntries problem)).foldl
          (fun given entry => given.setObjective entry.column entry.coefficient)
          { given with maximize := problem.maximize } with
        constant := rereadConstant problem.constant })
      = (afterObjective problem).reader :=
    congrArg (fun given => ({ mentioned.reader with
      problem := { given with constant := rereadConstant problem.constant } } : Reader)) sets
  have takes := takes_objective problem.maximize reads
    (show ({} : Reader).hasObjective = false from rfl)
  rw [show ({ ({} : Reader) with hasObjective := true } : Reader) = begun.reader from rfl] at takes
  dsimp only at takes
  rw [found] at takes
  rw [objectiveTokens, List.append_assoc, ← done]
  exact takes

/-! ### Rows -/

/-- The tokens of the left side of a row. -/
def leftTokens (problem : Problem) (index : Nat) : List Token :=
  if (writtenEntries problem index).isEmpty then [.number 0]
  else (writtenEntries problem index).flatMap fun entry =>
    termTokens (problem.columnName entry.column) entry.coefficient

/-- **The left side of a row.** -/
theorem reads_left (legible : Legible problem) {index : Nat} (member : index ∈ problem.rowIndices) :
    leftTokens problem index ≠ [] ∧ Reads (leftTokens problem index)
      { terms := (rereadEntries (writtenEntries problem index)).map fun entry =>
          ⟨problem.columnName entry.column, entry.coefficient⟩ } := by
  have printable := legible.printable.coefficients index member
  unfold leftTokens
  cases entries : writtenEntries problem index with
  | nil => exact ⟨List.cons_ne_nil _ _, reads_zero⟩
  | cons first rest =>
    rw [← entries]
    have some : (writtenEntries problem index).isEmpty = false := by rw [entries]; rfl
    have names := legible.columnsDiffer.nodup_names (fit_writtenEntries legible.stored index)
    have reads := reads_terms names (fun entry member => (printable entry member).2)
      (show (0 : Float).isNaN = false by decide)
    have zero : ((0 : Float) == 0) = true := by decide
    rw [constantTokens, if_pos zero, List.append_nil, rereadConstant, if_pos zero] at reads
    rw [some, if_neg Bool.false_ne_true, terms_rereadEntries]
    refine ⟨?_, reads⟩
    rw [entries, List.flatMap_cons]
    refine List.append_ne_nil_of_left_ne_nil ?_ _
    unfold termTokens
    split_ifs <;> exact List.cons_ne_nil _ _

/-- **A row.** -/
theorem takes_row (legible : Legible problem) (follows : progress.Follows problem)
    (even : progress.rows.length = progress.lists.length)
    (member : progress.lists.length + 1 ∈ problem.rowIndices)
    (inOrder : InOrder progress.count
      ((writtenEntries problem (progress.lists.length + 1)).map (·.column)))
    (new : ∀ name ∈ rowLabel problem (progress.lists.length + 1),
      progress.labels.lookup name = none) :
    Takes (rowTokens problem (progress.lists.length + 1)) progress.reader
      (progress.addRow (rowLabel problem (progress.lists.length + 1))
        (rereadEntries (writtenEntries problem (progress.lists.length + 1)))
        (rereadPlainRow problem (progress.lists.length + 1))).reader := by
  generalize place : progress.lists.length + 1 = index at member inOrder new ⊢
  obtain ⟨nonempty, reads⟩ := reads_left legible member
  obtain ⟨nonempty', reads'⟩ := reads_number (legible.printable.rhs index member)
  have fit := fit_rereadEntries (fit_writtenEntries legible.stored index)
  rw [← columns_rereadEntries] at inOrder
  have added (line : Nat) := addRow_eq follows legible.columnsDiffer even fit inOrder new line
    (problem.rowInfo index).relation (clamp (rereadNumber (problem.rowInfo index).rhs - 0))
  rw [place, sub_zero] at added
  have tokens : rowTokens problem index
      = (if isLabelled (problem.rowInfo index) (writtenEntries problem index).length then
          [.name (problem.rowName index), .colon] else [])
        ++ leftTokens problem index
        ++ .relation (problem.rowInfo index).relation
          :: numberTokens (problem.rowInfo index).rhs := rfl
  rw [tokens]
  -- Without its label a row has two terms at least, or it would be read as limits of a variable.
  by_cases labelled :
      isLabelled (problem.rowInfo index) (writtenEntries problem index).length = true
  · rw [if_pos labelled]
    have label : rowLabel problem index = some (problem.rowName index) := if_pos labelled
    have asks := asks_labelled (legible.printable.rowNames index member) reads reads' rfl nonempty
      nonempty' (problem.rowInfo index).relation
    refine asks.takes fun line => ?_
    rw [label] at added ⊢
    show progress.reader.addRow line _ _ _ (clamp (_ - 0)) = _
    rw [sub_zero, added line, rereadPlainRow, label]
    rfl
  · have label : rowLabel problem index = none := if_neg labelled
    rw [if_neg labelled, List.nil_append]
    have several : 2 ≤ (writtenEntries problem index).length := by
      rw [isLabelled, Bool.or_eq_true, Bool.or_eq_true, decide_eq_true_eq] at labelled
      omega
    have asks := asks_row reads reads' rfl nonempty' (by
      rw [List.length_map, rereadEntries, List.length_map]
      exact several) nonempty (problem.rowInfo index).relation
    refine asks.takes fun line => ?_
    rw [label] at added ⊢
    show progress.reader.addRow line none _ _ (clamp (rereadNumber _ - 0)) = _
    rw [sub_zero, added line, rereadPlainRow, label]
    rfl

/-- **The limit that a range adds to a row.** -/
theorem takes_range (legible : Legible problem) {index : Nat} (member : index ∈ problem.rowIndices)
    (ranged : (problem.rowInfo index).range.isSome) {rows : List Row}
    (last : progress.rows = rows ++ [rereadPlainRow problem index])
    (labelled : progress.labels.lookup (problem.rowName index) = some (rows.length + 1)) :
    Takes (rangeTokens (problem.rowName index) (problem.rowInfo index)) progress.reader
      ({ progress with rows := rows ++ [rereadRow problem index] } : Progress).reader := by
  have tokens : rangeTokens (problem.rowName index) (problem.rowInfo index)
      = .name (problem.rowName index) :: .colon
        :: .relation (limitSide (rereadPlainRow problem index))
        :: numberTokens (farLimit (problem.rowInfo index)) := by
    unfold rangeTokens limitSide farLimit rereadPlainRow
    cases (problem.rowInfo index).relation <;> rfl
  have number : (farLimit (problem.rowInfo index)).isNaN = false := by
    obtain ⟨low, high⟩ := legible.printable.limits index member ranged
    unfold farLimit
    split
    · exact low
    · exact high
  obtain ⟨nonempty, reads⟩ := reads_number number
  have isRowName := legible.printable.rowNames index member
  rw [tokens]
  refine (asks_limit isRowName reads rfl nonempty _).takes fun line => ?_
  have moved := moveLimit_eq last labelled (legible.roomy index member ranged) line
  rw [rereadRow, if_pos ranged]
  exact moved

/-! ### Rows one after the other -/

theorem rowMentions_succ (problem : Problem) (count : Nat) :
    rowMentions problem (count + 1)
      = rowMentions problem count ++ (rereadEntries (writtenEntries problem (count + 1))).map (·.column) := by
  rw [rowMentions, List.range'_1_concat, List.flatMap_append, List.flatMap_singleton,
    columns_rereadEntries, Nat.add_comm 1]
  rfl

/-- The columns that some of the rows mention come first among the occurrences. -/
theorem inOrder_rowMentions (legible : Legible problem) {count : Nat}
    (inside : count ≤ problem.rowCount) :
    InOrder (declaredColumns problem) (rowMentions problem count) := by
  have all := inOrder_occurrences legible.stored
  rw [occurrences_eq, List.append_assoc] at all
  have rows := (inOrder_append.mp all).1
  have split : List.range' 1 problem.rowCount
      = List.range' 1 count ++ List.range' (1 + count) (problem.rowCount - count) := by
    rw [List.range'_append_1, Nat.add_sub_cancel' inside]
  rw [rowMentions, split, List.flatMap_append] at rows
  exact (inOrder_append.mp rows).1

theorem hasColumn_of_mem_rowMentions (legible : Legible problem) {count index : Nat}
    (member : index ∈ rowMentions problem count) : problem.HasColumn index := by
  obtain ⟨row, -, member⟩ := List.mem_flatMap.mp member
  obtain ⟨entry, written, rfl⟩ := List.mem_map.mp member
  exact (fit_writtenEntries legible.stored row).within entry written

theorem afterRows_follows (legible : Legible problem) (count : Nat) :
    (afterRows problem count).Follows problem := by
  have inside : ∀ index ∈ rowMentions problem count, index ≤ problem.columnCount :=
    fun _ member => (hasColumn_of_mem_rowMentions legible member).2
  have follows := (afterObjective_follows problem).mention inside
  exact ⟨follows.count_le, follows.names, follows.fresh⟩

theorem length_lists (problem : Problem) (count : Nat) :
    (afterRows problem count).lists.length = count := by
  rw [afterRows, List.length_map, List.length_range']

theorem length_rows (problem : Problem) (count : Nat) :
    (afterRows problem count).rows.length = count := by
  rw [afterRows, List.length_map, List.length_range']

theorem afterRows_succ (problem : Problem) (count : Nat) :
    afterRows problem (count + 1)
      = (afterRows problem count).addRow (rowLabel problem (count + 1))
          (rereadEntries (writtenEntries problem (count + 1))) (rereadRow problem (count + 1)) := by
  rw [addRow, length_lists]
  unfold afterRows mention
  simp only [rowMentions_succ, reached_append, List.range'_1_concat, List.map_append,
    List.flatMap_append, List.map_singleton, List.flatMap_singleton, Nat.add_comm 1]

/-- The rows before one have other labels. -/
theorem lookup_labels (legible : Legible problem) {count : Nat}
    (inside : count + 1 ≤ problem.rowCount) {label : String}
    (own : rowLabel problem (count + 1) = some label) :
    (afterRows problem count).labels.lookup label = none := by
  refine List.lookup_eq_none_iff.mpr fun pair member => ?_
  obtain ⟨index, listed, member⟩ := List.mem_flatMap.mp member
  obtain ⟨name, named, rfl⟩ := Option.map_eq_some_iff.mp (Option.mem_toList.mp member)
  rw [List.mem_range'_1] at listed
  rw [bne_iff_ne]
  rintro rfl
  obtain ⟨here, name⟩ := rowLabel_eq_some (mem_rowIndices.mpr ⟨Nat.le_add_left _ _, inside⟩) own
  obtain ⟨there, name'⟩ := rowLabel_eq_some (mem_rowIndices.mpr ⟨listed.1, by omega⟩) named
  have equal := List.inj_on_of_nodup_map legible.labelsDiffer here there (name.trans name'.symm)
  omega

/-- **The statements of a row.** -/
theorem takesAll_row (legible : Legible problem) {count : Nat}
    (inside : count + 1 ≤ problem.rowCount) :
    TakesAll (rowStatements problem (count + 1)) (afterRows problem count).reader
      (afterRows problem (count + 1)).reader := by
  have member : count + 1 ∈ problem.rowIndices :=
    mem_rowIndices.mpr ⟨Nat.le_add_left _ _, inside⟩
  have inOrder := inOrder_rowMentions legible inside
  rw [rowMentions_succ, inOrder_append, columns_rereadEntries, ← count_afterObjective] at inOrder
  have new : ∀ name ∈ rowLabel problem (count + 1),
      (afterRows problem count).labels.lookup name = none :=
    fun name named => lookup_labels legible inside named
  have place := length_lists problem count
  have row := takes_row legible (afterRows_follows legible count)
    ((length_rows problem count).trans place.symm) (by rw [place]; exact member)
    (by rw [place]; exact inOrder.2) (by rw [place]; exact new)
  rw [place] at row
  rw [afterRows_succ]
  unfold rowStatements
  by_cases ranged : (problem.rowInfo (count + 1)).range.isSome = true
  · have label : rowLabel problem (count + 1) = some (problem.rowName (count + 1)) := by
      refine if_pos ?_
      rw [isLabelled, ranged, Bool.or_true]
    have labelled : ((afterRows problem count).addRow (rowLabel problem (count + 1))
        (rereadEntries (writtenEntries problem (count + 1))) (rereadPlainRow problem (count + 1))).labels.lookup
          (problem.rowName (count + 1)) = some ((afterRows problem count).rows.length + 1) := by
      rw [addRow, label, List.lookup_append, lookup_labels legible inside label, place, length_rows,
        Option.none_or]
      exact List.lookup_cons_self
    rw [if_pos ranged]
    exact .cons row (.cons (takes_range legible member ranged rfl labelled) (.nil _))
  · rw [if_neg ranged, rereadRow, if_neg ranged]
    exact .cons row (.nil _)

theorem takesAll_rows (legible : Legible problem) {count : Nat}
    (inside : count ≤ problem.rowCount) :
    TakesAll ((List.range' 1 count).flatMap (rowStatements problem))
      (afterObjective problem).reader (afterRows problem count).reader := by
  induction count with
  | zero => exact .nil _
  | succ count hyp =>
    have before := hyp (Nat.le_of_succ_le inside)
    rw [List.range'_1_concat, List.flatMap_append, List.flatMap_singleton, Nat.add_comm 1]
    exact before.append (takesAll_row legible inside)

/-! ### Everything -/

theorem boundStatements_eq (problem : Problem) :
    problem.columnIndices.flatMap (boundStatements problem)
      = (boundedColumns problem).map fun index =>
          boundTokens (problem.columnName index) (problem.column index) := by
  rw [boundedColumns]
  induction problem.columnIndices with
  | nil => rfl
  | cons index rest hyp =>
    rw [List.flatMap_cons, hyp, boundStatements, List.filter_cons]
    cases (problem.column index).hasDefaultBounds with
    | true => rfl
    | false => rfl

/-- **The statements of a written problem.** -/
theorem takesAll_statementsOf (legible : Legible problem) :
    TakesAll (statementsOf problem) {} (afterAll problem).reader := by
  have all := inOrder_occurrences legible.stored
  rw [occurrences_eq, inOrder_append, inOrder_append, reached_append] at all
  obtain ⟨⟨-, bounds⟩, integers⟩ := all
  rw [← count_afterObjective] at bounds integers
  have has : ∀ index ∈ boundedColumns problem, problem.HasColumn index := fun index member =>
    mem_columnIndices.mp (List.mem_filter.mp member).1
  have has' : ∀ index ∈ integerColumns problem, problem.HasColumn index := fun index member =>
    mem_columnIndices.mp (List.mem_filter.mp member).1
  have distinct : (boundedColumns problem).Nodup := List.Nodup.filter _ List.nodup_range'
  have distinct' : (integerColumns problem).Nodup := List.Nodup.filter _ List.nodup_range'
  have follows := afterRows_follows legible problem.rowCount
  have first := takesAll_bounds legible.printable legible.columnsDiffer follows bounds distinct has
  have follows' := follows.visit has (name_rereadBounds problem)
  have second : TakesAll (integerStatements problem)
      ((afterRows problem problem.rowCount).visit (boundedColumns problem)
        (rereadBounds problem)).reader (afterAll problem).reader := by
    have names : integerNames problem = (integerColumns problem).map problem.columnName := rfl
    have declared := foldl_declare legible.columnsDiffer follows' integers distinct' has'
    unfold integerStatements
    split
    next none =>
      rw [names, List.isEmpty_map, List.isEmpty_iff] at none
      rw [afterAll, none, visit_nil]
      exact .nil _
    next some =>
      have some : integerNames problem ≠ [] := fun none => some (by rw [none]; rfl)
      rw [afterAll, ← declared, ← names]
      exact .cons (takes_integers some _) (.nil _)
  rw [statementsOf, boundStatements_eq]
  exact ((TakesAll.cons (takes_objectiveTokens legible)
    (takesAll_rows legible (Nat.le_refl _))).append first).append second

end Progress

/-- **Reading the text of a legible problem succeeds.** -/
theorem parse_render {problem : Problem} (legible : Legible problem) :
    parse (render problem) = .ok (reread problem) := by
  have lexes := lexes_render legible.printable
  obtain ⟨located, scanned, same⟩ := lexes [] [] scans_nil 1
  rw [List.append_nil] at scanned same
  have taken := statements_closed (Progress.takesAll_statementsOf legible) same
  rw [parse, scanned]
  show (do let reader ← Reader.statements {} [] located; return reader.problem) = _
  rw [taken]
  rfl

/-! ### The parts of what comes back -/

section Parts

variable {problem : Problem} {index : Nat}

theorem rowCount_reread (problem : Problem) : (reread problem).rowCount = problem.rowCount :=
  (SparseRows.count_ofRows _).trans (Progress.length_lists problem problem.rowCount)

theorem columnCount_reread (stored : problem.WellStored) :
    (reread problem).columnCount = problem.columnCount := by
  have all := reached_occurrences stored
  rw [occurrences_eq, reached_append, reached_append, ← Progress.count_afterObjective] at all
  exact (Progress.columnCount_reader _).trans all

theorem columnIndices_reread (stored : problem.WellStored) :
    (reread problem).columnIndices = problem.columnIndices := by
  rw [columnIndices, columnIndices, columnCount_reread stored]

theorem column_reread (stored : problem.WellStored) (has : problem.HasColumn index) :
    (reread problem).column index = (Progress.afterAll problem).view index := by
  have all := columnCount_reread stored
  rw [reread, Progress.columnCount_reader] at all
  exact Progress.column_reader _ has.1 (all ▸ has.2)

/-- **A column that comes back**: its name, and what the sections tell of it. -/
theorem view_afterAll (problem : Problem) (index : Nat) :
    (Progress.afterAll problem).view index =
      let named : Column := { name := storedName problem index }
      let listed := if index ∈ List.range' 1 (declaredColumns problem) then
        rereadObjective problem index named else named
      let bounded := if index ∈ boundedColumns problem then
        rereadBounds problem index listed else listed
      if index ∈ integerColumns problem then rereadInteger index bounded else bounded :=
  rfl

theorem rowInfo_reread (has : problem.HasRow index) :
    (reread problem).rowInfo index = rereadRow problem index := by
  obtain ⟨low, high⟩ := has
  have inside : index - 1 < problem.rowCount := by omega
  show (((List.range' 1 problem.rowCount).map (rereadRow problem))[index - 1]?).getD default = _
  rw [List.getElem?_map, List.getElem?_range' inside, Option.map_some, Option.getD_some,
    Nat.one_mul, Nat.add_sub_cancel' low]

theorem row_reread (has : problem.HasRow index) :
    (reread problem).row index = sortEntries (rereadEntries (writtenEntries problem index)) := by
  obtain ⟨low, high⟩ := has
  have inside : index - 1 < problem.rowCount := by omega
  have laid : (reread problem).matrix
      = SparseRows.ofRows (Progress.afterRows problem problem.rowCount).lists := rfl
  rw [row_of_rows laid]
  show (((List.range' 1 problem.rowCount).map _)[index - 1]?).getD [] = _
  rw [List.getElem?_map, List.getElem?_range' inside, Option.map_some, Option.getD_some,
    Nat.one_mul, Nat.add_sub_cancel' low]

/-- **Rows keep their names**, stored or not. -/
theorem rowName_reread (has : problem.HasRow index) :
    (reread problem).rowName index = problem.rowName index := by
  rw [rowName, rowInfo_reread has, name_rereadRow, Progress.storedLabel, rowLabel]
  split
  next =>
    rw [Option.filter_some]
    split
    next => rfl
    next own =>
      rw [Bool.not_eq_true, Bool.not_eq_false'] at own
      exact (beq_iff_eq.mp own).symm
  next plain =>
    rw [isLabelled, Bool.or_eq_true, Bool.or_eq_true, not_or, not_or] at plain
    rw [rowName, Option.not_isSome_iff_eq_none.mp plain.1.1]
    rfl

/-- **Columns keep their names**, stored or not. -/
theorem columnName_reread (stored : problem.WellStored) (has : problem.HasColumn index) :
    (reread problem).columnName index = problem.columnName index := by
  have name : ((reread problem).column index).name = storedName problem index := by
    rw [column_reread stored has, view_afterAll]
    simp only [apply_ite Column.name, name_rereadBounds, rereadInteger, rereadObjective, ite_self]
  rw [columnName, name, getD_storedName]

/-- Columns behind those that the objective lists come back without a coefficient. -/
theorem objective_reread (stored : problem.WellStored) (has : problem.HasColumn index) :
    ((reread problem).column index).objective
      = if index ∈ List.range' 1 (declaredColumns problem) then
          rereadCoefficient (problem.column index).objective else 0 := by
  rw [column_reread stored has, view_afterAll]
  simp only [apply_ite Column.objective, objective_rereadBounds, rereadInteger, rereadObjective,
    ite_self]

theorem integer_reread (stored : problem.WellStored) (has : problem.HasColumn index) :
    ((reread problem).column index).integer = (problem.column index).integer := by
  have read : ((reread problem).column index).integer
      = if index ∈ integerColumns problem then true else false := by
    rw [column_reread stored has, view_afterAll]
    simp only [apply_ite Column.integer, integer_rereadBounds, rereadInteger, rereadObjective,
      ite_self]
  rw [read]
  split
  next listed => exact (List.mem_filter.mp listed).2.symm
  next other =>
    refine (Bool.eq_false_iff.mpr fun integer => other ?_).symm
    exact List.mem_filter.mpr ⟨mem_columnIndices.mpr has, integer⟩

/-- Bounds that are not written are those of a new column. -/
theorem hasDefaultBounds_of_notMem (has : problem.HasColumn index)
    (unwritten : index ∉ boundedColumns problem) :
    (problem.column index).hasDefaultBounds = true := by
  by_contra changed
  refine unwritten (List.mem_filter.mpr ⟨mem_columnIndices.mpr has, ?_⟩)
  rw [Bool.eq_false_iff.mpr changed]
  rfl

/-- **The bounds of a column that comes back.** Neither the objective nor the declarations touch
them. -/
theorem bounds_reread (stored : problem.WellStored) (has : problem.HasColumn index) :
    ∃ fresh : Column, fresh.lower = 0 ∧ fresh.upper = infinity
      ∧ ((reread problem).column index).lower
        = (if index ∈ boundedColumns problem then rereadBounds problem index fresh else fresh).lower
      ∧ ((reread problem).column index).upper
        = (if index ∈ boundedColumns problem then rereadBounds problem index fresh
          else fresh).upper := by
  refine ⟨if index ∈ List.range' 1 (declaredColumns problem) then
    rereadObjective problem index { name := storedName problem index }
    else { name := storedName problem index }, ?_, ?_, ?_, ?_⟩
  · split <;> rfl
  · split <;> rfl
  · rw [column_reread stored has, view_afterAll]
    dsimp only
    split <;> rfl
  · rw [column_reread stored has, view_afterAll]
    dsimp only
    split <;> rfl

end Parts

end LinearProgram.Lp
