/-
**A reader on its way through a written problem.**

The columns that were read are the first ones of the written problem, with their names. So a reader
on its way is told by how many columns it has met, what it knows of each, and its rows.

* `Progress`: that description. `Progress.reader`: the reader.
* `Progress.Follows`: the names are those of the written problem, and a column that was not met has
  nothing but its name.
* **`column_eq`, `entries_eq`**: names lead to the columns that they were written for.
* **`modifyColumn_eq`, `addRow_eq`, `moveLimit_eq`**: columns are changed, rows are added and limited.
-/

import LinearProgram.Proofs.Lp.Numbering
import LinearProgram.Proofs.Lp.Reading

namespace LinearProgram.Lp

open Problem

/-- What a reader of a written problem has read. -/
structure Progress where
  /-- The number of columns that were met. -/
  count : Nat := 0
  /-- What is known of a column. -/
  view : Nat → Column
  rows : List Row := []
  /-- The entries of the rows. -/
  lists : List (List Entry) := []
  labels : List (String × Nat) := []
  maximize : Bool := false
  constant : Float := 0
  hasObjective : Bool := false

/-- The name that a reader stores for a column: none if the column has it anyway. -/
def storedName (problem : Problem) (index : Nat) : Option String :=
  if problem.columnName index == "C" ++ toString index then none
  else some (problem.columnName index)

theorem getD_storedName (problem : Problem) (index : Nat) :
    (storedName problem index).getD ("C" ++ toString index) = problem.columnName index := by
  unfold storedName
  split
  next same => exact (beq_iff_eq.mp same).symm
  next => rfl

namespace Progress

/-- The reader. -/
def reader (progress : Progress) : Reader where
  problem :=
    { maximize := progress.maximize
      constant := progress.constant
      columns := (List.range' 1 progress.count).map progress.view
      rows := progress.rows
      matrix := SparseRows.ofRows progress.lists
      sortedUpTo := progress.lists.length }
  labels := progress.labels
  hasObjective := progress.hasObjective

/-- **The names are those of the written problem**, and a column that was not met has nothing but
its name. -/
structure Follows (progress : Progress) (problem : Problem) : Prop where
  count_le : progress.count ≤ problem.columnCount
  names : ∀ index, (progress.view index).name = storedName problem index
  fresh : ∀ index, progress.count < index →
    progress.view index = { name := storedName problem index }

/-- Some more columns are mentioned. -/
def mention (progress : Progress) (mentions : List Nat) : Progress :=
  { progress with count := reached progress.count mentions }

/-- What is known of some columns changes. -/
def edit (progress : Progress) (indices : List Nat) (change : Nat → Column → Column) : Progress :=
  { progress with view := fun index =>
      if index ∈ indices then change index (progress.view index) else progress.view index }

section Steps

variable {problem : Problem} {progress : Progress}

theorem Follows.mention (follows : progress.Follows problem) {mentions : List Nat}
    (inside : ∀ index ∈ mentions, index ≤ problem.columnCount) :
    (progress.mention mentions).Follows problem where
  count_le := reached_le follows.count_le inside
  names := follows.names
  fresh := fun index behind =>
    follows.fresh index (Nat.lt_of_le_of_lt (le_reached _ mentions) behind)

theorem Follows.edit (follows : progress.Follows problem) {indices : List Nat}
    {change : Nat → Column → Column} (inside : ∀ index ∈ indices, index ≤ progress.count)
    (keeps : ∀ index column, (change index column).name = column.name) :
    (progress.edit indices change).Follows problem where
  count_le := follows.count_le
  names := by
    intro index
    rw [← follows.names index]
    show (if index ∈ indices then _ else _ : Column).name = _
    split
    · exact keeps index _
    · rfl
  fresh := by
    intro index behind
    rw [← follows.fresh index behind]
    exact if_neg fun member => Nat.not_le.mpr behind (inside index member)

/-! ### Columns -/

theorem columnCount_reader (progress : Progress) :
    progress.reader.problem.columnCount = progress.count := by
  show ((List.range' 1 progress.count).map progress.view).length = _
  rw [List.length_map, List.length_range']

theorem column_reader (progress : Progress) {index : Nat} (low : 1 ≤ index)
    (high : index ≤ progress.count) :
    progress.reader.problem.column index = progress.view index := by
  have inside : index - 1 < progress.count := by omega
  show (((List.range' 1 progress.count).map progress.view)[index - 1]?).getD default = _
  rw [List.getElem?_map, List.getElem?_range' inside, Option.map_some, Option.getD_some,
    Nat.one_mul, Nat.add_sub_cancel' low]

theorem columnName_reader (follows : progress.Follows problem) {index : Nat} (low : 1 ≤ index)
    (high : index ≤ progress.count) :
    progress.reader.problem.columnName index = problem.columnName index := by
  rw [columnName, column_reader progress low high, follows.names, getD_storedName]

/-- A column that was met is found by its name. -/
theorem findColumn?_eq (follows : progress.Follows problem) (differ : ColumnsDiffer problem)
    {index : Nat} (low : 1 ≤ index) (high : index ≤ progress.count) :
    progress.reader.findColumn? (problem.columnName index) = some index := by
  have all : ∀ other ∈ progress.reader.problem.columnIndices,
      1 ≤ other ∧ other ≤ progress.count := by
    intro other member
    have has := mem_columnIndices.mp member
    exact ⟨has.1, columnCount_reader progress ▸ has.2⟩
  have le := follows.count_le
  cases found : progress.reader.findColumn? (problem.columnName index) with
  | some other =>
    obtain ⟨low', high'⟩ := all other (List.mem_of_find?_eq_some found)
    have same : (progress.reader.problem.columnName other == problem.columnName index) = true :=
      List.find?_some (p := fun other => _ == _) found
    rw [beq_iff_eq, columnName_reader follows low' high'] at same
    rw [differ.eq ⟨low', Nat.le_trans high' le⟩ ⟨low, Nat.le_trans high le⟩ same]
  | none =>
    have member : index ∈ progress.reader.problem.columnIndices :=
      mem_columnIndices.mpr ⟨low, by rw [columnCount_reader]; exact high⟩
    have other := List.find?_eq_none.mp found index member
    rw [columnName_reader follows low high, beq_self_eq_true] at other
    exact absurd rfl other

/-- A column that was not met is not found by its name. -/
theorem findColumn?_eq_none (follows : progress.Follows problem) (differ : ColumnsDiffer problem)
    {index : Nat} (new : progress.count < index) (has : problem.HasColumn index) :
    progress.reader.findColumn? (problem.columnName index) = none := by
  refine List.find?_eq_none.mpr fun other member same => ?_
  obtain ⟨low, high⟩ := mem_columnIndices.mp member
  rw [columnCount_reader] at high
  rw [beq_iff_eq, columnName_reader follows low high] at same
  have le := follows.count_le
  have equal := differ.eq ⟨low, Nat.le_trans high le⟩ has same
  omega

/-- **A name leads to the column that it was written for**, if no column is skipped. -/
theorem column_eq (follows : progress.Follows problem) (differ : ColumnsDiffer problem)
    {index : Nat} (has : problem.HasColumn index) (next : index ≤ progress.count + 1) :
    progress.reader.column (problem.columnName index)
      = (index, (progress.mention [index]).reader) := by
  by_cases met : index ≤ progress.count
  · have same : progress.mention [index] = progress := by
      show { progress with count := max progress.count index } = progress
      rw [Nat.max_eq_left met]
    rw [Reader.column, findColumn?_eq follows differ has.1 met, same]
  · have last : index = progress.count + 1 := by omega
    have count : max progress.count index = progress.count + 1 := by omega
    rw [Reader.column, findColumn?_eq_none follows differ (Nat.not_le.mp met) has]
    dsimp only
    rw [columnCount_reader, ← last]
    refine congrArg (Prod.mk index) ?_
    have columns : (List.range' 1 progress.count).map progress.view
        ++ [{ name := storedName problem index }]
        = (List.range' 1 (max progress.count index)).map progress.view := by
      rw [count, List.range'_concat, List.map_append, Nat.one_mul, Nat.add_comm 1, ← last,
        List.map_singleton, follows.fresh index (Nat.not_le.mp met)]
    exact congrArg (fun columns => ({ progress.reader with
      problem := { progress.reader.problem with columns } } : Reader)) columns

/-- **Terms lead to the entries that they were written for.** -/
theorem entries_eq (follows : progress.Follows problem) (differ : ColumnsDiffer problem)
    {entries : List Entry} (inOrder : InOrder progress.count (entries.map (·.column)))
    (has : ∀ entry ∈ entries, problem.HasColumn entry.column) :
    progress.reader.entries
        (entries.map fun entry => ⟨problem.columnName entry.column, entry.coefficient⟩)
      = (entries, (progress.mention (entries.map (·.column))).reader) := by
  induction entries generalizing progress with
  | nil => rfl
  | cons entry rest hyp =>
    obtain ⟨⟨-, next⟩, later⟩ := inOrder
    have here := has entry List.mem_cons_self
    have others := hyp (follows.mention (List.forall_mem_singleton.mpr here.2)) later
      fun other member => has other (List.mem_cons_of_mem _ member)
    rw [List.map_cons, Reader.entries, column_eq follows differ here next]
    dsimp only
    rw [others]
    rfl

/-- What is known of one column changes. -/
theorem modifyColumn_eq (progress : Progress) {index : Nat} (low : 1 ≤ index)
    (change : Nat → Column → Column) :
    progress.reader.change (·.modifyColumn index (change index))
      = (progress.edit [index] change).reader := by
  have columns : ((List.range' 1 progress.count).map progress.view).modify (index - 1)
      (change index) = (List.range' 1 progress.count).map (progress.edit [index] change).view := by
    refine List.ext_getElem? fun place => ?_
    rw [List.getElem?_modify, List.getElem?_map, List.getElem?_map]
    by_cases inside : place < progress.count
    · rw [List.getElem?_range' inside]
      refine congrArg some ?_
      show (if _ then _ else _) = if 1 + 1 * place ∈ [index] then _ else _
      by_cases here : index - 1 = place
      · have same : 1 + 1 * place = index := by omega
        rw [if_pos here, same, if_pos List.mem_cons_self]
      · have other : 1 + 1 * place ∉ [index] := by
          rw [List.mem_singleton]
          omega
        rw [if_neg here, if_neg other]
    · have none : (List.range' 1 progress.count)[place]? = none := by
        rw [List.getElem?_eq_none_iff, List.length_range']
        exact Nat.not_lt.mp inside
      rw [none]
      rfl
  exact congrArg (fun columns => ({ progress.reader with
    problem := { progress.reader.problem with columns } } : Reader)) columns

/-- Columns change one after the other. -/
theorem edit_cons (progress : Progress) {index : Nat} {rest : List Nat} (new : index ∉ rest)
    (change : Nat → Column → Column) :
    (progress.edit [index] change).edit rest change = progress.edit (index :: rest) change := by
  refine congrArg (fun view => { progress with view }) (funext fun other => ?_)
  dsimp only [edit]
  by_cases later : other ∈ rest
  · have here : other ∉ [index] := fun member => by
      rw [List.mem_singleton.mp member] at later
      exact new later
    rw [if_pos later, if_neg here, if_pos (List.mem_cons_of_mem _ later)]
  · rw [if_neg later]
    by_cases here : other = index
    · rw [if_pos (List.mem_singleton.mpr here), if_pos (here ▸ List.mem_cons_self)]
    · rw [if_neg fun member => here (List.mem_singleton.mp member),
        if_neg (List.not_mem_cons_of_ne_of_not_mem here later)]

theorem edit_nil (progress : Progress) (change : Nat → Column → Column) :
    progress.edit [] change = progress := by
  refine congrArg (fun view => { progress with view }) (funext fun index => ?_)
  exact if_neg List.not_mem_nil

/-! ### Rows -/

/-- A row with its entries, and with its name if it has one. -/
def addRow (progress : Progress) (label : Option String) (entries : List Entry) (row : Row) :
    Progress :=
  { progress.mention (entries.map (·.column)) with
    rows := progress.rows ++ [row]
    lists := progress.lists ++ [sortEntries entries]
    labels := progress.labels ++ (label.map fun name => (name, progress.lists.length + 1)).toList }

/-- The name that a reader stores for a row: none if the row has it anyway. -/
def storedLabel (label : Option String) (index : Nat) : Option String :=
  label.filter fun name => !(name == "R" ++ toString index)

theorem appendRow_reader (progress : Progress) {entries : List Entry}
    (distinct : (entries.map (·.column)).Nodup) (label : Option String) (relation : Relation)
    (rhs : Float) :
    (progress.mention (entries.map (·.column))).reader.problem.appendRow (sortEntries entries)
        relation rhs false
      = (progress.addRow label entries { relation, rhs }).reader.problem := by
  have sorted : sortEntries (sortEntries entries) = sortEntries entries :=
    sortEntries_eq_self (increasing_sortEntries distinct)
  have laid : (progress.mention (entries.map (·.column))).reader.problem.matrix
      = SparseRows.ofRows progress.lists := rfl
  have mark : ((progress.mention (entries.map (·.column))).reader.problem.sortedUpTo
      == progress.lists.length && !false) = true := by
    rw [Bool.not_false, Bool.and_true, beq_iff_eq]
    rfl
  have length : progress.lists.length + 1 = (progress.lists ++ [sortEntries entries]).length := by
    rw [List.length_append, List.length_singleton]
  rw [appendRow_eq laid, if_pos mark, if_pos mark, sorted]
  exact congrArg (fun sortedUpTo =>
    ({ (progress.addRow label entries { relation, rhs }).reader.problem with sortedUpTo } : Problem))
    length

/-- **A row is added**, with the entries that its terms were written for. -/
theorem addRow_eq (follows : progress.Follows problem) (differ : ColumnsDiffer problem)
    (even : progress.rows.length = progress.lists.length) {entries : List Entry}
    (fit : FitEntries problem.columnCount entries)
    (inOrder : InOrder progress.count (entries.map (·.column))) {label : Option String}
    (new : ∀ name ∈ label, progress.labels.lookup name = none) (line : Nat) (relation : Relation)
    (rhs : Float) :
    progress.reader.addRow line label
        (entries.map fun entry => ⟨problem.columnName entry.column, entry.coefficient⟩) relation rhs
      = .ok (progress.addRow label entries
          { relation, rhs, name := storedLabel label (progress.lists.length + 1) }).reader := by
  have unused : (label.filter fun name => (progress.reader.labels.lookup name).isSome) = none := by
    refine Option.filter_eq_none_iff.mpr fun name member => ?_
    show ¬ (progress.labels.lookup name).isSome = true
    rw [new name member]
    exact Bool.false_ne_true
  have count : progress.reader.problem.rowCount = progress.lists.length :=
    SparseRows.count_ofRows progress.lists
  have added : (progress.mention (entries.map (·.column))).reader.change
      (·.appendRow (sortEntries entries) relation rhs false)
      = { (progress.mention (entries.map (·.column))).reader with
          problem := (progress.addRow label entries { relation, rhs }).reader.problem } :=
    congrArg (fun problem => ({ (progress.mention (entries.map (·.column))).reader with problem }
      : Reader)) (appendRow_reader progress fit.distinct label relation rhs)
  rw [Reader.addRow, unused]
  dsimp only
  rw [entries_eq follows differ inOrder fit.within, count]
  dsimp only
  rw [added]
  cases label with
  | none =>
    exact congrArg (fun labels => Except.ok ({ (progress.addRow none entries
      { relation, rhs }).reader with labels } : Reader)) (List.append_nil progress.labels).symm
  | some name =>
    dsimp only
    by_cases own : (name == "R" ++ toString (progress.lists.length + 1)) = true
    · have stored : storedLabel (some name) (progress.lists.length + 1) = none :=
        Option.filter_eq_none_iff.mpr fun other member => by
          rw [← Option.some.inj member, own]
          exact Bool.false_ne_true
      rw [if_pos own, stored]
      rfl
    · have stored : storedLabel (some name) (progress.lists.length + 1) = some name := by
        rw [storedLabel, Option.filter_some, Bool.eq_false_iff.mpr own]
        rfl
      have named : (progress.rows ++ [({ relation, rhs } : Row)]).modify
          (progress.lists.length + 1 - 1) ({ · with name := some name })
          = progress.rows ++ [{ relation, rhs, name := some name }] := by
        rw [Nat.add_sub_cancel, ← even, modify_append_cons]
      rw [if_neg own, stored]
      exact congrArg (fun rows => Except.ok ({ (progress.addRow (some name) entries
        { relation, rhs }).reader with problem := { (progress.addRow (some name) entries
        { relation, rhs }).reader.problem with rows } } : Reader)) named

/-! ### Limits -/

/-- The distance of a limit of a row from the right-hand side. -/
def gap (row : Row) (limit : Float) : Float :=
  match row.relation with
  | .atMost => row.rhs - limit
  | _ => limit - row.rhs

/-- A row with a limit on the side where the right-hand side is not. -/
def limited (row : Row) (limit : Float) : Row :=
  (row.setRange? (gap row limit)).getD row

section Limited

variable (row : Row) (limit : Float)

@[simp] theorem relation_limited : (limited row limit).relation = row.relation := by
  unfold limited Row.setRange?
  split <;> rfl

@[simp] theorem rhs_limited : (limited row limit).rhs = row.rhs := by
  unfold limited Row.setRange?
  split <;> rfl

@[simp] theorem name_limited : (limited row limit).name = row.name := by
  unfold limited Row.setRange?
  split <;> rfl

end Limited

/-- The limit leaves room between it and the right-hand side. -/
def Roomy (row : Row) (limit : Float) : Prop :=
  match row.relation with
  | .atMost => ¬ row.rhs < limit
  | _ => ¬ limit < row.rhs

/-- The side of a row that a range limits. -/
def limitSide (row : Row) : Relation :=
  match row.relation with
  | .atMost => .atLeast
  | _ => .atMost

theorem rowInfo_last {rows : List Row} {row : Row} (last : progress.rows = rows ++ [row]) :
    progress.reader.problem.rowInfo (rows.length + 1) = row := by
  show (progress.rows[rows.length + 1 - 1]?).getD default = row
  rw [last, Nat.add_sub_cancel, List.getElem?_concat_length, Option.getD_some]

theorem modifyRow_last {rows : List Row} {row : Row} (last : progress.rows = rows ++ [row])
    (change : Row → Row) :
    progress.reader.problem.modifyRow (rows.length + 1) change
      = ({ progress with rows := rows ++ [change row] } : Progress).reader.problem := by
  have changed : progress.rows.modify (rows.length + 1 - 1) change = rows ++ [change row] := by
    rw [last, Nat.add_sub_cancel, modify_append_cons]
  exact congrArg (fun rows => ({ progress.reader.problem with rows } : Problem)) changed

theorem setRange_last {rows : List Row} {row : Row} (last : progress.rows = rows ++ [row])
    (range : Float) :
    (((progress.reader.problem.setRelation (rows.length + 1) row.relation).setRange?
        (rows.length + 1) range).getD
        (progress.reader.problem.setRelation (rows.length + 1) row.relation))
      = ({ progress with rows := rows ++ [(row.setRange? range).getD row] }
        : Progress).reader.problem := by
  have same : progress.reader.problem.setRelation (rows.length + 1) row.relation
      = progress.reader.problem := by
    rw [setRelation, modifyRow_last last]
    exact congrArg (fun rows => ({ progress.reader.problem with rows } : Problem)) last.symm
  rw [same, setRange?, rowInfo_last last]
  cases row.setRange? range with
  | none => exact congrArg (fun rows => ({ progress.reader.problem with rows } : Problem)) last
  | some ranged => exact modifyRow_last last fun _ => ranged

/-- **The last row is limited**, if it was given the name. -/
theorem moveLimit_eq {rows : List Row} {row : Row} (last : progress.rows = rows ++ [row])
    {name : String} (labelled : progress.labels.lookup name = some (rows.length + 1))
    {value : Float} (roomy : Roomy row (clamp value)) (line : Nat) :
    progress.reader.moveLimit line name (limitSide row) value
      = .ok ({ progress with rows := rows ++ [limited row (clamp value)] } : Progress).reader := by
  have found : progress.reader.findRow? name = some (rows.length + 1) := by
    simp [Reader.findRow?, Progress.reader, labelled]
  have ranged (range : Float) := congrArg (fun problem => Except.ok (ε := Failure)
    ({ progress.reader with problem } : Reader)) (setRange_last last range)
  rw [Reader.moveLimit, found]
  dsimp only
  rw [rowInfo_last last]
  unfold Roomy at roomy
  unfold limitSide limited gap
  cases relation : row.relation with
  | atMost =>
    rw [relation] at roomy ranged
    dsimp only at roomy ⊢
    rw [if_neg roomy]
    exact ranged _
  | atLeast | equal =>
    rw [relation] at roomy ranged
    dsimp only at roomy ⊢
    rw [if_neg roomy]
    exact ranged _

end Steps

end Progress

end LinearProgram.Lp
