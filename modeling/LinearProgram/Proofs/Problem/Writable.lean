/-
**Problems that can be written.**

The text of a problem has room for names and for numbers. What a name is, is decided when it is
given; what is not a number has to be kept away by the caller. From then on no operation lets either
in.

* `Writable`: names are names, numbers are numbers, and ranges are finite and not below zero.
* `Operation.numbers`: the numbers that an operation brings in. `Operation.Writable`: they are
  numbers, and the name that it gives is a name.
* **`Writable.apply`**: such an operation preserves it.
-/

import LinearProgram.Lp.Name
import LinearProgram.Proofs.Ranges

namespace LinearProgram

open Decimal

/-- The column has numbers, and a name if it has any. -/
structure Column.Writable (column : Column) : Prop where
  objective : column.objective.isNaN = false
  lower : column.lower.isNaN = false
  upper : column.upper.isNaN = false
  name : ∀ name ∈ column.name, Lp.isName name = true

/-- The row has numbers, and a name if it has any. -/
structure Row.Writable (row : Row) : Prop where
  rhs : row.rhs.isNaN = false
  range : ∀ range ∈ row.range, range.isFinite = true ∧ 0 ≤ range
  name : ∀ name ∈ row.name, Lp.isRowName name = true

/-- The coefficients of the entries are numbers. -/
def NumericEntries (entries : List Entry) : Prop :=
  ∀ entry ∈ entries, entry.coefficient.isNaN = false

/-- **Names are names, numbers are numbers, and ranges are finite and not below zero.** -/
structure Problem.Writable (problem : Problem) : Prop where
  constant : problem.constant.isNaN = false
  columns : ∀ column ∈ problem.columns, column.Writable
  rows : ∀ row ∈ problem.rows, row.Writable
  entries : NumericEntries problem.matrix.entries

/-! ### Operations -/

namespace Operation

/-- The numbers that an operation brings in. -/
def numbers : Operation → List Float
  | setConstant value | setObjective _ value | setCoefficient _ _ value | setRhs _ value
  | setRange _ value | setLower _ value | setUpper _ value => [value]
  | setBounds _ lower upper | forceBounds _ lower upper => [lower, upper]
  | setObjectiveRow entries | setRow _ entries | setRhsVector entries =>
    entries.map (·.coefficient)
  | appendRow entries _ rhs _ => rhs :: entries.map (·.coefficient)
  | resize .. | addColumn _ | setName _ | setMaximize _ | normalize | setRelation ..
  | setRowName .. | setInteger .. | setBinary .. | setColumnName .. => []

/-- A name that the operation gives is one that can be written. -/
def NameFits : Operation → Prop
  | setRowName _ name => Lp.isRowName name = true
  | setColumnName _ name => Lp.isName name = true
  | addColumn given => ∀ name ∈ given, Lp.isName name = true
  | _ => True

/-- **The operation brings in numbers and names only.** -/
structure Writable (operation : Operation) : Prop where
  numbers : ∀ number ∈ operation.numbers, number.isNaN = false
  nameFits : operation.NameFits

end Operation

/-! ### Entries -/

namespace NumericEntries

variable {entries : List Entry}

theorem nil : NumericEntries [] :=
  fun _ member => (List.not_mem_nil member).elim

theorem singleton {column : Nat} {value : Float} (number : value.isNaN = false) :
    NumericEntries [⟨column, value⟩] :=
  fun _ member => List.mem_singleton.mp member ▸ number

theorem of_map (numbers : ∀ number ∈ entries.map (·.coefficient), number.isNaN = false) :
    NumericEntries entries :=
  fun entry member => numbers entry.coefficient (List.mem_map_of_mem member)

theorem append {others : List Entry} (numeric : NumericEntries entries)
    (numeric' : NumericEntries others) : NumericEntries (entries ++ others) :=
  fun entry member => (List.mem_append.mp member).elim (numeric entry) (numeric' entry)

theorem filter (numeric : NumericEntries entries) (chosen : Entry → Bool) :
    NumericEntries (entries.filter chosen) :=
  fun entry member => numeric entry (List.mem_filter.mp member).1

theorem sort (numeric : NumericEntries entries) : NumericEntries (sortEntries entries) :=
  fun entry member => numeric entry ((sortEntries_perm entries).mem_iff.mp member)

end NumericEntries

/-! ### Rows and columns one by one -/

theorem Column.writable_default : (default : Column).Writable :=
  ⟨by decide, by decide, by decide, fun _ named => (Option.not_mem_none _ named).elim⟩

theorem Row.Writable.new (relation : Relation) {rhs : Float} (number : rhs.isNaN = false) :
    Row.Writable { relation, rhs } :=
  ⟨number, fun _ ranged => (Option.not_mem_none _ ranged).elim,
    fun _ named => (Option.not_mem_none _ named).elim⟩

theorem Row.writable_default : (default : Row).Writable :=
  .new .atMost (by decide)

theorem Column.Writable.setBounds? {column bounded : Column} (writable : column.Writable)
    {lower upper : Float} (set : column.setBounds? lower upper = some bounded) :
    bounded.Writable := by
  unfold Column.setBounds? at set
  split at set
  next le =>
    obtain rfl := Option.some.inj set
    obtain ⟨number, number', -⟩ := le_iff.mp le
    exact ⟨writable.objective, number, number', writable.name⟩
  next => cases set

theorem Column.Writable.setBinary {column : Column} (writable : column.Writable) (binary : Bool) :
    (column.setBinary binary).Writable := by
  have zero : (0 : Float).isNaN = false := by decide
  have one : (1 : Float).isNaN = false := by decide
  unfold Column.setBinary
  split
  · exact ⟨writable.objective, zero, one, writable.name⟩
  · exact ⟨writable.objective, writable.lower, writable.upper, writable.name⟩

theorem Row.Writable.setRange? {row ranged : Row} (writable : row.Writable) {range : Float}
    (set : row.setRange? range = some ranged) : ranged.Writable := by
  have fits := range_of_setRange? set
  rw [setRange?_eq_some set]
  exact ⟨writable.rhs, fits, writable.name⟩

namespace Problem.Writable

variable {problem : Problem} (writable : problem.Writable)

theorem empty : ({} : Problem).Writable :=
  ⟨by decide, fun _ member => (List.not_mem_nil member).elim,
    fun _ member => (List.not_mem_nil member).elim, fun _ member => (List.not_mem_nil member).elim⟩

include writable

theorem column (index : Nat) : (problem.column index).Writable := by
  rw [Problem.column]
  cases found : problem.columns[index - 1]? with
  | none => exact Column.writable_default
  | some column => exact writable.columns column (List.mem_of_getElem? found)

theorem rowInfo (index : Nat) : (problem.rowInfo index).Writable := by
  rw [Problem.rowInfo]
  cases found : problem.rows[index - 1]? with
  | none => exact Row.writable_default
  | some row => exact writable.rows row (List.mem_of_getElem? found)

/-! ### Changes of one row or one column -/

theorem modifyColumn (index : Nat) {change : Column → Column}
    (keeps : ∀ column, column.Writable → (change column).Writable) :
    (problem.modifyColumn index change).Writable :=
  { writable with columns := RangesFit.forall_mem_modify writable.columns fun column _ => keeps column }

theorem modifyRow (index : Nat) {change : Row → Row}
    (keeps : ∀ row, row.Writable → (change row).Writable) :
    (problem.modifyRow index change).Writable :=
  { writable with rows := RangesFit.forall_mem_modify writable.rows fun row _ => keeps row }

theorem setObjective (index : Nat) {value : Float} (number : value.isNaN = false) :
    (problem.setObjective index value).Writable :=
  writable.modifyColumn index fun _ kept => { kept with objective := number }

theorem setRhs (index : Nat) {value : Float} (number : value.isNaN = false) :
    (problem.setRhs index value).Writable :=
  writable.modifyRow index fun _ kept => { kept with rhs := number }

theorem setRange (index : Nat) (range : Float) :
    ((problem.setRange? index range).getD problem).Writable := by
  unfold Problem.setRange?
  cases set : (problem.rowInfo index).setRange? range with
  | none => exact writable
  | some ranged =>
    exact writable.modifyRow index fun _ _ => (writable.rowInfo index).setRange? set

theorem setBounds (index : Nat) (lower upper : Float) :
    ((problem.setBounds? index lower upper).getD problem).Writable := by
  unfold Problem.setBounds?
  cases set : (problem.column index).setBounds? lower upper with
  | none => exact writable
  | some bounded =>
    exact writable.modifyColumn index fun _ _ => (writable.column index).setBounds? set

theorem addColumn {given : Option String} (named : ∀ name ∈ given, Lp.isName name = true) :
    (problem.addColumn given).Writable where
  constant := writable.constant
  columns := by
    have default := Column.writable_default
    intro column member
    rcases List.mem_append.mp member with member | member
    · exact writable.columns column member
    · rw [List.mem_singleton.mp member]
      exact ⟨default.objective, default.lower, default.upper, named⟩
  rows := writable.rows
  entries := writable.entries

/-! ### Whole vectors -/

/-- Values that are set one after the other. -/
theorem foldl {set : Problem → Entry → Problem} {entries : List Entry}
    (keeps : ∀ problem : Problem, problem.Writable → ∀ entry ∈ entries,
      (set problem entry).Writable) : (entries.foldl set problem).Writable := by
  induction entries generalizing problem with
  | nil => exact writable
  | cons entry rest hyp =>
    exact hyp (keeps problem writable entry List.mem_cons_self)
      fun given kept other member => keeps given kept other (List.mem_cons_of_mem _ member)

theorem setObjectiveRow {entries : List Entry} (numeric : NumericEntries entries) :
    (problem.setObjectiveRow entries).Writable := by
  have zero : (0 : Float).isNaN = false := by decide
  have cleared : Problem.Writable
      { problem with columns := problem.columns.map ({ · with objective := 0 }) } := by
    refine { writable with columns := fun column member => ?_ }
    obtain ⟨old, stood, rfl⟩ := List.mem_map.mp member
    exact { writable.columns old stood with objective := zero }
  exact cleared.foldl fun _ kept entry member => kept.setObjective entry.column (numeric entry member)

theorem setRhsVector {entries : List Entry} (numeric : NumericEntries entries) :
    (problem.setRhsVector entries).Writable := by
  have zero : (0 : Float).isNaN = false := by decide
  have cleared : Problem.Writable
      { problem with rows := problem.rows.map ({ · with rhs := 0 }) } := by
    refine { writable with rows := fun row member => ?_ }
    obtain ⟨old, stood, rfl⟩ := List.mem_map.mp member
    exact { writable.rows old stood with rhs := zero }
  exact cleared.foldl fun _ kept entry member => kept.setRhs entry.column (numeric entry member)

/-! ### Coefficients -/

theorem matrix_rows (stored : problem.WellStored) :
    ∀ row ∈ problem.matrix.rows, NumericEntries row := by
  intro row listed entry member
  refine writable.entries entry ?_
  rw [stored.matrix_eq, SparseRows.entries_ofRows]
  exact List.mem_flatten.mpr ⟨row, listed, member⟩

/-- Other rows of coefficients that are numbers. -/
theorem withRows {changed : Problem} (columns : changed.columns = problem.columns)
    (rows : ∀ row ∈ changed.rows, row.Writable) (constant : changed.constant = problem.constant)
    {lists : List (List Entry)} (laid : changed.matrix = SparseRows.ofRows lists)
    (numeric : ∀ list ∈ lists, NumericEntries list) : changed.Writable where
  constant := constant ▸ writable.constant
  columns := columns ▸ writable.columns
  rows := rows
  entries := by
    rw [laid, SparseRows.entries_ofRows]
    intro entry member
    obtain ⟨list, listed, member⟩ := List.mem_flatten.mp member
    exact numeric list listed entry member

theorem row (stored : problem.WellStored) (index : Nat) : NumericEntries (problem.row index) := by
  rw [row_of_rows stored.matrix_eq]
  cases found : problem.matrix.rows[index - 1]? with
  | none => exact .nil
  | some row => exact writable.matrix_rows stored row (List.mem_of_getElem? found)

theorem setRow (stored : problem.WellStored) {index : Nat} (has : problem.HasRow index)
    {entries : List Entry} (numeric : NumericEntries entries) :
    (problem.setRow index entries).Writable := by
  obtain ⟨laid, count⟩ := And.intro stored.matrix_eq (length_matrix_rows problem)
  rw [setRow_eq laid (has.inside count)]
  refine writable.withRows rfl writable.rows rfl rfl fun list listed => ?_
  rcases List.mem_or_eq_of_mem_set listed with listed | rfl
  · exact writable.matrix_rows stored list listed
  · exact numeric.sort

theorem setCoefficient (stored : problem.WellStored) {index : Nat} (has : problem.HasRow index)
    (column : Nat) {value : Float} (number : value.isNaN = false) :
    (problem.setCoefficient index column value).Writable := by
  have others := (writable.row stored index).filter fun entry => entry.column != column
  refine writable.setRow stored has ?_
  split
  · exact others.append (.singleton number)
  · exact others

theorem appendRow (stored : problem.WellStored) {entries : List Entry}
    (numeric : NumericEntries entries) (relation : Relation) {rhs : Float}
    (number : rhs.isNaN = false) (deferOrder : Bool) :
    (problem.appendRow entries relation rhs deferOrder).Writable := by
  rw [appendRow_eq stored.matrix_eq]
  refine writable.withRows rfl (fun row member => ?_) rfl rfl fun list listed => ?_
  · rcases List.mem_append.mp member with member | member
    · exact writable.rows row member
    · rw [List.mem_singleton.mp member]
      exact .new relation number
  · rcases List.mem_append.mp listed with listed | listed
    · exact writable.matrix_rows stored list listed
    · rw [List.mem_singleton.mp listed]
      split
      · exact numeric.sort
      · exact numeric

theorem normalize (stored : problem.WellStored) : problem.normalize.Writable := by
  rw [normalize_eq stored stored.matrix_eq]
  refine writable.withRows rfl writable.rows rfl rfl fun list listed => ?_
  obtain ⟨old, stood, rfl⟩ := List.mem_map.mp listed
  exact (writable.matrix_rows stored old stood).sort

theorem resize (stored : problem.WellStored) (rows columns : Nat) :
    ((problem.resize? rows columns).getD problem).Writable := by
  by_cases enough : Storable rows columns
  · rw [resize?_eq stored.matrix_eq enough, Option.getD_some]
    constructor
    · exact writable.constant
    · intro column member
      rcases List.mem_append.mp member with member | member
      · exact writable.columns column (List.mem_of_mem_take member)
      · rw [List.eq_of_mem_replicate member]
        exact Column.writable_default
    · intro row member
      rcases List.mem_append.mp member with member | member
      · exact writable.rows row (List.mem_of_mem_take member)
      · rw [List.eq_of_mem_replicate member]
        exact Row.writable_default
    · rw [SparseRows.entries_ofRows]
      intro entry member
      obtain ⟨list, listed, member⟩ := List.mem_flatten.mp member
      rcases List.mem_append.mp listed with listed | listed
      · obtain ⟨old, stood, rfl⟩ := List.mem_map.mp listed
        exact (writable.matrix_rows stored old (List.mem_of_mem_take stood)).filter _ entry member
      · rw [List.eq_of_mem_replicate listed] at member
        exact (List.not_mem_nil member).elim
  · rw [resize?, if_neg enough]
    exact writable

/-- **An operation that brings in numbers and names only preserves it.** -/
theorem apply (stored : problem.WellStored) {operation : Operation}
    (fits : operation.Fits problem) (given : operation.Writable) :
    (operation.apply problem).Writable := by
  obtain ⟨numbers, nameFits⟩ := given
  cases operation with
  | resize rows columns => exact writable.resize stored rows columns
  | addColumn name => exact writable.addColumn nameFits
  | setName | setMaximize => exact { writable with }
  | setConstant value => exact { writable with constant := numbers value List.mem_cons_self }
  | setObjective column value => exact writable.setObjective column (numbers value List.mem_cons_self)
  | setObjectiveRow entries => exact writable.setObjectiveRow (.of_map numbers)
  | appendRow entries relation rhs deferOrder =>
    obtain ⟨number, numeric⟩ := List.forall_mem_cons.mp numbers
    exact writable.appendRow stored (.of_map numeric) relation number deferOrder
  | setRow row entries => exact writable.setRow stored fits.1 (.of_map numbers)
  | setCoefficient row column value =>
    exact writable.setCoefficient stored fits.1 column (numbers value List.mem_cons_self)
  | normalize => exact writable.normalize stored
  | setRelation row relation => exact writable.modifyRow row fun _ kept => { kept with }
  | setRhs row value => exact writable.setRhs row (numbers value List.mem_cons_self)
  | setRhsVector entries => exact writable.setRhsVector (.of_map numbers)
  | setRange row range => exact writable.setRange row range
  | setRowName row name =>
    exact writable.modifyRow row fun _ kept =>
      { kept with name := fun _ same => Option.some.inj same ▸ nameFits }
  | setBounds column lower upper => exact writable.setBounds column lower upper
  | setLower column lower => exact writable.setBounds column lower _
  | setUpper column upper => exact writable.setBounds column _ upper
  | forceBounds column lower upper =>
    obtain ⟨number, others⟩ := List.forall_mem_cons.mp numbers
    exact writable.modifyColumn column fun _ kept =>
      { kept with lower := number, upper := others upper List.mem_cons_self }
  | setInteger column integer => exact writable.modifyColumn column fun _ kept => { kept with }
  | setBinary column binary => exact writable.modifyColumn column fun _ kept => kept.setBinary binary
  | setColumnName column name =>
    exact writable.modifyColumn column fun _ kept =>
      { kept with name := fun _ same => Option.some.inj same ▸ nameFits }

end Problem.Writable

end LinearProgram
