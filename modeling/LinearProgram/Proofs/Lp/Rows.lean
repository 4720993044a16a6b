/-
**What an action does to the rows.**

A constraint adds a row behind the others, and a row name alone moves a limit of a row that exists. No
other action touches the rows, so a reader that has one row more has added it as the last one, and that
row has the terms, the relation and the right-hand side that the action gives.

* `Action.OnColumns`: an action about columns. **`Reader.SameRows.act`**: it leaves the rows alone.
* `Action.AddsRow`: an action that adds a row. **`Reader.addsRow_of_rowCount`**: no other one does.
* `Reader.columns_addRow`: a row leaves the columns alone, apart from new ones that it mentions.
* `LastRow`: what the last row is. **`Reader.last_of_addRow`**: the row that is added.
* `LastRow.activity_eq`: its activity is what its terms amount to. `LastRow.means`: what it admits.
-/

import LinearProgram.Proofs.Lp.Meaning
import LinearProgram.Proofs.Lp.Reading

namespace LinearProgram.Lp

open Decimal Problem

/-! ### What leaves the rows alone -/

/-- The action is about columns alone. -/
def Action.OnColumns : Action → Prop
  | .objective .. | .declaration .. | .bound .. | .boundBoth .. => True
  | .addRow .. | .addRowBetween .. | .moveLimit .. => False

/-- The action adds a row. -/
def Action.AddsRow : Action → Prop
  | .addRow .. | .addRowBetween .. => True
  | _ => False

namespace Reader

/-- **The rows are what they were**, and so are the names that they were given. -/
structure SameRows (reader after : Reader) : Prop where
  rows : after.problem.rows = reader.problem.rows
  matrix : after.problem.matrix = reader.problem.matrix
  labels : after.labels = reader.labels

namespace SameRows

variable {reader middle after : Reader} {line : Nat}

theorem refl (reader : Reader) : SameRows reader reader :=
  ⟨rfl, rfl, rfl⟩

theorem trans (first : SameRows reader middle) (second : SameRows middle after) :
    SameRows reader after :=
  ⟨second.rows.trans first.rows, second.matrix.trans first.matrix,
    second.labels.trans first.labels⟩

theorem of_grows (grows : Grows reader after) : SameRows reader after := by
  obtain ⟨more, rfl⟩ := grows
  exact ⟨rfl, rfl, rfl⟩

theorem rowCount_eq (same : SameRows reader after) :
    after.problem.rowCount = reader.problem.rowCount :=
  congrArg SparseRows.count same.matrix

theorem objective {maximize : Bool} {body : List Located}
    (done : reader.objective line maximize body = .ok after) : SameRows reader after := by
  obtain ⟨expression, -, rfl⟩ := exists_of_objective done
  refine withObjective_keeps ?_ ?_ ?_ (.refl reader) maximize
  · exact fun _ _ _ _ same => same.trans ⟨rfl, rfl, rfl⟩
  · exact fun before term _ same => same.trans (of_grows (column_grows before term.name))
  · exact fun _ _ _ same => same.trans ⟨rfl, rfl, rfl⟩

theorem declare (reader : Reader) (declared : Section) (name : String) :
    SameRows reader (reader.declare declared name) := by
  have grown := of_grows (column_grows reader name)
  cases declared <;> exact ⟨grown.rows, grown.matrix, grown.labels⟩

theorem limits (reader : Reader) (name : String) (lower upper : Float) :
    SameRows reader ((reader.column name).2.change
      (·.forceBounds (reader.column name).1 lower upper)) :=
  (of_grows (column_grows reader name)).trans ⟨rfl, rfl, rfl⟩

/-- **What is about columns leaves the rows alone.** -/
theorem act {action : Action} (onColumns : action.OnColumns)
    (done : reader.act line action = .ok after) : SameRows reader after := by
  cases action with
  | objective maximize body => exact objective done
  | declaration declared body =>
    exact declareAll_keeps (fun before name same => same.trans (declare before declared name))
      (.refl reader) (declareAll_of_declaration done)
  | bound term relation value =>
    obtain ⟨lower, upper, rfl⟩ := exists_of_bound done
    exact limits reader term.name lower upper
  | boundBoth term =>
    obtain ⟨lower, upper, rfl⟩ := exists_of_boundBoth done
    exact limits reader term.name lower upper
  | addRow | addRowBetween | moveLimit => exact onColumns.elim

end SameRows

variable {reader after : Reader} {line : Nat}

/-- **Only two actions add a row.** -/
theorem addsRow_of_rowCount {action : Action} (done : reader.act line action = .ok after)
    (more : after.problem.rowCount = reader.problem.rowCount + 1) : action.AddsRow := by
  have other (same : after.problem.rowCount = reader.problem.rowCount) : False := by omega
  cases action with
  | objective | declaration | bound | boundBoth =>
    refine (other (SameRows.act ?_ done).rowCount_eq).elim
    trivial
  | addRow | addRowBetween => exact trivial
  | moveLimit name relation value =>
    obtain ⟨index, found, row, -, rfl⟩ := exists_row_of_moveLimit done
    exact (other rfl).elim

/-! ### What leaves the columns alone -/

/-- A row that is added brings the columns that it mentions, and no others. -/
theorem columns_addRow {label : Option String} {terms : List Term} {relation : Relation} {rhs : Float}
    (done : reader.addRow line label terms relation rhs = .ok after) :
    after.problem.columns = (reader.entries terms).2.problem.columns := by
  have appended (entries : List Entry) (problem : Problem) :
      (problem.appendRow entries relation rhs false).columns = problem.columns := by
    unfold Problem.appendRow
    dsimp only
    split <;> rfl
  cases (rowNamed_of_addRow done).2 <;> exact appended _ _

theorem columns_addRowBetween {label : Option String} {terms : List Term} {lower upper : Float}
    (done : reader.addRowBetween line label terms lower upper = .ok after) :
    after.problem.columns = (reader.entries terms).2.problem.columns := by
  obtain ⟨relation, rhs, middle, -, added, rfl | ⟨range, row, -, rfl⟩⟩ := exists_of_addRowBetween done
  · exact columns_addRow added
  · have columns := columns_addRow added
    exact columns

/-! ### The row that is added -/

section Added

variable {reader after : Reader} {line : Nat}

/-- **A row stands behind the others**, and its name is one that was not given before. A name is not
stored if the row has it anyway. -/
structure RowAdded (reader : Reader) (label : Option String) (row : Row) (after : Reader) : Prop where
  fresh : ∀ name ∈ label, reader.labels.lookup name = none
  rows : after.problem.rows = reader.problem.rows ++ [{ row with
    name := label.filter (· != "R" ++ toString (reader.problem.rowCount + 1)) }]
  count : after.problem.rowCount = reader.problem.rowCount + 1
  labels : after.labels = reader.labels ++ label.toList.map (·, reader.problem.rowCount + 1)

theorem rowAdded_addRow (sound : reader.Sound) {label : Option String} {terms : List Term}
    {relation : Relation} {rhs : Float}
    (done : reader.addRow line label terms relation rhs = .ok after) :
    RowAdded reader label { relation, rhs } after := by
  have grown := SameRows.of_grows (entries_grows reader terms)
  have stored := (sound.grows (entries_grows reader terms)).stored
  have count := rowCount_appendRow stored (sortEntries (reader.entries terms).1) relation rhs false
  rw [grown.rowCount_eq] at count
  have rows : ((reader.entries terms).2.problem.appendRow (sortEntries (reader.entries terms).1)
      relation rhs false).rows = reader.problem.rows ++ [({ relation, rhs } : Row)] := by
    rw [← grown.rows]
    unfold Problem.appendRow
    dsimp only
    split <;> rfl
  obtain ⟨fresh, named⟩ := rowNamed_of_addRow done
  cases named with
  | unnamed => exact ⟨fresh, rows, count, grown.labels.trans (List.append_nil _).symm⟩
  | usual =>
    refine ⟨fresh, ?_, count, congrArg (· ++ _) grown.labels⟩
    rw [Option.filter_some, bne_self_eq_false]
    exact rows
  | stored other =>
    refine ⟨fresh, ?_, count, congrArg (· ++ _) grown.labels⟩
    have place : reader.problem.rowCount = reader.problem.rows.length :=
      sound.stored.rows_length_eq.symm
    rw [Option.filter_some, bne_iff_ne.mpr other, if_pos rfl]
    refine (congrArg (List.modify · (reader.problem.rowCount + 1 - 1) _) rows).trans ?_
    rw [Nat.add_sub_cancel, place, modify_append_cons]

/-- **The entries of a row with the names of their columns.** -/
theorem terms_entries (reader : Reader) (terms : List Term) :
    (reader.entries terms).1.map (fun entry =>
      (⟨(reader.entries terms).2.problem.columnName entry.column, entry.coefficient⟩ : Term))
      = terms := by
  induction terms generalizing reader with
  | nil => rfl
  | cons term rest hyp =>
    refine congrArg₂ List.cons ?_ (hyp _)
    have name := ((entries_grows _ rest).columnName_eq (column_has reader term.name)).trans
      (columnName_column reader term.name)
    exact congrArg (fun name => (⟨name, term.coefficient⟩ : Term)) name

/-- **The last row of a problem**: what it is apart from its name and its coefficients, and the terms
that these amount to. -/
structure LastRow (problem : Problem) (terms : List Term) (row : Row) : Prop where
  info : ∃ name, problem.rowInfo problem.rowCount = { row with name }
  terms : ((problem.row problem.rowCount).map fun entry =>
    (⟨problem.columnName entry.column, entry.coefficient⟩ : Term)).Perm terms

theorem lastRow_appendRow {problem : Problem} (stored : problem.WellStored) {entries : List Entry}
    (fit : FitEntries problem.columnCount entries) (relation : Relation) (rhs : Float) :
    LastRow (problem.appendRow (sortEntries entries) relation rhs false)
      (entries.map fun entry => ⟨problem.columnName entry.column, entry.coefficient⟩)
      { relation, rhs } := by
  obtain ⟨rows, laid, -, length, -, -⟩ := stored.exists_rows
  have sorted : sortEntries (sortEntries entries) = sortEntries entries :=
    sortEntries_eq_self (increasing_sortEntries fit.distinct)
  have last : (SparseRows.ofRows (rows ++ [sortEntries entries])).count = rows.length + 1 := by
    rw [SparseRows.count_ofRows, List.length_append]
    rfl
  rw [appendRow_eq laid, sorted, ite_self]
  constructor
  · refine ⟨none, ?_⟩
    rw [rowInfo, rowCount, last, Nat.add_sub_cancel, List.getElem?_append_right length.le, length,
      Nat.sub_self]
    rfl
  · rw [rowCount, last, row_of_rows rfl, Nat.add_sub_cancel, List.getElem?_append_right le_rfl,
      Nat.sub_self]
    exact (sortEntries_perm entries).map _

namespace LastRow

variable {problem : Problem} {terms : List Term} {row : Row}

/-- The last row may change, and keeps its coefficients. -/
theorem modifyRow (last : LastRow problem terms row) (stored : problem.WellStored)
    (some : 0 < problem.rowCount) (change : Row → Row) (changed : Row)
    (same : ∀ name, ∃ name', change { row with name } = { changed with name := name' }) :
    LastRow (problem.modifyRow problem.rowCount change) terms changed where
  info := by
    obtain ⟨given, info⟩ := last.info
    have modified := rowInfo_modifyRow stored ⟨some, le_rfl⟩ change
    rw [info] at modified
    obtain ⟨name, new⟩ := same given
    exact ⟨name, modified.trans new⟩
  terms := last.terms

theorem bounds_eq (last : LastRow problem terms row) :
    (problem.rowInfo problem.rowCount).bounds = row.bounds := by
  obtain ⟨name, info⟩ := last.info
  rw [info]
  rfl

/-- **The activity of the row is what its terms amount to.** -/
theorem activity_eq (last : LastRow problem terms row) (stored : problem.WellStored)
    (assignment : String → ℚ) :
    problem.activity (fun column => assignment (problem.columnName column)) problem.rowCount
      = worth assignment (terms.map Term.operand) := by
  rw [activity_eq_sum_row stored]
  have perm := (last.terms.map Term.operand).map (·.worth assignment)
  rw [worth, ← perm.sum_eq, List.map_map, List.map_map]
  rfl

/-- The coefficients of the row are those of its terms, or zeros. -/
theorem isInteger_coefficient (last : LastRow problem terms row) (whole : WholeTerms terms)
    (column : ℕ) : IsInteger (problem.coefficient problem.rowCount column) := by
  rw [Problem.coefficient]
  cases found : (problem.row problem.rowCount).find? fun entry => entry.column == column with
  | none => exact .zero
  | some entry =>
    have member := List.mem_of_find?_eq_some found
    exact whole _ (last.terms.mem_iff.mp (List.mem_map_of_mem member))

/-- **A row without a range and with a finite right-hand side admits what its terms say.** -/
theorem means {relation : Relation} {rhs : Float} (last : LastRow problem terms { relation, rhs })
    (stored : problem.WellStored) (finite : rhs.isFinite = true) (assignment : String → ℚ) :
    Admits (problem.rowInfo problem.rowCount).bounds
        (problem.activity (fun column => assignment (problem.columnName column)) problem.rowCount)
      ↔ relation.Holds (worth assignment (terms.map Term.operand)) (valueOf rhs) := by
  rw [last.activity_eq stored, last.bounds_eq]
  exact @admits_bounds { relation, rhs } rfl finite _

end LastRow

/-- **The row that is added is the last one.** -/
theorem last_of_addRow (sound : reader.Sound) {label : Option String} {terms : List Term}
    {relation : Relation} {rhs : Float} (distinct : Distinct terms)
    (done : reader.addRow line label terms relation rhs = .ok after) :
    LastRow after.problem terms { relation, rhs } := by
  have grows := entries_grows reader terms
  have stored := (sound.grows grows).stored
  have fit := fit_entries reader distinct
  have last := lastRow_appendRow stored fit relation rhs
  rw [terms_entries] at last
  cases (rowNamed_of_addRow done).2 with
  | unnamed | usual => exact last
  | @stored name other =>
    have count := rowCount_appendRow stored (sortEntries (reader.entries terms).1) relation rhs false
    have named := last.modifyRow (stored.appendRow relation rhs false fit.sort)
      (by rw [count]; exact Nat.succ_pos _) ({ · with name := .some name }) { relation, rhs }
      fun _ => ⟨_, rfl⟩
    rw [count, grows.rowCount_eq] at named
    exact named

end Added

end Reader

end LinearProgram.Lp
