/-
**No range is below zero.**

The sign of a range does not matter to the one who sets it, and its magnitude is stored. So whatever
happens to a problem, the ranges of its rows are numbers that are not below zero.

* `Row.RangeFit`: the range of a row is not below zero, if it has one.
* `Problem.RangesFit`: so it is for every row. **`RangesFit.apply`**: an operation preserves it.
* **`rangesFit_of_history`**: it holds after every history.
-/

import LinearProgram.Proofs.History
import LinearProgram.Proofs.Lp.Edits

namespace LinearProgram

/-- The range of the row is not below zero, if it has one. -/
def Row.RangeFit (row : Row) : Prop :=
  ∀ range ∈ row.range, 0 ≤ range

theorem Row.RangeFit.of_none {row : Row} (none : row.range = none) : row.RangeFit := by
  intro range ranged
  rw [none] at ranged
  cases ranged

theorem Row.RangeFit.setRange? {row ranged : Row} {range : Float}
    (set : row.setRange? range = some ranged) : ranged.RangeFit :=
  fun stored member => (range_of_setRange? set stored member).2

namespace Problem

/-- **No range of a row is below zero.** -/
def RangesFit (problem : Problem) : Prop :=
  ∀ row ∈ problem.rows, row.RangeFit

namespace RangesFit

variable {problem : Problem} (fit : problem.RangesFit)

theorem forall_mem_modify {α : Type} {good : α → Prop} {items : List α}
    (all : ∀ item ∈ items, good item) {change : α → α} {place : Nat}
    (keeps : ∀ item ∈ items[place]?, good item → good (change item)) :
    ∀ item ∈ items.modify place change, good item := by
  induction items generalizing place with
  | nil => exact fun _ member => (List.not_mem_nil (List.modify_nil .. ▸ member)).elim
  | cons first rest hyp =>
    obtain ⟨here, later⟩ := List.forall_mem_cons.mp all
    cases place with
    | zero => exact List.forall_mem_cons.mpr ⟨keeps first rfl here, later⟩
    | succ place => exact List.forall_mem_cons.mpr ⟨here, hyp later keeps⟩

theorem empty : ({} : Problem).RangesFit :=
  fun _ member => (List.not_mem_nil member).elim

include fit

theorem rowInfo (index : Nat) : (problem.rowInfo index).RangeFit := by
  unfold Problem.rowInfo
  cases found : problem.rows[index - 1]? with
  | none => exact Row.RangeFit.of_none rfl
  | some row => exact fit row (List.mem_of_getElem? found)

theorem modifyRow (index : Nat) {change : Row → Row}
    (keeps : ∀ row, row.RangeFit → (change row).RangeFit) :
    (problem.modifyRow index change).RangesFit :=
  forall_mem_modify fit fun row _ => keeps row

theorem appendRow (entries : List Entry) (relation : Relation) (rhs : Float) (deferOrder : Bool) :
    (problem.appendRow entries relation rhs deferOrder).RangesFit := by
  have rows : (problem.appendRow entries relation rhs deferOrder).rows
      = problem.rows ++ [({ relation, rhs } : Row)] := by
    unfold Problem.appendRow
    dsimp only
    split <;> rfl
  intro row member
  rw [rows] at member
  rcases List.mem_append.mp member with member | member
  · exact fit row member
  · rw [List.mem_singleton.mp member]
    exact Row.RangeFit.of_none rfl

theorem normalize : problem.normalize.RangesFit := by
  have rows (waiting : List Nat) (given : Problem) (same : given.rows = problem.rows) :
      (waiting.foldl sortRow given).rows = problem.rows := by
    induction waiting generalizing given with
    | nil => exact same
    | cons index rest hyp => exact hyp (given.sortRow index) same
  intro row member
  exact fit row (rows _ problem rfl ▸ member)

theorem setRhsVector (entries : List Entry) : (problem.setRhsVector entries).RangesFit := by
  have cleared : RangesFit { problem with rows := problem.rows.map ({ · with rhs := 0 }) } := by
    intro row member
    obtain ⟨old, stood, rfl⟩ := List.mem_map.mp member
    exact fit old stood
  unfold Problem.setRhsVector
  dsimp only
  generalize ({ problem with rows := problem.rows.map ({ · with rhs := 0 }) } : Problem) = given
    at cleared
  induction entries generalizing given with
  | nil => exact cleared
  | cons entry rest hyp => exact hyp _ (cleared.modifyRow entry.column fun _ kept => kept)

theorem setRange (index : Nat) (range : Float) :
    ((problem.setRange? index range).getD problem).RangesFit := by
  unfold Problem.setRange?
  cases set : (problem.rowInfo index).setRange? range with
  | none => exact fit
  | some ranged => exact fit.modifyRow index fun _ _ => Row.RangeFit.setRange? set

theorem setBounds (index : Nat) (lower upper : Float) :
    ((problem.setBounds? index lower upper).getD problem).RangesFit := by
  unfold Problem.setBounds?
  cases (problem.column index).setBounds? lower upper with
  | none | some => exact fit

theorem setObjectiveRow (entries : List Entry) : (problem.setObjectiveRow entries).RangesFit := by
  unfold Problem.setObjectiveRow
  dsimp only
  have cleared : RangesFit
    { problem with columns := problem.columns.map ({ · with objective := 0 }) } := fit
  generalize ({ problem with columns := problem.columns.map ({ · with objective := 0 }) }
    : Problem) = given at cleared
  induction entries generalizing given with
  | nil => exact cleared
  | cons entry rest hyp => exact hyp _ cleared

theorem resize (rows columns : Nat) :
    ((problem.resize? rows columns).getD problem).RangesFit := by
  unfold Problem.resize?
  split
  next =>
    intro row member
    rcases List.mem_append.mp member with member | member
    · exact fit row (List.mem_of_mem_take member)
    · rw [List.eq_of_mem_replicate member]
      exact Row.RangeFit.of_none rfl
  next => exact fit

/-- **An operation preserves it.** -/
theorem apply (operation : Operation) : (operation.apply problem).RangesFit := by
  cases operation with
  | resize rows columns => exact fit.resize rows columns
  | addColumn | setName | setMaximize | setConstant => exact fit
  | setObjective | forceBounds | setInteger | setBinary | setColumnName => exact fit
  | setRow | setCoefficient => exact fit
  | setObjectiveRow entries => exact fit.setObjectiveRow entries
  | appendRow entries relation rhs deferOrder => exact fit.appendRow entries relation rhs deferOrder
  | normalize => exact fit.normalize
  | setRelation | setRhs | setRowName => exact fit.modifyRow _ fun _ kept => kept
  | setRhsVector entries => exact fit.setRhsVector entries
  | setRange row range => exact fit.setRange row range
  | setBounds column lower upper => exact fit.setBounds column lower upper
  | setLower column lower => exact fit.setBounds column lower _
  | setUpper column upper => exact fit.setBounds column _ upper

theorem applyAll (operations : List Operation) :
    (Operation.applyAll problem operations).RangesFit := by
  induction operations generalizing problem with
  | nil => exact fit
  | cons operation rest hyp => exact hyp (fit.apply operation)

end RangesFit

end Problem

/-! ### Reading -/

namespace Lp.Reader

variable {reader after : Reader} (fit : reader.problem.RangesFit)

include fit

theorem Grows.rangesFit (grows : Grows reader after) : after.problem.RangesFit := by
  obtain ⟨more, rfl⟩ := grows
  exact fit

/-- **A change that an action makes preserves it.** -/
theorem Edit.rangesFit (edit : Edit reader after) : after.problem.RangesFit := by
  cases edit with
  | column named => exact (column_grows reader _).rangesFit fit
  | mark | modifyColumn | label => exact fit
  | appendRow within relation rhs => exact fit.appendRow _ relation rhs false
  | nameRow low named other => exact fit.modifyRow _ fun _ kept => kept
  | modifyRow index change moved =>
    refine Problem.RangesFit.forall_mem_modify fit fun row found kept => ?_
    rw [show reader.problem.rowInfo index = row from
      (congrArg (Option.getD · default) found).trans rfl] at moved
    exact fun range ranged => (moved.range range ranged).elim (kept range) And.right

end Lp.Reader

namespace Problem

theorem Origin.rangesFit {start : Problem} (origin : start.Origin) : start.RangesFit := by
  cases origin with
  | empty => exact .empty
  | @ofSize rowCount columnCount _ given =>
    have resized := RangesFit.empty.resize rowCount columnCount
    rw [show ({} : Problem).resize? rowCount columnCount = some start from given] at resized
    exact resized
  | parsed read =>
    obtain ⟨reader, edits, rfl⟩ := Lp.exists_reader_of_parse read
    exact edits.preserves (fun edit fit => edit.rangesFit fit) .empty

/-- **No range is below zero after any history.** -/
theorem rangesFit_of_history {start : Problem} (origin : start.Origin)
    (operations : List Operation) : (Operation.applyAll start operations).RangesFit :=
  origin.rangesFit.applyAll operations

end Problem

end LinearProgram
