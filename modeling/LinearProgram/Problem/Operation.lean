/-
**Operations on a problem, as data.**

Whatever is done to a problem is an operation with its arguments. One that is refused leaves the
problem as it is.

* `Operation`: the operations. `Operation.apply`: what one makes of a problem.
  `Operation.applyAll`: a row of them.
* `Operation.Fits`: the arguments that a caller may give: indices that exist, and for a row entries
  whose indices are distinct and exist.
-/

import LinearProgram.Problem.Basic

namespace LinearProgram

/-- Something done to a problem. -/
inductive Operation where
  | resize (rows columns : Nat)
  | addColumn (name : Option String)
  | setName (name : String)
  | setMaximize (maximize : Bool)
  | setConstant (value : Float)
  | setObjective (column : Nat) (value : Float)
  | setObjectiveRow (entries : List Entry)
  | appendRow (entries : List Entry) (relation : Relation) (rhs : Float) (deferOrder : Bool)
  | setRow (row : Nat) (entries : List Entry)
  | setCoefficient (row column : Nat) (value : Float)
  | normalize
  | setRelation (row : Nat) (relation : Relation)
  | setRhs (row : Nat) (value : Float)
  | setRhsVector (entries : List Entry)
  | setRange (row : Nat) (range : Float)
  | setRowName (row : Nat) (name : String)
  | setBounds (column : Nat) (lower upper : Float)
  | setLower (column : Nat) (lower : Float)
  | setUpper (column : Nat) (upper : Float)
  | forceBounds (column : Nat) (lower upper : Float)
  | setInteger (column : Nat) (integer : Bool)
  | setBinary (column : Nat) (binary : Bool)
  | setColumnName (column : Nat) (name : String)
  deriving Repr

namespace Operation

/-- What an operation makes of a problem. -/
def apply (problem : Problem) : Operation → Problem
  | resize rows columns => (problem.resize? rows columns).getD problem
  | addColumn name => problem.addColumn name
  | setName name => { problem with name }
  | setMaximize maximize => { problem with maximize }
  | setConstant constant => { problem with constant }
  | setObjective column value => problem.setObjective column value
  | setObjectiveRow entries => problem.setObjectiveRow entries
  | appendRow entries relation rhs deferOrder => problem.appendRow entries relation rhs deferOrder
  | setRow row entries => problem.setRow row entries
  | setCoefficient row column value => problem.setCoefficient row column value
  | normalize => problem.normalize
  | setRelation row relation => problem.setRelation row relation
  | setRhs row value => problem.setRhs row value
  | setRhsVector entries => problem.setRhsVector entries
  | setRange row range => (problem.setRange? row range).getD problem
  | setRowName row name => problem.setRowName row name
  | setBounds column lower upper => (problem.setBounds? column lower upper).getD problem
  | setLower column lower => (problem.setLower? column lower).getD problem
  | setUpper column upper => (problem.setUpper? column upper).getD problem
  | forceBounds column lower upper => problem.forceBounds column lower upper
  | setInteger column integer => problem.setInteger column integer
  | setBinary column binary => problem.setBinary column binary
  | setColumnName column name => problem.setColumnName column name

/-- A row of operations, one after the other. -/
def applyAll (problem : Problem) (operations : List Operation) : Problem :=
  operations.foldl apply problem

end Operation

/-! ### Arguments that fit -/

/-- The row exists. -/
def Problem.HasRow (problem : Problem) (index : Nat) : Prop :=
  1 ≤ index ∧ index ≤ problem.rowCount

/-- The column exists. -/
def Problem.HasColumn (problem : Problem) (index : Nat) : Prop :=
  1 ≤ index ∧ index ≤ problem.columnCount

/-- Entries whose indices are distinct and at most a dimension. -/
structure FitEntries (dimension : Nat) (entries : List Entry) : Prop where
  distinct : (entries.map (·.column)).Nodup
  within : ∀ entry ∈ entries, 1 ≤ entry.column ∧ entry.column ≤ dimension

namespace Operation

/-- The arguments that a caller may give. -/
def Fits (problem : Problem) : Operation → Prop
  | setObjectiveRow entries | appendRow entries .. => FitEntries problem.columnCount entries
  | setRhsVector entries => FitEntries problem.rowCount entries
  | setRow row entries => problem.HasRow row ∧ FitEntries problem.columnCount entries
  | setCoefficient row column _ => problem.HasRow row ∧ problem.HasColumn column
  | setRelation row _ | setRhs row _ | setRange row _ | setRowName row _ => problem.HasRow row
  | setObjective column _ | setBounds column .. | setLower column _ | setUpper column _
  | forceBounds column .. | setInteger column _ | setBinary column _ | setColumnName column _ =>
    problem.HasColumn column
  | resize .. | addColumn _ | setName _ | setMaximize _ | setConstant _ | normalize => True

/-- Each of a row of operations fits the problem that the ones before it leave. -/
def FitAll (problem : Problem) : List Operation → Prop
  | [] => True
  | operation :: rest => operation.Fits problem ∧ FitAll (operation.apply problem) rest

end Operation

end LinearProgram
