/-
**A column of a linear program: a variable.**

A column has a coefficient in the objective, bounds, and a flag that asks for integer values. A
binary variable is an integer one with the bounds zero and one, not a kind of its own.

* `Column.setBounds?`: bounds are accepted when the lower one is at most the upper one.
* `Column.kind`: continuous, integer or binary.
-/

import LinearProgram.Decimal.Value

namespace LinearProgram

/-- A column. A new one is continuous, not negative and unbounded above. -/
structure Column where
  objective : Float := 0
  lower : Float := 0
  upper : Float := infinity
  integer : Bool := false
  name : Option String := none
  deriving Repr

instance : Inhabited Column := ⟨{}⟩

/-- The values that a column may take. -/
inductive ColumnKind where
  | continuous
  | integer
  | binary
  deriving DecidableEq, Repr, Inhabited

/-- The name of a kind. -/
def ColumnKind.label : ColumnKind → String
  | continuous => "continuous"
  | integer => "integer"
  | binary => "binary"

namespace Column

/-- **Sets both bounds.** Refused unless the lower bound is at most the upper one, so also when one
of them is not a number. -/
def setBounds? (column : Column) (lower upper : Float) : Option Column :=
  if lower ≤ upper then some { column with lower, upper } else none

/-- Whether the column is binary: integer between zero and one. -/
def isBinary (column : Column) : Bool :=
  column.integer && column.lower == 0 && column.upper == 1

/-- Makes the column binary, or continuous with the bounds it has. -/
def setBinary (column : Column) (binary : Bool) : Column :=
  if binary then { column with integer := true, lower := 0, upper := 1 }
  else { column with integer := false }

/-- Whether the column has the bounds of a new one. -/
def hasDefaultBounds (column : Column) : Bool :=
  column.lower == 0 && column.upper == infinity

/-- The kind of the column. -/
def kind (column : Column) : ColumnKind :=
  if column.isBinary then .binary
  else if column.integer then .integer
  else .continuous

end Column

end LinearProgram
