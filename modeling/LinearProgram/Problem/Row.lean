/-
**A row of a linear program, apart from its coefficients.**

A row compares its activity with a right-hand side. A range adds a limit on the other side: below
an upper right-hand side, above a lower one or an equality.

* `Row.bounds`: the interval that the activity must lie in.
* `Row.shownRange`: the range as it is reported, with a value for rows that have none.
-/

import LinearProgram.Relation
import LinearProgram.Decimal.Value

namespace LinearProgram

/-- A row apart from its coefficients. A new row reads `≤ 0`. -/
structure Row where
  relation : Relation := .atMost
  rhs : Float := 0
  range : Option Float := none
  name : Option String := none
  deriving Repr

instance : Inhabited Row := ⟨{}⟩

namespace Row

/-- The lower and the upper limit of the activity. -/
def bounds (row : Row) : Float × Float :=
  match row.relation with
  | .atMost => ((row.range.map (row.rhs - ·)).getD (-infinity), row.rhs)
  | .atLeast => (row.rhs, (row.range.map (row.rhs + ·)).getD infinity)
  | .equal => (row.rhs, row.rhs + row.range.getD 0)

/-- The range, or what its absence amounts to: nothing for an equality, infinity otherwise. -/
def shownRange (row : Row) : Float :=
  match row.range, row.relation with
  | some range, _ => range
  | none, .equal => 0
  | none, _ => infinity

/-- **Sets the range.** The sign does not matter and an infinite range is none; what is not a
number is refused. -/
def setRange? (row : Row) (range : Float) : Option Row :=
  if range.isNaN then none
  else some { row with range := if range.isInf then none else some range.abs }

end Row

end LinearProgram
