/-
**The three ways a row compares its activity with its right-hand side.**

A row of a linear program reads `activity ≤ rhs`, `activity ≥ rhs` or `activity = rhs`. The same
three comparisons are the relational operators of the LP text format, so one type serves both.

* `Relation.code`, `Relation.ofCode?`: the numbers by which a host names a relation.
* `Relation.symbol`: the operator as it is written.
* `Relation.flip`: the relation seen from the other side.
-/

namespace LinearProgram

/-- How the activity of a row compares with its right-hand side. -/
inductive Relation where
  | atMost
  | atLeast
  | equal
  deriving DecidableEq, Repr, Inhabited

namespace Relation

/-- The number of a relation in the host interface. -/
def code : Relation → Int
  | atMost => 1
  | atLeast => 2
  | equal => 3

/-- The relation with a given number. -/
def ofCode? : Int → Option Relation
  | 1 => some atMost
  | 2 => some atLeast
  | 3 => some equal
  | _ => none

/-- The operator as the LP format writes it. -/
def symbol : Relation → String
  | atMost => "<="
  | atLeast => ">="
  | equal => "="

/-- The short name of a relation. -/
def label : Relation → String
  | atMost => "LE"
  | atLeast => "GE"
  | equal => "EQ"

/-- The relation between the sides when they change places: `a ≤ b` says `b ≥ a`. -/
def flip : Relation → Relation
  | atMost => atLeast
  | atLeast => atMost
  | equal => equal

@[simp] theorem flip_flip (relation : Relation) : relation.flip.flip = relation := by
  cases relation <;> rfl

@[simp] theorem ofCode?_code (relation : Relation) : ofCode? relation.code = some relation := by
  cases relation <;> rfl

end Relation

end LinearProgram
