/-
**Limits of a variable, on both sides at once or one after the other.**

A variable is limited by `low <= c x <= high`, or by `c x >= low` and `c x <= high`. Both bring the
limits to those of the variable itself, and both take numbers from `1e30` on for infinite, but the first
does so before it divides by the coefficient and the others do so behind.

* `Reader.findColumn?_column`: a name that was looked up is found.
* `Reader.setLimits`: a variable is given both limits. `Reader.limits?`: the limits that it has.
* `Reader.boundBoth_eq`, `Reader.bound_bound`: what both forms do, as `setLimits`.
* `TwoSided`: the parts of a statement with limits on both sides.
* **`TwoSided.statement_double`**, **`TwoSided.run_halves`**: what it does, and what the two statements
  do in either order.
-/

import LinearProgram.Proofs.Lp.Clamp
import LinearProgram.Proofs.Lp.Orderly
import LinearProgram.Proofs.Lp.Pieces
import LinearProgram.Proofs.Lp.Statements
import LinearProgram.Proofs.Problem.Intervals

namespace LinearProgram.Lp

open Decimal Problem

/-! ### Columns that are looked up again -/

namespace Reader

variable {reader : Reader}

/-- A name that was looked up is found. -/
theorem findColumn?_column (reader : Reader) (name : String) :
    (reader.column name).2.findColumn? name = some (reader.column name).1 := by
  have last := columnName_column reader name
  have grows := column_grows reader name
  cases found : reader.findColumn? name with
  | some index =>
    have same : reader.column name = (index, reader) := by rw [column, found]
    rw [same, found]
  | none =>
    have place : (reader.column name).1 = reader.problem.columnCount + 1 := by rw [column, found]
    have count : (reader.column name).2.problem.columnCount = reader.problem.columnCount + 1 := by
      rw [column, found]
      exact List.length_append
    have others : reader.problem.columnIndices.find? (fun index =>
        (reader.column name).2.problem.columnName index == name) = none := by
      refine List.find?_eq_none.mpr fun index member => ?_
      rw [grows.columnName_eq (mem_columnIndices.mp member)]
      exact List.find?_eq_none.mp found index member
    rw [place] at last
    rw [findColumn?, columnIndices, count, List.range'_1_concat, List.find?_append,
      ← columnIndices, others, place, Nat.add_comm 1]
    rw [Option.none_or, List.find?_singleton, last, beq_self_eq_true, if_pos rfl]

/-- What changes no name of a column leaves the columns of all names where they are. -/
theorem findColumn?_change (reader : Reader) (name : String) (index : Nat)
    (change : Column → Column) (keeps : ∀ column, (change column).name = column.name) :
    (reader.change (·.modifyColumn index change)).findColumn? name = reader.findColumn? name := by
  have count : (reader.change (·.modifyColumn index change)).problem.columnIndices
      = reader.problem.columnIndices := congrArg (List.range' 1) (List.length_modify ..)
  unfold findColumn?
  rw [count]
  congr 1
  funext other
  exact congrArg (· == name) (Orderly.columnName_modifyColumn reader.problem index keeps other)

/-- Gives both limits to the variable of a name. -/
def setLimits (reader : Reader) (name : String) (limits : Float × Float) : Reader :=
  (reader.column name).2.change (·.forceBounds (reader.column name).1 limits.1 limits.2)

/-- The limits of a column. -/
def limitsAt (reader : Reader) (index : Nat) : Float × Float :=
  ((reader.problem.column index).lower, (reader.problem.column index).upper)

/-- The limits of the variable of a name, if it has appeared. -/
def limits? (reader : Reader) (name : String) : Option (Float × Float) :=
  (reader.findColumn? name).map reader.limitsAt

theorem findColumn?_setLimits (reader : Reader) (name : String) (limits : Float × Float) :
    (reader.setLimits name limits).findColumn? name = some (reader.column name).1 :=
  (findColumn?_change (reader.column name).2 name (reader.column name).1
    ({ · with lower := limits.1, upper := limits.2 }) fun _ => rfl).trans
      (findColumn?_column reader name)

theorem column_setLimits (reader : Reader) (name : String) (limits : Float × Float) :
    (reader.setLimits name limits).column name
      = ((reader.column name).1, reader.setLimits name limits) := by
  rw [column, findColumn?_setLimits]

theorem limitsAt_setLimits (reader : Reader) (name : String) (limits : Float × Float) :
    (reader.setLimits name limits).limitsAt (reader.column name).1 = limits := by
  obtain ⟨low, high⟩ := column_has reader name
  have inside : (reader.column name).1 - 1 < (reader.column name).2.problem.columns.length :=
    Nat.lt_of_lt_of_le (Nat.sub_lt low Nat.one_pos) high
  unfold limitsAt setLimits change forceBounds modifyColumn Problem.column
  dsimp only
  rw [List.getElem?_modify, List.getElem?_eq_getElem inside]
  simp

/-- **A variable has the limits that it is given.** -/
theorem limits?_setLimits (reader : Reader) (name : String) (limits : Float × Float) :
    (reader.setLimits name limits).limits? name = some limits := by
  rw [limits?, findColumn?_setLimits, Option.map_some, limitsAt_setLimits]

/-- **Limits replace the ones before.** -/
theorem setLimits_setLimits (reader : Reader) (name : String) (first second : Float × Float) :
    (reader.setLimits name first).setLimits name second = reader.setLimits name second := by
  rw [setLimits, column_setLimits]
  unfold setLimits change forceBounds modifyColumn
  dsimp only
  rw [List.modify_modify_eq]
  rfl

/-! ### What the two forms do -/

section Forms

variable {term : Term} (nonzero : (term.coefficient == 0) = false)

include nonzero

/-- Limits on both sides. -/
theorem boundBoth_eq (reader : Reader) (line : Nat) (low high : Float) :
    reader.boundBoth line term (clamp low) (clamp high)
      = .ok (reader.setLimits term.name (limitsBefore term.coefficient low high)) := by
  unfold boundBoth setLimits limitsBefore change
  rw [nonzero, if_neg Bool.false_ne_true]
  dsimp only
  split <;> rfl

/-- A limit on one side. -/
theorem bound_eq (reader : Reader) (line : Nat) (relation : Relation) (value : Float) :
    reader.bound line term relation value
      = .ok (reader.setLimits term.name
        (moveSide ((reader.column term.name).2.limitsAt (reader.column term.name).1)
          (if term.coefficient < 0 then relation.flip else relation,
            clamp (value / term.coefficient)))) := by
  unfold bound setLimits change
  rw [nonzero, if_neg Bool.false_ne_true]
  dsimp only
  generalize clamp (value / term.coefficient) = limit
  generalize (if term.coefficient < 0 then relation.flip else relation) = divided
  cases divided <;> rfl

/-- **Two limits one after the other**, in either order. -/
theorem bound_bound (reader : Reader) (line line' : Nat) (low high : Float) :
    (reader.bound line term .atLeast low).bind (·.bound line' term .atMost high)
        = .ok (reader.setLimits term.name (limitsBehind term.coefficient low high))
      ∧ (reader.bound line term .atMost high).bind (·.bound line' term .atLeast low)
        = .ok (reader.setLimits term.name (limitsBehind term.coefficient low high)) := by
  have second (limits : Float × Float) (relation : Relation) (value : Float) :
      (reader.setLimits term.name limits).bound line' term relation value
        = .ok (reader.setLimits term.name (moveSide limits
          (if term.coefficient < 0 then relation.flip else relation,
            clamp (value / term.coefficient)))) := by
    rw [bound_eq nonzero, column_setLimits]
    dsimp only
    rw [limitsAt_setLimits, setLimits_setLimits]
  rw [bound_eq nonzero, bound_eq nonzero, Except.bind, Except.bind, second, second, limitsBehind]
  generalize clamp (low / term.coefficient) = lower
  generalize clamp (high / term.coefficient) = upper
  by_cases negative : term.coefficient < 0
  · simp only [if_pos negative]
    exact ⟨rfl, rfl⟩
  · simp only [if_neg negative]
    exact ⟨rfl, rfl⟩

end Forms

end Reader

/-! ### Statements of both forms -/

/-- The tokens of `before <= between <= after`. -/
def doubleTokens (before between after : List Token) : List Token :=
  before ++ .relation .atMost :: (between ++ .relation .atMost :: after)

/-- The tokens of a comparison. -/
def halfTokens (between : List Token) (relation : Relation) (limit : List Token) : List Token :=
  between ++ .relation relation :: limit

/-- **The parts of a statement that limits a variable on both sides**: constants around a multiple of the
variable. `low` and `high` are the constants less the one between them. -/
structure TwoSided (before between after : List Token) (term : Term) (low high : Float) : Prop where
  nonzero : (term.coefficient == 0) = false
  before_ne_nil : before ≠ []
  after_ne_nil : after ≠ []
  reads : ∃ left middle right : Expression,
    Reads before left ∧ Reads between middle ∧ Reads after right
      ∧ left.terms = [] ∧ middle.terms = [term] ∧ right.terms = []
      ∧ low = left.constant - middle.constant ∧ high = right.constant - middle.constant

namespace TwoSided

variable {before between after : List Token} {term : Term} {low high : Float}
  (two : TwoSided before between after term low high)

include two

/-- **The statement gives both limits**, clamped before the division. -/
theorem statement_double {double : List Located}
    (same : double.map (·.token) = doubleTokens before between after) (reader : Reader) :
    reader.statement double
      = .ok (reader.setLimits term.name (limitsBefore term.coefficient low high)) := by
  obtain ⟨left, middle, right, reads, reads', reads'', none, alone, none', rfl, rfl⟩ := two.reads
  have asks := asks_between reads reads' reads'' alone none none'
  exact (asks.takes fun line => reader.boundBoth_eq two.nonzero line _ _).takes double same

/-- **The two statements give both limits**, clamped behind the division, in either order. -/
theorem run_halves {lower upper : List Located}
    (same : lower.map (·.token) = halfTokens between .atLeast before)
    (same' : upper.map (·.token) = halfTokens between .atMost after) (reader : Reader) :
    reader.run [lower, upper]
        = .ok (reader.setLimits term.name (limitsBehind term.coefficient low high))
      ∧ reader.run [upper, lower]
        = .ok (reader.setLimits term.name (limitsBehind term.coefficient low high)) := by
  obtain ⟨left, middle, right, reads, reads', reads'', none, alone, none', rfl, rfl⟩ := two.reads
  obtain ⟨line, does⟩ :=
    (asks_single reads' reads alone none two.before_ne_nil .atLeast).statement_eq same
  obtain ⟨line', does'⟩ :=
    (asks_single reads' reads'' alone none' two.after_ne_nil .atMost).statement_eq same'
  have pair (first second : List Located) :
      reader.run [first, second] = (reader.statement first).bind (·.statement second) := by
    unfold Reader.run
    rw [List.foldlM_cons]
    cases reader.statement first with
    | error failure => rfl
    | ok middle => exact bind_pure (middle.statement second)
  have bounds := reader.bound_bound two.nonzero
  refine ⟨?_, ?_⟩
  · rw [pair, does, funext does']
    exact (bounds line line' _ _).1
  · rw [pair, does', funext does]
    exact (bounds line' line _ _).2

end TwoSided

end LinearProgram.Lp
