/-
**What is read is infinite or below `1e30`.**

Every limit and every right-hand side that a statement brings is taken for infinite from `1e30` on, but
the limits on both sides of a variable are so before they are divided. So each limit in a problem that
was read is infinite or below `1e30` in magnitude if these divisions do not cross `1e30`, and if there
are numbers to be taken at all: a sum of infinities is none.

* `Action.Settled`: what an action brings was clamped. **`Statement.action_settled`**: it always was.
* `Action.Regular`: an action with numbers and without divisions that cross `1e30`.
* `LimitsBounded`: the limits in a problem are infinite or below `1e30`.
* **`LimitsBounded.act`**: a regular action keeps them so. `LimitsBounded.run`: so do statements.
* **`twoSided_agrees`**: when limits on both sides agree with two limits, and when all are bounded.
-/

import LinearProgram.Proofs.Lp.Rows
import LinearProgram.Proofs.Lp.VariableBounds
import LinearProgram.Proofs.Ranges

namespace LinearProgram.Lp

open Decimal Problem

/-! ### What actions bring -/

namespace Action

/-- **What the action brings was clamped**, unless it does that itself. -/
def Settled : Action → Prop
  | boundBoth _ lower upper | addRowBetween _ _ lower upper =>
    clamp lower = lower ∧ clamp upper = upper
  | addRow _ _ _ rhs => clamp rhs = rhs
  | objective .. | declaration .. | bound .. | moveLimit .. => True

theorem single_settled {line : Nat} {label : Option String} {terms : List Term} {relation : Relation}
    {value : Float} {action : Action}
    (asks : single line label terms relation value = .ok action) : action.Settled := by
  unfold single at asks
  split at asks
  · cases asks
  · cases asks
    trivial
  · cases asks
    exact clamp_clamp value

theorem double_settled (label : Option String) (terms : List Term) (lower upper : Float) :
    (double label terms lower upper).Settled := by
  have both := And.intro (clamp_clamp lower) (clamp_clamp upper)
  unfold double
  split
  · exact both
  · exact both

/-- A division with a quotient that is a number, and that does not cross `1e30`. -/
def Divides (divisor value : Float) : Prop :=
  (value / divisor).isNaN = false ∧ Evenly divisor value

instance (divisor value : Float) : Decidable (Divides divisor value) :=
  inferInstanceAs (Decidable (_ ∧ _))

/-- **The action brings numbers, and no division in it crosses `1e30`.** -/
def Regular : Action → Prop
  | bound term _ value => (value / term.coefficient).isNaN = false
  | boundBoth term lower upper => Divides term.coefficient lower ∧ Divides term.coefficient upper
  | addRow _ _ _ rhs => rhs.isNaN = false
  | addRowBetween _ _ lower upper => lower.isNaN = false ∧ upper.isNaN = false
  | moveLimit _ _ value => value.isNaN = false
  | objective .. | declaration .. => True

instance : DecidablePred Regular
  | bound .. | addRow .. | moveLimit .. => inferInstanceAs (Decidable (_ = _))
  | boundBoth .. | addRowBetween .. => inferInstanceAs (Decidable (_ ∧ _))
  | objective .. | declaration .. => inferInstanceAs (Decidable True)

end Action

/-- **What a statement asks for was clamped.** -/
theorem Statement.action_settled {line : Nat} {statement : Statement} {action : Action}
    (asks : statement.action line = .ok action) : action.Settled := by
  cases statement with
  | objective maximize body =>
    cases asks
    trivial
  | declaration declared body =>
    cases asks
    trivial
  | constraint label body =>
    cases Action.formed_ofConstraint asks with
    | single _ _ _ _ _ _ asks => exact Action.single_settled asks
    | double => exact Action.double_settled ..
    | moveLimit => trivial

/-- **The statement asks for a regular action**, if it asks for anything. -/
def RegularStatement : List Located → Prop
  | [] => True
  | first :: rest =>
    ∀ action ∈ ((Statement.ofTokens (first :: rest)).action first.line).toOption, action.Regular

instance : DecidablePred RegularStatement
  | [] => inferInstanceAs (Decidable True)
  | _ :: _ => inferInstanceAs (Decidable (∀ _ ∈ _, _))

/-! ### Bounded problems -/

/-- Both limits of a column are infinite or below `1e30`. -/
def ColumnBounded (column : Column) : Prop :=
  Bounded column.lower ∧ Bounded column.upper

/-- **The limits of all columns and all right-hand sides** are infinite or below `1e30`. -/
structure LimitsBounded (problem : Problem) : Prop where
  columns : ∀ column ∈ problem.columns, ColumnBounded column
  rows : ∀ row ∈ problem.rows, Bounded row.rhs

theorem bounded_zero : Bounded 0 := by decide +kernel

theorem bounded_infinity : Bounded infinity := by decide +kernel

/-- A new column has limits that are. -/
theorem columnBounded_new (name : Option String) : ColumnBounded { name } :=
  ⟨bounded_zero, bounded_infinity⟩

namespace LimitsBounded

variable {problem : Problem} (bounded : LimitsBounded problem)

theorem empty : LimitsBounded {} :=
  ⟨fun _ member => (List.not_mem_nil member).elim, fun _ member => (List.not_mem_nil member).elim⟩

include bounded

theorem column (index : Nat) : ColumnBounded (problem.column index) := by
  rw [Problem.column]
  cases found : problem.columns[index - 1]? with
  | none => exact columnBounded_new none
  | some column => exact bounded.columns column (List.mem_of_getElem? found)

theorem rowInfo (index : Nat) : Bounded (problem.rowInfo index).rhs := by
  rw [Problem.rowInfo]
  cases found : problem.rows[index - 1]? with
  | none => exact bounded_zero
  | some row => exact bounded.rows row (List.mem_of_getElem? found)

theorem modifyColumn (index : Nat) {change : Column → Column}
    (keeps : ∀ column, ColumnBounded column → ColumnBounded (change column)) :
    LimitsBounded (problem.modifyColumn index change) where
  columns := RangesFit.forall_mem_modify bounded.columns fun column _ => keeps column
  rows := bounded.rows

theorem forceBounds (index : Nat) {lower upper : Float} (low : Bounded lower)
    (high : Bounded upper) : LimitsBounded (problem.forceBounds index lower upper) :=
  bounded.modifyColumn index fun _ _ => ⟨low, high⟩

/-- A row may be replaced. -/
theorem replaceRow (index : Nat) {row : Row} (limit : Bounded row.rhs) :
    LimitsBounded (problem.modifyRow index fun _ => row) where
  columns := bounded.columns
  rows := RangesFit.forall_mem_modify bounded.rows fun _ _ _ => limit

end LimitsBounded

/-! ### What actions keep bounded -/

/-- All limits of the problem so far are bounded. -/
def BoundedReader (reader : Reader) : Prop :=
  LimitsBounded reader.problem

namespace LimitsBounded

variable {reader after : Reader} {line : Nat} (bounded : LimitsBounded reader.problem)

include bounded

theorem lookUp (name : String) : LimitsBounded (reader.column name).2.problem := by
  unfold Reader.column
  split
  next => exact bounded
  next =>
    refine ⟨List.forall_mem_append.mpr ⟨bounded.columns, ?_⟩, bounded.rows⟩
    exact List.forall_mem_singleton.mpr (columnBounded_new _)

theorem entries (terms : List Term) : LimitsBounded (reader.entries terms).2.problem :=
  @Reader.entries_keeps reader BoundedReader terms
    (fun _ term _ bounded => LimitsBounded.lookUp bounded term.name) bounded

theorem objective {maximize : Bool} {body : List Located}
    (done : reader.objective line maximize body = .ok after) : LimitsBounded after.problem := by
  obtain ⟨expression, -, rfl⟩ := Reader.exists_of_objective done
  refine @Reader.withObjective_keeps reader BoundedReader expression ?_ ?_ ?_ bounded maximize
  · exact fun _ _ _ _ bounded => ⟨bounded.columns, bounded.rows⟩
  · exact fun _ term _ bounded => bounded.lookUp term.name
  · exact fun _ index _ bounded => bounded.modifyColumn index fun _ kept => kept

theorem declare (declared : Section) (name : String) :
    LimitsBounded (reader.declare declared name).problem := by
  have grown := bounded.lookUp name
  cases declared with
  | integer => exact grown.modifyColumn _ fun _ kept => kept
  | binary => exact grown.modifyColumn _ fun _ _ => ⟨bounded_zero, (by decide +kernel : Bounded 1)⟩
  | free => exact grown.forceBounds _ (by decide +kernel) (grown.column _).2

theorem declareAll {declared : Section} {body : List Located}
    (done : reader.declareAll declared body = .ok after) : LimitsBounded after.problem := by
  have start : BoundedReader reader := bounded
  have ended : BoundedReader after :=
    Reader.declareAll_keeps (fun _ name bounded => LimitsBounded.declare bounded declared name) start
      done
  exact ended

/-- **One limit** is clamped behind the division. -/
theorem bound {term : Term} {relation : Relation} {value : Float}
    (number : (value / term.coefficient).isNaN = false)
    (done : reader.bound line term relation value = .ok after) : LimitsBounded after.problem := by
  have limit := bounded_clamp number
  have grown := bounded.lookUp term.name
  have old := grown.column (reader.column term.name).1
  obtain rfl := Except.ok.inj (of_guard_ok done).2
  dsimp only [Reader.change]
  split
  · exact grown.forceBounds _ limit old.2
  · exact grown.forceBounds _ old.1 limit
  · exact grown.forceBounds _ limit limit

/-- **Two limits at once** are clamped before the division, which must not cross `1e30`. -/
theorem boundBoth {term : Term} {lower upper : Float}
    (settled : clamp lower = lower ∧ clamp upper = upper)
    (low : Action.Divides term.coefficient lower) (high : Action.Divides term.coefficient upper)
    (done : reader.boundBoth line term lower upper = .ok after) : LimitsBounded after.problem := by
  obtain ⟨nonzero, done⟩ := of_guard_ok done
  have nonzero := Bool.eq_false_iff.mpr nonzero
  have low := bounded_div settled.1 low.2 nonzero low.1
  have high := bounded_div settled.2 high.2 nonzero high.1
  have grown := bounded.lookUp term.name
  obtain rfl := Except.ok.inj done
  dsimp only [Reader.change]
  split
  · exact grown.forceBounds _ low high
  · exact grown.forceBounds _ high low

theorem addRow (sound : reader.Sound) {label : Option String} {terms : List Term} {relation : Relation}
    {rhs : Float} (limit : Bounded rhs)
    (done : reader.addRow line label terms relation rhs = .ok after) :
    LimitsBounded after.problem where
  columns := by
    rw [Reader.columns_addRow done]
    exact (bounded.entries terms).columns
  rows := by
    rw [(Reader.rowAdded_addRow sound done).rows]
    exact List.forall_mem_append.mpr ⟨bounded.rows, List.forall_mem_singleton.mpr limit⟩

theorem addRowBetween (sound : reader.Sound) {label : Option String} {terms : List Term}
    {lower upper : Float} (low : Bounded lower) (high : Bounded upper)
    (done : reader.addRowBetween line label terms lower upper = .ok after) :
    LimitsBounded after.problem := by
  obtain ⟨relation, rhs, middle, which, added, same⟩ := Reader.exists_of_addRowBetween done
  have limit : Bounded rhs := by
    rcases which with rfl | rfl
    · exact low
    · exact high
  have grown := bounded.addRow sound limit added
  rcases same with rfl | ⟨range, row, set, rfl⟩
  · exact grown
  -- A range keeps the right-hand side.
  · refine grown.replaceRow _ ?_
    rw [setRange?_eq_some set]
    exact grown.rowInfo _

theorem moveLimit {name : String} {relation : Relation} {value : Float}
    (number : value.isNaN = false)
    (done : reader.moveLimit line name relation value = .ok after) : LimitsBounded after.problem := by
  obtain ⟨index, -, row, limited, rfl⟩ := Reader.exists_row_of_moveLimit done
  refine bounded.replaceRow index ?_
  rcases (limited?_keeps limited).2 with same | same
  · exact same ▸ bounded.rowInfo index
  · exact same ▸ bounded_clamp number

/-- **A regular action keeps all limits bounded.** -/
theorem act (sound : reader.Sound) {action : Action} (settled : action.Settled)
    (regular : action.Regular) (done : reader.act line action = .ok after) :
    LimitsBounded after.problem := by
  cases action with
  | objective maximize body => exact bounded.objective done
  | declaration declared body => exact bounded.declareAll (Reader.declareAll_of_declaration done)
  | bound term relation value => exact bounded.bound regular done
  | boundBoth term lower upper => exact bounded.boundBoth settled regular.1 regular.2 done
  | addRow label terms relation rhs =>
    exact bounded.addRow sound (bounded_of_clamp_eq settled regular) done
  | addRowBetween label terms lower upper =>
    exact bounded.addRowBetween sound (bounded_of_clamp_eq settled.1 regular.1)
      (bounded_of_clamp_eq settled.2 regular.2) done
  | moveLimit name relation value => exact bounded.moveLimit regular done

/-- **Statements keep all limits bounded** that ask for what is regular. -/
theorem run (sound : reader.Sound) {pieces : List (List Located)}
    (regular : ∀ piece ∈ pieces, RegularStatement piece)
    (done : reader.run pieces = .ok after) : LimitsBounded after.problem := by
  have start : BoundedReader reader := bounded
  have ended : after.Sound ∧ BoundedReader after := sound.run ?_ done start
  · exact ended.2
  intro first rest member action asks before later sound acts bounded
  have regular : action.Regular := regular (first :: rest) member action (by rw [asks]; rfl)
  exact LimitsBounded.act bounded sound (Statement.action_settled asks) regular acts

end LimitsBounded

/-! ### Both forms -/

/-- **Limits on both sides against two limits**, in any state of reading: `before <= between <= after`
is taken exactly as `between >= before` and `between <= after`, in either order, if no division of a
limit by the coefficient crosses `1e30`; otherwise the variable gets other limits. And if no division of
an action crosses `1e30`, and there are numbers for all of them, then each limit that a text leaves to a
column and each right-hand side is infinite or below `1e30`. -/
theorem twoSided_agrees {before between after : List Token} {term : Term} {low high : Float}
    (two : TwoSided before between after term low high) {double lower upper : List Located}
    (same : double.map (·.token) = doubleTokens before between after)
    (same' : lower.map (·.token) = halfTokens between .atLeast before)
    (same'' : upper.map (·.token) = halfTokens between .atMost after) (reader : Reader) :
    (∃ both apart, reader.statement double = .ok both
      ∧ reader.run [lower, upper] = .ok apart ∧ reader.run [upper, lower] = .ok apart
      ∧ both.limits? term.name = some (limitsBefore term.coefficient low high)
      ∧ apart.limits? term.name = some (limitsBehind term.coefficient low high)
      ∧ (both.limits? term.name = apart.limits? term.name
        ↔ Evenly term.coefficient low ∧ Evenly term.coefficient high)
      ∧ (Evenly term.coefficient low ∧ Evenly term.coefficient high → both = apart))
    ∧ ∀ {text : String} {problem : Problem}, parse text = .ok problem →
      ∃ tokens, scan 1 text.toList = .ok tokens
        ∧ ((∀ piece ∈ pieces tokens, RegularStatement piece) → LimitsBounded problem) := by
  constructor
  · obtain ⟨done, done'⟩ := two.run_halves same' same'' reader
    have agree : limitsBefore term.coefficient low high = limitsBehind term.coefficient low high ↔ _ :=
      limitsBefore_eq_iff two.nonzero
    refine ⟨_, _, two.statement_double same reader, done, done', Reader.limits?_setLimits ..,
      Reader.limits?_setLimits .., ?_, fun even => congrArg (reader.setLimits term.name) (agree.mpr even)⟩
    rw [Reader.limits?_setLimits, Reader.limits?_setLimits, Option.some.injEq, agree]
  · intro text problem read
    obtain ⟨tokens, reader, scanned, done, rfl⟩ := exists_run_of_parse read
    exact ⟨tokens, scanned, fun regular =>
      LimitsBounded.empty.run Reader.sound_empty regular done⟩

/-- The parts of `-3e29 <= - 2 x <= 8e29`. -/
def nearLow : List Token := [.minus, .number 3e29]

def nearTerm : List Token := [.minus, .number 2, .name "x"]

def nearHigh : List Token := [.number 8e29]

/-- Limits that stay below `1e30` when they are divided, and a row that has no limit above. -/
def nearText : String := "min: ;\n-3e29 <= - 2 x <= 8e29;\nc: x <= 2e30;\n"

/-- A statement on one line. -/
def onLine (tokens : List Token) : List Located :=
  tokens.map (⟨·, 1⟩)

theorem map_onLine (tokens : List Token) : (onLine tokens).map (·.token) = tokens :=
  List.map_map.trans (List.map_id' _)

theorem twoSided_agrees_near :
    (∃ reader, Reader.statement {} (onLine (doubleTokens nearLow nearTerm nearHigh)) = .ok reader
      ∧ Reader.run {} [onLine (halfTokens nearTerm .atMost nearHigh),
        onLine (halfTokens nearTerm .atLeast nearLow)] = .ok reader
      ∧ reader.limits? "x" = some (limitsBefore (-2) (0 + -3e29 - 0) (0 + 8e29 - 0)))
    ∧ ∃ problem, parse nearText = .ok problem ∧ LimitsBounded problem := by
  have two : TwoSided nearLow nearTerm nearHigh ⟨"x", -2⟩ (0 + -3e29 - 0) (0 + 8e29 - 0) := by
    refine ⟨by decide +kernel, List.cons_ne_nil _ _, List.cons_ne_nil _ _, _, _, _,
      reads_total [⟨some true, some 3e29, none⟩] ?_ nofun,
      reads_total [⟨some true, some 2, some "x"⟩] ?_ nofun,
      reads_total [⟨none, some 8e29, none⟩] ?_ nofun, rfl, rfl, rfl, rfl, rfl⟩
    · exact List.forall_mem_singleton.mpr (List.cons_ne_nil _ _)
    · exact List.forall_mem_singleton.mpr (List.cons_ne_nil _ _)
    · exact List.forall_mem_singleton.mpr (List.cons_ne_nil _ _)
  have accepted : ((parse nearText).toOption.map fun _ => ()) = some () := by decide +kernel
  have regular : ((scan 1 nearText.toList).toOption.map fun tokens =>
      decide (∀ piece ∈ pieces tokens, RegularStatement piece)) = some true := by decide +kernel
  have even : Evenly (-2) (0 + -3e29 - 0) ∧ Evenly (-2) (0 + 8e29 - 0) := by decide +kernel
  obtain ⟨problem, read, -⟩ := exists_ok_of_view accepted
  obtain ⟨tokens, scanned, holds⟩ := exists_ok_of_view regular
  obtain ⟨⟨both, apart, done, -, done', limits, -, -, same⟩, bounded⟩ :=
    twoSided_agrees two (map_onLine _) (map_onLine _) (map_onLine _) {}
  obtain rfl := same even
  obtain ⟨tokens', scanned', keeps⟩ := bounded read
  obtain rfl := Except.ok.inj (scanned.symm.trans scanned')
  exact ⟨⟨both, done, done', limits⟩, problem, read, keeps (of_decide_eq_true holds)⟩

/-- Clamped before it is divided, a limit can end beyond `1e30`. -/
example : ¬ Bounded (limitsBefore 0.5 (-6e29) 6e29).2 := by decide +kernel

end LinearProgram.Lp
