/-
**Questions to a model.**

A question is answered while a solve is under way just as before it. Two of them, for the text of
the problem and for the problem itself, first put the rows in order that were appended out of order;
no other answer depends on that.

* `Answer`: what a call can answer.
* `Query`: the questions. `Query.answer`: the answer for a model that has not been disposed.
* `Model.ask`: a question behind the gate.
-/

import LinearProgram.Lp.Writer
import LinearProgram.Model.Basic

namespace LinearProgram

/-- What a call can answer. -/
inductive Answer where
  /-- The call is carried out and has nothing to tell. -/
  | done
  /-- There is nothing to tell about. -/
  | absent
  | flag (value : Bool)
  | count (value : Nat)
  | number (value : Float)
  | text (value : String)
  | numbers (values : List Float)
  | interval (lower upper : Float)
  | relation (relation : Relation)
  | kind (kind : ColumnKind)
  | verbosity (verbosity : Verbosity)
  | options (options : Options)
  | status (status : Status)
  | solveState (state : SolveState)
  /-- Whether values were copied, and the buffer afterwards. -/
  | copied (done : Bool) (buffer : List Float)
  | problem (problem : Problem)
  deriving Repr

/-- A question to a model. Row zero of a coefficient is the objective. -/
inductive Query where
  | rowCount
  | columnCount
  | name
  | options
  | rowMode
  | breakAtFirst
  | verbosity
  | timeout
  | maximize
  | objective
  | objectiveOf (column : Nat)
  | coefficient (row column : Nat)
  | row (index : Nat)
  | relation (row : Nat)
  | rowName (row : Nat)
  | rhs (row : Nat)
  | range (row : Nat)
  | bounds (column : Nat)
  | lower (column : Nat)
  | upper (column : Nat)
  | isBinary (column : Nat)
  | isInteger (column : Nat)
  | kind (column : Nat)
  | columnName (column : Nat)
  | solveState
  | status
  | objectiveValue
  | columnValues
  | activities
  /-- Copies the column values over the front of a buffer that is long enough. -/
  | copyColumnValues (buffer : List Float)
  | text
  | problem
  deriving Repr

namespace Query

/-- Whether the question puts the rows in order first. -/
def ordersRows : Query → Bool
  | .text | .problem => true
  | _ => false

/-- An answer about a column that must exist. -/
def ofColumn (problem : Problem) (index : Nat) (answer : Answer) : Except Error Answer := do
  Model.checkColumn problem index
  return answer

/-- An answer about a row that must exist. -/
def ofRow (problem : Problem) (index : Nat) (answer : Answer) : Except Error Answer := do
  Model.checkRow problem index
  return answer

/-- An answer about the solution, if there is one. -/
def ofSolution (solution : Option Solution) (answer : Solution → Answer) : Answer :=
  (solution.map answer).getD .absent

/-- The values copied over the front of a buffer, if it is long enough. -/
def copyInto (buffer : List Float) : Option Solution → Answer
  | some solution =>
    if solution.columns.length ≤ buffer.length then
      .copied true (solution.columns ++ buffer.drop solution.columns.length)
    else .copied false buffer
  | none => .copied false buffer

/-- **The answer of a model that has not been disposed.** -/
def answer {Engine : Type} (model : Model Engine) : Query → Except Error Answer
  | .rowCount => .ok (.count model.problem.rowCount)
  | .columnCount => .ok (.count model.problem.columnCount)
  | .name => .ok (.text model.problem.name)
  | .options => .ok (.options model.options)
  | .rowMode => .ok (.flag model.options.rowMode)
  | .breakAtFirst => .ok (.flag model.options.breakAtFirst)
  | .verbosity => .ok (.verbosity model.options.verbosity)
  | .timeout => .ok (.count model.options.timeout)
  | .maximize => .ok (.flag model.problem.maximize)
  | .objective => .ok (.numbers model.problem.objective)
  | .objectiveOf column =>
    ofColumn model.problem column (.number (model.problem.column column).objective)
  | .coefficient index column => do
    Model.checkColumn model.problem column
    if index = 0 then return .number (model.problem.column column).objective
    ofRow model.problem index (.number (model.problem.coefficient index column))
  | .row index => ofRow model.problem index (.numbers (model.problem.denseRow index))
  | .relation index => ofRow model.problem index (.relation (model.problem.rowInfo index).relation)
  | .rowName index => ofRow model.problem index (.text (model.problem.rowName index))
  | .rhs index => ofRow model.problem index (.number (model.problem.rowInfo index).rhs)
  | .range index => ofRow model.problem index (.number (model.problem.rowInfo index).shownRange)
  | .bounds column =>
    let info := model.problem.column column
    ofColumn model.problem column (.interval info.lower info.upper)
  | .lower column => ofColumn model.problem column (.number (model.problem.column column).lower)
  | .upper column => ofColumn model.problem column (.number (model.problem.column column).upper)
  | .isBinary column =>
    ofColumn model.problem column (.flag (model.problem.column column).isBinary)
  | .isInteger column =>
    ofColumn model.problem column (.flag (model.problem.column column).integer)
  | .kind column => ofColumn model.problem column (.kind (model.problem.column column).kind)
  | .columnName column => ofColumn model.problem column (.text (model.problem.columnName column))
  | .solveState => .ok (.solveState model.solveState)
  | .status =>
    match model.solveState with
    | .completed outcome => .ok (.status outcome)
    | _ => .ok .absent
  | .objectiveValue => .ok (ofSolution model.solution (.number ·.objective))
  | .columnValues => .ok (ofSolution model.solution (.numbers ·.columns))
  | .activities => .ok (ofSolution model.solution (.numbers ·.rows))
  | .copyColumnValues buffer => .ok (copyInto buffer model.solution)
  | .text => .ok (.text (Lp.render model.problem))
  | .problem => .ok (.problem model.problem)

end Query

namespace Model

variable {Engine : Type}

/-- The model with the rows of its problem in order. -/
def normalize (model : Model Engine) : Model Engine :=
  { model with problem := model.problem.normalize }

/-- **Asks a question**, which any model answers until it is disposed. -/
def ask (model : Model Engine) (query : Query) : Except Error Answer × Model Engine :=
  match model.checkActive with
  | .error error => (.error error, model)
  | .ok () =>
    let model := if query.ordersRows then model.normalize else model
    (query.answer model, model)

end Model

end LinearProgram
