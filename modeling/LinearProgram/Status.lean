/-
**How a solve ended.**

The engine reports one of fourteen outcomes. Their numbers belong to the host interface. An outcome
is a fact about the problem, never an error: an infeasible problem was solved.

* `Status.code`, `Status.ofCode?`: the numbers of the host interface.
* `Status.hasSolution`: whether the outcome comes with column values that can be used.
-/

namespace LinearProgram

/-- The outcome of a solve. -/
inductive Status where
  | noMemory
  | optimal
  | subOptimal
  | infeasible
  | unbounded
  | degenerate
  | numericFailure
  | userAbort
  | timeout
  | presolved
  | processFailed
  | processBroken
  | feasibleFound
  | noFeasibleFound
  deriving DecidableEq, Repr, Inhabited

namespace Status

/-- Every outcome, in the order of the numbers. -/
def all : List Status :=
  [noMemory, optimal, subOptimal, infeasible, unbounded, degenerate, numericFailure, userAbort,
    timeout, presolved, processFailed, processBroken, feasibleFound, noFeasibleFound]

/-- The number of an outcome. The numbers leave gaps at `-1` and `8`. -/
def code : Status → Int
  | noMemory => -2
  | optimal => 0
  | subOptimal => 1
  | infeasible => 2
  | unbounded => 3
  | degenerate => 4
  | numericFailure => 5
  | userAbort => 6
  | timeout => 7
  | presolved => 9
  | processFailed => 10
  | processBroken => 11
  | feasibleFound => 12
  | noFeasibleFound => 13

/-- The outcome with a given number. -/
def ofCode? (number : Int) : Option Status :=
  all.find? fun status => status.code == number

/-- The short name of an outcome. -/
def label : Status → String
  | noMemory => "NoMemory"
  | optimal => "Optimal"
  | subOptimal => "SubOptimal"
  | infeasible => "Infeasible"
  | unbounded => "Unbounded"
  | degenerate => "Degenerate"
  | numericFailure => "NumFailure"
  | userAbort => "UserAbort"
  | timeout => "Timeout"
  | presolved => "Presolved"
  | processFailed => "ProcFail"
  | processBroken => "ProcBreak"
  | feasibleFound => "FeasFound"
  | noFeasibleFound => "NoFeasFound"

/-- Whether the outcome comes with column values that can be used. -/
def hasSolution : Status → Bool
  | optimal | subOptimal | presolved | feasibleFound => true
  | _ => false

@[simp] theorem ofCode?_code (status : Status) : ofCode? status.code = some status := by
  cases status <;> rfl

end Status

end LinearProgram
