/-
**A model: a problem with the engine that solves it.**

A model owns its problem and at most one engine. While a solve is under way the engine is out with
the solve, and only questions are answered. A disposed model answers nothing. Every operation passes
one of two gates before it looks at its arguments:

* `Model.checkActive`: for questions; shut once the model is disposed.
* `Model.checkIdle`: for everything that changes the model; shut also while a solve is under way.
* `Model.dispose`, `Model.release`: the end of a model, asked for or because its last holder is
  gone.
-/

import LinearProgram.Arguments.WorkStack
import LinearProgram.Error
import LinearProgram.Solver.Basic

namespace LinearProgram

/-- What became of the solves of a model. -/
inductive SolveState where
  | idle
  | running
  | completed (status : Status)
  | failed (message : String)
  deriving DecidableEq, Repr, Inhabited

/-- A problem with its engine, its settings, and what became of its last solve. -/
structure Model (Engine : Type) where
  problem : Problem := {}
  /-- The engine, unless a solve has it or it was lost. -/
  engine : Option Engine := none
  options : Options := {}
  isDisposed : Bool := false
  solveState : SolveState := .idle
  /-- The solution of the last solve, as long as the problem is the one that was solved. -/
  solution : Option Solution := none
  /-- Storage for the arguments of a call; nothing of it is in use between calls. -/
  work : WorkStack := {}

namespace Model

variable {Engine : Type}

/-- Whether a solve is under way. -/
def isRunning (model : Model Engine) : Bool :=
  model.solveState == .running

/-- The gate of the questions. -/
def checkActive (model : Model Engine) : Except Error Unit :=
  if model.isDisposed then .error .disposed else .ok ()

/-- The gate of the changes. -/
def checkIdle (model : Model Engine) : Except Error Unit :=
  if model.isDisposed then .error .disposed
  else if model.isRunning then .error .busy
  else .ok ()

/-- **Disposes of the model.** Its engine and its problem are given up. Nothing happens a second
time. -/
def dispose (model : Model Engine) : Except Error Unit × Model Engine :=
  if model.isDisposed then (.ok (), model)
  else if model.isRunning then (.error .busy, model)
  else
    (.ok (), { model with
      isDisposed := true
      engine := none
      solution := none
      problem := {}
      work := {} })

/-- The last holder of the model is gone, perhaps in the middle of a solve. -/
def release (model : Model Engine) : Model Engine :=
  if model.isDisposed then model
  else { model with isDisposed := true, engine := none, solution := none }

/-- A column index that exists. -/
def checkColumn (problem : Problem) (index : Nat) : Except Error Unit :=
  if index = 0 ∨ problem.columnCount < index then
    .error (.shape (.columnOutOfRange index problem.columnCount))
  else .ok ()

/-- A row index that exists. -/
def checkRow (problem : Problem) (index : Nat) : Except Error Unit :=
  if index = 0 ∨ problem.rowCount < index then
    .error (.shape (.rowOutOfRange index problem.rowCount))
  else .ok ()

end Model

end LinearProgram
