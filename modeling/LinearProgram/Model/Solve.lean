/-
**Solving a model.**

A solve has three steps. It begins by giving the whole problem to the engine and taking the engine
out of the model, which is running from then on. The engine runs on its own. The solve finishes by
recording how the run ended and putting the engine back; an engine that broke down is replaced by a
new one, if there is one to be had.

* `Model.begin`, `Solver.attempt`, `Model.finish`: the three steps.
-/

import LinearProgram.Model.Basic

namespace LinearProgram

variable {World Engine : Type}

/-- A run that has ended: the engine unless it broke down, and the outcome or the failure. -/
structure Attempt (Engine : Type) where
  engine : Option Engine
  result : Except String Status
  /-- How many milliseconds the run took. -/
  duration : Nat

/-- What a solve takes out of its model. -/
structure Assignment (Engine : Type) where
  engine : Engine
  options : Options

/-- **Lets an engine solve the problem that it was given.** A breakdown is a failure like any other,
except that the engine is lost. -/
def Solver.attempt (solver : Solver World Engine) (assignment : Assignment Engine) (world : World) :
    Attempt Engine × World :=
  let (run, engine, world) := solver.run assignment.options assignment.engine world
  match run.verdict with
  | .status status => (⟨some engine, .ok status, run.duration⟩, world)
  | .failed message => (⟨some engine, .error message, run.duration⟩, world)
  | .brokeDown (some message) =>
    (⟨none, .error ("engine panicked: " ++ message), run.duration⟩, world)
  | .brokeDown none => (⟨none, .error "engine panicked", run.duration⟩, world)

/-- An engine that exists, or else a new one. -/
def Solver.engineOr (solver : Solver World Engine) (engine : Option Engine) (world : World) :
    Except String Engine × World :=
  match engine with
  | some engine => (.ok engine, world)
  | none => solver.create world

namespace Model

/-- **Begins a solve.** The model is running afterwards unless there was no engine to be had or the
engine did not take the problem. -/
def begin (model : Model Engine) (solver : Solver World Engine) (world : World) :
    Except Error (Assignment Engine) × Model Engine × World :=
  match model.checkIdle with
  | .error error => (.error error, model, world)
  | .ok () =>
    match solver.engineOr model.engine world with
    | (.error message, world) => (.error (.engine message), model, world)
    | (.ok engine, world) =>
      let problem := model.problem.normalize
      match solver.build problem engine world with
      | (.error message, engine, world) =>
        (.error (.solve message), { model with problem, engine := some engine }, world)
      | (.ok (), engine, world) =>
        (.ok ⟨engine, model.options⟩,
          { model with problem, engine := none, solveState := .running, solution := none }, world)

/-- **Finishes a solve.** A model that was released in the meantime keeps neither the engine nor the
solution. -/
def finish (model : Model Engine) (solver : Solver World Engine) (attempt : Attempt Engine)
    (world : World) : Except Error Status × Model Engine × World :=
  let (made, world) := solver.engineOr attempt.engine world
  let engine := made.toOption
  let solution :=
    match attempt.result with
    | .ok status => if status.hasSolution then engine.bind solver.solution else none
    | .error _ => none
  let solveState :=
    match attempt.result with
    | .ok status => SolveState.completed status
    | .error message => SolveState.failed message
  let kept : Model Engine :=
    if model.isDisposed then { model with solveState, solution := none }
    else { model with solveState, solution, engine }
  (attempt.result.mapError .solve, kept, world)

end Model

end LinearProgram
