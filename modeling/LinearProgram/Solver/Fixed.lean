/-
**Engines with a fixed answer.**

Such an engine keeps the dimensions of the problem and nothing else. It answers every solve alike,
after a delay if it has one: with an outcome, with a failure, or by breaking down; the plain one
does not support solving. An outcome with a solution comes with zeros for values. A time limit
shorter than the delay ends the solve at the limit.

* `FixedAnswer`: the answers.
* `fixedSolver`: the solver whose engines all give one answer.
* `unavailable`: a solver that makes no engine at all.
-/

import LinearProgram.Solver.Basic

namespace LinearProgram

/-- The answer that every solve gets. -/
inductive FixedAnswer where
  | unsupported
  | status (status : Status)
  | failed (message : String)
  | brokeDown
  deriving Repr

/-- An engine that keeps the dimensions of the problem. -/
structure FixedEngine where
  rows : Nat := 0
  columns : Nat := 0
  solution : Option Solution := none
  deriving Repr, Inhabited

/-- How a run ends that is not cut short. -/
def FixedAnswer.verdict : FixedAnswer → Verdict
  | .unsupported => .failed "the dummy engine does not support solving"
  | .status outcome => .status outcome
  | .failed message => .failed message
  | .brokeDown => .brokeDown (some "dummy engine panicked")

/-- Zeros for every column and every row. -/
def FixedEngine.zeros (engine : FixedEngine) : Solution :=
  ⟨0, List.replicate engine.columns 0, List.replicate engine.rows 0⟩

/-- One solve by an engine with a fixed answer; `delay` is in milliseconds. -/
def FixedEngine.run (engine : FixedEngine) (answer : FixedAnswer) (delay : Nat)
    (options : Options) : Run × FixedEngine :=
  let limit := 1000 * options.timeout
  if 0 < limit ∧ limit < delay then (⟨.status .timeout, limit⟩, engine)
  else
    match answer with
    | .status outcome =>
      let solution := if outcome.hasSolution then some engine.zeros else engine.solution
      (⟨.status outcome, delay⟩, { engine with solution })
    | _ => (⟨answer.verdict, delay⟩, engine)

/-- **The solver whose engines all give one answer.** -/
def fixedSolver (answer : FixedAnswer) (delay : Nat) : Solver Unit FixedEngine where
  name := "dummy"
  create world := (.ok {}, world)
  build problem _ world :=
    (.ok (), { rows := problem.rowCount, columns := problem.columnCount }, world)
  run options engine world :=
    let (run, engine) := engine.run answer delay options
    (run, engine, world)
  solution engine := engine.solution

/-- A solver that makes no engine, for the reason given. -/
def unavailable (message : String) : Solver Unit FixedEngine :=
  { fixedSolver .unsupported 0 with
    name := "broken"
    create := fun world => (.error message, world) }

end LinearProgram
