/-
**Engines, and what makes them.**

An engine belongs to one model. It is given the whole problem before every solve, so it never sees a
problem that is half changed. Engines may share a world, such as a licence counter or a log, which
every dealing with an engine may change.

* `Solution`: the values that a solve found.
* `Verdict`: how a run of an engine ended: with an outcome, with a failure, or by giving up in the
  middle, in which case the engine is lost.
* `Solver`: how engines are made and what they do, whatever they and their world are.
-/

import LinearProgram.Options
import LinearProgram.Problem.Basic
import LinearProgram.Status

namespace LinearProgram

/-- The values that a solve found. -/
structure Solution where
  /-- The value of the objective, its constant included. -/
  objective : Float := 0
  /-- One value for each column. -/
  columns : List Float := []
  /-- The activity of each row. -/
  rows : List Float := []
  deriving Repr, Inhabited

/-- How a run of an engine ended. -/
inductive Verdict where
  | status (status : Status)
  | failed (message : String)
  /-- The engine broke down, with a message or without one. -/
  | brokeDown (message : Option String)
  deriving Repr

/-- A run of an engine: how it ended, and how many milliseconds it took. -/
structure Run where
  verdict : Verdict
  duration : Nat := 0
  deriving Repr

/-- **How engines are made and what they do.** -/
structure Solver (World Engine : Type) where
  name : String
  /-- A new engine, or why there is none. -/
  create : World → Except String Engine × World
  /-- Gives the problem to an engine, or tells why the engine does not take it. -/
  build : Problem → Engine → World → Except String Unit × Engine × World
  /-- Lets an engine solve the problem that it was given. -/
  run : Options → Engine → World → Run × Engine × World
  /-- The solution of an engine's last solve, if it found one. -/
  solution : Engine → Option Solution

/-- The solver as it is shown for inspection. -/
def Solver.inspect {World Engine : Type} (solver : Solver World Engine) : String :=
  "Factory \x7b name: \"" ++ solver.name ++ "\" \x7d"

end LinearProgram
