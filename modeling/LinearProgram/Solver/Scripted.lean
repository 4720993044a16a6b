/-
**Engines that play back a script.**

The script has one queue of answers for making engines, one for taking problems and one for
solving, shared by all engines and used from the front. An empty queue lets an engine be made and a
problem be taken, and fails a solve. What the engines were asked is written down.

* `Script`: the queues and what was written down.
* `scriptedSolver`: the solver that plays a script back.
-/

import LinearProgram.Lp.Writer
import LinearProgram.Solver.Basic

namespace LinearProgram

/-- What a scripted engine was asked before its solves. -/
inductive ScriptEvent where
  | created
  /-- A problem was given to it, as this text, and with its rows in order or not. -/
  | built (text : String) (normalized : Bool)
  deriving Repr

/-- A scripted solve: how it ends, and the solution it leaves if it sets one. -/
structure ScriptedSolve where
  verdict : Verdict
  solution : Option Solution := none
  deriving Repr

/-- The answers to come, and what was asked so far. -/
structure Script where
  /-- The reason for making no engine, or none to make one. -/
  creations : List (Option String) := []
  /-- The reason for not taking a problem, or none to take it. -/
  builds : List (Option String) := []
  solves : List ScriptedSolve := []
  /-- What was asked about engines and problems, in order. -/
  events : List ScriptEvent := []
  /-- The settings of the solves, in order. -/
  runs : List Options := []
  deriving Repr

/-- A scripted engine keeps the solution of its last solve. -/
structure ScriptedEngine where
  solution : Option Solution := none
  deriving Repr, Inhabited

namespace Script

/-- The reason at the front of a queue, if there is one, becomes the failure. -/
def refusal {α : Type} (queue : List (Option String)) (accepted : α) : Except String α :=
  match queue with
  | some message :: _ => .error message
  | _ => .ok accepted

/-- The solve at the front of the queue. -/
def nextSolve (script : Script) : ScriptedSolve :=
  (script.solves.head?).getD ⟨.failed "script exhausted", none⟩

end Script

/-- **The solver that plays a script back.** Giving an engine a problem makes it forget its
solution, even if it does not take the problem. -/
def scriptedSolver : Solver Script ScriptedEngine where
  name := "script"
  create script :=
    (Script.refusal script.creations {},
      { script with
        creations := script.creations.drop 1
        events := script.events ++ [.created] })
  build problem _ script :=
    (Script.refusal script.builds (), {},
      { script with
        builds := script.builds.drop 1
        events := script.events ++ [.built (Lp.render problem) problem.isNormalized] })
  run options engine script :=
    let next := script.nextSolve
    (⟨next.verdict, 0⟩, { solution := next.solution.or engine.solution },
      { script with
        solves := script.solves.drop 1
        runs := script.runs ++ [options] })
  solution engine := engine.solution

end LinearProgram
