/-
**What the calls of a model leave of it.**

* `Model.Fresh`: a new model.
* `Model.Calm`: the solve state stays. So does the problem, but for names and the order of entries,
  as long as the model is running or keeps a solution.
* `calm_of_call`: every call that no solve comes of is calm.
-/

import LinearProgram.Proofs.Model.Calls
import LinearProgram.Proofs.Model.Edit
import LinearProgram.Proofs.Problem.Alike

namespace LinearProgram.Model

open Problem

variable {World Engine : Type}

/-- **A model that was just made.** -/
structure Fresh (model : Model Engine) : Prop where
  stored : model.problem.WellStored
  idle : model.solveState = .idle
  unsolved : model.solution = none
  equipped : model.engine ≠ none
  active : model.isDisposed = false
  unused : model.work = {}

/-- **A call that leaves the solves of a model alone.** -/
structure Calm (model next : Model Engine) : Prop where
  solveState_eq : next.solveState = model.solveState
  stored : next.problem.WellStored
  solution : next.solution = none
    ∨ next.solution = model.solution ∧ next.problem.Alike model.problem
  running : model.isRunning = true → next.problem.Alike model.problem

variable {model : Model Engine}

theorem Calm.refl (stored : model.problem.WellStored) : Calm model model :=
  ⟨rfl, stored, .inr ⟨rfl, .refl _⟩, fun _ => .refl _⟩

/-- A call that changes the problem in names and in the order of entries at most. -/
theorem Calm.of_alike {next : Model Engine} (solveState_eq : next.solveState = model.solveState)
    (solution : next.solution = model.solution) (stored : next.problem.WellStored)
    (alike : next.problem.Alike model.problem) : Calm model next :=
  ⟨solveState_eq, stored, .inr ⟨solution, alike⟩, fun _ => alike⟩

theorem calm_normalize (stored : model.problem.WellStored) : Calm model model.normalize :=
  .of_alike rfl rfl stored.normalize (alike_normalize stored)

theorem calm_ask (stored : model.problem.WellStored) (query : Query) :
    Calm model (model.ask query).2 := by
  rcases asked : model.ask query with ⟨result, next⟩
  cases asking asked with
  | barred | answered => exact .refl stored
  | ordered => exact calm_normalize stored

theorem calm_edit (stored : model.problem.WellStored) (change : Edit) :
    Calm model (model.edit change).2 := by
  rcases edited : model.edit change with ⟨result, next⟩
  cases editing edited with
  | barred => exact .refl stored
  | failed | declined => exact .of_alike rfl rfl stored (.refl _)
  | accepted problem work gate applied =>
    have kept := Edit.wellStored_of_apply stored (congrArg (·.1) applied)
    refine ⟨rfl, kept, .inl rfl, fun running => ?_⟩
    exact absurd (running.symm.trans (not_running_of_checkIdle gate)) Bool.noConfusion

theorem calm_configure (stored : model.problem.WellStored) (setting : Setting) :
    Calm model (model.configure setting).2 := by
  rcases configured : model.configure setting with ⟨result, next⟩
  cases configuring configured with
  | barred | rowModeSame | noRow | noRowName | noColumn | noColumnName => exact .refl stored
  | rowModeOn | breakAtFirst | verbosity | timeout => exact .of_alike rfl rfl stored (.refl _)
  | rowModeOff => exact .of_alike rfl rfl stored.normalize (alike_normalize stored)
  | name name =>
    exact .of_alike rfl rfl (stored.congr rfl rfl (Nat.le_refl _) rfl) (alike_setName _ name)
  | rowName row name =>
    exact .of_alike rfl rfl (stored.modifyRow _ _) (alike_setRowName _ row name)
  | columnName column name =>
    exact .of_alike rfl rfl (stored.modifyColumn _ _) (alike_setColumnName _ column name)

theorem calm_dispose (stored : model.problem.WellStored) : Calm model model.dispose.2 := by
  rcases ends : model.dispose with ⟨result, next⟩
  cases disposing ends with
  | already | busy => exact .refl stored
  | ended active idle =>
    refine ⟨rfl, wellStored_empty, .inl rfl, fun running => ?_⟩
    exact absurd (running.symm.trans idle) Bool.noConfusion

theorem calm_release (stored : model.problem.WellStored) : Calm model model.release := by
  generalize released : model.release = next
  cases releasing released with
  | already => exact .refl stored
  | ended => exact ⟨rfl, stored, .inl rfl, fun _ => .refl _⟩

/-- A solve that does not begin. -/
theorem calm_begin (stored : model.problem.WellStored) {solver : Solver World Engine}
    {world later : World} {error : Error} {next : Model Engine}
    (begun : model.begin solver world = (.error error, next, later)) : Calm model next := by
  cases beginning begun with
  | barred | unequipped => exact .refl stored
  | declined => exact .of_alike rfl rfl stored.normalize (alike_normalize stored)

theorem calm_of_call (stored : model.problem.WellStored) {solver : Solver World Engine}
    {next : Model Engine} (call : Call solver model next) : Calm model next := by
  cases call with
  | ask query => exact calm_ask stored query
  | edit change => exact calm_edit stored change
  | configure setting => exact calm_configure stored setting
  | dispose => exact calm_dispose stored
  | release => exact calm_release stored
  | refused world later error begun => exact calm_begin stored begun

/-- **What a solve that begins does.** The engine was given the problem as the model then has it. -/
theorem begin_eq_ok (stored : model.problem.WellStored) {solver : Solver World Engine}
    {world later : World} {assignment : Assignment Engine} {next : Model Engine}
    (begun : model.begin solver world = (.ok assignment, next, later)) :
    model.isRunning = false ∧ next.solveState = .running ∧ next.solution = none
      ∧ next.problem.WellStored
      ∧ ∃ engine before, solver.build next.problem engine before
          = (.ok (), assignment.engine, later) := by
  cases beginning begun with
  | begun engine built middle after gate made given =>
    exact ⟨not_running_of_checkIdle gate, rfl, rfl, stored.normalize, engine, middle, given⟩

/-- **What finishing a solve does.** A solution is kept only of an outcome that comes with one, and
it is that of the engine. -/
theorem finish_spec (model : Model Engine) (solver : Solver World Engine)
    (attempt : Attempt Engine) (world : World) :
    (model.finish solver attempt world).1 = attempt.result.mapError .solve
      ∧ (model.finish solver attempt world).2.1.problem = model.problem
      ∧ (model.finish solver attempt world).2.1.isRunning = false
      ∧ ∀ solution, (model.finish solver attempt world).2.1.solution = some solution →
        ∃ status, attempt.result = .ok status ∧ status.hasSolution = true
          ∧ (model.finish solver attempt world).2.1.solveState = .completed status
          ∧ ∀ engine, attempt.engine = some engine → solver.solution engine = some solution := by
  obtain ⟨engine, result, duration⟩ := attempt
  unfold finish
  cases result with
  | error message =>
    refine ⟨rfl, ?_, ?_, ?_⟩
    · dsimp only
      split <;> rfl
    · dsimp only
      split <;> rfl
    · dsimp only
      split <;> exact nofun
  | ok status =>
    refine ⟨rfl, ?_, ?_, ?_⟩
    · dsimp only
      split <;> rfl
    · dsimp only
      split <;> rfl
    · intro solution kept
      dsimp only at kept ⊢
      split at kept
      · cases kept
      next active =>
        rw [if_neg active]
        dsimp only at kept ⊢
        split at kept
        next solved =>
          refine ⟨status, rfl, solved, rfl, ?_⟩
          rintro engine' rfl
          exact kept
        next => cases kept

end LinearProgram.Model
