/-
**Calls that are rejected leave the model as it was.**

* `Rejected`: an answer that tells of a failure or declines the call.
* `Model.Unchanged`: the state of the model, apart from the order of the entries of its rows.
* `unchanged_ask`, `unchanged_edit`, `unchanged_configure`, `unchanged_dispose`, `unchanged_begin`:
  what a call leaves if it is rejected. A question leaves it whatever the answer is.
* `Model.Failed`: the state after a solve that began and failed. `finish_eq_error`, `failed_of_begin`:
  its end leads there.
-/

import LinearProgram.Proofs.Model.Custody

namespace LinearProgram

open Problem

variable {World Engine : Type}

/-- **An answer that rejects the call**: a failure, or a false that declines it. -/
inductive Rejected : Except Error Answer → Prop
  | failed (error : Error) : Rejected (.error error)
  | declined : Rejected (.ok (.flag false))
  /-- There is no solution, or the buffer is too short for it. -/
  | uncopied (buffer : List Float) : Rejected (.ok (.copied false buffer))

namespace Model

/-- **The state of the model is as it was**, apart from the order of the entries of its rows. -/
structure Unchanged (model changed : Model Engine) : Prop where
  problem : changed.problem.Reordered model.problem
  options : changed.options = model.options
  solution : changed.solution = model.solution
  solveState : changed.solveState = model.solveState
  isDisposed : changed.isDisposed = model.isDisposed

/-- **The state after a solve that began and failed.** There is no solution, and the problem is as it
was. -/
structure Failed (message : String) (model changed : Model Engine) : Prop where
  problem : changed.problem.Reordered model.problem
  options : changed.options = model.options
  unsolved : changed.solution = none
  solveState : changed.solveState = .failed message
  isDisposed : changed.isDisposed = model.isDisposed

variable {model : Model Engine}

theorem Unchanged.refl (model : Model Engine) : Unchanged model model :=
  ⟨.refl _, rfl, rfl, rfl, rfl⟩

theorem unchanged_ask (stored : model.problem.WellStored) (query : Query) :
    Unchanged model (model.ask query).2 := by
  rcases asked : model.ask query with ⟨result, next⟩
  cases asking asked with
  | barred | answered => exact .refl model
  | ordered => exact ⟨reordered_normalize stored, rfl, rfl, rfl, rfl⟩

/-- An edit that is not accepted. -/
theorem unchanged_edit (model : Model Engine) (change : Edit)
    (rejected : (model.edit change).1 ≠ .ok true) : Unchanged model (model.edit change).2 := by
  rcases edited : model.edit change with ⟨result, next⟩
  rw [edited] at rejected
  cases editing edited with
  | barred => exact .refl model
  | failed | declined => exact ⟨.refl _, rfl, rfl, rfl, rfl⟩
  | accepted => exact absurd rfl rejected

/-- A setting or a name that is rejected. -/
theorem unchanged_configure (model : Model Engine) (setting : Setting)
    (rejected : Rejected (model.configure setting).1) :
    Unchanged model (model.configure setting).2 := by
  rcases configured : model.configure setting with ⟨result, next⟩
  rw [configured] at rejected
  cases configuring configured with
  | barred | rowModeSame | noRow | noRowName | noColumn | noColumnName => exact .refl model
  | name | rowModeOn | rowModeOff | breakAtFirst | verbosity | timeout | rowName | columnName =>
    cases rejected

theorem unchanged_dispose (model : Model Engine) {error : Error}
    (failed : model.dispose.1 = .error error) : Unchanged model model.dispose.2 := by
  rcases ends : model.dispose with ⟨result, next⟩
  rw [ends] at failed
  cases disposing ends with
  | already | busy => exact .refl model
  | ended => cases failed

/-- A solve that does not begin, because the gate is shut, there is no engine, or the engine does not
take the problem. -/
theorem unchanged_begin (stored : model.problem.WellStored) {solver : Solver World Engine}
    {world later : World} {error : Error} {next : Model Engine}
    (begun : model.begin solver world = (.error error, next, later)) : Unchanged model next := by
  cases beginning begun with
  | barred | unequipped => exact .refl model
  | declined => exact ⟨reordered_normalize stored, rfl, rfl, rfl, rfl⟩

/-- The end of a solve that failed. -/
theorem finish_eq_error {solver : Solver World Engine} {attempt : Attempt Engine} {world : World}
    {error : Error} (failed : (model.finish solver attempt world).1 = .error error) :
    ∃ message, attempt.result = .error message ∧ error = .solve message
      ∧ Failed message model (model.finish solver attempt world).2.1 := by
  obtain ⟨engine, result, duration⟩ := attempt
  unfold finish at failed ⊢
  cases result with
  | ok status => cases failed
  | error message =>
    cases failed
    refine ⟨message, rfl, rfl, ?_⟩
    dsimp only
    split <;> exact ⟨.refl _, rfl, rfl, rfl, rfl⟩

/-- **A solve that began and failed**, from its beginning to its end. -/
theorem failed_of_begin (stored : model.problem.WellStored) {solver : Solver World Engine}
    {world later last : World} {assignment : Assignment Engine} {begun : Model Engine}
    (began : model.begin solver world = (.ok assignment, begun, later)) {attempt : Attempt Engine}
    {error : Error} (failed : (begun.finish solver attempt last).1 = .error error) :
    ∃ message, error = .solve message
      ∧ Failed message model (begun.finish solver attempt last).2.1 := by
  obtain ⟨message, -, rfl, ending⟩ := finish_eq_error failed
  refine ⟨message, rfl, ?_⟩
  obtain ⟨-, sameProblem, -⟩ := begun.finish_spec solver attempt last
  cases beginning began with
  | begun => exact
    ⟨sameProblem ▸ reordered_normalize stored, ending.options, ending.unsolved, ending.solveState,
      ending.isDisposed⟩

end Model

end LinearProgram
