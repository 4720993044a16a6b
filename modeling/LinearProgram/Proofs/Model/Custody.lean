/-
**Who has the engine of a model.**

A model has its engine, or a solve has it, or it was lost and there was no other one to be had.

* `Model.Sound`: a running model has no engine, a disposed one has neither engine nor solution, and
  nothing of the storage for arguments is in use.
* `Model.Bereft`: a model that could begin a solve, but for its engine.
* `sound_of_call`, `sound_of_begin`, `sound_finish`: soundness is preserved.
* `bereft_of_call`: a call bereaves no model of its engine. `lost_of_finish`: the end of a solve does
  only if the run broke down and no other engine could be made.
* `begin_of_bereft`: the next solve asks for an engine first.
-/

import LinearProgram.Proofs.Model.Calm

namespace LinearProgram

/-! ### Storage for arguments -/

namespace Edit

theorem isEmpty_withEntries (argument : RowArgument) (dimension : Nat) (work : WorkStack)
    (change : List Entry → Problem) :
    (withEntries argument dimension work change).2.isEmpty = work.isEmpty := by
  unfold withEntries
  dsimp only
  split <;> rfl

/-- **An edit gives back what it used for its arguments**, whatever comes of it. -/
theorem isEmpty_apply (change : Edit) (rowMode : Bool) (problem : Problem) (work : WorkStack) :
    (change.apply rowMode problem work).2.isEmpty = work.isEmpty := by
  cases change with
  | setObjectiveRow | addRow | setRhsVector => exact isEmpty_withEntries ..
  | setRow =>
    unfold apply
    dsimp only
    split
    · rfl
    · exact isEmpty_withEntries ..
  | _ => rfl

end Edit

namespace Model

variable {World Engine : Type}

/-- **What holds of a model between calls.** -/
structure Sound (model : Model Engine) : Prop where
  running : model.isRunning = true → model.engine = none
  disposed : model.isDisposed = true → model.engine = none ∧ model.solution = none
  unused : model.work.isEmpty = true

/-- **A model that could begin a solve, but for its engine.** -/
structure Bereft (model : Model Engine) : Prop where
  active : model.isDisposed = false
  idle : model.isRunning = false
  unequipped : model.engine = none

/-- What most calls leave alone. -/
structure Keeps (model next : Model Engine) : Prop where
  engine : next.engine = model.engine
  solveState : next.solveState = model.solveState
  isDisposed : next.isDisposed = model.isDisposed
  solution : next.solution = none ∨ next.solution = model.solution
  work : next.work.isEmpty = model.work.isEmpty

variable {model next : Model Engine} {solver : Solver World Engine}

theorem Keeps.refl (model : Model Engine) : Keeps model model :=
  ⟨rfl, rfl, rfl, .inr rfl, rfl⟩

theorem Keeps.isRunning (keeps : Keeps model next) : next.isRunning = model.isRunning := by
  rw [Model.isRunning, keeps.solveState, Model.isRunning]

theorem Keeps.sound (keeps : Keeps model next) (sound : model.Sound) : next.Sound := by
  constructor
  · intro running
    rw [keeps.isRunning] at running
    rw [keeps.engine, sound.running running]
  · intro disposed
    rw [keeps.isDisposed] at disposed
    obtain ⟨engine, solution⟩ := sound.disposed disposed
    refine ⟨by rw [keeps.engine, engine], ?_⟩
    rcases keeps.solution with dropped | same
    · exact dropped
    · rw [same, solution]
  · rw [keeps.work, sound.unused]

theorem Keeps.bereft (keeps : Keeps model next) (bereft : next.Bereft) : model.Bereft :=
  ⟨keeps.isDisposed ▸ bereft.active, keeps.isRunning ▸ bereft.idle,
    keeps.engine ▸ bereft.unequipped⟩

/-! ### Calls -/

theorem keeps_ask (model : Model Engine) (query : Query) : Keeps model (model.ask query).2 := by
  rcases asked : model.ask query with ⟨result, next⟩
  cases asking asked with
  | barred | answered => exact .refl model
  | ordered => exact ⟨rfl, rfl, rfl, .inr rfl, rfl⟩

theorem keeps_edit (model : Model Engine) (change : Edit) : Keeps model (model.edit change).2 := by
  have given := change.isEmpty_apply model.options.rowMode model.problem model.work
  rcases edited : model.edit change with ⟨result, next⟩
  cases editing edited with
  | barred => exact .refl model
  | failed error work _ applied =>
    rw [applied] at given
    exact ⟨rfl, rfl, rfl, .inr rfl, given⟩
  | declined work _ applied =>
    rw [applied] at given
    exact ⟨rfl, rfl, rfl, .inr rfl, given⟩
  | accepted problem work _ applied =>
    rw [applied] at given
    exact ⟨rfl, rfl, rfl, .inl rfl, given⟩

theorem keeps_configure (model : Model Engine) (setting : Setting) :
    Keeps model (model.configure setting).2 := by
  rcases configured : model.configure setting with ⟨result, next⟩
  cases configuring configured <;> exact ⟨rfl, rfl, rfl, .inr rfl, rfl⟩

theorem sound_dispose (sound : model.Sound) : model.dispose.2.Sound := by
  rcases ends : model.dispose with ⟨result, next⟩
  cases disposing ends with
  | already | busy => exact sound
  | ended => exact ⟨fun _ => rfl, fun _ => ⟨rfl, rfl⟩, rfl⟩

theorem sound_release (sound : model.Sound) : model.release.Sound := by
  generalize released : model.release = next
  cases releasing released with
  | already => exact sound
  | ended => exact ⟨fun _ => rfl, fun _ => ⟨rfl, rfl⟩, sound.unused⟩

/-- **A solve that begins or does not.** -/
theorem sound_of_begin (sound : model.Sound) {world later : World}
    {result : Except Error (Assignment Engine)}
    (begun : model.begin solver world = (result, next, later)) : next.Sound := by
  cases beginning begun with
  | barred | unequipped => exact sound
  | declined engine built message middle _ gate =>
    obtain ⟨active, idle⟩ := active_and_idle_of_checkIdle gate
    refine ⟨fun running => ?_, fun disposed => ?_, sound.unused⟩
    · exact absurd (running.symm.trans idle) Bool.noConfusion
    · exact absurd (disposed.symm.trans active) Bool.noConfusion
  | begun engine built middle _ gate =>
    obtain ⟨active, -⟩ := active_and_idle_of_checkIdle gate
    refine ⟨fun _ => rfl, fun disposed => ?_, sound.unused⟩
    exact absurd (disposed.symm.trans active) Bool.noConfusion

/-- **A call leaves a sound model sound.** -/
theorem sound_of_call (sound : model.Sound) (call : Call solver model next) : next.Sound := by
  cases call with
  | ask query => exact (keeps_ask model query).sound sound
  | edit change => exact (keeps_edit model change).sound sound
  | configure setting => exact (keeps_configure model setting).sound sound
  | dispose => exact sound_dispose sound
  | release => exact sound_release sound
  | refused world later error begun => exact sound_of_begin sound begun

/-- **A call bereaves no model of its engine.** -/
theorem bereft_of_call (call : Call solver model next) (bereft : next.Bereft) : model.Bereft := by
  cases call with
  | ask query => exact (keeps_ask model query).bereft bereft
  | edit change => exact (keeps_edit model change).bereft bereft
  | configure setting => exact (keeps_configure model setting).bereft bereft
  | dispose =>
    rcases ends : model.dispose with ⟨result, next⟩
    rw [ends] at bereft
    cases disposing ends with
    | already | busy => exact bereft
    | ended => exact absurd bereft.active Bool.noConfusion
  | release =>
    generalize released : model.release = next at bereft
    cases releasing released with
    | already => exact bereft
    | ended => exact absurd bereft.active Bool.noConfusion
  | refused world later error begun =>
    cases beginning begun with
    | barred | unequipped => exact bereft
    | declined => exact absurd bereft.unequipped (Option.some_ne_none _)

/-! ### The end of a solve -/

/-- What the end of a solve leaves alone, and what becomes of the engine. -/
theorem finish_engine (model : Model Engine) (solver : Solver World Engine)
    (attempt : Attempt Engine) (world : World) :
    (model.finish solver attempt world).2.1.isDisposed = model.isDisposed
      ∧ (model.finish solver attempt world).2.1.work = model.work
      ∧ (model.isDisposed = true →
        (model.finish solver attempt world).2.1.engine = model.engine
          ∧ (model.finish solver attempt world).2.1.solution = none)
      ∧ (model.isDisposed = false → (model.finish solver attempt world).2.1.engine
        = (solver.engineOr attempt.engine world).1.toOption) := by
  unfold finish
  dsimp only
  split
  next disposed =>
    refine ⟨rfl, rfl, fun _ => ⟨rfl, rfl⟩, fun active => ?_⟩
    exact absurd (disposed.symm.trans active) Bool.noConfusion
  next active => exact ⟨rfl, rfl, fun disposed => absurd disposed active, fun _ => rfl⟩

theorem sound_finish (sound : model.Sound) (solver : Solver World Engine)
    (attempt : Attempt Engine) (world : World) :
    (model.finish solver attempt world).2.1.Sound := by
  obtain ⟨isDisposed, work, dead, -⟩ := model.finish_engine solver attempt world
  obtain ⟨-, -, idle, -⟩ := model.finish_spec solver attempt world
  refine ⟨fun running => ?_, fun disposed => ?_, ?_⟩
  · exact absurd (running.symm.trans idle) Bool.noConfusion
  · rw [isDisposed] at disposed
    obtain ⟨engine, solution⟩ := dead disposed
    exact ⟨engine.trans (sound.disposed disposed).1, solution⟩
  · rw [work]
    exact sound.unused

/-- An attempt without an engine is that of a run that broke down. -/
theorem brokeDown_of_attempt {assignment : Assignment Engine} {world : World}
    (lost : (solver.attempt assignment world).1.engine = none) :
    ∃ message, (solver.run assignment.options assignment.engine world).1.verdict
      = .brokeDown message := by
  unfold Solver.attempt at lost
  dsimp only at lost
  split at lost
  · cases lost
  · cases lost
  next message verdict => exact ⟨some message, verdict⟩
  next verdict => exact ⟨none, verdict⟩

/-- **The end of a solve bereaves a model of its engine** only if the engine was lost and no other
one could be made. -/
theorem lost_of_finish {attempt : Attempt Engine} {world : World}
    (bereft : (model.finish solver attempt world).2.1.Bereft) :
    attempt.engine = none ∧ ∃ reason, (solver.create world).1 = .error reason := by
  obtain ⟨isDisposed, -, -, alive⟩ := model.finish_engine solver attempt world
  have active := bereft.active
  rw [isDisposed] at active
  have engine := (alive active).symm.trans bereft.unequipped
  cases kept : attempt.engine with
  | some there =>
    rw [kept] at engine
    cases engine
  | none =>
    rw [kept] at engine
    refine ⟨rfl, ?_⟩
    cases made : (solver.create world).1 with
    | error reason => exact ⟨reason, rfl⟩
    | ok there =>
      rw [Solver.engineOr, made] at engine
      cases engine

/-- **The next solve asks for an engine.** If there is still none to be had, nothing changes; if
there is, the solve begins as if the model had had that engine. -/
theorem begin_of_bereft (bereft : model.Bereft) (solver : Solver World Engine) (world : World) :
    model.begin solver world = match solver.create world with
      | (.error message, later) => (.error (.engine message), model, later)
      | (.ok engine, later) => { model with engine := some engine }.begin solver later := by
  obtain ⟨active, idle, unequipped⟩ := bereft
  have gate : model.checkIdle = .ok () := by simp [checkIdle, active, idle]
  have gate' : ∀ engine : Engine, { model with engine := some engine }.checkIdle = .ok () :=
    fun _ => gate
  rcases made : solver.create world with ⟨result, later⟩
  cases result with
  | error message => simp [begin, gate, Solver.engineOr, unequipped, made]
  | ok engine => simp [begin, gate, gate', Solver.engineOr, unequipped, made]

end Model

end LinearProgram
