/-
**A rejected request leaves its model as it was.**

* `models_pass`: the workers touch no model while time passes.
* `Model.Reachable`: the states that a model can be in, whatever else goes on.
* `Session.Begins`: whether a solve of a model begins if it is asked for.
* **`unchanged_of_rejected`**: a request that fails or is declined leaves its model as it was, unless
  it is a solve that began. Such a solve leaves the problem as it was, and no solution.
-/

import LinearProgram.Proofs.Model.Rejection
import LinearProgram.Proofs.Session.Ownership
import LinearProgram.Session.Answering

namespace LinearProgram

variable {World Engine : Type}

/-- **A state that a model can be in**, whatever was done to it and whatever else goes on. -/
def Model.Reachable (solver : Solver World Engine) (model : Model Engine) : Prop :=
  ∃ (shop : Workshop World Engine) (number : Nat),
    shop.Reachable ∧ shop.solver = solver ∧ shop.models[number]? = some model

theorem Model.Reachable.stored {solver : Solver World Engine} {model : Model Engine}
    (reachable : model.Reachable solver) : model.problem.WellStored := by
  obtain ⟨shop, number, reached, -, found⟩ := reachable
  exact (Workshop.accounts_of_reachable reached).stored number model found

theorem Model.Reachable.sound {solver : Solver World Engine} {model : Model Engine}
    (reachable : model.Reachable solver) : model.Sound := by
  obtain ⟨shop, number, reached, -, found⟩ := reachable
  exact Workshop.allSound_of_reachable reached number model found

namespace Session

variable {session next : Session World Engine} {number : Nat} {model : Model Engine}

/-! ### What goes on beside a request -/

theorem models_work? {limit : Option Nat} (worked : session.work? limit = some next) :
    next.models = session.models ∧ next.solver = session.solver := by
  unfold work? at worked
  split at worked
  · cases worked
  split at worked
  · cases worked
    exact ⟨rfl, rfl⟩
  split at worked
  · cases worked
  split at worked
  · cases worked
    exact ⟨rfl, rfl⟩
  · cases worked

/-- **The workers touch no model.** -/
theorem models_settle (session : Session World Engine) (limit : Option Nat) :
    (session.settle limit).models = session.models
      ∧ (session.settle limit).solver = session.solver := by
  fun_induction settle session limit with
  | case1 => exact ⟨rfl, rfl⟩
  | case2 session next worked hyp =>
    obtain ⟨models, solver⟩ := models_work? worked
    exact ⟨hyp.1.trans models, hyp.2.trans solver⟩

theorem models_pass (session : Session World Engine) (duration : Nat) :
    (session.pass duration).models = session.models
      ∧ (session.pass duration).solver = session.solver :=
  models_settle session _

theorem models_put (session : Session World Engine) (text : String) (sink : Sink) :
    (session.put text sink).2.models = session.models := by
  unfold put
  split
  · rfl
  · rfl
  · split <;> rfl

/-- The text of a model is asked for before it is put anywhere. -/
theorem models_write (session : Session World Engine) (number : Nat) (model : Model Engine)
    (sink : Sink) : (session.write number model sink).2.models
      = session.models.set number (model.ask .text).2 := by
  unfold write
  split
  next text asked answer =>
    rw [models_put, answer]
    rfl
  · rfl

theorem modelAt_eq (found : session.models[number]? = some model) :
    session.modelAt number = model := by
  rw [modelAt, found]
  rfl

theorem set_found (found : session.models[number]? = some model) :
    session.models.set number model = session.models := by
  obtain ⟨inside, rfl⟩ := List.getElem?_eq_some_iff.mp found
  exact List.set_getElem_self inside

/-! ### Solves -/

/-- **A solve of the model begins** if it is asked for now. -/
def Begins (session : Session World Engine) (number : Nat) : Prop :=
  ∃ assignment, (session.begin number).1 = .ok assignment

theorem begin_eq (found : session.models[number]? = some model)
    {result : Except Error (Assignment Engine)} {changed : Model Engine} {later : World}
    (begun : model.begin session.solver session.world = (result, changed, later)) :
    session.begin number = (result, { session.setModel number changed with world := later }) := by
  rw [begin, modelAt_eq found, begun]

/-- A solve that began is finished with the model as its beginning left it. -/
theorem solve_eq (found : session.models[number]? = some model) {assignment : Assignment Engine}
    {changed : Model Engine} {later : World}
    (begun : model.begin session.solver session.world = (.ok assignment, changed, later)) :
    ∃ world, (session.solve number).1 = (changed.finish session.solver
        (session.solver.attempt assignment later).1 world).1
      ∧ (session.solve number).2.models = session.models.set number (changed.finish session.solver
        (session.solver.attempt assignment later).1 world).2.1 := by
  have inside := (List.getElem?_eq_some_iff.mp found).1
  unfold solve
  rw [begin_eq found begun]
  dsimp only
  generalize running : Session.pass _ _ = passed
  have same : passed.models = session.models.set number changed ∧ passed.solver = session.solver := by
    rw [← running]
    exact models_pass _ _
  obtain ⟨models, solver⟩ := same
  have there : passed.modelAt number = changed := by
    refine modelAt_eq ?_
    rw [models]
    exact List.getElem?_set_self inside
  refine ⟨passed.world, ?_, ?_⟩
  · rw [finish, there, solver]
    rfl
  · rw [finish, there, solver]
    dsimp only [setModel]
    rw [models, List.set_set]

/-- What is left of a model when a request for a solve has failed. -/
structure SolveFailed (session : Session World Engine) (number : Nat) (model changed : Model Engine)
    (error : Error) : Prop where
  sound : changed.Sound
  unchanged : ¬session.Begins number → model.Unchanged changed
  failed : session.Begins number → ∃ message, error = .solve message ∧ model.Failed message changed

/-- **A request for a solve that fails**, before the solve begins or after it. -/
theorem solve_eq_error (stored : model.problem.WellStored) (sound : model.Sound)
    (found : session.models[number]? = some model) {error : Error}
    (failed : (session.solve number).1 = .error error) :
    ∃ changed, (session.solve number).2.models = session.models.set number changed
      ∧ SolveFailed session number model changed error := by
  rcases begun : model.begin session.solver session.world with ⟨result, changed, later⟩
  have begins := begin_eq found begun
  have sound := Model.sound_of_begin sound begun
  cases result with
  | error reason =>
    have solved : session.solve number
        = (.error reason, { session.setModel number changed with world := later }) := by
      rw [solve, begins]
    rw [solved] at failed ⊢
    cases failed
    refine ⟨changed, rfl, sound, fun _ => Model.unchanged_begin stored begun, ?_⟩
    rintro ⟨assignment, began⟩
    rw [begins] at began
    cases began
  | ok assignment =>
    obtain ⟨world, result, models⟩ := solve_eq found begun
    rw [result] at failed
    refine ⟨_, models, Model.sound_finish sound _ _ _, fun never => ?_, fun _ =>
      Model.failed_of_begin stored begun failed⟩
    exact absurd ⟨assignment, by rw [begins]⟩ never

theorem models_withContext (session : Session World Engine) :
    session.withContext.models = session.models := by
  unfold withContext
  split <;> rfl

/-- **A solve in the background that does not begin.** -/
theorem solveLater_eq_error (found : session.models[number]? = some model) {callback : Callback}
    {error : Error} (failed : (session.solveLater number callback).1 = .error error) :
    ∃ changed later, model.begin session.withContext.solver session.withContext.world
        = (.error error, changed, later)
      ∧ (session.solveLater number callback).2.models = session.models.set number changed := by
  have found' : session.withContext.models[number]? = some model := by
    rw [models_withContext, found]
  rcases begun : model.begin session.withContext.solver session.withContext.world with
    ⟨result, changed, later⟩
  rw [solveLater, begin_eq found' begun] at failed ⊢
  cases result with
  | ok assignment => cases failed
  | error reason =>
    cases failed
    exact ⟨changed, later, rfl, congrArg (·.set number changed) (models_withContext session)⟩

/-! ### Requests -/

/-- A request that is no solve, and what is left of its model when it is rejected. -/
theorem perform_eq (stored : model.problem.WellStored) (sound : model.Sound)
    (found : session.models[number]? = some model) {request : Request}
    (other : request ≠ .solve) (rejected : Rejected (session.perform number model request).1) :
    ∃ changed, (session.perform number model request).2.models = session.models.set number changed
      ∧ changed.Sound ∧ model.Unchanged changed := by
  cases request with
  | ask query =>
    exact ⟨_, rfl, (Model.keeps_ask model query).sound sound, Model.unchanged_ask stored query⟩
  | isDisposed => exact ⟨model, (set_found found).symm, sound, .refl model⟩
  | edit change =>
    refine ⟨_, rfl, (Model.keeps_edit model change).sound sound, ?_⟩
    refine Model.unchanged_edit model change fun accepted => ?_
    change Rejected ((model.edit change).1.map change.answer) at rejected
    rw [accepted] at rejected
    cases change <;> cases rejected
  | configure setting =>
    exact ⟨_, rfl, (Model.keeps_configure model setting).sound sound,
      Model.unchanged_configure model setting rejected⟩
  | write sink =>
    exact ⟨_, models_write session number model sink, (Model.keeps_ask model .text).sound sound,
      Model.unchanged_ask stored .text⟩
  | solve => exact absurd rfl other
  | solveLater callback =>
    change Rejected ((session.solveLater number callback).1.map fun _ => Answer.done) at rejected
    cases result : (session.solveLater number callback).1 with
    | error error =>
      obtain ⟨changed, later, begun, models⟩ := solveLater_eq_error found result
      exact ⟨changed, models, Model.sound_of_begin sound begun, Model.unchanged_begin stored begun⟩
    | ok =>
      rw [result] at rejected
      cases rejected
  | dispose =>
    refine ⟨model.dispose.2, rfl, Model.sound_dispose sound, ?_⟩
    change Rejected (model.dispose.1.map fun _ => Answer.done) at rejected
    cases result : model.dispose.1 with
    | error error => exact Model.unchanged_dispose model result
    | ok =>
      rw [result] at rejected
      cases rejected

/-- **A rejected request leaves its model as it was**, apart from the order of the entries of its rows,
and the other models altogether. The storage for arguments is empty again. The only exception is a
request for a solve that began: it leaves the solve state failed, no solution, and the problem as it
was. So does the end of a solve in the background that failed. -/
theorem unchanged_of_rejected {session : Session World Engine} {number : Nat} {model : Model Engine}
    (reachable : model.Reachable session.solver) (found : session.models[number]? = some model) :
    (∀ request, Rejected (session.perform number model request).1 →
      ∃ changed, (session.perform number model request).2.models
          = session.models.set number changed
        ∧ changed.work.isEmpty = true
        ∧ (¬(request = .solve ∧ session.Begins number) → model.Unchanged changed)
        ∧ (request = .solve ∧ session.Begins number → ∃ message,
          (session.perform number model request).1 = .error (.solve message)
            ∧ model.Failed message changed))
      ∧ ∀ attempt world error, (model.finish session.solver attempt world).1 = .error error →
        (model.finish session.solver attempt world).2.1.work.isEmpty = true
          ∧ ∃ message, error = .solve message
            ∧ model.Failed message (model.finish session.solver attempt world).2.1 := by
  have stored := reachable.stored
  have sound := reachable.sound
  constructor
  · intro request rejected
    by_cases solve : request = .solve
    · subst solve
      have failed : ∃ error, (session.solve number).1 = .error error := by
        change Rejected ((session.solve number).1.map Answer.status) at rejected
        cases result : (session.solve number).1 with
        | error error => exact ⟨error, rfl⟩
        | ok status =>
          rw [result] at rejected
          cases rejected
      obtain ⟨error, failed⟩ := failed
      obtain ⟨changed, models, sound, unchanged, ended⟩ := solve_eq_error stored sound found failed
      refine ⟨changed, models, sound.unused, fun never => ?_, fun began => ?_⟩
      · exact unchanged fun began => never ⟨rfl, began⟩
      · obtain ⟨message, rfl, failure⟩ := ended began.2
        refine ⟨message, ?_, failure⟩
        change (session.solve number).1.map Answer.status = _
        rw [failed]
        rfl
    · obtain ⟨changed, models, sound, unchanged⟩ := perform_eq stored sound found solve rejected
      exact ⟨changed, models, sound.unused, fun _ => unchanged, fun began => absurd began.1 solve⟩
  · intro attempt world error failed
    obtain ⟨message, -, same, ended⟩ := Model.finish_eq_error failed
    exact ⟨(Model.sound_finish sound _ _ _).unused, message, same, ended⟩

/-- A session with the model of the workshop whose model was solved. -/
def solvedSession? : Option (Session Unit FixedEngine) :=
  Workshop.solvedModel?.map fun shop =>
    { solver := shop.solver, world := shop.world, models := shop.models }

/-- The model that was solved declines dimensions that cannot be stored, and keeps its solution. -/
theorem unchanged_of_solvedSession : ∃ (session : Session Unit FixedEngine)
    (model changed : Model FixedEngine), solvedSession? = some session
      ∧ session.models[0]? = some model
      ∧ Rejected (session.perform 0 model (.edit (.resize (Problem.rowCapacity + 1) 1))).1
      ∧ (session.perform 0 model (.edit (.resize (Problem.rowCapacity + 1) 1))).2.models
        = session.models.set 0 changed
      ∧ model.Unchanged changed ∧ changed.solution.isSome = true := by
  have made : Workshop.solvedModel?.isSome = true := rfl
  have there : (Workshop.solvedModel?.get made).models[0]?.isSome = true := rfl
  let shop := Workshop.solvedModel?.get made
  let model := shop.models[0]?.get there
  let session : Session Unit FixedEngine :=
    { solver := shop.solver, world := shop.world, models := shop.models }
  have found : session.models[0]? = some model := (Option.some_get there).symm
  have reachable : model.Reachable session.solver :=
    ⟨shop, 0, ⟨(), _, (Option.some_get made).symm⟩, rfl, found⟩
  have declined : (session.perform 0 model (.edit (.resize (Problem.rowCapacity + 1) 1))).1
      = .ok (.flag false) := rfl
  have rejected :
      Rejected (session.perform 0 model (.edit (.resize (Problem.rowCapacity + 1) 1))).1 := by
    rw [declined]
    exact .declined
  obtain ⟨changed, models, -, unchanged, -⟩ :=
    (unchanged_of_rejected reachable found).1 _ rejected
  have unchanged := unchanged fun both => Request.noConfusion both.1
  refine ⟨session, model, changed, rfl, found, rejected, models, unchanged, ?_⟩
  rw [unchanged.solution]
  rfl

end Session

end LinearProgram
