/-
**What a model still answers** once it is disposed, and while a solve of it is under way.

* `Model.underway`: what the beginning of a solve makes of a model. `Model.Solving`: the same, or
  released since; `solving_of_call`: no call leads out of it.
* `Model.ask_underway`: its answers are those of the model before, but about solves.
* `Session.perform_of_checkIdle`, `Session.perform_of_checkActive`: what a shut gate answers.
* `Session.Gates`: who passes, as a structure; **`gates`**: it holds of every model.
* `Workshop.Underway`: a solve of a model began and was not finished since. `solving_of_underway`:
  what that says about the model; `underway_of_running`: every running model is in this state.
* `Undisturbed`: what stays from the beginning of a solve to its end.
* **`lifecycle_of_run`**: in every state every model has the gates, and a solve that is under way is
  undisturbed.
-/

import LinearProgram.Proofs.Model.RowMode
import LinearProgram.Proofs.Session.Rejection

namespace LinearProgram

variable {World Engine : Type}

namespace Request

/-- Whether the request leaves the problem, the settings and the solves of its model alone. -/
def isQuestion : Request → Bool
  | .ask _ | .isDisposed | .write _ => true
  | .edit _ | .configure _ | .solve | .solveLater _ | .dispose => false

end Request

/-! ### A model while it is solved -/

namespace Model

open Problem

/-- **The model while a solve of it is under way.** -/
def underway (model : Model Engine) : Model Engine :=
  { model with
    problem := model.problem.normalize
    engine := none
    solveState := .running
    solution := none }

/-- The model while the solve that began with `start` is under way. It may have been released. -/
def Solving (start model : Model Engine) : Prop :=
  model = start.underway ∨ model = start.underway.release

variable {start model next : Model Engine} {solver : Solver World Engine}

/-- A solve begins only with a model that passes the gate. -/
theorem begin_eq_underway {world later : World} {assignment : Assignment Engine}
    (begun : start.begin solver world = (.ok assignment, next, later)) :
    start.isDisposed = false ∧ start.isRunning = false ∧ next = start.underway := by
  cases beginning begun with
  | begun engine built middle after gate made given =>
    obtain ⟨active, idle⟩ := active_and_idle_of_checkIdle gate
    exact ⟨active, idle, rfl⟩

/-- **A model that does not pass the gate of the changes** is left as it is by every call, unless its
last holder is gone or it is asked a question. -/
theorem eq_of_call_of_barred {error : Error} (gate : model.checkIdle = .error error)
    (call : Call solver model next) :
    next = model ∨ next = model.release ∨ ∃ query, next = (model.ask query).2 := by
  cases call with
  | ask query => exact .inr (.inr ⟨query, rfl⟩)
  | edit change =>
    refine .inl ?_
    rw [edit, gate]
  | configure setting =>
    refine .inl ?_
    unfold configure
    rw [gate]
  | dispose =>
    refine .inl ?_
    rcases ends : model.dispose with ⟨result, next⟩
    cases disposing ends with
    | already | busy => rfl
    | ended active idle =>
      rw [checkIdle, active, idle] at gate
      cases gate
  | release => exact .inr (.inl rfl)
  | refused world later reason begun =>
    refine .inl ?_
    rw [begin, gate] at begun
    cases begun
    rfl

theorem solving_of_call (stored : start.problem.WellStored) (solving : Solving start model)
    (call : Call solver model next) : Solving start next := by
  rcases solving with rfl | rfl
  · -- The rows are in order already, so that a question leaves them as they are.
    have ordered : start.underway.normalize = start.underway := by
      rw [normalize, underway]
      dsimp only
      rw [normalize_normalize stored]
    cases gate : start.underway.checkIdle with
    | ok =>
      have idle := not_running_of_checkIdle gate
      cases idle
    | error error =>
      rcases eq_of_call_of_barred gate call with rfl | rfl | ⟨query, rfl⟩
      · exact .inl rfl
      · exact .inr rfl
      · left
        rcases start.underway.ask_eq_or query with same | same
        · exact same
        · exact same.trans ordered
  · have disposed := start.underway.isDisposed_release
    rcases eq_of_call_of_barred (checkIdle_of_disposed disposed) call with rfl | rfl | ⟨query, rfl⟩
    · exact .inr rfl
    · refine .inr ?_
      rw [release, if_pos disposed]
    · refine .inr ?_
      rw [ask, checkActive_of_disposed disposed]

theorem Solving.isRunning (solving : Solving start model) : model.isRunning = true := by
  rcases solving with rfl | rfl
  · rfl
  · exact start.underway.isRunning_release

theorem Solving.problem (solving : Solving start model) :
    model.problem = start.problem.normalize := by
  rcases solving with rfl | rfl
  · rfl
  · exact start.underway.problem_release

theorem Solving.options (solving : Solving start model) : model.options = start.options := by
  rcases solving with rfl | rfl
  · rfl
  · exact start.underway.options_release

/-- A model in which a solve is under way and that can be asked is the one that the beginning of the
solve left. -/
theorem Solving.eq_underway (solving : Solving start model) (active : model.isDisposed = false) :
    model = start.underway := by
  rcases solving with rfl | rfl
  · rfl
  · exact absurd (active.symm.trans start.underway.isDisposed_release) Bool.noConfusion

/-- The model as it was, except that its solve has begun. -/
def started (model : Model Engine) : Model Engine :=
  { model with solveState := .running, solution := none }

/-- **A running model answers every question as it did**, except about solves. -/
theorem ask_underway (stored : start.problem.WellStored) (query : Query) :
    (start.underway.ask query).1 = (start.started.ask query).1 := by
  have stored : start.started.problem.WellStored := stored
  have gate : start.underway.checkActive = start.started.checkActive := rfl
  cases ordinary : query.tellsRowMode with
  | true =>
    unfold ask
    rw [gate]
    cases query <;> simp only [Query.tellsRowMode, Bool.false_eq_true] at ordinary <;> split <;> rfl
  | false =>
    -- The engine is not asked for, so the model with its rows in order answers the same.
    have ordered : (start.underway.ask query).1 = (start.started.normalize.ask query).1 := by
      have gate' : start.started.normalize.checkActive = start.started.checkActive := rfl
      unfold ask
      rw [gate, gate']
      split
      · rfl
      · cases query <;> rfl
    have tidy : start.started.normalize.tidy = start.started.tidy :=
      tidy_congr stored.normalize stored (plain_normalize stored) rfl
    have stored' : start.started.normalize.problem.WellStored := stored.normalize
    rw [ordered, ← ask_tidy stored' ordinary, tidy, ask_tidy stored ordinary]

end Model

/-! ### The gates -/

namespace Session

variable {session : Session World Engine} {number : Nat} {model : Model Engine}

/-- The session with a context if the request is for a solve in the background. -/
def prepared (session : Session World Engine) : Request → Session World Engine
  | .solveLater _ => session.withContext
  | _ => session

theorem setModel_found (found : session.models[number]? = some model) :
    session.setModel number model = session := by
  rw [setModel, set_found found]

theorem begin_of_checkIdle (found : session.models[number]? = some model) {error : Error}
    (gate : model.checkIdle = .error error) : session.begin number = (.error error, session) := by
  have begun : model.begin session.solver session.world = (.error error, model, session.world) := by
    rw [Model.begin, gate]
  rw [begin_eq found begun, setModel_found found]

/-- **A shut gate of the changes** answers with its error, whatever the arguments. -/
theorem perform_of_checkIdle (found : session.models[number]? = some model) {error : Error}
    (gate : model.checkIdle = .error error) {request : Request}
    (change : request.isQuestion = false) (other : request ≠ .dispose) :
    session.perform number model request = (.error error, session.prepared request) := by
  cases request with
  | ask | isDisposed | write => cases change
  | dispose => exact absurd rfl other
  | edit edit =>
    have barred : model.edit edit = (.error error, model) := by rw [Model.edit, gate]
    unfold perform
    dsimp only
    rw [barred, replaced, setModel_found found]
    rfl
  | configure setting =>
    have barred : model.configure setting = (.error error, model) := by
      unfold Model.configure
      rw [gate]
    unfold perform
    dsimp only
    rw [barred, replaced, setModel_found found]
    rfl
  | solve =>
    have barred : session.solve number = (.error error, session) := by
      rw [solve, begin_of_checkIdle found gate]
    unfold perform
    dsimp only
    rw [barred]
    rfl
  | solveLater callback =>
    have found' : session.withContext.models[number]? = some model := by
      rw [models_withContext, found]
    have barred : session.solveLater number callback = (.error error, session.withContext) := by
      rw [solveLater, begin_of_checkIdle found' gate]
    unfold perform
    dsimp only
    rw [barred]
    rfl

/-- **A shut gate of the questions** answers with its error. -/
theorem perform_of_checkActive (found : session.models[number]? = some model) {error : Error}
    (gate : model.checkActive = .error error) {request : Request}
    (question : request.isQuestion = true) (other : request ≠ .isDisposed) :
    session.perform number model request = (.error error, session) := by
  have barred (query : Query) : model.ask query = (.error error, model) := by
    rw [Model.ask, gate]
  cases request with
  | edit | configure | solve | solveLater | dispose => cases question
  | isDisposed => exact absurd rfl other
  | ask query =>
    unfold perform
    dsimp only
    rw [barred, replaced, setModel_found found]
  | write sink =>
    unfold perform write
    dsimp only
    rw [barred]
    dsimp only
    rw [replaced, setModel_found found]

/-- **Who passes the gates of a model.** -/
structure Gates (session : Session World Engine) (number : Nat) (model : Model Engine) : Prop where
  /-- A disposed model can be disposed of again, and nothing happens. -/
  disposed_dispose : model.isDisposed = true →
    session.perform number model .dispose = (.ok .done, session)
  /-- Whether it is disposed can always be asked. -/
  isDisposed : session.perform number model .isDisposed = (.ok (.flag model.isDisposed), session)
  /-- A disposed model answers nothing else. -/
  disposed : model.isDisposed = true → ∀ request, request ≠ .dispose → request ≠ .isDisposed →
    session.perform number model request = (.error .disposed, session.prepared request)
  /-- A running model takes no change, no end, and no other solve. -/
  busy : model.isDisposed = false → model.isRunning = true → ∀ request,
    request.isQuestion = false →
    session.perform number model request = (.error .busy, session.prepared request)

/-- **Every model has these gates.** They are shut before any argument is looked at, and a request
that they do not let through changes nothing. -/
theorem gates (found : session.models[number]? = some model) : Gates session number model where
  disposed_dispose disposed := by
    have barred : model.dispose = (.ok (), model) := if_pos disposed
    unfold perform
    dsimp only
    rw [barred]
    dsimp only
    rw [replaced, setModel_found found]
    rfl
  isDisposed := rfl
  disposed disposed request other other' := by
    cases question : request.isQuestion with
    | true =>
      rw [perform_of_checkActive found (Model.checkActive_of_disposed disposed) question other']
      cases request <;> first | rfl | cases question
    | false => exact perform_of_checkIdle found (Model.checkIdle_of_disposed disposed) question other
  busy active running request change := by
    by_cases other : request = .dispose
    · subst other
      have barred : model.dispose = (.error .busy, model) := by
        rw [Model.dispose, active, running]
        rfl
      unfold perform
      dsimp only
      rw [barred]
      dsimp only
      rw [replaced, setModel_found found]
      rfl
    · exact perform_of_checkIdle found (Model.checkIdle_of_running active running) change other

/-- The text of a model goes where it is wanted, also while a solve is under way. -/
theorem write_eq_put (active : model.isDisposed = false) (sink : Sink) :
    (session.perform number model (.write sink)).1
      = (session.put (Lp.render model.problem.normalize) sink).1 := by
  have told : model.ask .text = (.ok (.text (Lp.render model.problem.normalize)), model.normalize) := by
    rw [Model.ask, Model.checkActive_of_active active]
    rfl
  unfold perform write
  dsimp only
  rw [told]
  dsimp only
  cases sink with
  | caller | broken => rfl
  | file path =>
    unfold put
    have same : (session.setModel number model.normalize).disk = session.disk := rfl
    dsimp only
    rw [same]
    cases session.disk.write? path (Lp.render model.problem.normalize).toUTF8.toList <;> rfl

end Session

namespace Workshop

open Problem

/-! ### From the beginning of a solve to its end -/

variable {start shop next last : Workshop World Engine} {moves : List WorkshopMove} {number : Nat}
  {model began : Model Engine}

/-- **A solve of a model is under way**: a step of the row began it with this model, and no solve of
the model was finished since. -/
inductive Underway (start : Workshop World Engine) (moves : List WorkshopMove)
    (last : Workshop World Engine) (number : Nat) (model : Model Engine) : Prop
  | intro (before : Workshop World Engine) (move : WorkshopMove) (after : Workshop World Engine)
    (made : Made start moves before move after) (found : before.models[number]? = some model)
    (begins : begunCount number after.log = begunCount number before.log + 1)
    (since : finishedCount number last.log = finishedCount number after.log)

theorem Underway.snoc (underway : Underway start moves shop number model) (move : WorkshopMove)
    (log : finishedCount number next.log = finishedCount number shop.log) :
    Underway start (moves ++ [move]) next number model := by
  obtain ⟨before, earlier, after, made, found, begins, since⟩ := underway
  exact ⟨before, earlier, after, made.snoc move, found, begins, log.trans since⟩

theorem finishedCount_le_of_effect (effect : Effect shop next) (number : Nat) :
    finishedCount number shop.log ≤ finishedCount number next.log := by
  cases effect with
  | quiet _ _ _ log | made _ _ _ _ _ log | called _ _ _ _ _ _ _ _ log | ran _ _ _ _ _ _ _ log =>
    exact Nat.le_of_eq (finishedCount_congr log number).symm
  | began _ _ _ _ _ _ _ _ _ _ log | finished _ _ _ _ _ _ _ log =>
    rw [finishedCount_of_more log]
    exact Nat.le_add_right _ _

theorem finishedCount_le_of_run (ran : shop.run? moves = some last) (number : Nat) :
    finishedCount number shop.log ≤ finishedCount number last.log := by
  refine run_induction (motive := fun _ last => finishedCount number shop.log
    ≤ finishedCount number last.log) (Nat.le_refl _) ?_ ran
  intro moves before move after _ moved hyp
  exact Nat.le_trans hyp (finishedCount_le_of_effect (effect_of_move? moved) number)

/-- **The step that begins a solve** leaves its model under way. -/
theorem underway_of_effect (effect : Effect shop next) (found : shop.models[number]? = some model)
    (begins : begunCount number next.log = begunCount number shop.log + 1) :
    next.models[number]? = some model.underway ∧ model.isDisposed = false := by
  obtain ⟨later, there⟩ := exists_model_of_effect effect found
  cases fate_of_effect effect there with
  | kept _ begun | made _ _ begun | called _ _ _ begun | finished _ _ _ _ _ begun => omega
  | began old assignment _ found' begun =>
    obtain rfl : model = old := Option.some.inj (found.symm.trans found')
    obtain ⟨active, -, rfl⟩ := Model.begin_eq_underway begun
    exact ⟨there, active⟩

/-- **A step that does not finish the solve** leaves it under way. -/
theorem solving_of_effect (stored : began.problem.WellStored) (effect : Effect shop next)
    (found : shop.models[number]? = some model) (solving : Model.Solving began model)
    (unfinished : finishedCount number next.log = finishedCount number shop.log) :
    ∃ later, next.models[number]? = some later ∧ Model.Solving began later := by
  obtain ⟨later, there⟩ := exists_model_of_effect effect found
  refine ⟨later, there, ?_⟩
  cases fate_of_effect effect there with
  | kept found' =>
    obtain rfl : model = later := Option.some.inj (found.symm.trans found')
    exact solving
  | made absent => cases found.symm.trans absent
  | called old found' call =>
    obtain rfl : model = old := Option.some.inj (found.symm.trans found')
    exact Model.solving_of_call stored solving call
  | began old _ _ found' begins =>
    obtain rfl : model = old := Option.some.inj (found.symm.trans found')
    obtain ⟨-, idle, -⟩ := Model.begin_eq_underway begins
    exact absurd (solving.isRunning.symm.trans idle) Bool.noConfusion
  | finished _ _ _ _ _ _ ended => omega

theorem solving_of_run (stored : began.problem.WellStored) (ran : shop.run? moves = some last)
    (found : shop.models[number]? = some model) (solving : Model.Solving began model)
    (unfinished : finishedCount number last.log = finishedCount number shop.log) :
    ∃ later, last.models[number]? = some later ∧ Model.Solving began later := by
  induction moves generalizing shop model with
  | nil =>
    cases ran
    exact ⟨model, found, solving⟩
  | cons move moves hyp =>
    obtain ⟨next, moved, ran⟩ := Option.bind_eq_some_iff.mp ran
    -- The count only grows, so it is the same in between.
    have effect := effect_of_move? moved
    have first := finishedCount_le_of_effect effect number
    have rest := finishedCount_le_of_run ran number
    obtain ⟨later, found, solving⟩ := solving_of_effect stored effect found solving (by omega)
    exact hyp ran found solving (by omega)

/-- **A solve that is under way** left its model running, and it could be asked for. -/
theorem solving_of_underway {solver : Solver World Engine} {world : World}
    (ran : run? { solver, world } moves = some shop)
    (underway : Underway { solver, world } moves shop number began) :
    began.problem.WellStored ∧ ∃ model, shop.models[number]? = some model
      ∧ Model.Solving began model := by
  obtain ⟨before, move, after, ⟨earlier, later, rfl, reached, moved⟩, found, begins, since⟩ := underway
  obtain rfl := solver_of_run? reached
  have stored := (accounts_of_reachable ⟨world, earlier, reached⟩).stored number began found
  obtain ⟨there, -⟩ := underway_of_effect (effect_of_move? moved) found begins
  have rest : after.run? later = some shop := by
    rw [run?_append, reached] at ran
    rw [Option.bind_some] at ran
    obtain ⟨next, moved', ran⟩ := Option.bind_eq_some_iff.mp ran
    obtain rfl : after = next := Option.some.inj (moved.symm.trans moved')
    exact ran
  exact ⟨stored, solving_of_run stored rest there (.inl rfl) since⟩

/-- One step more. -/
theorem underway_of_step {move : WorkshopMove} (accounts : shop.Accounts)
    (ran : start.run? moves = some shop) (moved : shop.move? move = some next)
    (before : ∀ model, shop.models[number]? = some model → model.isRunning = true →
      ∃ began, Underway start moves shop number began)
    (found : next.models[number]? = some model) (running : model.isRunning = true) :
    ∃ began, Underway start (moves ++ [move]) next number began := by
  -- It is enough that the model was running before the step and was not finished by it.
  have continues {old : Model Engine} (there : shop.models[number]? = some old)
      (running : old.isRunning = true)
      (log : finishedCount number next.log = finishedCount number shop.log) :
      ∃ began, Underway start (moves ++ [move]) next number began := by
    obtain ⟨began, underway⟩ := before old there running
    exact ⟨began, underway.snoc move log⟩
  cases fate_of_effect (effect_of_move? moved) found with
  | kept there _ ended => exact continues there running ended
  | made _ fresh =>
    rw [Model.isRunning, fresh.idle] at running
    cases running
  | called old there call _ ended =>
    have calm := Model.calm_of_call (accounts.stored number old there) call
    rw [Model.isRunning, calm.solveState_eq] at running
    exact continues there running ended
  | began old _ _ there _ begun =>
    exact ⟨old, shop, move, next, .final ran moved, there, begun, rfl⟩
  | finished old attempt _ finishes =>
    subst finishes
    obtain ⟨-, -, idle, -⟩ := Model.finish_spec old shop.solver attempt shop.world
    exact absurd (running.symm.trans idle) Bool.noConfusion

/-- **A model is running only because a solve of it is under way.** -/
theorem underway_of_running {solver : Solver World Engine} {world : World}
    (ran : run? { solver, world } moves = some shop) (found : shop.models[number]? = some model)
    (running : model.isRunning = true) :
    ∃ began, Underway { solver, world } moves shop number began := by
  refine run_induction (motive := fun moves shop => ∀ model, shop.models[number]? = some model →
    model.isRunning = true → ∃ began, Underway { solver, world } moves shop number began)
    ?_ ?_ ran model found running
  · intro model found
    cases found
  · intro moves before move after ran moved hyp model found running
    obtain rfl := solver_of_run? ran
    exact underway_of_step (accounts_of_reachable ⟨world, moves, ran⟩) ran moved hyp found running

/-- **What stays from the beginning of a solve to its end.** -/
structure Undisturbed (World : Type) (began model : Model Engine) : Prop where
  running : model.isRunning = true
  /-- The problem is the one that was solved, up to the order of the entries of its rows. -/
  problem : model.problem.Reordered began.problem
  options : model.options = began.options
  /-- As long as the model is not released, it answers as it did, except about solves. -/
  asked : model.isDisposed = false → ∀ (session : Session World Engine) place query,
    (session.perform place model (.ask query)).1 = (began.started.ask query).1
  written : model.isDisposed = false → ∀ (session : Session World Engine) place sink,
    (session.perform place model (.write sink)).1
      = (session.put (Lp.render began.problem.normalize) sink).1

theorem undisturbed_of_solving (stored : began.problem.WellStored)
    (solving : Model.Solving began model) : Undisturbed World began model where
  running := solving.isRunning
  problem := by
    rw [solving.problem]
    exact reordered_normalize stored
  options := solving.options
  asked active session place query := by
    obtain rfl := solving.eq_underway active
    exact Model.ask_underway stored query
  written active session place sink := by
    rw [Session.write_eq_put active, solving.problem, normalize_normalize stored]

/-- **The gates of a model, and what they guard.** In every state, a disposed model takes another
disposal as nothing, tells that it is disposed, and fails everything else; a running one is busy for
every change, solve and disposal. No argument is looked at before, and nothing changes. A model is
running only because a solve of it began and was not finished; from the beginning of a solve to its
end the problem stays as it was up to the order of the entries of its rows, and so do the settings
and every answer that is not about solves. -/
theorem lifecycle_of_run {solver : Solver World Engine} {world : World} {moves : List WorkshopMove}
    {shop : Workshop World Engine} (ran : run? { solver, world } moves = some shop) {number : Nat}
    {model : Model Engine} (found : shop.models[number]? = some model) :
    (∀ (session : Session World Engine) place, session.models[place]? = some model →
        session.Gates place model)
      ∧ (model.isRunning = true → ∃ began, Underway { solver, world } moves shop number began)
      ∧ ∀ began, Underway { solver, world } moves shop number began →
        Undisturbed World began model := by
  refine ⟨fun session place there => Session.gates there, underway_of_running ran found, ?_⟩
  intro began underway
  obtain ⟨stored, later, there, solving⟩ := solving_of_underway ran underway
  obtain rfl : model = later := Option.some.inj (found.symm.trans there)
  exact undisturbed_of_solving stored solving

/-- A workshop in which a solve of the only model has begun. -/
def runningModel? : Option (Workshop Unit FixedEngine) :=
  run? { solver := fixedSolver (.status .optimal) 0, world := () } [.create 1 2, .begin 0]

/-- The running model is busy for an edit that would also be declined, and its dimensions can be
asked for. -/
theorem lifecycle_of_runningModel : ∃ (session : Session Unit FixedEngine)
    (shop : Workshop Unit FixedEngine) (model began : Model FixedEngine),
    runningModel? = some shop ∧ shop.models[0]? = some model ∧ session.models[0]? = some model
      ∧ Underway { solver := fixedSolver (.status .optimal) 0, world := () }
        [.create 1 2, .begin 0] shop 0 began
      ∧ Undisturbed Unit began model
      ∧ session.perform 0 model (.edit (.resize (Problem.rowCapacity + 1) 1))
        = (.error .busy, session)
      ∧ (session.perform 0 model (.ask .columnCount)).1 = .ok (.count 2) := by
  have made : runningModel?.isSome = true := rfl
  have there : (runningModel?.get made).models[0]?.isSome = true := rfl
  let shop := runningModel?.get made
  let model := shop.models[0]?.get there
  let session : Session Unit FixedEngine :=
    { solver := shop.solver, world := shop.world, models := shop.models }
  have ran : runningModel? = some shop := (Option.some_get made).symm
  have found : shop.models[0]? = some model := (Option.some_get there).symm
  have running : model.isRunning = true := rfl
  obtain ⟨gates, begins, undisturbed⟩ := lifecycle_of_run ran found
  obtain ⟨began, underway⟩ := begins running
  have busy := (gates session 0 found).busy rfl running
    (.edit (.resize (Problem.rowCapacity + 1) 1)) rfl
  exact ⟨session, shop, model, began, ran, found, found, underway, undisturbed began underway, busy,
    rfl⟩

end Workshop

end LinearProgram
