/-
**Row mode changes no answer.**

Two rows of steps that differ in nothing but where row mode is set get the same answers, and the
engines are given the same problems in the same order. The rows of those are in order.

* `Workshop.answer?`, `answers`: what the callers are told.
* `Workshop.tidy`: the workshop with every model out of row mode and its rows in order.
* `move?_tidy`, `answer?_tidy`: a step of the tidy workshop is the step of the workshop itself, but for
  tidiness, and gets the same answer. `run?_tidy`: so it is with a row of steps, of which those that
  set row mode are left out.
* **`answers_of_rowMode`**: the answers, the engines' problems and everything else agree.
-/

import LinearProgram.Proofs.Model.RowMode
import LinearProgram.Proofs.Session.Record

namespace LinearProgram

open Problem

variable {World Engine : Type}

/-! ### Moves and answers -/

/-- Whether the move sets row mode. -/
def WorkshopMove.setsRowMode : WorkshopMove → Bool
  | .configure _ setting => setting.isRowMode
  | _ => false

/-- Whether the move sets row mode or asks for it. -/
def WorkshopMove.isAboutRowMode : WorkshopMove → Bool
  | .ask _ query => query.tellsRowMode
  | move => move.setsRowMode

namespace Workshop

/-- **What the caller of a move is told**, if there is a caller. -/
def answer? (shop : Workshop World Engine) : WorkshopMove → Option (Except Error Answer)
  | .create rows columns =>
    some ((Model.create shop.solver rows columns shop.world).1.map fun _ => .done)
  | .read bytes verbosity name =>
    some ((Model.read shop.solver bytes verbosity name shop.world).1.map fun _ => .done)
  | .ask model query => (shop.models[model]?).map fun model => (model.ask query).1
  | .edit model edit => (shop.models[model]?).map fun model => (model.edit edit).1.map edit.answer
  | .configure model setting => (shop.models[model]?).map fun model => (model.configure setting).1
  | .dispose model => (shop.models[model]?).map fun model => model.dispose.1.map fun _ => .done
  | .begin model | .submit _ model _ =>
    (shop.begin? model).map fun (begun, _) => begun.map fun _ => .done
  | .finish index =>
    match shop.waiting[index]? with
    | some (.ended number attempt) =>
      (shop.finish? number attempt).map fun (result, _) => result.map .status
    | _ => none
  | _ => none

/-- **What the callers are told in a row of steps**, without the answers about row mode. -/
def answers (shop : Workshop World Engine) : List WorkshopMove → List (Option (Except Error Answer))
  | [] => []
  | move :: moves =>
    match shop.move? move with
    | none => []
    | some next =>
      if move.isAboutRowMode then next.answers moves
      else shop.answer? move :: next.answers moves

end Workshop

/-! ### Tidy workshops -/

/-- A waiting solve out of row mode. -/
def WaitingSolve.tidy : WaitingSolve Engine → WaitingSolve Engine
  | begun model assignment => begun model assignment.tidy
  | ended model attempt => ended model attempt

/-- A job out of row mode. -/
def Job.tidy (job : Job Engine) : Job Engine :=
  { job with assignment := job.assignment.tidy }

/-- An errand out of row mode. -/
def Errand.tidy : Errand Engine → Errand Engine
  | job solve => job solve.tidy
  | report result => report result

namespace OwnedContext

/-- **The context with its solves out of row mode.** -/
def tidy (owned : OwnedContext Engine) : OwnedContext Engine :=
  { owned with pool := owned.pool.map (·.tidy), handing := owned.handing.map (·.tidy) }

theorem tidy_tidy (owned : OwnedContext Engine) : owned.tidy.tidy = owned.tidy := by
  have errands : (fun errand : Errand Engine => errand.tidy.tidy) = (·.tidy) := by
    funext errand
    cases errand <;> rfl
  have held : (owned.handing.map (·.tidy)).map (·.tidy) = owned.handing.map (·.tidy) := by
    cases owned.handing <;> rfl
  simp [tidy, WorkerPool.map_map, Function.comp_def, errands, held]

theorem tidy_ofSize (workers : Nat) : (ofSize workers : OwnedContext Engine).tidy = ofSize workers := by
  simp [tidy, ofSize, WorkerPool.map_ofSize]

theorem isFree_tidy (owned : OwnedContext Engine) : owned.tidy.isFree = owned.isFree := by
  obtain ⟨⟨workers, owner, queue, isClosed⟩, nextTicket, callbacks, handing, channel, isGone⟩ := owned
  cases owner <;> cases handing <;> rfl

theorem takesResults_tidy (owned : OwnedContext Engine) :
    owned.tidy.takesResults = owned.takesResults := by
  unfold takesResults
  rw [isFree_tidy]
  exact congrArg _ (WorkerPool.hasJoined_map _ _)

theorem submit_tidy (owned : OwnedContext Engine) (model : Nat) (assignment : Assignment Engine)
    (callback : Callback) : owned.tidy.submit model assignment.tidy callback
      = (owned.submit model assignment callback).tidy := rfl

theorem hand?_tidy (owned : OwnedContext Engine) : owned.tidy.hand? = owned.hand?.map (·.tidy) := by
  unfold hand?
  rw [show owned.tidy.handing = owned.handing.map (·.tidy) from rfl]
  cases owned.handing with
  | none => rfl
  | some job =>
    have moves := WorkerPool.move?_map (·.tidy) owned.pool (.submit (.job job))
    simp only [Option.map_some, Option.bind_some]
    rw [show owned.tidy.pool.move? (.submit (.job job.tidy)) = _ from moves, Option.map_map,
      Option.map_map]
    rfl

/-- A step that brings no work is the same whatever the work. -/
theorem map_elim_tidy (move : PoolMove Empty) :
    ((move.map Empty.elim : PoolMove (Errand Engine)).map (·.tidy)) = move.map Empty.elim := by
  cases move with
  | submit work => cases work
  | worker | stir | add | release | call | close | callAll | join => rfl

theorem poolMove?_tidy (owned : OwnedContext Engine) (move : PoolMove Empty) :
    owned.tidy.poolMove? move = (owned.poolMove? move).map (·.tidy) := by
  have moves := WorkerPool.move?_map (·.tidy) owned.pool (move.map Empty.elim)
  have finished := WorkerPool.finished_map (·.tidy) owned.pool (move.map Empty.elim)
  rw [map_elim_tidy] at moves finished
  have jobs : (fun errand : Errand Engine => !errand.tidy.isJob) = (!·.isJob) := by
    funext errand
    cases errand <;> rfl
  have reports : (fun errand : Errand Engine => errand.tidy.report?) = (·.report?) := by
    funext errand
    cases errand <;> rfl
  have pool : owned.tidy.pool = owned.pool.map (·.tidy) := rfl
  have allows : owned.tidy.allows (move.map Empty.elim) = owned.allows (move.map Empty.elim) := by
    have held : owned.tidy.handing.isNone = owned.handing.isNone := Option.isNone_map
    unfold OwnedContext.allows
    rw [pool, finished, List.all_map, held]
    exact congrArg (· && _) (congrArg (List.all _) jobs)
  unfold poolMove?
  dsimp only
  rw [allows, pool, moves, finished]
  split
  · rw [Option.map_map, Option.map_map, List.filterMap_map]
    refine congrArg (Option.map · _) (funext fun next => ?_)
    simp [tidy, reports]
  · rfl

theorem job?_tidy (owned : OwnedContext Engine) (index : Nat) :
    owned.tidy.job? index = (owned.job? index).map (·.tidy) := by
  unfold job?
  rw [show owned.tidy.pool.workers[index]? = _ from WorkerPool.getElem?_workers_map _ owned.pool index]
  rcases owned.pool.workers[index]? with - | worker
  · rfl
  · cases worker with
    | working errand => cases errand <;> rfl
    | outside | inside | loaded | idle | drowsy | leaving | asleep | gone => rfl

theorem setErrand_tidy (owned : OwnedContext Engine) (index : Nat) (report : Report Engine) :
    owned.tidy.setErrand index (.report report) = (owned.setErrand index (.report report)).tidy := by
  have set := WorkerPool.map_setWorker (·.tidy) owned.pool index (.working (.report report))
  unfold setErrand tidy
  rw [set]
  rfl

theorem receive?_tidy (owned : OwnedContext Engine) : owned.tidy.receive?
    = owned.receive?.map fun delivery => (delivery.1, delivery.2.1, delivery.2.2.tidy) := by
  unfold receive?
  rw [takesResults_tidy, show owned.tidy.channel = owned.channel from rfl]
  split
  · cases owned.channel <;> rfl
  · rfl

theorem leave?_tidy (owned : OwnedContext Engine) :
    owned.tidy.leave? = owned.leave?.map (·.tidy) := by
  have joined : owned.tidy.pool.hasJoined = owned.pool.hasJoined := WorkerPool.hasJoined_map _ _
  unfold leave?
  rw [joined, show owned.tidy.channel = owned.channel from rfl]
  split <;> rfl

end OwnedContext

namespace Workshop

/-- **The workshop with every model out of row mode and its rows in order.** -/
def tidy (shop : Workshop World Engine) : Workshop World Engine :=
  { shop with
    models := shop.models.map (·.tidy)
    waiting := shop.waiting.map (·.tidy)
    contexts := shop.contexts.map (·.tidy) }

variable {shop next : Workshop World Engine}

theorem tidy_setModel (shop : Workshop World Engine) (number : Nat) (model : Model Engine) :
    (shop.setModel number model).tidy = shop.tidy.setModel number model.tidy := by
  simp [setModel, tidy, List.map_set]

theorem tidy_setContext (shop : Workshop World Engine) (number : Nat)
    (owned : OwnedContext Engine) :
    (shop.setContext number owned).tidy = shop.tidy.setContext number owned.tidy := by
  simp [setContext, tidy, List.map_set]

theorem tidy_note (shop : Workshop World Engine) (notice : Notice) :
    (shop.note notice).tidy = shop.tidy.note notice := rfl

theorem getElem?_models_tidy (shop : Workshop World Engine) (number : Nat) :
    shop.tidy.models[number]? = (shop.models[number]?).map (·.tidy) :=
  List.getElem?_map

theorem getElem?_waiting_tidy (shop : Workshop World Engine) (index : Nat) :
    shop.tidy.waiting[index]? = (shop.waiting[index]?).map (·.tidy) :=
  List.getElem?_map

theorem context?_tidy (shop : Workshop World Engine) (number : Nat) :
    shop.tidy.context? number = (shop.context? number).map (·.tidy) := by
  rw [context?, context?, tidy, List.getElem?_map, Option.filter_map]
  rfl

/-- Everything that is stored in the models is stored well. -/
def Stored (shop : Workshop World Engine) : Prop :=
  ∀ (number : Nat) (model : Model Engine), shop.models[number]? = some model →
    model.problem.WellStored

theorem tidy_tidy (stored : shop.Stored) : shop.tidy.tidy = shop.tidy := by
  have models : (shop.models.map (·.tidy)).map (·.tidy) = shop.models.map (·.tidy) := by
    rw [List.map_map]
    refine List.map_congr_left fun model member => ?_
    obtain ⟨number, found⟩ := List.mem_iff_getElem?.mp member
    exact Model.tidy_tidy (stored number model found)
  have waiting : (shop.waiting.map (·.tidy)).map (·.tidy) = shop.waiting.map (·.tidy) := by
    rw [List.map_map]
    refine List.map_congr_left fun solve _ => ?_
    cases solve <;> rfl
  have contexts : (shop.contexts.map (·.tidy)).map (·.tidy) = shop.contexts.map (·.tidy) := by
    rw [List.map_map]
    exact List.map_congr_left fun owned _ => owned.tidy_tidy
  simp only [tidy, models, waiting, contexts]

/-! ### Parts of a step -/

theorem begin?_tidy (stored : shop.Stored) (number : Nat) :
    shop.tidy.begin? number
      = (shop.begin? number).map fun (begun, next) => (begun.map (·.tidy), next.tidy) := by
  unfold begin?
  rw [getElem?_models_tidy, Option.map_map, Option.map_map]
  cases found : shop.models[number]? with
  | none => rfl
  | some model =>
    have begins := Model.begin_tidy (stored number model found) shop.solver shop.world
    have same : shop.tidy.solver = shop.solver ∧ shop.tidy.world = shop.world := ⟨rfl, rfl⟩
    rcases begun : model.begin shop.solver shop.world with ⟨result, changed, later⟩
    rw [begun] at begins
    simp only [Option.map_some, Function.comp, same, begins, begun]
    cases result with
    | error error => simp [Except.map, tidy, setModel, List.map_set]
    | ok assignment =>
      have problem := Model.problem_tidy_of_begin (stored number model found) begun
      simp [Except.map, tidy, setModel, note, List.map_set, problem]

theorem finish?_tidy (shop : Workshop World Engine) (number : Nat) (attempt : Attempt Engine) :
    shop.tidy.finish? number attempt
      = (shop.finish? number attempt).map fun (result, next) => (result, next.tidy) := by
  unfold finish?
  rw [getElem?_models_tidy, Option.map_map, Option.map_map]
  refine congrArg (Option.map · _) (funext fun model => ?_)
  have ends := model.finish_tidy shop.solver attempt shop.world
  have same : shop.tidy.solver = shop.solver ∧ shop.tidy.world = shop.world := ⟨rfl, rfl⟩
  simp only [Function.comp, same, ends]
  simp [tidy, setModel, note, List.map_set]

theorem onModel?_tidy (stored : shop.Stored) (number : Nat)
    {operation : Model Engine → Model Engine}
    (agree : ∀ model : Model Engine, model.problem.WellStored →
      (operation model.tidy).tidy = (operation model).tidy) :
    (shop.tidy.onModel? number operation).map tidy = (shop.onModel? number operation).map tidy := by
  unfold onModel?
  rw [getElem?_models_tidy, Option.map_map, Option.map_map, Option.map_map]
  cases found : shop.models[number]? with
  | none => rfl
  | some model =>
    refine congrArg some ?_
    dsimp only [Function.comp]
    rw [tidy_setModel, tidy_setModel, tidy_tidy stored, agree model (stored number model found)]

theorem attempt?_tidy (ignores : shop.solver.IgnoresRowMode) (index : Nat) :
    shop.tidy.attempt? index = (shop.attempt? index).map tidy := by
  unfold attempt?
  rw [getElem?_waiting_tidy]
  cases shop.waiting[index]? with
  | none => rfl
  | some solve =>
    cases solve with
    | ended => rfl
    | begun number assignment =>
      have runs : shop.tidy.solver.attempt assignment.tidy shop.tidy.world
          = shop.solver.attempt assignment shop.world := attempt_tidy ignores assignment shop.world
      simp only [Option.map_some, WaitingSolve.tidy, runs]
      simp [tidy, List.map_set, WaitingSolve.tidy]

theorem finishWaiting?_tidy (shop : Workshop World Engine) (index : Nat) :
    shop.tidy.finishWaiting? index = (shop.finishWaiting? index).map tidy := by
  unfold finishWaiting?
  rw [getElem?_waiting_tidy]
  cases shop.waiting[index]? with
  | none => rfl
  | some solve =>
    cases solve with
    | begun => rfl
    | ended number attempt =>
      simp only [Option.map_some, WaitingSolve.tidy, finish?_tidy, Option.map_map]
      refine congrArg (Option.map · _) (funext fun finished => ?_)
      simp [tidy, List.eraseIdx_map]

theorem begin_move?_tidy (stored : shop.Stored) (number : Nat) :
    shop.tidy.move? (.begin number) = (shop.move? (.begin number)).map tidy := by
  unfold move?
  dsimp only
  rw [begin?_tidy stored, Option.map_map, Option.map_map]
  refine congrArg (Option.map · _) (funext fun (begun, next) => ?_)
  cases begun with
  | error error => rfl
  | ok assignment => simp [Except.map, tidy, WaitingSolve.tidy]

/-! ### Parts of a step of a context -/

theorem onContext?_tidy (shop : Workshop World Engine) (number : Nat)
    {step : OwnedContext Engine → Option (OwnedContext Engine)}
    (agree : ∀ owned : OwnedContext Engine, step owned.tidy = (step owned).map (·.tidy)) :
    shop.tidy.onContext? number step = (shop.onContext? number step).map tidy := by
  unfold onContext?
  rw [context?_tidy]
  cases shop.context? number with
  | none => rfl
  | some owned =>
    simp only [Option.map_some, Option.bind_some, agree, Option.map_map]
    exact congrArg (Option.map · _) (funext fun changed => (tidy_setContext shop number changed).symm)

theorem submit?_tidy (stored : shop.Stored) (number model : Nat) (callback : Callback) :
    shop.tidy.submit? number model callback = (shop.submit? number model callback).map tidy := by
  unfold submit?
  rw [context?_tidy]
  cases shop.context? number with
  | none => rfl
  | some owned =>
    simp only [Option.map_some, Option.bind_some, owned.isFree_tidy]
    split
    · rw [begin?_tidy stored, Option.map_map, Option.map_map]
      refine congrArg (Option.map · _) (funext fun (begun, next) => ?_)
      cases begun with
      | error error => rfl
      | ok assignment =>
        simp only [Function.comp, Except.map, tidy_note, tidy_setContext, OwnedContext.submit_tidy]
        rfl
    · rfl

theorem work?_tidy (ignores : shop.solver.IgnoresRowMode) (number index : Nat) :
    shop.tidy.work? number index = (shop.work? number index).map tidy := by
  unfold work?
  rw [context?_tidy]
  cases shop.context? number with
  | none => rfl
  | some owned =>
    simp only [Option.map_some, Option.bind_some, owned.job?_tidy, Option.map_map]
    refine congrArg (Option.map · _) (funext fun job => ?_)
    have runs : shop.tidy.solver.attempt job.tidy.assignment shop.tidy.world
        = shop.solver.attempt job.assignment shop.world :=
      attempt_tidy ignores job.assignment shop.world
    simp only [Function.comp, runs, tidy_note]
    refine congrArg (note · _) ?_
    have set := tidy_setContext shop number (owned.setErrand index
      (.report ⟨job.ticket, job.model, (shop.solver.attempt job.assignment shop.world).1⟩))
    rw [← OwnedContext.setErrand_tidy] at set
    exact congrArg (fun changed : Workshop World Engine =>
      { changed with world := (shop.solver.attempt job.assignment shop.world).2 }) set.symm

theorem deliver?_tidy (shop : Workshop World Engine) (number : Nat) :
    shop.tidy.deliver? number = (shop.deliver? number).map tidy := by
  unfold deliver?
  rw [context?_tidy]
  cases shop.context? number with
  | none => rfl
  | some owned =>
    simp only [Option.map_some, Option.bind_some, owned.receive?_tidy]
    cases owned.receive? with
    | none => rfl
    | some delivery =>
      obtain ⟨report, callback, changed⟩ := delivery
      simp only [Option.map_some, Option.bind_some, finish?_tidy, Option.map_map]
      refine congrArg (Option.map · _) (funext fun finished => ?_)
      cases callback <;> simp [tidy, setContext, note, List.map_set]

/-! ### Steps -/

theorem withMade_tidy (stored : shop.Stored) (made : Except Error (Model Engine) × World) :
    (shop.tidy.withMade made).tidy = (shop.withMade made).tidy := by
  have whole := tidy_tidy stored
  obtain ⟨result, world⟩ := made
  cases result with
  | error error => exact congrArg (fun shop => ({ shop with world } : Workshop World Engine)) whole
  | ok model =>
    have same := congrArg (fun shop : Workshop World Engine =>
      { shop with models := shop.models ++ [model.tidy], world }) whole
    simpa [withMade, tidy] using same

/-- **A step of the tidy workshop** leads to the same state, but for tidiness. -/
theorem move?_tidy (accounts : shop.Accounts) (ignores : shop.solver.IgnoresRowMode)
    {move : WorkshopMove} (ordinary : move.setsRowMode = false) :
    (shop.tidy.move? move).map tidy = (shop.move? move).map tidy := by
  have stored : shop.Stored := accounts.stored
  -- Most moves of the tidy workshop lead to the tidy state at once.
  have exactly (same : shop.tidy.move? move = (shop.move? move).map tidy) :
      (shop.tidy.move? move).map tidy = (shop.move? move).map tidy := by
    rw [same, Option.map_map]
    cases moved : shop.move? move with
    | none => rfl
    | some next =>
      have stored := (accounts_of_effect accounts (effect_of_move? moved)).stored
      exact congrArg some (tidy_tidy stored)
  cases move with
  | create rows columns => exact congrArg some (withMade_tidy stored _)
  | read bytes verbosity name => exact congrArg some (withMade_tidy stored _)
  | ask model query =>
    refine onModel?_tidy stored model fun model stored => ?_
    rw [Model.tidy_ask stored, Model.tidy_ask stored.normalize, Model.tidy_tidy stored]
  | edit model change =>
    exact onModel?_tidy stored model fun model stored => (Model.edit_tidy stored change).2
  | configure model setting =>
    exact onModel?_tidy stored model fun model stored => (Model.configure_tidy stored ordinary).2
  | dispose model =>
    exact onModel?_tidy stored model fun model stored => (Model.dispose_tidy stored).2
  | release model => exact onModel?_tidy stored model fun model stored => Model.release_tidy stored
  | begin model => exact exactly (begin_move?_tidy stored model)
  | attempt index => exact exactly (attempt?_tidy ignores index)
  | finish index => exact exactly (finishWaiting?_tidy shop index)
  | openContext workers =>
    refine exactly ?_
    simp [move?, tidy, OwnedContext.tidy_ofSize]
  | submit context model callback => exact exactly (submit?_tidy stored context model callback)
  | hand context => exact exactly (onContext?_tidy shop context OwnedContext.hand?_tidy)
  | pool context move =>
    exact exactly (onContext?_tidy shop context fun owned => owned.poolMove?_tidy move)
  | work context worker => exact exactly (work?_tidy ignores context worker)
  | deliver context => exact exactly (deliver?_tidy shop context)
  | leave context => exact exactly (onContext?_tidy shop context OwnedContext.leave?_tidy)

/-- Setting row mode changes nothing but tidiness. -/
theorem tidy_of_setsRowMode (stored : shop.Stored) {move : WorkshopMove}
    (sets : move.setsRowMode = true) (moved : shop.move? move = some next) :
    next.tidy = shop.tidy := by
  cases move with
  | configure number setting =>
    cases setting with
    | rowMode on =>
      obtain ⟨model, found, rfl⟩ := Option.map_eq_some_iff.mp moved
      have kept := Model.tidy_configure_rowMode (stored number model found) on
      obtain ⟨inside, rfl⟩ := List.getElem?_eq_some_iff.mp found
      rw [tidy_setModel, kept]
      simp [setModel, tidy, ← List.map_set]
    | _ => cases sets
  | _ => cases sets

/-! ### Answers -/

/-- What a model tells, if it tells the same once it is tidy. -/
theorem map_models_tidy {number : Nat} {reply : Model Engine → Except Error Answer}
    (same : ∀ model, shop.models[number]? = some model → reply model.tidy = reply model) :
    (shop.tidy.models[number]?).map reply = (shop.models[number]?).map reply := by
  rw [getElem?_models_tidy, Option.map_map]
  cases found : shop.models[number]? with
  | none => rfl
  | some model => exact congrArg some (same model found)

/-- **The callers of the tidy workshop are told the same.** -/
theorem answer?_tidy (stored : shop.Stored) {move : WorkshopMove}
    (ordinary : move.isAboutRowMode = false) : shop.tidy.answer? move = shop.answer? move := by
  cases move with
  | create | read => rfl
  | release | attempt | openContext | hand | pool | work | deliver | leave => rfl
  | ask number query =>
    exact map_models_tidy fun model found => Model.ask_tidy (stored number model found) ordinary
  | edit number change =>
    refine map_models_tidy fun model found => ?_
    have same := (Model.edit_tidy (stored number model found) change).1
    exact congrArg (Except.map change.answer) same
  | configure number setting =>
    exact map_models_tidy fun model found =>
      (Model.configure_tidy (stored number model found) ordinary).1
  | dispose number =>
    refine map_models_tidy fun model found => ?_
    have same := (Model.dispose_tidy (stored number model found)).1
    exact congrArg (Except.map fun _ => Answer.done) same
  | begin model | submit context model callback =>
    unfold answer?
    dsimp only
    rw [begin?_tidy stored, Option.map_map]
    refine congrArg (Option.map · _) (funext fun (begun, next) => ?_)
    cases begun <;> rfl
  | finish index =>
    unfold answer?
    dsimp only
    rw [getElem?_waiting_tidy]
    cases shop.waiting[index]? with
    | none => rfl
    | some solve =>
      cases solve with
      | begun => rfl
      | ended number attempt =>
        simp only [Option.map_some, WaitingSolve.tidy, finish?_tidy, Option.map_map]
        rfl

/-! ### Rows of steps -/

/-- **Two workshops that differ in tidiness**, of which one makes the steps of the other except those
that set row mode. -/
theorem run?_tidy {shop other last : Workshop World Engine} (accounts : shop.Accounts)
    (accounts' : other.Accounts) (ignores : shop.solver.IgnoresRowMode)
    (same : shop.tidy = other.tidy) {moves : List WorkshopMove}
    (ran : shop.run? moves = some last) :
    ∃ last', other.run? (moves.filter fun move => !move.setsRowMode) = some last'
      ∧ last.tidy = last'.tidy
      ∧ shop.answers moves = other.answers (moves.filter fun move => !move.setsRowMode) := by
  induction moves generalizing shop other with
  | nil =>
    cases ran
    exact ⟨other, rfl, same, rfl⟩
  | cons move rest hyp =>
    obtain ⟨next, moved, ran⟩ := Option.bind_eq_some_iff.mp ran
    have effect := effect_of_move? moved
    have accountsNext := accounts_of_effect accounts effect
    have ignoresNext : next.solver.IgnoresRowMode := effect.solver_eq ▸ ignores
    cases sets : move.setsRowMode with
    | true =>
      -- Only the first workshop makes the step.
      have tidy := (tidy_of_setsRowMode accounts.stored sets moved).trans same
      obtain ⟨last', ran', tidies, answers⟩ := hyp accountsNext accounts' ignoresNext tidy ran
      have about : move.isAboutRowMode = true := by
        cases move with
        | configure => exact sets
        | _ => cases sets
      refine ⟨last', ?_, tidies, ?_⟩
      · rw [List.filter_cons_of_neg (by simp [sets])]
        exact ran'
      · rw [List.filter_cons_of_neg (by simp [sets]), Workshop.answers, moved]
        simp only [about, if_true, answers]
    | false =>
      -- Both make it: each goes where the tidy workshop goes.
      have solver : other.solver = shop.solver := (congrArg Workshop.solver same).symm
      have step := move?_tidy accounts ignores sets
      rw [same, move?_tidy accounts' (solver ▸ ignores) sets, moved] at step
      obtain ⟨next', moved', tidy⟩ := Option.map_eq_some_iff.mp step
      have accountsNext' := accounts_of_effect accounts' (effect_of_move? moved')
      obtain ⟨last', ran', tidies, answers⟩ :=
        hyp accountsNext accountsNext' ignoresNext tidy.symm ran
      refine ⟨last', ?_, tidies, ?_⟩
      · rw [List.filter_cons_of_pos (by simp [sets])]
        exact Option.bind_eq_some_iff.mpr ⟨next', moved', ran'⟩
      · rw [List.filter_cons_of_pos (by simp [sets]), Workshop.answers, moved, Workshop.answers,
          moved']
        dsimp only
        cases about : move.isAboutRowMode with
        | true => simp only [if_true, answers]
        | false =>
          have told := answer?_tidy accounts.stored about
          rw [same, answer?_tidy accounts'.stored about] at told
          simp only [Bool.false_eq_true, if_false, told, answers]

/-- **Row mode changes no answer.** Of two rows of steps that differ in nothing but where row mode is
set, for engines that do not look at it, the callers are told the same, except about row mode; the
same is written down of all solves; and the states differ in tidiness at most. The engines are given
the same problems in the same order, and the rows of every one of them are in order. -/
theorem answers_of_rowMode {solver : Solver World Engine} (ignores : solver.IgnoresRowMode)
    {first second : List WorkshopMove}
    (same : first.filter (fun move => !move.setsRowMode)
      = second.filter fun move => !move.setsRowMode) :
    (∀ (world : World) (one other : Workshop World Engine),
      run? { solver, world } first = some one → run? { solver, world } second = some other →
      answers { solver, world } first = answers { solver, world } second
        ∧ one.log = other.log ∧ one.world = other.world ∧ one.tidy = other.tidy)
      ∧ ∀ (world : World) (one other : Workshop (World × List Problem) Engine),
        run? { solver := solver.recorded, world := (world, []) } first = some one →
        run? { solver := solver.recorded, world := (world, []) } second = some other →
        one.world.2 = other.world.2
          ∧ ∀ problem ∈ one.world.2, problem.isNormalized = true
            ∧ ∀ row ∈ problem.matrix.rows, Increasing row := by
  have agree {World : Type} {solver : Solver World Engine} (ignores : solver.IgnoresRowMode)
      (world : World) {one other : Workshop World Engine}
      (ran : run? { solver, world } first = some one)
      (ran' : run? { solver, world } second = some other) :
      answers { solver, world } first = answers { solver, world } second
        ∧ one.tidy = other.tidy := by
    have accounts : Accounts { solver, world } := accounts_of_reachable ⟨world, [], rfl⟩
    obtain ⟨last, reaches, tidy, answers⟩ := run?_tidy accounts accounts ignores rfl ran
    obtain ⟨last', reaches', tidy', answers'⟩ := run?_tidy accounts accounts ignores rfl ran'
    rw [← same] at reaches' answers'
    obtain rfl := Option.some.inj (reaches.symm.trans reaches')
    exact ⟨answers.trans answers'.symm, tidy.trans tidy'.symm⟩
  constructor
  · intro world one other ran ran'
    obtain ⟨answers, tidy⟩ := agree ignores world ran ran'
    have log : one.tidy.log = other.tidy.log := congrArg _ tidy
    have world : one.tidy.world = other.tidy.world := congrArg _ tidy
    exact ⟨answers, log, world, tidy⟩
  · intro world one other ran ran'
    have ignores' : solver.recorded.IgnoresRowMode := by
      intro options rowMode engine world
      simp only [Solver.recorded, ignores options rowMode engine world.1]
    obtain ⟨-, tidy⟩ := agree ignores' (world, []) ran ran'
    exact ⟨congrArg (fun shop => shop.world.2) tidy, inOrder_of_recorded ran⟩

/-- A row out of order is added to a model in row mode, which then begins a solve. -/
def rowModeMoves : List WorkshopMove :=
  [.create 1 3, .configure 0 (.rowMode true), .edit 0 (.addRow (.sparse 2 [3, 1] [2, 1]) .atMost 4),
    .ask 0 (.row 2), .configure 0 (.rowMode false), .ask 0 .text, .begin 0]

/-- The same is done to a model that never was in row mode. -/
def ordinaryMoves : List WorkshopMove :=
  [.create 1 3, .edit 0 (.addRow (.sparse 2 [3, 1] [2, 1]) .atMost 4), .ask 0 (.row 2),
    .ask 0 .text, .begin 0]

/-- In row mode and out of it, the same is answered about the row and about the text, and the engine
is given the same problem. -/
theorem answers_of_rowModeMoves : ∃ (one other : Workshop (Unit × List Problem) FixedEngine),
    run? { solver := (fixedSolver (.status .optimal) 0).recorded, world := ((), []) } rowModeMoves
        = some one
      ∧ run? { solver := (fixedSolver (.status .optimal) 0).recorded, world := ((), []) }
        ordinaryMoves = some other
      ∧ answers { solver := fixedSolver (.status .optimal) 0, world := () } rowModeMoves
        = answers { solver := fixedSolver (.status .optimal) 0, world := () } ordinaryMoves
      ∧ one.world.2 = other.world.2 ∧ ∀ problem ∈ one.world.2, problem.isNormalized = true := by
  have ignores : (fixedSolver (.status .optimal) 0).IgnoresRowMode := fun _ _ _ _ => rfl
  have same : rowModeMoves.filter (fun move => !move.setsRowMode)
      = ordinaryMoves.filter fun move => !move.setsRowMode := rfl
  obtain ⟨plain, recorded⟩ := answers_of_rowMode ignores same
  obtain ⟨answers, -⟩ := plain () _ _ (Option.some_get rfl).symm (Option.some_get rfl).symm
  obtain ⟨problems, inOrder⟩ :=
    recorded () _ _ (Option.some_get rfl).symm (Option.some_get rfl).symm
  exact ⟨_, _, (Option.some_get rfl).symm, (Option.some_get rfl).symm, answers, problems,
    fun problem member => (inOrder problem member).1⟩

end Workshop

end LinearProgram
