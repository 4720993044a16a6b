/-
**Models and contexts that move in any order.**

A session answers one request after the other, and its workers keep to a clock. In a workshop
nothing keeps time: any number of models, of solves that somebody waits for, and of contexts move
one step at a time, in any order. A step is what nobody can interrupt: one operation on a model, one
part of a solve, one step of a pool, one delivery. What a callback does is more steps.

* `Workshop`, `WorkshopMove`: the state, and what can happen to it.
* `Workshop.move?`: one step, if it can be made. `Workshop.run?`: a row of steps.
* `Workshop.Reachable`: the states that rows of steps lead to.
* `Workshop.solves`: the solves that have begun and not been finished, and which of them have an
  engine.
-/

import LinearProgram.Model.Open
import LinearProgram.Session.OwnedContext

namespace LinearProgram

/-- A solve that somebody waits for. -/
inductive WaitingSolve (Engine : Type) where
  | begun (model : Nat) (assignment : Assignment Engine)
  | ended (model : Nat) (attempt : Attempt Engine)

/-- What happens to solves and callbacks. -/
inductive Notice where
  /-- A solve of the model began with this problem. -/
  | begun (model : Nat) (problem : Problem)
  /-- The solve of the model was finished. -/
  | finished (model : Nat) (result : Except Error Status)
  /-- The context took a solve of the model and gave it the ticket. -/
  | accepted (context ticket model : Nat)
  /-- The run of the solve with the ticket ended. -/
  | ended (context ticket : Nat) (result : Except String Status)
  /-- The callback of the ticket was called. -/
  | called (context ticket : Nat) (result : Except Error Status)

/-- What can happen, one thing at a time. Models and contexts go by their numbers, waiting solves
and runs by where they stand. -/
inductive WorkshopMove where
  | create (rows columns : Nat)
  | read (bytes : List UInt8) (verbosity : Verbosity) (name : String)
  | ask (model : Nat) (query : Query)
  | edit (model : Nat) (edit : Edit)
  | configure (model : Nat) (setting : Setting)
  | dispose (model : Nat)
  /-- The last holder of the model is gone. -/
  | release (model : Nat)
  /-- Somebody begins a solve and waits for it. -/
  | begin (model : Nat)
  /-- The engine of a waiting solve runs. -/
  | attempt (index : Nat)
  /-- A waiting solve is finished. -/
  | finish (index : Nat)
  /-- Somebody gets a context, with at least one worker. -/
  | openContext (workers : Nat)
  /-- Somebody begins a solve and hands it to a context. -/
  | submit (context model : Nat) (callback : Callback)
  /-- The owner of a context brings the solve that it was handed to the pool. -/
  | hand (context : Nat)
  /-- The owner of a context or one of its workers makes a step of the pool. -/
  | pool (context : Nat) (move : PoolMove Empty)
  /-- The engine of the solve runs that a worker has in hands. -/
  | work (context worker : Nat)
  /-- The next result is delivered. -/
  | deliver (context : Nat)
  /-- A context that was given up goes. -/
  | leave (context : Nat)

/-- Models, solves and contexts without a clock. -/
structure Workshop (World Engine : Type) where
  solver : Solver World Engine
  world : World
  /-- Every model, by its number. -/
  models : List (Model Engine) := []
  /-- The solves that somebody waits for. -/
  waiting : List (WaitingSolve Engine) := []
  /-- Every context, by its number. -/
  contexts : List (OwnedContext Engine) := []
  /-- What happened to solves and callbacks, the oldest first. -/
  log : List Notice := []

/-- The model of a waiting solve, and whether the solve has an engine. -/
def WaitingSolve.summary {Engine : Type} : WaitingSolve Engine → Nat × Bool
  | begun model _ => (model, true)
  | ended model attempt => (model, attempt.engine.isSome)

namespace Workshop

variable {World Engine : Type}

/-! ### Parts of a step -/

/-- Replaces a model. -/
def setModel (shop : Workshop World Engine) (number : Nat) (model : Model Engine) :
    Workshop World Engine :=
  { shop with models := shop.models.set number model }

/-- Replaces a context. -/
def setContext (shop : Workshop World Engine) (number : Nat) (owned : OwnedContext Engine) :
    Workshop World Engine :=
  { shop with contexts := shop.contexts.set number owned }

/-- Writes something down. -/
def note (shop : Workshop World Engine) (notice : Notice) : Workshop World Engine :=
  { shop with log := shop.log ++ [notice] }

/-- One operation on a model that exists. -/
def onModel? (shop : Workshop World Engine) (number : Nat)
    (operation : Model Engine → Model Engine) : Option (Workshop World Engine) :=
  (shop.models[number]?).map fun model => shop.setModel number (operation model)

/-- A context that is not gone. -/
def context? (shop : Workshop World Engine) (number : Nat) : Option (OwnedContext Engine) :=
  (shop.contexts[number]?).filter fun owned => !owned.isGone

/-- The workshop with a model more, if it was made. -/
def withMade (shop : Workshop World Engine) (made : Except Error (Model Engine) × World) :
    Workshop World Engine :=
  match made with
  | (.error _, world) => { shop with world }
  | (.ok model, world) => { shop with models := shop.models ++ [model], world }

/-- Begins a solve of a model, if the model exists. -/
def begin? (shop : Workshop World Engine) (number : Nat) :
    Option (Except Error (Assignment Engine) × Workshop World Engine) :=
  (shop.models[number]?).map fun model =>
    let (begun, model, world) := model.begin shop.solver shop.world
    let shop := { shop.setModel number model with world }
    match begun with
    | .error error => (.error error, shop)
    | .ok assignment => (.ok assignment, shop.note (.begun number model.problem))

/-- Finishes a solve of a model, if the model exists. -/
def finish? (shop : Workshop World Engine) (number : Nat) (attempt : Attempt Engine) :
    Option (Except Error Status × Workshop World Engine) :=
  (shop.models[number]?).map fun model =>
    let (result, model, world) := model.finish shop.solver attempt shop.world
    (result, { shop.setModel number model with world }.note (.finished number result))

/-! ### Steps of a waiting solve -/

/-- The engine of a waiting solve runs. -/
def attempt? (shop : Workshop World Engine) (index : Nat) : Option (Workshop World Engine) :=
  match shop.waiting[index]? with
  | some (.begun number assignment) =>
    let (attempt, world) := shop.solver.attempt assignment shop.world
    some { shop with waiting := shop.waiting.set index (.ended number attempt), world }
  | _ => none

/-- A waiting solve is finished. -/
def finishWaiting? (shop : Workshop World Engine) (index : Nat) : Option (Workshop World Engine) :=
  match shop.waiting[index]? with
  | some (.ended number attempt) =>
    (shop.finish? number attempt).map fun (_, shop) =>
      { shop with waiting := shop.waiting.eraseIdx index }
  | _ => none

/-! ### Steps of a context -/

/-- A step of a context that is not gone, and nothing else. -/
def onContext? (shop : Workshop World Engine) (number : Nat)
    (step : OwnedContext Engine → Option (OwnedContext Engine)) : Option (Workshop World Engine) :=
  (shop.context? number).bind fun owned =>
    (step owned).map fun changed => shop.setContext number changed

/-- Begins a solve and hands it to a context whose owner is free. -/
def submit? (shop : Workshop World Engine) (number model : Nat) (callback : Callback) :
    Option (Workshop World Engine) :=
  (shop.context? number).bind fun owned =>
    if owned.isFree then
      (shop.begin? model).map fun
        | (.error _, shop) => shop
        | (.ok assignment, shop) =>
          (shop.setContext number (owned.submit model assignment callback)).note
            (.accepted number owned.nextTicket model)
    else none

/-- The engine of the solve runs that a worker has in hands. -/
def work? (shop : Workshop World Engine) (number index : Nat) : Option (Workshop World Engine) :=
  (shop.context? number).bind fun owned =>
    (owned.job? index).map fun job =>
      let (attempt, world) := shop.solver.attempt job.assignment shop.world
      let errand := .report ⟨job.ticket, job.model, attempt⟩
      { shop.setContext number (owned.setErrand index errand) with world }.note
        (.ended number job.ticket attempt.result)

/-- **The delivery of the next result.** The solve is finished before its callback is called. -/
def deliver? (shop : Workshop World Engine) (number : Nat) : Option (Workshop World Engine) :=
  (shop.context? number).bind fun owned =>
    owned.receive?.bind fun (report, callback, changed) =>
      (shop.finish? report.model report.attempt).map fun (result, shop) =>
        let shop := shop.setContext number changed
        match callback with
        | none => shop
        | some _ => shop.note (.called number report.ticket result)

/-- **One step**, if it can be made. -/
def move? (shop : Workshop World Engine) : WorkshopMove → Option (Workshop World Engine)
  | .create rows columns =>
    some (shop.withMade (Model.create shop.solver rows columns shop.world))
  | .read bytes verbosity name =>
    some (shop.withMade (Model.read shop.solver bytes verbosity name shop.world))
  | .ask model query => shop.onModel? model fun model => (model.ask query).2
  | .edit model edit => shop.onModel? model fun model => (model.edit edit).2
  | .configure model setting => shop.onModel? model fun model => (model.configure setting).2
  | .dispose model => shop.onModel? model fun model => model.dispose.2
  | .release model => shop.onModel? model (·.release)
  | .begin model =>
    (shop.begin? model).map fun
      | (.error _, shop) => shop
      | (.ok assignment, shop) => { shop with waiting := shop.waiting ++ [.begun model assignment] }
  | .attempt index => shop.attempt? index
  | .finish index => shop.finishWaiting? index
  | .openContext workers => some { shop with contexts := shop.contexts ++ [.ofSize workers] }
  | .submit context model callback => shop.submit? context model callback
  | .hand context => shop.onContext? context (·.hand?)
  | .pool context move => shop.onContext? context (·.poolMove? move)
  | .work context worker => shop.work? context worker
  | .deliver context => shop.deliver? context
  | .leave context => shop.onContext? context (·.leave?)

/-! ### Rows of steps -/

/-- **A row of steps**, if each can be made after the ones before it. -/
def run? (shop : Workshop World Engine) : List WorkshopMove → Option (Workshop World Engine)
  | [] => some shop
  | move :: moves => shop.move? move >>= fun next => next.run? moves

/-- A state that a row of steps leads to from a workshop with nothing in it. -/
def Reachable (shop : Workshop World Engine) : Prop :=
  ∃ (world : World) (moves : List WorkshopMove),
    run? { solver := shop.solver, world } moves = some shop

/-- **The solves that have begun and not been finished**: the model of each, and whether it has an
engine. -/
def solves (shop : Workshop World Engine) : List (Nat × Bool) :=
  shop.waiting.map (·.summary) ++ shop.contexts.flatMap fun owned => owned.errands.map (·.summary)

/-- The number of solves of a model that have begun and not been finished. -/
def solveCount (shop : Workshop World Engine) (number : Nat) : Nat :=
  shop.solves.countP fun solve => solve.1 == number

/-- The number of engines of a model that are out with its solves. -/
def engineCount (shop : Workshop World Engine) (number : Nat) : Nat :=
  shop.solves.countP fun solve => solve.1 == number && solve.2

end Workshop

end LinearProgram
