/-
**A context whose workers share a pool.**

The owner of a context gives a solve its ticket, notes its callback, and brings the solve to the
pool. The worker that takes it runs its engine, and puts the result on the channel when it is done.
The owner takes results from the channel while it has nothing else to do. To give the context up it
closes the pool, waits until all workers have left, and then takes what is still on the channel.

* `Errand`: what a worker has in hands. `OwnedContext.errands`: all that is on its way through the
  context, from the hands of the owner to the end of the channel.
* `OwnedContext.submit`, `hand?`, `poolMove?`, `job?`, `setErrand`, `receive?`, `leave?`: the steps
  of a context.
-/

import LinearProgram.Session.Context
import LinearProgram.Session.WorkerPool

namespace LinearProgram

/-- What came of a solve that was handed to a context. -/
structure Report (Engine : Type) where
  ticket : Nat
  model : Nat
  attempt : Attempt Engine

/-- **What a worker has in hands**: a solve whose engine has not run, or its result. -/
inductive Errand (Engine : Type) where
  | job (job : Job Engine)
  | report (report : Report Engine)

namespace Errand

variable {Engine : Type}

def ticket : Errand Engine → Nat
  | job solve => solve.ticket
  | report result => result.ticket

/-- The model of the solve, and whether the solve has an engine. -/
def summary : Errand Engine → Nat × Bool
  | job solve => (solve.model, true)
  | report result => (result.model, result.attempt.engine.isSome)

/-- Whether the engine has not run. -/
def isJob : Errand Engine → Bool
  | job _ => true
  | report _ => false

def report? : Errand Engine → Option (Report Engine)
  | job _ => none
  | report result => some result

end Errand

/-! ### Work in a pool -/

/-- What a worker has in hands. -/
def Worker.hands {Work : Type} : Worker Work → List Work
  | loaded work | working work => [work]
  | outside | inside | idle | drowsy | leaving | asleep | gone => []

/-- What the owner is about to add. -/
def Owner.hands {Work : Type} : Owner Work → List Work
  | adding work => [work]
  | free | added | calling | closing | joining _ => []

/-- **All work in a pool**, what was brought first in front. -/
def WorkerPool.works {Work : Type} (pool : WorkerPool Work) : List Work :=
  pool.workers.flatMap (·.hands) ++ pool.queue ++ pool.owner.hands

/-! ### Contexts -/

/-- A context with its owner and its pool of workers. -/
structure OwnedContext (Engine : Type) where
  pool : WorkerPool (Errand Engine)
  nextTicket : Nat := 0
  /-- The callbacks that have not been called, the oldest ticket first. -/
  callbacks : List Registration := []
  /-- The solve that the owner is about to bring to the pool. -/
  handing : Option (Job Engine) := none
  /-- The results that nobody has taken, the oldest first. -/
  channel : List (Report Engine) := []
  isGone : Bool := false

namespace OwnedContext

variable {Engine : Type}

/-- A new context; it has at least one worker. -/
def ofSize (workers : Nat) : OwnedContext Engine :=
  { pool := .ofSize workers }

/-- The number of solves whose callback has not been called. -/
def pending (owned : OwnedContext Engine) : Nat :=
  owned.callbacks.length

/-- **All that is under way**, what was handed over first in front. -/
def errands (owned : OwnedContext Engine) : List (Errand Engine) :=
  owned.channel.map .report ++ owned.pool.works ++ owned.handing.toList.map .job

/-- Whether the owner has nothing to do for the pool, and has not given the context up. -/
def isFree (owned : OwnedContext Engine) : Bool :=
  owned.handing.isNone && (owned.pool.owner matches .free)

/-- Whether the owner can take results: if it is free, and once all workers have left. -/
def takesResults (owned : OwnedContext Engine) : Bool :=
  owned.isFree || owned.pool.hasJoined

/-- **A solve gets the next ticket**, with its callback, and the owner is about to bring it to the
pool. -/
def submit (owned : OwnedContext Engine) (model : Nat) (assignment : Assignment Engine)
    (callback : Callback) : OwnedContext Engine :=
  { owned with
    nextTicket := owned.nextTicket + 1
    callbacks := owned.callbacks ++ [⟨owned.nextTicket, model, callback⟩]
    handing := some ⟨owned.nextTicket, model, assignment⟩ }

/-- The owner takes the lock of the pool to add the solve. -/
def hand? (owned : OwnedContext Engine) : Option (OwnedContext Engine) :=
  owned.handing.bind fun job =>
    (owned.pool.move? (.submit (.job job))).map fun pool => { owned with pool, handing := none }

/-- Whether a step of the pool can be made for all that the solves have to do with it. A worker is
done with a solve only after its engine has run, and the owner gives the context up only when it
holds no solve. -/
def allows (owned : OwnedContext Engine) (move : PoolMove (Errand Engine)) : Bool :=
  (owned.pool.finished move).all (!·.isJob)
    && (!(move matches .close) || owned.handing.isNone)

/-- **A step of the pool** that brings no work. The result of a worker that is done goes to the
channel. -/
def poolMove? (owned : OwnedContext Engine) (move : PoolMove Empty) :
    Option (OwnedContext Engine) :=
  let move := move.map Empty.elim
  if owned.allows move then
    (owned.pool.move? move).map fun pool =>
      { owned with pool, channel := owned.channel ++ (owned.pool.finished move).filterMap (·.report?) }
  else none

/-- The solve that a worker has in hands, outside the lock. -/
def job? (owned : OwnedContext Engine) (index : Nat) : Option (Job Engine) :=
  match owned.pool.workers[index]? with
  | some (.working (.job job)) => some job
  | _ => none

/-- The worker has something else in hands. -/
def setErrand (owned : OwnedContext Engine) (index : Nat) (errand : Errand Engine) :
    OwnedContext Engine :=
  { owned with pool := owned.pool.setWorker index (.working errand) }

/-- **The next result on the channel**, with its callback. -/
def receive? (owned : OwnedContext Engine) :
    Option (Report Engine × Option Callback × OwnedContext Engine) :=
  if owned.takesResults then
    match owned.channel with
    | [] => none
    | report :: channel =>
      let (callback, callbacks) := Context.takeCallback report.ticket owned.callbacks
      some (report, callback, { owned with channel, callbacks })
  else none

/-- **The context goes** when all workers have left and the channel is empty. -/
def leave? (owned : OwnedContext Engine) : Option (OwnedContext Engine) :=
  if owned.pool.hasJoined && owned.channel.isEmpty then some { owned with isGone := true } else none

end OwnedContext

end LinearProgram
