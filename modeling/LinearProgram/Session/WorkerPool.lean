/-
**How workers wait for work and how they are sent home.**

The owner of a pool and its workers share a queue behind a lock, a flag that says that no more work
will come, and a condition variable on which workers sleep while there is nothing to do. A worker
takes the lock, takes a job if there is one, and otherwise looks at the flag: it leaves if the flag
is set, and goes to sleep if not. Going to sleep gives the lock back in the same step. The owner
takes the lock to add a job, gives it back, and wakes one worker afterwards; to close the pool it
sets the flag and wakes all workers, without the lock, and then waits for the workers to leave, one
after the other.

Everybody moves one atomic step at a time, in any order. Taking the lock, giving it back, and what
is done in between are different steps. Jobs come to an end.

* `Worker`, `Owner`: where the parties stand between two steps.
* `Worker.move?`: one step of a worker that is awake, if it can make it.
* `WorkerPool.move?`: one step of one party, if that party can make it.
* `WorkerPool.finished`: the work that a worker is done with in a step.
* `WorkerPool.run?`: a row of steps. `WorkerPool.Reachable`: the states that rows of steps lead to.
* `WorkerPool.isStranded`: a worker sleeps and nobody is going to wake it.
-/

namespace LinearProgram

/-- Where a worker stands in its loop. -/
inductive Worker (Work : Type) where
  /-- About to take the lock. -/
  | outside
  /-- Has the lock, about to look at the queue. -/
  | inside
  /-- Has the lock and a job, about to give the lock back. -/
  | loaded (work : Work)
  /-- Has the lock and found the queue empty, about to look at the flag. -/
  | idle
  /-- Has the lock and found the flag not set, about to give the lock back and fall asleep. -/
  | drowsy
  /-- Has the lock and found the flag set, about to give the lock back and go. -/
  | leaving
  | asleep
  | working (work : Work)
  | gone
  deriving DecidableEq, Repr

/-- Where the owner of the pool stands. -/
inductive Owner (Work : Type) where
  | free
  /-- Has the lock, about to add a job. -/
  | adding (work : Work)
  /-- Has the lock and has added a job, about to give the lock back. -/
  | added
  /-- About to wake one worker. -/
  | calling
  /-- Has set the flag, about to wake all workers. -/
  | closing
  /-- Waits for the workers to leave. The first `joined` of them have left. -/
  | joining (joined : Nat)
  deriving DecidableEq, Repr

/-- A pool of workers with its queue. -/
structure WorkerPool (Work : Type) where
  workers : List (Worker Work)
  owner : Owner Work := .free
  queue : List Work := []
  /-- Whether no more work will come. -/
  isClosed : Bool := false
  deriving DecidableEq, Repr

namespace Worker

variable {Work : Type}

/-- Whether a worker has the lock. -/
def hasLock : Worker Work → Bool
  | inside | loaded _ | idle | drowsy | leaving => true
  | outside | asleep | working _ | gone => false

/-- Wakes a worker that sleeps. -/
def wake : Worker Work → Worker Work
  | asleep => outside
  | other => other

/-- The work that a worker is done with when it makes its next step. -/
def done : Worker Work → List Work
  | working work => [work]
  | outside | inside | loaded _ | idle | drowsy | leaving | asleep | gone => []

/-- **The next step of a worker that is awake**, with the queue before and after it. Taking the lock
has to wait until nobody has it. -/
def move? (isUnlocked isClosed : Bool) (queue : List Work) :
    Worker Work → Option (Worker Work × List Work)
  | outside => if isUnlocked then some (inside, queue) else none
  | inside =>
    match queue with
    | [] => some (idle, [])
    | work :: queue => some (loaded work, queue)
  | loaded work => some (working work, queue)
  | idle => some (if isClosed then leaving else drowsy, queue)
  | drowsy => some (asleep, queue)
  | leaving => some (gone, queue)
  | working _ => some (outside, queue)
  | asleep | gone => none

end Worker

/-- Whether the owner has the lock. -/
def Owner.hasLock {Work : Type} : Owner Work → Bool
  | adding _ | added => true
  | free | calling | closing | joining _ => false

/-- A step of one party. -/
inductive PoolMove (Work : Type) where
  /-- The next step of a worker that is awake. -/
  | worker (index : Nat)
  /-- A worker wakes up though nobody called it. -/
  | stir (index : Nat)
  /-- The owner takes the lock to add a job. -/
  | submit (work : Work)
  /-- The owner adds the job. -/
  | add
  /-- The owner gives the lock back. -/
  | release
  /-- The owner wakes a worker, if one sleeps. -/
  | call (index : Nat)
  /-- The owner sets the flag. -/
  | close
  /-- The owner wakes all workers. -/
  | callAll
  /-- The owner sees that the worker that it waits for has left. -/
  | join
  deriving DecidableEq, Repr

/-- The step with other work. -/
def PoolMove.map {Work Other : Type} (change : Work → Other) : PoolMove Work → PoolMove Other
  | worker index => worker index
  | stir index => stir index
  | submit work => submit (change work)
  | add => add
  | release => release
  | call index => call index
  | close => close
  | callAll => callAll
  | join => join

namespace WorkerPool

variable {Work : Type}

/-- A pool with its workers at the start of their loop; there is at least one. -/
def ofSize (count : Nat) : WorkerPool Work :=
  { workers := List.replicate (max 1 count) .outside }

/-- Whether nobody has the lock. -/
def isUnlocked (pool : WorkerPool Work) : Bool :=
  !pool.owner.hasLock && !pool.workers.any (·.hasLock)

/-- The pool after a worker has moved. -/
def setWorker (pool : WorkerPool Work) (index : Nat) (worker : Worker Work) : WorkerPool Work :=
  { pool with workers := pool.workers.set index worker }

/-- **One step of one party**, if that party can make it. -/
def move? (pool : WorkerPool Work) (move : PoolMove Work) : Option (WorkerPool Work) :=
  match move, pool.owner with
  | .worker index, _ => do
    let worker ← pool.workers[index]?
    let (worker, queue) ← worker.move? pool.isUnlocked pool.isClosed pool.queue
    return { pool.setWorker index worker with queue }
  | .stir index, _ =>
    match pool.workers[index]? with
    | some .asleep => some (pool.setWorker index .outside)
    | _ => none
  | .submit work, .free =>
    if pool.isUnlocked then some { pool with owner := .adding work } else none
  | .add, .adding work => some { pool with queue := pool.queue ++ [work], owner := .added }
  | .release, .added => some { pool with owner := .calling }
  | .call index, .calling =>
    match pool.workers[index]? with
    | some .asleep => some { pool.setWorker index .outside with owner := .free }
    | _ =>
      if pool.workers.any (· matches .asleep) then none else some { pool with owner := .free }
  | .close, .free => some { pool with isClosed := true, owner := .closing }
  | .callAll, .closing =>
    some { pool with workers := pool.workers.map (·.wake), owner := .joining 0 }
  | .join, .joining joined =>
    match pool.workers[joined]? with
    | some .gone => some { pool with owner := .joining (joined + 1) }
    | _ => none
  | _, _ => none

/-- The work that a worker is done with in the step. -/
def finished (pool : WorkerPool Work) : PoolMove Work → List Work
  | .worker index => ((pool.workers[index]?).map (·.done)).getD []
  | _ => []

/-- **A row of steps**, if each can be made after the ones before it. -/
def run? (pool : WorkerPool Work) : List (PoolMove Work) → Option (WorkerPool Work)
  | [] => some pool
  | move :: moves => pool.move? move >>= fun next => next.run? moves

/-- A state that a row of steps leads to from a new pool. -/
def Reachable (pool : WorkerPool Work) : Prop :=
  ∃ count moves, (ofSize count).run? moves = some pool

/-- **Whether a worker is stranded**: it sleeps, and the owner has woken all workers and only waits
for them to leave. -/
def isStranded (pool : WorkerPool Work) : Bool :=
  pool.owner matches .joining _ && pool.workers.any (· matches .asleep)

/-- Whether the owner has seen all workers leave and need not wait any longer. -/
def hasJoined (pool : WorkerPool Work) : Bool :=
  match pool.owner with
  | .joining joined => joined == pool.workers.length
  | _ => false

/-- **Nobody can go on**: the only step that is left is that a worker wakes up though nobody called
it. -/
def IsAtRest (pool : WorkerPool Work) : Prop :=
  ∀ move, (∀ index, move ≠ .stir index) → pool.move? move = none

end WorkerPool

end LinearProgram
