/-
**What becomes of the workers of a pool that is closed.**

The owner sets the flag and wakes all workers without the lock. Both may come between a worker's look
at the flag and its sleep, for a worker keeps the lock in between and nothing else; this worker then
misses the call and sleeps on, and the owner waits for it. Since it has the lock there is at most one
such worker, and since it has found the queue empty it leaves no job behind. All others come to the
end of their loop.

* `Worker.isDozing`, `Dozes`: the workers that sleep or are about to. `toil`: how much there is left to
  do. `moved_of_joining`: what a step does to both when all workers have been called.
* `atRest_of_joining`: where the workers stand when nobody can go on.
* **`dismissed_of_run`**: once all workers have been called, exactly those sleep that were about to fall
  asleep then, and the owner comes back exactly if there is none.
* `stranded_of_lateSteps`: a worker can sleep with nobody left to wake it.
-/

import LinearProgram.Proofs.Session.Pool

namespace LinearProgram

variable {Work : Type}

namespace Worker

variable {isUnlocked isClosed : Bool} {queue rest : List Work} {before after : Worker Work}

/-- **Whether a worker sleeps or is about to**, having found the flag not set. -/
def isDozing : Worker Work → Bool
  | drowsy | asleep => true
  | outside | inside | loaded _ | idle | leaving | working _ | gone => false

/-- How many steps a worker still makes once the flag is set, if the queue is empty. -/
def toil : Worker Work → Nat
  | gone => 0
  | leaving => 1
  | idle => 2
  | inside => 3
  | outside => 4
  | asleep | working _ => 5
  | drowsy | loaded _ => 6

namespace Turn

variable (turn : Turn isUnlocked isClosed queue before after rest)
include turn

/-- **Once the flag is set** no worker falls asleep but those that are about to. -/
theorem isDozing_eq (closed : isClosed = true) : after.isDozing = before.isDozing := by
  cases turn with
  | stay opened =>
    rw [opened] at closed
    cases closed
  | enter | take | look | release | leave | sleep | go | finish => rfl

/-- Every job costs four steps: to take it, to give the lock back, to do it, and to come back for the
lock. -/
theorem toil_lt (closed : isClosed = true) :
    after.toil + 4 * rest.length < before.toil + 4 * queue.length := by
  cases turn with
  | take some =>
    rw [some, List.length_cons, toil, toil]
    omega
  | stay opened =>
    rw [opened] at closed
    cases closed
  | enter | look | release | leave | sleep | go | finish => exact Nat.add_lt_add_right (Nat.lt_succ_self _) _

end Turn

end Worker

namespace WorkerPool

variable {pool next called last : WorkerPool Work} {move : PoolMove Work}
  {moves : List (PoolMove Work)}

/-! ### When all workers have been called -/

/-- The worker sleeps or is about to, having found the flag not set. -/
def Dozes (pool : WorkerPool Work) (index : Nat) : Prop :=
  ∃ worker, pool.workers[index]? = some worker ∧ worker.isDozing = true

/-- **How much there is left to do** for the workers and for the owner that waits for them. -/
def toil (pool : WorkerPool Work) : Nat :=
  (pool.workers.map (·.toil)).sum + 4 * pool.queue.length
    + match pool.owner with
      | .joining joined => pool.workers.length - joined
      | _ => pool.workers.length

theorem dozes_setWorker {index : Nat} {before : Worker Work} (after : Worker Work)
    (here : pool.workers[index]? = some before) (other : Nat) :
    (pool.setWorker index after).Dozes other
      ↔ if other = index then after.isDozing = true else pool.Dozes other := by
  have bound := (List.getElem?_eq_some_iff.mp here).1
  unfold Dozes setWorker
  dsimp only
  split
  next same =>
    rw [same, List.getElem?_set_self bound]
    exact ⟨fun ⟨worker, there, dozing⟩ => Option.some.inj there ▸ dozing,
      fun dozing => ⟨after, rfl, dozing⟩⟩
  next apart => rw [List.getElem?_set_ne (Ne.symm apart)]

theorem sum_toil_setWorker {index : Nat} {before : Worker Work} (after : Worker Work)
    (here : pool.workers[index]? = some before) :
    ((pool.setWorker index after).workers.map (·.toil)).sum + before.toil
      = (pool.workers.map (·.toil)).sum + after.toil := by
  rw [setWorker, List.map_set]
  exact sum_set (by rw [List.getElem?_map, here]; rfl) _

/-- What a step does when all workers have been called. -/
structure Wanes (pool : WorkerPool Work) (move : PoolMove Work) (next : WorkerPool Work) : Prop where
  joining : ∃ joined, next.owner = .joining joined
  /-- Nobody falls asleep but those that are about to, and whoever wakes up does not sleep again. -/
  dozes : ∀ index, next.Dozes index ↔ pool.Dozes index ∧ move ≠ .stir index
  toil_lt : next.toil < pool.toil

/-- **When all workers have been called** every step brings the pool nearer to its end. -/
theorem moved_of_joining {joined : Nat} (orderly : pool.Orderly)
    (joining : pool.owner = .joining joined) (moved : Moved pool move next) :
    Wanes pool move next := by
  have closed : pool.isClosed = true := by
    rw [orderly.closed, joining]
    rfl
  cases moved with
  | @worker _ _ after _ here turn =>
    refine ⟨⟨joined, joining⟩, fun other => ?_, ?_⟩
    · refine (dozes_setWorker _ here other).trans ?_
      rw [turn.isDozing_eq closed]
      split
      next same =>
        rw [same]
        exact ⟨fun dozing => ⟨⟨_, here, dozing⟩, nofun⟩,
          fun ⟨⟨_, there, dozing⟩, _⟩ => Option.some.inj (there.symm.trans here) ▸ dozing⟩
      next => exact (and_iff_left nofun).symm
    · have less := turn.toil_lt closed
      have sum := sum_toil_setWorker after here
      unfold toil
      dsimp only [setWorker] at sum ⊢
      rw [joining, List.length_set]
      dsimp only
      omega
  | stir here =>
    refine ⟨⟨joined, joining⟩, fun other => ?_, ?_⟩
    · refine (dozes_setWorker _ here other).trans ?_
      split
      next same =>
        rw [same]
        exact ⟨nofun, fun ⟨_, apart⟩ => absurd rfl apart⟩
      next apart =>
        refine (and_iff_left ?_).symm
        rintro ⟨⟩
        exact apart rfl
    · have sum := sum_toil_setWorker .outside here
      unfold toil
      dsimp only [setWorker, Worker.toil] at sum ⊢
      rw [joining, List.length_set]
      dsimp only
      omega
  | join joining' here =>
    obtain rfl : joined = _ := Owner.joining.inj (joining.symm.trans joining')
    refine ⟨⟨_, rfl⟩, fun other => (and_iff_left nofun).symm, ?_⟩
    have bound := (List.getElem?_eq_some_iff.mp here).1
    unfold toil
    rw [joining]
    dsimp only
    omega
  -- The owner has nothing left to do but to join.
  | submit _ free | close free => cases joining.symm.trans free
  | add adding => cases joining.symm.trans adding
  | release added => cases joining.symm.trans added
  | call calling | callNobody _ calling _ => cases joining.symm.trans calling
  | callAll closing => cases joining.symm.trans closing

/-- **A row of steps when all workers have been called.** -/
theorem run_of_joining {joined : Nat} (orderly : pool.Orderly)
    (joining : pool.owner = .joining joined) (ran : pool.run? moves = some last) :
    (∃ joined, last.owner = .joining joined)
      ∧ (∀ index, last.Dozes index ↔ pool.Dozes index ∧ .stir index ∉ moves)
      ∧ moves.length + last.toil ≤ pool.toil := by
  induction moves generalizing pool joined with
  | nil =>
    cases ran
    exact ⟨⟨joined, joining⟩, fun index => (and_iff_left List.not_mem_nil).symm,
      Nat.le_of_eq (Nat.zero_add _)⟩
  | cons move rest hyp =>
    obtain ⟨next, moved, ran⟩ := Option.bind_eq_some_iff.mp ran
    have moved := moved_of_move? moved
    have wanes := moved_of_joining orderly joining moved
    obtain ⟨joined, joining⟩ := wanes.joining
    obtain ⟨joining, dozes, bound⟩ := hyp (orderly.moved moved) joining ran
    refine ⟨joining, fun index => ?_, ?_⟩
    · rw [dozes, wanes.dozes, List.mem_cons, not_or, and_assoc, ne_comm]
    · have less := wanes.toil_lt
      rw [List.length_cons]
      omega

/-! ### When nobody can go on -/

theorem move?_join {joined : Nat} (joining : pool.owner = .joining joined)
    (here : pool.workers[joined]? = some .gone) :
    pool.move? .join = some { pool with owner := .joining (joined + 1) } := by
  unfold move?
  rw [joining]
  dsimp only
  rw [here]

/-- **When nobody can go on** every worker sleeps or is gone. -/
theorem atRest_of_joining {joined : Nat} (joining : pool.owner = .joining joined)
    (rest : pool.IsAtRest) {worker : Worker Work} (member : worker ∈ pool.workers) :
    worker = .asleep ∨ worker = .gone :=
  asleep_or_gone_of_stuck (by rw [joining]; rfl) (fun index => rest (.worker index) nofun) member

/-- When nobody can go on the queue is empty. -/
theorem queue_of_atRest {joined : Nat} (orderly : pool.Orderly)
    (joining : pool.owner = .joining joined) (rest : pool.IsAtRest) : pool.queue = [] := by
  obtain ⟨worker, member⟩ := List.exists_mem_of_ne_nil _ orderly.staffed
  refine orderly.empty worker member ?_
  rw [joining]
  rcases atRest_of_joining joining rest member with rfl | rfl <;> rfl

/-- **When nobody can go on** the owner has come back if nobody sleeps, and only then. -/
theorem hasJoined_iff_of_atRest {joined : Nat} (orderly : pool.Orderly)
    (joining : pool.owner = .joining joined) (rest : pool.IsAtRest) :
    pool.hasJoined = true ↔ ∀ index, ¬ pool.Dozes index := by
  obtain ⟨bound, gone⟩ := orderly.joined joined joining
  rw [hasJoined, joining, beq_iff_eq]
  constructor
  · rintro rfl index ⟨worker, here, dozing⟩
    obtain rfl : Worker.gone = worker :=
      Option.some.inj ((gone index (List.getElem?_eq_some_iff.mp here).1).symm.trans here)
    cases dozing
  · intro nobody
    refine Nat.le_antisymm bound (Nat.le_of_not_lt fun less => ?_)
    -- The worker that the owner waits for does not sleep, so it is gone and the owner can go on.
    have here := List.getElem?_eq_getElem less
    rcases atRest_of_joining joining rest (List.mem_of_getElem? here) with asleep | gone
    · exact nobody joined ⟨_, here, by rw [asleep]; rfl⟩
    · have none := rest .join nofun
      rw [move?_join joining (by rw [here, gone])] at none
      cases none

/-- **From every pool whose workers have been called** steps lead to one where nobody can go on. -/
theorem exists_rest {joined : Nat} (orderly : pool.Orderly)
    (joining : pool.owner = .joining joined) :
    ∃ later last, (∀ index, .stir index ∉ later) ∧ pool.run? later = some last
      ∧ last.IsAtRest := by
  induction load : pool.toil using Nat.strongRecOn generalizing pool joined with
  | ind load' hyp =>
    subst load
    by_cases rest : pool.IsAtRest
    · exact ⟨[], pool, fun _ => List.not_mem_nil, rfl, rest⟩
    · unfold IsAtRest at rest
      push Not at rest
      obtain ⟨move, own, moves⟩ := rest
      obtain ⟨next, moved⟩ := Option.ne_none_iff_exists'.mp moves
      have made := moved_of_move? moved
      have wanes := moved_of_joining orderly joining made
      obtain ⟨joined, joining⟩ := wanes.joining
      obtain ⟨later, last, quiet, ran, rest⟩ :=
        hyp next.toil wanes.toil_lt (orderly.moved made) joining rfl
      refine ⟨move :: later, last, fun index => ?_, ?_, rest⟩
      · exact List.not_mem_cons_of_ne_of_not_mem (own index).symm (quiet index)
      · rw [run?_cons, moved]
        exact ran

/-! ### The call -/

/-- Only a call to all workers makes the owner wait for them. -/
theorem called_of_joining {joined : Nat} (moved : Moved pool move next)
    (joining : next.owner = .joining joined) :
    pool.owner.hasCalled = true
      ∨ move = .callAll ∧ pool.owner = .closing := by
  cases moved with
  | worker | stir =>
    refine .inl ?_
    rw [show pool.owner = .joining joined from joining]
    rfl
  | callAll closing => exact .inr ⟨rfl, closing⟩
  | join joining' =>
    refine .inl ?_
    rw [joining']
    rfl
  | submit | add | release | call | callNobody | close => cases joining

/-- **The call to all workers** in a row of steps at whose end the owner waits for them. -/
theorem exists_callAll {joined : Nat} (start : pool.owner.hasCalled = false)
    (ran : pool.run? moves = some last) (joining : last.owner = .joining joined) :
    ∃ before called after, moves = before ++ .callAll :: after ∧ pool.run? before = some called
      ∧ called.owner = .closing ∧ called.run? (.callAll :: after) = some last := by
  induction moves generalizing pool with
  | nil =>
    cases ran
    rw [joining] at start
    cases start
  | cons move rest hyp =>
    obtain ⟨next, moved, later⟩ := Option.bind_eq_some_iff.mp ran
    cases called : next.owner.hasCalled with
    | false =>
      obtain ⟨before, closing, after, rfl, earlier, owner, later⟩ := hyp called later
      refine ⟨move :: before, closing, after, rfl, ?_, owner, later⟩
      rw [run?_cons, moved]
      exact earlier
    | true =>
      obtain ⟨joined, here⟩ : ∃ joined, next.owner = .joining joined := by
        cases owner : next.owner with
        | joining joined => exact ⟨joined, rfl⟩
        | free | adding | added | calling | closing =>
          rw [owner] at called
          cases called
      rcases called_of_joining (moved_of_move? moved) here with had | ⟨rfl, closing⟩
      · rw [start] at had
        cases had
      · exact ⟨[], pool, rest, rfl, rfl, closing, ran⟩

theorem move?_callAll (closing : called.owner = .closing) :
    called.move? .callAll
      = some { called with workers := called.workers.map (·.wake), owner := .joining 0 } := by
  unfold move?
  rw [closing]

/-- The call wakes all workers that sleep, and those that are about to fall asleep do not hear it. -/
theorem dozes_callAll (index : Nat) :
    ({ called with workers := called.workers.map (·.wake), owner := .joining 0 } :
      WorkerPool Work).Dozes index ↔ called.workers[index]? = some .drowsy := by
  unfold Dozes
  dsimp only
  rw [List.getElem?_map]
  constructor
  · rintro ⟨woken, there, dozing⟩
    obtain ⟨worker, here, rfl⟩ := Option.map_eq_some_iff.mp there
    cases worker with
    | drowsy => exact here
    | asleep | outside | inside | loaded | idle | leaving | working | gone => cases dozing
  · intro here
    exact ⟨.drowsy, by rw [here]; rfl, rfl⟩

theorem toil_callAll (closing : called.owner = .closing) :
    ({ called with workers := called.workers.map (·.wake), owner := .joining 0 } :
      WorkerPool Work).toil ≤ called.toil := by
  have less : ((called.workers.map (·.wake)).map (·.toil)).sum
      ≤ (called.workers.map (·.toil)).sum := by
    rw [List.map_map]
    refine List.sum_le_sum fun worker _ => ?_
    cases worker with
    | asleep => exact Nat.le_succ 4
    | drowsy | outside | inside | loaded | idle | leaving | working | gone => exact Nat.le_refl _
  unfold toil
  rw [closing]
  dsimp only
  rw [List.length_map]
  omega

/-! ### The end of a pool -/

/-- **What a pool comes to** by the steps `after` the call to all its workers. `called` is the pool that
the call was made in. -/
structure Dismissed (called : WorkerPool Work) (after : List (PoolMove Work))
    (pool : WorkerPool Work) : Prop where
  /-- Those sleep, or are about to, that were about to fall asleep when the call was made and did not
  wake up since. -/
  dozes : ∀ index, pool.Dozes index ↔ called.workers[index]? = some .drowsy ∧ .stir index ∉ after
  /-- There is at most one of them, -/
  single : ∀ first second, pool.Dozes first → pool.Dozes second → first = second
  /-- and it leaves no job behind. -/
  spare : ∀ index, pool.Dozes index → pool.queue = []
  /-- There is an end to the steps that can be made. -/
  bounded : after.length + pool.toil ≤ called.toil
  /-- It is reached if nobody wakes up uncalled, too. -/
  ends : ∃ later last, (∀ index, .stir index ∉ later) ∧ pool.run? later = some last
    ∧ last.IsAtRest
  /-- There all jobs have been taken, and all workers are gone but the one that missed the call. -/
  settled : pool.IsAtRest → pool.queue = []
    ∧ ∀ index worker, pool.workers[index]? = some worker →
      worker = .gone ∨ worker = .asleep ∧ pool.Dozes index
  /-- The owner has come back exactly if there was no such worker, or if it woke up by itself. -/
  returns : pool.IsAtRest → (pool.hasJoined = true ↔
    ∀ index, called.workers[index]? = some .drowsy → .stir index ∈ after)

/-- **Who sleeps when a pool is closed.** Whenever the flag has been set and all workers have been
called, exactly those workers sleep or are about to that were about to when the call was made and did
not wake up since; this is one worker at most. All others leave when the queue is empty, and the owner
comes back exactly if there is no such worker. -/
theorem dismissed_of_run {count joined : Nat} (ran : (ofSize count).run? moves = some pool)
    (joining : pool.owner = .joining joined) :
    ∃ before called after, moves = before ++ .callAll :: after
      ∧ (ofSize count).run? before = some called ∧ called.owner = .closing
      ∧ Dismissed called after pool := by
  obtain ⟨before, called, after, same, earlier, closing, later⟩ := exists_callAll rfl ran joining
  refine ⟨before, called, after, same, earlier, closing, ?_⟩
  have orderly := orderly_of_run (orderly_ofSize count) earlier
  have last := orderly_of_run (orderly_ofSize count) ran
  rw [run?_cons, move?_callAll closing] at later
  obtain ⟨joining', dozes, bound⟩ := run_of_joining (orderly.callAll closing) rfl later
  simp only [dozes_callAll] at dozes
  refine ⟨dozes, ?_, ?_, ?_, exists_rest last joining, ?_, ?_⟩
  · intro first second one two
    have one := orderly.exclusive _ _ (.worker ((dozes first).mp one).1 rfl)
      (.worker ((dozes second).mp two).1 rfl)
    exact Option.some.inj one
  · rintro index ⟨worker, here, dozing⟩
    refine last.empty worker (List.mem_of_getElem? here) ?_
    rw [joining]
    cases worker with
    | drowsy | asleep => rfl
    | outside | inside | loaded | idle | leaving | working | gone => cases dozing
  · exact bound.trans (toil_callAll closing)
  · intro rest
    refine ⟨queue_of_atRest last joining rest, fun index worker here => ?_⟩
    rcases atRest_of_joining joining rest (List.mem_of_getElem? here) with rfl | gone
    · exact .inr ⟨rfl, _, here, rfl⟩
    · exact .inl gone
  · intro rest
    rw [hasJoined_iff_of_atRest last joining rest]
    refine forall_congr' fun index => ?_
    rw [dozes, not_and, not_not]

/-- Two workers share a job. The second one finds the queue empty and the flag not set, and the owner
closes the pool before it sleeps. -/
def lateSteps : List (PoolMove Nat) :=
  [.submit 7, .add, .release, .call 0, .worker 0, .worker 0, .worker 0, .worker 1, .worker 1,
    .worker 1, .close, .callAll, .worker 1, .worker 0, .worker 0, .worker 0, .worker 0, .worker 0,
    .join]

/-- The first worker is gone, and the owner waits for the second one. -/
def latePool : WorkerPool Nat :=
  { workers := [.gone, .asleep], owner := .joining 1, isClosed := true }

theorem dismissed_of_lateSteps :
    (ofSize 2).run? lateSteps = some latePool ∧ latePool.owner = .joining 1
      ∧ ∃ before called after, lateSteps = before ++ .callAll :: after
        ∧ (ofSize 2).run? before = some called ∧ called.owner = .closing
        ∧ Dismissed called after latePool :=
  ⟨rfl, rfl, dismissed_of_run rfl rfl⟩

/-- **A worker can sleep with nobody left to wake it**: the owner has set the flag and woken all
workers, nobody can go on, and the owner has not come back. -/
theorem stranded_of_lateSteps :
    (ofSize 2).run? lateSteps = some latePool ∧ latePool.isStranded = true ∧ latePool.IsAtRest
      ∧ latePool.hasJoined = false := by
  refine ⟨rfl, rfl, fun move own => ?_, rfl⟩
  cases move with
  | worker index =>
    rcases index with - | - | index
    · rfl
    · rfl
    · rfl
  | stir index => exact absurd rfl (own index)
  | submit | add | release | call | close | callAll | join => rfl

end WorkerPool

end LinearProgram
