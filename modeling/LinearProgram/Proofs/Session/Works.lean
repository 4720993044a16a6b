/-
**Work is neither lost nor doubled on its way through a pool.**

* `Worker.Turn.kept`: a worker takes the next work from the queue, or puts down what it has.
* `length_workers_of_moved`: no worker is added or taken away.
* **`works_of_moved`**: what workers are done with and what is in the pool afterwards is what was in it
  and what was brought; with one worker in this order.
* `WorkerPool.map`: a pool with other work. **`move?_map`**: a pool does not look at its work.
-/

import LinearProgram.Proofs.Session.Pool
import LinearProgram.Session.OwnedContext

namespace LinearProgram

variable {Work Other : Type}

/-! ### What a step does to the work -/

/-- **A worker takes the next work**, or puts down what it has. -/
theorem Worker.Turn.kept {isUnlocked isClosed : Bool} {queue rest : List Work}
    {before after : Worker Work} (turn : Turn isUnlocked isClosed queue before after rest) :
    before.done ++ (after.hands ++ rest) = before.hands ++ queue := by
  cases turn with
  | take some => exact some.symm
  | enter | look | release | stay | leave | sleep | go | finish => rfl

/-- The work that a step brings. -/
def PoolMove.brought : PoolMove Work → List Work
  | submit work => [work]
  | worker _ | stir _ | add | release | call _ | close | callAll | join => []

/-- An item of a list with what is in front of it and behind it. -/
theorem exists_split {α : Type} {items : List α} {index : Nat} {item : α}
    (here : items[index]? = some item) : ∃ front back, items = front ++ item :: back
      ∧ ∀ other, items.set index other = front ++ other :: back := by
  obtain ⟨inside, rfl⟩ := List.getElem?_eq_some_iff.mp here
  refine ⟨items.take index, items.drop (index + 1), ?_, fun other => ?_⟩
  · rw [← List.drop_eq_getElem_cons, List.take_append_drop]
  · exact List.set_eq_take_append_cons_drop.trans (if_pos inside)

namespace WorkerPool

variable {pool next last : WorkerPool Work} {move : PoolMove Work} {moves : List (PoolMove Work)}

/-- The work in a pool and that of a worker. -/
theorem exists_works_split {index : Nat} {before : Worker Work}
    (here : pool.workers[index]? = some before) : ∃ front back,
      (pool.workers.length = 1 → front = [] ∧ back = [])
        ∧ pool.works = front ++ before.hands ++ back ++ pool.queue ++ pool.owner.hands
        ∧ ∀ (after : Worker Work) (queue : List Work),
          ({ pool.setWorker index after with queue } : WorkerPool Work).works
            = front ++ after.hands ++ back ++ queue ++ pool.owner.hands := by
  obtain ⟨front, back, all, changed⟩ := exists_split here
  refine ⟨front.flatMap (·.hands), back.flatMap (·.hands), fun single => ?_, ?_, fun after queue => ?_⟩
  · rw [all, List.length_append, List.length_cons] at single
    obtain rfl : front = [] := List.length_eq_zero_iff.mp (by omega)
    obtain rfl : back = [] := List.length_eq_zero_iff.mp (by omega)
    exact ⟨rfl, rfl⟩
  · simp [works, all]
  · simp [works, setWorker, changed]

theorem works_setWorker {index : Nat} {before : Worker Work}
    (here : pool.workers[index]? = some before) (after : Worker Work) (same : after.hands = before.hands) :
    (pool.setWorker index after).works = pool.works := by
  obtain ⟨front, back, -, works, changed⟩ := exists_works_split here
  rw [works, ← same]
  exact changed after pool.queue

theorem length_finished_le (pool : WorkerPool Work) (move : PoolMove Work) :
    (pool.finished move).length ≤ 1 := by
  cases move with
  | worker index =>
    rw [finished]
    rcases pool.workers[index]? with - | worker
    · exact Nat.zero_le 1
    · cases worker with
      | working => exact Nat.le_refl 1
      | outside | inside | loaded | idle | drowsy | leaving | asleep | gone => exact Nat.zero_le 1
  | stir | submit | add | release | call | close | callAll | join => exact Nat.zero_le 1

theorem setWorker_of_getElem? {index : Nat} {worker : Worker Work}
    (here : pool.workers[index]? = some worker) : pool.setWorker index worker = pool := by
  obtain ⟨inside, rfl⟩ := List.getElem?_eq_some_iff.mp here
  rw [setWorker, List.set_getElem_self]

/-- No worker is added or taken away. -/
theorem length_workers_of_moved (moved : Moved pool move next) :
    next.workers.length = pool.workers.length := by
  cases moved with
  | worker | stir | call => exact List.length_set
  | callAll => exact List.length_map _
  | submit | add | release | callNobody | close | join => rfl

/-- **What a step does to the work in a pool.** What the workers are done with and what is in the pool
afterwards is what was in it and what was brought. With one worker it stays in order. -/
theorem works_of_moved (moved : Moved pool move next) :
    (pool.finished move ++ next.works).Perm (pool.works ++ move.brought)
      ∧ (pool.workers.length = 1 → pool.finished move ++ next.works = pool.works ++ move.brought) := by
  -- But for a worker's own step the work stays where it is in the order.
  have same (kept : pool.finished move ++ next.works = pool.works ++ move.brought) :
      (pool.finished move ++ next.works).Perm (pool.works ++ move.brought)
        ∧ (pool.workers.length = 1 →
          pool.finished move ++ next.works = pool.works ++ move.brought) :=
    ⟨.of_eq kept, fun _ => kept⟩
  cases moved with
  | @worker index before after queue here turn =>
    obtain ⟨front, back, single, works, changed⟩ := exists_works_split here
    have done : pool.finished (.worker index) = before.done := by
      rw [finished, here, Option.map_some, Option.getD_some]
    rw [done, works, changed, PoolMove.brought, List.append_nil]
    refine ⟨?_, fun one => ?_⟩
    · have kept : (↑(before.done ++ (after.hands ++ queue)) : Multiset Work)
          = ↑(before.hands ++ pool.queue) := congrArg _ turn.kept
      rw [← Multiset.coe_eq_coe]
      simp only [← Multiset.coe_add] at kept ⊢
      calc (before.done : Multiset Work)
            + (front + after.hands + back + queue + pool.owner.hands)
          = before.done + (after.hands + queue) + (front + back + pool.owner.hands) := by abel
        _ = before.hands + pool.queue + (front + back + pool.owner.hands) := by rw [kept]
        _ = front + before.hands + back + pool.queue + pool.owner.hands := by abel
    · obtain ⟨rfl, rfl⟩ := single one
      simp only [List.nil_append, List.append_nil]
      rw [← List.append_assoc, turn.kept]
  | stir here =>
    refine same ?_
    rw [works_setWorker here .outside rfl]
    exact (List.append_nil _).symm
  | submit work free =>
    refine same ?_
    simp [finished, works, free, Owner.hands, PoolMove.brought]
  | add adding =>
    refine same ?_
    simp [finished, works, adding, Owner.hands, PoolMove.brought]
  | call calling here =>
    refine same ?_
    have woken := works_setWorker here .outside rfl
    simp only [works, calling] at woken
    simpa [finished, works, calling, Owner.hands, PoolMove.brought, setWorker] using woken
  | release owner | callNobody _ owner | close owner | join owner =>
    refine same ?_
    simp [finished, works, owner, Owner.hands, PoolMove.brought]
  | callAll closing =>
    refine same ?_
    have hands : (fun worker : Worker Work => worker.wake.hands) = (·.hands) := by
      funext worker
      cases worker <;> rfl
    simp [finished, works, closing, Owner.hands, PoolMove.brought, List.flatMap_map, hands]

end WorkerPool

/-! ### Pools with other work -/

/-- The worker with other work. -/
def Worker.map (change : Work → Other) : Worker Work → Worker Other
  | outside => outside
  | inside => inside
  | loaded work => loaded (change work)
  | idle => idle
  | drowsy => drowsy
  | leaving => leaving
  | asleep => asleep
  | working work => working (change work)
  | gone => gone

/-- The owner with other work. -/
def Owner.map (change : Work → Other) : Owner Work → Owner Other
  | free => free
  | adding work => adding (change work)
  | added => added
  | calling => calling
  | closing => closing
  | joining joined => joining joined

namespace WorkerPool

/-- **The pool with other work.** -/
def map (change : Work → Other) (pool : WorkerPool Work) : WorkerPool Other where
  workers := pool.workers.map (·.map change)
  owner := pool.owner.map change
  queue := pool.queue.map change
  isClosed := pool.isClosed

variable (change : Work → Other) (pool : WorkerPool Work)

theorem map_ofSize (count : Nat) : (ofSize count : WorkerPool Work).map change = ofSize count := by
  simp [map, ofSize, Worker.map, Owner.map]

theorem map_setWorker (index : Nat) (worker : Worker Work) :
    (pool.setWorker index worker).map change = (pool.map change).setWorker index (worker.map change) := by
  simp [map, setWorker, List.map_set]

theorem map_map {Third : Type} (further : Other → Third) :
    (pool.map change).map further = pool.map (further ∘ change) := by
  have workers : (fun worker : Worker Work => (worker.map change).map further)
      = (·.map (further ∘ change)) := by
    funext worker
    cases worker <;> rfl
  have owner : (pool.owner.map change).map further = pool.owner.map (further ∘ change) := by
    cases pool.owner <;> rfl
  simp [map, List.map_map, Function.comp_def, workers, owner]

theorem hasJoined_map : (pool.map change).hasJoined = pool.hasJoined := by
  unfold hasJoined map
  cases pool.owner with
  | joining joined => simp [Owner.map]
  | free | adding | added | calling | closing => rfl

theorem isUnlocked_map : (pool.map change).isUnlocked = pool.isUnlocked := by
  have owner : (pool.owner.map change).hasLock = pool.owner.hasLock := by
    cases pool.owner <;> rfl
  have workers : (fun worker : Worker Work => (worker.map change).hasLock) = (·.hasLock) := by
    funext worker
    cases worker <;> rfl
  simp [isUnlocked, map, owner, Function.comp_def, workers]

theorem getElem?_workers_map (index : Nat) :
    (pool.map change).workers[index]? = (pool.workers[index]?).map (·.map change) :=
  List.getElem?_map

theorem any_asleep_map : (pool.map change).workers.any (· matches .asleep)
    = pool.workers.any (· matches .asleep) := by
  simp only [map, List.any_map]
  congr 1
  funext worker
  cases worker <;> rfl

theorem finished_map (move : PoolMove Work) :
    (pool.map change).finished (move.map change) = (pool.finished move).map change := by
  cases move with
  | worker index =>
    unfold finished PoolMove.map
    dsimp only
    rw [getElem?_workers_map]
    cases pool.workers[index]? with
    | none => rfl
    | some worker => cases worker <;> rfl
  | stir | submit | add | release | call | close | callAll | join => rfl

theorem move?_map_worker (worker : Worker Work) (isUnlocked isClosed : Bool) (queue : List Work) :
    (worker.map change).move? isUnlocked isClosed (queue.map change)
      = (worker.move? isUnlocked isClosed queue).map fun turned =>
        (turned.1.map change, turned.2.map change) := by
  cases worker with
  | outside => cases isUnlocked <;> rfl
  | inside => cases queue <;> rfl
  | idle => cases isClosed <;> rfl
  | loaded | drowsy | leaving | asleep | working | gone => rfl

theorem move?_map_of_worker (index : Nat) :
    (pool.map change).move? (.worker index) = (pool.move? (.worker index)).map (·.map change) := by
  simp only [move?, getElem?_workers_map, isUnlocked_map]
  cases pool.workers[index]? with
  | none => rfl
  | some worker =>
    have turns := move?_map_worker change worker pool.isUnlocked pool.isClosed pool.queue
    simp only [Option.map_some, Option.bind_eq_bind, Option.bind_some]
    rw [show (pool.map change).queue = pool.queue.map change from rfl,
      show (pool.map change).isClosed = pool.isClosed from rfl, turns]
    cases worker.move? pool.isUnlocked pool.isClosed pool.queue with
    | none => rfl
    | some turned => simp [map, setWorker, List.map_set]

/-- Whom the owner calls does not depend on the work. -/
theorem move?_map_call (index : Nat) :
    (pool.map change).move? (.call index) = (pool.move? (.call index)).map (·.map change) := by
  have nobody : (if (pool.map change).workers.any (· matches .asleep) then none
      else some ({ pool.map change with owner := .free } : WorkerPool Other))
        = (if pool.workers.any (· matches .asleep) then none
            else some { pool with owner := .free }).map (·.map change) := by
    rw [any_asleep_map, apply_ite (Option.map _)]
    rfl
  have there := getElem?_workers_map change pool index
  obtain ⟨workers, owner, queue, isClosed⟩ := pool
  cases owner with
  | calling =>
    simp only [map] at there
    simp only [map, move?, Owner.map, there]
    rcases workers[index]? with - | worker
    · exact nobody
    · cases worker with
      | asleep => simp [Worker.map, setWorker, List.map_set]
      | outside | inside | loaded | idle | drowsy | leaving | working | gone => exact nobody
  | free | adding | added | closing | joining => rfl

theorem move?_map_callAll :
    (pool.map change).move? .callAll = (pool.move? .callAll).map (·.map change) := by
  have woken : (fun worker : Worker Work => (worker.map change).wake)
      = fun worker => worker.wake.map change := by
    funext worker
    cases worker <;> rfl
  obtain ⟨workers, owner, queue, isClosed⟩ := pool
  cases owner with
  | closing => simp [map, move?, Owner.map, Function.comp_def, woken]
  | free | adding | added | calling | joining => rfl

theorem move?_map_join :
    (pool.map change).move? .join = (pool.move? .join).map (·.map change) := by
  have there (joined : Nat) := getElem?_workers_map change pool joined
  obtain ⟨workers, owner, queue, isClosed⟩ := pool
  cases owner with
  | joining joined =>
    simp only [map] at there
    simp only [map, move?, Owner.map, there]
    rcases workers[joined]? with - | worker
    · rfl
    · cases worker <;> rfl
  | free | adding | added | calling | closing => rfl

/-- **A pool does not look at its work.** -/
theorem move?_map (move : PoolMove Work) :
    (pool.map change).move? (move.map change) = (pool.move? move).map (·.map change) := by
  cases move with
  | worker index => exact move?_map_of_worker change pool index
  | stir index =>
    simp only [PoolMove.map, move?, getElem?_workers_map]
    cases pool.workers[index]? with
    | none => rfl
    | some worker => cases worker <;> simp [Worker.map, map_setWorker]
  | submit work =>
    have unlocked := isUnlocked_map change pool
    obtain ⟨workers, owner, queue, isClosed⟩ := pool
    cases owner with
    | free =>
      change (if _ then some _ else none) = Option.map _ (if _ then some _ else none)
      rw [unlocked]
      split <;> rfl
    | adding | added | calling | closing | joining => rfl
  | add =>
    obtain ⟨workers, owner, queue, isClosed⟩ := pool
    cases owner with
    | adding work => simp [PoolMove.map, map, move?, Owner.map]
    | free | added | calling | closing | joining => rfl
  | call index => exact move?_map_call change pool index
  | callAll => exact move?_map_callAll change pool
  | join => exact move?_map_join change pool
  | release | close =>
    obtain ⟨workers, owner, queue, isClosed⟩ := pool
    cases owner <;> rfl

end WorkerPool

end LinearProgram
