/-
**A pool gets on with its work.**

The owner of a pool wakes a worker whenever it has added work, so that work never lies in the queue
while all workers sleep. Nobody has to decide on the steps of workers, and on those of an owner that
has begun to add work or to close the pool. Only so many of them can be made, and when none is left
there is no work in the pool.

* `PoolMove.isDue`: the steps that nobody has to decide on.
* `Attended`: no work lies in the queue while all workers sleep. `attended_of_moved`: this stays so.
* `effort`: how much there is left to do. **`effort_lt`**: every step that is due makes it less.
* `owner_of_stuck`, **`works_of_stuck`**: what is true when no step is due.
-/

import LinearProgram.Proofs.Session.Closing
import LinearProgram.Proofs.Session.Works

namespace LinearProgram

variable {Work Other : Type}

/-- **Whether nobody has to decide on the step**: it neither brings work nor closes the pool, and no
worker wakes up uncalled. -/
def PoolMove.isDue : PoolMove Work → Bool
  | worker _ | add | release | call _ | callAll | join => true
  | stir _ | submit _ | close => false

theorem PoolMove.isDue_map (change : Work → Other) (move : PoolMove Work) :
    (move.map change).isDue = move.isDue := by
  cases move <;> rfl

namespace WorkerPool

variable {pool next : WorkerPool Work} {move : PoolMove Work}

/-! ### Work is attended to -/

/-- **No work lies in the queue while all workers sleep**, but for work that the owner has just added
and is going to wake a worker for. -/
def Attended (pool : WorkerPool Work) : Prop :=
  pool.queue ≠ [] →
    pool.owner = .added ∨ pool.owner = .calling ∨ ∃ worker ∈ pool.workers, worker ≠ .asleep

theorem attended_ofSize (count : Nat) : (ofSize count : WorkerPool Work).Attended :=
  fun some => absurd rfl some

/-- Work is attended to if a worker does not sleep. -/
theorem attended_of_mem {worker : Worker Work} (member : worker ∈ pool.workers)
    (awake : worker ≠ .asleep) : pool.Attended :=
  fun _ => .inr (.inr ⟨worker, member, awake⟩)

/-- Who attended to work still does when the owner was not going to wake anybody. -/
theorem Attended.congr (attended : pool.Attended) (queue : next.queue = pool.queue)
    (workers : next.workers = pool.workers) (added : pool.owner ≠ .added)
    (calling : pool.owner ≠ .calling) : next.Attended := by
  intro some
  rw [queue] at some
  rcases attended some with owner | owner | ⟨worker, member, awake⟩
  · exact absurd owner added
  · exact absurd owner calling
  · exact .inr (.inr ⟨worker, workers ▸ member, awake⟩)

theorem mem_setWorker {index : Nat} {before : Worker Work}
    (here : pool.workers[index]? = some before) (after : Worker Work) :
    after ∈ (pool.setWorker index after).workers :=
  List.mem_of_getElem? (List.getElem?_set_self (List.getElem?_eq_some_iff.mp here).1)

/-- **Work stays attended to.** A worker that falls asleep has found the queue empty, and has had the
lock since. -/
theorem attended_of_moved (orderly : pool.Orderly) (attended : pool.Attended)
    (moved : Moved pool move next) : next.Attended := by
  cases moved with
  | @worker index before after queue here turn =>
    have inside := mem_setWorker here after
    cases turn with
    | sleep =>
      have empty := orderly.empty .drowsy (List.mem_of_getElem? here) rfl
      exact fun some => absurd empty some
    | enter | take | look | release | stay | leave | go | finish =>
      exact attended_of_mem inside nofun
  | stir here => exact attended_of_mem (mem_setWorker here .outside) nofun
  | submit work free =>
    exact attended.congr rfl rfl (by rw [free]; nofun) (by rw [free]; nofun)
  | add => exact fun _ => .inl rfl
  | release => exact fun _ => .inr (.inl rfl)
  | call calling here =>
    have inside := mem_setWorker here (.outside : Worker Work)
    exact attended_of_mem inside nofun
  | callNobody index calling awake =>
    obtain ⟨worker, member⟩ := List.exists_mem_of_ne_nil _ orderly.staffed
    exact attended_of_mem member (awake worker member)
  | close free =>
    exact attended.congr rfl rfl (by rw [free]; nofun) (by rw [free]; nofun)
  | callAll closing =>
    obtain ⟨worker, member⟩ := List.exists_mem_of_ne_nil _ orderly.staffed
    exact attended_of_mem (List.mem_map_of_mem member) (by cases worker <;> nofun)
  | join joining =>
    exact attended.congr rfl rfl (by rw [joining]; nofun) (by rw [joining]; nofun)

end WorkerPool

/-! ### How much is left to do -/

/-- How many steps a worker makes before it sleeps or is gone, if it finds no work. -/
def Worker.effort : Worker Work → Nat
  | gone | asleep => 0
  | leaving | drowsy => 1
  | idle => 2
  | inside => 3
  | outside => 4
  | working _ => 5
  | loaded _ => 6

/-- How much an owner with so many workers still does and makes them do. -/
def Owner.effort (count : Nat) : Owner Work → Nat
  | free => 0
  | calling => 5
  | added => 6
  | adding _ => 11
  | closing => 5 * count + 1
  | joining joined => count - joined

theorem Worker.Turn.effort_lt {isUnlocked isClosed : Bool} {queue rest : List Work}
    {before after : Worker Work} (turn : Turn isUnlocked isClosed queue before after rest) :
    after.effort + 4 * rest.length < before.effort + 4 * queue.length := by
  cases turn with
  | take some =>
    rw [some, List.length_cons, effort, effort]
    omega
  | enter | look | release | stay | leave | sleep | go | finish =>
    exact Nat.add_lt_add_right (Nat.lt_succ_self _) _

theorem Worker.effort_wake_le (worker : Worker Work) : worker.wake.effort ≤ worker.effort + 4 := by
  cases worker with
  | asleep => exact Nat.le_refl 4
  | outside | inside | loaded | idle | drowsy | leaving | working | gone => exact Nat.le_add_right _ 4

namespace WorkerPool

variable {pool next : WorkerPool Work} {move : PoolMove Work}

/-- **How much there is left to do** in a pool. Work that waits makes a worker come back. -/
def effort (pool : WorkerPool Work) : Nat :=
  (pool.workers.map (·.effort)).sum + 4 * pool.queue.length + pool.owner.effort pool.workers.length

theorem sum_effort_setWorker {index : Nat} {before : Worker Work}
    (here : pool.workers[index]? = some before) (after : Worker Work) :
    ((pool.setWorker index after).workers.map (·.effort)).sum + before.effort
      = (pool.workers.map (·.effort)).sum + after.effort := by
  rw [setWorker, List.map_set]
  exact sum_set (by rw [List.getElem?_map, here]; rfl) _

theorem sum_effort_wake_le (workers : List (Worker Work)) :
    ((workers.map (·.wake)).map (·.effort)).sum
      ≤ (workers.map (·.effort)).sum + 4 * workers.length := by
  induction workers with
  | nil => exact Nat.le_refl 0
  | cons worker rest hyp =>
    have one := worker.effort_wake_le
    simp only [List.map_cons, List.sum_cons, List.length_cons]
    omega

/-- **Every step that is due** leaves less to do. -/
theorem effort_lt (moved : Moved pool move next) (due : move.isDue = true) :
    next.effort < pool.effort := by
  unfold effort
  cases moved with
  | @worker index before after queue here turn =>
    have sum := sum_effort_setWorker here after
    have less := turn.effort_lt
    dsimp only [setWorker] at sum ⊢
    rw [List.length_set]
    omega
  | add adding =>
    rw [adding]
    simp only [List.length_append, List.length_singleton, Owner.effort]
    omega
  | release added =>
    rw [added]
    simp only [Owner.effort]
    omega
  | call calling here =>
    have sum := sum_effort_setWorker here .outside
    dsimp only [setWorker, Worker.effort] at sum ⊢
    rw [calling, Owner.effort, Owner.effort]
    omega
  | callNobody index calling =>
    rw [calling]
    simp only [Owner.effort]
    omega
  | callAll closing =>
    have sum := sum_effort_wake_le pool.workers
    rw [closing]
    simp only [List.length_map, Owner.effort]
    omega
  | join joining here =>
    have inside := (List.getElem?_eq_some_iff.mp here).1
    rw [joining]
    simp only [Owner.effort]
    omega
  | stir | submit | close => cases due

theorem effort_submit {work : Work} (moved : Moved pool (.submit work) next) :
    next.effort = pool.effort + 11 := by
  cases moved with
  | submit work free =>
    simp only [effort, free, Owner.effort]

/-- Only the closing of a pool sets its flag. -/
theorem hasClosed_of_moved (moved : Moved pool move next) (other : move ≠ .close) :
    next.owner.hasClosed = pool.owner.hasClosed := by
  cases moved with
  | worker | stir => rfl
  | submit _ owner | add owner | release owner | call owner | callNobody _ owner | callAll owner
  | join owner =>
    rw [owner]
    rfl
  | close => exact absurd rfl other

/-! ### When no step is due -/

/-- An owner that has not finished what it began can always go on. -/
theorem owner_of_stuck (stuck : ∀ move : PoolMove Work, move.isDue = true → pool.move? move = none) :
    pool.owner = .free ∨ ∃ joined, pool.owner = .joining joined := by
  have add := stuck .add rfl
  have release := stuck .release rfl
  have callAll := stuck .callAll rfl
  cases owner : pool.owner with
  | free => exact .inl rfl
  | joining joined => exact .inr ⟨joined, rfl⟩
  | adding work => simp [move?, owner] at add
  | added => simp [move?, owner] at release
  | closing => simp [move?, owner] at callAll
  | calling =>
    -- The owner wakes a worker that sleeps, or goes on if there is none.
    by_cases sleeps : .asleep ∈ pool.workers
    · obtain ⟨index, here⟩ := List.getElem?_of_mem sleeps
      have call := stuck (.call index) rfl
      simp [move?, owner, here] at call
    · have call := stuck (.call pool.workers.length) rfl
      simp only [move?, owner, List.getElem?_eq_none (Nat.le_refl _), ite_eq_left_iff, reduceCtorEq,
        imp_false, not_not, List.any_eq_true] at call
      obtain ⟨worker, member, asleep⟩ := call
      cases worker with
      | asleep => exact absurd member sleeps
      | _ => cases asleep

/-- **When no step is due there is no work in the pool**, and every worker sleeps or is gone. -/
theorem works_of_stuck (orderly : pool.Orderly) (attended : pool.Attended)
    (stuck : ∀ move : PoolMove Work, move.isDue = true → pool.move? move = none) :
    pool.works = [] ∧ ∀ worker ∈ pool.workers, worker = .asleep ∨ worker = .gone := by
  have owner := owner_of_stuck stuck
  have unheld : pool.owner.hasLock = false ∧ pool.owner.hands = [] := by
    rcases owner with owner | ⟨joined, owner⟩ <;> rw [owner] <;> exact ⟨rfl, rfl⟩
  have still : ∀ worker ∈ pool.workers, worker = .asleep ∨ worker = .gone :=
    fun worker member => asleep_or_gone_of_stuck unheld.1 (fun index => stuck (.worker index) rfl) member
  have hands : pool.workers.flatMap (·.hands) = [] := by
    refine List.flatMap_eq_nil_iff.mpr fun worker member => ?_
    rcases still worker member with rfl | rfl <;> rfl
  have queue : pool.queue = [] := by
    by_contra some
    rcases owner with owner | ⟨joined, owner⟩
    · -- A worker that attends to it is gone, and so has found the queue empty.
      rcases attended some with added | calling | ⟨worker, member, awake⟩
      · cases owner.symm.trans added
      · cases owner.symm.trans calling
      · obtain rfl := (still worker member).resolve_left awake
        exact some (orderly.empty .gone member rfl)
    · obtain ⟨worker, member⟩ := List.exists_mem_of_ne_nil _ orderly.staffed
      refine some (orderly.empty worker member ?_)
      rw [owner]
      rcases still worker member with rfl | rfl <;> rfl
  refine ⟨?_, still⟩
  rw [works, hands, queue, unheld.2]
  rfl

/-- An owner that waits for its workers to leave has nothing to decide on. -/
theorem isAtRest_of_stuck {joined : Nat} (joining : pool.owner = .joining joined)
    (stuck : ∀ move : PoolMove Work, move.isDue = true → pool.move? move = none) :
    pool.IsAtRest := by
  intro move uncalled
  cases move with
  | stir index => exact absurd rfl (uncalled index)
  | submit | close =>
    unfold move?
    rw [joining]
  | worker | add | release | call | callAll | join => exact stuck _ rfl

end WorkerPool

end LinearProgram
