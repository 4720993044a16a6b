/-
**What the steps of a pool do.**

* `Worker.Turn`, `Moved`: all that a step can do. `turn_of_move?`, `moved_of_move?`: there is nothing
  else.
* `Holds`: a party has the lock. `asleep_or_gone_of_stuck`: where the workers stand when none can go on.
* `Orderly`: what holds of every pool. `Orderly.moved`: every step keeps it. `orderly_of_run`: so does
  every row of steps.
-/

import Mathlib
import LinearProgram.Session.WorkerPool

namespace LinearProgram

variable {Work : Type}

/-! ### The steps of a worker -/

namespace Worker

variable {isUnlocked isClosed : Bool} {queue rest : List Work} {before after : Worker Work}

/-- **All that a worker's own step can do**, with the queue before and after it. -/
inductive Turn (isUnlocked isClosed : Bool) (queue : List Work) :
    Worker Work → Worker Work → List Work → Prop
  | enter (unlocked : isUnlocked = true) : Turn isUnlocked isClosed queue .outside .inside queue
  | take {work : Work} {rest : List Work} (some : queue = work :: rest) :
    Turn isUnlocked isClosed queue .inside (.loaded work) rest
  | look (none : queue = []) : Turn isUnlocked isClosed queue .inside .idle queue
  | release (work : Work) : Turn isUnlocked isClosed queue (.loaded work) (.working work) queue
  | stay (opened : isClosed = false) : Turn isUnlocked isClosed queue .idle .drowsy queue
  | leave (closed : isClosed = true) : Turn isUnlocked isClosed queue .idle .leaving queue
  | sleep : Turn isUnlocked isClosed queue .drowsy .asleep queue
  | go : Turn isUnlocked isClosed queue .leaving .gone queue
  | finish (work : Work) : Turn isUnlocked isClosed queue (.working work) .outside queue

theorem turn_of_move? (moved : before.move? isUnlocked isClosed queue = some (after, rest)) :
    Turn isUnlocked isClosed queue before after rest := by
  cases before with
  | outside =>
    rw [move?, Option.ite_none_right_eq_some] at moved
    obtain ⟨unlocked, same⟩ := moved
    cases same
    exact .enter unlocked
  | inside =>
    cases queue with
    | nil =>
      cases moved
      exact .look rfl
    | cons work others =>
      cases moved
      exact .take rfl
  | loaded work =>
    cases moved
    exact .release work
  | idle =>
    cases isClosed with
    | false =>
      cases moved
      exact .stay rfl
    | true =>
      cases moved
      exact .leave rfl
  | drowsy =>
    cases moved
    exact .sleep
  | leaving =>
    cases moved
    exact .go
  | working work =>
    cases moved
    exact .finish work
  | asleep => cases moved
  | gone => cases moved

/-- A worker cannot go on if it sleeps or is gone, or waits for the lock. -/
theorem of_move?_eq_none (stuck : before.move? isUnlocked isClosed queue = none) :
    before = .asleep ∨ before = .gone ∨ before = .outside ∧ isUnlocked = false := by
  cases before with
  | outside =>
    rw [move?, ite_eq_right_iff] at stuck
    exact .inr (.inr ⟨rfl, Bool.eq_false_iff.mpr fun unlocked => nomatch stuck unlocked⟩)
  | inside => cases queue <;> cases stuck
  | asleep => exact .inl rfl
  | gone => exact .inr (.inl rfl)
  | loaded | idle | drowsy | leaving | working => cases stuck

/-- **Whether a worker has found the queue empty**, and nothing can have been added since. A worker that
sleeps has found it empty too, but only when no more work comes is it still so. -/
def hasFoundNone (isCalled : Bool) : Worker Work → Bool
  | idle | drowsy | leaving | gone => true
  | asleep => isCalled
  | outside | inside | loaded _ | working _ => false

/-- Whether a worker has found the flag set. -/
def isOff : Worker Work → Bool
  | leaving | gone => true
  | outside | inside | loaded _ | idle | drowsy | asleep | working _ => false

namespace Turn

variable (turn : Turn isUnlocked isClosed queue before after rest)
include turn

theorem hasLock_of_hasLock (has : after.hasLock = true) :
    before.hasLock = true ∨ isUnlocked = true := by
  cases turn with
  | enter unlocked => exact .inr unlocked
  | take | look | stay | leave => exact .inl rfl
  | release | sleep | go | finish => cases has

theorem rest_eq (none : queue = []) : rest = [] := by
  cases turn with
  | take some =>
    rw [none] at some
    cases some
  | enter | look | release | stay | leave | sleep | go | finish => exact none

theorem hasFoundNone {isCalled : Bool} (found : after.hasFoundNone isCalled = true) :
    before.hasFoundNone isCalled = true ∨ rest = [] := by
  cases turn with
  | look none => exact .inr none
  | stay | leave | sleep | go => exact .inl rfl
  | enter | take | release | finish => cases found

theorem isClosed_of_isOff (off : after.isOff = true) : before.isOff = true ∨ isClosed = true := by
  cases turn with
  | leave closed => exact .inr closed
  | go => exact .inl rfl
  | enter | take | look | release | stay | sleep | finish => cases off

end Turn

end Worker

namespace Owner

/-- Whether the owner has set the flag. -/
def hasClosed : Owner Work → Bool
  | closing | joining _ => true
  | free | adding _ | added | calling => false

/-- Whether the owner has woken all workers. -/
def hasCalled : Owner Work → Bool
  | joining _ => true
  | free | adding _ | added | calling | closing => false

end Owner

/-! ### The steps of a pool -/

namespace WorkerPool

variable {pool next called last : WorkerPool Work} {move : PoolMove Work}
  {moves : List (PoolMove Work)}

/-- **All that a step can do.** -/
inductive Moved (pool : WorkerPool Work) : PoolMove Work → WorkerPool Work → Prop
  | worker {index : Nat} {before after : Worker Work} {queue : List Work}
    (here : pool.workers[index]? = some before)
    (turn : Worker.Turn pool.isUnlocked pool.isClosed pool.queue before after queue) :
    Moved pool (.worker index) { pool.setWorker index after with queue }
  | stir {index : Nat} (here : pool.workers[index]? = some .asleep) :
    Moved pool (.stir index) (pool.setWorker index .outside)
  | submit (work : Work) (free : pool.owner = .free) (unlocked : pool.isUnlocked = true) :
    Moved pool (.submit work) { pool with owner := .adding work }
  | add {work : Work} (adding : pool.owner = .adding work) :
    Moved pool .add { pool with queue := pool.queue ++ [work], owner := .added }
  | release (added : pool.owner = .added) : Moved pool .release { pool with owner := .calling }
  | call {index : Nat} (calling : pool.owner = .calling)
    (here : pool.workers[index]? = some .asleep) :
    Moved pool (.call index) { pool.setWorker index .outside with owner := .free }
  | callNobody (index : Nat) (calling : pool.owner = .calling)
    (awake : ∀ worker ∈ pool.workers, worker ≠ .asleep) :
    Moved pool (.call index) { pool with owner := .free }
  | close (free : pool.owner = .free) :
    Moved pool .close { pool with isClosed := true, owner := .closing }
  | callAll (closing : pool.owner = .closing) :
    Moved pool .callAll { pool with workers := pool.workers.map (·.wake), owner := .joining 0 }
  | join {joined : Nat} (joining : pool.owner = .joining joined)
    (here : pool.workers[joined]? = some .gone) :
    Moved pool .join { pool with owner := .joining (joined + 1) }

theorem moved_of_move? (moved : pool.move? move = some next) : Moved pool move next := by
  unfold move? at moved
  split at moved
  next index =>
    obtain ⟨before, here, moved⟩ := Option.bind_eq_some_iff.mp moved
    obtain ⟨⟨after, queue⟩, turned, same⟩ := Option.bind_eq_some_iff.mp moved
    cases same
    exact .worker here (Worker.turn_of_move? turned)
  next =>
    split at moved
    next here =>
      cases moved
      exact .stir here
    next => cases moved
  next free =>
    rw [Option.ite_none_right_eq_some] at moved
    obtain ⟨unlocked, same⟩ := moved
    cases same
    exact .submit _ free unlocked
  next adding =>
    cases moved
    exact .add adding
  next added =>
    cases moved
    exact .release added
  next calling =>
    split at moved
    next here =>
      cases moved
      exact .call calling here
    next =>
      rw [Option.ite_none_left_eq_some, Bool.not_eq_true, List.any_eq_false] at moved
      obtain ⟨awake, same⟩ := moved
      cases same
      exact .callNobody _ calling fun worker member asleep => awake worker member (by rw [asleep])
  next free =>
    cases moved
    exact .close free
  next closing =>
    cases moved
    exact .callAll closing
  next joining =>
    split at moved
    next here =>
      cases moved
      exact .join joining here
    next => cases moved
  next => cases moved

/-! ### What holds of every pool -/

/-- **A party has the lock**: the owner, or the worker with the index. -/
inductive Holds (pool : WorkerPool Work) : Option Nat → Prop
  | owner (has : pool.owner.hasLock = true) : Holds pool none
  | worker {index : Nat} {worker : Worker Work} (here : pool.workers[index]? = some worker)
    (has : worker.hasLock = true) : Holds pool (some index)

theorem not_holds_of_isUnlocked (unlocked : pool.isUnlocked = true) (party : Option Nat) :
    ¬ pool.Holds party := by
  rw [isUnlocked, Bool.and_eq_true, Bool.not_eq_true', Bool.not_eq_true', List.any_eq_false]
    at unlocked
  rintro (has | ⟨here, has⟩)
  · rw [unlocked.1] at has
    cases has
  · exact unlocked.2 _ (List.mem_of_getElem? here) has

theorem isUnlocked_of_not_holds (nobody : ∀ party, ¬ pool.Holds party) :
    pool.isUnlocked = true := by
  rw [isUnlocked, Bool.and_eq_true, Bool.not_eq_true', Bool.not_eq_true', List.any_eq_false]
  refine ⟨Bool.eq_false_iff.mpr fun has => nobody none (.owner has), fun worker member has => ?_⟩
  obtain ⟨index, here⟩ := List.getElem?_of_mem member
  exact nobody (some index) (.worker here has)

theorem move?_worker {index : Nat} {worker after : Worker Work} {queue : List Work}
    (here : pool.workers[index]? = some worker)
    (turned : worker.move? pool.isUnlocked pool.isClosed pool.queue = some (after, queue)) :
    pool.move? (.worker index) = some { pool.setWorker index after with queue } := by
  unfold move?
  simp only [here, turned, Option.bind_eq_bind, Option.bind_some, Option.pure_def]

/-- **When no worker can go on** and the owner does not have the lock, every worker sleeps or is
gone. -/
theorem asleep_or_gone_of_stuck (unheld : pool.owner.hasLock = false)
    (stuck : ∀ index, pool.move? (.worker index) = none) {worker : Worker Work}
    (member : worker ∈ pool.workers) : worker = .asleep ∨ worker = .gone := by
  have stuck : ∀ (index : Nat) (worker : Worker Work), pool.workers[index]? = some worker →
      worker.move? pool.isUnlocked pool.isClosed pool.queue = none := by
    intro index worker here
    have none := stuck index
    rcases turned : worker.move? pool.isUnlocked pool.isClosed pool.queue with - | ⟨after, queue⟩
    · rfl
    · rw [move?_worker here turned] at none
      cases none
  -- Whoever has the lock can go on, so nobody has it.
  have unlocked : pool.isUnlocked = true := by
    refine isUnlocked_of_not_holds ?_
    rintro party (has | ⟨here, has⟩)
    · rw [unheld] at has
      cases has
    · rcases Worker.of_move?_eq_none (stuck _ _ here) with rfl | rfl | ⟨rfl, -⟩ <;> cases has
  obtain ⟨index, here⟩ := List.getElem?_of_mem member
  rcases Worker.of_move?_eq_none (stuck index worker here) with asleep | gone | ⟨-, locked⟩
  · exact .inl asleep
  · exact .inr gone
  · rw [unlocked] at locked
    cases locked

/-- **What holds of every pool**, whatever steps were made. -/
structure Orderly (pool : WorkerPool Work) : Prop where
  staffed : pool.workers ≠ []
  /-- Nobody has the lock together with somebody else. -/
  exclusive : ∀ first second, pool.Holds first → pool.Holds second → first = second
  closed : pool.isClosed = pool.owner.hasClosed
  empty : ∀ worker ∈ pool.workers, worker.hasFoundNone pool.owner.hasCalled = true → pool.queue = []
  off : ∀ worker ∈ pool.workers, worker.isOff = true → pool.isClosed = true
  joined : ∀ joined, pool.owner = .joining joined →
    joined ≤ pool.workers.length ∧ ∀ index < joined, pool.workers[index]? = some .gone

theorem orderly_ofSize (count : Nat) : (ofSize count : WorkerPool Work).Orderly := by
  have outside : ∀ worker ∈ (ofSize count : WorkerPool Work).workers, worker = .outside :=
    fun worker member => List.eq_of_mem_replicate member
  have nobody : ∀ party, ¬ (ofSize count : WorkerPool Work).Holds party := by
    rintro party (has | ⟨here, has⟩)
    · cases has
    · rw [outside _ (List.mem_of_getElem? here)] at has
      cases has
  refine ⟨?_, fun first _ has => absurd has (nobody first), rfl, ?_, ?_, nofun⟩
  · exact List.ne_nil_of_length_pos (by rw [ofSize, List.length_replicate]; omega)
  · intro worker member found
    rw [outside worker member] at found
    cases found
  · intro worker member off
    rw [outside worker member] at off
    cases off

section Setting

variable {workers : List (Worker Work)} {index other : Nat} {before after worker : Worker Work}

theorem getElem?_set_of_some (here : workers[index]? = some before)
    (there : (workers.set index after)[other]? = some worker) :
    other = index ∧ worker = after ∨ other ≠ index ∧ workers[other]? = some worker := by
  rcases eq_or_ne index other with rfl | apart
  · rw [List.getElem?_set_self (List.getElem?_eq_some_iff.mp here).1] at there
    exact .inl ⟨rfl, (Option.some.inj there).symm⟩
  · rw [List.getElem?_set_ne apart] at there
    exact .inr ⟨apart.symm, there⟩

/-- A number in a list changes. -/
theorem sum_set {numbers : List Nat} {index before : Nat} (here : numbers[index]? = some before)
    (after : Nat) : (numbers.set index after).sum + before = numbers.sum + after := by
  induction numbers generalizing index with
  | nil => cases here
  | cons first rest hyp =>
    cases index with
    | zero =>
      obtain rfl : first = before := Option.some.inj here
      rw [List.set_cons_zero, List.sum_cons, List.sum_cons]
      omega
    | succ index =>
      have there : (rest.set index after).sum + before = rest.sum + after := hyp here
      rw [List.set_cons_succ, List.sum_cons, List.sum_cons]
      omega

end Setting

namespace Orderly

variable (orderly : pool.Orderly)
include orderly

/-- A party that has the lock afterwards had it before, or took it when nobody had it. -/
theorem exclusive_of (party : Option Nat)
    (kept : ∀ other, next.Holds other → pool.Holds other ∨ other = party ∧ pool.isUnlocked = true)
    (first second : Option Nat) (one : next.Holds first) (two : next.Holds second) :
    first = second := by
  rcases kept first one with one | ⟨rfl, unlocked⟩
  · rcases kept second two with two | ⟨rfl, unlocked⟩
    · exact orderly.exclusive first second one two
    · exact absurd one (not_holds_of_isUnlocked unlocked first)
  · rcases kept second two with two | ⟨rfl, -⟩
    · exact absurd two (not_holds_of_isUnlocked unlocked second)
    · rfl

/-- The workers that the owner has waited for are gone, so none of them changes. -/
theorem joined_setWorker {index : Nat} {before after : Worker Work}
    (here : pool.workers[index]? = some before) (present : before ≠ .gone) (joined : Nat)
    (joining : pool.owner = .joining joined) :
    joined ≤ (pool.setWorker index after).workers.length
      ∧ ∀ other < joined, (pool.setWorker index after).workers[other]? = some .gone := by
  obtain ⟨bound, gone⟩ := orderly.joined joined joining
  refine ⟨List.length_set.symm ▸ bound, fun other less => ?_⟩
  have apart : index ≠ other := by
    rintro rfl
    exact present (Option.some.inj (here.symm.trans (gone index less)))
  exact (List.getElem?_set_ne apart).trans (gone other less)

/-- **A worker changes**, and perhaps the queue. -/
theorem setWorker {index : Nat} {before after : Worker Work} {queue : List Work}
    (here : pool.workers[index]? = some before) (present : before ≠ .gone)
    (lock : after.hasLock = true → before.hasLock = true ∨ pool.isUnlocked = true)
    (less : pool.queue = [] → queue = [])
    (found : after.hasFoundNone pool.owner.hasCalled = true →
      before.hasFoundNone pool.owner.hasCalled = true ∨ queue = [])
    (off : after.isOff = true → before.isOff = true ∨ pool.isClosed = true) :
    ({ pool.setWorker index after with queue } : WorkerPool Work).Orderly where
  staffed := fun none => orderly.staffed ((List.set_eq_nil_iff _ _).mp none)
  exclusive := by
    refine orderly.exclusive_of (some index) ?_
    rintro other (has | ⟨there, has⟩)
    · exact .inl (.owner has)
    · rcases getElem?_set_of_some here there with ⟨rfl, rfl⟩ | ⟨-, there⟩
      · rcases lock has with had | unlocked
        · exact .inl (.worker here had)
        · exact .inr ⟨rfl, unlocked⟩
      · exact .inl (.worker there has)
  closed := orderly.closed
  empty := by
    intro worker member told
    rcases List.mem_or_eq_of_mem_set member with member | rfl
    · exact less (orderly.empty worker member told)
    · rcases found told with had | none
      · exact less (orderly.empty before (List.mem_of_getElem? here) had)
      · exact none
  off := by
    intro worker member told
    rcases List.mem_or_eq_of_mem_set member with member | rfl
    · exact orderly.off worker member told
    · rcases off told with had | closed
      · exact orderly.off before (List.mem_of_getElem? here) had
      · exact closed
  joined := orderly.joined_setWorker here present

/-- A worker makes a step. -/
theorem turn {index : Nat} {before after : Worker Work} {queue : List Work}
    (here : pool.workers[index]? = some before)
    (turn : Worker.Turn pool.isUnlocked pool.isClosed pool.queue before after queue) :
    ({ pool.setWorker index after with queue } : WorkerPool Work).Orderly :=
  orderly.setWorker here (by rintro rfl; cases turn) turn.hasLock_of_hasLock turn.rest_eq
    turn.hasFoundNone turn.isClosed_of_isOff

/-- A worker is woken. -/
theorem rouse {index : Nat} (here : pool.workers[index]? = some .asleep) :
    (pool.setWorker index .outside).Orderly :=
  orderly.setWorker here nofun nofun id nofun nofun

/-- The owner goes on, and neither sets the flag nor wakes all workers. -/
theorem withOwner {owner : Owner Work}
    (kept : owner.hasLock = true → pool.owner.hasLock = true ∨ pool.isUnlocked = true)
    (closed : owner.hasClosed = pool.owner.hasClosed)
    (called : owner.hasCalled = pool.owner.hasCalled)
    (joined : ∀ joined, owner = .joining joined →
      joined ≤ pool.workers.length ∧ ∀ index < joined, pool.workers[index]? = some .gone) :
    ({ pool with owner } : WorkerPool Work).Orderly where
  staffed := orderly.staffed
  exclusive := by
    refine orderly.exclusive_of none ?_
    rintro other (has | ⟨there, has⟩)
    · exact (kept has).imp .owner fun unlocked => ⟨rfl, unlocked⟩
    · exact .inl (.worker there has)
  closed := orderly.closed.trans closed.symm
  empty := by
    intro worker member found
    rw [called] at found
    exact orderly.empty worker member found
  off := orderly.off
  joined := joined

/-- While work is added nobody can know that there is none. -/
theorem add {work : Work} (adding : pool.owner = .adding work) :
    ({ pool with queue := pool.queue ++ [work], owner := .added } : WorkerPool Work).Orderly where
  staffed := orderly.staffed
  exclusive := by
    refine orderly.exclusive_of none ?_
    rintro other (has | ⟨there, has⟩)
    · exact .inl (.owner (by rw [adding]; rfl))
    · exact .inl (.worker there has)
  closed := by
    rw [orderly.closed, adding]
    rfl
  empty := by
    intro worker member found
    obtain ⟨index, here⟩ := List.getElem?_of_mem member
    have opened : pool.isClosed = false := by
      rw [orderly.closed, adding]
      rfl
    have unlocked : worker.hasLock = false := by
      rw [← Bool.not_eq_true]
      intro has
      cases orderly.exclusive none (some index) (.owner (by rw [adding]; rfl)) (.worker here has)
    have on : worker.isOff = false := by
      rw [← Bool.not_eq_true]
      intro off
      rw [orderly.off worker member off] at opened
      cases opened
    cases worker with
    | idle | drowsy | leaving => cases unlocked
    | gone => cases on
    | outside | inside | loaded | asleep | working => cases found
  off := orderly.off
  joined := nofun

theorem close (free : pool.owner = .free) :
    ({ pool with isClosed := true, owner := .closing } : WorkerPool Work).Orderly where
  staffed := orderly.staffed
  exclusive := by
    refine orderly.exclusive_of none ?_
    rintro other (has | ⟨there, has⟩)
    · cases has
    · exact .inl (.worker there has)
  closed := rfl
  empty := by
    intro worker member found
    refine orderly.empty worker member ?_
    rw [free]
    exact found
  off := fun _ _ _ => rfl
  joined := nofun

theorem callAll (closing : pool.owner = .closing) :
    ({ pool with workers := pool.workers.map (·.wake), owner := .joining 0 } :
      WorkerPool Work).Orderly where
  staffed := fun none => orderly.staffed (List.map_eq_nil_iff.mp none)
  exclusive := by
    refine orderly.exclusive_of none ?_
    rintro other (has | ⟨there, has⟩)
    · cases has
    · rw [List.getElem?_map, Option.map_eq_some_iff] at there
      obtain ⟨worker, there, rfl⟩ := there
      refine .inl (.worker there ?_)
      cases worker with
      | asleep => cases has
      | outside | inside | loaded | idle | drowsy | leaving | working | gone => exact has
  closed := by
    rw [orderly.closed, closing]
    rfl
  empty := by
    intro worker member found
    obtain ⟨worker, there, rfl⟩ := List.mem_map.mp member
    refine orderly.empty worker there ?_
    cases worker with
    | asleep => cases found
    | outside | inside | loaded | idle | drowsy | leaving | working | gone => exact found
  off := by
    intro worker _ _
    rw [orderly.closed, closing]
    rfl
  joined := by
    rintro joined ⟨⟩
    exact ⟨Nat.zero_le _, nofun⟩

/-- **What holds of every pool is kept by every step.** -/
theorem moved (moved : Moved pool move next) : next.Orderly := by
  cases moved with
  | worker here turn => exact orderly.turn here turn
  | stir here => exact orderly.rouse here
  | submit work free unlocked =>
    exact orderly.withOwner (fun _ => .inr unlocked) (congrArg Owner.hasClosed free).symm
      (congrArg Owner.hasCalled free).symm nofun
  | add adding => exact orderly.add adding
  | release added =>
    exact orderly.withOwner nofun (congrArg Owner.hasClosed added).symm
      (congrArg Owner.hasCalled added).symm nofun
  | call calling here =>
    exact (orderly.rouse here).withOwner nofun (congrArg Owner.hasClosed calling).symm
      (congrArg Owner.hasCalled calling).symm nofun
  | callNobody index calling awake =>
    exact orderly.withOwner nofun (congrArg Owner.hasClosed calling).symm
      (congrArg Owner.hasCalled calling).symm nofun
  | close free => exact orderly.close free
  | callAll closing => exact orderly.callAll closing
  | join joining here =>
    refine orderly.withOwner nofun (congrArg Owner.hasClosed joining).symm
      (congrArg Owner.hasCalled joining).symm ?_
    rintro joined ⟨⟩
    obtain ⟨-, gone⟩ := orderly.joined _ joining
    refine ⟨(List.getElem?_eq_some_iff.mp here).1, fun index less => ?_⟩
    rcases Nat.lt_succ_iff_lt_or_eq.mp less with less | rfl
    · exact gone index less
    · exact here

end Orderly

theorem run?_cons (pool : WorkerPool Work) (move : PoolMove Work) (moves : List (PoolMove Work)) :
    pool.run? (move :: moves) = (pool.move? move).bind fun next => next.run? moves :=
  rfl

theorem run?_append (pool : WorkerPool Work) (first second : List (PoolMove Work)) :
    pool.run? (first ++ second) = (pool.run? first).bind fun middle => middle.run? second := by
  induction first generalizing pool with
  | nil => rfl
  | cons move rest hyp =>
    rw [List.cons_append, run?_cons, run?_cons, Option.bind_assoc]
    exact congrArg _ (funext hyp)

/-- **Every pool that steps lead to is orderly.** -/
theorem orderly_of_run (orderly : pool.Orderly) (ran : pool.run? moves = some last) :
    last.Orderly := by
  induction moves generalizing pool with
  | nil =>
    cases ran
    exact orderly
  | cons move rest hyp =>
    obtain ⟨next, moved, ran⟩ := Option.bind_eq_some_iff.mp ran
    exact hyp (orderly.moved (moved_of_move? moved)) ran

end WorkerPool

end LinearProgram
