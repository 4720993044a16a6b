/-
**A context that is left to itself comes to rest.**

* `OwnedContext.effort`: how much there is left to do. `effort_stepped_lt`, `effort_hand_lt`,
  `effort_setErrand_lt`, `effort_receive_lt`, `effort_leave_lt`: the steps that make it less.
* `WorkshopMove.IsOwn`: the steps of a context that nobody has to decide on. **`effort_of_run`**: only
  so many of them can be made. `AtRest`: none can be made. `exists_atRest`: they lead there.
* **`settled_of_atRest`**: where a context stands then. Nothing is under way in it; or its owner has
  given it up and waits for a worker that sleeps.
* `Waned`: what steps do to a context whose owner waits for its workers to leave. **`waned_of_run`**: as
  long as one of them sleeps the context does not go and no callback is called.
* `running_of_registration`: as long as a callback waits its model is running.
-/

import LinearProgram.Proofs.Session.Delivered
import LinearProgram.Proofs.Session.Solutions

namespace LinearProgram

variable {World Engine : Type}

namespace OwnedContext

open WorkerPool

variable {owned next : OwnedContext Engine}

/-! ### How much is left to do -/

/-- **How much there is left to do** in a context that is handed nothing more. -/
def effort (owned : OwnedContext Engine) : Nat :=
  2 * owned.pool.effort + 23 * owned.handing.toList.length + owned.errands.countP (·.isJob)
    + owned.channel.length + (!owned.isGone).toNat

/-- What a step of the pool changes but for the pool itself. -/
theorem Stepped.counts {step : PoolMove (Errand Engine)} (stepped : Stepped owned step next) :
    owned.handing.toList.length = step.brought.length + next.handing.toList.length
      ∧ next.errands.countP (·.isJob) = owned.errands.countP (·.isJob)
      ∧ next.channel.length ≤ owned.channel.length + 1 := by
  have held := congrArg List.length stepped.handing
  rw [List.length_append, List.length_map, List.length_map] at held
  refine ⟨held, (errands_of_stepped stepped).1.countP_eq _, ?_⟩
  rw [stepped.channel, List.length_append]
  exact Nat.add_le_add_left ((List.length_filterMap_le _ _).trans (length_finished_le _ _)) _

theorem effort_stepped_lt {step : PoolMove (Errand Engine)} (stepped : Stepped owned step next)
    (due : step.isDue = true) : next.effort < owned.effort := by
  obtain ⟨held, jobs, channel⟩ := stepped.counts
  have less := effort_lt stepped.moved due
  unfold effort
  rw [stepped.isGone, jobs]
  omega

theorem effort_hand_lt {errand : Errand Engine} (stepped : Stepped owned (.submit errand) next) :
    next.effort < owned.effort := by
  obtain ⟨held, jobs, channel⟩ := stepped.counts
  have more := effort_submit stepped.moved
  have same : next.channel = owned.channel := stepped.channel.trans (List.append_nil _)
  rw [PoolMove.brought, List.length_singleton] at held
  unfold effort
  rw [stepped.isGone, jobs, same]
  omega

theorem effort_setErrand_lt {index : Nat} {job : Job Engine} (has : owned.job? index = some job)
    (report : Report Engine) : (owned.setErrand index (.report report)).effort < owned.effort := by
  obtain ⟨front, back, before, after⟩ := errands_setErrand has (.report report)
  have same : (owned.pool.setWorker index (.working (.report report))).effort = owned.pool.effort := by
    have sum := sum_effort_setWorker (job?_eq_some has) (.working (.report report))
    rw [Worker.effort, Worker.effort, Nat.add_right_cancel_iff] at sum
    unfold WorkerPool.effort
    rw [sum]
    simp [setWorker]
  have jobs : owned.errands.countP (·.isJob)
      = (owned.setErrand index (.report report)).errands.countP (·.isJob) + 1 := by
    rw [before, after, List.countP_append, List.countP_append, List.countP_cons_of_pos rfl,
      List.countP_cons_of_neg (by exact Bool.false_ne_true)]
    rfl
  unfold effort
  rw [jobs]
  dsimp only [setErrand]
  rw [same]
  omega

theorem effort_receive_lt {report : Report Engine} {callback : Option Callback}
    (receives : owned.receive? = some (report, callback, next)) : next.effort < owned.effort := by
  have items := errands_receive? receives
  obtain ⟨-, channel, callbacks, results, -, rfl⟩ := receive?_eq_some receives
  unfold effort
  rw [items, List.countP_cons_of_neg (by exact Bool.false_ne_true), results, List.length_cons]
  dsimp only
  omega

theorem effort_leave_lt (here : owned.isGone = false) (leaves : owned.leave? = some next) :
    next.effort < owned.effort := by
  obtain ⟨-, -, rfl⟩ := leave?_eq_some leaves
  unfold effort
  rw [here]
  exact Nat.lt_succ_self _

/-! ### When nothing can be done -/

/-- A worker that can go on and may not has a solve in hands whose engine can run. -/
theorem exists_job_of_not_allows {step : PoolMove (Errand Engine)} (due : step.isDue = true)
    (blocked : owned.allows step = false) : ∃ index job, owned.job? index = some job := by
  by_contra! none
  rw [← Bool.not_eq_true, allows_iff] at blocked
  refine blocked ⟨fun errand member => ?_, fun close => ?_⟩
  · cases step with
    | worker index =>
      -- What the worker is done with is what it has in hands.
      rw [finished] at member
      rcases here : owned.pool.workers[index]? with - | worker
      · rw [here] at member
        cases member
      rw [here, Option.map_some, Option.getD_some] at member
      cases worker with
      | working other =>
        obtain rfl := List.mem_singleton.mp member
        cases errand with
        | report report => rfl
        | job job => exact absurd (by rw [job?, here]) (none index job)
      | outside | inside | loaded | idle | drowsy | leaving | asleep | gone => cases member
    | stir | submit | add | release | call | close | callAll | join => cases member
  · rw [close] at due
    cases due

/-- The steps that are due bring no work. -/
theorem exists_map_elim {step : PoolMove (Errand Engine)} (due : step.isDue = true) :
    ∃ move : PoolMove Empty, move.isDue = true ∧ move.map Empty.elim = step := by
  cases step with
  | worker index => exact ⟨.worker index, rfl, rfl⟩
  | add => exact ⟨.add, rfl, rfl⟩
  | release => exact ⟨.release, rfl, rfl⟩
  | call index => exact ⟨.call index, rfl, rfl⟩
  | callAll => exact ⟨.callAll, rfl, rfl⟩
  | join => exact ⟨.join, rfl, rfl⟩
  | stir | submit | close => cases due

/-- The pool is stuck if no step of it can be made and no engine can run. -/
theorem stuck_of_poolMove? (still : ∀ move : PoolMove Empty, move.isDue = true →
      owned.poolMove? move = none) (idle : ∀ index, owned.job? index = none)
    (step : PoolMove (Errand Engine)) (due : step.isDue = true) : owned.pool.move? step = none := by
  obtain ⟨move, due', rfl⟩ := exists_map_elim due
  have none := still move due'
  unfold poolMove? at none
  cases allowed : owned.allows (move.map Empty.elim) with
  | true =>
    simp only [allowed, if_true, Option.map_eq_none_iff] at none
    exact none
  | false =>
    obtain ⟨index, job, has⟩ := exists_job_of_not_allows due allowed
    rw [idle index] at has
    cases has

/-- A free lock lets the owner bring its solve. -/
theorem isSome_hand? {job : Job Engine} (held : owned.handing = some job)
    (free : owned.pool.owner = .free)
    (still : ∀ worker ∈ owned.pool.workers, worker = .asleep ∨ worker = .gone) :
    owned.hand?.isSome = true := by
  have unlocked : owned.pool.isUnlocked = true := by
    refine isUnlocked_of_not_holds ?_
    rintro party (has | ⟨here, has⟩)
    · rw [free] at has
      cases has
    · rcases still _ (List.mem_of_getElem? here) with rfl | rfl <;> cases has
  simp [hand?, held, move?, free, unlocked]

/-- **When no step of a context can be made** and no result be taken nothing is under way in it, or its
owner waits for a worker that sleeps. -/
theorem settled_of_still (sound : owned.Sound)
    (still : ∀ move : PoolMove Empty, move.isDue = true → owned.poolMove? move = none)
    (idle : ∀ index, owned.job? index = none) (hands : owned.hand? = none)
    (receives : owned.receive? = none) (stays : owned.leave? = none) :
    owned.pool.owner = .free ∧ owned.errands = []
      ∨ (∃ joined, owned.pool.owner = .joining joined) ∧ ∃ index, owned.pool.Dozes index := by
  have stuck := stuck_of_poolMove? still idle
  obtain ⟨works, sleeping⟩ := works_of_stuck sound.orderly sound.attended stuck
  have empty (takes : owned.takesResults = true) : owned.channel = [] := by
    unfold receive? at receives
    rw [if_pos takes] at receives
    split at receives
    next none => exact none
    next => cases receives
  rcases owner_of_stuck stuck with free | ⟨joined, joining⟩
  · refine .inl ⟨free, ?_⟩
    have held : owned.handing = none := by
      rcases holds : owned.handing with - | job
      · rfl
      · have brings := isSome_hand? holds free sleeping
        rw [hands] at brings
        cases brings
    have takes : owned.takesResults = true := by
      rw [takesResults, isFree_iff.mpr ⟨held, free⟩, Bool.true_or]
    rw [errands, works, held, empty takes]
    rfl
  · refine .inr ⟨⟨joined, joining⟩, ?_⟩
    by_contra! awake
    have left := (hasJoined_iff_of_atRest sound.orderly joining
      (isAtRest_of_stuck joining stuck)).mpr awake
    have takes : owned.takesResults = true := by rw [takesResults, left, Bool.or_true]
    rw [leave?, left, empty takes] at stays
    cases stays

end OwnedContext

/-! ### Steps that nobody has to decide on -/

/-- **Whether the step is one of the context itself**: of its workers, of its owner in the middle of
something, or the delivery of a result. -/
def WorkshopMove.IsOwn (number : Nat) : WorkshopMove → Prop
  | .hand context | .work context _ | .deliver context | .leave context => context = number
  | .pool context move => context = number ∧ move.isDue = true
  | _ => False

namespace Workshop

open OwnedContext

variable {shop next last : Workshop World Engine} {moves : List WorkshopMove} {move : WorkshopMove}
  {number : Nat} {owned : OwnedContext Engine}

/-- **No step of the context itself can be made.** -/
def AtRest (shop : Workshop World Engine) (number : Nat) : Prop :=
  ∀ move, move.IsOwn number → shop.move? move = none

theorem context?_setContext (found : shop.context? number = some owned)
    (changed : OwnedContext Engine) :
    (shop.setContext number changed).contexts[number]? = some changed :=
  getElem?_setContext_self (getElem?_of_context? found) changed

/-- **A step of the context itself** leaves it less to do, and does not give it up. -/
theorem effort_of_move? (own : move.IsOwn number) (moved : shop.move? move = some next) :
    ∃ owned changed, shop.context? number = some owned ∧ next.contexts[number]? = some changed
      ∧ changed.effort < owned.effort
      ∧ changed.pool.owner.hasClosed = owned.pool.owner.hasClosed := by
  cases moved_of_move? moved with
  | hand found hands =>
    subst own
    obtain ⟨job, -, stepped⟩ := stepped_of_hand? hands
    exact ⟨_, _, found, context?_setContext found _, effort_hand_lt stepped,
      WorkerPool.hasClosed_of_moved stepped.moved nofun⟩
  | @pool _ step _ _ found moves =>
    obtain ⟨rfl, due⟩ := own
    have stepped := stepped_of_poolMove? moves
    have due : (step.map Empty.elim : PoolMove (Errand Engine)).isDue = true :=
      (PoolMove.isDue_map _ step).trans due
    refine ⟨_, _, found, context?_setContext found _, effort_stepped_lt stepped due,
      WorkerPool.hasClosed_of_moved stepped.moved fun close => ?_⟩
    rw [close] at due
    cases due
  | work found has =>
    subst own
    exact ⟨_, _, found, context?_setContext found _, effort_setErrand_lt has _, rfl⟩
  | deliver found receives finishes =>
    subst own
    obtain ⟨-, contexts⟩ := frame_of_finish? finishes
    have there := contexts ▸ getElem?_of_context? found
    have less := effort_receive_lt receives
    obtain ⟨-, channel, callbacks, -, -, rfl⟩ := receive?_eq_some receives
    exact ⟨_, _, found, getElem?_setContext_self there _, less, rfl⟩
  | leave found leaves =>
    subst own
    have less := effort_leave_lt (here_of_context? found) leaves
    obtain ⟨-, -, rfl⟩ := leave?_eq_some leaves
    exact ⟨_, _, found, context?_setContext found _, less, rfl⟩
  | create | read | ask | edit | configure | dispose | release | refused | begin | attempt | finish
  | openContext | declined | submit => cases own

/-- **Only so many steps of the context itself can be made** one after the other. -/
theorem effort_of_run (found : shop.contexts[number]? = some owned)
    (ran : shop.run? moves = some last) (own : ∀ move ∈ moves, move.IsOwn number) :
    ∃ later, last.contexts[number]? = some later ∧ moves.length + later.effort ≤ owned.effort := by
  induction moves generalizing shop owned with
  | nil =>
    cases ran
    exact ⟨owned, found, Nat.le_of_eq (Nat.zero_add _)⟩
  | cons move rest hyp =>
    obtain ⟨middle, moved, ran⟩ := Option.bind_eq_some_iff.mp ran
    obtain ⟨first, others⟩ := List.forall_mem_cons.mp own
    obtain ⟨old, changed, found', there, less, -⟩ := effort_of_move? first moved
    obtain rfl := Option.some.inj (found.symm.trans (getElem?_of_context? found'))
    obtain ⟨later, there, bound⟩ := hyp there ran others
    refine ⟨later, there, ?_⟩
    rw [List.length_cons]
    omega

/-- **The steps of the context itself lead to rest.** -/
theorem exists_atRest (found : shop.contexts[number]? = some owned) : ∃ moves last,
    shop.run? moves = some last ∧ (∀ move ∈ moves, move.IsOwn number) ∧ last.AtRest number := by
  induction left : owned.effort using Nat.strongRecOn generalizing shop owned with
  | ind effort hyp =>
    subst left
    by_cases rest : shop.AtRest number
    · exact ⟨[], shop, rfl, nofun, rest⟩
    · unfold AtRest at rest
      push Not at rest
      obtain ⟨move, own, moves⟩ := rest
      obtain ⟨next, moved⟩ := Option.ne_none_iff_exists'.mp moves
      obtain ⟨old, changed, found', there, less, -⟩ := effort_of_move? own moved
      obtain rfl := Option.some.inj (found.symm.trans (getElem?_of_context? found'))
      obtain ⟨moves, last, ran, owns, rest⟩ := hyp changed.effort less there rfl
      exact ⟨move :: moves, last, Option.bind_eq_some_iff.mpr ⟨next, moved, ran⟩,
        List.forall_mem_cons.mpr ⟨own, owns⟩, rest⟩

/-! ### Rest -/

/-- A result can always be delivered, as its model exists. -/
theorem exists_deliver (accounts : shop.Accounts) (found : shop.context? number = some owned)
    {report : Report Engine} {callback : Option Callback} {changed : OwnedContext Engine}
    (receives : owned.receive? = some (report, callback, changed)) :
    ∃ next, shop.move? (.deliver number) = some next := by
  have flights := flights_perm (getElem?_of_context? found)
  rw [flights_receive? receives] at flights
  obtain ⟨model, model', -⟩ := accounts.flying flights
  obtain ⟨result, middle, finishes⟩ := exists_finish? model' report.attempt
  exact ⟨_, (Moved.deliver found receives finishes).move?_eq⟩

/-- **Where a context stands at rest**, if it is not gone. -/
theorem settled_of_atRest (accounts : shop.Accounts) (sound : owned.Sound)
    (found : shop.context? number = some owned) (rest : shop.AtRest number) :
    owned.pool.owner = .free ∧ owned.errands = []
      ∨ (∃ joined, owned.pool.owner = .joining joined) ∧ ∃ index, owned.pool.Dozes index := by
  -- Each part of the context is stuck, since its step could be made otherwise.
  have none {α : Type} {outcome : Option α} (move : WorkshopMove) (own : move.IsOwn number)
      (makes : ∀ value, outcome = some value → ∃ next, shop.move? move = some next) :
      outcome = none := by
    rcases made : outcome with - | value
    · rfl
    · obtain ⟨next, moved⟩ := makes value made
      rw [rest move own] at moved
      cases moved
  refine settled_of_still sound (fun step due => ?_) (fun index => ?_) ?_ ?_ ?_
  · exact none (.pool number step) ⟨rfl, due⟩ fun changed moves =>
      ⟨_, (Moved.pool found moves).move?_eq⟩
  · exact none (.work number index) rfl fun job has => ⟨_, (Moved.work found has).move?_eq⟩
  · exact none (.hand number) rfl fun changed hands => ⟨_, (Moved.hand found hands).move?_eq⟩
  · exact none (.deliver number) rfl fun _ receives => exists_deliver accounts found receives
  · exact none (.leave number) rfl fun changed leaves =>
      ⟨_, (Moved.leave found leaves).move?_eq⟩

/-! ### Contexts that were given up -/

/-- A worker that sleeps or is about to has not left. -/
theorem hasJoined_of_dozes (sound : owned.Sound) {index : Nat} (dozes : owned.pool.Dozes index) :
    owned.pool.hasJoined = false := by
  rw [← Bool.not_eq_true]
  intro joined
  obtain ⟨worker, here, dozing⟩ := dozes
  rw [sound.gone_of_hasJoined joined worker (List.mem_of_getElem? here)] at dozing
  cases dozing

/-- **What a step does to a context whose owner waits** for its workers to leave. -/
structure Waned (number : Nat) (owned : OwnedContext Engine) (moves : List WorkshopMove)
    (changed : OwnedContext Engine) : Prop where
  joining : ∃ joined, changed.pool.owner = .joining joined
  dozes : ∀ index, changed.pool.Dozes index
    ↔ owned.pool.Dozes index ∧ .pool number (.stir index) ∉ moves
  /-- As long as a worker sleeps the context does not go and no callback is called. -/
  stays : ∀ index, changed.pool.Dozes index →
    changed.isGone = false ∧ changed.callbacks = owned.callbacks

theorem waned_of_move? {joined : Nat} (sound : owned.Sound)
    (there : shop.contexts[number]? = some owned) (joining : owned.pool.owner = .joining joined)
    (moved : shop.move? move = some next) : ∃ changed, next.contexts[number]? = some changed
      ∧ Waned number owned [move] changed := by
  have shut : owned.isFree = false := by
    rw [← Bool.not_eq_true, isFree_iff, joining]
    rintro ⟨-, free⟩
    cases free
  have awake (index : Nat) (dozes : owned.pool.Dozes index) : owned.takesResults = false := by
    rw [takesResults, shut, hasJoined_of_dozes sound dozes]
    rfl
  have here (index : Nat) (dozes : owned.pool.Dozes index) : owned.isGone = false :=
    sound.here_of_hasJoined (hasJoined_of_dozes sound dozes)
  -- A step that does not touch the pool.
  have same {changed : OwnedContext Engine} (pool : changed.pool = owned.pool)
      (other : ∀ index, move ≠ .pool number (.stir index))
      (stays : ∀ index, owned.pool.Dozes index →
        changed.isGone = false ∧ changed.callbacks = owned.callbacks) :
      Waned number owned [move] changed := by
    refine ⟨⟨joined, pool ▸ joining⟩, fun index => ?_, fun index dozes => stays index (pool ▸ dozes)⟩
    rw [pool, List.mem_singleton]
    exact (and_iff_left (other index).symm).symm
  cases handling_of_move? moved number with
  | absent before => cases there.symm.trans before
  | kept _ before after apart =>
    obtain rfl := Option.some.inj (there.symm.trans before)
    exact ⟨owned, after, same rfl (fun _ => apart _) fun index dozes => ⟨here index dozes, rfl⟩⟩
  | submitted _ _ before _ free =>
    obtain rfl := Option.some.inj (there.symm.trans before)
    exact absurd (shut.symm.trans free) Bool.noConfusion
  | stepped _ changed step before active makes stepped after =>
    obtain rfl := Option.some.inj (there.symm.trans before)
    have wanes := WorkerPool.moved_of_joining sound.orderly joining stepped.moved
    refine ⟨changed, after, wanes.joining, fun index => ?_, fun index _ => ?_⟩
    · rw [wanes.dozes, List.mem_singleton]
      refine and_congr_right fun _ => not_congr ?_
      cases makes with
      | hand job => exact iff_of_false (fun same => by cases same) fun same => by cases same
      | pool move => cases move <;> simp [PoolMove.map, eq_comm]
    · exact ⟨stepped.isGone.trans active, stepped.callbacks⟩
  | worked _ place job attempt work before active has ran after =>
    obtain rfl := Option.some.inj (there.symm.trans before)
    refine ⟨_, after, ⟨joined, joining⟩, fun index => ?_, fun _ _ => ⟨active, rfl⟩⟩
    refine (WorkerPool.dozes_setWorker _ (job?_eq_some has) index).trans ?_
    rw [work, List.mem_singleton]
    split
    next same =>
      rw [same]
      refine iff_of_false (fun dozes => by cases dozes) ?_
      rintro ⟨⟨worker, there, dozing⟩, -⟩
      obtain rfl := Option.some.inj (there.symm.trans (job?_eq_some has))
      cases dozing
    next => exact (and_iff_left fun same => by cases same).symm
  | delivered deliver delivery =>
    obtain ⟨_, changed, report, callback, -, -, before, active, receives, after, -⟩ := delivery
    obtain rfl := Option.some.inj (there.symm.trans before)
    obtain ⟨takes, channel, callbacks, -, -, rfl⟩ := receive?_eq_some receives
    refine ⟨_, after, same rfl (fun index other => ?_) fun index dozes => ?_⟩
    · cases deliver.symm.trans other
    · rw [awake index dozes] at takes
      cases takes
  | left _ changed leave before leaves after =>
    obtain rfl := Option.some.inj (there.symm.trans before)
    obtain ⟨left, -, rfl⟩ := leave?_eq_some leaves
    refine ⟨_, after, same rfl (fun index other => ?_) fun index dozes => ?_⟩
    · cases leave.symm.trans other
    · rw [hasJoined_of_dozes sound dozes] at left
      cases left

/-- **A row of steps when the owner waits** for its workers to leave. -/
theorem waned_of_run {solver : Solver World Engine} {world : World} {joined : Nat}
    (ran : run? { solver, world } moves = some shop)
    (there : shop.contexts[number]? = some owned) (joining : owned.pool.owner = .joining joined)
    {more : List WorkshopMove} (further : shop.run? more = some last) :
    ∃ changed, last.contexts[number]? = some changed ∧ Waned number owned more changed := by
  have sound := ((booked_of_run ran number).booked owned there).sound
  induction more generalizing moves shop owned joined with
  | nil =>
    cases further
    exact ⟨owned, there, ⟨joined, joining⟩, fun index => (and_iff_left List.not_mem_nil).symm,
      fun index dozes => ⟨sound.here_of_hasJoined (hasJoined_of_dozes sound dozes), rfl⟩⟩
  | cons move rest hyp =>
    obtain ⟨middle, moved, further⟩ := Option.bind_eq_some_iff.mp further
    obtain ⟨changed, there', first⟩ := waned_of_move? sound there joining moved
    have ran' : run? { solver, world } (moves ++ [move]) = some middle := by
      rw [run?_snoc, ran]
      exact moved
    obtain ⟨joined, joining⟩ := first.joining
    obtain ⟨later, there, others⟩ := hyp ran' there' joining further
      ((booked_of_run ran' number).booked changed there').sound
    refine ⟨later, there, others.joining, fun index => ?_, fun index dozes => ?_⟩
    · simp only [others.dozes, first.dozes, List.mem_cons, List.not_mem_nil, or_false, not_or,
        and_assoc]
    · obtain ⟨here, callbacks⟩ := others.stays index dozes
      obtain ⟨dozed, -⟩ := (others.dozes index).mp dozes
      exact ⟨here, callbacks.trans (first.stays index dozed).2⟩

/-- **As long as a callback waits its model is running.** -/
theorem running_of_registration {solver : Solver World Engine} {world : World}
    (ran : run? { solver, world } moves = some shop)
    (there : shop.contexts[number]? = some owned) {registration : Registration}
    (waits : registration ∈ owned.callbacks) :
    ∃ model, shop.models[registration.model]? = some model ∧ model.isRunning = true := by
  have ledger := ((booked_of_run ran number).booked owned there).ledger
  obtain ⟨submission, submitted, sameModel, -⟩ := ledger.registered registration waits
  -- Its ticket is under way, and what is under way with it is a solve of its model.
  obtain ⟨errand, under, ticket⟩ :=
    List.mem_map.mp (ledger.flying.mem_iff.mpr (List.mem_map_of_mem waits))
  have ofModel : errand.flight.1 = registration.model := by
    cases errand with
    | job job =>
      obtain ⟨other, found, model, -⟩ := ledger.queued job under
      rw [show job.ticket = registration.ticket from ticket, submitted] at found
      obtain rfl := Option.some.inj found
      exact model.symm.trans sameModel
    | report report =>
      obtain ⟨other, found, worked⟩ := ledger.ran report under
      rw [show report.ticket = registration.ticket from ticket, submitted] at found
      obtain rfl := Option.some.inj found
      obtain ⟨-, -, -, -, model, -⟩ := worked
      exact model.symm.trans sameModel
  have flies : errand.flight ∈ shop.flights :=
    (flights_perm there).mem_iff.mpr (List.mem_append_left _ (List.mem_map_of_mem under))
  obtain ⟨place, at_place⟩ := List.getElem?_of_mem flies
  obtain rfl := solver_of_run? ran
  have accounts := accounts_of_reachable ⟨world, moves, ran⟩
  obtain ⟨model, found, -, running, -⟩ := accounts.flying (perm_cons_eraseIdx at_place)
  exact ⟨model, ofModel ▸ found, running⟩

end Workshop

end LinearProgram
