/-
**What is under way in a context, and what a step does to it.**

* `OwnedContext.Stepped`: what a step of its pool does to a context. `stepped_of_hand?`,
  `stepped_of_poolMove?`: there is nothing else.
* `errands_submit`, **`errands_of_stepped`**, `errands_setErrand`, `errands_receive?`: a solve that is
  handed over comes to the end of what is under way, and a result leaves from the front. What is in
  between is neither lost nor doubled, and with one worker stays in order.
* `OwnedContext.Sound`: what holds of every context. `Sound.submit`, `Sound.stepped`,
  `Sound.setErrand`, `Sound.receive`, `Sound.leave`: every step keeps it.
-/

import LinearProgram.Proofs.Session.PoolProgress

namespace LinearProgram.OwnedContext

open WorkerPool

variable {Engine : Type} {owned next : OwnedContext Engine} {move : PoolMove (Errand Engine)}

theorem isFree_iff :
    owned.isFree = true ↔ owned.handing = none ∧ owned.pool.owner = .free := by
  rw [isFree, Bool.and_eq_true, Option.isNone_iff_eq_none]
  refine and_congr_right fun _ => ?_
  cases owned.pool.owner with
  | free => exact iff_of_true rfl rfl
  | adding | added | calling | closing | joining => exact iff_of_false nofun nofun

/-! ### Steps of the pool -/

/-- **What a step of its pool does to a context.** -/
structure Stepped (owned : OwnedContext Engine) (move : PoolMove (Errand Engine))
    (next : OwnedContext Engine) : Prop where
  made : owned.pool.move? move = some next.pool
  /-- A worker is done with results only. -/
  ended : ∀ errand ∈ owned.pool.finished move, errand.isJob = false
  channel : next.channel = owned.channel ++ (owned.pool.finished move).filterMap (·.report?)
  /-- The solve that the owner held is held still, or was brought to the pool. -/
  handing : owned.handing.toList.map Errand.job = move.brought ++ next.handing.toList.map .job
  /-- The owner gives the context up only when it holds no solve. -/
  closes : move = .close → owned.handing = none
  nextTicket : next.nextTicket = owned.nextTicket
  callbacks : next.callbacks = owned.callbacks
  isGone : next.isGone = owned.isGone

theorem Stepped.moved (stepped : Stepped owned move next) : Moved owned.pool move next.pool :=
  moved_of_move? stepped.made

theorem allows_iff : owned.allows move = true
    ↔ (∀ errand ∈ owned.pool.finished move, errand.isJob = false)
      ∧ (move = .close → owned.handing = none) := by
  unfold allows
  rw [Bool.and_eq_true, List.all_eq_true]
  refine and_congr (forall₂_congr fun errand _ => by rw [Bool.not_eq_true']) ?_
  cases move with
  | close => simp
  | worker | stir | submit | add | release | call | callAll | join => exact iff_of_true rfl nofun

theorem stepped_of_hand? (handed : owned.hand? = some next) :
    ∃ job, owned.handing = some job ∧ Stepped owned (.submit (.job job)) next := by
  obtain ⟨job, held, handed⟩ := Option.bind_eq_some_iff.mp handed
  obtain ⟨pool, made, rfl⟩ := Option.map_eq_some_iff.mp handed
  refine ⟨job, held, made, nofun, (List.append_nil _).symm, ?_, nofun, rfl, rfl, rfl⟩
  rw [held]
  rfl

theorem stepped_of_poolMove? {move : PoolMove Empty} (moved : owned.poolMove? move = some next) :
    Stepped owned (move.map Empty.elim) next := by
  unfold poolMove? at moved
  rw [Option.ite_none_right_eq_some] at moved
  obtain ⟨allowed, moved⟩ := moved
  obtain ⟨pool, made, rfl⟩ := Option.map_eq_some_iff.mp moved
  obtain ⟨ended, closes⟩ := allows_iff.mp allowed
  refine ⟨made, ended, rfl, ?_, closes, rfl, rfl, rfl⟩
  cases move with
  | submit work => cases work
  | worker | stir | add | release | call | close | callAll | join => rfl

/-! ### What is under way -/

theorem errands_ofSize (workers : Nat) : (ofSize workers : OwnedContext Engine).errands = [] := by
  simp [errands, ofSize, WorkerPool.ofSize, works, Worker.hands, Owner.hands]

theorem errands_submit (free : owned.isFree = true) (model : Nat) (assignment : Assignment Engine)
    (callback : Callback) : (owned.submit model assignment callback).errands
      = owned.errands ++ [.job ⟨owned.nextTicket, model, assignment⟩] := by
  obtain ⟨held, -⟩ := isFree_iff.mp free
  simp [errands, submit, held]

/-- The results that workers are done with. -/
theorem map_report_filterMap {errands : List (Errand Engine)}
    (ended : ∀ errand ∈ errands, errand.isJob = false) :
    (errands.filterMap (·.report?)).map .report = errands := by
  induction errands with
  | nil => rfl
  | cons errand rest hyp =>
    have rest := hyp fun other member => ended other (List.mem_cons_of_mem _ member)
    cases errand with
    | job job => cases ended (.job job) List.mem_cons_self
    | report report => exact congrArg (List.cons _) rest

/-- **A step of the pool loses nothing and doubles nothing** of what is under way, and with one worker
it keeps the order. -/
theorem errands_of_stepped (stepped : Stepped owned move next) :
    next.errands.Perm owned.errands
      ∧ (owned.pool.workers.length = 1 → next.errands = owned.errands) := by
  obtain ⟨perm, ordered⟩ := works_of_moved stepped.moved
  have before : owned.errands = owned.channel.map .report ++ (owned.pool.works ++ move.brought)
      ++ next.handing.toList.map .job := by
    rw [errands, stepped.handing]
    simp only [List.append_assoc]
  have after : next.errands = owned.channel.map .report
      ++ (owned.pool.finished move ++ next.pool.works) ++ next.handing.toList.map .job := by
    rw [errands, stepped.channel, List.map_append, map_report_filterMap stepped.ended]
    simp only [List.append_assoc]
  rw [before, after]
  exact ⟨(perm.append_left _).append_right _, fun single => by rw [ordered single]⟩

theorem job?_eq_some {index : Nat} {job : Job Engine} (found : owned.job? index = some job) :
    owned.pool.workers[index]? = some (.working (.job job)) := by
  unfold job? at found
  split at found
  next here =>
    cases found
    exact here
  next => cases found

/-- A worker's solve changes to something else in its place. -/
theorem errands_setErrand {index : Nat} {job : Job Engine} (found : owned.job? index = some job)
    (errand : Errand Engine) : ∃ front back, owned.errands = front ++ .job job :: back
      ∧ (owned.setErrand index errand).errands = front ++ errand :: back := by
  obtain ⟨front, back, -, works, changed⟩ := exists_works_split (job?_eq_some found)
  have after := changed (.working errand) owned.pool.queue
  refine ⟨owned.channel.map .report ++ front,
    back ++ owned.pool.queue ++ owned.pool.owner.hands ++ owned.handing.toList.map .job, ?_, ?_⟩
  · simp [errands, works, Worker.hands]
  · unfold errands setErrand
    dsimp only at after ⊢
    rw [show (owned.pool.setWorker index (.working errand)).works = _ from after]
    simp [Worker.hands]

/-- A result that the owner takes from the channel. -/
theorem receive?_eq_some {report : Report Engine} {callback : Option Callback}
    (receives : owned.receive? = some (report, callback, next)) :
    owned.takesResults = true ∧ ∃ channel callbacks, owned.channel = report :: channel
      ∧ Context.takeCallback report.ticket owned.callbacks = (callback, callbacks)
      ∧ next = { owned with channel, callbacks } := by
  unfold receive? at receives
  rw [Option.ite_none_right_eq_some] at receives
  obtain ⟨takes, receives⟩ := receives
  refine ⟨takes, ?_⟩
  split at receives
  · cases receives
  next first channel items =>
    cases receives
    exact ⟨channel, _, items, rfl, rfl⟩

theorem errands_receive? {report : Report Engine} {callback : Option Callback}
    (receives : owned.receive? = some (report, callback, next)) :
    owned.errands = .report report :: next.errands := by
  obtain ⟨-, channel, callbacks, items, -, rfl⟩ := receive?_eq_some receives
  rw [errands, items]
  rfl

theorem leave?_eq_some (leaves : owned.leave? = some next) :
    owned.pool.hasJoined = true ∧ owned.channel = [] ∧ next = { owned with isGone := true } := by
  unfold leave? at leaves
  rw [Option.ite_none_right_eq_some, Bool.and_eq_true, List.isEmpty_iff] at leaves
  obtain ⟨⟨joined, empty⟩, same⟩ := leaves
  exact ⟨joined, empty, (Option.some.inj same).symm⟩

/-! ### What holds of every context -/

/-- **What holds of every context.** -/
structure Sound (owned : OwnedContext Engine) : Prop where
  orderly : owned.pool.Orderly
  attended : owned.pool.Attended
  /-- An owner that holds a solve does nothing else. -/
  held : owned.handing ≠ none → owned.pool.owner = .free
  gone : owned.isGone = true → owned.pool.hasJoined = true ∧ owned.channel = []

theorem sound_ofSize (workers : Nat) : (ofSize workers : OwnedContext Engine).Sound where
  orderly := orderly_ofSize workers
  attended := attended_ofSize workers
  held some := absurd rfl some
  gone := nofun

theorem owner_of_hasJoined {pool : WorkerPool (Errand Engine)} (joined : pool.hasJoined = true) :
    ∃ count, pool.owner = .joining count ∧ count = pool.workers.length := by
  unfold hasJoined at joined
  split at joined
  next count owner => exact ⟨count, owner, beq_iff_eq.mp joined⟩
  next => cases joined

/-- Not all workers have left a pool that its owner has not given up. -/
theorem hasJoined_of_hasClosed {pool : WorkerPool (Errand Engine)}
    (opened : pool.owner.hasClosed = false) : pool.hasJoined = false := by
  unfold hasJoined
  split
  next joining => rw [joining] at opened; cases opened
  next => rfl

namespace Sound

variable (sound : owned.Sound)
include sound

/-- **As long as a worker has not left the context is not gone.** -/
theorem here_of_hasJoined (waits : owned.pool.hasJoined = false) : owned.isGone = false := by
  rw [← Bool.not_eq_true]
  intro gone
  rw [(sound.gone gone).1] at waits
  cases waits

theorem submit (here : owned.isGone = false) (free : owned.isFree = true) (model : Nat)
    (assignment : Assignment Engine) (callback : Callback) :
    (owned.submit model assignment callback).Sound where
  orderly := sound.orderly
  attended := sound.attended
  held _ := (isFree_iff.mp free).2
  gone gone := Bool.noConfusion (here.symm.trans gone)

theorem stepped (here : owned.isGone = false) (stepped : Stepped owned move next) : next.Sound where
  orderly := sound.orderly.moved stepped.moved
  attended := attended_of_moved sound.orderly sound.attended stepped.moved
  held holds := by
    -- The solve was held before, so the owner was free, and it does not go on while it holds it.
    have kept := stepped.handing
    rcases held : next.handing with - | job
    · exact absurd held holds
    have had : owned.handing ≠ none := by
      intro none
      rw [none, held] at kept
      exact absurd kept.symm (List.append_ne_nil_of_right_ne_nil _ (List.cons_ne_nil _ _))
    have free := sound.held had
    have closes := stepped.closes
    have moved := stepped.moved
    generalize next.pool = pool at moved ⊢
    cases moved with
    | worker | stir => exact free
    | submit work =>
      rw [held] at kept
      have lengths := congrArg List.length kept
      rw [PoolMove.brought, List.length_append, List.length_map, List.length_singleton] at lengths
      have short : owned.handing.toList.length ≤ 1 := by cases owned.handing <;> simp
      simp only [Option.toList_some, List.map_cons, List.map_nil, List.length_singleton] at lengths
      omega
    | close => exact absurd (closes rfl) had
    | add owner | release owner | call owner | callNobody _ owner | callAll owner | join owner =>
      cases free.symm.trans owner
  gone gone := Bool.noConfusion (here.symm.trans (stepped.isGone.symm.trans gone))

theorem setErrand (here : owned.isGone = false) {index : Nat} {job : Job Engine}
    (found : owned.job? index = some job) (errand : Errand Engine) :
    (owned.setErrand index errand).Sound where
  orderly := sound.orderly.setWorker (job?_eq_some found) nofun nofun id nofun nofun
  attended := attended_of_mem (mem_setWorker (job?_eq_some found) _) nofun
  held := sound.held
  gone gone := Bool.noConfusion (here.symm.trans gone)

theorem receive (here : owned.isGone = false) {report : Report Engine} {callback : Option Callback}
    (receives : owned.receive? = some (report, callback, next)) : next.Sound := by
  obtain ⟨-, channel, callbacks, -, -, rfl⟩ := receive?_eq_some receives
  exact ⟨sound.orderly, sound.attended, sound.held,
    fun gone => Bool.noConfusion (here.symm.trans gone)⟩

theorem leave (leaves : owned.leave? = some next) : next.Sound := by
  obtain ⟨joined, empty, rfl⟩ := leave?_eq_some leaves
  exact ⟨sound.orderly, sound.attended, sound.held, fun _ => ⟨joined, empty⟩⟩

theorem gone_of_hasJoined (joined : owned.pool.hasJoined = true) :
    ∀ worker ∈ owned.pool.workers, worker = .gone := by
  obtain ⟨count, joining, all⟩ := owner_of_hasJoined joined
  intro worker member
  obtain ⟨index, here⟩ := List.getElem?_of_mem member
  have left := (sound.orderly.joined count joining).2 index
    (all ▸ (List.getElem?_eq_some_iff.mp here).1)
  exact Option.some.inj (here.symm.trans left)

/-- **When all workers have left** only the results on the channel are under way. -/
theorem errands_of_hasJoined (joined : owned.pool.hasJoined = true) :
    owned.errands = owned.channel.map .report := by
  obtain ⟨count, joining, -⟩ := owner_of_hasJoined joined
  have gone := sound.gone_of_hasJoined joined
  have hands : owned.pool.workers.flatMap (·.hands) = [] := by
    refine List.flatMap_eq_nil_iff.mpr fun worker member => ?_
    rw [gone worker member]
    rfl
  have queue : owned.pool.queue = [] := by
    obtain ⟨worker, member⟩ := List.exists_mem_of_ne_nil _ sound.orderly.staffed
    refine sound.orderly.empty worker member ?_
    rw [gone worker member]
    rfl
  have held : owned.handing = none := by
    by_contra holds
    cases joining.symm.trans (sound.held holds)
  simp [errands, works, hands, queue, joining, held, Owner.hands]

theorem errands_of_gone (gone : owned.isGone = true) : owned.errands = [] := by
  obtain ⟨joined, empty⟩ := sound.gone gone
  rw [sound.errands_of_hasJoined joined, empty]
  rfl

end Sound

end LinearProgram.OwnedContext
