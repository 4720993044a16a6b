/-
**The books of every context, and what its callbacks are called with.**

* `OwnedContext.Booked`: a context agrees with what it was handed and with the callbacks that were
  called, and its pool came about by the steps of a pool. `Booked.submit`, `Booked.stepped`,
  `Booked.setErrand`, `Booked.receive`, `Booked.leave`: every step of a context keeps this.
* `Worked`: a result is that of a solve whose engine ran in the hands of a worker.
* `Books`: what is booked under a number. **`booked_of_run`**: after every row of steps it is right.
* `Delivered`: a callback was called with the result of the solve that it was handed over with, after
  that solve was finished. **`delivered_of_run`**: every call was such a one.
* `calls_of_move?`: a step delivers one callback, or none.
-/

import LinearProgram.Proofs.Session.Handling

namespace LinearProgram

variable {World Engine : Type}

/-! ### Books of one context -/

namespace OwnedContext

open WorkerPool

/-- **A context agrees with what it was handed**, and with the callbacks that were called. -/
structure Booked (IsRunOf : Report Engine → Submission Engine → Prop)
    (submissions : List (Submission Engine)) (called : List Nat) (owned : OwnedContext Engine) :
    Prop where
  sound : owned.Sound
  next : owned.nextTicket = submissions.length
  ledger : Ledger IsRunOf submissions called owned.callbacks owned.errands
  /-- One worker keeps the tickets in order. -/
  ordered : owned.pool.workers.length = 1 →
    called ++ owned.errands.map (·.ticket) = List.range submissions.length
  /-- The workers are those of a pool that goes by tickets. -/
  pooled : ∃ count steps, (WorkerPool.ofSize count).run? steps = some (owned.pool.map (·.ticket))

variable {IsRunOf : Report Engine → Submission Engine → Prop}
  {submissions : List (Submission Engine)} {called : List Nat} {owned next : OwnedContext Engine}

theorem booked_ofSize (IsRunOf : Report Engine → Submission Engine → Prop) (workers : Nat) :
    Booked IsRunOf [] [] (ofSize workers) where
  sound := sound_ofSize workers
  next := rfl
  ledger := by
    rw [errands_ofSize]
    exact .nil IsRunOf
  ordered _ := by
    rw [errands_ofSize]
    rfl
  pooled := ⟨workers, [], congrArg some (map_ofSize _ workers).symm⟩

namespace Booked

variable (booked : Booked IsRunOf submissions called owned)
include booked

theorem mono {IsRunOf' : Report Engine → Submission Engine → Prop}
    (weaker : ∀ report submission, IsRunOf report submission → IsRunOf' report submission) :
    Booked IsRunOf' submissions called owned :=
  { booked with ledger := booked.ledger.mono weaker }

/-- **A solve is handed over.** -/
theorem submit (here : owned.isGone = false) (free : owned.isFree = true)
    (submission : Submission Engine) : Booked IsRunOf (submissions ++ [submission]) called
      (owned.submit submission.model submission.assignment submission.callback) where
  sound := booked.sound.submit here free _ _ _
  next := by
    rw [List.length_append, List.length_singleton, ← booked.next]
    rfl
  ledger := by
    have ledger := booked.ledger.submit submission
    rw [← booked.next] at ledger
    rw [errands_submit free]
    exact ledger
  ordered single := by
    rw [errands_submit free, List.map_append, ← List.append_assoc, booked.ordered single,
      List.length_append, List.length_singleton, List.range_succ, ← booked.next]
    rfl
  pooled := booked.pooled

/-- **The pool makes a step.** -/
theorem stepped (here : owned.isGone = false) {step : PoolMove (Errand Engine)}
    (stepped : Stepped owned step next) : Booked IsRunOf submissions called next where
  sound := booked.sound.stepped here stepped
  next := stepped.nextTicket.trans booked.next
  ledger := by
    rw [stepped.callbacks]
    exact booked.ledger.perm (errands_of_stepped stepped).1
  ordered single := by
    rw [length_workers_of_moved stepped.moved] at single
    rw [(errands_of_stepped stepped).2 single]
    exact booked.ordered single
  pooled := by
    obtain ⟨count, steps, ran⟩ := booked.pooled
    refine ⟨count, steps ++ [step.map (·.ticket)], ?_⟩
    rw [run?_append, ran, Option.bind_some, run?_cons, move?_map, stepped.made]
    rfl

/-- **The engine of a solve runs** in the hands of a worker. -/
theorem setErrand (here : owned.isGone = false) {index : Nat} {job : Job Engine}
    {attempt : Attempt Engine} (has : owned.job? index = some job)
    (ours : ∀ submission : Submission Engine, submission.model = job.model →
      submission.assignment = job.assignment →
        IsRunOf ⟨job.ticket, job.model, attempt⟩ submission) :
    Booked IsRunOf submissions called
      (owned.setErrand index (.report ⟨job.ticket, job.model, attempt⟩)) := by
  obtain ⟨front, back, before, after⟩ :=
    errands_setErrand has (.report ⟨job.ticket, job.model, attempt⟩)
  constructor
  case sound => exact booked.sound.setErrand here has _
  case next => exact booked.next
  case ledger =>
    rw [after]
    exact booked.ledger.attempt attempt before ours
  case ordered =>
    intro single
    rw [OwnedContext.setErrand, WorkerPool.setWorker, List.length_set] at single
    have ordered := booked.ordered single
    rw [before] at ordered
    rw [after]
    simp only [List.map_append, List.map_cons] at ordered ⊢
    exact ordered
  case pooled =>
    -- The ticket stays in the hands of the worker.
    obtain ⟨count, steps, ran⟩ := booked.pooled
    refine ⟨count, steps, ran.trans (congrArg some ?_)⟩
    have there := getElem?_workers_map (·.ticket) owned.pool index
    rw [job?_eq_some has] at there
    refine ((map_setWorker (·.ticket) owned.pool index _).trans ?_).symm
    exact setWorker_of_getElem? there

/-- The next result finds its callback. -/
theorem exists_callback {report : Report Engine} {callback : Option Callback}
    (receives : owned.receive? = some (report, callback, next)) :
    ∃ submission, submissions[report.ticket]? = some submission
      ∧ IsRunOf report submission ∧ callback = some submission.callback := by
  obtain ⟨submission, -, found, ran, -, taken, -⟩ :=
    booked.ledger.exists_callback (errands_receive? receives)
  obtain ⟨-, channel, callbacks, -, took, -⟩ := receive?_eq_some receives
  rw [took] at taken
  exact ⟨submission, found, ran, taken⟩

/-- **A result is taken and its callback is called.** -/
theorem receive (here : owned.isGone = false) {report : Report Engine} {callback : Option Callback}
    (receives : owned.receive? = some (report, callback, next)) :
    Booked IsRunOf submissions (called ++ [report.ticket]) next := by
  have items := errands_receive? receives
  have ledger := booked.ledger.receive items
  have sound := booked.sound.receive here receives
  obtain ⟨-, channel, callbacks, -, took, rfl⟩ := receive?_eq_some receives
  rw [took] at ledger
  refine ⟨sound, booked.next, ledger, fun single => ?_, booked.pooled⟩
  have ordered := booked.ordered single
  rw [items, List.map_cons] at ordered
  rw [List.append_assoc]
  exact ordered

/-- The context goes. -/
theorem leave (leaves : owned.leave? = some next) : Booked IsRunOf submissions called next := by
  have sound := booked.sound.leave leaves
  obtain ⟨-, -, rfl⟩ := leave?_eq_some leaves
  exact ⟨sound, booked.next, booked.ledger, booked.ordered, booked.pooled⟩

/-- One worker calls the callbacks in the order of the tickets. -/
theorem called_eq_range (single : owned.pool.workers.length = 1) :
    called = List.range called.length := by
  have all := booked.ordered single
  have short : called.length ≤ submissions.length := by
    have total := congrArg List.length all
    rw [List.length_append, List.length_range] at total
    omega
  calc called = (called ++ owned.errands.map (·.ticket)).take called.length := List.take_left.symm
    _ = (List.range submissions.length).take called.length := by rw [all]
    _ = List.range called.length := by rw [List.take_range, Nat.min_eq_left short]

end Booked

end OwnedContext

namespace Workshop

open OwnedContext

variable {start shop next : Workshop World Engine} {moves : List WorkshopMove}
  {move : WorkshopMove} {number : Nat}

/-! ### Books -/

/-- **The result is that of the submission**: in a step of the row a worker of the context ran the
engine that was handed over. -/
inductive Worked (start : Workshop World Engine) (moves : List WorkshopMove) (number : Nat)
    (report : Report Engine) (submission : Submission Engine) : Prop
  | intro (before after : Workshop World Engine) (index : Nat)
    (made : Made start moves before (.work number index) after)
    (same : submission.model = report.model)
    (ran : start.solver.attempt submission.assignment before.world = (report.attempt, after.world))

theorem Worked.snoc {report : Report Engine} {submission : Submission Engine}
    (worked : Worked start moves number report submission) (move : WorkshopMove) :
    Worked start (moves ++ [move]) number report submission := by
  obtain ⟨before, after, index, made, same, ran⟩ := worked
  exact ⟨before, after, index, made.snoc move, same, ran⟩

/-- **What is booked under a number**, whether a context was opened there or not. -/
structure Books (start : Workshop World Engine) (moves : List WorkshopMove)
    (shop : Workshop World Engine) (number : Nat) : Prop where
  absent : shop.contexts[number]? = none →
    start.submissions number moves = [] ∧ calledTickets number shop.log = []
  booked : ∀ owned, shop.contexts[number]? = some owned → owned.Booked (Worked start moves number)
    (start.submissions number moves) (calledTickets number shop.log)

theorem Books.of_some {owned : OwnedContext Engine}
    (found : shop.contexts[number]? = some owned) (booked : owned.Booked (Worked start moves number)
      (start.submissions number moves) (calledTickets number shop.log)) :
    Books start moves shop number := by
  constructor
  · intro absent
    rw [found] at absent
    cases absent
  · intro other found'
    obtain rfl := Option.some.inj (found.symm.trans found')
    exact booked

/-- What was called after a delivery. -/
theorem calls_of_delivery {model ticket : Nat} {callback : Callback}
    {result : Except Error Status} (log : next.log = shop.log ++ .finished model result
      :: ((some callback).map fun _ => Notice.called number ticket result).toList) :
    calls number next.log = calls number shop.log ++ [(ticket, result)] := by
  rw [log, calls_append]
  refine congrArg _ ?_
  simp [calls, call?, List.filterMap_cons]

/-- **One step keeps the books.** -/
theorem Books.step (books : Books start moves shop number)
    (ran : start.run? moves = some shop) (moved : shop.move? move = some next) :
    Books start (moves ++ [move]) next number := by
  have solver := solver_of_run? ran
  have same (nothing : shop.submission? number move = none) :
      start.submissions number (moves ++ [move]) = start.submissions number moves := by
    rw [submissions_snoc ran, nothing]
    exact List.append_nil _
  -- The engines that ran before count for the longer row as well.
  have earlier (owned : OwnedContext Engine) (found : shop.contexts[number]? = some owned) :
      owned.Booked (Worked start (moves ++ [move]) number) (start.submissions number moves)
        (calledTickets number shop.log) :=
    (books.booked owned found).mono fun _ _ worked => worked.snoc move
  cases handling_of_move? moved number with
  | absent before after nothing called =>
    obtain ⟨submissions, calls⟩ := books.absent before
    rw [← same nothing] at submissions
    rw [calledTickets, ← called, ← calledTickets] at calls
    refine ⟨fun _ => ⟨submissions, calls⟩, fun owned found => ?_⟩
    obtain ⟨workers, rfl⟩ := after owned found
    rw [submissions, calls]
    exact booked_ofSize _ workers
  | kept owned before after apart nothing called =>
    refine .of_some after ?_
    rw [same nothing, calledTickets, called]
    exact earlier owned before
  | submitted owned submission before here free after handed called =>
    refine .of_some after ?_
    rw [submissions_snoc ran, handed, calledTickets, called]
    exact (earlier owned before).submit here free submission
  | stepped owned changed step before here makes stepped after nothing called =>
    refine .of_some after ?_
    rw [same nothing, calledTickets, called]
    exact (earlier owned before).stepped here stepped
  | worked owned index job attempt work before here has ran' after nothing called =>
    refine .of_some after ?_
    rw [same nothing, calledTickets, called]
    refine (earlier owned before).setErrand here has fun submission model assignment => ?_
    refine .intro shop next index (work ▸ .final ran moved) model ?_
    rw [← solver, assignment]
    exact ran'
  | delivered deliver delivery =>
    subst deliver
    obtain ⟨owned, changed, report, callback, -, result, before, here, receives, after, -, -, -, -,
      log⟩ := delivery
    obtain ⟨submission, -, -, rfl⟩ := (earlier owned before).exists_callback receives
    refine .of_some after ?_
    rw [same rfl, calledTickets, calls_of_delivery log, List.map_append]
    exact (earlier owned before).receive here receives
  | left owned changed leave before leaves after nothing called =>
    refine .of_some after ?_
    rw [same nothing, calledTickets, called]
    exact (earlier owned before).leave leaves

/-- **After every row of steps the books of all contexts are right.** -/
theorem booked_of_run {solver : Solver World Engine} {world : World}
    (ran : run? { solver, world } moves = some shop) (number : Nat) :
    Books { solver, world } moves shop number := by
  refine run_induction (motive := fun moves shop => Books { solver, world } moves shop number)
    ⟨fun _ => ⟨rfl, rfl⟩, fun owned found => ?_⟩ ?_ ran
  · cases found
  · intro moves before move after ran moved books
    exact books.step ran moved

/-- **A step delivers one callback, or none.** -/
theorem calls_of_move? (books : Books start moves shop number)
    (moved : shop.move? move = some next) :
    (move ≠ .deliver number ∧ calls number next.log = calls number shop.log)
      ∨ (move = .deliver number
        ∧ ∃ call, calls number next.log = calls number shop.log ++ [call]) := by
  by_cases deliver : move = .deliver number
  · refine .inr ⟨deliver, ?_⟩
    subst deliver
    obtain ⟨owned, changed, report, callback, model, result, before, -, receives, -, -, -, -, -, log⟩ :=
      delivery_of_deliver moved
    obtain ⟨submission, -, -, rfl⟩ := (books.booked owned before).exists_callback receives
    exact ⟨_, calls_of_delivery log⟩
  · refine .inl ⟨deliver, ?_⟩
    cases handling_of_move? moved number with
    | absent | kept | submitted | stepped | worked | left => assumption
    | delivered deliver' => exact absurd deliver' deliver

/-! ### Results -/

/-- **A callback was called with the result of its own solve.** A step of the row took the result of
the run for the assignment that the callback was handed over with; it finished the solve, so that
the model was not running any more, and then it called that callback. -/
inductive Delivered (start : Workshop World Engine) (moves : List WorkshopMove) (number ticket : Nat)
    (result : Except Error Status) : Prop
  | intro (before after : Workshop World Engine)
    (made : Made start moves before (.deliver number) after) (submission : Submission Engine)
    (submitted : (start.submissions number moves)[ticket]? = some submission)
    (owned changed : OwnedContext Engine) (found : before.contexts[number]? = some owned)
    (report : Report Engine)
    (receives : owned.receive? = some (report, some submission.callback, changed))
    (ours : report.ticket = ticket) (worked : Worked start moves number report submission)
    (outcome : result = report.attempt.result.mapError .solve)
    (model : Model Engine) (finished : after.models[submission.model]? = some model)
    (idle : model.isRunning = false)
    (log : after.log = before.log
      ++ [.finished submission.model result, .called number ticket result])

theorem Delivered.snoc {ticket : Nat} {result : Except Error Status}
    (delivered : Delivered start moves number ticket result) (ran : start.run? moves = some shop)
    (move : WorkshopMove) : Delivered start (moves ++ [move]) number ticket result := by
  obtain ⟨before, after, made, submission, submitted, owned, changed, found, report, receives, ours,
    worked, outcome, model, finished, idle, log⟩ := delivered
  refine ⟨before, after, made.snoc move, submission, ?_, owned, changed, found, report, receives, ours,
    worked.snoc move, outcome, model, finished, idle, log⟩
  rw [submissions_snoc ran]
  exact getElem?_of_snoc submitted _

/-- **Every call was one with the result of its own solve.** -/
theorem delivered_of_run {solver : Solver World Engine} {world : World}
    (ran : run? { solver, world } moves = some shop) {ticket : Nat} {result : Except Error Status}
    (called : .called number ticket result ∈ shop.log) :
    Delivered { solver, world } moves number ticket result := by
  refine run_induction (motive := fun moves shop => ∀ ticket result,
    (ticket, result) ∈ calls number shop.log → Delivered { solver, world } moves number ticket result)
    ?_ ?_ ran ticket result (mem_calls.mpr called)
  · intro ticket result called
    cases called
  · intro moves before move after ran moved earlier ticket result called
    have books := booked_of_run ran number
    cases handling_of_move? moved number with
    | absent _ _ _ same | kept _ _ _ _ _ same | submitted _ _ _ _ _ _ _ same
    | stepped _ _ _ _ _ _ _ _ _ same | worked _ _ _ _ _ _ _ _ _ _ _ same
    | left _ _ _ _ _ _ _ same =>
      rw [same] at called
      exact (earlier ticket result called).snoc ran move
    | delivered deliver delivery =>
      subst deliver
      obtain ⟨owned, changed, report, callback, model, result', found, -, receives, -, -, outcome,
        finished, idle, log⟩ := delivery
      obtain ⟨submission, submitted, worked, rfl⟩ :=
        (books.booked owned found).exists_callback receives
      rw [calls_of_delivery log] at called
      rcases List.mem_append.mp called with called | called
      · exact (earlier ticket result called).snoc ran _
      · cases List.mem_singleton.mp called
        have sameModel : submission.model = report.model := by
          cases worked
          assumption
        refine ⟨before, after, .final ran moved, submission, ?_, owned, changed, found, report,
          receives, rfl, worked.snoc _, outcome, model, ?_, idle, ?_⟩
        · rw [submissions_snoc ran]
          exact getElem?_of_snoc submitted _
        · rw [sameModel]
          exact finished
        · rw [sameModel]
          exact log

end Workshop

end LinearProgram
