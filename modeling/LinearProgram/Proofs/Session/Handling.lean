/-
**What a step does to one context.**

* `submission?`, `submissions`: what a step, and a row of steps, hands to a context.
* `calls`, `calledTickets`: the callbacks of a context that were called, in order, as they were written
  down.
* `Delivery`: what the delivery of a result does. `MakesStep`: the steps of a pool.
* `Handling`: what one step can do to one context, to what it was handed and to its calls.
  **`handling_of_move?`**: there is nothing else that it can do.
-/

import LinearProgram.Proofs.Session.Flights
import LinearProgram.Proofs.Session.Runs
import LinearProgram.Proofs.Session.Tickets

namespace LinearProgram.Workshop

variable {World Engine : Type}

/-! ### What was handed over, and what was called -/

/-- **What a step hands to the context**: a solve that begins. -/
def submission? (shop : Workshop World Engine) (number : Nat) :
    WorkshopMove → Option (Submission Engine)
  | .submit context model callback =>
    if context = number then
      match shop.begin? model with
      | some (.ok assignment, _) => some ⟨model, callback, assignment⟩
      | _ => none
    else none
  | _ => none

/-- **What a row of steps hands to the context**, in order. -/
def submissions (shop : Workshop World Engine) (number : Nat) :
    List WorkshopMove → List (Submission Engine)
  | [] => []
  | move :: moves =>
    (shop.submission? number move).toList
      ++ ((shop.move? move).map fun next => next.submissions number moves).getD []

/-- The ticket and the result of a call for the context. -/
def call? (number : Nat) : Notice → Option (Nat × Except Error Status)
  | .called context ticket result => if context = number then some (ticket, result) else none
  | _ => none

/-- **The callbacks of the context that were called**, by ticket and with their results. -/
def calls (number : Nat) (log : List Notice) : List (Nat × Except Error Status) :=
  log.filterMap (call? number)

/-- The tickets of the callbacks that were called. -/
def calledTickets (number : Nat) (log : List Notice) : List Nat :=
  (calls number log).map (·.1)

theorem calls_append (number : Nat) (first second : List Notice) :
    calls number (first ++ second) = calls number first ++ calls number second :=
  List.filterMap_append

theorem calls_concat_of_other {number : Nat} {notice : Notice} (other : call? number notice = none)
    (log : List Notice) : calls number (log ++ [notice]) = calls number log := by
  rw [calls_append]
  simp [calls, other]

theorem mem_calls {number ticket : Nat} {result : Except Error Status} {log : List Notice} :
    (ticket, result) ∈ calls number log ↔ .called number ticket result ∈ log := by
  rw [calls, List.mem_filterMap]
  constructor
  · rintro ⟨notice, member, called⟩
    cases notice with
    | called context ticket' result' =>
      by_cases same : context = number
      · rw [call?, if_pos same] at called
        cases called
        exact same ▸ member
      · rw [call?, if_neg same] at called
        cases called
    | _ => cases called
  · intro member
    exact ⟨_, member, if_pos rfl⟩

theorem submissions_append {start middle : Workshop World Engine} {first : List WorkshopMove}
    (ran : start.run? first = some middle) (number : Nat) (second : List WorkshopMove) :
    start.submissions number (first ++ second)
      = start.submissions number first ++ middle.submissions number second := by
  induction first generalizing start with
  | nil =>
    cases ran
    rfl
  | cons move rest hyp =>
    obtain ⟨next, moved, ran⟩ := Option.bind_eq_some_iff.mp ran
    rw [List.cons_append, submissions, submissions, moved, Option.map_some, Option.map_some,
      Option.getD_some, Option.getD_some, hyp ran, List.append_assoc]

theorem submissions_singleton (shop : Workshop World Engine) (number : Nat) (move : WorkshopMove) :
    shop.submissions number [move] = (shop.submission? number move).toList := by
  rw [submissions]
  cases shop.move? move <;> exact List.append_nil _

/-- One step more hands over one solve more at most. -/
theorem submissions_snoc {start before : Workshop World Engine} {moves : List WorkshopMove}
    (ran : start.run? moves = some before) (number : Nat) (move : WorkshopMove) :
    start.submissions number (moves ++ [move])
      = start.submissions number moves ++ (before.submission? number move).toList := by
  rw [submissions_append ran, submissions_singleton]

/-! ### Handling -/

variable {shop next : Workshop World Engine} {number : Nat} {move : WorkshopMove}

/-- **The delivery of a result**: the context takes it from its channel, the solve is finished, then
the callback is called. The other contexts stay as they are. -/
inductive Delivery (shop next : Workshop World Engine) (number : Nat) : Prop
  | intro (owned changed : OwnedContext Engine) (report : Report Engine)
    (callback : Option Callback) (model : Model Engine) (result : Except Error Status)
    (before : shop.contexts[number]? = some owned) (here : owned.isGone = false)
    (receives : owned.receive? = some (report, callback, changed))
    (after : next.contexts[number]? = some changed)
    (others : ∀ other, number ≠ other → next.contexts[other]? = shop.contexts[other]?)
    (outcome : result = report.attempt.result.mapError .solve)
    (finished : next.models[report.model]? = some model) (idle : model.isRunning = false)
    (log : next.log = shop.log ++ .finished report.model result
      :: (callback.map fun _ => Notice.called number report.ticket result).toList)

/-- **The step of the pool of a context** that a step of the workshop makes. -/
inductive MakesStep (number : Nat) : WorkshopMove → PoolMove (Errand Engine) → Prop
  | hand (job : Job Engine) : MakesStep number (.hand number) (.submit (.job job))
  | pool (step : PoolMove Empty) : MakesStep number (.pool number step) (step.map Empty.elim)

/-- **What one step can do to one context.** -/
inductive Handling (shop next : Workshop World Engine) (number : Nat) (move : WorkshopMove) :
    Prop where
  /-- The context does not exist before, and is opened if it exists after. -/
  | absent (before : shop.contexts[number]? = none)
    (after : ∀ owned, next.contexts[number]? = some owned → ∃ workers, owned = .ofSize workers)
    (nothing : shop.submission? number move = none)
    (called : calls number next.log = calls number shop.log)
  /-- Nothing happens to it. -/
  | kept (owned : OwnedContext Engine) (before : shop.contexts[number]? = some owned)
    (after : next.contexts[number]? = some owned) (apart : ∀ step, move ≠ .pool number step)
    (nothing : shop.submission? number move = none)
    (called : calls number next.log = calls number shop.log)
  /-- It is handed a solve. -/
  | submitted (owned : OwnedContext Engine) (submission : Submission Engine)
    (before : shop.contexts[number]? = some owned) (here : owned.isGone = false)
    (free : owned.isFree = true) (after : next.contexts[number]?
      = some (owned.submit submission.model submission.assignment submission.callback))
    (handed : shop.submission? number move = some submission)
    (called : calls number next.log = calls number shop.log)
  /-- Its pool makes a step. -/
  | stepped (owned changed : OwnedContext Engine) (step : PoolMove (Errand Engine))
    (before : shop.contexts[number]? = some owned) (here : owned.isGone = false)
    (makes : MakesStep number move step) (stepped : OwnedContext.Stepped owned step changed)
    (after : next.contexts[number]? = some changed)
    (nothing : shop.submission? number move = none)
    (called : calls number next.log = calls number shop.log)
  /-- The engine of a solve runs that one of its workers has in hands. -/
  | worked (owned : OwnedContext Engine) (index : Nat) (job : Job Engine) (attempt : Attempt Engine)
    (work : move = .work number index) (before : shop.contexts[number]? = some owned)
    (here : owned.isGone = false) (has : owned.job? index = some job)
    (ran : shop.solver.attempt job.assignment shop.world = (attempt, next.world))
    (after : next.contexts[number]?
      = some (owned.setErrand index (.report ⟨job.ticket, job.model, attempt⟩)))
    (nothing : shop.submission? number move = none)
    (called : calls number next.log = calls number shop.log)
  /-- It delivers a result. -/
  | delivered (deliver : move = .deliver number) (delivery : Delivery shop next number)
  /-- It goes. -/
  | left (owned changed : OwnedContext Engine) (leave : move = .leave number)
    (before : shop.contexts[number]? = some owned)
    (leaves : owned.leave? = some changed) (after : next.contexts[number]? = some changed)
    (nothing : shop.submission? number move = none)
    (called : calls number next.log = calls number shop.log)

/-- A step that leaves the context as it is. -/
theorem handling_of_same (contexts : next.contexts[number]? = shop.contexts[number]?)
    (apart : ∀ step, move ≠ .pool number step)
    (nothing : shop.submission? number move = none)
    (called : calls number next.log = calls number shop.log) :
    Handling shop next number move := by
  rcases before : shop.contexts[number]? with _ | owned
  · refine .absent before (fun owned after => ?_) nothing called
    rw [contexts, before] at after
    cases after
  · exact .kept owned before (contexts.trans before) apart nothing called

theorem getElem?_setContext_self {owned : OwnedContext Engine}
    (before : shop.contexts[number]? = some owned) (changed : OwnedContext Engine) :
    (shop.setContext number changed).contexts[number]? = some changed :=
  List.getElem?_set_self (List.getElem?_eq_some_iff.mp before).1

theorem getElem?_setContext_of_ne {other : Nat} (different : other ≠ number)
    (changed : OwnedContext Engine) :
    (shop.setContext other changed).contexts[number]? = shop.contexts[number]? :=
  List.getElem?_set_ne different

theorem frame_withMade (shop : Workshop World Engine)
    (made : Except Error (Model Engine) × World) :
    (shop.withMade made).contexts = shop.contexts ∧ (shop.withMade made).log = shop.log := by
  obtain ⟨result, world⟩ := made
  cases result <;> exact ⟨rfl, rfl⟩

/-- No callback is called when a solve begins, or does not begin. -/
theorem calls_of_begin? {model : Nat} {begun : Except Error (Assignment Engine)}
    (begins : shop.begin? model = some (begun, next)) (number : Nat) :
    calls number next.log = calls number shop.log := by
  obtain ⟨old, changed, later, -, -, rfl⟩ := begin?_eq_some begins
  cases begun with
  | error error => exact congrArg (calls number) (List.append_nil shop.log)
  | ok assignment => exact calls_concat_of_other rfl shop.log

/-- A solve that is finished leaves its model idle, with the result of the run. -/
theorem finish?_spec {model : Nat} {attempt : Attempt Engine} {result : Except Error Status}
    (finishes : shop.finish? model attempt = some (result, next)) :
    result = attempt.result.mapError .solve ∧ next.log = shop.log ++ [.finished model result]
      ∧ ∃ idle, next.models[model]? = some idle ∧ idle.isRunning = false := by
  obtain ⟨old, changed, later, found, finished, rfl⟩ := finish?_eq_some finishes
  obtain ⟨outcome, -, idle, -⟩ := old.finish_spec shop.solver attempt shop.world
  rw [finished] at outcome idle
  refine ⟨outcome, rfl, changed, List.getElem?_set_self ?_, idle⟩
  exact (List.getElem?_eq_some_iff.mp found).1

theorem delivery_of_deliver (moved : shop.move? (.deliver number) = some next) :
    Delivery shop next number := by
  cases moved_of_move? moved with
  | @deliver _ owned changed report callback result middle found receives finishes =>
    have before := getElem?_of_context? found
    obtain ⟨-, contexts⟩ := frame_of_finish? finishes
    obtain ⟨outcome, log, model, there, idle⟩ := finish?_spec finishes
    refine .intro owned changed report callback model result before (here_of_context? found)
      receives ?_ (fun other different => ?_) outcome there idle ?_
    · exact getElem?_setContext_self (contexts ▸ before) _
    · exact (getElem?_setContext_of_ne different _).trans (by rw [contexts])
    · change middle.log ++ _ = _
      rw [log, List.append_assoc]
      rfl

/-- **A step does nothing to a context but what `Handling` says.** -/
theorem handling_of_move? (moved : shop.move? move = some next) (number : Nat) :
    Handling shop next number move := by
  cases moved_of_move? moved with
  | create | read =>
    obtain ⟨contexts, log⟩ := frame_withMade shop _
    exact handling_of_same (by rw [contexts]) nofun rfl (by rw [log])
  | ask | edit | configure | dispose | release | attempt => exact handling_of_same rfl nofun rfl rfl
  | refused begins | begin begins =>
    obtain ⟨-, contexts⟩ := frame_of_begin? begins
    exact handling_of_same (by simp only [contexts]) nofun rfl (calls_of_begin? begins number)
  | finish waits finishes =>
    obtain ⟨-, contexts⟩ := frame_of_finish? finishes
    obtain ⟨-, log, -⟩ := finish?_spec finishes
    exact handling_of_same (by simp only [contexts]) nofun rfl (log ▸ calls_concat_of_other rfl shop.log)
  | openContext workers =>
    by_cases inside : number < shop.contexts.length
    · exact handling_of_same (List.getElem?_append_left inside) nofun rfl rfl
    · have outside := Nat.le_of_not_lt inside
      refine .absent (List.getElem?_eq_none outside) (fun owned after => ?_) rfl rfl
      rw [List.getElem?_append_right outside] at after
      exact ⟨workers, List.mem_singleton.mp (List.mem_of_getElem? after)⟩
  | declined callback found free refuses =>
    obtain ⟨-, contexts⟩ := frame_of_begin? refuses
    refine handling_of_same (by rw [contexts]) nofun ?_ (calls_of_begin? refuses number)
    simp [submission?, refuses]
  | @submit context model owned assignment middle callback found free begins =>
    obtain ⟨-, contexts⟩ := frame_of_begin? begins
    have called : calls number (middle.log ++ [.accepted context owned.nextTicket model])
        = calls number shop.log :=
      (calls_concat_of_other rfl middle.log).trans (calls_of_begin? begins number)
    have before := getElem?_of_context? found
    by_cases same : context = number
    · subst same
      refine .submitted owned ⟨model, callback, assignment⟩ before (here_of_context? found) free
        (getElem?_setContext_self (contexts ▸ before) _) ?_ called
      simp [submission?, begins]
    · refine handling_of_same ?_ nofun (if_neg same) called
      exact (getElem?_setContext_of_ne same _).trans (by rw [contexts])
  | @hand context owned changed found hands =>
    by_cases same : context = number
    · subst same
      have before := getElem?_of_context? found
      obtain ⟨job, -, stepped⟩ := OwnedContext.stepped_of_hand? hands
      exact .stepped owned changed _ before (here_of_context? found) (.hand job) stepped
        (getElem?_setContext_self before _) rfl rfl
    · exact handling_of_same (getElem?_setContext_of_ne same _) nofun rfl rfl
  | @pool context step owned changed found moves =>
    by_cases same : context = number
    · subst same
      have before := getElem?_of_context? found
      exact .stepped owned changed _ before (here_of_context? found) (.pool step)
        (OwnedContext.stepped_of_poolMove? moves) (getElem?_setContext_self before _) rfl rfl
    · exact handling_of_same (getElem?_setContext_of_ne same _)
        (fun _ move => same (WorkshopMove.pool.inj move).1) rfl rfl
  | @work context index owned job found has =>
    have called : calls number (shop.log ++ [.ended context job.ticket
        (shop.solver.attempt job.assignment shop.world).1.result]) = calls number shop.log :=
      calls_concat_of_other rfl shop.log
    by_cases same : context = number
    · subst same
      have before := getElem?_of_context? found
      exact .worked owned index job _ rfl before (here_of_context? found) has rfl
        (getElem?_setContext_self before _) rfl called
    · exact handling_of_same (getElem?_setContext_of_ne same _) nofun rfl called
  | @deliver context =>
    have delivery := delivery_of_deliver moved
    by_cases here : context = number
    · subst here
      exact .delivered rfl delivery
    · obtain ⟨-, -, report, callback, -, result, -, -, -, -, others, -, -, -, log⟩ := delivery
      refine handling_of_same (others number here) nofun rfl ?_
      rw [log, calls_append]
      cases callback <;> simp [calls, call?, here]
  | @leave context owned changed found leaves =>
    by_cases same : context = number
    · subst same
      have before := getElem?_of_context? found
      exact .left owned changed rfl before leaves (getElem?_setContext_self before _) rfl rfl
    · exact handling_of_same (getElem?_setContext_of_ne same _) nofun rfl rfl

end LinearProgram.Workshop
