/-
**A solve in the background comes to the same as one that is waited for.**

* `Context.Orderly`: a context that was only ever handed solves, and let its workers work and its
  results be delivered. `Orderly.eq_of_pending`: it has nothing to do when no callback waits.
* `Session.Orderly`: the same of the context of a session, if it has one. `Orderly.work`,
  `Orderly.deliver`, `Orderly.settle`, `Orderly.collect`, `Orderly.perform`: it stays so.
* `Session.collect_of_deliver`, `Session.collect_of_work`, `Session.collect_of_none`: collecting, one
  step at a time.
* `Session.Quiet`: nothing is under way. `Session.collect_submit`, `Session.deliver_ended`: a single
  solve in the background, from its ticket to its delivery.
* **`agreement_of_solves`**: a solve in the background and then waiting for it, compared to a solve
  that is waited for.
-/

import LinearProgram.Proofs.Session.Deliveries
import LinearProgram.Proofs.Session.Lifecycle

namespace LinearProgram

variable {World Engine : Type}

/-! ### Contexts -/

namespace Context

/-- **All that is under way**, what was handed over first in front. -/
def errands (context : Context Engine) : List (Errand Engine) :=
  (context.channel ++ context.running).map (fun run => .report ⟨run.ticket, run.model, run.attempt⟩)
    ++ context.queue.map .job

/-- **A context that agrees with what was handed to it**, whatever that was. -/
def Orderly (context : Context Engine) : Prop :=
  1 ≤ context.workers ∧ ∃ (submissions : List (Submission Engine)) (called : List Nat),
    context.nextTicket = submissions.length
      ∧ Ledger (fun _ _ => True) submissions called context.callbacks context.errands

variable {context next : Context Engine}

theorem orderly_new {workers : Nat} (staffed : 1 ≤ workers) :
    Orderly ({ workers } : Context Engine) :=
  ⟨staffed, [], [], rfl, .nil _⟩

theorem Orderly.submit (orderly : context.Orderly) (model : Nat) (assignment : Assignment Engine)
    (callback : Callback) : (context.submit model assignment callback).Orderly := by
  obtain ⟨staffed, submissions, called, next, ledger⟩ := orderly
  have more := ledger.submit ⟨model, callback, assignment⟩
  rw [← next] at more
  refine ⟨staffed, submissions ++ [⟨model, callback, assignment⟩], called, ?_, ?_⟩
  · rw [List.length_append, List.length_singleton, ← next]
    rfl
  · simpa [errands, Context.submit] using more

/-- A worker that takes a solve. -/
theorem take?_eq_some {solver : Solver World Engine} {now : Nat} {world later : World}
    (took : context.take? solver now world = some (next, later)) :
    ∃ job queue attempt, context.queue = job :: queue
      ∧ next = { context with
        queue, running := context.running
          ++ [⟨job.ticket, job.model, attempt, now + attempt.duration⟩] } := by
  unfold take? at took
  split at took
  · cases took
  next job queue waits =>
    rcases run : solver.attempt job.assignment world with ⟨attempt, after⟩
    rw [run] at took
    split at took
    next free =>
      cases took
      exact ⟨job, queue, attempt, waits, rfl⟩
    · cases took

theorem Orderly.take (orderly : context.Orderly) {solver : Solver World Engine} {now : Nat}
    {world later : World} (took : context.take? solver now world = some (next, later)) :
    next.Orderly := by
  obtain ⟨staffed, submissions, called, tickets, ledger⟩ := orderly
  obtain ⟨job, queue, attempt, waits, rfl⟩ := take?_eq_some took
  -- The result stands where the solve stood, at the end of the runs.
  have place : context.errands
      = (context.channel ++ context.running).map
          (fun run => .report ⟨run.ticket, run.model, run.attempt⟩)
        ++ .job job :: queue.map .job := by
    rw [errands, waits, List.map_cons]
  have ran := ledger.attempt attempt place fun _ _ _ => trivial
  refine ⟨staffed, submissions, called, tickets, ?_⟩
  simpa [errands] using ran

/-- The run that ends first is one of the runs. -/
theorem perm_of_earliest? {runs rest : List (Completion Engine)} {run : Completion Engine}
    (first : earliest? runs = some (run, rest)) : runs.Perm (run :: rest) := by
  induction runs generalizing run rest with
  | nil => cases first
  | cons head runs hyp =>
    unfold earliest? at first
    split at first
    next none =>
      cases first
      cases runs with
      | nil => exact .refl _
      | cons second runs =>
        unfold earliest? at none
        split at none
        · cases none
        · split at none <;> cases none
    next other others inner =>
      split at first <;> cases first
      · exact .refl _
      · exact ((hyp inner).cons head).trans (.swap _ _ _)

theorem Orderly.complete (orderly : context.Orderly) {time : Nat}
    (ended : context.complete? = some (time, next)) : next.Orderly := by
  obtain ⟨staffed, submissions, called, tickets, ledger⟩ := orderly
  obtain ⟨⟨run, rest⟩, first, same⟩ := Option.map_eq_some_iff.mp ended
  cases same
  refine ⟨staffed, submissions, called, tickets, ledger.perm ?_⟩
  have placed := (perm_of_earliest? first).append_left context.channel
  unfold errands
  dsimp only
  rw [List.append_assoc]
  exact (placed.symm.map _).append_right _

theorem Orderly.receive (orderly : context.Orderly) {completion : Completion Engine}
    {callback : Option Callback}
    (receives : context.receive? = some (completion, callback, next)) : next.Orderly := by
  obtain ⟨staffed, submissions, called, tickets, ledger⟩ := orderly
  unfold receive? at receives
  split at receives
  · cases receives
  next first channel items =>
    cases receives
    have place : context.errands
        = .report ⟨completion.ticket, completion.model, completion.attempt⟩
          :: ({ context with channel } : Context Engine).errands := by
      rw [errands, items]
      rfl
    exact ⟨staffed, submissions, called ++ [completion.ticket], tickets, ledger.receive place⟩

/-- **When no callback waits, nothing is under way.** -/
theorem Orderly.eq_of_pending (orderly : context.Orderly) (nothing : context.pending = 0) :
    1 ≤ context.workers
      ∧ context = { workers := context.workers, nextTicket := context.nextTicket } := by
  obtain ⟨staffed, submissions, called, -, ledger⟩ := orderly
  have idle := ledger.errands_eq_nil (List.length_eq_zero_iff.mp nothing)
  obtain ⟨workers, nextTicket, callbacks, queue, running, channel⟩ := context
  obtain rfl : callbacks = [] := List.length_eq_zero_iff.mp nothing
  simp only [errands, List.append_eq_nil_iff, List.map_eq_nil_iff] at idle
  obtain ⟨⟨rfl, rfl⟩, rfl⟩ := idle
  exact ⟨staffed, rfl⟩

/-- A free worker takes a single solve. -/
theorem take?_submit {workers : Nat} (staffed : 1 ≤ workers) (ticket number : Nat)
    (callback : Callback) {solver : Solver World Engine} {assignment : Assignment Engine}
    {world later : World} {attempt : Attempt Engine} (now : Nat)
    (ran : solver.attempt assignment world = (attempt, later)) :
    (({ workers, nextTicket := ticket } : Context Engine).submit number assignment callback).take?
      solver now world = some ({
        workers
        nextTicket := ticket + 1
        callbacks := [⟨ticket, number, callback⟩]
        running := [⟨ticket, number, attempt, now + attempt.duration⟩] }, later) := by
  have free : ([] : List (Completion Engine)).length < workers := staffed
  unfold take? submit
  dsimp only [List.nil_append]
  rw [if_pos free, ran]

end Context

/-! ### Sessions -/

namespace Session

/-- **The context of the session is orderly**, if there is one. -/
def Orderly (session : Session World Engine) : Prop :=
  ∀ context, session.context = some context → context.Orderly

variable {session next : Session World Engine} {number : Nat} {model : Model Engine}

theorem Orderly.congr (orderly : session.Orderly) (same : next.context = session.context) :
    next.Orderly := by
  intro context held
  exact orderly context (same ▸ held)

theorem Orderly.withContext (orderly : session.Orderly) : session.withContext.Orderly := by
  unfold Session.withContext
  split
  · exact orderly
  · intro context held
    cases held
    refine Context.orderly_new ?_
    split <;> omega

theorem Orderly.submit (orderly : session.Orderly) (number : Nat) (assignment : Assignment Engine)
    (callback : Callback) : (session.submit number assignment callback).Orderly := by
  intro context held
  obtain ⟨before, there, rfl⟩ := Option.map_eq_some_iff.mp held
  exact (orderly before there).submit number assignment callback

theorem Orderly.work (orderly : session.Orderly) {limit : Option Nat}
    (worked : session.work? limit = some next) : next.Orderly := by
  unfold work? at worked
  split at worked
  · cases worked
  next context held =>
    have before := orderly context held
    split at worked
    next took =>
      cases worked
      intro later held
      cases held
      exact before.take took
    · split at worked
      · cases worked
      next ended =>
        split at worked <;> cases worked
        intro later held
        cases held
        exact before.complete ended

theorem Orderly.repeatSolve (orderly : session.Orderly) (number : Nat) (callback : Callback) :
    (session.repeatSolve number callback).2.Orderly := by
  unfold Session.repeatSolve
  split
  · rcases begun : session.begin number with ⟨made, later⟩
    have kept : later.context = session.context := by
      rw [← context_begin session number, begun]
    cases made with
    | error error => exact orderly.congr kept
    | ok assignment => exact (orderly.congr kept).submit number assignment _
  · exact orderly

theorem Orderly.deliver (orderly : session.Orderly) {closing : Bool} {deliveries : List Delivery}
    (delivered : session.deliver? closing = some (deliveries, next)) : next.Orderly := by
  unfold deliver? at delivered
  split at delivered
  · cases delivered
  next context held =>
    split at delivered
    · cases delivered
    next completion callback rest receives =>
      have taken : ({ session with context := some rest }.finish completion.model
          completion.attempt).2.Orderly := by
        intro later held'
        cases held'
        exact (orderly context held).receive receives
      cases callback with
      | none =>
        cases delivered
        exact taken
      | some callback =>
        cases delivered
        refine Orderly.congr ?_ (context_releaseUnheld _ _)
        cases closing with
        | true => exact taken
        | false => exact taken.repeatSolve completion.model callback

theorem Orderly.settle (orderly : session.Orderly) (limit : Option Nat) :
    (session.settle limit).Orderly := by
  fun_induction Session.settle session limit with
  | case1 => exact orderly
  | case2 session next worked hyp => exact hyp (orderly.work worked)

theorem Orderly.pass (orderly : session.Orderly) (duration : Nat) :
    (session.pass duration).Orderly :=
  (orderly.settle _).congr rfl

/-- **Collecting leaves the context orderly.** -/
theorem Orderly.collect (orderly : session.Orderly) (limit : Option Nat) (closing : Bool) :
    (session.collect limit closing).2.Orderly := by
  fun_induction Session.collect session limit closing with
  | case1 session deliveries next delivered more last rest hyp =>
    have kept := hyp (orderly.deliver delivered)
    rw [rest] at kept
    exact kept
  | case2 session none next worked hyp => exact hyp (orderly.work worked)
  | case3 => exact orderly

theorem context_put (session : Session World Engine) (text : String) (sink : Sink) :
    (session.put text sink).2.context = session.context := by
  unfold put
  split
  · rfl
  · rfl
  · split <;> rfl

theorem Orderly.solve (orderly : session.Orderly) (number : Nat) :
    (session.solve number).2.Orderly := by
  unfold Session.solve
  rcases begun : session.begin number with ⟨made, later⟩
  have kept : later.context = session.context := by rw [← context_begin session number, begun]
  cases made with
  | error error => exact orderly.congr kept
  | ok assignment =>
    refine Orderly.congr (Orderly.pass ?_ _) (context_finish _ _ _)
    exact orderly.congr kept

theorem Orderly.solveLater (orderly : session.Orderly) (number : Nat) (callback : Callback) :
    (session.solveLater number callback).2.Orderly := by
  unfold Session.solveLater
  rcases begun : session.withContext.begin number with ⟨made, later⟩
  have kept : later.context = session.withContext.context := by
    rw [← context_begin session.withContext number, begun]
  cases made with
  | error error => exact orderly.withContext.congr kept
  | ok assignment => exact (orderly.withContext.congr kept).submit number assignment callback

/-- **Every request leaves the context orderly.** -/
theorem Orderly.perform (orderly : session.Orderly) (number : Nat) (model : Model Engine)
    (request : Request) : (session.perform number model request).2.Orderly := by
  cases request with
  | ask | edit | configure | dispose => exact orderly.congr rfl
  | isDisposed => exact orderly
  | write sink =>
    refine orderly.congr ?_
    unfold Session.perform write
    dsimp only
    split
    · rw [context_put]
      rfl
    · rfl
  | solve => exact orderly.solve number
  | solveLater callback => exact orderly.solveLater number callback

/-! ### Collecting, one step at a time -/

theorem collect_of_deliver {limit : Option Nat} {closing : Bool} {deliveries : List Delivery}
    (delivered : session.deliver? closing = some (deliveries, next)) :
    session.collect limit closing
      = (deliveries ++ (next.collect limit closing).1, (next.collect limit closing).2) := by
  rw [Session.collect]
  split
  next found =>
    rw [delivered] at found
    cases found
    rfl
  next none =>
    rw [delivered] at none
    cases none

theorem collect_of_work {limit : Option Nat} {closing : Bool}
    (none : session.deliver? closing = none) (worked : session.work? limit = some next) :
    session.collect limit closing = next.collect limit closing := by
  rw [Session.collect]
  split
  next found =>
    rw [none] at found
    cases found
  · split
    next found =>
      rw [worked] at found
      cases found
      rfl
    next found =>
      rw [worked] at found
      cases found

theorem collect_of_none {limit : Option Nat} {closing : Bool}
    (none : session.deliver? closing = none) (idle : session.work? limit = Option.none) :
    session.collect limit closing = ([], session) := by
  rw [Session.collect]
  split
  next found =>
    rw [none] at found
    cases found
  · split
    next found =>
      rw [idle] at found
      cases found
    · rfl

theorem settle_of_none {limit : Option Nat} (idle : session.work? limit = none) :
    session.settle limit = session := by
  rw [Session.settle]
  split
  · rfl
  next found =>
    rw [idle] at found
    cases found

/-! ### Nothing is pending -/

/-- **Nothing is under way in the background.** -/
def Quiet (session : Session World Engine) : Prop :=
  ∀ context, session.context = some context →
    1 ≤ context.workers ∧ context = { workers := context.workers, nextTicket := context.nextTicket }

theorem Orderly.quiet (orderly : session.Orderly) (nothing : session.pending = 0) :
    session.Quiet := by
  intro context held
  refine (orderly context held).eq_of_pending ?_
  rw [pending, held] at nothing
  exact nothing

namespace Quiet

variable (quiet : session.Quiet)
include quiet

theorem work (limit : Option Nat) : session.work? limit = none := by
  cases held : session.context with
  | none => rw [work?, held]
  | some context =>
    obtain ⟨-, same⟩ := quiet context held
    rw [work?, held, same]
    rfl

theorem deliver (closing : Bool) : session.deliver? closing = none := by
  cases held : session.context with
  | none => rw [deliver?, held]
  | some context =>
    obtain ⟨-, same⟩ := quiet context held
    rw [deliver?, held, same]
    rfl

theorem wait : session.wait = ([], session) :=
  collect_of_none (quiet.deliver false) (quiet.work none)

theorem pending : session.pending = 0 := by
  cases held : session.context with
  | none => rw [Session.pending, held]; rfl
  | some context =>
    obtain ⟨-, same⟩ := quiet context held
    rw [Session.pending, held, same]
    rfl

theorem pass (duration : Nat) :
    session.pass duration = { session with clock := session.clock + duration } := by
  rw [Session.pass, settle_of_none (quiet.work _)]

theorem exists_withContext : ∃ workers ticket, 1 ≤ workers
    ∧ session.withContext = { session with context := some { workers, nextTicket := ticket } } := by
  unfold Session.withContext
  split
  next context held =>
    obtain ⟨staffed, same⟩ := quiet context held
    refine ⟨context.workers, context.nextTicket, staffed, ?_⟩
    rw [← same, ← held]
  · refine ⟨_, 0, ?_, rfl⟩
    split <;> omega

end Quiet

theorem quiet_of_context {workers ticket : Nat} (staffed : 1 ≤ workers)
    (held : session.context = some { workers, nextTicket := ticket }) : session.Quiet := by
  intro context there
  rw [held] at there
  cases there
  exact ⟨staffed, rfl⟩

/-! ### A single solve in the background -/

/-- What is left to deliver of a single solve once its run has ended. -/
def ended (session : Session World Engine) (ticket number : Nat) (attempt : Attempt Engine)
    (callback : Callback) (workers : Nat) : Session World Engine :=
  { session with
    clock := session.clock + attempt.duration
    context := some {
      workers
      nextTicket := ticket + 1
      callbacks := [⟨ticket, number, callback⟩]
      channel := [⟨ticket, number, attempt, session.clock + attempt.duration⟩] } }

/-- **From the ticket of a single solve to the end of its run.** The only steps that can be made are
the ones of the worker that takes it. -/
theorem collect_submit (session : Session World Engine) (number : Nat) {workers ticket : Nat}
    (staffed : 1 ≤ workers) (held : session.context = some { workers, nextTicket := ticket })
    {assignment : Assignment Engine} {attempt : Attempt Engine} {later : World}
    (ran : session.solver.attempt assignment session.world = (attempt, later))
    (callback : Callback) : (session.submit number assignment callback).collect none false
      = ({ session with world := later }.ended ticket number attempt callback workers).collect none
          false := by
  have submitted : (session.submit number assignment callback).context
      = some (({ workers, nextTicket := ticket } : Context Engine).submit number assignment
        callback) := by
    rw [submit, held]
    rfl
  -- A worker takes the solve and runs it.
  have taken : (session.submit number assignment callback).work? none = some { session with
      world := later
      context := some {
        workers
        nextTicket := ticket + 1
        callbacks := [⟨ticket, number, callback⟩]
        running := [⟨ticket, number, attempt, session.clock + attempt.duration⟩] } } := by
    rw [work?, submitted]
    dsimp only
    have took := Context.take?_submit staffed ticket number callback session.clock ran
    have same : (session.submit number assignment callback).solver = session.solver
        ∧ (session.submit number assignment callback).clock = session.clock
        ∧ (session.submit number assignment callback).world = session.world := ⟨rfl, rfl, rfl⟩
    rw [same.1, same.2.1, same.2.2, took]
    rfl
  have waits : (session.submit number assignment callback).deliver? false = none := by
    rw [deliver?, submitted]
    rfl
  rw [collect_of_work waits taken]
  -- Its run ends.
  refine collect_of_work rfl ?_
  have last : max session.clock (session.clock + attempt.duration)
      = session.clock + attempt.duration := Nat.max_eq_right (Nat.le_add_right _ _)
  change some { session with
    world := later
    clock := max session.clock (session.clock + attempt.duration)
    context := some _ } = _
  rw [last]
  rfl

/-- **The delivery of a single solve**, whose callback is called with the result. -/
theorem deliver_ended (session : Session World Engine) {workers ticket : Nat}
    {attempt : Attempt Engine} (callback : Callback) {result : Except Error Status} {finished : Session World Engine}
    (finishes : { session with
      clock := session.clock + attempt.duration
      context := some { workers, nextTicket := ticket + 1 } }.finish number attempt
        = (result, finished)) :
    ∃ again after, (session.ended ticket number attempt callback workers).deliver? false
        = some (.called callback.label result :: again, after.releaseUnheld number)
      ∧ (callback.repeats = 0 → again = [] ∧ after = finished) := by
  have taken : Context.takeCallback ticket [⟨ticket, number, callback⟩]
      = (some callback, ([] : List Registration)) := by
    rw [Context.takeCallback, if_pos rfl]
  refine ⟨(finished.repeatSolve number callback).1, (finished.repeatSolve number callback).2, ?_, ?_⟩
  · unfold deliver? ended
    dsimp only
    unfold Context.receive?
    dsimp only
    rw [taken]
    dsimp only
    rw [finishes]
    rfl
  · intro once
    unfold repeatSolve
    rw [if_neg (by omega)]
    exact ⟨rfl, rfl⟩

/-! ### Both ways to solve -/

theorem begin_withContext (quiet : session.Quiet) (number : Nat) :
    session.withContext.begin number = ((session.begin number).1,
      { (session.begin number).2 with context := session.withContext.context }) := by
  obtain ⟨workers, ticket, -, made⟩ := quiet.exists_withContext
  rw [made]
  rfl

/-- A solve that is waited for, when nothing else is under way. -/
theorem Quiet.solve_eq_finish (quiet : session.Quiet) {assignment : Assignment Engine}
    {later : Session World Engine} (begun : session.begin number = (.ok assignment, later))
    {attempt : Attempt Engine} {world : World}
    (ran : later.solver.attempt assignment later.world = (attempt, world)) :
    session.solve number
      = { later with world, clock := later.clock + attempt.duration }.finish number attempt := by
  have kept : later.context = session.context := by rw [← context_begin session number, begun]
  have quiet' : ({ later with world } : Session World Engine).Quiet := by
    intro context held
    exact quiet context (kept ▸ held)
  rw [Session.solve, begun]
  dsimp only
  rw [ran]
  dsimp only
  rw [quiet'.pass]

theorem releaseUnheld_of_slot {slot : Nat} (held : session.slots.lookup slot = some number) :
    session.releaseUnheld number = session := by
  have there : session.isHeld number = true := by
    rw [isHeld, Bool.or_eq_true]
    refine .inl (List.any_eq_true.mpr ⟨(slot, number), ?_, beq_self_eq_true number⟩)
    obtain ⟨before, after, same, -⟩ := List.lookup_eq_some_iff.mp held
    rw [same]
    exact List.mem_append_right _ List.mem_cons_self
  rw [releaseUnheld, if_pos there]

/-- **How a solve in the background compares** to a solve that is waited for. -/
structure Compares (session : Session World Engine) (number : Nat) (callback : Callback) :
    Prop where
  /-- It is refused exactly when the other one fails before the engine runs, with the same error. -/
  refused_iff : ∀ error, (session.solveLater number callback).1 = .error error
    ↔ (session.begin number).1 = .error error
  /-- Then both leave the same, and no callback is called. -/
  refused : ∀ error, (session.solveLater number callback).1 = .error error →
    session.solve number = (.error error, (session.begin number).2)
      ∧ (session.solveLater number callback).2
        = { (session.solve number).2 with context := session.withContext.context }
      ∧ (session.solveLater number callback).2.wait
        = ([], (session.solveLater number callback).2)
  /-- Otherwise the callback is called with the result of the other one; and if it does not start
  another solve, both leave the same. -/
  accepted : (session.solveLater number callback).1 = .ok () → ∃ more last,
    (session.solveLater number callback).2.wait
        = (.called callback.label (session.solve number).1 :: more, last)
      ∧ (callback.repeats = 0 → more = [] ∧ last.pending = 0
        ∧ last = { (session.solve number).2 with context := last.context })

theorem compares_of_quiet (quiet : session.Quiet) {slot : Nat}
    (held : session.slots.lookup slot = some number) (callback : Callback) :
    session.Compares number callback := by
  obtain ⟨workers, ticket, staffed, made⟩ := quiet.exists_withContext
  have context : session.withContext.context = some { workers, nextTicket := ticket } := by rw [made]
  rcases begun : session.begin number with ⟨result, later⟩
  have slots : later.slots = session.slots := (congrArg (fun outcome => outcome.2.slots) begun).symm
  cases result with
  | error reason =>
    have solved : session.solve number = (.error reason, later) := by rw [solve, begun]
    have started : session.solveLater number callback
        = (.error reason, { later with context := session.withContext.context }) := by
      rw [solveLater, begin_withContext quiet, begun]
    have quiet' : ({ later with context := session.withContext.context }
        : Session World Engine).Quiet := quiet_of_context staffed context
    refine ⟨fun error => ?_, fun error failed => ?_, fun accepted => ?_⟩
    · rw [started, begun]
      constructor <;> intro same <;> cases same <;> rfl
    · rw [started] at failed ⊢
      cases failed
      rw [solved, begun]
      exact ⟨rfl, rfl, quiet'.wait⟩
    · rw [started] at accepted
      cases accepted
  | ok assignment =>
    have started : session.solveLater number callback
        = (.ok (), { later with context := session.withContext.context }.submit number assignment
          callback) := by
      rw [solveLater, begin_withContext quiet, begun]
    rcases ran : later.solver.attempt assignment later.world with ⟨attempt, world⟩
    have solved := quiet.solve_eq_finish begun ran
    refine ⟨fun error => ?_, fun error failed => ?_, fun _ => ?_⟩
    · rw [started, begun]
      constructor <;> intro same <;> cases same
    · rw [started] at failed
      cases failed
    · -- The delivery finishes the solve as the waiting holder does, but for the context.
      have finishes : ({ later with
          world
          clock := later.clock + attempt.duration
          context := some { workers, nextTicket := ticket + 1 } } : Session World Engine).finish
            number attempt = ((session.solve number).1, { (session.solve number).2 with
              context := some { workers, nextTicket := ticket + 1 } }) := by
        rw [solved]
        rfl
      obtain ⟨again, after, delivered, single⟩ := deliver_ended
        { later with world, context := session.withContext.context } callback finishes
      have ends := collect_submit { later with context := session.withContext.context } number
        staffed context ran callback
      have waited := ends.trans (collect_of_deliver delivered)
      rw [started]
      refine ⟨_, _, waited, fun once => ?_⟩
      obtain ⟨rfl, rfl⟩ := single once
      have kept : (session.solve number).2.slots = session.slots := by
        rw [solved]
        exact slots
      have still : ({ (session.solve number).2 with
          context := some { workers, nextTicket := ticket + 1 } } : Session World Engine).slots.lookup
            slot = some number := by
        rw [← held, ← kept]
      have quiet' : ({ (session.solve number).2 with
          context := some { workers, nextTicket := ticket + 1 } } : Session World Engine).Quiet :=
        quiet_of_context staffed rfl
      rw [releaseUnheld_of_slot still]
      have rest : ({ (session.solve number).2 with
          context := some { workers, nextTicket := ticket + 1 } } : Session World Engine).collect none
            false = ([], _) := quiet'.wait
      rw [rest]
      exact ⟨rfl, quiet'.pending, rfl⟩

/-- **A solve in the background and then waiting for it come to the same as a solve that is waited
for**, if the model is held in a slot and nothing is pending, whatever the state of the model and
whatever the factory and the engine do. The solve in the background is refused exactly when the other
one fails before the engine runs, with the same error and no callback; otherwise the callback is called
with the result of the other one. The models are left the same, with their solve states, solutions,
engines, problems and settings, and so are the engines' world and everything else but the context. -/
theorem agreement_of_solves {session : Session World Engine} (orderly : session.Orderly)
    (nothing : session.pending = 0) {slot number : Nat} {model : Model Engine}
    (held : session.model? slot = some (number, model)) (callback : Callback) :
    session.Compares number callback := by
  obtain ⟨there, found, rest⟩ := Option.bind_eq_some_iff.mp held
  obtain ⟨_, _, same⟩ := Option.bind_eq_some_iff.mp rest
  cases same
  exact compares_of_quiet (orderly.quiet nothing) found callback

/-- A session with one model, whose engine is going to break down. -/
def frailSession : Session Script ScriptedEngine where
  solver := scriptedSolver
  world := { solves := [⟨.brokeDown none, none⟩] }
  models := [{ engine := some {} }]
  slots := [(0, 0)]

/-- The breakdown is told to the callback. -/
theorem agreement_of_frailSession : ∃ (model : Model ScriptedEngine) (more : List Delivery)
    (last : Session Script ScriptedEngine), frailSession.model? 0 = some (0, model)
      ∧ frailSession.Orderly ∧ frailSession.pending = 0
      ∧ (frailSession.solveLater 0 ⟨"done", 0⟩).2.wait
        = (.called "done" (.error (.solve "engine panicked")) :: more, last)
      ∧ last.models = (frailSession.solve 0).2.models := by
  have orderly : frailSession.Orderly := fun _ held => nomatch held
  have compares := agreement_of_solves orderly rfl (show frailSession.model? 0 = some (0, _) from rfl)
    ⟨"done", 0⟩
  obtain ⟨more, last, waited, same⟩ := compares.accepted rfl
  obtain ⟨-, -, same⟩ := same rfl
  have there : frailSession.models[0]? = some { engine := some {} } := rfl
  obtain ⟨world, result, -⟩ := solve_eq there rfl
  rw [result] at waited
  refine ⟨_, more, last, rfl, orderly, rfl, waited, ?_⟩
  rw [same]

end Session

end LinearProgram
