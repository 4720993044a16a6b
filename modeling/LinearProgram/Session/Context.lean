/-
**Solves in the background.**

A context has a number of workers. A solve that is handed to it gets a ticket and waits in a queue;
a free worker takes the one that has waited longest. When a run ends its result is put at the end of
a channel, from which the owner of the context takes results one by one. Every ticket has a
callback, which is called when its result is taken and never again. A callback that is to start the
solve of its model again holds on to the model until then.

Time is counted in milliseconds. A run takes as long as its engine says, and everything else takes
no time.

* `Context.submit`: hands a solve to the context.
* `Context.take?`: a free worker takes a waiting solve. `Context.complete?`: the run that ends next.
* `Context.receive?`: the next result, with its callback.
* `Context.load`: a count of the work that is left. Taking, ending and receiving make it smaller,
  even if the callback starts another solve.
-/

import LinearProgram.Model.Request
import LinearProgram.Model.Solve

namespace LinearProgram

/-- A solve that waits for a worker. -/
structure Job (Engine : Type) where
  ticket : Nat
  model : Nat
  assignment : Assignment Engine

/-- A run with the time at which it ends, and its result. -/
structure Completion (Engine : Type) where
  ticket : Nat
  model : Nat
  attempt : Attempt Engine
  time : Nat

/-- A callback that has not been called. -/
structure Registration where
  ticket : Nat
  model : Nat
  callback : Callback
  deriving DecidableEq, Repr

/-- Whether the callback holds on to a model, which it does in order to start a solve again. -/
def Registration.keeps (registration : Registration) (model : Nat) : Bool :=
  registration.model == model && 0 < registration.callback.repeats

/-- Workers with the solves that they were handed. -/
structure Context (Engine : Type) where
  workers : Nat := 1
  nextTicket : Nat := 0
  /-- The callbacks that have not been called, the oldest ticket first. -/
  callbacks : List Registration := []
  queue : List (Job Engine) := []
  /-- What the workers are busy with. -/
  running : List (Completion Engine) := []
  /-- The results that nobody has taken, the oldest first. -/
  channel : List (Completion Engine) := []

namespace Context

variable {World Engine : Type}

/-- The number of solves whose callback has not been called. -/
def pending (context : Context Engine) : Nat :=
  context.callbacks.length

/-- **Hands a solve to the context.** -/
def submit (context : Context Engine) (model : Nat) (assignment : Assignment Engine)
    (callback : Callback) : Context Engine :=
  { context with
    nextTicket := context.nextTicket + 1
    callbacks := context.callbacks ++ [⟨context.nextTicket, model, callback⟩]
    queue := context.queue ++ [⟨context.nextTicket, model, assignment⟩] }

/-- **A free worker takes the solve that has waited longest** and runs it. -/
def take? (context : Context Engine) (solver : Solver World Engine) (now : Nat) (world : World) :
    Option (Context Engine × World) :=
  match context.queue with
  | [] => none
  | job :: queue =>
    if context.running.length < context.workers then
      let (attempt, world) := solver.attempt job.assignment world
      let run := ⟨job.ticket, job.model, attempt, now + attempt.duration⟩
      some ({ context with queue, running := context.running ++ [run] }, world)
    else none

/-- The first run to end, and the others. -/
def earliest? : List (Completion Engine) → Option (Completion Engine × List (Completion Engine))
  | [] => none
  | run :: runs =>
    match earliest? runs with
    | none => some (run, [])
    | some (other, rest) =>
      if run.time ≤ other.time then some (run, runs) else some (other, run :: rest)

/-- **The run that ends next** puts its result on the channel; the time at which it ends. -/
def complete? (context : Context Engine) : Option (Nat × Context Engine) :=
  (earliest? context.running).map fun (run, rest) =>
    (run.time, { context with running := rest, channel := context.channel ++ [run] })

/-- Takes a callback out by its ticket. -/
def takeCallback (ticket : Nat) : List Registration → Option Callback × List Registration
  | [] => (none, [])
  | registration :: rest =>
    if registration.ticket = ticket then (some registration.callback, rest)
    else
      let (found, rest) := takeCallback ticket rest
      (found, registration :: rest)

/-- **The next result on the channel**, with its callback. -/
def receive? (context : Context Engine) :
    Option (Completion Engine × Option Callback × Context Engine) :=
  match context.channel with
  | [] => none
  | completion :: channel =>
    let (callback, callbacks) := takeCallback completion.ticket context.callbacks
    some (completion, callback, { context with channel, callbacks })

/-! ### The work that is left -/

/-- What the callbacks may still ask for. -/
def demand : List Registration → Nat
  | [] => 0
  | registration :: rest => registration.callback.repeats + 1 + demand rest

/-- **A count of the work that is left.** A solve counts less the further it has come. -/
def load (context : Context Engine) : Nat :=
  4 * demand context.callbacks + 3 * context.queue.length + 2 * context.running.length
    + context.channel.length

theorem demand_append (first second : List Registration) :
    demand (first ++ second) = demand first + demand second := by
  induction first with
  | nil => exact (Nat.zero_add _).symm
  | cons registration rest hyp =>
    simp only [List.cons_append, demand, hyp]
    omega

theorem demand_takeCallback (ticket : Nat) (callbacks : List Registration) :
    demand (takeCallback ticket callbacks).2
      + (((takeCallback ticket callbacks).1.map fun callback => callback.repeats + 1).getD 0)
      = demand callbacks := by
  induction callbacks with
  | nil => rfl
  | cons registration rest hyp =>
    by_cases same : registration.ticket = ticket
    · simp only [takeCallback, same, if_true, demand, Option.map_some, Option.getD_some]
      omega
    · simp only [takeCallback, same, if_false, demand]
      omega

theorem load_take? {context next : Context Engine} {solver : Solver World Engine} {now : Nat}
    {world later : World} (found : context.take? solver now world = some (next, later)) :
    next.load + 1 = context.load := by
  unfold take? at found
  split at found
  · cases found
  · rename_i job queue items
    split at found <;> cases found
    simp only [load, items, List.length_append, List.length_cons, List.length_nil]
    omega

theorem length_earliest? {runs rest : List (Completion Engine)} {run : Completion Engine}
    (found : earliest? runs = some (run, rest)) : rest.length + 1 = runs.length := by
  induction runs generalizing run rest with
  | nil => cases found
  | cons first runs hyp =>
    simp only [earliest?] at found
    split at found
    · rename_i none
      cases found
      cases runs with
      | nil => rfl
      | cons second runs =>
        simp only [earliest?] at none
        split at none
        · cases none
        · split at none <;> cases none
    · rename_i other others inner
      have count := hyp inner
      split at found <;> cases found
      · rfl
      · simp only [List.length_cons]
        omega

theorem load_complete? {context next : Context Engine} {time : Nat}
    (found : context.complete? = some (time, next)) : next.load + 1 = context.load := by
  simp only [complete?, Option.map_eq_some_iff] at found
  obtain ⟨⟨run, rest⟩, earliest, same⟩ := found
  cases same
  have count := length_earliest? earliest
  simp only [load, List.length_append, List.length_singleton]
  omega

theorem load_receive? {context next : Context Engine} {completion : Completion Engine}
    {callback : Option Callback} (found : context.receive? = some (completion, callback, next)) :
    next.load + 4 * ((callback.map fun callback => callback.repeats + 1).getD 0) + 1
      = context.load := by
  unfold receive? at found
  split at found
  · cases found
  · rename_i first channel items
    cases found
    have total := demand_takeCallback completion.ticket context.callbacks
    simp only [load, items, List.length_cons]
    omega

theorem load_submit (context : Context Engine) (model : Nat) (assignment : Assignment Engine)
    (callback : Callback) :
    (context.submit model assignment callback).load
      = context.load + 4 * (callback.repeats + 1) + 3 := by
  simp only [load, submit, demand_append, demand, List.length_append, List.length_singleton]
  omega

end Context

end LinearProgram
