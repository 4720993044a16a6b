/-
**What goes on in the background of a session.**

Workers take solves and finish them while time passes; results wait until the owner of the session
collects them. Collecting a result finishes the solve of its model, and then calls the callback,
which may start the model's next solve.

* `Session.begin`, `Session.finish`: the two ends of a solve.
* `Session.work?`: a step of the workers. `Session.deliver?`: the delivery of one result.
* `Session.pass`: lets time pass. `Session.collect`: delivers results, waiting for them up to a
  time.
* `Session.load`: what a step of either kind makes smaller, so that collecting ends.
-/

import LinearProgram.Session.Basic

namespace LinearProgram

/-- What came of a callback. -/
inductive Delivery where
  /-- The callback was called with the result of its solve. -/
  | called (label : String) (result : Except Error Status)
  /-- The solve was not started again. -/
  | rejected (label : String) (error : Error)

/-- Whether the delivery is that of a result. -/
def Delivery.isCall : Delivery → Bool
  | called .. => true
  | rejected .. => false

namespace Session

variable {World Engine : Type}

/-! ### The two ends of a solve -/

/-- Begins a solve of a model. -/
def begin (session : Session World Engine) (number : Nat) :
    Except Error (Assignment Engine) × Session World Engine :=
  let (begun, model, world) := (session.modelAt number).begin session.solver session.world
  (begun, { session.setModel number model with world })

/-- Finishes a solve of a model. -/
def finish (session : Session World Engine) (number : Nat) (attempt : Attempt Engine) :
    Except Error Status × Session World Engine :=
  let (result, model, world) := (session.modelAt number).finish session.solver attempt session.world
  (result, { session.setModel number model with world })

/-- Hands a solve to the context. -/
def submit (session : Session World Engine) (number : Nat) (assignment : Assignment Engine)
    (callback : Callback) : Session World Engine :=
  { session with
    context := session.context.map fun context => context.submit number assignment callback }

/-- The session with a context. -/
def withContext (session : Session World Engine) : Session World Engine :=
  match session.context with
  | some _ => session
  | none =>
    let workers := if session.workers = 0 then max 1 session.processors else session.workers
    { session with context := some { workers } }

/-! ### Steps -/

/-- **A step of the workers**: a free one takes a solve, or else the run that ends next ends, unless
that is after the limit. -/
def work? (session : Session World Engine) (limit : Option Nat) : Option (Session World Engine) :=
  match session.context with
  | none => none
  | some context =>
    match context.take? session.solver session.clock session.world with
    | some (context, world) => some { session with context := some context, world }
    | none =>
      match context.complete? with
      | none => none
      | some (time, context) =>
        if limit.all (time ≤ ·) then
          some { session with context := some context, clock := max session.clock time }
        else none

/-- What a callback does after it was called: it starts the solve of its model again, as often as it
is to. -/
def repeatSolve (session : Session World Engine) (number : Nat) (callback : Callback) :
    List Delivery × Session World Engine :=
  if 0 < callback.repeats then
    let label := callback.label ++ "+"
    match session.begin number with
    | (.error error, session) => ([.rejected label error], session)
    | (.ok assignment, session) =>
      ([], session.submit number assignment ⟨label, callback.repeats - 1⟩)
  else ([], session)

/-- **The delivery of the next result.** While the context is closing, no solve is started again. A
model that only the callback held ends after the call. -/
def deliver? (session : Session World Engine) (closing : Bool) :
    Option (List Delivery × Session World Engine) :=
  match session.context with
  | none => none
  | some context =>
    match context.receive? with
    | none => none
    | some (completion, callback, context) =>
      let (result, session) :=
        { session with context := some context }.finish completion.model completion.attempt
      match callback with
      | none => some ([], session)
      | some callback =>
        let (again, session) :=
          if closing then ([], session) else session.repeatSolve completion.model callback
        some (.called callback.label result :: again, session.releaseUnheld completion.model)

/-! ### Every step leaves less work -/

/-- The work that is left in the background. -/
def load (session : Session World Engine) : Nat :=
  (session.context.map (·.load)).getD 0

theorem load_work? {session next : Session World Engine} {limit : Option Nat}
    (found : session.work? limit = some next) : next.load < session.load := by
  unfold work? at found
  split at found
  · cases found
  · rename_i context held
    split at found
    · rename_i taken
      have less := Context.load_take? taken
      cases found
      simp only [load, held, Option.map_some, Option.getD_some]
      omega
    · split at found
      · cases found
      · rename_i ended
        have less := Context.load_complete? ended
        split at found <;> cases found
        simp only [load, held, Option.map_some, Option.getD_some]
        omega

@[simp] theorem context_begin (session : Session World Engine) (number : Nat) :
    (session.begin number).2.context = session.context := rfl

@[simp] theorem context_finish (session : Session World Engine) (number : Nat)
    (attempt : Attempt Engine) :
    (session.finish number attempt).2.context = session.context := rfl

@[simp] theorem context_releaseUnheld (session : Session World Engine) (number : Nat) :
    (session.releaseUnheld number).context = session.context := by
  unfold releaseUnheld
  split <;> rfl

theorem load_releaseUnheld (session : Session World Engine) (number : Nat) :
    (session.releaseUnheld number).load = session.load := by
  simp only [load, context_releaseUnheld]

theorem load_repeatSolve_le (session : Session World Engine) (number : Nat) (callback : Callback) :
    (session.repeatSolve number callback).2.load ≤ session.load + 4 * callback.repeats + 3 := by
  unfold repeatSolve
  split
  · rename_i repeated
    rcases begun : session.begin number with ⟨made, later⟩
    have kept : later.context = session.context := by
      rw [← context_begin session number, begun]
    cases made with
    | error error =>
      simp only [load, kept]
      omega
    | ok assignment =>
      cases held : session.context with
      | none =>
        simp only [load, submit, kept, held, Option.map_none, Option.getD_none]
        omega
      | some context =>
        have more := Context.load_submit context number assignment
          ⟨callback.label ++ "+", callback.repeats - 1⟩
        simp only [load, submit, kept, held, Option.map_some, Option.getD_some] at more ⊢
        omega
  · dsimp only
    omega

theorem load_deliver? {session next : Session World Engine} {closing : Bool}
    {deliveries : List Delivery} (found : session.deliver? closing = some (deliveries, next)) :
    next.load < session.load := by
  unfold deliver? at found
  split at found
  · cases found
  · rename_i context held
    split at found
    · cases found
    · rename_i completion callback rest received
      have less := Context.load_receive? received
      rcases finished : ({ session with context := some rest }.finish completion.model
        completion.attempt) with ⟨result, later⟩
      have kept : later.context = some rest := by
        have same := context_finish { session with context := some rest } completion.model
          completion.attempt
        rw [finished] at same
        exact same
      have same : later.load = rest.load := by
        simp only [load, kept, Option.map_some, Option.getD_some]
      have whole : session.load = context.load := by
        simp only [load, held, Option.map_some, Option.getD_some]
      simp only [finished] at found
      cases callback with
      | none =>
        cases found
        omega
      | some callback =>
        simp only [Option.map_some, Option.getD_some] at less
        have more := load_repeatSolve_le later completion.model callback
        cases closing <;> simp only [if_true, if_false, Bool.false_eq_true] at found <;>
          cases found <;> rw [load_releaseUnheld] <;> omega

/-! ### Time -/

/-- Lets the workers work until a time, which they need not use. -/
def settle (session : Session World Engine) (limit : Option Nat) : Session World Engine :=
  match _ : session.work? limit with
  | none => session
  | some next => next.settle limit
termination_by session.load
decreasing_by exact load_work? (by assumption)

/-- **Lets time pass.** -/
def pass (session : Session World Engine) (duration : Nat) : Session World Engine :=
  { session.settle (some (session.clock + duration)) with clock := session.clock + duration }

/-- **Delivers results**, the oldest first, and waits for more as long as there are solves in the
background that end within the limit. -/
def collect (session : Session World Engine) (limit : Option Nat) (closing : Bool) :
    List Delivery × Session World Engine :=
  match _ : session.deliver? closing with
  | some (deliveries, next) =>
    let (more, last) := next.collect limit closing
    (deliveries ++ more, last)
  | none =>
    match _ : session.work? limit with
    | some next => next.collect limit closing
    | none => ([], session)
termination_by session.load
decreasing_by
  · exact load_deliver? (by assumption)
  · exact load_work? (by assumption)

/-! ### What the owner can do -/

/-- The number of callbacks that have not been called. -/
def pending (session : Session World Engine) : Nat :=
  (session.context.map (·.pending)).getD 0

/-- Delivers every result. -/
def wait (session : Session World Engine) : List Delivery × Session World Engine :=
  session.collect none false

/-- Delivers the results there are. -/
def poll (session : Session World Engine) : List Delivery × Session World Engine :=
  session.collect (some session.clock) false

/-- Delivers results until everything is delivered or the time is up. With no time at all nothing is
delivered. -/
def waitUpTo (session : Session World Engine) (duration : Nat) :
    List Delivery × Session World Engine :=
  if duration = 0 then ([], session)
  else
    let (deliveries, last) := session.collect (some (session.clock + duration)) false
    (deliveries, if last.pending = 0 then last else { last with clock := session.clock + duration })

/-- Gives up the context. Every solve is finished and every result delivered first. -/
def close (session : Session World Engine) : List Delivery × Session World Engine :=
  let (deliveries, session) := session.collect none true
  (deliveries, { session with context := none })

end Session

end LinearProgram
