/-
**Every callback is called once, with the result of its own solve.**

* `Waits`: the owner of a context waits until no callback is left to call. `waits_spec`: what is true
  when it stops waiting. `exists_waits`: if only the context moves, the wait ends.
* `refused_submit`, `ticket_of_accepted`: what becomes of a solve that is handed over.
* **`deliveries_of_run`**: after every row of steps, each solve that a context took has had its
  callback called once or has it still waiting, in the order of the tickets if there is one worker.
  A context that was given up calls them all and goes, unless one of its workers missed the call.
* **`uncalled_of_lateMoves`**: a worker can miss it, and then callbacks are never called and models
  stay running.
-/

import LinearProgram.Proofs.Session.ContextProgress
import LinearProgram.Solver.Fixed

namespace LinearProgram

variable {World Engine : Type}

namespace Workshop

open OwnedContext

variable {start shop next last : Workshop World Engine} {moves : List WorkshopMove}
  {move : WorkshopMove} {number : Nat} {nested : Bool} {owned : OwnedContext Engine}

/-! ### Waiting -/

/-- **The owner of a context waits** until no callback is left to call, with the steps that are made
meanwhile, and the number of results that it takes. Other steps than its own may come in between;
those of its callbacks are among them, and they take results of the context too only if callbacks
wait on it themselves. -/
inductive Waits (number : Nat) (nested : Bool) :
    Workshop World Engine → List WorkshopMove → Nat → Workshop World Engine → Prop
  | done (shop : Workshop World Engine) (owned : OwnedContext Engine)
    (found : shop.context? number = some owned) (none : owned.pending = 0) :
    Waits number nested shop [] 0 shop
  | received (shop middle last : Workshop World Engine) (owned : OwnedContext Engine)
    (more : List WorkshopMove) (count : Nat) (found : shop.context? number = some owned)
    (waiting : 0 < owned.pending) (moved : shop.move? (.deliver number) = some middle)
    (rest : Waits number nested middle more count last) :
    Waits number nested shop (.deliver number :: more) (count + 1) last
  | meanwhile (shop middle last : Workshop World Engine) (move : WorkshopMove)
    (more : List WorkshopMove) (count : Nat) (other : move = .deliver number → nested = true)
    (moved : shop.move? move = some middle) (rest : Waits number nested middle more count last) :
    Waits number nested shop (move :: more) count last

/-- **When a wait ends** no callback is left to call; and if no callback waited itself, it took as
many results as callbacks were called. -/
theorem waits_spec {solver : Solver World Engine} {world : World} {more : List WorkshopMove}
    {count : Nat} (ran : run? { solver, world } moves = some shop)
    (waits : Waits number nested shop more count last) :
    run? { solver, world } (moves ++ more) = some last
      ∧ (∃ owned, last.context? number = some owned ∧ owned.pending = 0)
      ∧ (nested = false →
        (calls number last.log).length = (calls number shop.log).length + count) := by
  induction waits generalizing moves with
  | done shop owned found none =>
    rw [List.append_nil]
    exact ⟨ran, ⟨owned, found, none⟩, fun _ => rfl⟩
  | received shop middle last owned more count found waiting moved rest hyp =>
    have ran' : run? { solver, world } (moves ++ [.deliver number]) = some middle := by
      rw [run?_snoc, ran]
      exact moved
    obtain ⟨all, idle, counted⟩ := hyp ran'
    rw [List.append_assoc] at all
    refine ⟨all, idle, fun alone => ?_⟩
    rcases calls_of_move? (booked_of_run ran number) moved with ⟨other, -⟩ | ⟨-, call, called⟩
    · exact absurd rfl other
    · rw [counted alone, called, List.length_append, List.length_singleton]
      omega
  | meanwhile shop middle last move more count other moved rest hyp =>
    have ran' : run? { solver, world } (moves ++ [move]) = some middle := by
      rw [run?_snoc, ran]
      exact moved
    obtain ⟨all, idle, counted⟩ := hyp ran'
    rw [List.append_assoc] at all
    refine ⟨all, idle, fun alone => ?_⟩
    rcases calls_of_move? (booked_of_run ran number) moved with ⟨-, same⟩ | ⟨deliver, -⟩
    · rw [counted alone, same]
    · exact absurd ((other deliver).symm.trans alone) Bool.noConfusion

/-- At rest no callback is left to call in a context that was not given up. -/
theorem pending_of_atRest {solver : Solver World Engine} {world : World}
    (ran : run? { solver, world } moves = some shop) (found : shop.contexts[number]? = some owned)
    (opened : owned.pool.owner.hasClosed = false) (rest : shop.AtRest number) :
    owned.pending = 0 := by
  have booked := (booked_of_run ran number).booked owned found
  have here := booked.sound.here_of_hasJoined (hasJoined_of_hasClosed opened)
  obtain rfl := solver_of_run? ran
  have accounts := accounts_of_reachable ⟨world, moves, ran⟩
  have settled :=
    settled_of_atRest accounts booked.sound (context?_eq_some_iff.mpr ⟨found, here⟩) rest
  rcases settled with ⟨-, none⟩ | ⟨⟨joined, joining⟩, -⟩
  · obtain ⟨-, empty⟩ := booked.ledger.called_perm none
    rw [pending, empty]
    rfl
  · rw [joining] at opened
    cases opened

/-- **A wait ends** if only the context moves. -/
theorem exists_waits {solver : Solver World Engine} {world : World}
    (ran : run? { solver, world } moves = some shop) (found : shop.contexts[number]? = some owned)
    (opened : owned.pool.owner.hasClosed = false) : ∃ more count last,
      Waits number false shop more count last ∧ ∀ move ∈ more, move.IsOwn number := by
  induction left : owned.effort using Nat.strongRecOn generalizing moves shop owned with
  | ind effort hyp =>
    subst left
    have sound := ((booked_of_run ran number).booked owned found).sound
    have here := sound.here_of_hasJoined (hasJoined_of_hasClosed opened)
    have found' := context?_eq_some_iff.mpr ⟨found, here⟩
    by_cases none : owned.pending = 0
    · exact ⟨[], 0, shop, .done shop owned found' none, nofun⟩
    · have restless : ¬ shop.AtRest number :=
        fun rest => none (pending_of_atRest ran found opened rest)
      unfold AtRest at restless
      push Not at restless
      obtain ⟨move, own, moves'⟩ := restless
      obtain ⟨next, moved⟩ := Option.ne_none_iff_exists'.mp moves'
      obtain ⟨old, changed, found'', there, less, kept⟩ := effort_of_move? own moved
      obtain rfl := Option.some.inj (found'.symm.trans found'')
      have ran' : run? { solver, world } (moves ++ [move]) = some next := by
        rw [run?_snoc, ran]
        exact moved
      obtain ⟨more, count, last, waits, owns⟩ := hyp _ less ran' there (kept.trans opened) rfl
      have owns := List.forall_mem_cons.mpr ⟨own, owns⟩
      by_cases deliver : move = .deliver number
      · subst deliver
        exact ⟨_, count + 1, last, .received shop next last owned more count found'
          (Nat.pos_of_ne_zero none) moved waits, owns⟩
      · exact ⟨_, count, last, .meanwhile shop next last move more count
          (fun same => absurd same deliver) moved waits, owns⟩

/-! ### Accepted and refused -/

/-- A solve that does not begin leaves contexts and log alone. -/
theorem refused_submit {model : Nat} {callback : Callback} {error : Error}
    {middle : Workshop World Engine}
    (moved : shop.move? (.submit number model callback) = some next)
    (refused : shop.begin? model = some (.error error, middle)) :
    shop.submission? number (.submit number model callback) = none
      ∧ next.contexts = shop.contexts ∧ next.log = shop.log := by
  cases moved_of_move? moved with
  | declined _ _ _ refuses =>
    obtain ⟨old, changed, later, -, -, rfl⟩ := begin?_eq_some refuses
    exact ⟨by simp [submission?, refused], rfl, List.append_nil shop.log⟩
  | submit _ _ _ begins => cases refused.symm.trans begins

/-- A solve that begins gets the next ticket. -/
theorem accepted_submit {model : Nat} {callback : Callback} {assignment : Assignment Engine}
    {middle : Workshop World Engine}
    (moved : shop.move? (.submit number model callback) = some next)
    (began : shop.begin? model = some (.ok assignment, middle)) :
    shop.submission? number (.submit number model callback) = some ⟨model, callback, assignment⟩
      ∧ ∃ owned, shop.context? number = some owned
        ∧ next.log = middle.log ++ [.accepted number owned.nextTicket model] := by
  cases moved_of_move? moved with
  | declined _ _ _ refuses => cases began.symm.trans refuses
  | submit _ found _ begins =>
    cases began.symm.trans begins
    exact ⟨by simp [submission?, began], _, found, rfl⟩

/-- **A solve that a context took** goes by its ticket from then on. -/
theorem ticket_of_accepted {solver : Solver World Engine} {world : World} {model : Nat}
    {callback : Callback} {assignment : Assignment Engine} {middle : Workshop World Engine}
    (made : Made { solver, world } moves shop (.submit number model callback) next)
    (began : shop.begin? model = some (.ok assignment, middle)) :
    ∃ ticket, (submissions { solver, world } number moves)[ticket]?
        = some ⟨model, callback, assignment⟩
      ∧ next.log = middle.log ++ [.accepted number ticket model] := by
  obtain ⟨earlier, later, rfl, ran, moved⟩ := made
  obtain ⟨handed, owned, found, log⟩ := accepted_submit moved began
  have books := (booked_of_run ran number).booked owned (getElem?_of_context? found)
  refine ⟨owned.nextTicket, ?_, log⟩
  rw [submissions_append ran, submissions, handed, books.next,
    List.getElem?_append_right (Nat.le_refl _), Nat.sub_self]
  rfl

/-! ### Whole runs -/

/-- A model that is running has its solve in flight. -/
theorem exists_flight (accounts : shop.Accounts) {model : Nat} {running : Model Engine}
    (found : shop.models[model]? = some running) (runs : running.isRunning = true) :
    ∃ flight, (model, flight) ∈ shop.flights := by
  have account := accounts.account model running found
  rcases flights : flightsOf model shop.flights with _ | ⟨flight, rest⟩
  · rw [flights] at account
    cases account with
    | resting _ idle => exact absurd (runs.symm.trans idle) Bool.noConfusion
  · have member : flight ∈ flightsOf model shop.flights := by simp [flights]
    obtain ⟨solve, there, rfl⟩ := List.mem_map.mp member
    obtain ⟨there, same⟩ := List.mem_filter.mp there
    exact ⟨solve.2, beq_iff_eq.mp same ▸ there⟩

/-- **What becomes of a context that its owner gives up**, once all its workers have been called. -/
structure GivenUp (shop : Workshop World Engine) (number : Nat) (owned : OwnedContext Engine) :
    Prop where
  /-- If no worker sleeps or is about to, the context goes. -/
  goes : (∀ index, ¬ owned.pool.Dozes index) → ∀ more last, shop.run? more = some last →
    (∀ move ∈ more, move.IsOwn number) → last.AtRest number →
      ∃ later, last.contexts[number]? = some later ∧ later.isGone = true
  /-- If one does, then until it wakes up uncalled the context does not go, the callbacks that wait are
  not called, and their models are running. -/
  stays : ∀ index, owned.pool.Dozes index → ∀ more last, shop.run? more = some last →
    .pool number (.stir index) ∉ more → ∃ later, last.contexts[number]? = some later
      ∧ later.isGone = false ∧ ∀ registration ∈ owned.callbacks,
        registration.ticket ∉ calledTickets number last.log
          ∧ ∃ model, last.models[registration.model]? = some model ∧ model.isRunning = true

/-- A callback that waits was not called. -/
theorem not_mem_of_waits {solver : Solver World Engine} {world : World}
    (ran : run? { solver, world } moves = some shop) (found : shop.contexts[number]? = some owned)
    {registration : Registration} (waits : registration ∈ owned.callbacks) :
    registration.ticket ∉ calledTickets number shop.log := by
  have once := ((booked_of_run ran number).booked owned found).ledger.once
  obtain ⟨-, -, apart⟩ := List.nodup_append'.mp (once.nodup_iff.mpr List.nodup_range)
  exact fun called => apart called (List.mem_map_of_mem waits)

theorem givenUp_of_run {solver : Solver World Engine} {world : World} {joined : Nat}
    (ran : run? { solver, world } moves = some shop) (found : shop.contexts[number]? = some owned)
    (joining : owned.pool.owner = .joining joined) : GivenUp shop number owned := by
  have whole {more : List WorkshopMove} {last : Workshop World Engine}
      (further : shop.run? more = some last) :
      run? { solver, world } (moves ++ more) = some last := by
    rw [run?_append, ran]
    exact further
  constructor
  case goes =>
    intro awake more last further own rest
    obtain ⟨later, there, waned⟩ := waned_of_run ran found joining further
    refine ⟨later, there, ?_⟩
    by_contra here
    have found' := context?_eq_some_iff.mpr ⟨there, Bool.not_eq_true _ ▸ here⟩
    obtain rfl := solver_of_run? (whole further)
    have accounts := accounts_of_reachable ⟨world, _, whole further⟩
    have sound := ((booked_of_run (whole further) number).booked later there).sound
    obtain ⟨joined, joining⟩ := waned.joining
    rcases settled_of_atRest accounts sound found' rest with ⟨free, -⟩ | ⟨-, index, dozes⟩
    · cases joining.symm.trans free
    · exact awake index ((waned.dozes index).mp dozes).1
  case stays =>
    intro index dozes more last further uncalled
    obtain ⟨later, there, waned⟩ := waned_of_run ran found joining further
    obtain ⟨here, same⟩ := waned.stays index ((waned.dozes index).mpr ⟨dozes, uncalled⟩)
    refine ⟨later, there, here, fun registration waits => ?_⟩
    rw [← same] at waits
    exact ⟨not_mem_of_waits (whole further) there waits,
      running_of_registration (whole further) there waits⟩

/-- **The owner calls all workers** of a context that it gives up. Those do not hear it that have found
the flag not set and not fallen asleep yet. -/
theorem exists_callAll {solver : Solver World Engine} {world : World}
    (ran : run? { solver, world } moves = some shop) (found : shop.contexts[number]? = some owned)
    (closing : owned.pool.owner = .closing) :
    ∃ next changed, shop.move? (.pool number .callAll) = some next
      ∧ next.contexts[number]? = some changed ∧ changed.pool.owner = .joining 0
      ∧ (∀ index, changed.pool.Dozes index ↔ owned.pool.workers[index]? = some .drowsy)
      ∧ ∀ first second, changed.pool.Dozes first → changed.pool.Dozes second → first = second := by
  have sound := ((booked_of_run ran number).booked owned found).sound
  have here : owned.isGone = false := by
    refine sound.here_of_hasJoined ?_
    rw [WorkerPool.hasJoined, closing]
  have found' := context?_eq_some_iff.mpr ⟨found, here⟩
  have called : owned.poolMove? .callAll = some { owned with
      pool := { owned.pool with workers := owned.pool.workers.map (·.wake), owner := .joining 0 }
      channel := owned.channel ++ [] } := by
    have allowed : owned.allows .callAll = true :=
      allows_iff.mpr ⟨List.forall_mem_nil _, fun close => by cases close⟩
    unfold poolMove?
    dsimp only [PoolMove.map]
    rw [if_pos allowed, WorkerPool.move?_callAll closing]
    rfl
  refine ⟨_, _, (Moved.pool found' called).move?_eq, context?_setContext found' _, rfl,
    WorkerPool.dozes_callAll, fun first second one two => ?_⟩
  have one := (WorkerPool.dozes_callAll first).mp one
  have two := (WorkerPool.dozes_callAll second).mp two
  exact Option.some.inj (sound.orderly.exclusive _ _ (.worker one rfl) (.worker two rfl))

/-- **The callbacks of a context** after a row of steps. -/
structure Deliveries (start : Workshop World Engine) (moves : List WorkshopMove)
    (shop : Workshop World Engine) (number : Nat) (owned : OwnedContext Engine) : Prop where
  /-- A solve that begins is taken, and has a ticket from then on. -/
  accepted : ∀ before after model callback assignment middle,
    Made start moves before (.submit number model callback) after →
    before.begin? model = some (.ok assignment, middle) → ∃ ticket,
      (start.submissions number moves)[ticket]? = some ⟨model, callback, assignment⟩
        ∧ after.log = middle.log ++ [.accepted number ticket model]
  /-- Nothing is left of a solve that does not begin. -/
  refused : ∀ before after model callback error middle,
    Made start moves before (.submit number model callback) after →
    before.begin? model = some (.error error, middle) →
      before.submission? number (.submit number model callback) = none
        ∧ after.contexts = before.contexts ∧ after.log = before.log
  /-- Every ticket had its callback called once, or has it waiting. -/
  once : (calledTickets number shop.log ++ owned.callbacks.map (·.ticket)).Perm
    (List.range (start.submissions number moves).length)
  pending : owned.pending = (List.range (start.submissions number moves).length).countP
    fun ticket => ticket ∉ calledTickets number shop.log
  /-- Every callback was called with the result of its own solve, after that was finished. -/
  own : ∀ ticket result, .called number ticket result ∈ shop.log →
    Delivered start moves number ticket result
  /-- One worker keeps the order. -/
  ordered : owned.pool.workers.length = 1 → calledTickets number shop.log
    = List.range (calledTickets number shop.log).length
  /-- When a wait ends every callback was called, and the wait says how many it called. -/
  waits : ∀ nested more count last, Waits number nested shop more count last →
    (∃ later, last.context? number = some later ∧ later.pending = 0)
      ∧ (calledTickets number last.log).Perm
        (List.range (start.submissions number (moves ++ more)).length)
      ∧ (nested = false → (calledTickets number last.log).length
        = (calledTickets number shop.log).length + count)
  /-- The context comes to rest, however its own steps follow one another. -/
  rests : (∀ more last, shop.run? more = some last → (∀ move ∈ more, move.IsOwn number) →
      more.length ≤ owned.effort)
    ∧ ∃ more last, shop.run? more = some last ∧ (∀ move ∈ more, move.IsOwn number)
      ∧ last.AtRest number
  /-- At rest no callback is left in a context that was not given up; so a wait does end. -/
  ends : owned.pool.owner.hasClosed = false → (shop.AtRest number → owned.pending = 0)
    ∧ ∃ more count last, Waits number false shop more count last ∧ ∀ move ∈ more, move.IsOwn number
  /-- The workers are those of a pool that goes by tickets. -/
  pooled : ∃ count steps, (WorkerPool.ofSize count).run? steps = some (owned.pool.map (·.ticket))
  /-- An owner that gives the context up calls all workers. Those sleep on that have found the flag not
  set and not fallen asleep yet; there is one at most. -/
  closes : owned.pool.owner = .closing →
    ∃ next changed, shop.move? (.pool number .callAll) = some next
      ∧ next.contexts[number]? = some changed ∧ changed.pool.owner = .joining 0
      ∧ (∀ index, changed.pool.Dozes index ↔ owned.pool.workers[index]? = some .drowsy)
      ∧ ∀ first second, changed.pool.Dozes first → changed.pool.Dozes second → first = second
  /-- The rest depends on whether there is one. -/
  givenUp : ∀ joined, owned.pool.owner = .joining joined → GivenUp shop number owned
  /-- When a context is gone every callback was called, and no model is running because of it. -/
  gone : owned.isGone = true →
    (calledTickets number shop.log).Perm (List.range (start.submissions number moves).length)
      ∧ owned.flights = []
      ∧ ∀ model running, shop.models[model]? = some running → running.isRunning = true →
        ∃ flight, (model, flight) ∈ shop.otherFlights number

/-- **Every callback is called once.** After every row of steps, with any number of workers, models
and contexts: every solve that a context took had its callback called once or has it waiting, and a
refused one left nothing to call. A callback is called with the result of its own solve, and its
model is not running any more. When a wait ends, or a context is gone, all were called; with one
worker in the order of their tickets. A wait does end. A context that its owner gives up goes, unless
a worker had found the flag not set and was about to fall asleep when all workers were called: then it
does not go before that worker wakes up by itself, and the callbacks that wait are not called. -/
theorem deliveries_of_run {solver : Solver World Engine} {world : World}
    (ran : run? { solver, world } moves = some shop)
    (found : shop.contexts[number]? = some owned) :
    Deliveries { solver, world } moves shop number owned := by
  have booked := (booked_of_run ran number).booked owned found
  constructor
  case accepted =>
    intro before after model callback assignment middle made began
    exact ticket_of_accepted made began
  case refused =>
    intro before after model callback error middle ⟨_, _, _, _, moved⟩ refused
    exact refused_submit moved refused
  case once => exact booked.ledger.once
  case pending => exact booked.ledger.pending_eq
  case own =>
    intro ticket result called
    exact delivered_of_run ran called
  case ordered => exact booked.called_eq_range
  case waits =>
    intro nested more count last waits
    obtain ⟨ran', ⟨later, found', none⟩, counted⟩ := waits_spec ran waits
    have ledger := ((booked_of_run ran' number).booked later (getElem?_of_context? found')).ledger
    obtain ⟨all, -⟩ := ledger.called_perm (ledger.errands_eq_nil (List.length_eq_zero_iff.mp none))
    refine ⟨⟨later, found', none⟩, all, fun alone => ?_⟩
    rw [calledTickets, List.length_map, calledTickets, List.length_map]
    exact counted alone
  case rests =>
    refine ⟨fun more last further own => ?_, exists_atRest found⟩
    obtain ⟨later, -, bound⟩ := effort_of_run found further own
    omega
  case ends =>
    intro opened
    exact ⟨pending_of_atRest ran found opened, exists_waits ran found opened⟩
  case pooled => exact booked.pooled
  case closes => exact exists_callAll ran found
  case givenUp =>
    intro joined joining
    exact givenUp_of_run ran found joining
  case gone =>
    intro gone
    have none := booked.sound.errands_of_gone gone
    have landed : owned.flights = [] := by rw [OwnedContext.flights, none, List.map_nil]
    obtain ⟨all, -⟩ := booked.ledger.called_perm none
    refine ⟨all, landed, fun model running there runs => ?_⟩
    obtain rfl := solver_of_run? ran
    obtain ⟨flight, member⟩ := exists_flight (accounts_of_reachable ⟨world, moves, ran⟩) there runs
    have elsewhere := (flights_perm found).mem_iff.mp member
    rw [landed] at elsewhere
    exact ⟨flight, elsewhere⟩

/-- The owner of the first context hands a solve to its worker, who is awake. -/
def handOver (model : Nat) (callback : Callback) : List WorkshopMove :=
  [.submit 0 model callback, .hand 0, .pool 0 .add, .pool 0 .release, .pool 0 (.call 0)]

/-- The first worker of the first context takes a solve and its engine runs. -/
def takeUp : List WorkshopMove :=
  [.pool 0 (.worker 0), .pool 0 (.worker 0), .pool 0 (.worker 0), .work 0 0]

/-- A context with one worker is handed solves of two models, and another one of the first model once
that was delivered; then it is given up, and goes. -/
def goneContextMoves : List WorkshopMove :=
  List.flatten [[.create 1 2, .create 0 1, .openContext 1],
    handOver 0 ⟨"first", 1⟩, handOver 1 ⟨"second", 0⟩,
    takeUp, [.pool 0 (.worker 0), .deliver 0], handOver 0 ⟨"first", 0⟩,
    takeUp, [.pool 0 .close, .pool 0 .callAll, .pool 0 (.worker 0)],
    takeUp, List.replicate 5 (.pool 0 (.worker 0)),
    [.pool 0 .join, .deliver 0, .deliver 0, .leave 0]]

/-- The workshop in which those steps are made. -/
def emptyWorkshop : Workshop Unit FixedEngine :=
  { solver := fixedSolver (.status .optimal) 0, world := () }

/-- The context that is gone called its three callbacks in order. -/
theorem deliveries_of_goneContext : ∃ shop owned, emptyWorkshop.run? goneContextMoves = some shop
    ∧ shop.contexts[0]? = some owned ∧ owned.isGone = true
    ∧ Deliveries emptyWorkshop goneContextMoves shop 0 owned
    ∧ calledTickets 0 shop.log = [0, 1, 2] := by
  have made : (emptyWorkshop.run? goneContextMoves).isSome = true := rfl
  have there : ((emptyWorkshop.run? goneContextMoves).get made).contexts[0]?.isSome = true := rfl
  have ran := (Option.some_get made).symm
  have found := (Option.some_get there).symm
  have gone : (Option.get _ there).isGone = true := rfl
  have deliveries := deliveries_of_run ran found
  refine ⟨_, _, ran, found, gone, deliveries, ?_⟩
  obtain ⟨all, -⟩ := deliveries.gone gone
  have handed : (emptyWorkshop.submissions 0 goneContextMoves).length = 3 := rfl
  have ordered := deliveries.ordered rfl
  have three := all.length_eq
  rw [List.length_range] at three
  rw [three] at ordered
  exact ordered.trans (congrArg List.range handed)

/-- The worker of a context finds the queue empty and the flag not set, after it has put its only
result on the channel. The owner gives the context up before the worker sleeps. -/
def lateMoves : List WorkshopMove :=
  List.flatten [[.create 0 1, .openContext 1], handOver 0 ⟨"late", 0⟩,
    takeUp, List.replicate 4 (.pool 0 (.worker 0)),
    [.pool 0 .close, .pool 0 .callAll, .pool 0 (.worker 0)]]

/-- **A callback can be left uncalled for good**, though its solve was accepted and its engine has run:
the context cannot go on, and whatever else happens, until its worker wakes up uncalled it does not go,
the callback is not called, and the model is running. -/
theorem uncalled_of_lateMoves : ∃ (shop : Workshop Unit FixedEngine)
    (owned : OwnedContext FixedEngine), emptyWorkshop.run? lateMoves = some shop
      ∧ shop.contexts[0]? = some owned ∧ .accepted 0 0 0 ∈ shop.log ∧ owned.channel ≠ []
      ∧ owned.pool.isStranded = true ∧ shop.AtRest 0
      ∧ ∀ more last, shop.run? more = some last → .pool 0 (.stir 0) ∉ more →
        ∃ later model, last.contexts[0]? = some later ∧ later.isGone = false
          ∧ 0 ∉ calledTickets 0 last.log
          ∧ last.models[0]? = some model ∧ model.isRunning = true := by
  have made : (emptyWorkshop.run? lateMoves).isSome = true := rfl
  have there : ((emptyWorkshop.run? lateMoves).get made).contexts[0]?.isSome = true := rfl
  have ran := (Option.some_get made).symm
  have found := (Option.some_get there).symm
  have joining : (Option.get _ there).pool.owner = .joining 0 := rfl
  have waits : (⟨0, 0, ⟨"late", 0⟩⟩ : Registration) ∈ (Option.get _ there).callbacks :=
    List.mem_singleton_self _
  refine ⟨_, _, ran, found, ?_, nofun, rfl, fun move own => ?_, fun more last further uncalled => ?_⟩
  · exact List.mem_of_getElem? (show (Option.get _ made).log[1]? = some _ from rfl)
  · cases move with
    | hand | deliver | leave =>
      subst own
      rfl
    | work context worker =>
      subst own
      cases worker <;> rfl
    | pool context step =>
      obtain ⟨rfl, due⟩ := own
      cases step with
      | worker index => cases index <;> rfl
      | call | add | release | callAll | join => rfl
      | stir | submit | close => cases due
    | _ => cases own
  · have dozes : (Option.get _ there).pool.Dozes 0 := ⟨.asleep, rfl, rfl⟩
    obtain ⟨later, there', here, uncalls⟩ :=
      (givenUp_of_run ran found joining).stays 0 dozes more last further uncalled
    obtain ⟨silent, model, found', running⟩ := uncalls _ waits
    exact ⟨later, model, there', here, silent, found', running⟩

end Workshop

end LinearProgram
