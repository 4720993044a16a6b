/-
**A stored solution belongs to the problem as it is.**

* `Built`, `Solved`: what an engine was given, and what came of the solve.
* `Account`: what holds of a model, of its solves in flight, and of what was written down about its
  last solve. `Accounts`: so it is for every model.
* `accounts_of_effect`: every step preserves it. `accounts_of_reachable`: so it holds in every
  state.
* **`solution_of_reachable`**: a stored solution is that of the last solve, which ended with an
  outcome that has one, and the problem is still the one that the engine was given then.
-/

import LinearProgram.Proofs.Session.Flights
import LinearProgram.Solver.Fixed

namespace LinearProgram

open Problem

variable {World Engine : Type}

/-! ### What an engine was given -/

/-- The engine as it was when it had taken the problem. -/
def Built (solver : Solver World Engine) (snapshot : Problem) (engine : Engine) : Prop :=
  ∃ before world later, solver.build snapshot before world = (.ok (), engine, later)

/-- **The solution is what came of a solve of the problem**, which ended with the outcome: the
engine took the problem, then it ran. -/
def Solved (solver : Solver World Engine) (snapshot : Problem) (status : Status)
    (solution : Solution) : Prop :=
  ∃ built options world run after later, Built solver snapshot built
    ∧ solver.run options built world = (run, after, later)
    ∧ run.verdict = .status status ∧ solver.solution after = some solution

/-- The flight is that of an engine that had taken the problem. -/
def Flight.IsOf (solver : Solver World Engine) (snapshot : Problem) : Flight Engine → Prop
  | .begun assignment => Built solver snapshot assignment.engine
  | .ended attempt => ∃ assignment world, Built solver snapshot assignment.engine
      ∧ (solver.attempt assignment world).1 = attempt

/-- A run that ended with an outcome has its engine. -/
theorem attempt_eq_ok {solver : Solver World Engine} {assignment : Assignment Engine}
    {world : World} {status : Status}
    (ended : (solver.attempt assignment world).1.result = .ok status) :
    ∃ run after later, solver.run assignment.options assignment.engine world = (run, after, later)
      ∧ run.verdict = .status status
      ∧ (solver.attempt assignment world).1.engine = some after := by
  rcases ran : solver.run assignment.options assignment.engine world with ⟨run, after, later⟩
  refine ⟨run, after, later, rfl, ?_⟩
  unfold Solver.attempt at ended ⊢
  rw [ran] at ended ⊢
  dsimp only at ended ⊢
  split at ended
  next status' verdict =>
    cases ended
    rw [verdict]
    exact ⟨rfl, rfl⟩
  next => cases ended
  next => cases ended
  next => cases ended

/-! ### Accounts -/

/-- **What holds of a model and its solves.** `last` is what was written down about its last solve.
Either no solve is in flight, and a solution is that of the last solve; or one is, and the model has
been running since it began. -/
inductive Account (solver : Solver World Engine)
    (last : Option (Problem × Option (Except Error Status))) :
    List (Flight Engine) → Model Engine → Prop
  | resting (model : Model Engine) (idle : model.isRunning = false)
    (solved : ∀ solution, model.solution = some solution → ∃ status snapshot,
      model.solveState = .completed status ∧ status.hasSolution = true
        ∧ last = some (snapshot, some (.ok status)) ∧ model.problem.Alike snapshot
        ∧ Solved solver snapshot status solution) : Account solver last [] model
  | flying (model : Model Engine) (flight : Flight Engine) (snapshot : Problem)
    (running : model.isRunning = true) (unsolved : model.solution = none)
    (begun : last = some (snapshot, none)) (alike : model.problem.Alike snapshot)
    (is_of : flight.IsOf solver snapshot) : Account solver last [flight] model

theorem Account.perm {solver : Solver World Engine}
    {last : Option (Problem × Option (Except Error Status))} {first second : List (Flight Engine)}
    {model : Model Engine} (account : Account solver last first model)
    (perm : second.Perm first) : Account solver last second model := by
  cases account with
  | resting _ idle solved =>
    rw [perm.eq_nil]
    exact .resting model idle solved
  | flying _ flight snapshot running unsolved begun alike is_of =>
    rw [perm.eq_singleton]
    exact .flying model flight snapshot running unsolved begun alike is_of

/-- A model with a solve in flight has no other one. -/
theorem Account.of_cons {solver : Solver World Engine}
    {last : Option (Problem × Option (Except Error Status))} {flight : Flight Engine}
    {rest : List (Flight Engine)} {model : Model Engine}
    (account : Account solver last (flight :: rest) model) :
    rest = [] ∧ model.isRunning = true ∧ model.solution = none
      ∧ ∃ snapshot, last = some (snapshot, none) ∧ model.problem.Alike snapshot
        ∧ flight.IsOf solver snapshot := by
  cases account with
  | flying _ _ snapshot running unsolved begun alike is_of =>
    exact ⟨rfl, running, unsolved, snapshot, begun, alike, is_of⟩

/-- A model that is not running has no solve in flight. -/
theorem Account.of_not_running {solver : Solver World Engine}
    {last : Option (Problem × Option (Except Error Status))} {flights : List (Flight Engine)}
    {model : Model Engine} (account : Account solver last flights model)
    (idle : model.isRunning = false) : flights = [] := by
  cases account with
  | resting => rfl
  | flying _ _ _ running =>
    rw [running] at idle
    cases idle

/-- A solution is that of the last solve. -/
theorem Account.solved {solver : Solver World Engine}
    {last : Option (Problem × Option (Except Error Status))} {flights : List (Flight Engine)}
    {model : Model Engine} (account : Account solver last flights model) {solution : Solution}
    (kept : model.solution = some solution) : ∃ status snapshot,
      model.solveState = .completed status ∧ status.hasSolution = true
        ∧ last = some (snapshot, some (.ok status)) ∧ model.problem.Alike snapshot
        ∧ Solved solver snapshot status solution := by
  cases account with
  | resting _ _ solved => exact solved solution kept
  | flying _ _ _ _ unsolved =>
    rw [unsolved] at kept
    cases kept

/-- A call that leaves the solves of a model alone leaves its account in order. -/
theorem Account.calm {solver : Solver World Engine}
    {last : Option (Problem × Option (Except Error Status))} {flights : List (Flight Engine)}
    {model next : Model Engine} (account : Account solver last flights model)
    (calm : Model.Calm model next) : Account solver last flights next := by
  have sameState : next.isRunning = model.isRunning := by
    rw [Model.isRunning, calm.solveState_eq, Model.isRunning]
  cases account with
  | resting _ idle solved =>
    refine .resting next (sameState.trans idle) fun solution kept => ?_
    rcases calm.solution with dropped | ⟨same, alike⟩
    · rw [dropped] at kept
      cases kept
    · rw [same] at kept
      obtain ⟨status, snapshot, completed, has, last, was, from_solve⟩ := solved solution kept
      exact ⟨status, snapshot, calm.solveState_eq.trans completed, has, last, alike.trans was,
        from_solve⟩
  | flying _ flight snapshot running unsolved begun alike is_of =>
    refine .flying next flight snapshot (sameState.trans running) ?_ begun
      ((calm.running running).trans alike) is_of
    rcases calm.solution with dropped | ⟨same, -⟩
    · exact dropped
    · exact same.trans unsolved

namespace Workshop

/-- The solves in flight of one model. -/
def flightsOf (number : Nat) (flights : List (Nat × Flight Engine)) : List (Flight Engine) :=
  (flights.filter fun flight => flight.1 == number).map (·.2)

theorem flightsOf_perm (number : Nat) {first second : List (Nat × Flight Engine)}
    (perm : first.Perm second) : (flightsOf number first).Perm (flightsOf number second) :=
  (perm.filter _).map _

theorem flightsOf_cons_self (number : Nat) (flight : Flight Engine)
    (rest : List (Nat × Flight Engine)) :
    flightsOf number ((number, flight) :: rest) = flight :: flightsOf number rest := by
  rw [flightsOf, List.filter_cons_of_pos (by exact beq_self_eq_true number)]
  rfl

theorem flightsOf_cons_of_ne {number other : Nat} (different : other ≠ number)
    (flight : Flight Engine) (rest : List (Nat × Flight Engine)) :
    flightsOf number ((other, flight) :: rest) = flightsOf number rest := by
  rw [flightsOf, List.filter_cons_of_neg]
  · rfl
  · exact fun same => different (beq_iff_eq.mp same)

theorem flightsOf_eq_nil {number : Nat} {first second : List (Nat × Flight Engine)}
    (perm : first.Perm second) (none : flightsOf number second = []) :
    flightsOf number first = [] := by
  have same := flightsOf_perm number perm
  rw [none] at same
  exact same.eq_nil

/-- The solves of one model, of which one is told apart. -/
theorem flightsOf_perm_cons {number : Nat} {flight : Flight Engine}
    {all rest : List (Nat × Flight Engine)} (perm : all.Perm ((number, flight) :: rest)) :
    (flightsOf number all).Perm (flight :: flightsOf number rest) := by
  have same := flightsOf_perm number perm
  rw [flightsOf_cons_self] at same
  exact same

/-- The solves of the other models. -/
theorem flightsOf_perm_of_ne {number other : Nat} (different : other ≠ number)
    {flight : Flight Engine} {all rest : List (Nat × Flight Engine)}
    (perm : all.Perm ((number, flight) :: rest)) :
    (flightsOf other all).Perm (flightsOf other rest) := by
  have same := flightsOf_perm other perm
  rw [flightsOf_cons_of_ne (Ne.symm different)] at same
  exact same

/-- **What holds of every model and its solves.** -/
structure Accounts (shop : Workshop World Engine) : Prop where
  stored : ∀ (number : Nat) (model : Model Engine), shop.models[number]? = some model →
    model.problem.WellStored
  account : ∀ (number : Nat) (model : Model Engine), shop.models[number]? = some model →
    Account shop.solver (lastSolve number shop.log) (flightsOf number shop.flights) model
  absent : ∀ number, shop.models[number]? = none → flightsOf number shop.flights = []

variable {shop next : Workshop World Engine}

/-- A step that leaves the models alone. -/
theorem Accounts.keep (accounts : shop.Accounts) (solver : next.solver = shop.solver)
    (models : next.models = shop.models) (flights : next.flights.Perm shop.flights)
    (log : ∀ number, lastSolve number next.log = lastSolve number shop.log) : next.Accounts := by
  constructor
  case stored =>
    intro number model found
    rw [models] at found
    exact accounts.stored number model found
  case account =>
    intro number model found
    rw [models] at found
    rw [solver, log]
    exact (accounts.account number model found).perm (flightsOf_perm number flights)
  case absent =>
    intro number absent
    rw [models] at absent
    exact flightsOf_eq_nil flights (accounts.absent number absent)

/-- A step that adds a model. -/
theorem Accounts.add (accounts : shop.Accounts) {model : Model Engine}
    (solver : next.solver = shop.solver) (models : next.models = shop.models ++ [model])
    (stored : model.problem.WellStored)
    (account : ∀ last, Account shop.solver last [] model)
    (flights : next.flights.Perm shop.flights)
    (log : ∀ number, lastSolve number next.log = lastSolve number shop.log) : next.Accounts := by
  have new : next.models[shop.models.length]? = some model := by
    rw [models, List.getElem?_concat_length]
  have old : ∀ number, number ≠ shop.models.length →
      next.models[number]? = shop.models[number]? := by
    intro number different
    rw [models, List.getElem?_append]
    split
    · rfl
    · rw [List.getElem?_eq_none, List.getElem?_eq_none]
      · omega
      · rw [List.length_singleton]
        omega
  have none : flightsOf shop.models.length next.flights = [] :=
    flightsOf_eq_nil flights (accounts.absent _ (List.getElem?_eq_none (Nat.le_refl _)))
  constructor
  case stored =>
    intro number model' found
    by_cases same : number = shop.models.length
    · rw [same, new] at found
      exact Option.some.inj found ▸ stored
    · rw [old number same] at found
      exact accounts.stored number model' found
  case account =>
    intro number model' found
    by_cases same : number = shop.models.length
    · rw [same, new] at found
      rw [same, none, solver]
      exact Option.some.inj found ▸ account _
    · rw [old number same] at found
      rw [solver, log]
      exact (accounts.account number model' found).perm (flightsOf_perm number flights)
  case absent =>
    intro number absent
    by_cases same : number = shop.models.length
    · rw [same, new] at absent
      cases absent
    · rw [old number same] at absent
      exact flightsOf_eq_nil flights (accounts.absent number absent)

/-- A step that changes one model at most. -/
theorem Accounts.update (accounts : shop.Accounts) {number : Nat} {model changed : Model Engine}
    (found : shop.models[number]? = some model) (solver : next.solver = shop.solver)
    (models : next.models = shop.models.set number changed) (stored : changed.problem.WellStored)
    (account : Account shop.solver (lastSolve number next.log) (flightsOf number next.flights)
      changed)
    (log : ∀ other, other ≠ number → lastSolve other next.log = lastSolve other shop.log)
    (flights : ∀ other, other ≠ number →
      (flightsOf other next.flights).Perm (flightsOf other shop.flights)) : next.Accounts := by
  have here : (shop.models.set number changed)[number]? = some changed :=
    List.getElem?_set_self (List.getElem?_eq_some_iff.mp found).1
  have elsewhere : ∀ other, other ≠ number →
      (shop.models.set number changed)[other]? = shop.models[other]? :=
    fun other different => List.getElem?_set_ne (Ne.symm different)
  constructor
  case stored =>
    intro other model there
    rw [models] at there
    by_cases same : other = number
    · subst same
      rw [here] at there
      exact Option.some.inj there ▸ stored
    · rw [elsewhere other same] at there
      exact accounts.stored other model there
  case account =>
    intro other model there
    rw [models] at there
    rw [solver]
    by_cases same : other = number
    · subst same
      rw [here] at there
      exact Option.some.inj there ▸ account
    · rw [elsewhere other same] at there
      rw [log other same]
      exact (accounts.account other model there).perm (flights other same)
  case absent =>
    intro other there
    rw [models] at there
    by_cases same : other = number
    · subst same
      rw [here] at there
      cases there
    · rw [elsewhere other same] at there
      have none := flights other same
      rw [accounts.absent other there] at none
      exact none.eq_nil

/-- **A model of which a solve is in flight** exists, and has been running since it began. -/
theorem Accounts.flying (accounts : shop.Accounts) {number : Nat} {flight : Flight Engine}
    {rest : List (Nat × Flight Engine)} (flights : shop.flights.Perm ((number, flight) :: rest)) :
    ∃ model, shop.models[number]? = some model ∧ flightsOf number rest = []
      ∧ model.isRunning = true ∧ model.solution = none
      ∧ ∃ snapshot, lastSolve number shop.log = some (snapshot, none)
        ∧ model.problem.Alike snapshot ∧ flight.IsOf shop.solver snapshot := by
  have all := flightsOf_perm_cons flights
  cases found : shop.models[number]? with
  | none =>
    rw [accounts.absent number found] at all
    exact absurd all.symm.eq_nil (List.cons_ne_nil _ _)
  | some model =>
    exact ⟨model, rfl, ((accounts.account number model found).perm all.symm).of_cons⟩

theorem noteSolve_begun_of_ne {number other : Nat} (different : other ≠ number)
    (last : Option (Problem × Option (Except Error Status))) (problem : Problem) :
    noteSolve other last (.begun number problem) = last :=
  if_neg (Ne.symm different)

theorem noteSolve_finished_of_ne {number other : Nat} (different : other ≠ number)
    (last : Option (Problem × Option (Except Error Status))) (result : Except Error Status) :
    noteSolve other last (.finished number result) = last :=
  if_neg (Ne.symm different)

/-- A solve that begins. -/
theorem Accounts.begin (accounts : shop.Accounts) {number : Nat} {model changed : Model Engine}
    {assignment : Assignment Engine} {world later : World}
    (found : shop.models[number]? = some model)
    (begun : model.begin shop.solver world = (.ok assignment, changed, later))
    (solver : next.solver = shop.solver) (models : next.models = shop.models.set number changed)
    (flights : next.flights.Perm ((number, .begun assignment) :: shop.flights))
    (log : ∀ other, lastSolve other next.log
      = noteSolve other (lastSolve other shop.log) (.begun number changed.problem)) :
    next.Accounts := by
  obtain ⟨idle, running, unsolved, stored, engine, before, built⟩ :=
    Model.begin_eq_ok (accounts.stored number model found) begun
  refine accounts.update found solver models stored ?_ (fun other different => ?_)
    fun other different => flightsOf_perm_of_ne different flights
  · have one := flightsOf_perm_cons flights
    rw [(accounts.account number model found).of_not_running idle] at one
    have isRunning : changed.isRunning = true := by
      rw [Model.isRunning, running]
      rfl
    rw [log]
    refine Account.perm ?_ one
    exact .flying changed (.begun assignment) changed.problem isRunning unsolved (if_pos rfl)
      (.refl _) ⟨engine, before, later, built⟩
  · rw [log, noteSolve_begun_of_ne different]

/-- An engine that runs. -/
theorem Accounts.attempt (accounts : shop.Accounts) {number : Nat}
    {assignment : Assignment Engine} {world : World} {rest : List (Nat × Flight Engine)}
    (solver : next.solver = shop.solver) (models : next.models = shop.models)
    (before : shop.flights.Perm ((number, .begun assignment) :: rest))
    (flights : next.flights.Perm
      ((number, .ended (shop.solver.attempt assignment world).1) :: rest))
    (log : ∀ number, lastSolve number next.log = lastSolve number shop.log) : next.Accounts := by
  obtain ⟨model, found, alone, running, unsolved, snapshot, begun, alike, built⟩ :=
    accounts.flying before
  have same : next.models = shop.models.set number model := by
    obtain ⟨inside, rfl⟩ := List.getElem?_eq_some_iff.mp found
    rw [models, List.set_getElem_self]
  refine accounts.update found solver same (accounts.stored number model found) ?_
    (fun other _ => log other) fun other different =>
      (flightsOf_perm_of_ne different flights).trans (flightsOf_perm_of_ne different before).symm
  have one := flightsOf_perm_cons flights
  rw [alone] at one
  rw [log]
  refine Account.perm ?_ one
  exact .flying model _ snapshot running unsolved begun alike ⟨assignment, world, built, rfl⟩

/-- A solve that is finished. -/
theorem Accounts.finish (accounts : shop.Accounts) {number : Nat} {model : Model Engine}
    {attempt : Attempt Engine} {world : World} (found : shop.models[number]? = some model)
    (solver : next.solver = shop.solver)
    (models : next.models
      = shop.models.set number (model.finish shop.solver attempt world).2.1)
    (flights : shop.flights.Perm ((number, .ended attempt) :: next.flights))
    (log : ∀ other, lastSolve other next.log = noteSolve other (lastSolve other shop.log)
      (.finished number (model.finish shop.solver attempt world).1)) : next.Accounts := by
  obtain ⟨model', found', alone, running, unsolved, snapshot, begun, alike, was⟩ :=
    accounts.flying flights
  obtain rfl := Option.some.inj (found'.symm.trans found)
  obtain ⟨result, problem, idle, solved⟩ := model'.finish_spec shop.solver attempt world
  refine accounts.update found solver models ?_ ?_ (fun other different => ?_)
    fun other different => (flightsOf_perm_of_ne different flights).symm
  · rw [problem]
    exact accounts.stored number model' found
  · rw [alone, log]
    refine .resting _ idle fun solution kept => ?_
    obtain ⟨status, succeeded, has, completed, of_engine⟩ := solved solution kept
    obtain ⟨assignment, started, built, rfl⟩ := was
    obtain ⟨run, after, later, ran, verdict, engine⟩ := attempt_eq_ok succeeded
    refine ⟨status, snapshot, completed, has, ?_, problem ▸ alike, ?_⟩
    · rw [noteSolve, if_pos rfl, begun, result, succeeded]
      rfl
    · exact ⟨_, _, _, run, after, later, built, ran, verdict, of_engine after engine⟩
  · rw [log, noteSolve_finished_of_ne different]

/-- **Every step preserves the accounts.** -/
theorem accounts_of_effect (accounts : shop.Accounts) (effect : Effect shop next) :
    next.Accounts := by
  cases effect with
  | quiet solver models flights log =>
    exact accounts.keep solver models flights (lastSolve_congr log)
  | made solver model models fresh flights log =>
    refine accounts.add solver models fresh.stored (fun last => ?_) flights (lastSolve_congr log)
    refine .resting model ?_ fun solution kept => ?_
    · rw [Model.isRunning, fresh.idle]
      rfl
    · rw [fresh.unsolved] at kept
      cases kept
  | called solver number model changed found call models flights log =>
    have calm := Model.calm_of_call (accounts.stored number model found) call
    have log := lastSolve_congr log
    refine accounts.update found solver models calm.stored ?_ (fun other _ => log other)
      fun other _ => flightsOf_perm other flights
    rw [log]
    exact ((accounts.account number model found).calm calm).perm (flightsOf_perm number flights)
  | began solver number model changed assignment later found begun models flights log =>
    exact accounts.begin found begun solver models flights (lastSolve_of_more log)
  | ran solver number assignment rest models before flights log =>
    exact accounts.attempt solver models before flights (lastSolve_congr log)
  | finished solver number model attempt found models flights log =>
    exact accounts.finish found solver models flights (lastSolve_of_more log)

theorem accounts_of_run? {moves : List WorkshopMove} (accounts : shop.Accounts)
    (ran : shop.run? moves = some next) : next.Accounts := by
  induction moves generalizing shop with
  | nil =>
    cases ran
    exact accounts
  | cons move rest hyp =>
    obtain ⟨middle, moved, ran⟩ := Option.bind_eq_some_iff.mp ran
    exact hyp (accounts_of_effect accounts (effect_of_move? moved)) ran

/-- **In every state the accounts are in order.** -/
theorem accounts_of_reachable (reachable : shop.Reachable) : shop.Accounts := by
  obtain ⟨world, moves, ran⟩ := reachable
  refine accounts_of_run? ?_ ran
  exact ⟨fun _ _ => nofun, fun _ _ => nofun, fun _ _ => rfl⟩

/-! ### Solutions of engines with a fixed answer -/

/-- A run of an engine without a solution leaves it without one, or with zeros. -/
theorem zeros_of_run {answer : FixedAnswer} {delay : Nat} {options : Options}
    {engine : FixedEngine} {solution : Solution} (unsolved : engine.solution = none)
    (solved : (engine.run answer delay options).2.solution = some solution) :
    solution = engine.zeros := by
  unfold FixedEngine.run at solved
  dsimp only at solved
  split at solved
  · rw [unsolved] at solved
    cases solved
  · split at solved
    next outcome =>
      dsimp only at solved
      split at solved
      · exact (Option.some.inj solved).symm
      · rw [unsolved] at solved
        cases solved
    next =>
      rw [unsolved] at solved
      cases solved

/-- The solution of an engine with a fixed answer has the dimensions that the engine was given. -/
theorem dimensions_of_solved {answer : FixedAnswer} {delay : Nat} {snapshot : Problem}
    {status : Status} {solution : Solution}
    (solved : Solved (fixedSolver answer delay) snapshot status solution) :
    solution.columns.length = snapshot.columnCount ∧ solution.rows.length = snapshot.rowCount := by
  obtain ⟨built, options, world, run, after, later, ⟨before, start, taken, took⟩, ran, -,
    of_engine⟩ := solved
  cases took
  have same : (FixedEngine.run _ answer delay options).2 = after :=
    congrArg (fun result => result.2.1) ran
  subst same
  rw [zeros_of_run rfl of_engine]
  exact ⟨List.length_replicate, List.length_replicate⟩

/-- **A stored solution belongs to the problem as it is.** In every reachable state, the solve state
of a model with a solution is completed with an outcome that has one; the last solve of the model
began with a problem that its problem is still like, and ended with that outcome; and the solution is
what came of a solve of that problem by an engine that had taken it. With engines that give a fixed
answer, the solution has the dimensions of the problem. -/
theorem solution_of_reachable :
    (∀ {World Engine : Type} (shop : Workshop World Engine), shop.Reachable →
      ∀ (number : Nat) (model : Model Engine) (solution : Solution),
        shop.models[number]? = some model → model.solution = some solution →
        ∃ status snapshot, model.solveState = .completed status ∧ status.hasSolution = true
          ∧ lastSolve number shop.log = some (snapshot, some (.ok status))
          ∧ model.problem.Alike snapshot ∧ Solved shop.solver snapshot status solution)
      ∧ ∀ (answer : FixedAnswer) (delay : Nat) (shop : Workshop Unit FixedEngine),
        shop.Reachable → shop.solver = fixedSolver answer delay →
        ∀ (number : Nat) (model : Model FixedEngine) (solution : Solution),
          shop.models[number]? = some model → model.solution = some solution →
          solution.columns.length = model.problem.columnCount
            ∧ solution.rows.length = model.problem.rowCount := by
  have general : ∀ {World Engine : Type} (shop : Workshop World Engine), shop.Reachable →
      ∀ (number : Nat) (model : Model Engine) (solution : Solution),
        shop.models[number]? = some model → model.solution = some solution →
        ∃ status snapshot, model.solveState = .completed status ∧ status.hasSolution = true
          ∧ lastSolve number shop.log = some (snapshot, some (.ok status))
          ∧ model.problem.Alike snapshot ∧ Solved shop.solver snapshot status solution := by
    intro World Engine shop reachable number model solution found kept
    exact ((accounts_of_reachable reachable).account number model found).solved kept
  refine ⟨general, ?_⟩
  intro answer delay shop reachable solver number model solution found kept
  obtain ⟨status, snapshot, -, -, -, alike, solved⟩ :=
    general shop reachable number model solution found kept
  rw [solver] at solved
  rw [alike.columnCount_eq, alike.rowCount_eq]
  exact dimensions_of_solved solved

/-- A workshop with one model that was made and solved. -/
def solvedModel? : Option (Workshop Unit FixedEngine) :=
  run? { solver := fixedSolver (.status .optimal) 0, world := () }
    [.create 1 2, .begin 0, .attempt 0, .finish 0]

/-- The model that was solved has the solution of its only solve, with its own dimensions. -/
theorem solution_of_solvedModel : ∃ (shop : Workshop Unit FixedEngine) (model : Model FixedEngine)
    (solution : Solution), solvedModel? = some shop ∧ shop.models[0]? = some model
      ∧ model.solution = some solution ∧ solution.columns.length = 2 ∧ solution.rows.length = 1
      ∧ ∃ status snapshot, lastSolve 0 shop.log = some (snapshot, some (.ok status))
        ∧ model.problem.Alike snapshot := by
  have made : solvedModel?.isSome = true := rfl
  have solved : (solvedModel?.get made).models[0]?.isSome = true := rfl
  have kept : (((solvedModel?.get made).models[0]?).get solved).solution.isSome = true := rfl
  have reachable : (solvedModel?.get made).Reachable :=
    ⟨(), _, (Option.some_get made).symm⟩
  have found := (Option.some_get solved).symm
  have stored := (Option.some_get kept).symm
  obtain ⟨status, snapshot, -, -, last, alike, -⟩ :=
    solution_of_reachable.1 _ reachable 0 _ _ found stored
  obtain ⟨columns, rows⟩ :=
    solution_of_reachable.2 (.status .optimal) 0 _ reachable rfl 0 _ _ found stored
  exact ⟨_, _, _, (Option.some_get made).symm, found, stored, columns, rows, status, snapshot, last,
    alike⟩

end Workshop

end LinearProgram
