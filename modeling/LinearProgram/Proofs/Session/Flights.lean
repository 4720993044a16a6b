/-
**Solves that are under way, and what a step does to them.**

A solve that has begun and has not been finished is in flight: with its engine before the run, or
with the outcome of the run. Who waits for it, and where in a context it stands, makes no difference
to its model.

* `Flight`, `Workshop.flights`: the solves in flight, with the numbers of their models.
* `solveNotes`: what was written down about beginnings and ends of solves. `lastSolve`: about the
  last solve of a model.
* `Effect`: what one step can do to models, flights and the log. **`effect_of_move?`**: there is
  nothing else that it can do.
-/

import Mathlib.Data.List.Perm.Basic
import LinearProgram.Proofs.Lp.Reading
import LinearProgram.Proofs.Model.Calm
import LinearProgram.Proofs.Session.Errands
import LinearProgram.Proofs.Session.Moves

namespace LinearProgram

open Problem

/-! ### Solves in flight -/

/-- A solve in flight: before its run, or after it. -/
inductive Flight (Engine : Type) where
  | begun (assignment : Assignment Engine)
  | ended (attempt : Attempt Engine)

variable {World Engine : Type}

/-- The model of a waiting solve, and the solve. -/
def WaitingSolve.flight : WaitingSolve Engine → Nat × Flight Engine
  | begun model assignment => (model, .begun assignment)
  | ended model attempt => (model, .ended attempt)

/-- The model of a solve on its way through a context, and the solve. -/
def Errand.flight : Errand Engine → Nat × Flight Engine
  | job solve => (solve.model, .begun solve.assignment)
  | report result => (result.model, .ended result.attempt)

/-- The solves that have been handed to a context and not been delivered. -/
def OwnedContext.flights (owned : OwnedContext Engine) : List (Nat × Flight Engine) :=
  owned.errands.map (·.flight)

namespace Workshop

/-- **The solves in flight**, with the numbers of their models. -/
def flights (shop : Workshop World Engine) : List (Nat × Flight Engine) :=
  shop.waiting.map (·.flight) ++ shop.contexts.flatMap fun owned => owned.flights

/-! ### What was written down -/

/-- What a notice says about the last solve of a model: the problem that it began with, and its
result once it was finished. -/
def noteSolve (number : Nat) (last : Option (Problem × Option (Except Error Status))) :
    Notice → Option (Problem × Option (Except Error Status))
  | .begun model problem => if model = number then some (problem, none) else last
  | .finished model result =>
    if model = number then last.map fun solve => (solve.1, some result) else last
  | _ => last

/-- **The last solve of a model**, as it was written down. -/
def lastSolve (number : Nat) (log : List Notice) :
    Option (Problem × Option (Except Error Status)) :=
  log.foldl (noteSolve number) none

@[simp] theorem lastSolve_append (number : Nat) (log : List Notice) (notice : Notice) :
    lastSolve number (log ++ [notice]) = noteSolve number (lastSolve number log) notice := by
  rw [lastSolve, List.foldl_append]
  rfl

/-- Whether a notice tells of the beginning or the end of a solve. -/
def isSolveNote : Notice → Bool
  | .begun .. | .finished .. => true
  | _ => false

/-- What was written down about the beginnings and the ends of solves. -/
def solveNotes (log : List Notice) : List Notice :=
  log.filter isSolveNote

@[simp] theorem solveNotes_note_of_solve (shop : Workshop World Engine) {notice : Notice}
    (solve : isSolveNote notice = true) :
    solveNotes (shop.note notice).log = solveNotes shop.log ++ [notice] := by
  simp [solveNotes, note, solve]

@[simp] theorem solveNotes_note_of_other (shop : Workshop World Engine) {notice : Notice}
    (other : isSolveNote notice = false) :
    solveNotes (shop.note notice).log = solveNotes shop.log := by
  simp [solveNotes, note, other]

/-- The other notices say nothing about a last solve. -/
theorem lastSolve_solveNotes (number : Nat) (log : List Notice) :
    lastSolve number (solveNotes log) = lastSolve number log := by
  have same : (fun last notice => if isSolveNote notice then noteSolve number last notice else last)
      = noteSolve number := by
    funext last notice
    cases notice <;> rfl
  rw [lastSolve, solveNotes, List.foldl_filter, same, lastSolve]

theorem lastSolve_congr {first second : List Notice} (same : solveNotes first = solveNotes second)
    (number : Nat) : lastSolve number first = lastSolve number second := by
  rw [← lastSolve_solveNotes, same, lastSolve_solveNotes]

theorem lastSolve_of_more {first second : List Notice} {notice : Notice}
    (more : solveNotes first = solveNotes second ++ [notice]) (number : Nat) :
    lastSolve number first = noteSolve number (lastSolve number second) notice := by
  rw [← lastSolve_solveNotes, more, lastSolve_append, lastSolve_solveNotes]

/-! ### Effects -/

/-- **What one step can do.** -/
inductive Effect (shop next : Workshop World Engine) : Prop where
  /-- Nothing happens to models and solves. -/
  | quiet (solver : next.solver = shop.solver) (models : next.models = shop.models)
    (flights : next.flights.Perm shop.flights) (log : solveNotes next.log = solveNotes shop.log)
  /-- A model is made. -/
  | made (solver : next.solver = shop.solver) (model : Model Engine)
    (models : next.models = shop.models ++ [model]) (fresh : model.Fresh)
    (flights : next.flights.Perm shop.flights) (log : solveNotes next.log = solveNotes shop.log)
  /-- A model is called, or its solve does not begin. -/
  | called (solver : next.solver = shop.solver) (number : Nat) (model changed : Model Engine)
    (found : shop.models[number]? = some model) (call : Model.Call shop.solver model changed)
    (models : next.models = shop.models.set number changed)
    (flights : next.flights.Perm shop.flights) (log : solveNotes next.log = solveNotes shop.log)
  /-- A solve begins. -/
  | began (solver : next.solver = shop.solver) (number : Nat) (model changed : Model Engine)
    (assignment : Assignment Engine) (later : World) (found : shop.models[number]? = some model)
    (begun : model.begin shop.solver shop.world = (.ok assignment, changed, later))
    (models : next.models = shop.models.set number changed)
    (flights : next.flights.Perm ((number, .begun assignment) :: shop.flights))
    (log : solveNotes next.log = solveNotes shop.log ++ [.begun number changed.problem])
  /-- An engine runs. -/
  | ran (solver : next.solver = shop.solver) (number : Nat) (assignment : Assignment Engine)
    (rest : List (Nat × Flight Engine)) (models : next.models = shop.models)
    (before : shop.flights.Perm ((number, .begun assignment) :: rest))
    (flights : next.flights.Perm
      ((number, .ended (shop.solver.attempt assignment shop.world).1) :: rest))
    (log : solveNotes next.log = solveNotes shop.log)
  /-- A solve is finished. -/
  | finished (solver : next.solver = shop.solver) (number : Nat) (model : Model Engine)
    (attempt : Attempt Engine) (found : shop.models[number]? = some model)
    (models : next.models
      = shop.models.set number (model.finish shop.solver attempt shop.world).2.1)
    (flights : shop.flights.Perm ((number, .ended attempt) :: next.flights))
    (log : solveNotes next.log = solveNotes shop.log
      ++ [.finished number (model.finish shop.solver attempt shop.world).1])

/-! ### One item of a list -/

theorem perm_cons_eraseIdx {α : Type} {items : List α} {place : Nat} {item : α}
    (found : items[place]? = some item) : items.Perm (item :: items.eraseIdx place) := by
  obtain ⟨inside, rfl⟩ := List.getElem?_eq_some_iff.mp found
  exact (List.getElem_cons_eraseIdx_perm inside).symm

theorem set_perm {α : Type} {items : List α} {place : Nat} {item : α}
    (found : items[place]? = some item) (other : α) :
    (items.set place other).Perm (other :: items.eraseIdx place) := by
  obtain ⟨inside, -⟩ := List.getElem?_eq_some_iff.mp found
  exact List.set_perm_cons_eraseIdx inside other

variable {shop : Workshop World Engine}

/-- The solves in flight that are not in a certain context. -/
def otherFlights (shop : Workshop World Engine) (number : Nat) : List (Nat × Flight Engine) :=
  shop.waiting.map (·.flight)
    ++ (shop.contexts.eraseIdx number).flatMap fun owned => owned.flights

theorem flights_perm {number : Nat} {owned : OwnedContext Engine}
    (found : shop.contexts[number]? = some owned) :
    shop.flights.Perm (owned.flights ++ shop.otherFlights number) := by
  have contexts := (perm_cons_eraseIdx found).flatMap_right fun owned => owned.flights
  exact (contexts.append_left _).trans (List.perm_append_comm_assoc _ _ _)

theorem flights_setContext_perm {number : Nat} {owned : OwnedContext Engine}
    (found : shop.contexts[number]? = some owned) (other : OwnedContext Engine) :
    (shop.setContext number other).flights.Perm
      (other.flights ++ shop.otherFlights number) := by
  have contexts := (set_perm found other).flatMap_right fun owned => owned.flights
  exact (contexts.append_left _).trans (List.perm_append_comm_assoc _ _ _)

theorem flights_begin_perm (shop : Workshop World Engine) (number : Nat)
    (assignment : Assignment Engine) :
    ({ shop with waiting := shop.waiting ++ [.begun number assignment] } :
      Workshop World Engine).flights.Perm ((number, .begun assignment) :: shop.flights) := by
  unfold Workshop.flights
  dsimp only
  rw [List.map_append, List.append_assoc]
  exact List.perm_middle

theorem flights_waiting_perm {index : Nat} {solve : WaitingSolve Engine}
    (waits : shop.waiting[index]? = some solve) : shop.flights.Perm (solve.flight
      :: ({ shop with waiting := shop.waiting.eraseIdx index } : Workshop World Engine).flights) :=
  ((perm_cons_eraseIdx waits).map _).append_right _

theorem flights_waiting_set_perm {index : Nat} {solve : WaitingSolve Engine}
    (waits : shop.waiting[index]? = some solve) (other : WaitingSolve Engine) :
    ({ shop with waiting := shop.waiting.set index other } : Workshop World Engine).flights.Perm
      (other.flight :: ({ shop with waiting := shop.waiting.eraseIdx index } :
        Workshop World Engine).flights) :=
  ((set_perm waits other).map _).append_right _

/-! ### One context -/

section Contexts

variable {owned next : OwnedContext Engine}

theorem flights_submit (free : owned.isFree = true) (model : Nat) (assignment : Assignment Engine)
    (callback : Callback) : (owned.submit model assignment callback).flights.Perm
      ((model, .begun assignment) :: owned.flights) := by
  rw [OwnedContext.flights, OwnedContext.errands_submit free, List.map_append]
  exact List.perm_append_comm

theorem flights_stepped {move : PoolMove (Errand Engine)}
    (stepped : OwnedContext.Stepped owned move next) : next.flights.Perm owned.flights :=
  (OwnedContext.errands_of_stepped stepped).1.map _

theorem flights_setErrand {index : Nat} {job : Job Engine} (found : owned.job? index = some job)
    (attempt : Attempt Engine) : ∃ rest,
      owned.flights.Perm ((job.model, .begun job.assignment) :: rest)
        ∧ (owned.setErrand index (.report ⟨job.ticket, job.model, attempt⟩)).flights.Perm
          ((job.model, .ended attempt) :: rest) := by
  obtain ⟨front, back, before, after⟩ :=
    OwnedContext.errands_setErrand found (.report ⟨job.ticket, job.model, attempt⟩)
  refine ⟨(front ++ back).map (·.flight), ?_, ?_⟩
  · rw [OwnedContext.flights, before]
    exact List.perm_middle.map _
  · rw [OwnedContext.flights, after]
    exact List.perm_middle.map _

theorem flights_receive? {report : Report Engine} {callback : Option Callback}
    (receives : owned.receive? = some (report, callback, next)) :
    owned.flights = (report.model, .ended report.attempt) :: next.flights := by
  rw [OwnedContext.flights, OwnedContext.errands_receive? receives]
  rfl

end Contexts

/-! ### What the moves do -/

theorem effect_withMade {made : Except Error (Model Engine) × World}
    (fresh : ∀ model, made.1 = .ok model → model.Fresh) : Effect shop (shop.withMade made) := by
  obtain ⟨result, world⟩ := made
  cases result with
  | error error => exact .quiet rfl rfl (.refl _) rfl
  | ok model => exact .made rfl model rfl (fresh model rfl) (.refl _) rfl

theorem fresh_start {solver : Solver World Engine} {problem : Problem} {options : Options}
    {world : World} (stored : problem.WellStored) {model : Model Engine}
    (made : (Model.start solver problem options world).1 = .ok model) : model.Fresh := by
  unfold Model.start at made
  split at made
  · cases made
  · cases made
    exact ⟨stored, rfl, rfl, Option.some_ne_none _, rfl, rfl⟩

theorem fresh_create {solver : Solver World Engine} {rows columns : Nat} {world : World}
    {model : Model Engine} (made : (Model.create solver rows columns world).1 = .ok model) :
    model.Fresh := by
  unfold Model.create at made
  split at made
  · cases made
  next problem given => exact fresh_start (wellStored_empty.resize? given) made

theorem fresh_read {solver : Solver World Engine} {bytes : List UInt8} {verbosity : Verbosity}
    {name : String} {world : World} {model : Model Engine}
    (made : (Model.read solver bytes verbosity name world).1 = .ok model) : model.Fresh := by
  unfold Model.read at made
  split at made
  · cases made
  next problem read =>
    have stored : problem.WellStored := by
      unfold Lp.parseBytes at read
      split at read
      · exact Lp.wellStored_parse read
      · cases read
    have renamed : ({ problem with name } : Problem).WellStored :=
      stored.congr rfl rfl (Nat.le_refl _) rfl
    exact fresh_start renamed made

variable {middle next : Workshop World Engine}

/-- A solve that does not begin. -/
theorem effect_of_refused {number : Nat} {error : Error}
    (refuses : shop.begin? number = some (.error error, next)) : Effect shop next := by
  obtain ⟨model, changed, later, found, begun, rfl⟩ := begin?_eq_some refuses
  refine .called rfl number model changed found (.refused shop.world later error begun) rfl
    (.refl _) (congrArg solveNotes ?_)
  exact List.append_nil shop.log

/-- A solve that begins, whoever takes it then. -/
theorem effect_of_begun {number : Nat} {assignment : Assignment Engine}
    (begins : shop.begin? number = some (.ok assignment, middle))
    (solver : next.solver = middle.solver) (models : next.models = middle.models)
    (flights : next.flights.Perm ((number, .begun assignment) :: middle.flights))
    (log : solveNotes next.log = solveNotes middle.log) : Effect shop next := by
  obtain ⟨model, changed, later, found, begun, rfl⟩ := begin?_eq_some begins
  refine .began solver number model changed assignment later found begun models flights ?_
  exact log.trans (solveNotes_note_of_solve shop rfl)

/-- A solve that is finished, whoever had it. -/
theorem effect_of_finished {number : Nat} {attempt : Attempt Engine}
    {result : Except Error Status} (finishes : shop.finish? number attempt = some (result, middle))
    (solver : next.solver = middle.solver) (models : next.models = middle.models)
    (flights : middle.flights.Perm ((number, .ended attempt) :: next.flights))
    (log : solveNotes next.log = solveNotes middle.log) : Effect shop next := by
  obtain ⟨model, changed, later, found, finished, rfl⟩ := finish?_eq_some finishes
  refine .finished solver number model attempt found (models.trans ?_) flights ?_
  · rw [finished]
    rfl
  · rw [finished]
    exact log.trans (solveNotes_note_of_solve shop rfl)

/-- A step of a context that starts and ends no solve. -/
theorem effect_of_kept {number : Nat} {owned changed : OwnedContext Engine}
    (there : shop.contexts[number]? = some owned) (flights : changed.flights.Perm owned.flights) :
    Effect shop (shop.setContext number changed) := by
  refine .quiet rfl rfl ?_ rfl
  have same := flights.append_right (shop.otherFlights number)
  exact (flights_setContext_perm there _).trans (same.trans (flights_perm there).symm)

/-- **A step does nothing but what `Effect` says.** -/
theorem effect_of_move? {move : WorkshopMove} (moved : shop.move? move = some next) :
    Effect shop next := by
  cases moved_of_move? moved with
  | create => exact effect_withMade fun _ made => fresh_create made
  | read => exact effect_withMade fun _ made => fresh_read made
  | ask query found => exact .called rfl _ _ _ found (.ask query) rfl (.refl _) rfl
  | edit change found => exact .called rfl _ _ _ found (.edit change) rfl (.refl _) rfl
  | configure setting found => exact .called rfl _ _ _ found (.configure setting) rfl (.refl _) rfl
  | dispose found => exact .called rfl _ _ _ found .dispose rfl (.refl _) rfl
  | release found => exact .called rfl _ _ _ found .release rfl (.refl _) rfl
  | refused refuses | declined _ _ _ refuses => exact effect_of_refused refuses
  | begin begins => exact effect_of_begun begins rfl rfl (flights_begin_perm _ _ _) rfl
  | attempt waits =>
    exact .ran rfl _ _ _ rfl (flights_waiting_perm waits) (flights_waiting_set_perm waits _) rfl
  | finish waits finishes =>
    obtain ⟨waiting, -⟩ := frame_of_finish? finishes
    exact effect_of_finished finishes rfl rfl (flights_waiting_perm (waiting ▸ waits)) rfl
  | openContext workers =>
    refine .quiet rfl rfl (List.Perm.of_eq ?_) rfl
    unfold Workshop.flights
    dsimp only
    rw [List.flatMap_append, List.flatMap_singleton, OwnedContext.flights,
      OwnedContext.errands_ofSize, List.map_nil, List.append_nil]
  | @submit number model owned assignment middle callback found free begins =>
    obtain ⟨-, contexts⟩ := frame_of_begin? begins
    have there : middle.contexts[number]? = some owned := contexts ▸ getElem?_of_context? found
    -- Nobody has the solve in the state in between: the flights are those from before it began.
    refine effect_of_begun begins rfl rfl ?_ (solveNotes_note_of_other _ rfl)
    refine (flights_setContext_perm there _).trans ?_
    have submits := flights_submit free model assignment callback
    exact (submits.append_right _).trans ((flights_perm there).symm.cons _)
  | hand found hands =>
    obtain ⟨job, -, stepped⟩ := OwnedContext.stepped_of_hand? hands
    exact effect_of_kept (getElem?_of_context? found) (flights_stepped stepped)
  | pool found moves =>
    have stepped := OwnedContext.stepped_of_poolMove? moves
    exact effect_of_kept (getElem?_of_context? found) (flights_stepped stepped)
  | @work number index owned job found has =>
    have there := getElem?_of_context? found
    obtain ⟨rest, before, after⟩ := flights_setErrand has (shop.solver.attempt job.assignment shop.world).1
    refine .ran rfl job.model job.assignment (rest ++ shop.otherFlights number) rfl ?_ ?_
      (solveNotes_note_of_other _ rfl)
    · exact (flights_perm there).trans (before.append_right _)
    · exact (flights_setContext_perm there _).trans (after.append_right _)
  | @deliver number owned changed report callback result middle found receives finishes =>
    obtain ⟨-, contexts⟩ := frame_of_finish? finishes
    have there : middle.contexts[number]? = some owned := contexts ▸ getElem?_of_context? found
    refine effect_of_finished finishes rfl rfl ?_ ?_
    · refine (flights_perm there).trans ?_
      rw [flights_receive? receives]
      exact (flights_setContext_perm there changed).symm.cons _
    · cases callback <;> simp [solveNotes, isSolveNote]
  | leave found leaves =>
    obtain ⟨-, -, rfl⟩ := OwnedContext.leave?_eq_some leaves
    exact effect_of_kept (getElem?_of_context? found) (.refl _)

theorem Effect.solver_eq (effect : Effect shop next) :
    next.solver = shop.solver := by
  cases effect <;> assumption

theorem solver_of_run? {moves : List WorkshopMove} (ran : shop.run? moves = some next) :
    next.solver = shop.solver := by
  induction moves generalizing shop with
  | nil =>
    cases ran
    rfl
  | cons move rest hyp =>
    obtain ⟨middle, moved, ran⟩ := Option.bind_eq_some_iff.mp ran
    exact (hyp ran).trans (effect_of_move? moved).solver_eq

end Workshop

end LinearProgram
