/-
**Every model and its engine, in every state.**

* `solves_eq`, `solveCount_eq`, `engineCount_eq`: the solves that have begun and not been finished
  are the solves in flight.
* `begunCount`, `finishedCount`: how many beginnings and ends of solves of a model were written down.
  `counted_of_effect`: they differ by the solves in flight.
* `Fate`: what one step can make of one model. **`fate_of_effect`**: there is nothing else.
* `Lost`: the last solve of a model broke down, and no other engine could be made.
  `lost_of_bereft`: a model is without its engine only then.
* **`ownership_of_run`**: a model is running exactly when one solve of it has begun and not been
  finished, and never two; its engine is in one place at most.
-/

import LinearProgram.Proofs.Model.Custody
import LinearProgram.Proofs.Session.Runs
import LinearProgram.Proofs.Session.Solutions
import LinearProgram.Solver.Scripted

namespace LinearProgram

variable {World Engine : Type}

/-- Whether a solve in flight has an engine. -/
def Flight.hasEngine : Flight Engine → Bool
  | .begun _ => true
  | .ended attempt => attempt.engine.isSome

namespace Workshop

/-! ### The solves that have begun and not been finished -/

theorem solves_eq (shop : Workshop World Engine) :
    shop.solves = shop.flights.map fun solve => (solve.1, solve.2.hasEngine) := by
  rw [solves, flights, List.map_append, List.map_map, List.map_flatMap]
  congr 1
  · refine List.map_congr_left fun solve _ => ?_
    cases solve <;> rfl
  · congr 1
    funext owned
    rw [OwnedContext.flights, List.map_map]
    refine List.map_congr_left fun errand _ => ?_
    cases errand <;> rfl

theorem solveCount_eq (shop : Workshop World Engine) (number : Nat) :
    shop.solveCount number = (flightsOf number shop.flights).length := by
  rw [solveCount, solves_eq, List.countP_map, flightsOf, List.length_map,
    List.countP_eq_length_filter]
  rfl

theorem engineCount_eq (shop : Workshop World Engine) (number : Nat) :
    shop.engineCount number = (flightsOf number shop.flights).countP (·.hasEngine) := by
  rw [engineCount, solves_eq, List.countP_map, flightsOf, List.countP_map, List.countP_filter]
  refine List.countP_congr fun solve _ => ?_
  simp [and_comm]

/-! ### Beginnings and ends -/

/-- Whether a notice tells of the beginning of a solve of the model. -/
def tellsBegun (number : Nat) : Notice → Bool
  | .begun model _ => model == number
  | _ => false

/-- Whether a notice tells of the end of a solve of the model. -/
def tellsFinished (number : Nat) : Notice → Bool
  | .finished model _ => model == number
  | _ => false

/-- How many solves of a model have begun, as it was written down. -/
def begunCount (number : Nat) (log : List Notice) : Nat :=
  log.countP (tellsBegun number)

/-- How many solves of a model were finished, as it was written down. -/
def finishedCount (number : Nat) (log : List Notice) : Nat :=
  log.countP (tellsFinished number)

theorem begunCount_solveNotes (number : Nat) (log : List Notice) :
    begunCount number (solveNotes log) = begunCount number log := by
  rw [begunCount, solveNotes, List.countP_filter]
  refine List.countP_congr fun notice _ => ?_
  cases notice <;> simp [tellsBegun, isSolveNote]

theorem finishedCount_solveNotes (number : Nat) (log : List Notice) :
    finishedCount number (solveNotes log) = finishedCount number log := by
  rw [finishedCount, solveNotes, List.countP_filter]
  refine List.countP_congr fun notice _ => ?_
  cases notice <;> simp [tellsFinished, isSolveNote]

theorem begunCount_congr {first second : List Notice} (same : solveNotes first = solveNotes second)
    (number : Nat) : begunCount number first = begunCount number second := by
  rw [← begunCount_solveNotes, same, begunCount_solveNotes]

theorem finishedCount_congr {first second : List Notice}
    (same : solveNotes first = solveNotes second) (number : Nat) :
    finishedCount number first = finishedCount number second := by
  rw [← finishedCount_solveNotes, same, finishedCount_solveNotes]

theorem begunCount_of_more {first second : List Notice} {notice : Notice}
    (more : solveNotes first = solveNotes second ++ [notice]) (number : Nat) :
    begunCount number first = begunCount number second + (tellsBegun number notice).toNat := by
  rw [← begunCount_solveNotes, more, begunCount, List.countP_append, ← begunCount,
    begunCount_solveNotes]
  cases told : tellsBegun number notice <;> simp [told]

theorem finishedCount_of_more {first second : List Notice} {notice : Notice}
    (more : solveNotes first = solveNotes second ++ [notice]) (number : Nat) :
    finishedCount number first
      = finishedCount number second + (tellsFinished number notice).toNat := by
  rw [← finishedCount_solveNotes, more, finishedCount, List.countP_append, ← finishedCount,
    finishedCount_solveNotes]
  cases told : tellsFinished number notice <;> simp [told]

/-- **The solves that have begun were finished or are in flight.** -/
def Counted (shop : Workshop World Engine) : Prop :=
  ∀ number, begunCount number shop.log
    = finishedCount number shop.log + (flightsOf number shop.flights).length

variable {shop next : Workshop World Engine}

theorem length_flightsOf_cons (number other : Nat) (flight : Flight Engine)
    (rest : List (Nat × Flight Engine)) :
    (flightsOf number ((other, flight) :: rest)).length
      = (flightsOf number rest).length + (other == number).toNat := by
  by_cases same : other = number
  · subst same
    simp [flightsOf_cons_self]
  · simp [flightsOf_cons_of_ne same, same]

theorem Counted.of_quiet (counted : shop.Counted)
    (flights : ∀ number, (flightsOf number next.flights).length
      = (flightsOf number shop.flights).length)
    (log : solveNotes next.log = solveNotes shop.log) : next.Counted := by
  intro number
  rw [begunCount_congr log, finishedCount_congr log, flights]
  exact counted number

/-- **Beginnings, ends and flights keep step.** -/
theorem counted_of_effect (counted : shop.Counted) (effect : Effect shop next) : next.Counted := by
  have length {first second : List (Nat × Flight Engine)} (perm : first.Perm second)
      (number : Nat) : (flightsOf number first).length = (flightsOf number second).length :=
    (flightsOf_perm number perm).length_eq
  cases effect with
  | quiet solver models flights log => exact counted.of_quiet (length flights) log
  | made solver model models fresh flights log => exact counted.of_quiet (length flights) log
  | called solver number model changed found call models flights log =>
    exact counted.of_quiet (length flights) log
  | began solver number model changed assignment later found begun models flights log =>
    intro other
    have before := counted other
    rw [begunCount_of_more log, finishedCount_of_more log, length flights, length_flightsOf_cons,
      before]
    simp only [tellsBegun, tellsFinished, Bool.toNat_false]
    omega
  | ran solver number assignment rest models before flights log =>
    refine counted.of_quiet (fun other => ?_) log
    rw [length flights, length before, length_flightsOf_cons, length_flightsOf_cons]
  | finished solver number model attempt found models flights log =>
    intro other
    have before := counted other
    rw [length flights, length_flightsOf_cons] at before
    rw [begunCount_of_more log, finishedCount_of_more log, before]
    simp only [tellsBegun, tellsFinished, Bool.toNat_false]
    omega

theorem counted_of_reachable (reachable : shop.Reachable) : shop.Counted := by
  obtain ⟨world, moves, ran⟩ := reachable
  refine run_induction (motive := fun _ shop => shop.Counted) (fun _ => rfl) ?_ ran
  intro moves before move after _ moved counted
  exact counted_of_effect counted (effect_of_move? moved)

/-! ### One model -/

/-- **What one step can make of a model**, and what was written down about its solves. -/
inductive Fate (shop next : Workshop World Engine) (number : Nat) (model : Model Engine) : Prop
  /-- Nothing happens to it. -/
  | kept (found : shop.models[number]? = some model)
    (begun : begunCount number next.log = begunCount number shop.log)
    (ended : finishedCount number next.log = finishedCount number shop.log)
  /-- It is new. -/
  | made (absent : shop.models[number]? = none) (fresh : model.Fresh)
    (begun : begunCount number next.log = begunCount number shop.log)
    (ended : finishedCount number next.log = finishedCount number shop.log)
  /-- It is called, or its solve does not begin. -/
  | called (old : Model Engine) (found : shop.models[number]? = some old)
    (call : Model.Call shop.solver old model)
    (begun : begunCount number next.log = begunCount number shop.log)
    (ended : finishedCount number next.log = finishedCount number shop.log)
  /-- Its solve begins. -/
  | began (old : Model Engine) (assignment : Assignment Engine) (later : World)
    (found : shop.models[number]? = some old)
    (begins : old.begin shop.solver shop.world = (.ok assignment, model, later))
    (begun : begunCount number next.log = begunCount number shop.log + 1)
    (ended : finishedCount number next.log = finishedCount number shop.log)
  /-- Its solve is finished. -/
  | finished (old : Model Engine) (attempt : Attempt Engine)
    (found : shop.models[number]? = some old)
    (finishes : (old.finish shop.solver attempt shop.world).2.1 = model)
    (flights : shop.flights.Perm ((number, .ended attempt) :: next.flights))
    (begun : begunCount number next.log = begunCount number shop.log)
    (ended : finishedCount number next.log = finishedCount number shop.log + 1)

theorem getElem?_set_cases {α : Type} {items : List α} {place index : Nat} {new item : α}
    (found : (items.set place new)[index]? = some item) :
    place = index ∧ new = item ∨ place ≠ index ∧ items[index]? = some item := by
  rw [List.getElem?_set] at found
  split at found
  next same =>
    split at found
    · exact .inl ⟨same, Option.some.inj found⟩
    · cases found
  next different => exact .inr ⟨different, found⟩

/-- **A step makes nothing of a model but what `Fate` says.** -/
theorem fate_of_effect (effect : Effect shop next) {number : Nat} {model : Model Engine}
    (found : next.models[number]? = some model) : Fate shop next number model := by
  cases effect with
  | quiet solver models flights log | ran solver other assignment rest models before flights log =>
    rw [models] at found
    exact .kept found (begunCount_congr log number) (finishedCount_congr log number)
  | made solver new models fresh flights log =>
    have begun := begunCount_congr log number
    have ended := finishedCount_congr log number
    rw [models, List.getElem?_append] at found
    split at found
    · exact .kept found begun ended
    next outside =>
      obtain rfl := List.mem_singleton.mp (List.mem_of_getElem? found)
      exact .made (List.getElem?_eq_none (Nat.not_lt.mp outside)) fresh begun ended
  | called solver other old changed there call models flights log =>
    have begun := begunCount_congr log number
    have ended := finishedCount_congr log number
    rw [models] at found
    rcases getElem?_set_cases found with ⟨rfl, rfl⟩ | ⟨-, found⟩
    · exact .called old there call begun ended
    · exact .kept found begun ended
  | began solver other old changed assignment later there begins models flights log =>
    have begun := begunCount_of_more log number
    have ended : finishedCount number next.log = finishedCount number shop.log :=
      finishedCount_of_more log number
    rw [models] at found
    rcases getElem?_set_cases found with ⟨rfl, rfl⟩ | ⟨different, found⟩
    · refine .began old assignment later there begins ?_ ended
      simpa [tellsBegun] using begun
    · refine .kept found ?_ ended
      simpa [tellsBegun, beq_eq_false_iff_ne.mpr different] using begun
  | finished solver other old attempt there models flights log =>
    have begun : begunCount number next.log = begunCount number shop.log :=
      begunCount_of_more log number
    have ended := finishedCount_of_more log number
    rw [models] at found
    rcases getElem?_set_cases found with ⟨rfl, same⟩ | ⟨different, found⟩
    · refine .finished old attempt there same flights begun ?_
      simpa [tellsFinished] using ended
    · refine .kept found begun ?_
      simpa [tellsFinished, beq_eq_false_iff_ne.mpr different] using ended

/-- No step takes a model away. -/
theorem exists_model_of_effect (effect : Effect shop next) {number : Nat} {model : Model Engine}
    (found : shop.models[number]? = some model) : ∃ later, next.models[number]? = some later := by
  have inside := (List.getElem?_eq_some_iff.mp found).1
  refine ⟨_, List.getElem?_eq_getElem (Nat.lt_of_lt_of_le inside ?_)⟩
  cases effect with
  | quiet _ models | ran _ _ _ _ models => exact Nat.le_of_eq (congrArg List.length models).symm
  | made _ new models =>
    rw [models, List.length_append]
    exact Nat.le_add_right _ _
  | called _ _ _ _ _ _ models | began _ _ _ _ _ _ _ _ models | finished _ _ _ _ _ models =>
    rw [models, List.length_set]

/-! ### Soundness -/

/-- **Every model is sound.** -/
def AllSound (shop : Workshop World Engine) : Prop :=
  ∀ (number : Nat) (model : Model Engine), shop.models[number]? = some model → model.Sound

theorem sound_of_fresh {model : Model Engine} (fresh : model.Fresh) : model.Sound := by
  refine ⟨fun running => ?_, fun disposed => ?_, ?_⟩
  · rw [Model.isRunning, fresh.idle] at running
    cases running
  · exact absurd (disposed.symm.trans fresh.active) Bool.noConfusion
  · rw [fresh.unused]
    rfl

theorem sound_of_effect (sound : shop.AllSound) (effect : Effect shop next) : next.AllSound := by
  intro number model found
  cases fate_of_effect effect found with
  | kept found => exact sound number model found
  | made _ fresh => exact sound_of_fresh fresh
  | called old found call => exact Model.sound_of_call (sound number old found) call
  | began old _ _ found begins => exact Model.sound_of_begin (sound number old found) begins
  | finished old attempt found finishes =>
    exact finishes ▸ Model.sound_finish (sound number old found) _ _ _

/-- **In every state all models are sound.** -/
theorem allSound_of_reachable (reachable : shop.Reachable) : shop.AllSound := by
  obtain ⟨world, moves, ran⟩ := reachable
  refine run_induction (motive := fun _ shop => shop.AllSound) ?_ ?_ ran
  · intro number model found
    cases found
  · intro moves before move after _ moved sound
    exact sound_of_effect sound (effect_of_move? moved)

/-! ### Lost engines -/

/-- **The engine of a model was lost, and there was no other one to be had.** A step of the row
finished a solve of the model whose run had broken down, and the solver made no engine then. No
solve of the model has begun since. -/
inductive Lost (start : Workshop World Engine) (moves : List WorkshopMove)
    (last : Workshop World Engine) (number : Nat) : Prop
  | intro (before : Workshop World Engine) (move : WorkshopMove) (after : Workshop World Engine)
    (made : Made start moves before move after) (assignment : Assignment Engine) (world : World)
    (message : Option String) (reason : String)
    (finished : before.flights.Perm
      ((number, .ended (before.solver.attempt assignment world).1) :: after.flights))
    (broke : (before.solver.run assignment.options assignment.engine world).1.verdict
      = .brokeDown message)
    (failed : (before.solver.create before.world).1 = .error reason)
    (since : begunCount number last.log = begunCount number after.log)

variable {start : Workshop World Engine} {moves : List WorkshopMove}

theorem Lost.snoc {number : Nat} (lost : Lost start moves shop number) (move : WorkshopMove)
    (log : begunCount number next.log = begunCount number shop.log) :
    Lost start (moves ++ [move]) next number := by
  obtain ⟨before, earlier, after, made, assignment, world, message, reason, finished, broke, failed,
    since⟩ := lost
  exact ⟨before, earlier, after, made.snoc move, assignment, world, message, reason, finished, broke,
    failed, log.trans since⟩

/-- One step more. -/
theorem lost_of_step {number : Nat} {model : Model Engine} {move : WorkshopMove}
    (accounts : shop.Accounts) (ran : start.run? moves = some shop)
    (moved : shop.move? move = some next)
    (before : ∀ model, shop.models[number]? = some model → model.Bereft →
      Lost start moves shop number)
    (found : next.models[number]? = some model) (bereft : model.Bereft) :
    Lost start (moves ++ [move]) next number := by
  cases fate_of_effect (effect_of_move? moved) found with
  | kept found begun => exact (before model found bereft).snoc move begun
  | made _ fresh => exact absurd bereft.unequipped fresh.equipped
  | called old there call begun =>
    exact (before old there (Model.bereft_of_call call bereft)).snoc move begun
  | began old assignment later there begins =>
    obtain ⟨-, running, -⟩ := Model.begin_eq_ok (accounts.stored number old there) begins
    have idle := bereft.idle
    rw [Model.isRunning, running] at idle
    cases idle
  | finished old attempt there finishes flights =>
    subst finishes
    obtain ⟨lost, reason, failed⟩ := Model.lost_of_finish bereft
    obtain ⟨-, -, -, -, -, snapshot, -, -, assignment, world, -, rfl⟩ := accounts.flying flights
    obtain ⟨message, broke⟩ := Model.brokeDown_of_attempt lost
    exact ⟨shop, move, next, .final ran moved, assignment, world, message, reason, flights, broke,
      failed, rfl⟩

/-- **A model is without its engine only because it was lost.** -/
theorem lost_of_bereft {solver : Solver World Engine} {world : World}
    (ran : run? { solver, world } moves = some shop) {number : Nat} {model : Model Engine}
    (found : shop.models[number]? = some model) (bereft : model.Bereft) :
    Lost { solver, world } moves shop number := by
  refine run_induction (motive := fun moves shop => ∀ model, shop.models[number]? = some model →
    model.Bereft → Lost { solver, world } moves shop number) ?_ ?_ ran model found bereft
  · intro model found
    cases found
  · intro moves before move after ran moved lost model found bereft
    obtain rfl := solver_of_run? ran
    exact lost_of_step (accounts_of_reachable ⟨world, moves, ran⟩) ran moved lost found bereft

/-! ### Whole runs -/

/-- **Who has the engine of a model**, and what its solves are. -/
structure Ownership (shop : Workshop World Engine) (number : Nat) (model : Model Engine) :
    Prop where
  /-- The model is running exactly when one solve of it has begun and not been finished. -/
  running_iff : model.isRunning = true ↔ shop.solveCount number = 1
  /-- There are never two. -/
  once : shop.solveCount number ≤ 1
  /-- A solve that has begun was finished or is one of those. -/
  counted : begunCount number shop.log = finishedCount number shop.log + shop.solveCount number
  /-- A running model does not have its engine. -/
  running : model.isRunning = true → model.engine = none
  disposed : model.isDisposed = true → model.engine = none ∧ model.solution = none
  /-- There is one engine at most, with the model or with its solve. -/
  alone : model.engine.isSome.toNat + shop.engineCount number ≤ 1

theorem ownership_of_accounts (accounts : shop.Accounts) (sound : shop.AllSound)
    (counted : shop.Counted) {number : Nat} {model : Model Engine}
    (found : shop.models[number]? = some model) : Ownership shop number model := by
  have sound := sound number model found
  have counts := counted number
  have account := accounts.account number model found
  rcases flights : flightsOf number shop.flights with _ | ⟨flight, rest⟩
  · -- No solve is in flight, so the engine is with the model if it is anywhere.
    have idle : model.isRunning = false := by
      rw [flights] at account
      cases account with
      | resting _ idle => exact idle
    constructor
    · rw [solveCount_eq, flights, idle]
      simp
    · rw [solveCount_eq, flights]
      simp
    · rw [solveCount_eq, counts]
    · exact sound.running
    · exact sound.disposed
    · rw [engineCount_eq, flights]
      simpa using Bool.toNat_le _
  · -- One solve is in flight, and the model has no engine.
    rw [flights] at account
    obtain ⟨rfl, running, -⟩ := account.of_cons
    constructor
    · rw [solveCount_eq, flights, running]
      simp
    · rw [solveCount_eq, flights]
      simp
    · rw [solveCount_eq, counts]
    · exact sound.running
    · exact sound.disposed
    · have one : [flight].countP (·.hasEngine) ≤ 1 := List.countP_le_length
      rw [engineCount_eq, flights, sound.running running]
      simpa only [Option.isSome_none, Bool.toNat_false, Nat.zero_add] using one

/-- **Who has the engine.** After every row of steps, a model is running exactly when one solve of it
has begun and not been finished, and there are never two. Then the model does not have its engine;
a disposed model has neither an engine nor a solution; and the model and its solve have one engine
at most between them. A model that could begin a solve has no engine only if the run of its last
solve broke down and no other engine could be made, and its next solve asks for one again. -/
theorem ownership_of_run {solver : Solver World Engine} {world : World} {moves : List WorkshopMove}
    {shop : Workshop World Engine} (ran : run? { solver, world } moves = some shop) {number : Nat}
    {model : Model Engine} (found : shop.models[number]? = some model) :
    Ownership shop number model
      ∧ (model.Bereft → Lost { solver, world } moves shop number
        ∧ ∀ now, model.begin shop.solver now = match shop.solver.create now with
          | (.error message, later) => (.error (.engine message), model, later)
          | (.ok engine, later) => { model with engine := some engine }.begin shop.solver later) := by
  obtain rfl := solver_of_run? ran
  have reachable : shop.Reachable := ⟨world, moves, ran⟩
  refine ⟨ownership_of_accounts (accounts_of_reachable reachable) (allSound_of_reachable reachable)
    (counted_of_reachable reachable) found, fun bereft => ?_⟩
  exact ⟨lost_of_bereft ran found bereft, Model.begin_of_bereft bereft shop.solver⟩

/-- A workshop whose only model lost its engine: the run broke down, and the solver made one engine
and no second one. -/
def bereftModel? : Option (Workshop Script ScriptedEngine) :=
  run? { solver := scriptedSolver
         world := { creations := [none, some "none left"], solves := [⟨.brokeDown none, none⟩] } }
    [.create 1 2, .begin 0, .attempt 0, .finish 0]

/-- The model that lost its engine asks for one again. -/
theorem ownership_of_bereftModel : ∃ (shop : Workshop Script ScriptedEngine)
    (model : Model ScriptedEngine), bereftModel? = some shop ∧ shop.models[0]? = some model
      ∧ model.Bereft ∧ Ownership shop 0 model
      ∧ ∃ engine later, model.begin shop.solver shop.world
          = { model with engine := some engine }.begin shop.solver later := by
  have made : bereftModel?.isSome = true := rfl
  have there : (bereftModel?.get made).models[0]?.isSome = true := rfl
  have ran := (Option.some_get made).symm
  have found := (Option.some_get there).symm
  have bereft : ((bereftModel?.get made).models[0]?.get there).Bereft := ⟨rfl, rfl, rfl⟩
  obtain ⟨ownership, asks⟩ := ownership_of_run ran found
  obtain ⟨-, asks⟩ := asks bereft
  exact ⟨_, _, ran, found, bereft, ownership, _, _, asks _⟩

end Workshop

end LinearProgram
