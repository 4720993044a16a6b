/-
**What the engines of a workshop are given.**

Every problem that an engine is given has its rows in order, whoever asked for the solve and whether
or not the engine takes the problem.

* `Solver.Keeps`: what the dealings with engines preserve of their world, if the problems are in order.
  `world_of_move?`: then every step preserves it.
* `Solver.recorded`: the solver with a record of the problems that its engines are given.
* **`inOrder_of_recorded`**: all problems on the record are in order.
-/

import LinearProgram.Proofs.Problem.Order
import LinearProgram.Proofs.Session.Solutions

namespace LinearProgram

variable {World Engine : Type}

/-- **The rows of the problem are in order**, and it is known of all of them. -/
def Problem.InOrder (problem : Problem) : Prop :=
  problem.isNormalized = true ∧ ∀ row ∈ problem.matrix.rows, Increasing row

theorem Problem.inOrder_normalize {problem : Problem} (stored : problem.WellStored) :
    problem.normalize.InOrder :=
  ⟨isNormalized_normalize stored, increasing_normalize stored⟩

/-! ### Dealings with engines -/

/-- **What the dealings with engines preserve of their world**, as long as the engines are given
problems in order. -/
structure Solver.Keeps (solver : Solver World Engine) (holds : World → Prop) : Prop where
  create : ∀ world, holds world → holds (solver.create world).2
  build : ∀ problem engine world, problem.InOrder → holds world →
    holds (solver.build problem engine world).2.2
  run : ∀ options engine world, holds world → holds (solver.run options engine world).2.2

namespace Solver.Keeps

variable {solver : Solver World Engine} {holds : World → Prop} {world : World}
  {model : Model Engine}

theorem engineOr (keeps : solver.Keeps holds) (engine : Option Engine) (good : holds world) :
    holds (solver.engineOr engine world).2 := by
  cases engine with
  | none => exact keeps.create world good
  | some engine => exact good

theorem begin (keeps : solver.Keeps holds) (stored : model.problem.WellStored)
    (good : holds world) : holds (model.begin solver world).2.2 := by
  have made := keeps.engineOr model.engine good
  have inOrder := Problem.inOrder_normalize stored
  rcases begun : model.begin solver world with ⟨result, next, later⟩
  cases Model.beginning begun with
  | barred => exact good
  | unequipped message _ gate equipped =>
    rw [equipped] at made
    exact made
  | declined engine built message middle _ gate equipped given
  | begun engine built middle _ gate equipped given =>
    rw [equipped] at made
    have kept := keeps.build _ engine middle inOrder made
    rw [given] at kept
    exact kept

theorem attempt (keeps : solver.Keeps holds) (assignment : Assignment Engine)
    (good : holds world) : holds (solver.attempt assignment world).2 := by
  have ran := keeps.run assignment.options assignment.engine world good
  unfold Solver.attempt
  dsimp only
  split <;> exact ran

theorem finish (keeps : solver.Keeps holds) (model : Model Engine) (attempt : Attempt Engine)
    (good : holds world) : holds (model.finish solver attempt world).2.2 :=
  keeps.engineOr attempt.engine good

theorem start (keeps : solver.Keeps holds) (problem : Problem) (options : Options)
    (good : holds world) : holds (Model.start solver problem options world).2 := by
  have made := keeps.create world good
  unfold Model.start
  split <;> rename_i created <;> rw [created] at made <;> exact made

end Solver.Keeps

/-! ### Steps -/

namespace Workshop

variable {shop next : Workshop World Engine} {holds : World → Prop}

theorem world_withMade {made : Except Error (Model Engine) × World} :
    (shop.withMade made).world = made.2 := by
  obtain ⟨result, world⟩ := made
  cases result <;> rfl

theorem world_of_begin? (accounts : shop.Accounts) (keeps : shop.solver.Keeps holds)
    (good : holds shop.world) {number : Nat} {begun : Except Error (Assignment Engine)}
    (begins : shop.begin? number = some (begun, next)) : holds next.world := by
  obtain ⟨model, changed, later, found, begun, rfl⟩ := begin?_eq_some begins
  have kept := keeps.begin (accounts.stored number model found) good
  rw [begun] at kept
  exact kept

theorem world_of_finish? (keeps : shop.solver.Keeps holds) (good : holds shop.world)
    {number : Nat} {attempt : Attempt Engine} {result : Except Error Status}
    (finishes : shop.finish? number attempt = some (result, next)) : holds next.world := by
  obtain ⟨model, changed, later, -, finished, rfl⟩ := finish?_eq_some finishes
  have kept := keeps.finish model attempt good
  rw [finished] at kept
  exact kept

/-- **Every step preserves what the dealings with engines preserve.** -/
theorem world_of_move? (accounts : shop.Accounts) (keeps : shop.solver.Keeps holds)
    (good : holds shop.world) {move : WorkshopMove} (moved : shop.move? move = some next) :
    holds next.world := by
  cases moved_of_move? moved with
  | create rows columns =>
    rw [world_withMade]
    unfold Model.create
    split
    · exact good
    · exact keeps.start _ _ good
  | read bytes verbosity name =>
    rw [world_withMade]
    unfold Model.read
    split
    · exact good
    · exact keeps.start _ _ good
  | refused begins | begin begins | declined _ _ _ begins | submit _ _ _ begins =>
    have kept := world_of_begin? accounts keeps good begins
    exact kept
  | attempt | work => exact keeps.attempt _ good
  | finish _ finishes | deliver _ _ finishes =>
    have kept := world_of_finish? keeps good finishes
    exact kept
  | ask | edit | configure | dispose | release | openContext | hand | pool | leave => exact good

/-- **So does every row of steps.** -/
theorem world_of_run? {moves : List WorkshopMove} (accounts : shop.Accounts)
    (keeps : shop.solver.Keeps holds) (good : holds shop.world)
    (ran : shop.run? moves = some next) : holds next.world := by
  induction moves generalizing shop with
  | nil =>
    cases ran
    exact good
  | cons move rest hyp =>
    obtain ⟨middle, moved, ran⟩ := Option.bind_eq_some_iff.mp ran
    have effect := effect_of_move? moved
    refine hyp (accounts_of_effect accounts effect) ?_ (world_of_move? accounts keeps good moved) ran
    rw [effect.solver_eq]
    exact keeps

end Workshop

/-! ### Records -/

/-- **The solver with a record** of the problems that its engines are given, the oldest first. -/
def Solver.recorded (solver : Solver World Engine) : Solver (World × List Problem) Engine where
  name := solver.name
  create world :=
    let (made, later) := solver.create world.1
    (made, later, world.2)
  build problem engine world :=
    let (result, engine, later) := solver.build problem engine world.1
    (result, engine, later, world.2 ++ [problem])
  run options engine world :=
    let (run, engine, later) := solver.run options engine world.1
    (run, engine, later, world.2)
  solution := solver.solution

theorem Solver.keeps_recorded (solver : Solver World Engine) :
    solver.recorded.Keeps fun world => ∀ problem ∈ world.2, problem.InOrder where
  create _ good := good
  build problem engine world inOrder good := by
    intro other member
    rcases List.mem_append.mp member with member | member
    · exact good other member
    · exact List.mem_singleton.mp member ▸ inOrder
  run _ _ _ good := good

/-- **Every problem on the record is in order.** -/
theorem Workshop.inOrder_of_recorded {solver : Solver World Engine} {world : World}
    {moves : List WorkshopMove} {shop : Workshop (World × List Problem) Engine}
    (ran : run? { solver := solver.recorded, world := (world, []) } moves = some shop) :
    ∀ problem ∈ shop.world.2, problem.InOrder := by
  refine world_of_run? (accounts_of_reachable ⟨_, [], rfl⟩) solver.keeps_recorded ?_ ran
  exact fun _ member => nomatch member

end LinearProgram
