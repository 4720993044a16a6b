/-
**Rows of steps, seen from their last step.**

* `run?_append`, `run?_snoc`: a row of steps is made up of shorter ones.
* **`run_induction`**: what holds at the start, and after a step if it held before it, holds at the
  end of every row of steps.
* `Made`: a certain step was made in a row of steps. A longer row has all the steps of a shorter one
  (`Made.snoc`), and its last step (`Made.final`).
-/

import Mathlib.Data.List.Induction
import LinearProgram.Session.Workshop

namespace LinearProgram.Workshop

variable {World Engine : Type}

theorem run?_append (shop : Workshop World Engine) (first second : List WorkshopMove) :
    shop.run? (first ++ second) = (shop.run? first).bind fun middle => middle.run? second := by
  induction first generalizing shop with
  | nil => rfl
  | cons move rest hyp =>
    change (shop.move? move).bind (fun next => next.run? (rest ++ second)) = _
    simp only [hyp]
    exact (Option.bind_assoc ..).symm

theorem run?_snoc (shop : Workshop World Engine) (moves : List WorkshopMove) (move : WorkshopMove) :
    shop.run? (moves ++ [move]) = (shop.run? moves).bind fun middle => middle.move? move := by
  rw [run?_append]
  refine congrArg _ (funext fun middle => ?_)
  exact Option.bind_fun_some (middle.move? move)

variable {start before after last : Workshop World Engine} {moves : List WorkshopMove}
  {move : WorkshopMove}

/-- **Induction on a row of steps**, from its start. -/
theorem run_induction {motive : List WorkshopMove → Workshop World Engine → Prop}
    (nil : motive [] start)
    (snoc : ∀ moves before move after, start.run? moves = some before →
      before.move? move = some after → motive moves before → motive (moves ++ [move]) after)
    (ran : start.run? moves = some last) : motive moves last := by
  induction moves using List.reverseRecOn generalizing last with
  | nil =>
    cases ran
    exact nil
  | append_singleton moves move hyp =>
    rw [run?_snoc] at ran
    obtain ⟨before, earlier, moved⟩ := Option.bind_eq_some_iff.mp ran
    exact snoc moves before move last earlier moved (hyp earlier)

/-- **The step was made in the row of steps**: it led from the one state to the other. -/
def Made (start : Workshop World Engine) (moves : List WorkshopMove)
    (before : Workshop World Engine) (move : WorkshopMove) (after : Workshop World Engine) : Prop :=
  ∃ earlier later, moves = earlier ++ move :: later ∧ start.run? earlier = some before
    ∧ before.move? move = some after

theorem Made.snoc (made : Made start moves before move after) (other : WorkshopMove) :
    Made start (moves ++ [other]) before move after := by
  obtain ⟨earlier, later, rfl, ran, moved⟩ := made
  exact ⟨earlier, later ++ [other], by simp, ran, moved⟩

theorem Made.final (ran : start.run? moves = some before) (moved : before.move? move = some after) :
    Made start (moves ++ [move]) before move after :=
  ⟨moves, [], rfl, ran, moved⟩

end LinearProgram.Workshop
