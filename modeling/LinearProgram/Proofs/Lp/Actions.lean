/-
**What an action makes of a reader.**

An action that is carried out looks up the names that it mentions and changes the problem in one place.
What it makes of a reader is said here once, action by action, and what an action keeps is told from it
without a look at how the action is carried out.

* `Reader.entries_keeps`: names that are looked up one after the other.
* `Reader.exists_of_objective`: an objective is stated. `Reader.withObjective_keeps`: step by step.
* `Reader.declareAll_of_declaration`, `Reader.declareAll_keeps`: declarations, column by column.
* `Reader.exists_of_bound`, `Reader.exists_of_boundBoth`: the limits of one column.
* `Reader.RowNamed`: what becomes of the name of a row. **`Reader.rowNamed_of_addRow`**: a row behind the
  others. `Reader.exists_of_addRowBetween`: one between two limits.
* **`Reader.moveLimit_eq`**, `Reader.exists_row_of_moveLimit`: a limit changes one row, and nothing else.
-/

import LinearProgram.Proofs.Lp.Forms
import LinearProgram.Proofs.Problem.Intervals

namespace LinearProgram.Lp.Reader

variable {reader after : Reader} {line : Nat}

/-! ### Names that are looked up -/

/-- What the look-up of each name keeps is kept by that of all of them. -/
theorem entries_keeps {good : Reader → Prop} {terms : List Term}
    (looksUp : ∀ reader, ∀ term ∈ terms, good reader → good (reader.column term.name).2)
    (start : good reader) : good (reader.entries terms).2 := by
  induction terms generalizing reader with
  | nil => exact start
  | cons term rest hyp =>
    refine hyp (fun reader other member => looksUp reader other ?_)
      (looksUp reader term List.mem_cons_self start)
    exact List.mem_cons_of_mem term member

/-! ### Objective and declarations -/

/-- The reader once an objective is stated that reads as an expression. -/
def withObjective (reader : Reader) (maximize : Bool) (expression : Expression) : Reader :=
  let looked := Reader.entries { reader with hasObjective := true } expression.terms
  looked.2.change fun problem =>
    { looked.1.foldl (fun problem entry => problem.setObjective entry.column entry.coefficient)
        { problem with maximize } with
      constant := expression.constant }

theorem exists_of_objective {maximize : Bool} {body : List Located}
    (done : reader.objective line maximize body = .ok after) :
    ∃ expression, Expression.read line body = .ok expression
      ∧ after = reader.withObjective maximize expression := by
  obtain ⟨-, done⟩ := of_guard_ok done
  obtain ⟨expression, read, done⟩ := exists_of_bind_ok done
  exact ⟨expression, read, (Except.ok.inj done).symm⟩

theorem setObjectives_keeps {good : Reader → Prop}
    (sets : ∀ (reader : Reader) (index : Nat) (value : Float),
      good reader → good (reader.change (·.setObjective index value)))
    (entries : List Entry) {given : Problem} (start : good { reader with problem := given }) :
    good { reader with
      problem := entries.foldl
        (fun problem entry => problem.setObjective entry.column entry.coefficient) given } := by
  induction entries generalizing given with
  | nil => exact start
  | cons entry rest hyp =>
    exact hyp (sets { reader with problem := given } entry.column entry.coefficient start)

/-- **What each step to an objective keeps**: the marks, the names that it looks up, the coefficients. -/
theorem withObjective_keeps {good : Reader → Prop} {expression : Expression}
    (marks : ∀ (reader : Reader) (maximize : Bool) (constant : Float) (hasObjective : Bool),
      good reader → good { reader with
        problem := { reader.problem with maximize, constant }, hasObjective })
    (looksUp : ∀ reader, ∀ term ∈ expression.terms, good reader → good (reader.column term.name).2)
    (sets : ∀ (reader : Reader) (index : Nat) (value : Float),
      good reader → good (reader.change (·.setObjective index value)))
    (start : good reader) (maximize : Bool) : good (reader.withObjective maximize expression) := by
  have marked := marks reader reader.problem.maximize reader.problem.constant true start
  have looked := entries_keeps looksUp marked
  unfold withObjective
  generalize Reader.entries { reader with hasObjective := true } expression.terms = result at looked
  obtain ⟨entries, later⟩ := result
  have turned := marks later maximize later.problem.constant later.hasObjective looked
  have set := setObjectives_keeps sets entries turned
  exact marks _ _ expression.constant later.hasObjective set

theorem declareAll_of_declaration {declared : Section} {body : List Located}
    (done : reader.declaration line declared body = .ok after) :
    reader.declareAll declared body = .ok after :=
  (of_guard_ok done).2

/-- **What the declaration of each column keeps** is kept by that of some. -/
theorem declareAll_keeps {good : Reader → Prop} {declared : Section} {body : List Located}
    (keeps : ∀ reader name, good reader → good (reader.declare declared name)) (start : good reader)
    (done : reader.declareAll declared body = .ok after) : good after := by
  fun_induction declareAll reader declared body with
  | case1 reader =>
    cases done
    exact start
  | case2 reader line rest hyp => exact hyp start done
  | case3 reader name line rest hyp => exact hyp (keeps reader name start) done
  | case4 => cases done

/-! ### Limits of a column -/

theorem exists_of_bound {term : Term} {relation : Relation} {value : Float}
    (done : reader.bound line term relation value = .ok after) :
    ∃ lower upper, after
      = (reader.column term.name).2.change (·.forceBounds (reader.column term.name).1 lower upper) := by
  obtain rfl := Except.ok.inj (of_guard_ok done).2
  dsimp only [change]
  split <;> exact ⟨_, _, rfl⟩

theorem exists_of_boundBoth {term : Term} {lower upper : Float}
    (done : reader.boundBoth line term lower upper = .ok after) :
    ∃ lower upper, after
      = (reader.column term.name).2.change (·.forceBounds (reader.column term.name).1 lower upper) := by
  obtain rfl := Except.ok.inj (of_guard_ok done).2
  dsimp only [change]
  split <;> exact ⟨_, _, rfl⟩

/-! ### A row behind the others -/

/-- The reader with a row behind the others that has no name yet. -/
def withRow (reader : Reader) (terms : List Term) (relation : Relation) (rhs : Float) : Reader :=
  (reader.entries terms).2.change
    (·.appendRow (sortEntries (reader.entries terms).1) relation rhs false)

/-- **What becomes of the name of a row.** A name that the row has anyway is noted, and not stored. -/
inductive RowNamed (added : Reader) (index : Nat) : Option String → Reader → Prop
  | unnamed : RowNamed added index none added
  | usual : RowNamed added index (some ("R" ++ toString index))
    { added with labels := added.labels ++ [("R" ++ toString index, index)] }
  | stored {name : String} (other : name ≠ "R" ++ toString index) : RowNamed added index (some name)
    { added.change (·.setRowName index name) with labels := added.labels ++ [(name, index)] }

/-- **A row that is added** has no name, or one that was not given before. -/
theorem rowNamed_of_addRow {label : Option String} {terms : List Term} {relation : Relation}
    {rhs : Float} (done : reader.addRow line label terms relation rhs = .ok after) :
    (∀ name ∈ label, reader.labels.lookup name = none)
      ∧ RowNamed (reader.withRow terms relation rhs) (reader.problem.rowCount + 1) label after := by
  unfold addRow at done
  dsimp only at done
  split at done
  next => cases done
  next unused =>
    have fresh : ∀ name ∈ label, reader.labels.lookup name = none := by
      rintro name rfl
      have free := Option.filter_eq_none_iff.mp unused name rfl
      exact Option.not_isSome_iff_eq_none.mp free
    refine ⟨fresh, ?_⟩
    split at done
    next =>
      cases done
      exact .unnamed
    next name =>
      obtain rfl := Except.ok.inj done
      split
      next same =>
        obtain rfl := beq_iff_eq.mp same
        exact .usual
      next other => exact .stored fun same => other (beq_iff_eq.mpr same)

/-- A row between two limits is one that is added with one of them, and may be given a range. -/
theorem exists_of_addRowBetween {label : Option String} {terms : List Term} {lower upper : Float}
    (done : reader.addRowBetween line label terms lower upper = .ok after) :
    ∃ relation rhs middle, (rhs = lower ∨ rhs = upper)
      ∧ reader.addRow line label terms relation rhs = .ok middle
      ∧ (after = middle ∨ ∃ range row,
        (middle.problem.rowInfo middle.problem.rowCount).setRange? range = some row
          ∧ after = middle.change (·.modifyRow middle.problem.rowCount fun _ => row)) := by
  unfold addRowBetween at done
  split at done
  · exact ⟨.atMost, upper, after, .inr rfl, done, .inl rfl⟩
  split at done
  · exact ⟨.equal, lower, after, .inl rfl, done, .inl rfl⟩
  split at done
  · exact ⟨.atLeast, lower, after, .inl rfl, done, .inl rfl⟩
  · obtain ⟨middle, added, done⟩ := exists_of_bind_ok done
    obtain rfl := Except.ok.inj done
    refine ⟨.atLeast, lower, middle, .inl rfl, added, ?_⟩
    unfold change Problem.setRange?
    dsimp only
    cases set : (middle.problem.rowInfo middle.problem.rowCount).setRange? (upper - lower) with
    | none => exact .inl rfl
    | some row => exact .inr ⟨upper - lower, row, set, rfl⟩

/-! ### A row that is limited -/

section Limits

variable {index : Nat} {name : String}

/-- **A limit changes one row**, and nothing else. -/
theorem moveLimit_eq {relation : Relation} {value : Float}
    (found : reader.findRow? name = some index)
    (done : reader.moveLimit line name relation value = .ok after) :
    ∃ row, (reader.problem.rowInfo index).limited? relation (clamp value) = some row
      ∧ after = reader.change (·.modifyRow index fun _ => row) := by
  have replaced (change : Row → Row) : reader.change (·.modifyRow index change)
      = reader.change (·.modifyRow index fun _ => change (reader.problem.rowInfo index)) := by
    unfold Reader.change
    dsimp only
    rw [Problem.modifyRow_const]
  have ranged (relation : Relation) (range : Float) :
      (reader.change fun problem =>
        ((problem.setRelation index relation).setRange? index range).getD
          (problem.setRelation index relation))
        = reader.change (·.modifyRow index fun _ =>
          (reader.problem.rowInfo index).ranged relation range) := by
    refine Eq.trans ?_ (replaced (·.ranged relation range))
    unfold Reader.change
    dsimp only
    rw [Problem.getD_setRange?_setRelation]
  unfold moveLimit at done
  rw [found] at done
  dsimp only at done
  split at done
  next =>
    obtain rfl := Except.ok.inj done
    exact ⟨_, rfl, replaced _⟩
  next related =>
    obtain ⟨notLess, done⟩ := of_guard_ok done
    obtain rfl := Except.ok.inj done
    exact ⟨_, limited?_below (fun same => by cases related.symm.trans same) notLess, ranged _ _⟩
  next related =>
    obtain ⟨notLess, done⟩ := of_guard_ok done
    obtain rfl := Except.ok.inj done
    exact ⟨_, limited?_below (fun same => by cases related.symm.trans same) notLess, ranged _ _⟩
  next related =>
    obtain ⟨notLess, done⟩ := of_guard_ok done
    obtain rfl := Except.ok.inj done
    exact ⟨_, limited?_above (fun same => by cases related.symm.trans same) notLess, ranged _ _⟩
  next related =>
    obtain ⟨notLess, done⟩ := of_guard_ok done
    obtain rfl := Except.ok.inj done
    exact ⟨_, limited?_above (fun same => by cases related.symm.trans same) notLess, ranged _ _⟩
  next relation _ _ notEqual notBelow notBelow' notAbove notAbove' =>
    obtain rfl := Except.ok.inj done
    refine ⟨{ reader.problem.rowInfo index with rhs := clamp value }, ?_, replaced _⟩
    -- The relation of the limit is the one of the row.
    cases relation with
    | equal => exact (notEqual rfl).elim
    | atMost =>
      refine if_pos ?_
      cases given : (reader.problem.rowInfo index).relation with
      | atMost => rfl
      | atLeast => exact (notAbove given rfl).elim
      | equal => exact (notAbove' given rfl).elim
    | atLeast =>
      refine if_pos ?_
      cases given : (reader.problem.rowInfo index).relation with
      | atMost => exact (notBelow given rfl).elim
      | atLeast => rfl
      | equal => exact (notBelow' given rfl).elim

/-- **A limit that is taken changes one row that exists**, and nothing else. -/
theorem exists_row_of_moveLimit {relation : Relation} {value : Float}
    (done : reader.moveLimit line name relation value = .ok after) :
    ∃ index, reader.findRow? name = some index
      ∧ ∃ row, (reader.problem.rowInfo index).limited? relation (clamp value) = some row
        ∧ after = reader.change (·.modifyRow index fun _ => row) := by
  cases found : reader.findRow? name with
  | none =>
    rw [moveLimit, found] at done
    cases done
  | some index => exact ⟨index, rfl, moveLimit_eq found done⟩

end Limits

end LinearProgram.Lp.Reader
