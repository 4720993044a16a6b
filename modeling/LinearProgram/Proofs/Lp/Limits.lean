/-
**Moving a limit of a row that exists.**

A row name alone before a comparison with a constant sets one end of the interval in which the activity
of the row must lie, or both ends. Statements of that kind may follow one another. Each of them moves
the ends that it names and no other, as long as none sets the end that a range goes out from.

* `MovesLimit`: a statement that moves a limit. `sameBounds_statement`: what one of them does.
* `Limited`: statements of that kind one after the other, about one row.
* **`bounds_limited`**: each of them moves the ends that it names.
-/

import LinearProgram.Proofs.Lp.Comparisons

namespace LinearProgram.Lp

open Decimal Problem

/-! ### Statements that move a limit -/

/-- **A statement that moves a limit**: a row name and a colon, a relation, and what it compares with. -/
structure MovesLimit (tokens : List Located) (name : String) (relation : Relation)
    (limit : List Located) : Prop where
  written : ∃ front line, front.map (·.token) = labelTokens (some name)
    ∧ tokens = front ++ ⟨.relation relation, line⟩ :: limit
  plain : ∀ relation, .relation relation ∉ limit.map (·.token)

/-- An expression does not begin with a relation. -/
theorem Expression.read_relation {line place : Nat} {relation : Relation} {rest : List Located}
    {expression : Expression}
    (read : Expression.read line (⟨.relation relation, place⟩ :: rest) = .ok expression) : False := by
  rw [Expression.read, Expression.readFrom] at read
  cases read

/-- **What a reader does with a statement that moves a limit.** -/
theorem MovesLimit.moveLimit {reader after : Reader} {tokens limit : List Located} {name : String}
    {relation : Relation} (moves : MovesLimit tokens name relation limit)
    (accepted : reader.statement tokens = .ok after) :
    ∃ line expression, Expression.read line limit = .ok expression
      ∧ reader.moveLimit line name relation expression.constant = .ok after := by
  obtain ⟨front, place, labelled, rfl⟩ := moves.written
  have unlabelled : Unlabelled (⟨.relation relation, place⟩ :: limit) :=
    @unlabelled_of_notMem [] limit relation place List.not_mem_nil
  obtain ⟨line, action, asks, done⟩ :=
    Reader.exists_action (List.append_ne_nil_of_right_ne_nil _ (List.cons_ne_nil _ _)) accepted
  rcases ofTokens_body labelled unlabelled with formed | ⟨maximize, formed⟩ | ⟨none, -⟩
  · rw [formed, Statement.action, Action.ofConstraint, splitRelations,
      splitRelations_none moves.plain] at asks
    dsimp only at asks
    obtain ⟨-, asks⟩ := of_guard_ok asks
    obtain ⟨expression, read, asks⟩ := exists_of_bind_ok asks
    split at asks
    · obtain rfl := Except.ok.inj asks
      exact ⟨line, expression, read, done⟩
    · cases asks
  -- An objective would begin with the relation.
  · rw [formed] at asks
    cases asks
    obtain ⟨expression, read, -⟩ := Reader.exists_of_objective done
    exact (Expression.read_relation read).elim
  · cases none

/-! ### One after the other -/

/-- **Statements that move limits of one row**, one after the other, each of which moves one end: the
relations and the limits that they name. -/
inductive Limited (index : Nat) : Reader → List (Relation × Float) → Reader → Prop where
  | nil (reader : Reader) : Limited index reader [] reader
  | cons {reader middle after : Reader} {tokens limit : List Located} {name : String}
      {relation : Relation} {line : Nat} {expression : Expression} {rest : List (Relation × Float)}
      (moves : MovesLimit tokens name relation limit)
      (read : Expression.read line limit = .ok expression)
      (found : reader.findRow? name = some index)
      (accepted : reader.statement tokens = .ok middle)
      (oneSided : MovesOneSide (reader.problem.rowInfo index) relation (clamp expression.constant))
      (later : Limited index middle rest after) :
      Limited index reader ((relation, clamp expression.constant) :: rest) after

/-- **A statement moves the end that it names**, and changes nothing but the row. -/
theorem sameBounds_statement {reader after : Reader} {tokens limit : List Located} {name : String}
    {relation : Relation} {line index : Nat} {expression : Expression}
    (moves : MovesLimit tokens name relation limit)
    (read : Expression.read line limit = .ok expression)
    (found : reader.findRow? name = some index)
    (accepted : reader.statement tokens = .ok after)
    (oneSided : MovesOneSide (reader.problem.rowInfo index) relation (clamp expression.constant)) :
    ∃ row, after = reader.change (·.modifyRow index fun _ => row)
      ∧ SameBounds row.bounds
        (moveSide (reader.problem.rowInfo index).bounds (relation, clamp expression.constant)) := by
  obtain ⟨place, expression', read', done⟩ := moves.moveLimit accepted
  obtain rfl := Except.ok.inj (read.symm.trans (Expression.read_line read'))
  obtain ⟨row, takes, changed⟩ := Reader.moveLimit_eq found done
  exact ⟨row, changed, sameBounds_limited takes oneSided⟩

/-- **Limits move the ends that they name.** However many statements move limits of one row, each where
it moves one end only, the row has the interval that is left when one end after the other is moved, and
nothing but the row has changed. -/
theorem bounds_limited {index : Nat} {reader after : Reader} {limits : List (Relation × Float)}
    (sound : reader.Sound) (has : reader.problem.HasRow index)
    (limited : Limited index reader limits after) :
    SameBounds (after.problem.rowInfo index).bounds
        (limits.foldl moveSide (reader.problem.rowInfo index).bounds)
      ∧ ∃ row, after = reader.change (·.modifyRow index fun _ => row) := by
  induction limited with
  | nil reader =>
    refine ⟨.refl _, reader.problem.rowInfo index, ?_⟩
    unfold Reader.change
    dsimp only
    rw [Problem.modifyRow_self]
  | cons moves read found accepted oneSided later hyp =>
    obtain ⟨row, rfl, same⟩ := sameBounds_statement moves read found accepted oneSided
    have given := Problem.rowInfo_modifyRow sound.stored has fun _ => row
    obtain ⟨bounds, last, changed⟩ := hyp (sound.modifyRow index _) has
    refine ⟨bounds.trans (SameBounds.foldl_moveSide ?_ _), last, ?_⟩
    · rw [← given] at same
      exact same
    · rw [changed]
      unfold Reader.change
      dsimp only
      rw [Problem.modifyRow_modifyRow]
      rfl

/-- A reader with one row, `c: x <= 8`. -/
def capped : Reader where
  problem := {
    columns := [{ name := some "x" }]
    rows := [{ relation := .atMost, rhs := 8, name := some "c" }]
    matrix := SparseRows.ofRows [[⟨1, 1⟩]]
    sortedUpTo := 1 }
  labels := [("c", 1)]

theorem sound_capped : capped.Sound where
  stored := by
    have laid : capped.problem.matrix = SparseRows.ofRows [[⟨1, 1⟩]] := rfl
    refine .of_rows laid rfl (fun row member => ?_) (by decide) (by decide)
    rw [List.mem_singleton.mp member]
    exact ⟨by decide, by decide⟩
  labels := fun label member => by
    rw [List.mem_singleton.mp member]
    exact ⟨by decide, by decide⟩

/-- The statement `c: relation value`. -/
def limitTokens (relation : Relation) (value : Float) : List Located :=
  [⟨.name "c", 1⟩, ⟨.colon, 1⟩, ⟨.relation relation, 1⟩, ⟨.number value, 1⟩]

theorem movesLimit_limitTokens (relation : Relation) (value : Float) :
    MovesLimit (limitTokens relation value) "c" relation [⟨.number value, 1⟩] where
  written := ⟨[⟨.name "c", 1⟩, ⟨.colon, 1⟩], 1, rfl, rfl⟩
  plain := fun relation member => by simp at member

/-- After `c: <= 6; c: >= 2;` the row lies between these limits. -/
theorem bounds_limited_capped : ∃ after : Reader,
    Limited 1 capped [(.atMost, 6), (.atLeast, 2)] after
      ∧ SameBounds (after.problem.rowInfo 1).bounds (2, 6) := by
  have readSix : ((Expression.read 1 [⟨.number 6, 1⟩]).toOption.map fun expression =>
      clamp expression.constant) = some 6 := by decide +kernel
  have readTwo : ((Expression.read 1 [⟨.number 2, 1⟩]).toOption.map fun expression =>
      clamp expression.constant) = some 2 := by decide +kernel
  have first : ((capped.statement (limitTokens .atMost 6)).toOption.map fun reader =>
      ((reader.problem.rowInfo 1).relation, (reader.problem.rowInfo 1).rhs, reader.findRow? "c",
        ((reader.statement (limitTokens .atLeast 2)).toOption.map fun _ => ())))
      = some (.atMost, 6, some 1, some ()) := by decide +kernel
  obtain ⟨six, isSix, constant⟩ := exists_ok_of_view readSix
  obtain ⟨two, isTwo, constant'⟩ := exists_ok_of_view readTwo
  obtain ⟨middle, accepted, seen⟩ := exists_ok_of_view first
  simp only [Prod.mk.injEq] at seen
  obtain ⟨related, rhs, found, next⟩ := seen
  obtain ⟨after, accepted', -⟩ := exists_ok_of_view next
  have difference : ExactDifference 6 2 :=
    exactDifference_of_isWhole (by decide +kernel : IsWhole 6 6) (by decide +kernel : IsWhole 2 2)
      (by decide)
  have oneSided : MovesOneSide (middle.problem.rowInfo 1) .atLeast (clamp two.constant) := by
    unfold MovesOneSide
    rw [related, rhs, constant']
    exact ⟨by decide +kernel, by decide +kernel, fun _ => difference⟩
  have limited : Limited 1 capped [(.atMost, 6), (.atLeast, 2)] after := by
    rw [← constant, ← constant']
    exact .cons (movesLimit_limitTokens .atMost 6) isSix rfl accepted rfl
      (.cons (movesLimit_limitTokens .atLeast 2) isTwo found accepted' oneSided (.nil after))
  exact ⟨after, limited, (bounds_limited sound_capped ⟨by decide, by decide⟩ limited).1⟩

end LinearProgram.Lp
