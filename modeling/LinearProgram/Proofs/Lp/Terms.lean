/-
**The names in an expression are distinct.**

Terms of one name are added up, so an expression has at most one term a name, and so have the terms
of a difference. Every row that a statement asks for therefore names a column once.

* `Distinct`: terms whose names are distinct. `Expression.read_distinct`, `subtract_distinct`.
* **`Action.Distinct`**: what holds of the terms of every action, by `Statement.action_distinct`.
-/

import LinearProgram.Proofs.Lp.Forms

namespace LinearProgram.Lp

/-- The names of the terms are distinct. -/
def Distinct (terms : List Term) : Prop :=
  (terms.map (·.name)).Nodup

theorem mem_names_addTerm {name other : String} {coefficient : Float} {terms : List Term} :
    other ∈ (addTerm name coefficient terms).map (·.name)
      ↔ other = name ∨ other ∈ terms.map (·.name) := by
  induction terms with
  | nil => simp [addTerm]
  | cons term rest hyp =>
    rw [addTerm]
    split
    next same => simp [same]
    next =>
      rw [List.map_cons, List.mem_cons, hyp, List.map_cons, List.mem_cons]
      exact or_left_comm

/-- A term whose name is new goes to the end. -/
theorem addTerm_of_notMem {name : String} {terms : List Term}
    (fresh : name ∉ terms.map (·.name)) (coefficient : Float) :
    addTerm name coefficient terms = terms ++ [⟨name, coefficient⟩] := by
  induction terms with
  | nil => rfl
  | cons term rest hyp =>
    rw [List.map_cons, List.mem_cons, not_or] at fresh
    rw [addTerm, if_neg fun same => fresh.1 same.symm, hyp fresh.2]
    rfl

/-- A coefficient of a name that was met is added to its term. -/
theorem addTerm_of_mem {name : String} {terms : List Term} (coefficient : Float)
    (distinct : Distinct terms) (met : name ∈ terms.map (·.name)) :
    addTerm name coefficient terms = terms.map fun term =>
      if term.name = name then ⟨name, term.coefficient + coefficient⟩ else term := by
  induction terms with
  | nil => cases met
  | cons term rest hyp =>
    obtain ⟨fresh, others⟩ := List.nodup_cons.mp distinct
    rw [List.map_cons, addTerm]
    by_cases same : term.name = name
    · have kept : (rest.map fun other : Term =>
          if other.name = name then ⟨name, other.coefficient + coefficient⟩ else other) = rest := by
        refine (List.map_congr_left fun other member => if_neg fun same' => fresh ?_).trans
          (List.map_id rest)
        exact List.mem_map.mpr ⟨other, member, same'.trans same.symm⟩
      rw [if_pos same, if_pos same, kept]
    · rw [if_neg same, if_neg same, hyp others ((List.mem_cons.mp met).resolve_left (Ne.symm same))]

theorem Distinct.addTerm {terms : List Term} (distinct : Distinct terms) (name : String)
    (coefficient : Float) : Distinct (addTerm name coefficient terms) := by
  induction terms with
  | nil => exact List.nodup_cons.mpr ⟨List.not_mem_nil, List.nodup_nil⟩
  | cons term rest hyp =>
    obtain ⟨fresh, others⟩ := List.nodup_cons.mp distinct
    rw [Lp.addTerm]
    split
    next same =>
      dsimp only at fresh
      rw [same] at fresh
      exact List.nodup_cons.mpr ⟨fresh, others⟩
    next different =>
      refine List.nodup_cons.mpr ⟨fun member => ?_, hyp others⟩
      rcases mem_names_addTerm.mp member with same | member
      · exact different same
      · exact fresh member

namespace Expression

theorem plus_distinct {expression : Expression} (distinct : Distinct expression.terms)
    (added : Summand) : Distinct (expression.plus added).terms := by
  cases added with
  | term name coefficient => exact distinct.addTerm name coefficient
  | constant value => exact distinct

theorem readFrom_distinct {line : Nat} {first : Bool} {expression result : Expression}
    {tokens : List Located} (distinct : Distinct expression.terms)
    (read : readFrom line first expression tokens = .ok result) : Distinct result.terms := by
  fun_induction readFrom line first expression tokens with
  | case1 first expression =>
    cases read
    exact distinct
  | case2 => cases read
  | case3 => cases read
  | case4 first expression token rest signed added after found hyp =>
    exact hyp (plus_distinct distinct added) read

theorem read_distinct {line : Nat} {tokens : List Located} {result : Expression}
    (read : Expression.read line tokens = .ok result) : Distinct result.terms := by
  have none : Distinct ({} : Expression).terms := List.nodup_nil
  exact readFrom_distinct none read

theorem subtract_distinct {first : Expression} (distinct : Distinct first.terms)
    (second : Expression) : Distinct (first.subtract second) := by
  rw [subtract]
  generalize first.terms = terms at distinct
  induction second.terms generalizing terms with
  | nil => exact distinct
  | cons term rest hyp => exact hyp _ (distinct.addTerm _ _)

end Expression

/-! ### Actions -/

namespace Action

/-- The terms of the row that an action adds have distinct names. -/
def Distinct : Action → Prop
  | addRow _ terms .. | addRowBetween _ terms .. => Lp.Distinct terms
  | _ => True

theorem single_distinct {line : Nat} {label : Option String} {terms : List Term}
    {relation : Relation} {value : Float} {action : Action} (distinct : Lp.Distinct terms)
    (asks : single line label terms relation value = .ok action) : action.Distinct := by
  unfold single at asks
  split at asks
  · cases asks
  · cases asks
    trivial
  · cases asks
    exact distinct

theorem double_distinct {label : Option String} {terms : List Term} {lower upper : Float}
    (distinct : Lp.Distinct terms) : (double label terms lower upper).Distinct := by
  unfold double
  split
  · trivial
  · exact distinct

theorem ofConstraint_distinct {line : Nat} {label : Option String} {body : List Located}
    {action : Action} (asks : ofConstraint line label body = .ok action) : action.Distinct := by
  cases formed_ofConstraint asks with
  | single _ _ _ read read' compared asks =>
    cases compared with
    | kept => exact single_distinct (Expression.subtract_distinct (Expression.read_distinct read) _) asks
    | turned none =>
      exact single_distinct (Expression.subtract_distinct (Expression.read_distinct read') _) asks
  | double _ _ read' => exact double_distinct (Expression.read_distinct read')
  | moveLimit => trivial

end Action

/-- **The terms of the row that a statement adds have distinct names.** -/
theorem Statement.action_distinct {line : Nat} {statement : Statement} {action : Action}
    (asks : statement.action line = .ok action) : action.Distinct := by
  cases statement with
  | objective maximize body =>
    cases asks
    trivial
  | declaration declared body =>
    cases asks
    trivial
  | constraint label body => exact Action.ofConstraint_distinct asks

end LinearProgram.Lp
