/-
**How a constraint becomes an action.**

The relations cut the body of a constraint into parts, which are read as expressions. A comparison brings
the terms of both sides to the left and the numbers to the right, the sides changing places if only the
right one has variables. Two relations stand around an expression, between constants, and a row name
alone before a constant limits its row.

* `splitRelations_parts`: the parts have what is not a relation.
* `Action.Compared`: what two sides come to. `Action.Enclosed`: the limits around an expression.
* `Action.Formed`: the actions that a constraint can ask for.
* **`Action.formed_ofConstraint`**, **`Action.Formed.asks`**: these are what it asks for, and no others.
-/

import LinearProgram.Lp.Reader

namespace LinearProgram.Lp

/-- What a computation behind another one gives rests on what that one gives. -/
theorem exists_of_bind_ok {α β : Type} {first : Except Failure α} {second : α → Except Failure β}
    {result : β} (given : first >>= second = .ok result) :
    ∃ middle, first = .ok middle ∧ second middle = .ok result := by
  cases first with
  | error failure => cases given
  | ok middle => exact ⟨middle, rfl, given⟩

/-- What a guard lets through goes on behind it. -/
theorem of_guard_ok {α : Type} {guard : Prop} [Decidable guard] {failure : Failure}
    {rest : Except Failure α} {result : α}
    (given : (if guard then .error failure else rest) = .ok result) :
    ¬guard ∧ rest = .ok result := by
  split at given
  next => cases given
  next passed => exact ⟨passed, given⟩

/-- What a computation gives, told from a view of it. -/
theorem exists_ok_of_view {α β : Type} {result : Except Failure α} {view : α → β} {seen : β}
    (given : result.toOption.map view = some seen) : ∃ value, result = .ok value ∧ view value = seen := by
  cases result with
  | error failure => cases given
  | ok value => exact ⟨value, rfl, Option.some.inj given⟩

/-! ### The parts of a constraint -/

/-- Whether a token is a relation. -/
def Token.isRelation : Token → Bool
  | relation _ => true
  | _ => false

/-- **The parts between relations** have all other tokens, in order. -/
theorem splitRelations_parts (tokens : List Located) :
    (splitRelations tokens).1 ++ (splitRelations tokens).2.flatMap (·.2)
      = tokens.filter (!·.token.isRelation) := by
  fun_induction splitRelations tokens with
  | case1 => rfl
  | case2 relation line rest part parts split hyp =>
    rw [split] at hyp
    exact hyp
  | case3 token rest other part parts split hyp =>
    have kept : (!token.token.isRelation) = true := by
      obtain ⟨token, line⟩ := token
      cases token with
      | relation relation => exact absurd rfl (other relation line)
      | number | name | plus | minus | colon | comma | semicolon => rfl
    rw [split] at hyp
    rw [List.filter_cons, if_pos kept, ← hyp]
    rfl

/-! ### The actions of a constraint -/

namespace Action

/-- **What two sides come to**: terms, a relation, and the number that it compares them with. The sides
change places if only the right one has variables. -/
inductive Compared (first second : Expression) (relation : Relation) :
    List Term → Relation → Float → Prop
  | kept (straight : first.terms ≠ [] ∨ second.terms = []) :
    Compared first second relation (first.subtract second) relation
      (second.constant - first.constant)
  | turned (none : first.terms = []) (some : second.terms ≠ []) :
    Compared first second relation (second.subtract first) relation.flip
      (first.constant - second.constant)

/-- **The limits that two relations set** to an expression between constants; both point one way. -/
inductive Enclosed (left inner right : Expression) : Relation → Relation → Float → Float → Prop
  | atMost : Enclosed left inner right .atMost .atMost (left.constant - inner.constant)
    (right.constant - inner.constant)
  | atLeast : Enclosed left inner right .atLeast .atLeast (right.constant - inner.constant)
    (left.constant - inner.constant)

/-- **The actions that a constraint can ask for**, with what its parts are read as. -/
inductive Formed (line : Nat) (label : Option String) (body : List Located) : Action → Prop
  | single {left right : List Located} {relation related : Relation} {first second : Expression}
      {terms : List Term} {value : Float} {action : Action}
      (cut : splitRelations body = (left, [(relation, right)])) (some : left ≠ [])
      (some' : right ≠ []) (read : Expression.read line left = .ok first)
      (read' : Expression.read line right = .ok second)
      (compared : Compared first second relation terms related value)
      (asks : single line label terms related value = .ok action) :
    Formed line label body action
  | double {left middle right : List Located} {before behind : Relation}
      {lower inner upper : Expression} {low high : Float}
      (cut : splitRelations body = (left, [(before, middle), (behind, right)]))
      (read : Expression.read line left = .ok lower)
      (read' : Expression.read line middle = .ok inner)
      (read'' : Expression.read line right = .ok upper)
      (none : lower.terms = []) (some : inner.terms ≠ []) (none' : upper.terms = [])
      (enclosed : Enclosed lower inner upper before behind low high) :
    Formed line label body (double label inner.terms low high)
  | moveLimit {name : String} {right : List Located} {relation : Relation} {limit : Expression}
      (cut : splitRelations body = ([], [(relation, right)])) (some : right ≠ [])
      (named : label = .some name) (read : Expression.read line right = .ok limit)
      (none : limit.terms = []) :
    Formed line label body (moveLimit name relation limit.constant)

section Constraints

variable {line : Nat} {label : Option String} {body : List Located} {action : Action}

theorem formed_compare {left right : List Located} {relation : Relation}
    (cut : splitRelations body = (left, [(relation, right)]))
    (asks : compare line label left relation right = .ok action) : Formed line label body action := by
  unfold compare at asks
  split at asks
  next => cases asks
  next some' =>
    rw [List.isEmpty_iff] at some'
    split at asks
    next empty =>
      obtain rfl := List.isEmpty_iff.mp empty
      split at asks
      next => cases asks
      next =>
        obtain ⟨limit, read, asks⟩ := exists_of_bind_ok asks
        split at asks
        next none =>
          cases asks
          exact .moveLimit cut some' rfl read (List.isEmpty_iff.mp none)
        next => cases asks
    next some =>
      rw [List.isEmpty_iff] at some
      obtain ⟨first, read, asks⟩ := exists_of_bind_ok asks
      obtain ⟨second, read', asks⟩ := exists_of_bind_ok asks
      split at asks
      next turned =>
        rw [Bool.and_eq_true, List.isEmpty_iff, Bool.not_eq_true', List.isEmpty_eq_false_iff] at turned
        exact .single cut some some' read read' (.turned turned.1 turned.2) asks
      next straight =>
        rw [Bool.and_eq_true, List.isEmpty_iff, Bool.not_eq_true', List.isEmpty_eq_false_iff,
          Classical.not_and_iff_not_or_not, Classical.not_not] at straight
        exact .single cut some some' read read' (.kept straight) asks

theorem formed_compareBetween {left middle right : List Located} {before behind : Relation}
    (cut : splitRelations body = (left, [(before, middle), (behind, right)]))
    (asks : compareBetween line label left before middle behind right = .ok action) :
    Formed line label body action := by
  unfold compareBetween at asks
  obtain ⟨lower, read, asks⟩ := exists_of_bind_ok asks
  obtain ⟨inner, read', asks⟩ := exists_of_bind_ok asks
  obtain ⟨upper, read'', asks⟩ := exists_of_bind_ok asks
  dsimp only at asks
  split at asks
  next => cases asks
  next constants =>
    simp only [Bool.or_eq_true, not_or, Bool.not_eq_true', Bool.not_eq_false,
      List.isEmpty_iff] at constants
    obtain ⟨⟨none, none'⟩, some⟩ := constants
    split at asks
    · cases asks
      exact .double cut read read' read'' none some none' .atMost
    · cases asks
      exact .double cut read read' read'' none some none' .atLeast
    · cases asks

/-- **What a constraint asks for** is one of these actions. -/
theorem formed_ofConstraint (asks : ofConstraint line label body = .ok action) :
    Formed line label body action := by
  unfold ofConstraint at asks
  split at asks
  next => cases asks
  next cut => exact formed_compare cut asks
  next cut => exact formed_compareBetween cut asks
  next => cases asks

/-- **And each of them is asked for** by the constraint. -/
theorem Formed.asks (formed : Formed line label body action) :
    ofConstraint line label body = .ok action := by
  unfold ofConstraint
  cases formed with
  | single cut some some' read read' compared asks =>
    rw [cut]
    dsimp only
    unfold compare
    rw [List.isEmpty_eq_false_iff.mpr some', List.isEmpty_eq_false_iff.mpr some, read, read']
    dsimp only [bind, Except.bind]
    cases compared with
    | kept straight =>
      rw [if_neg Bool.false_ne_true, if_neg Bool.false_ne_true, if_neg]
      · exact asks
      · rw [Bool.and_eq_true, List.isEmpty_iff, Bool.not_eq_true', List.isEmpty_eq_false_iff]
        rintro ⟨none, more⟩
        exact straight.elim (· none) more
    | turned none more =>
      rw [if_neg Bool.false_ne_true, if_neg Bool.false_ne_true, none,
        List.isEmpty_eq_false_iff.mpr more]
      exact asks
  | double cut read read' read'' none some none' enclosed =>
    rw [cut]
    dsimp only
    unfold compareBetween
    rw [read, read', read'']
    dsimp only [bind, Except.bind]
    rw [none, none', List.isEmpty_eq_false_iff.mpr some]
    cases enclosed <;> rfl
  | moveLimit cut some named read none =>
    rw [cut]
    dsimp only
    unfold compare
    rw [List.isEmpty_eq_false_iff.mpr some, named, read]
    dsimp only [bind, Except.bind]
    rw [none]
    rfl

end Constraints

end Action

end LinearProgram.Lp
