/-
**Names that are read are names.**

A word of a text starts with a letter or a sign that a name may start with and goes on with what a
name may contain. So what a statement names can be written again as it stands, and a row is never
given a word that opens an objective.

* `Named`: the words among tokens are names. `scan_named`: those of a text are.
* `NamedTerms`: the terms have names. `Expression.read_named`, `subtract_named`.
* **`Action.Named`**: what an action names, by `Statement.action_named`.
-/

import Mathlib.Data.List.TakeWhile
import LinearProgram.Proofs.Lp.Terms

namespace LinearProgram.Lp

/-! ### Tokens -/

/-- The words among the tokens are names. -/
def Named (tokens : List Located) : Prop :=
  ∀ located ∈ tokens, ∀ text, located.token = .name text → isName text = true

namespace Named

variable {tokens some : List Located}

theorem mono (named : Named tokens) (sub : some ⊆ tokens) : Named some :=
  fun located member => named located (sub member)

theorem nil : Named [] :=
  fun _ member => (List.not_mem_nil member).elim

theorem tail {first : Located} (named : Named (first :: tokens)) : Named tokens :=
  named.mono (List.subset_cons_self _ _)

theorem head {text : String} {line : Nat} (named : Named (⟨.name text, line⟩ :: tokens)) :
    isName text = true :=
  named _ List.mem_cons_self text rfl

theorem cons {first : Located} (named : Named tokens)
    (here : ∀ text, first.token = .name text → isName text = true) : Named (first :: tokens) := by
  intro located member
  rcases List.mem_cons.mp member with rfl | member
  · exact here
  · exact named located member

end Named

/-- The longest name at the front of a text is one. -/
theorem isName_takeWhile {first : Char} {rest : List Char} (starts : isNameStart first = true) :
    isName (String.ofList ((first :: rest).takeWhile isNameCharacter)) = true := by
  have inside : isNameCharacter first = true := by
    rw [isNameCharacter, starts]
    rfl
  rw [isName, String.toList_ofList, List.takeWhile_cons_of_pos inside, Bool.and_eq_true,
    List.all_eq_true]
  exact ⟨starts, fun _ member => List.mem_takeWhile_imp member⟩

/-- An operator is not a name. -/
theorem operator?_ne_name {text rest : List Char} {token : Token} {name : String}
    (found : operator? text = some (token, rest)) : token ≠ .name name := by
  unfold operator? at found
  split at found <;> cases found <;> exact nofun

theorem step_named {line : Nat} {text rest : List Char} {name : String}
    (taken : step line text = .take (.name name) rest) : isName name = true := by
  unfold step at taken
  split at taken
  · cases taken
  · cases taken
  · split at taken <;> cases taken
  · cases taken
  next first rest _ _ _ =>
    dsimp only at taken
    split at taken
    · cases taken
    split at taken
    · split at taken <;> cases taken
    split at taken
    next starts =>
      cases taken
      exact isName_takeWhile starts
    next =>
      split at taken
      next token tail found =>
        cases taken
        exact absurd rfl (operator?_ne_name found)
      next => cases taken

/-- **The words of a text are names.** -/
theorem scan_named {line : Nat} {text : List Char} {tokens : List Located}
    (scanned : scan line text = .ok tokens) : Named tokens := by
  fun_induction scan line text generalizing tokens with
  | case1 line text stops =>
    cases scanned
    exact .nil
  | case2 line text next rest skips shorter hyp => exact hyp scanned
  | case3 line text token rest takes shorter hyp =>
    cases others : scan line rest with
    | error failure =>
      rw [others] at scanned
      cases scanned
    | ok more =>
      rw [others] at scanned
      obtain rfl := Except.ok.inj scanned
      refine (hyp others).cons ?_
      rintro text rfl
      exact step_named takes
  | case4 line text fault fails => cases scanned

/-! ### Expressions -/

/-- The terms have names. -/
def NamedTerms (terms : List Term) : Prop :=
  ∀ term ∈ terms, isName term.name = true

theorem NamedTerms.addTerm {terms : List Term} (named : NamedTerms terms) {name : String}
    (isName : isName name = true) (coefficient : Float) :
    NamedTerms (addTerm name coefficient terms) := by
  induction terms with
  | nil => exact List.forall_mem_singleton.mpr isName
  | cons term rest hyp =>
    obtain ⟨here, later⟩ := List.forall_mem_cons.mp named
    rw [Lp.addTerm]
    split
    · exact List.forall_mem_cons.mpr ⟨isName, later⟩
    · exact List.forall_mem_cons.mpr ⟨here, hyp later⟩

/-- A summand names what the tokens name, and the tokens behind it are some of them. -/
theorem summand_named {line : Nat} {negative : Bool} {tokens rest : List Located} {found : Summand}
    (named : Named tokens) (read : summand line negative tokens = .ok (found, rest)) :
    (∀ name coefficient, found = .term name coefficient → isName name = true) ∧ Named rest := by
  unfold summand at read
  split at read
  · cases read
    refine ⟨?_, named.tail.tail⟩
    rintro name coefficient ⟨⟩
    exact named.tail.head
  · cases read
    exact ⟨nofun, named.tail⟩
  · cases read
    refine ⟨?_, named.tail⟩
    rintro name coefficient ⟨⟩
    exact named.head
  · cases read
  · cases read

namespace Expression

theorem readFrom_named {line : Nat} {first : Bool} {expression result : Expression}
    {tokens : List Located} (terms : NamedTerms expression.terms) (named : Named tokens)
    (read : readFrom line first expression tokens = .ok result) : NamedTerms result.terms := by
  fun_induction readFrom line first expression tokens with
  | case1 first expression =>
    cases read
    exact terms
  | case2 => cases read
  | case3 => cases read
  | case4 first expression token rest signed added after found hyp =>
    have unsigned := named.mono (spanSigns_suffix false (token :: rest)).subset
    obtain ⟨named, later⟩ := summand_named unsigned found
    refine hyp ?_ later read
    cases added with
    | term name coefficient => exact terms.addTerm (named name coefficient rfl) coefficient
    | constant value => exact terms

theorem read_named {line : Nat} {tokens : List Located} {result : Expression}
    (named : Named tokens) (read : Expression.read line tokens = .ok result) :
    NamedTerms result.terms :=
  readFrom_named (fun _ member => (List.not_mem_nil member).elim) named read

theorem subtract_named {first second : Expression} (named : NamedTerms first.terms)
    (named' : NamedTerms second.terms) : NamedTerms (first.subtract second) := by
  rw [subtract]
  generalize first.terms = terms at named
  generalize second.terms = others at named'
  induction others generalizing terms with
  | nil => exact named
  | cons term rest hyp =>
    obtain ⟨here, later⟩ := List.forall_mem_cons.mp named'
    exact hyp _ (named.addTerm here _) later

end Expression

/-! ### Actions -/

/-- A row is given a name that a row can have, if any. -/
def NamedLabel (label : Option String) : Prop :=
  ∀ name ∈ label, isRowName name = true

namespace Action

/-- **What an action names has a name.** -/
def Named : Action → Prop
  | objective _ body | declaration _ body => Lp.Named body
  | bound term .. | boundBoth term .. => isName term.name = true
  | addRow label terms .. | addRowBetween label terms .. => NamedLabel label ∧ NamedTerms terms
  | moveLimit .. => True

section Constraints

variable {line : Nat} {label : Option String} {action : Action}

theorem single_named {terms : List Term} {relation : Relation} {value : Float}
    (labelled : NamedLabel label) (named : NamedTerms terms)
    (asks : single line label terms relation value = .ok action) : action.Named := by
  unfold single at asks
  split at asks
  · cases asks
  · cases asks
    exact named _ List.mem_cons_self
  · cases asks
    exact ⟨labelled, named⟩

theorem double_named {terms : List Term} {lower upper : Float} (labelled : NamedLabel label)
    (named : NamedTerms terms) : (double label terms lower upper).Named := by
  unfold double
  split
  · exact named _ List.mem_cons_self
  · exact ⟨labelled, named⟩

/-- The parts between relations have the names that the whole has. -/
theorem splitRelations_named {tokens : List Located} (named : Lp.Named tokens) :
    Lp.Named (splitRelations tokens).1
      ∧ ∀ part ∈ (splitRelations tokens).2, Lp.Named part.2 := by
  have inside {located : Located} (member : located ∈ (splitRelations tokens).1
      ++ (splitRelations tokens).2.flatMap (·.2)) : located ∈ tokens := by
    rw [splitRelations_parts] at member
    exact (List.mem_filter.mp member).1
  refine ⟨fun located member => named located (inside (List.mem_append_left _ member)), ?_⟩
  intro part among located member
  have later := List.mem_flatMap.mpr ⟨part, among, member⟩
  exact named located (inside (List.mem_append_right _ later))

theorem ofConstraint_named {body : List Located} (labelled : NamedLabel label)
    (named : Lp.Named body) (asks : ofConstraint line label body = .ok action) :
    action.Named := by
  obtain ⟨left, parts⟩ := splitRelations_named named
  cases formed_ofConstraint asks with
  | single cut _ _ read read' compared asks =>
    rw [cut] at left parts
    have terms := Expression.read_named left read
    have terms' := Expression.read_named (parts _ List.mem_cons_self) read'
    cases compared with
    | kept => exact single_named labelled (Expression.subtract_named terms terms') asks
    | turned none => exact single_named labelled (Expression.subtract_named terms' terms) asks
  | double cut read read' =>
    rw [cut] at parts
    exact double_named labelled (Expression.read_named (parts _ List.mem_cons_self) read')
  | moveLimit => trivial

end Constraints

end Action

/-- **What a statement names has a name**, if the words of its tokens are names. -/
theorem Statement.action_named {line : Nat} {tokens : List Located} {action : Action}
    (named : Named tokens) (asks : (Statement.ofTokens tokens).action line = .ok action) :
    action.Named := by
  have unlabelled : NamedLabel none := nofun
  unfold Statement.ofTokens at asks
  split at asks
  next word first second body =>
    split at asks
    next maximize sense =>
      cases asks
      exact named.tail.tail
    next sense =>
      refine Action.ofConstraint_named ?_ named.tail.tail asks
      rintro name ⟨⟩
      exact isRowName_iff.mpr ⟨named.head, sense⟩
  next word first body _ =>
    split at asks
    · cases asks
      exact .nil
    · cases asks
      exact named.tail
    · exact Action.ofConstraint_named unlabelled named asks
  next => exact Action.ofConstraint_named unlabelled named asks

end LinearProgram.Lp
