/-
**What the tokens of a statement ask for.**

* `splitRelations_none`, `splitRelations_cut`: a row of tokens is cut at its relations.
* `Asks`: tokens that ask for an action, whatever their lines are. **`asks_row`, `asks_labelled`,
  `asks_limit`, `asks_single`, `asks_between`**: the forms of a constraint.
* `Takes`: what a reader makes of a statement. **`takes_objective`, `takes_integers`**: the
  objective and the declaration of integer columns.
* **`statements_closed`**: statements that are closed by semicolons are taken one after the other.
-/

import LinearProgram.Lp.Reader
import LinearProgram.Proofs.Lp.Printed

namespace LinearProgram.Lp

open Decimal

/-! ### Relations -/

theorem splitRelations_front {front : List Located}
    (plain : ∀ relation, .relation relation ∉ front.map (·.token)) (rest : List Located) :
    splitRelations (front ++ rest)
      = (front ++ (splitRelations rest).1, (splitRelations rest).2) := by
  induction front with
  | nil => rfl
  | cons first others hyp =>
    have later := hyp fun relation member => plain relation (List.mem_cons_of_mem _ member)
    rw [List.cons_append, splitRelations, later]
    · rfl
    · intro relation line same
      exact plain relation (by rw [same]; exact List.mem_cons_self)

/-- A row of tokens with no relation has one part. -/
theorem splitRelations_none {front : List Located}
    (plain : ∀ relation, .relation relation ∉ front.map (·.token)) :
    splitRelations front = (front, []) := by
  have split := splitRelations_front plain []
  rw [List.append_nil] at split
  rw [split, splitRelations, List.append_nil]

/-- **A row of tokens is cut at its first relation.** -/
theorem splitRelations_cut {front : List Located}
    (plain : ∀ relation, .relation relation ∉ front.map (·.token)) (relation : Relation)
    (line : Nat) (rest : List Located) :
    splitRelations (front ++ ⟨.relation relation, line⟩ :: rest)
      = (front, (relation, (splitRelations rest).1) :: (splitRelations rest).2) := by
  rw [splitRelations_front plain, splitRelations, List.append_nil]

/-- Located tokens around a relation. -/
theorem exists_cut {located : List Located} {before after : List Token} {relation : Relation}
    (same : located.map (·.token) = before ++ .relation relation :: after) :
    ∃ front line back, located = front ++ ⟨.relation relation, line⟩ :: back
      ∧ front.map (·.token) = before ∧ back.map (·.token) = after := by
  obtain ⟨front, rest, rfl, left, right⟩ := List.map_eq_append_iff.mp same
  obtain ⟨⟨token, line⟩, back, rfl, here, there⟩ := List.map_eq_cons_iff.mp right
  obtain rfl : token = .relation relation := here
  exact ⟨front, line, back, rfl, left, there⟩

/-- Relations do not stand in a sum. -/
theorem Reads.relation_notMem {tokens : List Token} {expression : Expression}
    (reads : Reads tokens expression) {located : List Located}
    (same : located.map (·.token) = tokens) (relation : Relation) :
    .relation relation ∉ located.map (·.token) :=
  fun member => reads.simple (.relation relation) (same ▸ member)

theorem isEmpty_of_map {located : List Located} {tokens : List Token}
    (same : located.map (·.token) = tokens) : located.isEmpty = tokens.isEmpty := by
  rw [← same, List.isEmpty_map]

/-! ### Constraints -/

namespace Action

variable {left middle right : Expression} {before between after : List Token}

/-- A comparison of an expression with a constant. -/
theorem ofConstraint_single (reads : Reads before left) (reads' : Reads after right)
    (constant : right.terms = []) (some : before ≠ []) (some' : after ≠ []) {relation : Relation}
    {located : List Located}
    (same : located.map (·.token) = before ++ .relation relation :: after) (line : Nat)
    (label : Option String) :
    ofConstraint line label located
      = single line label left.terms relation (right.constant - left.constant) := by
  obtain ⟨front, where_, back, rfl, frontSame, backSame⟩ := exists_cut same
  have plain := reads.relation_notMem frontSame
  have plain' := reads'.relation_notMem backSame
  have there : front.isEmpty = false :=
    (isEmpty_of_map frontSame).trans (List.isEmpty_eq_false_iff.mpr some)
  have there' : back.isEmpty = false :=
    (isEmpty_of_map backSame).trans (List.isEmpty_eq_false_iff.mpr some')
  rw [ofConstraint, splitRelations_cut plain, splitRelations_none plain']
  show compare line label front relation back = _
  unfold compare
  rw [there, there', if_neg Bool.false_ne_true, if_neg Bool.false_ne_true,
    reads.read line front frontSame, reads'.read line back backSame]
  dsimp only [bind, Except.bind]
  rw [constant, List.isEmpty_nil, Bool.not_true, Bool.and_false, if_neg Bool.false_ne_true,
    Expression.subtract, constant, List.foldl_nil]

/-- A row name alone before a comparison with a constant. -/
theorem ofConstraint_limit (reads : Reads after right) (constant : right.terms = [])
    (some : after ≠ []) {relation : Relation} {located : List Located}
    (same : located.map (·.token) = .relation relation :: after) (line : Nat) (name : String) :
    ofConstraint line (.some name) located = .ok (.moveLimit name relation right.constant) := by
  have same : located.map (·.token) = [] ++ .relation relation :: after := same
  obtain ⟨front, where_, back, rfl, frontSame, backSame⟩ := exists_cut same
  obtain rfl := List.map_eq_nil_iff.mp frontSame
  have plain := reads.relation_notMem backSame
  have there : back.isEmpty = false :=
    (isEmpty_of_map backSame).trans (List.isEmpty_eq_false_iff.mpr some)
  rw [ofConstraint, splitRelations_cut (fun _ => List.not_mem_nil), splitRelations_none plain]
  show compare line (.some name) [] relation back = _
  unfold compare
  rw [there, if_neg Bool.false_ne_true, List.isEmpty_nil, if_pos rfl]
  dsimp only
  rw [reads.read line back backSame]
  dsimp only [bind, Except.bind]
  rw [constant, List.isEmpty_nil, if_pos rfl]

/-- An expression between two constants. -/
theorem ofConstraint_between (reads : Reads before left) (reads' : Reads between middle)
    (reads'' : Reads after right) (low : left.terms = []) (high : right.terms = [])
    (some : middle.terms ≠ []) {located : List Located}
    (same : located.map (·.token)
      = before ++ .relation .atMost :: (between ++ .relation .atMost :: after)) (line : Nat)
    (label : Option String) :
    ofConstraint line label located
      = .ok (double label middle.terms (left.constant - middle.constant)
          (right.constant - middle.constant)) := by
  obtain ⟨front, where_, rest, rfl, frontSame, restSame⟩ := exists_cut same
  obtain ⟨inner, where', back, rfl, innerSame, backSame⟩ := exists_cut restSame
  have plain := reads.relation_notMem frontSame
  have plain' := reads'.relation_notMem innerSame
  have plain'' := reads''.relation_notMem backSame
  rw [ofConstraint, splitRelations_cut plain, splitRelations_cut plain',
    splitRelations_none plain'']
  dsimp only
  rw [compareBetween, reads.read line front frontSame, reads'.read line inner innerSame,
    reads''.read line back backSame]
  dsimp only [bind, Except.bind]
  rw [low, high, List.isEmpty_nil, List.isEmpty_eq_false_iff.mpr some, if_neg (by decide)]

end Action

/-! ### What statements ask for -/

/-- **The tokens ask for the action**, whatever their lines are. -/
structure Asks (tokens : List Token) (action : Action) : Prop where
  some : tokens ≠ []
  closed : .semicolon ∉ tokens
  asks : ∀ line located, located.map (·.token) = tokens →
    (Statement.ofTokens located).action line = .ok action

/-- Two names in a row are no expression. -/
theorem Reads.not_adjacent {first second : String} {rest : List Token} {expression : Expression}
    (reads : Reads (.name first :: .name second :: rest) expression) : False := by
  have read := reads.read 1 ((Token.name first :: .name second :: rest).map (⟨·, 1⟩))
    (List.map_map.trans (List.map_id' _))
  rw [Expression.read, List.map_cons, List.map_cons, Expression.readFrom] at read
  dsimp only [spanSigns, summand] at read
  rw [Expression.readFrom] at read
  cases read

/-- **What begins with an expression and goes on with a relation** is a constraint without a row name. -/
theorem ofTokens_reads {tokens rest : List Token} {expression : Expression}
    (reads : Reads tokens expression) {relation : Relation} {located : List Located}
    (same : located.map (·.token) = tokens ++ .relation relation :: rest) :
    Statement.ofTokens located = .constraint none located := by
  unfold Statement.ofTokens
  split
  next =>
    -- The colon would stand in the expression, or be the relation.
    rcases tokens with - | ⟨one, - | ⟨two, others⟩⟩
    · cases (List.cons.inj same).1
    · cases (List.cons.inj (List.cons.inj same).2).1
    · obtain rfl : Token.colon = two := (List.cons.inj (List.cons.inj same).2).1
      exact (reads.simple .colon (List.mem_cons_of_mem _ List.mem_cons_self)).elim
  next =>
    split
    next =>
      rcases tokens with - | ⟨one, others⟩
      · cases (List.cons.inj same).1
      · exact absurd (List.cons.inj same).2.symm
          (List.append_ne_nil_of_right_ne_nil others (List.cons_ne_nil _ _))
    next =>
      rcases tokens with - | ⟨one, - | ⟨two, others⟩⟩
      · cases (List.cons.inj same).1
      · cases (List.cons.inj (List.cons.inj same).2).1
      · obtain ⟨rfl, behind⟩ := List.cons.inj same
        obtain ⟨rfl, -⟩ := List.cons.inj behind
        exact reads.not_adjacent.elim
    next => rfl
  next => rfl

/-- A row name and a colon begin a constraint of that name. -/
theorem ofTokens_label {name : String} (isRowName : isRowName name = true)
    {located : List Located} {tokens : List Token}
    (same : located.map (·.token) = .name name :: .colon :: tokens) :
    ∃ body, Statement.ofTokens located = .constraint (some name) body
      ∧ body.map (·.token) = tokens := by
  obtain ⟨⟨first, line⟩, rest, rfl, here, there⟩ := List.map_eq_cons_iff.mp same
  obtain ⟨⟨second, line'⟩, body, rfl, here', behind⟩ := List.map_eq_cons_iff.mp there
  obtain rfl : first = .name name := here
  obtain rfl : second = .colon := here'
  have none : objectiveSense? name = none := (isRowName_iff.mp isRowName).2
  refine ⟨body, ?_, behind⟩
  unfold Statement.ofTokens
  dsimp only
  rw [none]

theorem Reads.semicolon_notMem {tokens : List Token} {expression : Expression}
    (reads : Reads tokens expression) : .semicolon ∉ tokens :=
  fun member => reads.simple .semicolon member

theorem semicolon_notMem_cons {token : Token} {tokens : List Token} (other : .semicolon ≠ token)
    (plain : .semicolon ∉ tokens) : .semicolon ∉ token :: tokens :=
  List.not_mem_cons_of_ne_of_not_mem other plain

/-- A semicolon stands in no sum, and in nothing behind it that has none. -/
theorem semicolon_notMem_relation {expression : Expression} {before after : List Token}
    (reads : Reads before expression) (plain : .semicolon ∉ after) (relation : Relation) :
    .semicolon ∉ before ++ .relation relation :: after :=
  List.not_mem_append reads.semicolon_notMem (semicolon_notMem_cons nofun plain)

theorem semicolon_notMem_label {name : String} {tokens : List Token}
    (plain : .semicolon ∉ tokens) : .semicolon ∉ .name name :: .colon :: tokens :=
  semicolon_notMem_cons nofun (semicolon_notMem_cons nofun plain)

section Forms

variable {left middle right : Expression} {before between after : List Token}

/-- **A row with its name.** -/
theorem asks_labelled {name : String} (isRowName : isRowName name = true)
    (reads : Reads before left) (reads' : Reads after right) (constant : right.terms = [])
    (some : before ≠ []) (some' : after ≠ []) (relation : Relation) :
    Asks (.name name :: .colon :: (before ++ .relation relation :: after))
      (.addRow (.some name) left.terms relation (clamp (right.constant - left.constant))) := by
  have plain := semicolon_notMem_relation reads reads'.semicolon_notMem relation
  refine ⟨List.cons_ne_nil _ _, semicolon_notMem_label plain, ?_⟩
  intro line located same
  obtain ⟨body, form, bodySame⟩ := ofTokens_label isRowName same
  rw [form]
  exact Action.ofConstraint_single reads reads' constant some some' bodySame line _

/-- **A row without its name**: it has at least two terms. -/
theorem asks_row (reads : Reads before left) (reads' : Reads after right)
    (constant : right.terms = []) (some' : after ≠ []) (several : 2 ≤ left.terms.length)
    (some : before ≠ []) (relation : Relation) :
    Asks (before ++ .relation relation :: after)
      (.addRow none left.terms relation (clamp (right.constant - left.constant))) := by
  have plain := semicolon_notMem_relation reads reads'.semicolon_notMem relation
  refine ⟨List.append_ne_nil_of_left_ne_nil some _, plain, ?_⟩
  intro line located same
  rw [ofTokens_reads reads same]
  refine (Action.ofConstraint_single reads reads' constant some some' same line none).trans ?_
  match terms : left.terms with
  | [] | [_] =>
    rw [terms] at several
    cases several <;> contradiction
  | _ :: _ :: _ => rfl

/-- **A row name alone before a comparison with a constant.** -/
theorem asks_limit {name : String} (isRowName : isRowName name = true)
    (reads : Reads after right) (constant : right.terms = []) (some : after ≠ [])
    (relation : Relation) :
    Asks (.name name :: .colon :: .relation relation :: after)
      (.moveLimit name relation right.constant) := by
  refine ⟨List.cons_ne_nil _ _,
    semicolon_notMem_label (semicolon_notMem_cons nofun reads.semicolon_notMem), ?_⟩
  intro line located same
  obtain ⟨body, form, bodySame⟩ := ofTokens_label isRowName same
  rw [form]
  exact Action.ofConstraint_limit reads constant some bodySame line name

/-- An expression with terms has tokens. -/
theorem Reads.ne_nil (reads : Reads before left) (some : left.terms ≠ []) : before ≠ [] := by
  rintro rfl
  have nothing := reads.read 1 [] rfl
  rw [Expression.read, Expression.readFrom] at nothing
  exact some (Except.ok.inj nothing ▸ rfl)

variable {term : Term}

/-- **A bound on one side**, or on both if they are equal. -/
theorem asks_single (reads : Reads before left) (reads' : Reads after right)
    (alone : left.terms = [term]) (constant : right.terms = []) (some : after ≠ [])
    (relation : Relation) :
    Asks (before ++ .relation relation :: after)
      (.bound term relation (right.constant - left.constant)) := by
  have some' := reads.ne_nil (alone ▸ List.cons_ne_nil _ _)
  have plain := semicolon_notMem_relation reads reads'.semicolon_notMem relation
  refine ⟨List.append_ne_nil_of_left_ne_nil some' _, plain, ?_⟩
  intro line located same
  rw [ofTokens_reads reads same, Statement.action,
    Action.ofConstraint_single reads reads' constant some' some same, alone]
  rfl

/-- **Bounds on both sides.** -/
theorem asks_between (reads : Reads before left) (reads' : Reads between middle)
    (reads'' : Reads after right) (alone : middle.terms = [term]) (low : left.terms = [])
    (high : right.terms = []) :
    Asks (before ++ .relation .atMost :: (between ++ .relation .atMost :: after))
      (.boundBoth term (clamp (left.constant - middle.constant))
        (clamp (right.constant - middle.constant))) := by
  have plain := semicolon_notMem_relation reads' reads''.semicolon_notMem .atMost
  refine ⟨List.append_ne_nil_of_right_ne_nil _ (List.cons_ne_nil _ _),
    semicolon_notMem_relation reads plain .atMost, ?_⟩
  intro line located same
  rw [ofTokens_reads reads same, Statement.action,
    Action.ofConstraint_between reads reads' reads'' low high (alone ▸ List.cons_ne_nil _ _) same,
    alone]
  rfl

end Forms

/-! ### Statements one after the other -/

/-- **What a reader makes of a statement**, whatever its lines are. -/
structure Takes (tokens : List Token) (reader after : Reader) : Prop where
  closed : .semicolon ∉ tokens
  takes : ∀ located, located.map (·.token) = tokens → reader.statement located = .ok after

/-- A statement that asks for an action does what the action does. -/
theorem Asks.statement_eq {tokens : List Token} {action : Action} (asks : Asks tokens action)
    {located : List Located} (same : located.map (·.token) = tokens) :
    ∃ line, ∀ reader : Reader, reader.statement located = reader.act line action := by
  cases located with
  | nil => exact absurd same.symm asks.some
  | cons first rest =>
    refine ⟨first.line, fun reader => ?_⟩
    rw [Reader.statement, asks.asks first.line _ same]
    rfl

theorem Asks.takes {tokens : List Token} {action : Action} (asks : Asks tokens action)
    {reader after : Reader} (acts : ∀ line, reader.act line action = .ok after) :
    Takes tokens reader after := by
  refine ⟨asks.closed, fun located same => ?_⟩
  obtain ⟨line, does⟩ := asks.statement_eq same
  exact (does reader).trans (acts line)

/-- **The statement of the objective.** -/
theorem takes_objective (maximize : Bool) {tokens : List Token} {expression : Expression}
    (reads : Reads tokens expression) {reader : Reader} (once : reader.hasObjective = false) :
    Takes ([.name (if maximize then "max" else "min"), .colon] ++ tokens) reader
      (let (entries, reader) := { reader with hasObjective := true }.entries expression.terms
      reader.change fun problem =>
        { entries.foldl (fun problem entry => problem.setObjective entry.column entry.coefficient)
            { problem with maximize } with
          constant := expression.constant }) := by
  refine ⟨semicolon_notMem_label reads.semicolon_notMem, fun located same => ?_⟩
  obtain ⟨⟨first, line⟩, rest, rfl, here, there⟩ := List.map_eq_cons_iff.mp same
  obtain ⟨⟨second, line'⟩, body, rfl, here', behind⟩ := List.map_eq_cons_iff.mp there
  obtain rfl : first = .name (if maximize then "max" else "min") := here
  obtain rfl : second = .colon := here'
  have sense : objectiveSense? (if maximize then "max" else "min") = some maximize := by
    cases maximize <;> decide
  have form : Statement.ofTokens
      (⟨.name (if maximize then "max" else "min"), line⟩ :: ⟨.colon, line'⟩ :: body)
      = .objective maximize body := by
    unfold Statement.ofTokens
    dsimp only
    rw [sense]
  rw [Reader.statement, form]
  show reader.objective line maximize body = _
  rw [Reader.objective, once, if_neg Bool.false_ne_true, reads.read line body behind]
  rfl

/-- Columns that are declared one after the other, commas standing between them. -/
theorem declareAll_eq {names : List String} {located : List Located}
    (same : located.map (·.token)
      = [Token.comma].intercalate (names.map fun name => [.name name]))
    (reader : Reader) (declared : Section) :
    reader.declareAll declared located
      = .ok (names.foldl (fun reader name => reader.declare declared name) reader) := by
  induction names generalizing reader located with
  | nil =>
    obtain rfl := List.map_eq_nil_iff.mp same
    rfl
  | cons name rest hyp =>
    cases rest with
    | nil =>
      rw [List.map_singleton, List.intercalate_singleton] at same
      obtain ⟨⟨token, line⟩, tail, rfl, here, there⟩ := List.map_eq_cons_iff.mp same
      obtain rfl := List.map_eq_nil_iff.mp there
      obtain rfl : token = .name name := here
      rfl
    | cons second others =>
      rw [List.map_cons, List.map_cons, List.intercalate_cons_cons] at same
      obtain ⟨⟨token, line⟩, tail, rfl, here, there⟩ := List.map_eq_cons_iff.mp same
      obtain ⟨⟨between, line'⟩, more, rfl, here', behind⟩ := List.map_eq_cons_iff.mp there
      obtain rfl : token = .name name := here
      obtain rfl : between = .comma := here'
      exact hyp behind (reader.declare declared name)

theorem semicolon_notMem_names (names : List String) :
    .semicolon ∉ [Token.comma].intercalate (names.map fun name => [.name name]) := by
  induction names with
  | nil => exact List.not_mem_nil
  | cons name rest hyp =>
    cases rest with
    | nil =>
      rw [List.map_singleton, List.intercalate_singleton, List.mem_singleton]
      exact nofun
    | cons second others =>
      rw [List.map_cons, List.map_cons, List.intercalate_cons_cons]
      exact semicolon_notMem_cons nofun (semicolon_notMem_cons nofun hyp)

/-- **The statement of the integer columns.** -/
theorem takes_integers {names : List String} (some : names ≠ []) (reader : Reader) :
    Takes (integerTokens names) reader
      (names.foldl (fun reader name => reader.declare .integer name) reader) := by
  refine ⟨semicolon_notMem_cons nofun (semicolon_notMem_names names), fun located same => ?_⟩
  obtain ⟨⟨first, line⟩, body, rfl, here, there⟩ := List.map_eq_cons_iff.mp same
  obtain rfl : first = .name "int" := here
  cases names with
  | nil => exact absurd rfl some
  | cons name rest =>
    have head : ∃ line rest, body = ⟨.name name, line⟩ :: rest := by
      have begins : ∃ more, [Token.comma].intercalate
          ((name :: rest).map fun name => [Token.name name]) = .name name :: more := by
        cases rest with
        | nil => exact ⟨[], rfl⟩
        | cons second others =>
          rw [List.map_cons, List.map_cons, List.intercalate_cons_cons]
          exact ⟨_, rfl⟩
      obtain ⟨more, begins⟩ := begins
      rw [begins] at there
      obtain ⟨⟨token, line⟩, tail, rfl, here, -⟩ := List.map_eq_cons_iff.mp there
      obtain rfl : token = .name name := here
      exact ⟨line, tail, rfl⟩
    obtain ⟨line', tail, rfl⟩ := head
    have word : section? "int" = .some .integer := by decide
    have form : Statement.ofTokens (⟨.name "int", line⟩ :: ⟨.name name, line'⟩ :: tail)
        = .declaration .integer (⟨.name name, line'⟩ :: tail) := by
      unfold Statement.ofTokens
      dsimp only
      rw [word]
    rw [Reader.statement, form]
    exact declareAll_eq there reader .integer

/-- Statements that are taken one after the other. -/
inductive TakesAll : List (List Token) → Reader → Reader → Prop where
  | nil (reader : Reader) : TakesAll [] reader reader
  | cons {tokens : List Token} {rest : List (List Token)} {reader middle after : Reader}
      (first : Takes tokens reader middle)
      (later : TakesAll rest middle after) : TakesAll (tokens :: rest) reader after

theorem TakesAll.append {first second : List (List Token)} {reader middle after : Reader}
    (left : TakesAll first reader middle) (right : TakesAll second middle after) :
    TakesAll (first ++ second) reader after := by
  induction left with
  | nil => exact right
  | cons here later hyp => exact .cons here (hyp right)

/-- The tokens before a semicolon wait for it. -/
theorem statements_pending {front : List Located} (plain : .semicolon ∉ front.map (·.token))
    (reader : Reader) (pending rest : List Located) :
    reader.statements pending (front ++ rest)
      = reader.statements (front.reverse ++ pending) rest := by
  induction front generalizing pending with
  | nil => rfl
  | cons first others hyp =>
    have later := hyp (fun member => plain (List.mem_cons_of_mem _ member)) (first :: pending)
    rw [List.cons_append, Reader.statements, later, List.reverse_cons, List.append_assoc]
    · rfl
    · intro line same
      exact plain (by rw [same]; exact List.mem_cons_self)

/-- **Statements that are closed by semicolons are taken one after the other.** -/
theorem statements_closed {statements : List (List Token)} {reader after : Reader}
    (takes : TakesAll statements reader after) {located : List Located}
    (same : located.map (·.token) = closed statements) :
    reader.statements [] located = .ok after := by
  induction takes generalizing located with
  | nil =>
    obtain rfl := List.map_eq_nil_iff.mp same
    rfl
  | cons first later hyp =>
    rw [closed_cons, List.append_assoc] at same
    obtain ⟨front, rest, rfl, frontSame, restSame⟩ := List.map_eq_append_iff.mp same
    obtain ⟨⟨token, line⟩, back, rfl, here, there⟩ := List.map_eq_cons_iff.mp restSame
    obtain rfl : token = .semicolon := here
    have plain := first.closed
    rw [← frontSame] at plain
    rw [statements_pending plain, List.append_nil, Reader.statements, List.reverse_reverse,
      first.takes front frontSame]
    exact hyp there

end LinearProgram.Lp
