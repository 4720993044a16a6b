/-
**Reading a problem in the LP format.**

A text is a row of statements, each ended by a semicolon; empty ones say nothing. A statement states
the objective, declares columns, bounds a column, adds a row, or moves a limit of a row that exists:

```
max: 2 x + 3 y;
c1: x + y <= 4;
-2 <= x - y <= 8;
c1: >= 1;
x <= 3;
int x;
```

Columns are numbered by first appearance. A comparison with one variable and no row name is a bound.
A row name alone before a comparison with a constant moves a limit of that row. Numbers from `1e30`
on are infinite.

* `Statement`: the forms of a statement. `Statement.ofTokens`: which one a row of tokens has.
* `Action`: what a statement asks for. `Statement.action`: what that is, whatever was read before.
* `Reader`: the problem read so far, the rows that were given a name, and whether the objective was
  stated.
* `Reader.act`: what an action does.
* `parse`: the problem that a text describes, or the first fault.
-/

import LinearProgram.Problem.Basic
import LinearProgram.Lp.Expression
import LinearProgram.Lp.Number
import LinearProgram.Lp.Token.Scan

namespace LinearProgram.Lp

/-! ### The forms of a statement -/

/-- What a statement says, its expressions still being tokens. -/
inductive Statement where
  | objective (maximize : Bool) (body : List Located)
  | declaration (declared : Section) (body : List Located)
  | constraint (label : Option String) (body : List Located)
  deriving Repr

/-- **The form of a statement.** A word for the objective counts only before a colon, and a word for
a declaration only before a name or at the end. Everything else is a constraint, with a row name if
it starts with a name and a colon. -/
def Statement.ofTokens (tokens : List Located) : Statement :=
  match tokens with
  | ⟨.name word, _⟩ :: ⟨.colon, _⟩ :: body =>
    match objectiveSense? word with
    | some maximize => .objective maximize body
    | none => .constraint (some word) body
  | ⟨.name word, _⟩ :: body =>
    match section? word, body with
    | some declared, [] => .declaration declared []
    | some declared, ⟨.name name, line⟩ :: rest =>
      .declaration declared (⟨.name name, line⟩ :: rest)
    | _, _ => .constraint none tokens
  | _ => .constraint none tokens

/-- A row of tokens cut at its relations: what stands before the first one, and each relation with
what stands behind it. -/
def splitRelations : List Located → List Located × List (Relation × List Located)
  | [] => ([], [])
  | ⟨.relation relation, _⟩ :: rest =>
    let (part, parts) := splitRelations rest
    ([], (relation, part) :: parts)
  | token :: rest =>
    let (part, parts) := splitRelations rest
    (token :: part, parts)

/-! ### What a statement asks for -/

/-- What a statement asks for. The tokens of an objective or a declaration are read only when it is
carried out, for a second objective is a fault whatever it says. -/
inductive Action where
  | objective (maximize : Bool) (body : List Located)
  | declaration (declared : Section) (body : List Located)
  /-- `term relation value`, where the term has a variable to itself. -/
  | bound (term : Term) (relation : Relation) (value : Float)
  /-- `lower <= term <= upper`, where the term has a variable to itself. -/
  | boundBoth (term : Term) (lower upper : Float)
  | addRow (label : Option String) (terms : List Term) (relation : Relation) (rhs : Float)
  /-- `lower <= terms <= upper` as a row. -/
  | addRowBetween (label : Option String) (terms : List Term) (lower upper : Float)
  /-- A limit for a row that exists. -/
  | moveLimit (name : String) (relation : Relation) (value : Float)
  deriving Repr

/-- Numbers from `1e30` on are infinite. -/
def clamp (value : Float) : Float :=
  if infiniteFrom ≤ value then infinity
  else if value ≤ -infiniteFrom then -infinity
  else value

namespace Action

/-- `terms relation value`: a bound or a row. -/
def single (line : Nat) (label : Option String) (terms : List Term) (relation : Relation)
    (value : Float) : Except Failure Action :=
  match label, terms with
  | none, [] => .error ⟨line, .noVariables⟩
  | none, [term] => .ok (.bound term relation value)
  | _, _ => .ok (.addRow label terms relation (clamp value))

/-- `lower <= terms <= upper`: two bounds or a row. -/
def double (label : Option String) (terms : List Term) (lower upper : Float) : Action :=
  match label, terms with
  | none, [term] => .boundBoth term (clamp lower) (clamp upper)
  | _, _ => .addRowBetween label terms (clamp lower) (clamp upper)

/-- A comparison of two sides. If only the right side has variables the sides change places. -/
def compare (line : Nat) (label : Option String) (left : List Located) (relation : Relation)
    (right : List Located) : Except Failure Action :=
  if right.isEmpty then .error ⟨line, .missingRightSide⟩
  else if left.isEmpty then
    match label with
    | none => .error ⟨line, .missingExpression⟩
    | some name => do
      let limit ← Expression.read line right
      if limit.terms.isEmpty then .ok (.moveLimit name relation limit.constant)
      else .error ⟨line, .rangeNotConstant⟩
  else do
    let left ← Expression.read line left
    let right ← Expression.read line right
    if left.terms.isEmpty && !right.terms.isEmpty then
      single line label (right.subtract left) relation.flip (left.constant - right.constant)
    else
      single line label (left.subtract right) relation (right.constant - left.constant)

/-- A comparison of an expression with a constant on either side; both relations point one way. -/
def compareBetween (line : Nat) (label : Option String) (left : List Located) (first : Relation)
    (middle : List Located) (second : Relation) (right : List Located) :
    Except Failure Action := do
  let left ← Expression.read line left
  let middle ← Expression.read line middle
  let right ← Expression.read line right
  let low := left.constant - middle.constant
  let high := right.constant - middle.constant
  if !left.terms.isEmpty || !right.terms.isEmpty || middle.terms.isEmpty then
    .error ⟨line, .notBetweenConstants⟩
  else
    match first, second with
    | .atMost, .atMost => .ok (double label middle.terms low high)
    | .atLeast, .atLeast => .ok (double label middle.terms high low)
    | _, _ => .error ⟨line, .mixedRelations⟩

/-- A constraint has one relation or two. -/
def ofConstraint (line : Nat) (label : Option String) (body : List Located) :
    Except Failure Action :=
  match splitRelations body with
  | (_, []) => .error ⟨line, .missingRelation⟩
  | (left, [(relation, right)]) => compare line label left relation right
  | (left, [(first, middle), (second, right)]) =>
    compareBetween line label left first middle second right
  | _ => .error ⟨line, .tooManyRelations⟩

end Action

/-- **What a statement asks for.** `line` is the line of its first token. -/
def Statement.action (line : Nat) : Statement → Except Failure Action
  | .objective maximize body => .ok (.objective maximize body)
  | .declaration declared body => .ok (.declaration declared body)
  | .constraint label body => Action.ofConstraint line label body

/-! ### The state of reading -/

/-- What has been read so far. -/
structure Reader where
  problem : Problem := {}
  /-- The rows that were given a name, with the name. -/
  labels : List (String × Nat) := []
  hasObjective : Bool := false
  deriving Repr

/-- The number that a row of ASCII digits writes. -/
def index? (digits : List Char) : Option Nat :=
  if digits.isEmpty || !digits.all Char.isDigit then none
  else some (Decimal.natOfDigits digits)

namespace Reader

/-- The column that a name stands for, if it has appeared. -/
def findColumn? (reader : Reader) (name : String) : Option Nat :=
  reader.problem.columnIndices.find? fun index => reader.problem.columnName index == name

/-- **The column that a name stands for.** A new name gets the next column; it is not stored if it
is the name that the column has anyway. -/
def column (reader : Reader) (name : String) : Nat × Reader :=
  match reader.findColumn? name with
  | some index => (index, reader)
  | none =>
    let index := reader.problem.columnCount + 1
    let stored := if name == "C" ++ toString index then none else some name
    (index, { reader with problem := reader.problem.addColumn stored })

/-- **The row that a name stands for**: the one that was given the name, or else the one whose
number follows the letter `R`. -/
def findRow? (reader : Reader) (name : String) : Option Nat :=
  match reader.labels.lookup name with
  | some index => some index
  | none =>
    match name.toList with
    | 'R' :: digits =>
      (index? digits).filter fun index => 1 ≤ index && index ≤ reader.problem.rowCount
    | _ => none

/-- The entries that terms amount to, in the order of the terms. -/
def entries (reader : Reader) : List Term → List Entry × Reader
  | [] => ([], reader)
  | term :: rest =>
    let (index, reader) := reader.column term.name
    let (entries, reader) := reader.entries rest
    (⟨index, term.coefficient⟩ :: entries, reader)

/-- Applies a change to the problem. -/
def change (reader : Reader) (edit : Problem → Problem) : Reader :=
  { reader with problem := edit reader.problem }

/-! ### Objective and declarations -/

/-- States the objective, once. -/
def objective (reader : Reader) (line : Nat) (maximize : Bool) (body : List Located) :
    Except Failure Reader :=
  if reader.hasObjective then .error ⟨line, .secondObjective⟩
  else do
    let expression ← Expression.read line body
    let (entries, reader) := { reader with hasObjective := true }.entries expression.terms
    return reader.change fun problem =>
      { entries.foldl (fun problem entry => problem.setObjective entry.column entry.coefficient)
          { problem with maximize } with
        constant := expression.constant }

/-- Declares one column. -/
def declare (reader : Reader) (declared : Section) (name : String) : Reader :=
  let (index, reader) := reader.column name
  reader.change fun problem =>
    match declared with
    | .integer => problem.setInteger index true
    | .binary => problem.setBinary index true
    | .free => problem.forceBounds index (-infinity) (problem.column index).upper

/-- Declares the columns named in a row of tokens; commas may stand anywhere. -/
def declareAll (reader : Reader) (declared : Section) : List Located → Except Failure Reader
  | [] => .ok reader
  | ⟨.comma, _⟩ :: rest => reader.declareAll declared rest
  | ⟨.name name, _⟩ :: rest => (reader.declare declared name).declareAll declared rest
  | ⟨_, line⟩ :: _ => .error ⟨line, .notAColumn declared⟩

/-- A declaration names at least one column. -/
def declaration (reader : Reader) (line : Nat) (declared : Section) (body : List Located) :
    Except Failure Reader :=
  if body.isEmpty then .error ⟨line, .emptySection declared⟩
  else reader.declareAll declared body

/-! ### Rows and bounds -/

/-- **Adds a row.** Two rows cannot be given one name; a name that the row has anyway is not
stored. -/
def addRow (reader : Reader) (line : Nat) (label : Option String) (terms : List Term)
    (relation : Relation) (rhs : Float) : Except Failure Reader :=
  let index := reader.problem.rowCount + 1
  match label.filter fun name => (reader.labels.lookup name).isSome with
  | some name => .error ⟨line, .duplicateRow name⟩
  | none =>
    let (entries, reader) := reader.entries terms
    let reader := reader.change (·.appendRow (sortEntries entries) relation rhs false)
    match label with
    | none => .ok reader
    | some name =>
      let named :=
        if name == "R" ++ toString index then reader
        else reader.change (·.setRowName index name)
      .ok { named with labels := named.labels ++ [(name, index)] }

/-- A comparison of one variable with a constant bounds the variable. -/
def bound (reader : Reader) (line : Nat) (term : Term) (relation : Relation) (value : Float) :
    Except Failure Reader :=
  if term.coefficient == 0 then .error ⟨line, .zeroCoefficient term.name⟩
  else
    let (index, reader) := reader.column term.name
    let limit := clamp (value / term.coefficient)
    .ok <| reader.change fun problem =>
      let column := problem.column index
      match if term.coefficient < 0 then relation.flip else relation with
      | .atLeast => problem.forceBounds index limit column.upper
      | .atMost => problem.forceBounds index column.lower limit
      | .equal => problem.forceBounds index limit limit

/-- Bounds a variable on both sides; a negative coefficient exchanges them. -/
def boundBoth (reader : Reader) (line : Nat) (term : Term) (lower upper : Float) :
    Except Failure Reader :=
  if term.coefficient == 0 then .error ⟨line, .zeroCoefficient term.name⟩
  else
    let (index, reader) := reader.column term.name
    .ok <| reader.change fun problem =>
      if 0 < term.coefficient then
        problem.forceBounds index (lower / term.coefficient) (upper / term.coefficient)
      else
        problem.forceBounds index (upper / term.coefficient) (lower / term.coefficient)

/-- A row between two limits: an upper limit alone if nothing limits it below, an equality if the
limits agree, a lower limit alone if nothing limits it above, and a range otherwise. -/
def addRowBetween (reader : Reader) (line : Nat) (label : Option String) (terms : List Term)
    (lower upper : Float) : Except Failure Reader :=
  if lower == -infinity then reader.addRow line label terms .atMost upper
  else if lower == upper then reader.addRow line label terms .equal lower
  else if upper == infinity then reader.addRow line label terms .atLeast lower
  else do
    let reader ← reader.addRow line label terms .atLeast lower
    return reader.change fun problem =>
      (problem.setRange? problem.rowCount (upper - lower)).getD problem

/-- Makes a row that exists equal to a constant, or sets its limit on one side. The limit on the
right-hand side's own side replaces it; one on the other side becomes a range. -/
def moveLimit (reader : Reader) (line : Nat) (name : String) (relation : Relation) (value : Float) :
    Except Failure Reader :=
  match reader.findRow? name with
  | none => .error ⟨line, .unknownRow name⟩
  | some index =>
    let limit := clamp value
    let row := reader.problem.rowInfo index
    let ranged (relation : Relation) (range : Float) : Reader :=
      reader.change fun problem =>
        let problem := problem.setRelation index relation
        (problem.setRange? index range).getD problem
    match row.relation, relation with
    | _, .equal =>
      .ok <| reader.change fun problem =>
        problem.modifyRow index fun row =>
          { row with relation := .equal, rhs := limit, range := none }
    | .atMost, .atLeast | .equal, .atLeast =>
      if row.rhs < limit then .error ⟨line, .emptyRange name⟩
      else .ok (ranged .atMost (row.rhs - limit))
    | .atLeast, .atMost | .equal, .atMost =>
      if limit < row.rhs then .error ⟨line, .emptyRange name⟩
      else .ok (ranged row.relation (limit - row.rhs))
    | _, _ => .ok (reader.change (·.setRhs index limit))

/-! ### Statements -/

/-- **What an action does.** `line` is the line of the statement's first token. -/
def act (reader : Reader) (line : Nat) : Action → Except Failure Reader
  | .objective maximize body => reader.objective line maximize body
  | .declaration declared body => reader.declaration line declared body
  | .bound term relation value => reader.bound line term relation value
  | .boundBoth term lower upper => reader.boundBoth line term lower upper
  | .addRow label terms relation rhs => reader.addRow line label terms relation rhs
  | .addRowBetween label terms lower upper => reader.addRowBetween line label terms lower upper
  | .moveLimit name relation value => reader.moveLimit line name relation value

/-- Reads one statement; an empty one says nothing. -/
def statement (reader : Reader) : List Located → Except Failure Reader
  | [] => .ok reader
  | first :: rest => do
    let action ← (Statement.ofTokens (first :: rest)).action first.line
    reader.act first.line action

/-- Reads the statements of a row of tokens. `pending` holds the tokens since the last semicolon,
the latest one first. -/
def statements (reader : Reader) (pending : List Located) : List Located → Except Failure Reader
  | [] =>
    match pending.reverse with
    | [] => .ok reader
    | first :: _ => .error ⟨first.line, .missingSemicolon⟩
  | ⟨.semicolon, _⟩ :: rest => do
    let reader ← reader.statement pending.reverse
    reader.statements [] rest
  | token :: rest => reader.statements (token :: pending) rest

end Reader

/-- **The problem that a text describes**, or the first fault. A fault of a character comes before
every fault of a statement. -/
def parse (text : String) : Except Failure Problem := do
  let tokens ← scan 1 text.toList
  let reader ← Reader.statements {} [] tokens
  return reader.problem

end LinearProgram.Lp
