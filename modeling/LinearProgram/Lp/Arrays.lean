/-
**Reading and writing texts in the arrays of a problem.**

Reading a text builds the arrays of a problem action by action, and writing one goes through them.
As every access is checked, nothing comes out if one of them is outside an array. A fault of the
text is an outcome like any other.

* `Arrays.Reader`: the state of reading, the columns being found by a table of their names.
* `Arrays.Reader.act`: what an action does. `Arrays.parse`: the arrays of what a text describes.
* `Arrays.render`: the text of the problem in some arrays.
-/

import LinearProgram.Lp.Reader
import LinearProgram.Lp.Writer
import LinearProgram.Problem.Arrays

namespace LinearProgram.Arrays

open Lp

/-! ### Reading -/

/-- What has been read so far. -/
structure Reader where
  arrays : Arrays := {}
  /-- The columns that appeared, by name. -/
  columns : List (String × Nat) := []
  /-- The rows that were given a name, with the name. -/
  labels : List (String × Nat) := []
  hasObjective : Bool := false
  deriving Repr

namespace Reader

/-- What comes of a statement: the next state, or a fault. -/
abbrev Outcome := Except Failure Reader

/-- The reader with other arrays, if there are some. -/
def withArrays (reader : Reader) (arrays : Option Arrays) : Option Reader :=
  arrays.map fun arrays => { reader with arrays }

/-- **The column that a name stands for**, a new one if it has not appeared. -/
def column (reader : Reader) (name : String) : Nat × Reader :=
  match reader.columns.lookup name with
  | some index => (index, reader)
  | none =>
    let index := reader.arrays.columnCount + 1
    let stored := if name == "C" ++ toString index then none else some name
    (index, { reader with
      arrays := reader.arrays.addColumn stored
      columns := reader.columns ++ [(name, index)] })

/-- The row that a name stands for. -/
def findRow? (reader : Reader) (name : String) : Option Nat :=
  match reader.labels.lookup name with
  | some index => some index
  | none =>
    match name.toList with
    | 'R' :: digits =>
      (index? digits).filter fun index => 1 ≤ index && index ≤ reader.arrays.rowCount
    | _ => none

/-- The entries that terms amount to, in the order of the terms. -/
def entries (reader : Reader) : List Term → List Entry × Reader
  | [] => ([], reader)
  | term :: rest =>
    let (index, reader) := reader.column term.name
    let (entries, reader) := reader.entries rest
    (⟨index, term.coefficient⟩ :: entries, reader)

/-- Looks the columns of terms up and sets their objective coefficients, term by term. -/
def setTerms (reader : Reader) : List Term → Option Reader
  | [] => some reader
  | term :: rest => do
    let (index, reader) := reader.column term.name
    setTerms (← withArrays reader (setObjective reader.arrays index term.coefficient)) rest

/-- States the objective, once. -/
def objective (reader : Reader) (line : Nat) (maximize : Bool) (body : List Located) :
    Option Outcome :=
  if reader.hasObjective then some (.error ⟨line, .secondObjective⟩)
  else
    match Expression.read line body with
    | .error failure => some (.error failure)
    | .ok expression => do
      let turned := { reader with arrays := { reader.arrays with maximize }, hasObjective := true }
      let reader ← turned.setTerms expression.terms
      return .ok { reader with arrays := { reader.arrays with constant := expression.constant } }

/-- Declares one column. -/
def declare (reader : Reader) (declared : Section) (name : String) : Option Reader :=
  let (index, reader) := reader.column name
  withArrays reader <|
    match declared with
    | .integer => setInteger reader.arrays index true
    | .binary => setBinary reader.arrays index true
    | .free => do
      let bounds ← item? reader.arrays.bounds index
      forceBounds reader.arrays index (-infinity) bounds.upper

/-- Declares the columns named in a row of tokens; commas may stand anywhere. -/
def declareAll (reader : Reader) (declared : Section) : List Located → Option Outcome
  | [] => some (.ok reader)
  | ⟨.comma, _⟩ :: rest => declareAll reader declared rest
  | ⟨.name name, _⟩ :: rest => do
    let reader ← declare reader declared name
    declareAll reader declared rest
  | ⟨_, line⟩ :: _ => some (.error ⟨line, .notAColumn declared⟩)

/-- Adds a row. -/
def addRow (reader : Reader) (line : Nat) (label : Option String) (terms : List Term)
    (relation : Relation) (rhs : Float) : Option Outcome :=
  let index := reader.arrays.rowCount + 1
  match label.filter fun name => (reader.labels.lookup name).isSome with
  | some name => some (.error ⟨line, .duplicateRow name⟩)
  | none => do
    let (entries, reader) := reader.entries terms
    let sorted := sortEntries entries
    let reader ← withArrays reader
      (appendRow reader.arrays (sorted.map (·.column)) (sorted.map (·.coefficient)) relation rhs
        false)
    match label with
    | none => return .ok reader
    | some name =>
      let named ←
        if name == "R" ++ toString index then some reader
        else withArrays reader (modifyRow reader.arrays index ({ · with name := some name }))
      return .ok { named with labels := named.labels ++ [(name, index)] }

/-- A comparison of one variable with a constant bounds the variable. -/
def bound (reader : Reader) (line : Nat) (term : Term) (relation : Relation) (value : Float) :
    Option Outcome :=
  if term.coefficient == 0 then some (.error ⟨line, .zeroCoefficient term.name⟩)
  else do
    let (index, reader) := reader.column term.name
    let limit := clamp (value / term.coefficient)
    let bounds ← item? reader.arrays.bounds index
    let reader ← withArrays reader <|
      match if term.coefficient < 0 then relation.flip else relation with
      | .atLeast => forceBounds reader.arrays index limit bounds.upper
      | .atMost => forceBounds reader.arrays index bounds.lower limit
      | .equal => forceBounds reader.arrays index limit limit
    return .ok reader

/-- Bounds a variable on both sides; a negative coefficient exchanges them. -/
def boundBoth (reader : Reader) (line : Nat) (term : Term) (lower upper : Float) :
    Option Outcome :=
  if term.coefficient == 0 then some (.error ⟨line, .zeroCoefficient term.name⟩)
  else do
    let (index, reader) := reader.column term.name
    let reader ← withArrays reader <|
      if 0 < term.coefficient then
        forceBounds reader.arrays index (lower / term.coefficient) (upper / term.coefficient)
      else
        forceBounds reader.arrays index (upper / term.coefficient) (lower / term.coefficient)
    return .ok reader

/-- A row between two limits. -/
def addRowBetween (reader : Reader) (line : Nat) (label : Option String) (terms : List Term)
    (lower upper : Float) : Option Outcome :=
  if lower == -infinity then addRow reader line label terms .atMost upper
  else if lower == upper then addRow reader line label terms .equal lower
  else if upper == infinity then addRow reader line label terms .atLeast lower
  else do
    let index := reader.arrays.rowCount + 1
    match ← addRow reader line label terms .atLeast lower with
    | .error failure => return .error failure
    | .ok reader =>
      let reader ← withArrays reader (setRange reader.arrays index (upper - lower))
      return .ok reader

/-- Makes a row that exists equal to a constant, or sets its limit on one side. -/
def moveLimit (reader : Reader) (line : Nat) (name : String) (relation : Relation)
    (value : Float) : Option Outcome :=
  match reader.findRow? name with
  | none => some (.error ⟨line, .unknownRow name⟩)
  | some index => do
    let limit := clamp value
    let row ← item? reader.arrays.rows index
    match row.relation, relation with
    | _, .equal =>
      let arrays ← modifyRow reader.arrays index ({ · with relation := .equal })
      let arrays ← setRhs arrays index limit
      let reader ← withArrays reader (setRange arrays index infinity)
      return .ok reader
    | .atMost, .atLeast =>
      if row.rhs < limit then return .error ⟨line, .emptyRange name⟩
      let reader ← withArrays reader (setRange reader.arrays index (row.rhs - limit))
      return .ok reader
    | .equal, .atLeast =>
      if row.rhs < limit then return .error ⟨line, .emptyRange name⟩
      let arrays ← modifyRow reader.arrays index ({ · with relation := .atMost })
      let reader ← withArrays reader (setRange arrays index (row.rhs - limit))
      return .ok reader
    | .atLeast, .atMost | .equal, .atMost =>
      if limit < row.rhs then return .error ⟨line, .emptyRange name⟩
      let reader ← withArrays reader (setRange reader.arrays index (limit - row.rhs))
      return .ok reader
    | _, _ =>
      let reader ← withArrays reader (setRhs reader.arrays index limit)
      return .ok reader

/-- **What an action does**, if every access is inside the arrays. -/
def act (reader : Reader) (line : Nat) : Action → Option Outcome
  | .objective maximize body => objective reader line maximize body
  | .declaration declared body =>
    if body.isEmpty then some (.error ⟨line, .emptySection declared⟩)
    else declareAll reader declared body
  | .bound term relation value => bound reader line term relation value
  | .boundBoth term lower upper => boundBoth reader line term lower upper
  | .addRow label terms relation rhs => addRow reader line label terms relation rhs
  | .addRowBetween label terms lower upper => addRowBetween reader line label terms lower upper
  | .moveLimit name relation value => moveLimit reader line name relation value

/-- Reads one statement; an empty one says nothing. -/
def statement (reader : Reader) : List Located → Option Outcome
  | [] => some (.ok reader)
  | first :: rest =>
    match (Statement.ofTokens (first :: rest)).action first.line with
    | .error failure => some (.error failure)
    | .ok action => act reader first.line action

/-- Reads the statements of a row of tokens. -/
def statements (reader : Reader) (pending : List Located) : List Located → Option Outcome
  | [] =>
    match pending.reverse with
    | [] => some (.ok reader)
    | first :: _ => some (.error ⟨first.line, .missingSemicolon⟩)
  | ⟨.semicolon, _⟩ :: rest => do
    match ← statement reader pending.reverse with
    | .error failure => return .error failure
    | .ok reader => statements reader [] rest
  | token :: rest => statements reader (token :: pending) rest

end Reader

/-- **The arrays of the problem that a text describes**, or the first fault, if every access on the
way is inside the arrays. -/
def parse (text : String) : Option (Except Failure Arrays) :=
  match scan 1 text.toList with
  | .error failure => some (.error failure)
  | .ok tokens => (Reader.statements {} [] tokens).map (·.map (·.arrays))

/-! ### Writing -/

/-- The columns in order: the index, the bounds and the integer flag of each. -/
def items (arrays : Arrays) : List (Nat × ColumnBounds × Bool) :=
  (List.range' 1 arrays.columnCount).zip (arrays.bounds.zip arrays.integers)

/-- The entries of a row that are written. -/
def writtenEntries (arrays : Arrays) (index : Nat) : Option (List Entry) := do
  let (indices, coefficients) ← row arrays index
  return (List.zipWith Entry.mk indices coefficients).filter fun entry => entry.coefficient != 0

/-- The columns in the order in which the rows, the bounds and the integer section mention them. -/
def occurrences (arrays : Arrays) : Option (List Nat) := do
  let rows ← (List.range' 1 arrays.rowCount).mapM (writtenEntries arrays)
  return rows.flatMap (·.map (·.column))
    ++ (arrays.items.filter fun item => !item.2.1.areDefault).map (·.1)
    ++ (arrays.items.filter fun item => item.2.2).map (·.1)

/-- The number of leading columns that the objective lists. The place of the first mention is kept
in an array with an item for every column, so a mentioned column has to be one of them; and the
objective has to be as long as what is listed. -/
def declaredColumns (arrays : Arrays) : Option Nat := do
  let mentions ← occurrences arrays
  let declared := max (unsettledColumns mentions arrays.columnCount arrays.columnCount)
    (arrays.costs.reverse.dropWhile (· == 0)).length
  if mentions.all (· ≤ arrays.columnCount) && declared ≤ arrays.costs.length then some declared
  else none

/-- The terms of some entries. -/
def termTexts (arrays : Arrays) (entries : List Entry) : Option (List String) :=
  entries.mapM fun entry =>
    (columnName arrays entry.column).map (signedTerm · entry.coefficient)

/-- The objective. -/
def objectiveText (arrays : Arrays) : Option String := do
  let declared ← declaredColumns arrays
  let entries := List.zipWith Entry.mk (List.range' 1 declared) (arrays.costs.take declared)
  let terms ← termTexts arrays entries
  return objectiveSection arrays.maximize terms arrays.constant

/-- The lines of a row. -/
def rowText (arrays : Arrays) (index : Nat) : Option String := do
  let entries ← writtenEntries arrays index
  let terms ← termTexts arrays entries
  return rowLines (← rowName arrays index) (← item? arrays.rows index) terms

/-- The line of a column's bounds. -/
def boundsText (arrays : Arrays) (index : Nat) (bounds : ColumnBounds) : Option String :=
  (columnName arrays index).map fun name =>
    boundsLine name { lower := bounds.lower, upper := bounds.upper }

/-- **The text of the problem in some arrays**, if every access is inside them. -/
def render (arrays : Arrays) : Option String := do
  let objective ← objectiveText arrays
  let rows ← (List.range' 1 arrays.rowCount).mapM (rowText arrays)
  let bounds ← arrays.items.mapM fun item => boundsText arrays item.1 item.2.1
  let integers ← (arrays.items.filter fun item => item.2.2).mapM fun item =>
    columnName arrays item.1
  return nameText arrays.name ++ objective ++ headed "\n/* Constraints */\n" rows
    ++ headed "\n/* Variable bounds */\n" bounds ++ integersSection integers

end LinearProgram.Arrays
