/-
**A problem in arrays that stand side by side.**

Columns, rows and coefficients are not stored as records. Four arrays have an item for every column,
two have one for every row, two one for every coefficient, and an operation goes through each of
them on its own. Every access is checked: nothing comes out of an operation that reads or writes
outside an array, or that would move a span in front of the first coefficient. A request that is
refused leaves the arrays as they are.

* `Arrays`: the arrays. `Arrays.ofProblem`: those of a problem.
* `Arrays.item?`, `put?`, `cut?`, `splice?`, `copy?`: access by index and by span.
* `Arrays.sortRow`, `setRow`, `appendRow`, `normalize`, `resize`: the coefficients.
* `Arrays.Operation`: the operations, the entries of a row being given as two lists.
  `Arrays.apply`: what one makes of the arrays. `Arrays.applyAll`: a row of them.
* `Arrays.Operation.Fits`: the arguments that a caller may give.
-/

import LinearProgram.Problem.Operation

namespace LinearProgram

/-- The bounds of a column. -/
structure ColumnBounds where
  lower : Float := 0
  upper : Float := infinity
  deriving Repr

instance : Inhabited ColumnBounds := ⟨{}⟩

/-- The bounds are those of a new column. -/
def ColumnBounds.areDefault (bounds : ColumnBounds) : Bool :=
  bounds.lower == 0 && bounds.upper == infinity

/-- A problem, stored in arrays. -/
structure Arrays where
  name : String := ""
  maximize : Bool := false
  /-- The objective coefficient of every column. -/
  costs : List Float := []
  constant : Float := 0
  bounds : List ColumnBounds := []
  /-- Whether a column takes integer values only. -/
  integers : List Bool := []
  columnNames : List (Option String) := []
  /-- Where the coefficients of every row stand. -/
  spans : List Span := []
  /-- The column, counted from one, of every coefficient. -/
  indices : List Nat := []
  coefficients : List Float := []
  rows : List Row := []
  sortedUpTo : Nat := 0
  deriving Repr

instance : Inhabited Arrays := ⟨{}⟩

/-- The bounds of a column, apart from the rest of it. -/
def Column.bounds (column : Column) : ColumnBounds :=
  ⟨column.lower, column.upper⟩

namespace Arrays

/-- The arrays of a problem. -/
def ofProblem (problem : Problem) : Arrays where
  name := problem.name
  maximize := problem.maximize
  costs := problem.columns.map (·.objective)
  constant := problem.constant
  bounds := problem.columns.map (·.bounds)
  integers := problem.columns.map (·.integer)
  columnNames := problem.columns.map (·.name)
  spans := problem.matrix.spans
  indices := problem.matrix.entries.map (·.column)
  coefficients := problem.matrix.entries.map (·.coefficient)
  rows := problem.rows
  sortedUpTo := problem.sortedUpTo

/-- The number of rows. -/
def rowCount (arrays : Arrays) : Nat :=
  arrays.spans.length

/-- The number of columns. -/
def columnCount (arrays : Arrays) : Nat :=
  arrays.bounds.length

/-! ### Access -/

section Access

variable {α : Type}

/-- The item at an index counted from one. -/
def item? (items : List α) (index : Nat) : Option α :=
  if index = 0 then none else items[index - 1]?

/-- Writes an item at an index counted from one. -/
def put? (items : List α) (index : Nat) (item : α) : Option (List α) :=
  if 1 ≤ index ∧ index ≤ items.length then some (items.set (index - 1) item) else none

/-- The items of a span. -/
def stretch (items : List α) (span : Span) : List α :=
  (items.drop span.start).take span.length

/-- The items of a span, which has to lie within. -/
def cut? (items : List α) (span : Span) : Option (List α) :=
  if span.start + span.length ≤ items.length then some (stretch items span) else none

/-- Puts items in the place of those of a span, which has to lie within. -/
def splice? (items : List α) (span : Span) (others : List α) : Option (List α) :=
  if span.start + span.length ≤ items.length then
    some (items.take span.start ++ others ++ items.drop (span.start + span.length))
  else none

/-- Writes items over those of a span, which has to have their number. -/
def copy? (items : List α) (span : Span) (others : List α) : Option (List α) :=
  if others.length = span.length then splice? items span others else none

end Access

/-- The name of a column. -/
def columnName (arrays : Arrays) (index : Nat) : Option String :=
  (item? arrays.columnNames index).map (·.getD ("C" ++ toString index))

/-- The name of a row. -/
def rowName (arrays : Arrays) (index : Nat) : Option String :=
  (item? arrays.rows index).map (·.name.getD ("R" ++ toString index))

/-- The columns and the coefficients of a row. -/
def row (arrays : Arrays) (index : Nat) : Option (List Nat × List Float) := do
  let span ← item? arrays.spans index
  return (← cut? arrays.indices span, ← cut? arrays.coefficients span)

/-- Changes the row at an index, apart from its coefficients. -/
def modifyRow (arrays : Arrays) (index : Nat) (change : Row → Row) : Option Arrays := do
  let row ← item? arrays.rows index
  return { arrays with rows := ← put? arrays.rows index (change row) }

/-! ### Coefficients -/

/-- The places of some columns, counted from zero, in the order of the columns; places of one column
keep their order. -/
def sortedPlaces (indices : List Nat) : Option (List Nat) := do
  let keyed ← (List.range indices.length).mapM fun place => (indices[place]?).map (·, place)
  return (keyed.mergeSort fun first second => first.1 ≤ second.1).map (·.2)

/-- **Puts the coefficients of a row in order**, at a position counted from zero. A row that is in
order is only looked at. -/
def sortRow (arrays : Arrays) (position : Nat) : Option Arrays := do
  let span ← arrays.spans[position]?
  let old ← cut? arrays.indices span
  if old.Pairwise (· < ·) then return arrays
  let places ← sortedPlaces old
  let indices ← copy? arrays.indices span (← places.mapM (old[·]?))
  let coefficients ← copy? arrays.coefficients span
    (← places.mapM fun place => arrays.coefficients[span.start + place]?)
  return { arrays with indices, coefficients }

/-- **Replaces the coefficients of a row.** The spans behind it move along. -/
def setRow (arrays : Arrays) (index : Nat) (indices : List Nat) (coefficients : List Float) :
    Option Arrays := do
  let span ← item? arrays.spans index
  let changed := { arrays with
    indices := ← splice? arrays.indices span indices
    coefficients := ← splice? arrays.coefficients span coefficients
    spans := arrays.spans.take (index - 1) ++ ⟨span.start, indices.length⟩ ::
      (← (arrays.spans.drop index).mapM (·.shift? indices.length span.length)) }
  sortRow changed (index - 1)

/-- Sets one coefficient; a zero removes the entry. -/
def setCoefficient (arrays : Arrays) (rowIndex columnIndex : Nat) (value : Float) :
    Option Arrays := do
  let (indices, coefficients) ← row arrays rowIndex
  let others := (indices.zip coefficients).filter (·.1 != columnIndex)
  let entries := if value != 0 then others ++ [(columnIndex, value)] else others
  setRow arrays rowIndex entries.unzip.1 entries.unzip.2

/-- Appends a row. -/
def appendRow (arrays : Arrays) (indices : List Nat) (coefficients : List Float)
    (relation : Relation) (rhs : Float) (deferOrder : Bool) : Option Arrays :=
  let count := arrays.rowCount
  let longer := { arrays with
    indices := arrays.indices ++ indices
    coefficients := arrays.coefficients ++ coefficients
    spans := arrays.spans ++ [⟨arrays.indices.length, indices.length⟩]
    rows := arrays.rows ++ [{ relation, rhs }] }
  if arrays.sortedUpTo == count && !deferOrder then
    (sortRow longer count).map ({ · with sortedUpTo := count + 1 })
  else some longer

/-- Puts every row in order that may not be. -/
def normalize (arrays : Arrays) : Option Arrays :=
  let waiting := List.range' arrays.sortedUpTo (arrays.rowCount - arrays.sortedUpTo)
  (waiting.foldlM sortRow arrays).map ({ · with sortedUpTo := arrays.rowCount })

/-! ### Dimensions -/

/-- Copies the coefficient at a position to the place where the next one goes, if its column
stays. -/
def packEntry (columnCount position : Nat) (indices : List Nat) (coefficients : List Float)
    (place : Nat) : Option (List Nat × List Float × Nat) := do
  let index ← indices[position]?
  if index ≤ columnCount then
    let coefficient ← coefficients[position]?
    if place < indices.length ∧ place < coefficients.length then
      some (indices.set place index, coefficients.set place coefficient, place + 1)
    else none
  else some (indices, coefficients, place)

/-- Packs a number of coefficients from a position on. -/
def packRow (columnCount position : Nat) :
    Nat → List Nat → List Float → Nat → Option (List Nat × List Float × Nat)
  | 0, indices, coefficients, place => some (indices, coefficients, place)
  | count + 1, indices, coefficients, place => do
    let (indices, coefficients, place) ←
      packEntry columnCount position indices coefficients place
    packRow columnCount (position + 1) count indices coefficients place

/-- Packs the coefficients of some spans; the spans that they have then, the arrays, and the place
behind the last one. -/
def pack (columnCount : Nat) :
    List Span → List Nat → List Float → Nat → Option (List Span × List Nat × List Float × Nat)
  | [], indices, coefficients, place => some ([], indices, coefficients, place)
  | span :: spans, indices, coefficients, place => do
    let (indices, coefficients, next) ←
      packRow columnCount span.start span.length indices coefficients place
    let (packed, rest) ← pack columnCount spans indices coefficients next
    return (⟨place, next - place⟩ :: packed, rest)

/-- Cuts an array off if columns go, and otherwise brings it to their number. -/
def fitColumns {α : Type} (arrays : Arrays) (columnCount : Nat) (items : List α) (fresh : α) :
    List α :=
  if columnCount < arrays.columnCount then items.take columnCount
  else items.take columnCount ++ List.replicate (columnCount - items.length) fresh

/-- Cuts all arrays of rows off behind a number of rows, if there are more. -/
def dropRows (arrays : Arrays) (rowCount : Nat) : Arrays :=
  if rowCount < arrays.rowCount then
    { arrays with
      spans := arrays.spans.take rowCount
      rows := arrays.rows.take rowCount
      sortedUpTo := min arrays.sortedUpTo rowCount }
  else arrays

/-- **Sets the exact dimensions**, unless they cannot be stored. -/
def resize (arrays : Arrays) (rowCount columnCount : Nat) : Option Arrays :=
  if Problem.Storable rowCount columnCount then do
    let arrays := { arrays with
      costs := arrays.fitColumns columnCount arrays.costs 0
      bounds := arrays.fitColumns columnCount arrays.bounds {}
      integers := arrays.fitColumns columnCount arrays.integers false
      columnNames := arrays.fitColumns columnCount arrays.columnNames none }
    let arrays := arrays.dropRows rowCount
    let (spans, indices, coefficients, place) ←
      pack columnCount arrays.spans arrays.indices arrays.coefficients 0
    let missing := rowCount - spans.length
    return { arrays with
      spans := spans ++ List.replicate missing ⟨place, 0⟩
      rows := arrays.rows ++ List.replicate missing default
      indices := indices.take place
      coefficients := coefficients.take place }
  else some arrays

/-- Appends a column. -/
def addColumn (arrays : Arrays) (name : Option String) : Arrays :=
  { arrays with
    costs := arrays.costs ++ [0]
    bounds := arrays.bounds ++ [{}]
    integers := arrays.integers ++ [false]
    columnNames := arrays.columnNames ++ [name] }

/-! ### Attributes of rows and columns -/

/-- Sets the objective coefficient of a column. -/
def setObjective (arrays : Arrays) (index : Nat) (value : Float) : Option Arrays := do
  return { arrays with costs := ← put? arrays.costs index value }

/-- Sets the right-hand side of a row. -/
def setRhs (arrays : Arrays) (index : Nat) (value : Float) : Option Arrays :=
  modifyRow arrays index ({ · with rhs := value })

/-- Sets an item for each of some indices, one after the other. -/
def setEach (set : Arrays → Nat → Float → Option Arrays) (indices : List Nat)
    (values : List Float) (arrays : Arrays) : Option Arrays :=
  (indices.zip values).foldlM (fun arrays entry => set arrays entry.1 entry.2) arrays

/-- Sets the range of a row, unless it is not a number. -/
def setRange (arrays : Arrays) (index : Nat) (range : Float) : Option Arrays :=
  if range.isNaN then some arrays
  else
    modifyRow arrays index ({ · with range := if range.isInf then none else some range.abs })

/-- Sets both bounds of a column as they are given. -/
def forceBounds (arrays : Arrays) (index : Nat) (lower upper : Float) : Option Arrays := do
  return { arrays with bounds := ← put? arrays.bounds index ⟨lower, upper⟩ }

/-- Sets both bounds of a column, unless they cross. -/
def setBounds (arrays : Arrays) (index : Nat) (lower upper : Float) : Option Arrays :=
  if lower ≤ upper then forceBounds arrays index lower upper else some arrays

/-- Sets whether a column takes integer values only. -/
def setInteger (arrays : Arrays) (index : Nat) (integer : Bool) : Option Arrays := do
  return { arrays with integers := ← put? arrays.integers index integer }

/-- Makes a column binary, or continuous with the bounds it has. -/
def setBinary (arrays : Arrays) (index : Nat) (binary : Bool) : Option Arrays := do
  let arrays ← setInteger arrays index binary
  if binary then forceBounds arrays index 0 1 else return arrays

/-- Names a column. -/
def setColumnName (arrays : Arrays) (index : Nat) (name : String) : Option Arrays := do
  return { arrays with columnNames := ← put? arrays.columnNames index (some name) }

/-! ### Operations -/

/-- Something done to the arrays. The entries of a row come as a list of indices and a list of
values. -/
inductive Operation where
  | resize (rows columns : Nat)
  | addColumn (name : Option String)
  | setName (name : String)
  | setMaximize (maximize : Bool)
  | setConstant (value : Float)
  | setObjective (column : Nat) (value : Float)
  | setObjectiveRow (indices : List Nat) (values : List Float)
  | appendRow (indices : List Nat) (coefficients : List Float) (relation : Relation) (rhs : Float)
    (deferOrder : Bool)
  | setRow (row : Nat) (indices : List Nat) (coefficients : List Float)
  | setCoefficient (row column : Nat) (value : Float)
  | normalize
  | setRelation (row : Nat) (relation : Relation)
  | setRhs (row : Nat) (value : Float)
  | setRhsVector (indices : List Nat) (values : List Float)
  | setRange (row : Nat) (range : Float)
  | setRowName (row : Nat) (name : String)
  | setBounds (column : Nat) (lower upper : Float)
  | setLower (column : Nat) (lower : Float)
  | setUpper (column : Nat) (upper : Float)
  | forceBounds (column : Nat) (lower upper : Float)
  | setInteger (column : Nat) (integer : Bool)
  | setBinary (column : Nat) (binary : Bool)
  | setColumnName (column : Nat) (name : String)
  deriving Repr

/-- **What an operation makes of the arrays**, if every access is inside them. -/
def apply (arrays : Arrays) : Operation → Option Arrays
  | .resize rows columns => resize arrays rows columns
  | .addColumn name => some (addColumn arrays name)
  | .setName name => some { arrays with name }
  | .setMaximize maximize => some { arrays with maximize }
  | .setConstant constant => some { arrays with constant }
  | .setObjective column value => setObjective arrays column value
  | .setObjectiveRow indices values =>
    setEach setObjective indices values { arrays with costs := arrays.costs.map fun _ => 0 }
  | .appendRow indices coefficients relation rhs deferOrder =>
    appendRow arrays indices coefficients relation rhs deferOrder
  | .setRow row indices coefficients => setRow arrays row indices coefficients
  | .setCoefficient row column value => setCoefficient arrays row column value
  | .normalize => normalize arrays
  | .setRelation row relation => modifyRow arrays row ({ · with relation })
  | .setRhs row value => setRhs arrays row value
  | .setRhsVector indices values =>
    setEach setRhs indices values
      { arrays with rows := arrays.rows.map ({ · with rhs := 0 }) }
  | .setRange row range => setRange arrays row range
  | .setRowName row name => modifyRow arrays row ({ · with name := some name })
  | .setBounds column lower upper => setBounds arrays column lower upper
  | .setLower column lower => do
    setBounds arrays column lower (← item? arrays.bounds column).upper
  | .setUpper column upper => do
    setBounds arrays column (← item? arrays.bounds column).lower upper
  | .forceBounds column lower upper => forceBounds arrays column lower upper
  | .setInteger column integer => setInteger arrays column integer
  | .setBinary column binary => setBinary arrays column binary
  | .setColumnName column name => setColumnName arrays column name

/-- A row of operations, one after the other. -/
def applyAll (arrays : Arrays) (operations : List Operation) : Option Arrays :=
  operations.foldlM apply arrays

/-! ### Arguments that fit -/

/-- Indices and values of one number, the indices distinct and at most a dimension. -/
structure FitLists (dimension : Nat) (indices : List Nat) (values : List Float) : Prop where
  length_eq : indices.length = values.length
  distinct : indices.Nodup
  within : ∀ index ∈ indices, 1 ≤ index ∧ index ≤ dimension

namespace Operation

/-- The arguments that a caller may give. -/
def Fits (arrays : Arrays) : Operation → Prop
  | setObjectiveRow indices values | appendRow indices values .. =>
    FitLists arrays.columnCount indices values
  | setRhsVector indices values => FitLists arrays.rowCount indices values
  | setRow row indices coefficients =>
    (1 ≤ row ∧ row ≤ arrays.rowCount) ∧ FitLists arrays.columnCount indices coefficients
  | setCoefficient row column _ =>
    (1 ≤ row ∧ row ≤ arrays.rowCount) ∧ 1 ≤ column ∧ column ≤ arrays.columnCount
  | setRelation row _ | setRhs row _ | setRange row _ | setRowName row _ =>
    1 ≤ row ∧ row ≤ arrays.rowCount
  | setObjective column _ | setBounds column .. | setLower column _ | setUpper column _
  | forceBounds column .. | setInteger column _ | setBinary column _ | setColumnName column _ =>
    1 ≤ column ∧ column ≤ arrays.columnCount
  | resize .. | addColumn _ | setName _ | setMaximize _ | setConstant _ | normalize => True

/-- Each of a row of operations fits the arrays that the ones before it leave. -/
def FitAll (arrays : Arrays) : List Operation → Prop
  | [] => True
  | operation :: rest =>
    operation.Fits arrays ∧ ∀ next, apply arrays operation = some next → FitAll next rest

/-- The same done to a problem, an index and its value making one entry. -/
def onProblem : Operation → LinearProgram.Operation
  | resize rows columns => .resize rows columns
  | addColumn name => .addColumn name
  | setName name => .setName name
  | setMaximize maximize => .setMaximize maximize
  | setConstant value => .setConstant value
  | setObjective column value => .setObjective column value
  | setObjectiveRow indices values => .setObjectiveRow (List.zipWith Entry.mk indices values)
  | appendRow indices coefficients relation rhs deferOrder =>
    .appendRow (List.zipWith Entry.mk indices coefficients) relation rhs deferOrder
  | setRow row indices coefficients => .setRow row (List.zipWith Entry.mk indices coefficients)
  | setCoefficient row column value => .setCoefficient row column value
  | normalize => .normalize
  | setRelation row relation => .setRelation row relation
  | setRhs row value => .setRhs row value
  | setRhsVector indices values => .setRhsVector (List.zipWith Entry.mk indices values)
  | setRange row range => .setRange row range
  | setRowName row name => .setRowName row name
  | setBounds column lower upper => .setBounds column lower upper
  | setLower column lower => .setLower column lower
  | setUpper column upper => .setUpper column upper
  | forceBounds column lower upper => .forceBounds column lower upper
  | setInteger column integer => .setInteger column integer
  | setBinary column binary => .setBinary column binary
  | setColumnName column name => .setColumnName column name

end Operation

end Arrays

end LinearProgram
