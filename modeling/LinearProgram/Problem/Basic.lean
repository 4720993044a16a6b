/-
**A linear or mixed integer program.**

A problem has an objective with a constant, columns, and rows whose coefficients stand in sparse
storage. Rows and columns are counted from one; giving an index that exists is the caller's duty,
and an operation on any other index changes nothing.

Rows may be appended out of order. `sortedUpTo` counts the leading rows that are known to have
increasing columns, and `normalize` puts the others in order.

* `Problem.resize?`: exact dimensions; refused when they cannot be stored.
* `Problem.appendRow`, `setRow`, `setCoefficient`: the coefficients.
* `Problem.coefficient`, `row`, `denseRow`: what is stored, by entry, by row, and with zeros.
* `Problem.rowName`, `columnName`: names, `R` or `C` and the index unless one was given.
-/

import LinearProgram.Problem.SparseRows
import LinearProgram.Problem.Row
import LinearProgram.Problem.Column

namespace LinearProgram

/-- A linear or mixed integer program. -/
structure Problem where
  name : String := ""
  maximize : Bool := false
  constant : Float := 0
  columns : List Column := []
  rows : List Row := []
  matrix : SparseRows := {}
  /-- The number of leading rows known to have increasing columns. -/
  sortedUpTo : Nat := 0
  deriving Repr

instance : Inhabited Problem := ⟨{}⟩

/-- The entries of a row in the order of their columns; entries of one column keep their order. -/
def sortEntries (entries : List Entry) : List Entry :=
  entries.mergeSort fun first second => first.column ≤ second.column

namespace Problem

/-! ### Dimensions -/

/-- The number of rows. -/
def rowCount (problem : Problem) : Nat :=
  problem.matrix.count

/-- The number of columns. -/
def columnCount (problem : Problem) : Nat :=
  problem.columns.length

/-- The bytes that one stretch of memory may take. -/
def stretchBytes : Nat := Nat.pow 2 63 - 1

/-- The number of rows that can be stored: apart from its coefficients a row takes 56 bytes. -/
def rowCapacity : Nat := stretchBytes / 56

/-- The number of columns that can be stored: the name of a column takes 24 bytes. -/
def columnCapacity : Nat := stretchBytes / 24

/-- The dimensions can be stored. -/
def Storable (rowCount columnCount : Nat) : Prop :=
  rowCount ≤ rowCapacity ∧ columnCount ≤ columnCapacity

instance (rowCount columnCount : Nat) : Decidable (Storable rowCount columnCount) :=
  inferInstanceAs (Decidable (_ ∧ _))

/-- A list cut or filled up to a length. -/
def fit {α : Type} [Inhabited α] (items : List α) (length : Nat) : List α :=
  items.take length ++ List.replicate (length - items.length) default

/-- **Sets the exact dimensions.** New rows read `≤ 0` and new columns are continuous; what falls
outside is dropped. Fails when the dimensions cannot be stored. -/
def resize? (problem : Problem) (rowCount columnCount : Nat) : Option Problem :=
  if Storable rowCount columnCount then
    some { problem with
      columns := fit problem.columns columnCount
      rows := fit problem.rows rowCount
      matrix := problem.matrix.resize rowCount columnCount
      sortedUpTo := min problem.sortedUpTo rowCount }
  else none

/-- A problem of empty rows and continuous columns. -/
def ofSize? (rowCount columnCount : Nat) : Option Problem :=
  ({} : Problem).resize? rowCount columnCount

/-- Appends a column. Its index is the new number of columns. -/
def addColumn (problem : Problem) (name : Option String) : Problem :=
  { problem with columns := problem.columns ++ [{ name }] }

/-! ### Rows and columns by index -/

/-- The row at an index, apart from its coefficients. -/
def rowInfo (problem : Problem) (index : Nat) : Row :=
  (problem.rows[index - 1]?).getD default

/-- The column at an index. -/
def column (problem : Problem) (index : Nat) : Column :=
  (problem.columns[index - 1]?).getD default

/-- Changes the row at an index, apart from its coefficients. -/
def modifyRow (problem : Problem) (index : Nat) (change : Row → Row) : Problem :=
  { problem with rows := problem.rows.modify (index - 1) change }

/-- Changes the column at an index. -/
def modifyColumn (problem : Problem) (index : Nat) (change : Column → Column) : Problem :=
  { problem with columns := problem.columns.modify (index - 1) change }

/-! ### Objective -/

/-- The objective coefficients of all columns. -/
def objective (problem : Problem) : List Float :=
  problem.columns.map (·.objective)

/-- Sets the objective coefficient of a column. -/
def setObjective (problem : Problem) (index : Nat) (value : Float) : Problem :=
  problem.modifyColumn index ({ · with objective := value })

/-- Replaces the whole objective; columns without an entry get zero. -/
def setObjectiveRow (problem : Problem) (entries : List Entry) : Problem :=
  let cleared := { problem with columns := problem.columns.map ({ · with objective := 0 }) }
  entries.foldl (fun problem entry => problem.setObjective entry.column entry.coefficient) cleared

/-! ### Coefficients -/

/-- The entries of a row, as they are stored. -/
def row (problem : Problem) (index : Nat) : List Entry :=
  problem.matrix.row (index - 1)

/-- The coefficients of a row, one for each column. -/
def denseRow (problem : Problem) (index : Nat) : List Float :=
  (problem.row index).foldl (fun values entry => values.set (entry.column - 1) entry.coefficient)
    (List.replicate problem.columnCount 0)

/-- The coefficient of a column in a row. -/
def coefficient (problem : Problem) (rowIndex columnIndex : Nat) : Float :=
  (((problem.row rowIndex).find? fun entry => entry.column == columnIndex).map
    (·.coefficient)).getD 0

/-- Puts the stored entries of a row in order. -/
def sortRow (problem : Problem) (index : Nat) : Problem :=
  { problem with matrix := problem.matrix.replace (index - 1) (sortEntries (problem.row index)) }

/-- **Appends a row.** It is put in order at once if all rows before it are and the order is not
deferred. -/
def appendRow (problem : Problem) (entries : List Entry) (relation : Relation) (rhs : Float)
    (deferOrder : Bool) : Problem :=
  let index := problem.rowCount + 1
  let longer := { problem with
    rows := problem.rows ++ [{ relation, rhs }]
    matrix := problem.matrix.push entries }
  if problem.sortedUpTo == problem.rowCount && !deferOrder then
    { longer.sortRow index with sortedUpTo := index }
  else longer

/-- Puts every row in order that may not be. -/
def normalize (problem : Problem) : Problem :=
  let waiting := List.range' (problem.sortedUpTo + 1) (problem.rowCount - problem.sortedUpTo)
  { waiting.foldl sortRow problem with sortedUpTo := problem.rowCount }

/-- Whether every row is known to be in order. -/
def isNormalized (problem : Problem) : Bool :=
  problem.sortedUpTo == problem.rowCount

/-- Replaces the coefficients of a row and puts them in order. -/
def setRow (problem : Problem) (index : Nat) (entries : List Entry) : Problem :=
  { problem with matrix := problem.matrix.replace (index - 1) entries }.sortRow index

/-- Sets one coefficient; a zero removes the entry. -/
def setCoefficient (problem : Problem) (rowIndex columnIndex : Nat) (value : Float) : Problem :=
  let others := (problem.row rowIndex).filter fun entry => entry.column != columnIndex
  problem.setRow rowIndex (if value != 0 then others ++ [⟨columnIndex, value⟩] else others)

/-! ### Right-hand sides and ranges -/

/-- Sets the relation of a row. -/
def setRelation (problem : Problem) (index : Nat) (relation : Relation) : Problem :=
  problem.modifyRow index ({ · with relation })

/-- Sets the right-hand side of a row. -/
def setRhs (problem : Problem) (index : Nat) (value : Float) : Problem :=
  problem.modifyRow index ({ · with rhs := value })

/-- Replaces all right-hand sides; rows without an entry get zero. The column of an entry is the
index of a row here. -/
def setRhsVector (problem : Problem) (entries : List Entry) : Problem :=
  let cleared := { problem with rows := problem.rows.map ({ · with rhs := 0 }) }
  entries.foldl (fun problem entry => problem.setRhs entry.column entry.coefficient) cleared

/-- Sets the range of a row, unless it is not a number. -/
def setRange? (problem : Problem) (index : Nat) (range : Float) : Option Problem :=
  ((problem.rowInfo index).setRange? range).map fun row => problem.modifyRow index fun _ => row

/-- The name of a row. -/
def rowName (problem : Problem) (index : Nat) : String :=
  (problem.rowInfo index).name.getD ("R" ++ toString index)

/-- Names a row. -/
def setRowName (problem : Problem) (index : Nat) (name : String) : Problem :=
  problem.modifyRow index ({ · with name := some name })

/-! ### Bounds and kinds of columns -/

/-- Sets both bounds of a column, unless they cross. -/
def setBounds? (problem : Problem) (index : Nat) (lower upper : Float) : Option Problem :=
  ((problem.column index).setBounds? lower upper).map fun column =>
    problem.modifyColumn index fun _ => column

/-- Sets the lower bound of a column, unless it exceeds the upper one. -/
def setLower? (problem : Problem) (index : Nat) (lower : Float) : Option Problem :=
  problem.setBounds? index lower (problem.column index).upper

/-- Sets the upper bound of a column, unless it is below the lower one. -/
def setUpper? (problem : Problem) (index : Nat) (upper : Float) : Option Problem :=
  problem.setBounds? index (problem.column index).lower upper

/-- Sets both bounds of a column as they are given. Crossing bounds describe a problem without
solutions, which a file may well contain. -/
def forceBounds (problem : Problem) (index : Nat) (lower upper : Float) : Problem :=
  problem.modifyColumn index ({ · with lower, upper })

/-- Sets whether a column takes integer values only. -/
def setInteger (problem : Problem) (index : Nat) (integer : Bool) : Problem :=
  problem.modifyColumn index ({ · with integer })

/-- Makes a column binary, or continuous with the bounds it has. -/
def setBinary (problem : Problem) (index : Nat) (binary : Bool) : Problem :=
  problem.modifyColumn index (·.setBinary binary)

/-- Whether some column takes integer values only. -/
def hasIntegers (problem : Problem) : Bool :=
  problem.columns.any (·.integer)

/-- The name of a column. -/
def columnName (problem : Problem) (index : Nat) : String :=
  (problem.column index).name.getD ("C" ++ toString index)

/-- Names a column. -/
def setColumnName (problem : Problem) (index : Nat) (name : String) : Problem :=
  problem.modifyColumn index ({ · with name := some name })

/-- The indices of the columns. -/
def columnIndices (problem : Problem) : List Nat :=
  List.range' 1 problem.columnCount

/-- The indices of the rows. -/
def rowIndices (problem : Problem) : List Nat :=
  List.range' 1 problem.rowCount

end Problem

end LinearProgram
