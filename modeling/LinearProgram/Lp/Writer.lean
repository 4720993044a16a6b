/-
**Writing a problem in the LP format.**

The text has up to five sections: the problem's name in a comment, the objective, the rows, the
bounds that are not those of a new column, and the integer columns. A row is written without its
name when it has none, has at least two terms and no range: alone, it could be taken for a bound,
and the line of its range has to name it.

A reader numbers the columns by first appearance. So the objective lists as many leading columns,
with zero terms where needed, as it takes for every column to come back at its index.

* `occurrences`: the columns in the order in which the sections behind the objective mention them.
* `declaredColumns`: the number of columns that the objective lists.
* `render`: the text of a problem.
-/

import LinearProgram.Problem.Basic
import LinearProgram.Lp.Number

namespace LinearProgram.Lp

/-! ### The columns that the objective lists -/

/-- The entries of a row that are written. -/
def writtenEntries (problem : Problem) (index : Nat) : List Entry :=
  (problem.row index).filter fun entry => entry.coefficient != 0

/-- The columns in the order in which the rows, the bounds and the integer section mention them. -/
def occurrences (problem : Problem) : List Nat :=
  problem.rowIndices.flatMap (fun index => (writtenEntries problem index).map (·.column))
    ++ problem.columnIndices.filter (fun index => !(problem.column index).hasDefaultBounds)
    ++ problem.columnIndices.filter (fun index => (problem.column index).integer)

/-- The number of columns up to `count` that are left when those that first occur in the order of
their indices are taken off the end. `total` is the number of all columns. -/
def unsettledColumns (mentions : List Nat) (total : Nat) : Nat → Nat
  | 0 => 0
  | count + 1 =>
    let place := mentions.idxOf (count + 1)
    if place < mentions.length && (count + 1 == total || place < mentions.idxOf (count + 2)) then
      unsettledColumns mentions total count
    else count + 1

/-- The index of the last column with an objective coefficient other than zero; zero if none. -/
def lastObjective (problem : Problem) : Nat :=
  (problem.objective.reverse.dropWhile (· == 0)).length

/-- **The number of leading columns that the objective lists.** -/
def declaredColumns (problem : Problem) : Nat :=
  max (unsettledColumns (occurrences problem) problem.columnCount problem.columnCount)
    (lastObjective problem)

/-! ### Lines -/

/-- A term: its sign, its magnitude unless that is one, and the name of its column. -/
def signedTerm (name : String) (coefficient : Float) : String :=
  if coefficient == 1 then "+" ++ name
  else if coefficient == -1 then "-" ++ name
  else if 0 ≤ coefficient then "+" ++ numberText coefficient ++ " " ++ name
  else "-" ++ numberText (-coefficient) ++ " " ++ name

/-- Terms with blanks between them. -/
def joinTerms (terms : List String) : String :=
  " ".intercalate terms

/-- The objective's constant, behind a blank if terms come before it; nothing if it is zero. -/
def constantText (hasTerms : Bool) (constant : Float) : String :=
  if constant == 0 then ""
  else
    (if hasTerms then " " else "") ++ (if 0 < constant then "+" else "-")
      ++ numberText constant.abs

/-- The section of the objective. -/
def objectiveSection (maximize : Bool) (terms : List String) (constant : Float) : String :=
  "/* Objective function */\n" ++ (if maximize then "max: " else "min: ")
    ++ joinTerms terms ++ constantText (!terms.isEmpty) constant ++ ";\n"

/-- The limit of a row on the side where the right-hand side is not, if the row has a range. -/
def rangeLine (name : String) (info : Row) : String :=
  if info.range.isSome then
    name ++ ": "
      ++ (match info.relation with
        | .atMost => ">= " ++ numberText info.bounds.1
        | _ => "<= " ++ numberText info.bounds.2)
      ++ ";\n"
  else ""

/-- Whether a row of so many terms is written with its name. -/
def isLabelled (info : Row) (termCount : Nat) : Bool :=
  info.name.isSome || termCount < 2 || info.range.isSome

/-- The line of a row and the line of its range, if it has one. -/
def rowLines (name : String) (info : Row) (terms : List String) : String :=
  (if isLabelled info terms.length then name ++ ": " else "")
    ++ (if terms.isEmpty then "0" else joinTerms terms)
    ++ " " ++ info.relation.symbol ++ " " ++ numberText info.rhs ++ ";\n"
    ++ rangeLine name info

/-- The line of a column's bounds; nothing if they are those of a new column. -/
def boundsLine (name : String) (column : Column) : String :=
  if column.lower == column.upper then name ++ " = " ++ numberText column.lower ++ ";\n"
  else if column.hasDefaultBounds then ""
  else if column.upper == infinity then name ++ " >= " ++ numberText column.lower ++ ";\n"
  else if column.lower == 0 then name ++ " <= " ++ numberText column.upper ++ ";\n"
  else
    numberText column.lower ++ " <= " ++ name ++ " <= " ++ numberText column.upper ++ ";\n"

/-- Lines under a heading, if there are any. -/
def headed (heading : String) (lines : List String) : String :=
  if (String.join lines).isEmpty then "" else heading ++ String.join lines

/-- The section of the integer columns. -/
def integersSection (names : List String) : String :=
  if names.isEmpty then ""
  else "\n/* Integer definitions */\nint " ++ ",".intercalate names ++ ";\n"

/-- A problem's name in a comment, if it has one. -/
def nameText (name : String) : String :=
  if name.isEmpty then "" else "/* " ++ name ++ " */\n\n"

/-! ### Sections -/

/-- The terms of some entries. -/
def termTexts (problem : Problem) (entries : List Entry) : List String :=
  entries.map fun entry => signedTerm (problem.columnName entry.column) entry.coefficient

/-- The objective's terms, zero ones included, up to the last column it lists. -/
def objectiveEntries (problem : Problem) : List Entry :=
  (List.range' 1 (declaredColumns problem)).map fun index =>
    ⟨index, (problem.column index).objective⟩

/-- The objective. -/
def objectiveText (problem : Problem) : String :=
  objectiveSection problem.maximize (termTexts problem (objectiveEntries problem)) problem.constant

/-- The rows. -/
def rowsText (problem : Problem) : String :=
  headed "\n/* Constraints */\n" <| problem.rowIndices.map fun index =>
    rowLines (problem.rowName index) (problem.rowInfo index)
      (termTexts problem (writtenEntries problem index))

/-- The bounds. -/
def boundsText (problem : Problem) : String :=
  headed "\n/* Variable bounds */\n" <| problem.columnIndices.map fun index =>
    boundsLine (problem.columnName index) (problem.column index)

/-- The integer columns. -/
def integersText (problem : Problem) : String :=
  integersSection <|
    (problem.columnIndices.filter fun index => (problem.column index).integer).map
      problem.columnName

/-- **The text of a problem.** -/
def render (problem : Problem) : String :=
  nameText problem.name ++ objectiveText problem ++ rowsText problem ++ boundsText problem
    ++ integersText problem

end LinearProgram.Lp
