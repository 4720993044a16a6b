/-
**A problem without its storage.**

A plain problem has a list of columns and a list of rows, and a row maps columns to coefficients.
There is no sequence of entries, no order among them and no mark, so what an operation does to a
plain problem is what it is meant to do.

* `Plain`, `Plain.apply`: plain problems and the operations on them.
* `Problem.plain`: the plain problem that a problem stands for.
* `coefficient?`: the coefficient of a column among entries. `coefficient?_perm`: the order of the
  entries does not matter to it.
-/

import Mathlib.Logic.Function.Basic
import LinearProgram.Proofs.Problem.Preserved

namespace LinearProgram

/-- The coefficient of a column among entries, if it has one. -/
def coefficient? (entries : List Entry) (column : Nat) : Option Float :=
  (entries.find? fun entry => entry.column == column).map (·.coefficient)

/-- A row with its coefficients by column. -/
structure PlainRow where
  info : Row := {}
  coefficients : Nat → Option Float := fun _ => none

instance : Inhabited PlainRow := ⟨{}⟩

/-- A problem without its storage. -/
structure Plain where
  name : String
  maximize : Bool
  constant : Float
  columns : List Column
  rows : List PlainRow

/-- **The plain problem that a problem stands for.** -/
def Problem.plain (problem : Problem) : Plain where
  name := problem.name
  maximize := problem.maximize
  constant := problem.constant
  columns := problem.columns
  rows := List.zipWith (fun info entries => ⟨info, coefficient? entries⟩) problem.rows
    problem.matrix.rows

namespace Plain

/-- Changes the column at an index. -/
def modifyColumn (plain : Plain) (index : Nat) (change : Column → Column) : Plain :=
  { plain with columns := plain.columns.modify (index - 1) change }

/-- Changes the row at an index. -/
def modifyRow (plain : Plain) (index : Nat) (change : PlainRow → PlainRow) : Plain :=
  { plain with rows := plain.rows.modify (index - 1) change }

/-- Changes the row at an index, apart from its coefficients. -/
def modifyInfo (plain : Plain) (index : Nat) (change : Row → Row) : Plain :=
  plain.modifyRow index fun row => { row with info := change row.info }

/-- The coefficients of a row up to a column. -/
def upTo (columnCount : Nat) (coefficients : Nat → Option Float) (column : Nat) : Option Float :=
  if column ≤ columnCount then coefficients column else none

/-- Rows and columns within both the old and the new dimensions stay, and new ones are added. -/
def resize (plain : Plain) (rowCount columnCount : Nat) : Plain :=
  { plain with
    columns := Problem.fit plain.columns columnCount
    rows := Problem.fit
      (plain.rows.map fun row => { row with coefficients := upTo columnCount row.coefficients })
      rowCount }

/-- Sets both bounds of a column, unless they cross. -/
def setBounds (plain : Plain) (index : Nat) (bounds : Column → Float × Float) : Plain :=
  plain.modifyColumn index fun column =>
    (column.setBounds? (bounds column).1 (bounds column).2).getD column

/-- **What an operation does to a plain problem.** -/
def apply (plain : Plain) : Operation → Plain
  | .resize rows columns =>
    if Problem.Storable rows columns then plain.resize rows columns else plain
  | .addColumn name => { plain with columns := plain.columns ++ [{ name }] }
  | .setName name => { plain with name }
  | .setMaximize maximize => { plain with maximize }
  | .setConstant constant => { plain with constant }
  | .setObjective column value => plain.modifyColumn column ({ · with objective := value })
  | .setObjectiveRow entries =>
    { plain with
      columns := plain.columns.mapIdx fun place column =>
        { column with objective := (coefficient? entries (place + 1)).getD 0 } }
  | .appendRow entries relation rhs _ =>
    { plain with rows := plain.rows ++ [⟨{ relation, rhs }, coefficient? entries⟩] }
  | .setRow row entries =>
    plain.modifyRow row ({ · with coefficients := coefficient? entries })
  | .setCoefficient row column value =>
    plain.modifyRow row fun row =>
      { row with
        coefficients := Function.update row.coefficients column
          (if value != 0 then some value else none) }
  | .normalize => plain
  | .setRelation row relation => plain.modifyInfo row ({ · with relation })
  | .setRhs row value => plain.modifyInfo row ({ · with rhs := value })
  | .setRhsVector entries =>
    { plain with
      rows := plain.rows.mapIdx fun place row =>
        { row with info := { row.info with rhs := (coefficient? entries (place + 1)).getD 0 } } }
  | .setRange row range => plain.modifyInfo row fun info => (info.setRange? range).getD info
  | .setRowName row name => plain.modifyInfo row ({ · with name := some name })
  | .setBounds column lower upper => plain.setBounds column fun _ => (lower, upper)
  | .setLower column lower => plain.setBounds column fun column => (lower, column.upper)
  | .setUpper column upper => plain.setBounds column fun column => (column.lower, upper)
  | .forceBounds column lower upper => plain.modifyColumn column ({ · with lower, upper })
  | .setInteger column integer => plain.modifyColumn column ({ · with integer })
  | .setBinary column binary => plain.modifyColumn column (·.setBinary binary)
  | .setColumnName column name => plain.modifyColumn column ({ · with name := some name })

/-- The coefficient of a column in a row; zero if there is none. -/
def coefficient (plain : Plain) (row column : Nat) : Float :=
  ((plain.rows[row - 1]?).bind (·.coefficients column)).getD 0

end Plain

/-! ### Coefficients among entries -/

/-- Among entries with distinct columns, the coefficient of a column is that of its entry. -/
theorem coefficient?_eq_some_iff {entries : List Entry}
    (distinct : (entries.map (·.column)).Nodup) {column : Nat} {value : Float} :
    coefficient? entries column = some value ↔ ⟨column, value⟩ ∈ entries := by
  induction entries with
  | nil => simp [coefficient?]
  | cons entry rest hyp =>
    obtain ⟨fresh, others⟩ := List.nodup_cons.mp distinct
    rw [List.mem_cons, ← hyp others, coefficient?, List.find?_cons]
    dsimp only at fresh
    by_cases same : entry.column = column
    · have absent : coefficient? rest column ≠ some value := by
        rw [Ne, hyp others]
        intro member
        rw [same] at fresh
        exact fresh (List.mem_map.mpr ⟨_, member, rfl⟩)
      rw [beq_iff_eq.mpr same, Option.map_some, Option.some.injEq]
      constructor
      · rintro rfl
        exact .inl (same ▸ rfl)
      · rintro (here | there)
        · rw [← here]
        · exact absurd there absent
    · rw [beq_eq_false_iff_ne.mpr same]
      constructor
      · exact fun found => .inr found
      · rintro (here | there)
        · exact absurd (congrArg Entry.column here).symm same
        · exact there

theorem coefficient?_perm {first second : List Entry}
    (distinct : (first.map (·.column)).Nodup) (perm : second.Perm first) :
    coefficient? second = coefficient? first := by
  have alike : (second.map (·.column)).Nodup := (perm.map _).nodup_iff.mpr distinct
  funext column
  refine Option.ext fun value => ?_
  rw [coefficient?_eq_some_iff alike, coefficient?_eq_some_iff distinct]
  exact perm.mem_iff

theorem coefficient?_sortEntries {entries : List Entry}
    (distinct : (entries.map (·.column)).Nodup) :
    coefficient? (sortEntries entries) = coefficient? entries :=
  coefficient?_perm distinct (sortEntries_perm entries)

theorem coefficient?_keep (columnCount : Nat) (entries : List Entry) :
    coefficient? (SparseRows.keep columnCount entries)
      = Plain.upTo columnCount (coefficient? entries) := by
  funext column
  rw [coefficient?, SparseRows.keep, List.find?_filter, Plain.upTo, coefficient?]
  split
  next le =>
    refine congrArg (Option.map _) (congrArg (List.find? · entries) (funext fun entry => ?_))
    by_cases same : entry.column = column
    · simp [same, le]
    · simp [same]
  next gt =>
    rw [List.find?_eq_none.mpr, Option.map_none]
    intro entry _
    rw [decide_eq_true_eq, decide_eq_true_eq, beq_iff_eq]
    rintro ⟨le, rfl⟩
    exact gt le

theorem coefficient?_append (first second : List Entry) (column : Nat) :
    coefficient? (first ++ second) column
      = (coefficient? first column).or (coefficient? second column) := by
  rw [coefficient?, List.find?_append, coefficient?, coefficient?]
  cases first.find? fun entry => entry.column == column with
  | none => rfl
  | some entry => rfl

/-- The entries of the other columns. -/
theorem coefficient?_others (entries : List Entry) (column other : Nat) :
    coefficient? (entries.filter fun entry => entry.column != column) other
      = if other = column then none else coefficient? entries other := by
  rw [coefficient?, List.find?_filter, coefficient?]
  split
  next same =>
    rw [List.find?_eq_none.mpr, Option.map_none]
    intro entry _
    rw [decide_eq_true_eq, bne_iff_ne, beq_iff_eq, same]
    exact fun both => both.1 both.2
  next different =>
    refine congrArg (Option.map _) (congrArg (List.find? · entries) (funext fun entry => ?_))
    by_cases same : entry.column = other
    · simp [same, different]
    · simp [same]

/-- Setting one coefficient changes what that column has, and nothing else. -/
theorem coefficient?_setCoefficient (entries : List Entry) (column : Nat) (value : Float) :
    coefficient?
        (if value != 0 then
          (entries.filter fun entry => entry.column != column) ++ [⟨column, value⟩]
        else entries.filter fun entry => entry.column != column)
      = Function.update (coefficient? entries) column
          (if value != 0 then some value else none) := by
  funext other
  by_cases same : other = column
  · subst same
    rw [Function.update_self]
    split
    · rw [coefficient?_append, coefficient?_others, if_pos rfl, Option.none_or, coefficient?,
        List.find?_cons, beq_self_eq_true]
      rfl
    · rw [coefficient?_others, if_pos rfl]
  · rw [Function.update_of_ne same]
    split
    · rw [coefficient?_append, coefficient?_others, if_neg same, coefficient? , coefficient?,
        List.find?_cons, beq_eq_false_iff_ne.mpr (Ne.symm same)]
      exact Option.or_none
    · rw [coefficient?_others, if_neg same]

end LinearProgram
