/-
**Reading and writing a text stays inside the arrays of a problem.**

* `Arrays.Reader.ofReader`: the state of reading in arrays.
* `Arrays.Reader.act_ofReader`: what an action does there is what it does.
* **`Arrays.parse_eq`**: so it is for the reading of every text.
* **`Arrays.render_ofProblem`**: so it is for the writing of every problem that is stored well.
-/

import LinearProgram.Lp.Arrays
import LinearProgram.Proofs.Lp.Reading
import LinearProgram.Proofs.Lp.Written
import LinearProgram.Proofs.Problem.Access

namespace LinearProgram

/-! ### Columns by name -/

namespace Problem

variable {problem other : Problem}

theorem columnCount_of_names
    (names : other.columns.map (·.name) = problem.columns.map (·.name)) :
    other.columnCount = problem.columnCount := by
  have lengths := congrArg List.length names
  rwa [List.length_map, List.length_map] at lengths

theorem columnName_of_names
    (names : other.columns.map (·.name) = problem.columns.map (·.name)) (index : Nat) :
    other.columnName index = problem.columnName index := by
  have view (given : Problem) : given.columnName index
      = (((given.columns.map (·.name))[index - 1]?).getD none).getD ("C" ++ toString index) := by
    rw [columnName, column, List.getElem?_map]
    cases given.columns[index - 1]? with
    | none => rfl
    | some column => rfl
  rw [view, view, names]

/-- The columns by name. -/
def namedColumns (problem : Problem) : List (String × Nat) :=
  problem.columnIndices.map fun index => (problem.columnName index, index)

theorem namedColumns_of_names
    (names : other.columns.map (·.name) = problem.columns.map (·.name)) :
    other.namedColumns = problem.namedColumns := by
  rw [namedColumns, columnIndices, columnCount_of_names names, namedColumns, columnIndices]
  simp only [columnName_of_names names]

/-- A column that is added stands behind the others, under its name. -/
theorem namedColumns_addColumn (problem : Problem) (stored : Option String) :
    (problem.addColumn stored).namedColumns = problem.namedColumns
      ++ [(stored.getD ("C" ++ toString (problem.columnCount + 1)), problem.columnCount + 1)] := by
  have count : (problem.addColumn stored).columnCount = problem.columnCount + 1 :=
    List.length_append
  have last : (problem.addColumn stored).columnName (problem.columnCount + 1)
      = stored.getD ("C" ++ toString (problem.columnCount + 1)) := by
    rw [columnName, column, addColumn, columnCount, Nat.add_sub_cancel,
      List.getElem?_append_right (Nat.le_refl _), Nat.sub_self]
    rfl
  have old : ∀ index ∈ problem.columnIndices,
      (problem.addColumn stored).columnName index = problem.columnName index := by
    intro index member
    obtain ⟨low, high⟩ := mem_columnIndices.mp member
    have inside : index - 1 < problem.columns.length := by
      show index - 1 < problem.columnCount
      omega
    rw [columnName, column, addColumn, List.getElem?_append_left inside, columnName, column]
  rw [namedColumns, columnIndices, count, List.range'_concat, List.map_append, List.map_singleton,
    Nat.one_mul, Nat.add_comm 1, last]
  exact congrArg (· ++ _) (List.map_congr_left fun index member =>
    congrArg (·, index) (old index member))

/-- The table of the names leads where a search through the columns does. -/
theorem lookup_namedColumns (problem : Problem) (name : String) :
    problem.namedColumns.lookup name
      = problem.columnIndices.find? fun index => problem.columnName index == name := by
  rw [namedColumns]
  induction problem.columnIndices with
  | nil => rfl
  | cons index rest hyp =>
    rw [List.map_cons, List.lookup_cons, List.find?_cons, hyp, BEq.comm]

end Problem

namespace Lp.Reader

variable {reader other : Reader}

/-- The reader with more columns. -/
def withColumns (reader : Reader) (more : List Column) : Reader :=
  { reader with problem := { reader.problem with columns := reader.problem.columns ++ more } }

/-- **Readers whose columns have the same names look names up alike**, and add the same columns. -/
theorem column_of_names
    (names : other.problem.columns.map (·.name) = reader.problem.columns.map (·.name))
    (name : String) :
    ∃ more, (reader.column name).2 = reader.withColumns more
      ∧ other.column name = ((reader.column name).1, other.withColumns more) := by
  have same : other.findColumn? name = reader.findColumn? name := by
    rw [findColumn?, findColumn?, Problem.columnIndices, Problem.columnCount_of_names names,
      Problem.columnIndices]
    simp only [Problem.columnName_of_names names]
  rw [column, column, same]
  cases reader.findColumn? name with
  | some index =>
    refine ⟨[], ?_, ?_⟩
    · simp only [withColumns, List.append_nil]
    · simp only [withColumns, List.append_nil]
  | none =>
    refine ⟨[_], rfl, ?_⟩
    dsimp only
    rw [Problem.columnCount_of_names names]
    rfl

theorem entries_of_names
    (names : other.problem.columns.map (·.name) = reader.problem.columns.map (·.name))
    (terms : List Term) :
    ∃ more, (reader.entries terms).2 = reader.withColumns more
      ∧ other.entries terms = ((reader.entries terms).1, other.withColumns more) := by
  induction terms generalizing reader other with
  | nil =>
    refine ⟨[], ?_, ?_⟩
    · simp only [withColumns, List.append_nil, entries]
    · simp only [withColumns, List.append_nil, entries]
  | cons term rest hyp =>
    obtain ⟨first, here, there⟩ := column_of_names names term.name
    have still : (other.withColumns first).problem.columns.map (·.name)
        = (reader.column term.name).2.problem.columns.map (·.name) := by
      rw [here, withColumns, withColumns, List.map_append, names, List.map_append]
    obtain ⟨more, later, later'⟩ := hyp still
    refine ⟨first ++ more, ?_, ?_⟩
    · rw [entries, later, here]
      simp only [withColumns, List.append_assoc]
    · rw [entries, there]
      dsimp only
      rw [later', entries]
      simp only [withColumns, List.append_assoc]

end Lp.Reader

namespace Arrays

open Lp

namespace Reader

/-! ### The state of reading -/

/-- The state of reading a problem, in arrays. -/
def ofReader (reader : Lp.Reader) : Reader where
  arrays := ofProblem reader.problem
  columns := reader.problem.namedColumns
  labels := reader.labels
  hasObjective := reader.hasObjective

variable {reader : Lp.Reader}

theorem addColumn_ofProblem (problem : Problem) (name : Option String) :
    addColumn (ofProblem problem) name = ofProblem (problem.addColumn name) := by
  simp only [addColumn, Problem.addColumn, ofProblem, List.map_append]
  rfl

theorem column_ofReader (reader : Lp.Reader) (name : String) :
    (ofReader reader).column name
      = ((reader.column name).1, ofReader (reader.column name).2) := by
  have looked : (ofReader reader).columns.lookup name = reader.findColumn? name :=
    Problem.lookup_namedColumns reader.problem name
  rw [column, looked, Lp.Reader.column]
  cases reader.findColumn? name with
  | some index => rfl
  | none =>
    have count : (ofReader reader).arrays.columnCount = reader.problem.columnCount :=
      columnCount_ofProblem reader.problem
    have named : (if name == "C" ++ toString (reader.problem.columnCount + 1) then none
        else some name).getD ("C" ++ toString (reader.problem.columnCount + 1)) = name := by
      split
      next same => exact (beq_iff_eq.mp same).symm
      next => rfl
    dsimp only
    rw [count]
    refine congrArg (reader.problem.columnCount + 1, ·) ?_
    unfold ofReader
    dsimp only
    rw [Problem.namedColumns_addColumn, named, addColumn_ofProblem]

theorem entries_ofReader (reader : Lp.Reader) (terms : List Term) :
    (ofReader reader).entries terms
      = ((reader.entries terms).1, ofReader (reader.entries terms).2) := by
  induction terms generalizing reader with
  | nil => rfl
  | cons term rest hyp =>
    rw [entries, column_ofReader]
    dsimp only
    rw [hyp]
    rfl

theorem withArrays_ofReader (reader : Lp.Reader) (edit : Problem → Problem)
    (names : (edit reader.problem).columns.map (·.name) = reader.problem.columns.map (·.name)) :
    withArrays (ofReader reader) (some (ofProblem (edit reader.problem)))
      = some (ofReader (reader.change edit)) := by
  rw [withArrays, Option.map_some, ofReader, ofReader]
  unfold Lp.Reader.change
  dsimp only
  rw [Problem.namedColumns_of_names names]

/-- A change of one column that keeps its name. -/
theorem withArrays_modifyColumn {index : Nat} {change : Column → Column}
    (keeps : ∀ column, (change column).name = column.name) :
    withArrays (ofReader reader) (some (ofProblem (reader.problem.modifyColumn index change)))
      = some (ofReader (reader.change (·.modifyColumn index change))) :=
  withArrays_ofReader reader (·.modifyColumn index change)
    (Problem.map_modify_eq _ _ _ _ keeps)

/-! ### Actions -/

/-- **Terms looked up and set one after the other** amount to terms looked up and then set. -/
theorem setTerms_ofReader (reader : Lp.Reader) (terms : List Term) :
    (ofReader reader).setTerms terms = some (ofReader ((reader.entries terms).2.change fun problem =>
      (reader.entries terms).1.foldl
        (fun problem entry => problem.setObjective entry.column entry.coefficient) problem)) := by
  induction terms generalizing reader with
  | nil => rfl
  | cons term rest hyp =>
    let met := (reader.column term.name).2
    let index := (reader.column term.name).1
    let set := met.change (·.setObjective index term.coefficient)
    have has : met.problem.HasColumn index := Lp.Reader.column_has reader term.name
    have names : set.problem.columns.map (·.name) = met.problem.columns.map (·.name) :=
      Problem.map_modify_eq _ _ _ _ fun _ => rfl
    have done : withArrays (ofReader met)
        (setObjective (ofReader met).arrays index term.coefficient) = some (ofReader set) := by
      rw [show setObjective (ofReader met).arrays index _ = _ from setObjective_ofProblem has _]
      exact withArrays_modifyColumn (by intro; rfl)
    obtain ⟨more, later, later'⟩ := Lp.Reader.entries_of_names names rest
    have inside : index - 1 < met.problem.columns.length := by
      obtain ⟨low, high⟩ := has
      show index - 1 < met.problem.columnCount
      omega
    have moved : (set.withColumns more)
        = (met.withColumns more).change (·.setObjective index term.coefficient) := by
      simp only [Lp.Reader.withColumns, Lp.Reader.change, set, Problem.setObjective,
        Problem.modifyColumn]
      rw [List.modify_eq_set, List.modify_eq_set, List.getElem?_append_left inside,
        List.set_append_left _ _ inside]
    rw [setTerms, column_ofReader]
    dsimp only
    rw [done]
    refine (hyp set).trans ?_
    rw [later', moved]
    show _ = some (ofReader ((met.entries rest).2.change fun problem =>
      (met.entries rest).1.foldl _ (problem.setObjective index term.coefficient)))
    rw [later]
    rfl

theorem objective_ofReader (reader : Lp.Reader) (line : Nat) (maximize : Bool)
    (body : List Located) :
    objective (ofReader reader) line maximize body
      = some ((reader.objective line maximize body).map ofReader) := by
  unfold objective Lp.Reader.objective
  show (if reader.hasObjective then _ else _) = _
  split
  · rfl
  cases Expression.read line body with
  | error failure => rfl
  | ok expression =>
    let marked : Lp.Reader := { reader with hasObjective := true }
    let turned : Lp.Reader := marked.change ({ · with maximize })
    obtain ⟨more, later, later'⟩ : ∃ more, _ ∧ _ :=
      Lp.Reader.entries_of_names (show turned.problem.columns.map (·.name)
        = marked.problem.columns.map (·.name) from rfl) expression.terms
    have set := setTerms_ofReader turned expression.terms
    rw [later'] at set
    have entries : Lp.Reader.entries { reader with hasObjective := true } expression.terms
        = ((marked.entries expression.terms).1, marked.withColumns more) := Prod.ext rfl later
    show (setTerms (ofReader turned) expression.terms).bind _
      = some (Except.ok (ofReader (reader.withObjective maximize expression)))
    rw [set, Lp.Reader.withObjective, entries]
    rfl

theorem declare_ofReader (reader : Lp.Reader) (declared : Section) (name : String) :
    declare (ofReader reader) declared name = some (ofReader (reader.declare declared name)) := by
  have has := Lp.Reader.column_has reader name
  rw [declare, column_ofReader]
  dsimp only
  unfold Lp.Reader.declare
  dsimp only
  cases declared with
  | integer =>
    rw [show setInteger (ofReader _).arrays _ _ = _ from setInteger_ofProblem has true]
    exact withArrays_modifyColumn (by intro; rfl)
  | binary =>
    rw [show setBinary (ofReader _).arrays _ _ = _ from setBinary_ofProblem has true]
    exact withArrays_modifyColumn (by intro; rfl)
  | free =>
    rw [show item? (ofReader _).arrays.bounds _ = _ from item?_bounds has]
    dsimp only [bind, Option.bind]
    rw [show forceBounds (ofReader _).arrays _ _ _ = _ from forceBounds_ofProblem has _ _]
    exact withArrays_modifyColumn (by intro; rfl)

theorem declareAll_ofReader (reader : Lp.Reader) (declared : Section) (body : List Located) :
    declareAll (ofReader reader) declared body
      = some ((reader.declareAll declared body).map ofReader) := by
  fun_induction Lp.Reader.declareAll reader declared body with
  | case1 reader => rfl
  | case2 reader line rest hyp => exact hyp
  | case3 reader name line rest hyp =>
    rw [declareAll, declare_ofReader]
    exact hyp
  | case4 reader token line rest comma name =>
    cases token with
    | comma => exact (comma rfl).elim
    | name text => exact (name text rfl).elim
    | number | relation | plus | minus | colon | semicolon => rfl

/-- A change of one row. -/
theorem withArrays_modifyRow {index : Nat} {change : Row → Row} :
    withArrays (ofReader reader) (some (ofProblem (reader.problem.modifyRow index change)))
      = some (ofReader (reader.change (·.modifyRow index change))) :=
  withArrays_ofReader reader (·.modifyRow index change) rfl

theorem columns_appendRow (problem : Problem) (entries : List Entry) (relation : Relation)
    (rhs : Float) (deferOrder : Bool) :
    (problem.appendRow entries relation rhs deferOrder).columns = problem.columns := by
  rw [Problem.appendRow]
  split <;> rfl

theorem addRow_ofReader (sound : reader.Sound) (line : Nat) (label : Option String)
    {terms : List Term} (distinct : Distinct terms) (relation : Relation) (rhs : Float) :
    addRow (ofReader reader) line label terms relation rhs
      = some ((reader.addRow line label terms relation rhs).map ofReader) := by
  let grown := (reader.entries terms).2
  let sorted := sortEntries (reader.entries terms).1
  let added := grown.change (·.appendRow sorted relation rhs false)
  have grows := Lp.Reader.entries_grows reader terms
  have grownSound : grown.Sound := sound.grows grows
  have stored : added.problem.WellStored :=
    grownSound.stored.appendRow relation rhs false (Lp.Reader.fit_entries reader distinct).sort
  have count : added.problem.rowCount = reader.problem.rowCount + 1 := by
    rw [← grows.rowCount_eq]
    exact Problem.rowCount_appendRow grownSound.stored sorted relation rhs false
  have appended : withArrays (ofReader grown) (appendRow (ofReader grown).arrays
      (sorted.map (·.column)) (sorted.map (·.coefficient)) relation rhs false)
        = some (ofReader added) := by
    rw [show appendRow (ofReader grown).arrays _ _ _ _ _ = _ from
      appendRow_ofProblem grownSound.stored sorted relation rhs false]
    exact withArrays_ofReader grown (·.appendRow sorted relation rhs false)
      (congrArg (List.map _) (columns_appendRow ..))
  unfold addRow Lp.Reader.addRow
  rw [entries_ofReader, show (ofReader reader).labels = reader.labels from rfl]
  generalize (label.filter fun name => (reader.labels.lookup name).isSome) = taken
  cases taken with
  | some name => rfl
  | none =>
    dsimp only
    rw [show withArrays (ofReader (reader.entries terms).2) _ = _ from appended]
    dsimp only [bind, Option.bind]
    cases label with
    | none => rfl
    | some name =>
      have last := modifyRow_ofProblem stored ⟨Nat.le_add_left _ _, Nat.le_of_eq count.symm⟩
        ({ · with name := some name })
      dsimp only
      rw [show (ofReader reader).arrays.rowCount = reader.problem.rowCount from rfl]
      by_cases same : (name == "R" ++ toString (reader.problem.rowCount + 1)) = true
      · rw [if_pos same, if_pos same]
        rfl
      · rw [if_neg same, if_neg same,
          show modifyRow (ofReader added).arrays _ _ = _ from last, withArrays_modifyRow]
        rfl

theorem forceBounds_ofReader {index : Nat} (has : reader.problem.HasColumn index)
    (lower upper : Float) :
    withArrays (ofReader reader) (forceBounds (ofReader reader).arrays index lower upper)
      = some (ofReader (reader.change (·.forceBounds index lower upper))) := by
  rw [show forceBounds (ofReader reader).arrays index _ _ = _ from
    forceBounds_ofProblem has lower upper]
  exact withArrays_modifyColumn (by intro; rfl)

theorem bound_ofReader (reader : Lp.Reader) (line : Nat) (term : Term) (relation : Relation)
    (value : Float) :
    bound (ofReader reader) line term relation value
      = some ((reader.bound line term relation value).map ofReader) := by
  have has := Lp.Reader.column_has reader term.name
  unfold bound Lp.Reader.bound
  rw [column_ofReader]
  split
  · rfl
  · dsimp only
    rw [show item? (ofReader _).arrays.bounds _ = _ from item?_bounds has]
    dsimp only [bind, Option.bind]
    generalize (if term.coefficient < 0 then relation.flip else relation) = side
    cases side with
    | atMost | atLeast | equal =>
      dsimp only
      rw [forceBounds_ofReader has]
      rfl

theorem boundBoth_ofReader (reader : Lp.Reader) (line : Nat) (term : Term) (lower upper : Float) :
    boundBoth (ofReader reader) line term lower upper
      = some ((reader.boundBoth line term lower upper).map ofReader) := by
  have has := Lp.Reader.column_has reader term.name
  unfold boundBoth Lp.Reader.boundBoth
  rw [column_ofReader]
  split
  · rfl
  · dsimp only
    by_cases positive : 0 < term.coefficient
    · simp only [if_pos positive]
      rw [forceBounds_ofReader has]
      rfl
    · simp only [if_neg positive]
      rw [forceBounds_ofReader has]
      rfl

theorem setRange_ofReader (sound : reader.Sound) {index : Nat}
    (has : reader.problem.HasRow index) (range : Float) :
    withArrays (ofReader reader) (setRange (ofReader reader).arrays index range)
      = some (ofReader (reader.change fun problem =>
          (problem.setRange? index range).getD problem)) := by
  rw [show setRange (ofReader reader).arrays index range = _ from
    setRange_ofProblem sound.stored has range]
  refine withArrays_ofReader reader (fun problem => (problem.setRange? index range).getD problem) ?_
  rw [Problem.setRange?]
  cases (reader.problem.rowInfo index).setRange? range <;> rfl

theorem addRowBetween_ofReader (sound : reader.Sound) (line : Nat) (label : Option String)
    {terms : List Term} (distinct : Distinct terms) (lower upper : Float) :
    addRowBetween (ofReader reader) line label terms lower upper
      = some ((reader.addRowBetween line label terms lower upper).map ofReader) := by
  unfold addRowBetween Lp.Reader.addRowBetween
  split
  · exact addRow_ofReader sound line label distinct .atMost upper
  split
  · exact addRow_ofReader sound line label distinct .equal lower
  split
  · exact addRow_ofReader sound line label distinct .atLeast lower
  · rw [addRow_ofReader sound line label distinct]
    cases done : reader.addRow line label terms .atLeast lower with
    | error failure => rfl
    | ok added =>
      obtain ⟨sound, count⟩ := sound.addRow distinct done
      have last : added.problem.HasRow added.problem.rowCount :=
        ⟨count ▸ Nat.le_add_left _ _, Nat.le_refl _⟩
      have ranged := setRange_ofReader sound last (upper - lower)
      rw [count] at ranged
      dsimp only [bind, Option.bind, Except.bind, Except.map]
      rw [show (ofReader reader).arrays.rowCount + 1 = reader.problem.rowCount + 1 from rfl, ranged]
      unfold Lp.Reader.change
      dsimp only
      rw [count]
      rfl

/-- A row that gets the relation that it has stays. -/
theorem setRelation_self (problem : Problem) (index : Nat) :
    problem.setRelation index (problem.rowInfo index).relation = problem := by
  rw [Problem.setRelation, Problem.modifyRow_const]
  exact problem.modifyRow_self index

/-- A row that is made equal to a limit, one attribute after the other. -/
theorem setRange_infinity (problem : Problem) (index : Nat) (limit : Float) :
    ((((problem.setRelation index .equal).setRhs index limit).setRange? index infinity).getD
        ((problem.setRelation index .equal).setRhs index limit))
      = problem.modifyRow index fun row =>
        { row with relation := .equal, rhs := limit, range := none } := by
  have removed (row : Row) : (row.setRange? infinity).getD row = { row with range := none } := rfl
  rw [Problem.getD_setRange?, Problem.setRhs, Problem.setRelation, Problem.modifyRow_modifyRow,
    Problem.modifyRow_modifyRow]
  simp only [removed]
  rfl

theorem moveLimit_ofReader (sound : reader.Sound) (line : Nat) (name : String)
    (relation : Relation) (value : Float) :
    moveLimit (ofReader reader) line name relation value
      = some ((reader.moveLimit line name relation value).map ofReader) := by
  have same : (ofReader reader).findRow? name = reader.findRow? name := rfl
  unfold moveLimit Lp.Reader.moveLimit
  rw [same]
  cases found : reader.findRow? name with
  | none => rfl
  | some index =>
    have has := sound.findRow? found
    have read : item? (ofReader reader).arrays.rows index
        = some (reader.problem.rowInfo index) := item?_rows sound.stored has
    have modified (change : Row → Row) :
        modifyRow (ofReader reader).arrays index change
          = some (ofProblem (reader.problem.modifyRow index change)) :=
      modifyRow_ofProblem sound.stored has change
    -- A range that is set while the row keeps its relation.
    have kept (range : Float) :
        withArrays (ofReader reader) (setRange (ofReader reader).arrays index range)
          = some (ofReader (reader.change fun problem =>
            ((problem.setRelation index (reader.problem.rowInfo index).relation).setRange? index
              range).getD
                (problem.setRelation index (reader.problem.rowInfo index).relation))) := by
      rw [setRange_ofReader sound has]
      unfold Lp.Reader.change
      dsimp only
      rw [setRelation_self]
    dsimp only
    rw [read]
    dsimp only [bind, Option.bind]
    generalize clamp value = limit
    cases given : (reader.problem.rowInfo index).relation <;> cases relation <;> dsimp only <;>
      rw [given] at kept
    case atMost.atMost | atLeast.atLeast =>
      rw [setRhs, modified, withArrays_modifyRow]
      rfl
    case atMost.equal | atLeast.equal | equal.equal =>
      have stored := sound.stored.modifyRow index ({ · with relation := .equal })
      have set := setRange_ofProblem (stored.modifyRow index ({ · with rhs := limit })) has infinity
      have equalled := setRange_infinity reader.problem index limit
      rw [Problem.setRhs, Problem.setRelation] at equalled
      rw [modified]
      dsimp only
      rw [setRhs, modifyRow_ofProblem stored has]
      dsimp only
      rw [set, equalled, withArrays_modifyRow]
      rfl
    case atMost.atLeast | atLeast.atMost | equal.atMost =>
      split
      · rfl
      · rw [kept]
        rfl
    case equal.atLeast =>
      split
      · rfl
      · have stored := sound.stored.modifyRow index ({ · with relation := .atMost })
        have moved := withArrays_ofReader reader (fun problem =>
          ((problem.setRelation index .atMost).setRange? index
            ((reader.problem.rowInfo index).rhs - limit)).getD
              (problem.setRelation index .atMost)) (by
                rw [Problem.getD_setRange?_setRelation]
                rfl)
        rw [Problem.setRelation] at moved
        rw [modified]
        dsimp only
        rw [setRange_ofProblem stored has, moved]
        rfl

/-- **What an action does in the arrays is what it does.** -/
theorem act_ofReader (sound : reader.Sound) (line : Nat) {action : Action}
    (distinct : action.Distinct) :
    act (ofReader reader) line action = some ((reader.act line action).map ofReader) := by
  cases action with
  | objective maximize body => exact objective_ofReader reader line maximize body
  | declaration declared body =>
    unfold act Lp.Reader.act Lp.Reader.declaration
    dsimp only
    split
    · rfl
    · exact declareAll_ofReader reader declared body
  | bound term relation value => exact bound_ofReader reader line term relation value
  | boundBoth term lower upper => exact boundBoth_ofReader reader line term lower upper
  | addRow label terms relation rhs => exact addRow_ofReader sound line label distinct relation rhs
  | addRowBetween label terms lower upper =>
    exact addRowBetween_ofReader sound line label distinct lower upper
  | moveLimit name relation value => exact moveLimit_ofReader sound line name relation value

theorem statement_ofReader (sound : reader.Sound) (tokens : List Located) :
    statement (ofReader reader) tokens = some ((reader.statement tokens).map ofReader) := by
  cases tokens with
  | nil => rfl
  | cons first rest =>
    unfold statement Lp.Reader.statement
    dsimp only [bind, Except.bind]
    cases asks : (Statement.ofTokens (first :: rest)).action first.line with
    | error failure => rfl
    | ok action => exact act_ofReader sound first.line (Statement.action_distinct asks)

theorem statements_ofReader (sound : reader.Sound) (pending tokens : List Located) :
    statements (ofReader reader) pending tokens
      = some ((reader.statements pending tokens).map ofReader) := by
  fun_induction Lp.Reader.statements reader pending tokens with
  | case1 reader pending none =>
    rw [statements, none]
    rfl
  | case2 reader pending first rest some =>
    rw [statements, some]
    rfl
  | case3 reader pending line rest hyp =>
    rw [statements, statement_ofReader sound]
    cases done : reader.statement pending.reverse with
    | error failure => rfl
    | ok middle => exact hyp middle (sound.statement done)
  | case4 reader pending token rest other hyp =>
    rw [statements, hyp sound]
    exact other

end Reader

/-- **Reading a text stays inside the arrays**, and builds those of the problem that it describes. -/
theorem parse_eq (text : String) : parse text = some ((Lp.parse text).map ofProblem) := by
  have start : ({} : Reader) = Reader.ofReader {} := rfl
  unfold parse Lp.parse
  cases scan 1 text.toList with
  | error failure => rfl
  | ok tokens =>
    dsimp only
    rw [start, Reader.statements_ofReader Lp.Reader.sound_empty]
    dsimp only [Option.map_some, bind, Except.bind]
    cases Lp.Reader.statements {} [] tokens with
    | error failure => rfl
    | ok reader => rfl

/-! ### Writing -/

section Writing

variable {problem : Problem}

/-- The columns are those at the indices. -/
theorem map_column_columnIndices (problem : Problem) :
    problem.columnIndices.map problem.column = problem.columns := by
  refine List.ext_getElem ?_ fun place first second => ?_
  · rw [List.length_map, Problem.columnIndices, List.length_range']
    rfl
  · rw [List.getElem_map, Problem.column]
    simp only [Problem.columnIndices, List.getElem_range', Nat.one_mul, Nat.add_sub_cancel_left,
      List.getElem?_eq_getElem second, Option.getD_some]

theorem items_ofProblem (problem : Problem) :
    (ofProblem problem).items = problem.columnIndices.map fun index =>
      (index, (problem.column index).bounds, (problem.column index).integer) := by
  have bounds : (ofProblem problem).bounds
      = problem.columnIndices.map fun index => (problem.column index).bounds := by
    show problem.columns.map _ = _
    rw [← map_column_columnIndices, List.map_map]
    rfl
  have integers : (ofProblem problem).integers
      = problem.columnIndices.map fun index => (problem.column index).integer := by
    show problem.columns.map _ = _
    rw [← map_column_columnIndices, List.map_map]
    rfl
  have indices : List.range' 1 (ofProblem problem).columnCount = problem.columnIndices.map id := by
    rw [columnCount_ofProblem, List.map_id]
    rfl
  rw [items, bounds, integers, indices, List.zip_map', List.zip_map']
  rfl

theorem zipWith_mk_map (entries : List Entry) :
    List.zipWith Entry.mk (entries.map (·.column)) (entries.map (·.coefficient)) = entries := by
  rw [List.zipWith_map, List.zipWith_self]
  exact List.map_id entries

theorem writtenEntries_ofProblem (stored : problem.WellStored) {index : Nat}
    (has : problem.HasRow index) :
    writtenEntries (ofProblem problem) index = some (Lp.writtenEntries problem index) := by
  rw [writtenEntries, row_ofProblem stored has]
  dsimp only [bind, Option.bind]
  rw [zipWith_mk_map]
  rfl

theorem occurrences_ofProblem (stored : problem.WellStored) :
    occurrences (ofProblem problem) = some (Lp.occurrences problem) := by
  have rows : (List.range' 1 (ofProblem problem).rowCount).mapM (writtenEntries (ofProblem problem))
      = some (problem.rowIndices.map (Lp.writtenEntries problem)) :=
    mapM_eq_some_map fun index member =>
      writtenEntries_ofProblem stored (Problem.mem_rowIndices.mp member)
  rw [occurrences, rows, Lp.occurrences, Option.bind_eq_bind, Option.bind_some,
    List.flatMap_map, items_ofProblem, List.filter_map, List.map_map, List.filter_map,
    List.map_map]
  exact congrArg some (congrArg₂ (· ++ ·) (congrArg (_ ++ ·) (List.map_id _)) (List.map_id _))

theorem declaredColumns_ofProblem (stored : problem.WellStored) :
    declaredColumns (ofProblem problem) = some (Lp.declaredColumns problem) := by
  have inside : (Lp.occurrences problem).all (· ≤ problem.columnCount) = true :=
    List.all_eq_true.mpr fun index member =>
      decide_eq_true (hasColumn_of_mem_occurrences stored member).2
  have fits : Lp.declaredColumns problem ≤ (ofProblem problem).costs.length :=
    Nat.le_trans (declaredColumns_le problem) (Nat.le_of_eq (List.length_map _).symm)
  rw [declaredColumns, occurrences_ofProblem stored, columnCount_ofProblem, Option.bind_eq_bind,
    Option.bind_some]
  refine if_pos ?_
  rw [inside, Bool.true_and]
  exact decide_eq_true fits

theorem termTexts_ofProblem {entries : List Entry}
    (all : ∀ entry ∈ entries, problem.HasColumn entry.column) :
    termTexts (ofProblem problem) entries = some (Lp.termTexts problem entries) :=
  mapM_eq_some_map fun entry member => by
    rw [columnName_ofProblem (all entry member)]
    rfl

/-- The leading objective coefficients are those of the leading columns. -/
theorem take_objective {count : Nat} (le : count ≤ problem.columnCount) :
    problem.objective.take count
      = (List.range' 1 count).map fun index => (problem.column index).objective := by
  have front : problem.columnIndices.take count = List.range' 1 count := by
    have split : List.range' 1 count ++ List.range' (1 + count) (problem.columnCount - count)
        = List.range' 1 problem.columnCount := by
      rw [List.range'_append_1, Nat.add_sub_cancel' le]
    rw [Problem.columnIndices, ← split]
    exact List.take_left' List.length_range'
  rw [Problem.objective, ← map_column_columnIndices, List.map_map, ← List.map_take, front]
  rfl

theorem objectiveEntries_eq (problem : Problem) :
    List.zipWith Entry.mk (List.range' 1 (Lp.declaredColumns problem))
        (problem.objective.take (Lp.declaredColumns problem))
      = objectiveEntries problem := by
  rw [take_objective (declaredColumns_le problem), List.zipWith_map_right, List.zipWith_self]
  rfl

theorem objectiveText_ofProblem (stored : problem.WellStored) :
    objectiveText (ofProblem problem) = some (Lp.objectiveText problem) := by
  rw [objectiveText, declaredColumns_ofProblem stored, Option.bind_eq_bind, Option.bind_some]
  dsimp only
  rw [show (ofProblem problem).costs = problem.objective from rfl, objectiveEntries_eq,
    termTexts_ofProblem (fit_objectiveEntries problem).within]
  rfl

theorem rowText_ofProblem (stored : problem.WellStored) {index : Nat}
    (has : problem.HasRow index) :
    rowText (ofProblem problem) index = some (rowLines (problem.rowName index)
      (problem.rowInfo index) (Lp.termTexts problem (Lp.writtenEntries problem index))) := by
  have read : item? (ofProblem problem).rows index = some (problem.rowInfo index) :=
    item?_rows stored has
  rw [rowText, writtenEntries_ofProblem stored has, Option.bind_eq_bind, Option.bind_some,
    termTexts_ofProblem (fit_writtenEntries stored index).within, rowName_ofProblem stored has,
    read]
  rfl

theorem boundsText_ofProblem {index : Nat} (has : problem.HasColumn index) :
    boundsText (ofProblem problem) index (problem.column index).bounds
      = some (boundsLine (problem.columnName index) (problem.column index)) := by
  rw [boundsText, columnName_ofProblem has]
  rfl

/-- **Writing a problem stays inside its arrays.** -/
theorem render_ofProblem (stored : problem.WellStored) :
    render (ofProblem problem) = some (Lp.render problem) := by
  have rows : (List.range' 1 (ofProblem problem).rowCount).mapM (rowText (ofProblem problem)) = _ :=
    mapM_eq_some_map fun index (member : index ∈ problem.rowIndices) =>
      rowText_ofProblem stored (Problem.mem_rowIndices.mp member)
  have bounds := mapM_eq_some_map fun index (member : index ∈ problem.columnIndices) =>
    boundsText_ofProblem (Problem.mem_columnIndices.mp member)
  have integers := mapM_eq_some_map
    fun index (member : index ∈ problem.columnIndices.filter fun index =>
        (problem.column index).integer) =>
      columnName_ofProblem (Problem.mem_columnIndices.mp (List.mem_filter.mp member).1)
  rw [render, objectiveText_ofProblem stored, rows, items_ofProblem, List.filter_map, List.mapM_map,
    List.mapM_map]
  dsimp only [bind, Option.bind, Function.comp_def]
  rw [bounds]
  dsimp only
  rw [integers]
  rfl

end Writing

end Arrays

end LinearProgram
