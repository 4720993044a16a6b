/-
**What reading keeps of the state of a reader.**

* `Reader.Grows`: columns are added at the end and nothing else changes, as `column_grows` and
  `entries_grows` say. `column_has`, `columnName_column`: the column that a name stands for.
* `fit_entries`: terms with distinct names give entries with distinct columns.
* `Reader.Sound`: the problem read so far is stored well, and the labels are of rows that exist.
* **`Reader.Sound.act`**: an action preserves it. **`wellStored_parse`**: so does a text.
-/

import Mathlib.Data.List.Nodup
import LinearProgram.Proofs.Lp.Actions
import LinearProgram.Proofs.Lp.Terms
import LinearProgram.Proofs.Problem.Preserved

namespace LinearProgram.Lp

open Problem

namespace Reader

variable {reader after : Reader}

/-! ### Columns by name -/

/-- The reader after columns are added at the end. -/
def Grows (reader after : Reader) : Prop :=
  ∃ more : List Column, after = { reader with
    problem := { reader.problem with columns := reader.problem.columns ++ more } }

namespace Grows

theorem refl (reader : Reader) : Grows reader reader :=
  ⟨[], by rw [List.append_nil]⟩

theorem trans {middle : Reader} (first : Grows reader middle) (second : Grows middle after) :
    Grows reader after := by
  obtain ⟨more, rfl⟩ := first
  obtain ⟨others, rfl⟩ := second
  exact ⟨more ++ others, by simp only [List.append_assoc]⟩

theorem columnCount_le (grows : Grows reader after) :
    reader.problem.columnCount ≤ after.problem.columnCount := by
  obtain ⟨more, rfl⟩ := grows
  show reader.problem.columns.length ≤ (reader.problem.columns ++ more).length
  rw [List.length_append]
  exact Nat.le_add_right _ _

theorem hasColumn (grows : Grows reader after) {index : Nat}
    (has : reader.problem.HasColumn index) : after.problem.HasColumn index :=
  ⟨has.1, Nat.le_trans has.2 grows.columnCount_le⟩

theorem column_eq (grows : Grows reader after) {index : Nat}
    (has : reader.problem.HasColumn index) :
    after.problem.column index = reader.problem.column index := by
  obtain ⟨more, rfl⟩ := grows
  have inside : index - 1 < reader.problem.columns.length := by
    obtain ⟨low, high⟩ := has
    show index - 1 < reader.problem.columnCount
    omega
  show ((reader.problem.columns ++ more)[index - 1]?).getD default = _
  rw [List.getElem?_append_left inside]
  rfl

theorem columnName_eq (grows : Grows reader after) {index : Nat}
    (has : reader.problem.HasColumn index) :
    after.problem.columnName index = reader.problem.columnName index := by
  rw [columnName, grows.column_eq has, columnName]

theorem rowCount_eq (grows : Grows reader after) :
    after.problem.rowCount = reader.problem.rowCount := by
  obtain ⟨more, rfl⟩ := grows
  rfl

theorem labels_eq (grows : Grows reader after) : after.labels = reader.labels := by
  obtain ⟨more, rfl⟩ := grows
  rfl

theorem wellStored (grows : Grows reader after) (stored : reader.problem.WellStored) :
    after.problem.WellStored := by
  have le := grows.columnCount_le
  obtain ⟨more, rfl⟩ := grows
  exact stored.congr rfl rfl le rfl

end Grows

theorem column_grows (reader : Reader) (name : String) : Grows reader (reader.column name).2 := by
  rw [column]
  split
  · exact .refl reader
  · exact ⟨_, rfl⟩

theorem column_has (reader : Reader) (name : String) :
    (reader.column name).2.problem.HasColumn (reader.column name).1 := by
  rw [column]
  split
  next index found => exact mem_columnIndices.mp (List.mem_of_find?_eq_some found)
  next =>
    refine ⟨Nat.le_add_left _ _, Nat.le_of_eq ?_⟩
    show reader.problem.columnCount + 1 = (reader.problem.columns ++ [_]).length
    rw [List.length_append]
    rfl

/-- **The column that a name stands for has that name.** -/
theorem columnName_column (reader : Reader) (name : String) :
    (reader.column name).2.problem.columnName (reader.column name).1 = name := by
  rw [column]
  split
  next index found =>
    have same : (reader.problem.columnName index == name) = true :=
      List.find?_some (p := fun index => reader.problem.columnName index == name) found
    exact beq_iff_eq.mp same
  next =>
    have last (stored : Option String) : (reader.problem.addColumn stored).columnName
        (reader.problem.columnCount + 1)
        = stored.getD ("C" ++ toString (reader.problem.columnCount + 1)) := by
      rw [columnName, Problem.column, addColumn, columnCount, Nat.add_sub_cancel,
        List.getElem?_append_right (Nat.le_refl _), Nat.sub_self]
      rfl
    dsimp only
    rw [last]
    split
    next same => exact (beq_iff_eq.mp same).symm
    next => rfl

/-! ### Entries -/

theorem entries_grows (reader : Reader) (terms : List Term) :
    Grows reader (reader.entries terms).2 :=
  entries_keeps (fun before term _ grows => grows.trans (column_grows before term.name)) (.refl reader)

theorem entries_has (reader : Reader) (terms : List Term) :
    ∀ entry ∈ (reader.entries terms).1,
      (reader.entries terms).2.problem.HasColumn entry.column := by
  induction terms generalizing reader with
  | nil => exact fun _ member => (List.not_mem_nil member).elim
  | cons term rest hyp =>
    intro entry member
    rcases List.mem_cons.mp member with rfl | member
    · exact (entries_grows _ rest).hasColumn (column_has reader term.name)
    · exact hyp _ entry member

/-- The columns of the entries have the names of the terms. -/
theorem names_entries (reader : Reader) (terms : List Term) :
    ((reader.entries terms).1.map (·.column)).map (reader.entries terms).2.problem.columnName
      = terms.map (·.name) := by
  induction terms generalizing reader with
  | nil => rfl
  | cons term rest hyp =>
    refine congrArg₂ List.cons ?_ (hyp _)
    exact ((entries_grows _ rest).columnName_eq (column_has reader term.name)).trans
      (columnName_column reader term.name)

/-- **Terms with distinct names give entries with distinct columns.** -/
theorem fit_entries (reader : Reader) {terms : List Term} (distinct : Distinct terms) :
    FitEntries (reader.entries terms).2.problem.columnCount (reader.entries terms).1 := by
  refine ⟨?_, entries_has reader terms⟩
  rw [Distinct, ← names_entries reader terms] at distinct
  exact distinct.of_map

/-! ### Sound readers -/

/-- **What holds of a reader after every statement.** -/
structure Sound (reader : Reader) : Prop where
  stored : reader.problem.WellStored
  labels : ∀ label ∈ reader.labels, reader.problem.HasRow label.2

theorem sound_empty : ({} : Reader).Sound :=
  ⟨wellStored_empty, fun _ member => (List.not_mem_nil member).elim⟩

theorem Sound.grows (sound : reader.Sound) (grows : Grows reader after) : after.Sound where
  stored := grows.wellStored sound.stored
  labels := by
    rw [grows.labels_eq]
    intro label member
    obtain ⟨low, high⟩ := sound.labels label member
    exact ⟨low, grows.rowCount_eq ▸ high⟩

/-- A change of the problem that keeps its rows. -/
theorem Sound.change (sound : reader.Sound) {edit : Problem → Problem}
    (stored : (edit reader.problem).WellStored)
    (rows : reader.problem.rowCount ≤ (edit reader.problem).rowCount) :
    (reader.change edit).Sound :=
  ⟨stored, fun label member => ⟨(sound.labels label member).1,
    Nat.le_trans (sound.labels label member).2 rows⟩⟩

theorem Sound.column (sound : reader.Sound) (name : String) : (reader.column name).2.Sound :=
  sound.grows (column_grows reader name)

theorem Sound.findRow? (sound : reader.Sound) {name : String} {index : Nat}
    (found : reader.findRow? name = some index) : reader.problem.HasRow index := by
  unfold Reader.findRow? at found
  split at found
  next labelled =>
    obtain rfl := Option.some.inj found
    obtain ⟨before, after, all, -⟩ := List.lookup_eq_some_iff.mp labelled
    refine sound.labels (name, _) ?_
    rw [all]
    exact List.mem_append_right _ List.mem_cons_self
  next =>
    split at found
    next digits _ =>
      have inside := (Option.filter_eq_some_iff.mp found).2
      rw [Bool.and_eq_true, decide_eq_true_eq, decide_eq_true_eq] at inside
      exact inside
    next => cases found

/-! ### What actions preserve -/

theorem Sound.modifyRow (sound : reader.Sound) (index : Nat) (change : Row → Row) :
    (reader.change (·.modifyRow index change)).Sound :=
  sound.change (sound.stored.modifyRow index change) (Nat.le_refl _)

theorem Sound.objective (sound : reader.Sound) {line : Nat} {maximize : Bool}
    {body : List Located} (done : reader.objective line maximize body = .ok after) :
    after.Sound := by
  obtain ⟨expression, -, rfl⟩ := exists_of_objective done
  refine withObjective_keeps ?_ (fun _ term _ sound => sound.column term.name) ?_ sound maximize
  · exact fun _ _ _ _ sound => ⟨sound.stored.congr rfl rfl (Nat.le_refl _) rfl, sound.labels⟩
  · exact fun _ index _ sound => sound.change (sound.stored.modifyColumn index _) (Nat.le_refl _)

theorem Sound.declare (sound : reader.Sound) (declared : Section) (name : String) :
    (reader.declare declared name).Sound := by
  have grown := sound.column name
  unfold Reader.declare
  cases declared with
  | integer | binary | free =>
    refine grown.change ?_ (Nat.le_refl _)
    exact grown.stored.modifyColumn _ _

theorem Sound.declaration (sound : reader.Sound) {line : Nat} {declared : Section}
    {body : List Located} (done : reader.declaration line declared body = .ok after) :
    after.Sound :=
  declareAll_keeps (fun _ name sound => sound.declare declared name) sound
    (declareAll_of_declaration done)

/-- The row that is added is the last one. -/
theorem Sound.addRow (sound : reader.Sound) {line : Nat} {label : Option String}
    {terms : List Term} {relation : Relation} {rhs : Float} (distinct : Distinct terms)
    (done : reader.addRow line label terms relation rhs = .ok after) :
    after.Sound ∧ after.problem.rowCount = reader.problem.rowCount + 1 := by
  have grows := entries_grows reader terms
  have grown := sound.grows grows
  have fit := (fit_entries reader distinct).sort
  have stored := grown.stored.appendRow relation rhs false fit
  have count := rowCount_appendRow grown.stored (sortEntries (reader.entries terms).1) relation
    rhs false
  have added : ((reader.entries terms).2.change
      (·.appendRow (sortEntries (reader.entries terms).1) relation rhs false)).Sound :=
    grown.change stored (Nat.le_of_lt (Nat.lt_of_succ_le (Nat.le_of_eq count.symm)))
  rw [grows.rowCount_eq] at count
  have noted {result : Reader} (sound : result.Sound)
      (count : result.problem.rowCount = reader.problem.rowCount + 1) (name : String) :
      ({ result with labels := result.labels ++ [(name, reader.problem.rowCount + 1)] }
        : Reader).Sound := by
    refine ⟨sound.stored, fun label member => ?_⟩
    rcases List.mem_append.mp member with member | member
    · exact sound.labels label member
    · rw [List.mem_singleton.mp member]
      exact ⟨Nat.le_add_left _ _, Nat.le_of_eq count.symm⟩
  cases (rowNamed_of_addRow done).2 with
  | unnamed => exact ⟨added, count⟩
  | usual => exact ⟨noted added count _, count⟩
  | stored => exact ⟨noted (added.modifyRow _ _) count _, count⟩

theorem Sound.limits (sound : reader.Sound) (name : String) (lower upper : Float) :
    ((reader.column name).2.change
      (·.forceBounds (reader.column name).1 lower upper)).Sound :=
  (sound.column name).change ((sound.column name).stored.modifyColumn _ _) (Nat.le_refl _)

theorem Sound.addRowBetween (sound : reader.Sound) {line : Nat} {label : Option String}
    {terms : List Term} {lower upper : Float} (distinct : Distinct terms)
    (done : reader.addRowBetween line label terms lower upper = .ok after) : after.Sound := by
  obtain ⟨relation, rhs, middle, -, added, same⟩ := exists_of_addRowBetween done
  have sound := (sound.addRow distinct added).1
  rcases same with rfl | ⟨range, row, -, rfl⟩
  · exact sound
  · exact sound.modifyRow _ _

theorem Sound.moveLimit (sound : reader.Sound) {line : Nat} {name : String} {relation : Relation}
    {value : Float} (done : reader.moveLimit line name relation value = .ok after) :
    after.Sound := by
  obtain ⟨index, -, row, -, rfl⟩ := exists_row_of_moveLimit done
  exact sound.modifyRow _ _

/-- **An action preserves what holds of a reader.** -/
theorem Sound.act (sound : reader.Sound) {line : Nat} {action : Action}
    (distinct : action.Distinct) (done : reader.act line action = .ok after) : after.Sound := by
  cases action with
  | objective maximize body => exact sound.objective done
  | declaration declared body => exact sound.declaration done
  | bound term relation value =>
    obtain ⟨lower, upper, rfl⟩ := exists_of_bound done
    exact sound.limits term.name lower upper
  | boundBoth term =>
    obtain ⟨lower, upper, rfl⟩ := exists_of_boundBoth done
    exact sound.limits term.name lower upper
  | addRow label terms relation rhs => exact (sound.addRow distinct done).1
  | addRowBetween label terms lower upper => exact sound.addRowBetween distinct done
  | moveLimit name relation value => exact sound.moveLimit done

theorem Sound.statement (sound : reader.Sound) {tokens : List Located}
    (done : reader.statement tokens = .ok after) : after.Sound := by
  cases tokens with
  | nil =>
    cases done
    exact sound
  | cons first rest =>
    obtain ⟨action, asks, done⟩ := exists_of_bind_ok done
    exact sound.act (Statement.action_distinct asks) done

/-- **A row of statements preserves what holds of a reader.** -/
theorem Sound.statements (sound : reader.Sound) {pending tokens : List Located}
    (done : reader.statements pending tokens = .ok after) : after.Sound := by
  fun_induction Reader.statements reader pending tokens with
  | case1 =>
    cases done
    exact sound
  | case2 => cases done
  | case3 reader pending line rest hyp =>
    obtain ⟨middle, first, done⟩ := exists_of_bind_ok done
    exact hyp middle (sound.statement first) done
  | case4 reader pending token rest _ hyp => exact hyp sound done

end Reader

/-- **The problem that a text describes is stored well.** -/
theorem wellStored_parse {text : String} {problem : Problem} (read : parse text = .ok problem) :
    problem.WellStored := by
  obtain ⟨tokens, -, read⟩ := exists_of_bind_ok read
  obtain ⟨reader, done, read⟩ := exists_of_bind_ok read
  obtain rfl := Except.ok.inj read
  exact (Reader.sound_empty.statements done).stored

end LinearProgram.Lp
