/-
**Models that are saved and loaded again.**

A model that was made with given dimensions and given nothing but numbers can be loaded from the text
that it answers, as far as names allow: a reader knows the columns and the labelled rows by the names
that are written, and the name of the model stands in a comment.

* `Model.Built`: the models that come of calls which bring in numbers only.
* `Model.SameNames`: two models answer alike about dimensions and names.
* **`read_of_built`**: the text of such a model can be read, and gives a model with the same names.
-/

import LinearProgram.Model.Open
import LinearProgram.Proofs.Lp.Legible
import LinearProgram.Proofs.Model.Calm
import LinearProgram.Proofs.Text.Encoding
import LinearProgram.Solver.Fixed

namespace LinearProgram.Model

open Decimal Lp Problem

variable {World Engine : Type}

/-- **A model that was made with given dimensions**, and then called in any way that brings in
numbers only. -/
inductive Built (solver : Solver World Engine) : Model Engine → Prop
  | create {model : Model Engine} (rows columns : Nat) (world later : World)
    (made : create solver rows columns world = (.ok model, later)) : Built solver model
  | ask {model : Model Engine} (built : Built solver model) (query : Query) :
    Built solver (model.ask query).2
  | edit {model : Model Engine} (built : Built solver model) (change : Edit)
    (numbers : ∀ number ∈ change.numbers, number.isNaN = false) :
    Built solver (model.edit change).2
  | configure {model : Model Engine} (built : Built solver model) (setting : Setting) :
    Built solver (model.configure setting).2
  | begin {model : Model Engine} (built : Built solver model) (world : World) :
    Built solver (model.begin solver world).2.1
  | finish {model : Model Engine} (built : Built solver model) (attempt : Attempt Engine)
    (world : World) : Built solver (model.finish solver attempt world).2.1
  | dispose {model : Model Engine} (built : Built solver model) : Built solver model.dispose.2
  | release {model : Model Engine} (built : Built solver model) : Built solver model.release

/-- **The models answer alike about dimensions and names.** -/
structure SameNames (copy model : Model Engine) : Prop where
  rowCount : (copy.ask .rowCount).1 = (model.ask .rowCount).1
  columnCount : (copy.ask .columnCount).1 = (model.ask .columnCount).1
  rowName : ∀ index, (copy.ask (.rowName index)).1 = (model.ask (.rowName index)).1
  columnName : ∀ index, (copy.ask (.columnName index)).1 = (model.ask (.columnName index)).1

/-! ### What calls leave of the problem -/

/-- The problem of the model is stored well and can be written. -/
structure Savable (model : Model Engine) : Prop where
  stored : model.problem.WellStored
  writable : model.problem.Writable

namespace Savable

variable {model : Model Engine} (savable : model.Savable)

theorem create {solver : Solver World Engine} {rows columns : Nat} {world later : World}
    (made : Model.create solver rows columns world = (.ok model, later)) : model.Savable := by
  unfold Model.create at made
  split at made
  · cases made
  next problem given =>
    unfold start at made
    split at made
    · cases made
    next engine after created =>
      cases made
      have writable := Writable.empty.resize wellStored_empty rows columns
      rw [show ({} : Problem).resize? rows columns = some problem from given] at writable
      exact ⟨wellStored_empty.resize? given, writable⟩

include savable

/-- An operation that brings in numbers and names only. -/
theorem apply (operation : Operation) (fits : operation.Fits model.problem)
    (given : operation.Writable) : Savable { model with problem := operation.apply model.problem } :=
  ⟨savable.stored.apply fits, savable.writable.apply savable.stored fits given⟩

/-- An operation that brings in a name at most. -/
theorem applyName (operation : Operation) (fits : operation.Fits model.problem)
    (none : operation.numbers = []) (named : operation.NameFits) :
    Savable { model with problem := operation.apply model.problem } := by
  refine savable.apply operation fits ⟨fun number member => ?_, named⟩
  rw [none] at member
  exact (List.not_mem_nil member).elim

theorem normalize : model.normalize.Savable :=
  savable.applyName .normalize trivial rfl trivial

theorem ask (query : Query) : (model.ask query).2.Savable := by
  rcases asked : model.ask query with ⟨result, next⟩
  cases asking asked with
  | barred | answered => exact savable
  | ordered => exact savable.normalize

theorem edit (change : Edit) (numbers : ∀ number ∈ change.numbers, number.isNaN = false) :
    (model.edit change).2.Savable := by
  rcases edited : model.edit change with ⟨result, next⟩
  cases editing edited with
  | barred => exact savable
  | failed | declined => exact ⟨savable.stored, savable.writable⟩
  | accepted problem work _ applied =>
    have accepted := congrArg (·.1) applied
    exact ⟨Edit.wellStored_of_apply savable.stored accepted,
      Edit.writable_of_apply savable.stored savable.writable numbers accepted⟩

/-- A name is declined unless it is one. -/
theorem configure (setting : Setting) : (model.configure setting).2.Savable := by
  rcases configured : model.configure setting with ⟨result, next⟩
  cases configuring configured with
  | barred | rowModeSame | noRow | noRowName | noColumn | noColumnName => exact savable
  | rowModeOn | breakAtFirst | verbosity | timeout => exact ⟨savable.stored, savable.writable⟩
  | rowModeOff => exact Savable.normalize ⟨savable.stored, savable.writable⟩
  | name name => exact savable.applyName (.setName name) trivial rfl trivial
  | rowName row name _ has fit =>
    exact savable.applyName (.setRowName row name) (Edit.hasRow_of_checkRow has) rfl fit
  | columnName column name _ has fit =>
    exact savable.applyName (.setColumnName column name) (Edit.hasColumn_of_checkColumn has) rfl fit

theorem begin (solver : Solver World Engine) (world : World) :
    (model.begin solver world).2.1.Savable := by
  generalize same : model.begin solver world = outcome
  obtain ⟨result, next, later⟩ := outcome
  have ordered := savable.normalize
  cases beginning same with
  | barred | unequipped => exact savable
  | declined | begun => exact ⟨ordered.stored, ordered.writable⟩

theorem finish (solver : Solver World Engine) (attempt : Attempt Engine) (world : World) :
    (model.finish solver attempt world).2.1.Savable := by
  obtain ⟨-, same, -⟩ := finish_spec model solver attempt world
  exact ⟨same ▸ savable.stored, same ▸ savable.writable⟩

theorem dispose : model.dispose.2.Savable := by
  rcases ends : model.dispose with ⟨result, next⟩
  cases disposing ends with
  | already | busy => exact savable
  | ended => exact ⟨wellStored_empty, .empty⟩

theorem release : model.release.Savable := by
  generalize released : model.release = next
  cases releasing released with
  | already => exact savable
  | ended => exact ⟨savable.stored, savable.writable⟩

end Savable

/-- **Every built model is savable.** -/
theorem Built.savable {solver : Solver World Engine} {model : Model Engine}
    (built : Built solver model) : model.Savable := by
  induction built with
  | create rows columns world later made => exact .create made
  | ask built query savable => exact savable.ask query
  | edit built change numbers savable => exact savable.edit change numbers
  | configure built setting savable => exact savable.configure setting
  | begin built world savable => exact savable.begin _ world
  | finish built attempt world savable => exact savable.finish _ attempt world
  | dispose built savable => exact savable.dispose
  | release built savable => exact savable.release

/-! ### Loading what was saved -/

/-- The bytes of a text are read as the text. -/
theorem parseBytes_toUTF8 (text : String) : parseBytes text.toUTF8.toList = parse text := by
  rw [parseBytes, Text.decode_toUTF8]
  dsimp only
  rw [String.ofList_toList]

/-- Models that can be asked answer alike about what their problems have in common. -/
theorem sameNames {copy model : Model Engine} (active : copy.isDisposed = false)
    (active' : model.isDisposed = false)
    (rowCount : copy.problem.rowCount = model.problem.rowCount)
    (columnCount : copy.problem.columnCount = model.problem.columnCount)
    (rowName : ∀ index, model.problem.HasRow index →
      copy.problem.rowName index = model.problem.rowName index)
    (columnName : ∀ index, model.problem.HasColumn index →
      copy.problem.columnName index = model.problem.columnName index) : SameNames copy model := by
  constructor
  · rw [ask_of_active active rfl, ask_of_active active' rfl, Query.answer, Query.answer, rowCount]
  · rw [ask_of_active active rfl, ask_of_active active' rfl, Query.answer, Query.answer, columnCount]
  · intro index
    rw [ask_of_active active rfl, ask_of_active active' rfl, Query.answer, Query.answer, Query.ofRow,
      Query.ofRow, checkRow, checkRow, rowCount]
    split
    · rfl
    next has =>
      rw [rowName index (by rw [HasRow]; omega)]
  · intro index
    rw [ask_of_active active rfl, ask_of_active active' rfl, Query.answer, Query.answer, Query.ofColumn,
      Query.ofColumn, checkColumn, checkColumn, columnCount]
    split
    · rfl
    next has =>
      rw [columnName index (by rw [HasColumn]; omega)]

/-- **The text of a model can be read**, and gives a model with the same rows and columns under the
same names, if no two columns have the same name, no two rows are written with the same label, and
the name of the model does not close the comment that it stands in. -/
theorem read_of_built {solver : Solver World Engine} {model after : Model Engine}
    (built : Built solver model) {text : String}
    (asked : model.ask .text = (.ok (.text text), after))
    (name : ¬ ['*', '/'] <:+: model.problem.name.toList) (columnsDiffer : ColumnsDiffer model.problem)
    (labelsDiffer : (writtenLabels model.problem).Nodup) {world later : World} {engine : Engine}
    (equipped : solver.create world = (.ok engine, later)) (verbosity : Verbosity)
    (title : String) :
    ∃ copy, Model.read solver text.toUTF8.toList verbosity title world = (.ok copy, later)
      ∧ SameNames copy model := by
  obtain ⟨stored, writable⟩ := built.savable
  have active : model.isDisposed = false := by
    by_contra disposed
    rw [Model.ask, checkActive, Bool.not_eq_false _ |>.mp disposed] at asked
    cases asked
  have text_eq : text = render model.problem.normalize := by
    rw [Model.ask, checkActive, active] at asked
    cases asked
    rfl
  have legible : Legible model.problem.normalize := by
    refine legible_of_writable stored.normalize (writable.normalize stored) ?_
      (columnsDiffer_normalize stored columnsDiffer) ?_
    · rw [(reordered_normalize stored).name]
      exact name
    · rw [writtenLabels_normalize stored]
      exact labelsDiffer
  have parsed := parse_render legible
  refine ⟨{
    problem := { reread model.problem.normalize with name := title }
    options := { verbosity }
    engine := some engine }, ?_, ?_⟩
  · rw [Model.read, parseBytes_toUTF8, text_eq, parsed]
    dsimp only
    rw [start, equipped]
  · have rows := (alike_normalize stored).rowCount_eq
    have columns := (alike_normalize stored).columnCount_eq
    refine sameNames rfl active ((rowCount_reread _).trans rows)
      ((columnCount_reread stored.normalize).trans columns) ?_ ?_
    · intro index has
      exact (rowName_reread (by rwa [HasRow, rows])).trans (rowName_normalize stored index)
    · intro index has
      exact (columnName_reread stored.normalize (by rwa [HasColumn, columns])).trans
        (columnName_normalize stored index)

/-- A model with one row and two columns, some of them named. -/
def namedModel : Model FixedEngine :=
  let solver := fixedSolver .unsupported 0
  let blank : Model FixedEngine :=
    ((create solver 1 2 ()).1.toOption).getD { isDisposed := true }
  let filled := (blank.edit (.setRow 1 (.dense [2, 0.5]))).2
  let ranged := (filled.edit (.setRange 1 4)).2
  let titled := (ranged.configure (.name "diet")).2
  let labelled := (titled.configure (.rowName 1 "R2")).2
  (labelled.configure (.columnName 1 "x")).2

theorem built_namedModel : Built (fixedSolver .unsupported 0) namedModel := by
  have blank : Built (fixedSolver .unsupported 0)
      ((create (fixedSolver .unsupported 0) 1 2 ()).1.toOption.getD { isDisposed := true }) :=
    .create 1 2 () () rfl
  refine ((((blank.edit _ ?_).edit _ ?_).configure _).configure _).configure _
  · decide
  · decide

/-- The text of the model is loaded. -/
theorem read_of_built_namedModel : ∃ copy,
    Model.read (fixedSolver .unsupported 0)
        (render namedModel.problem.normalize).toUTF8.toList .neutral "copy" ()
      = (.ok copy, ()) ∧ SameNames copy namedModel :=
  read_of_built built_namedModel rfl (by decide +kernel)
    (show (namedModel.problem.columnIndices.map namedModel.problem.columnName).Nodup by
      decide +kernel)
    (by decide +kernel) rfl .neutral "copy"

end LinearProgram.Model
