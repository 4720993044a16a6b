/-
**The storage of a problem over its whole history.**

A problem begins empty, with given dimensions, or as what a text describes, and goes through
operations whose arguments fit. Its arrays stay in step with one another all the way.

* `Problem.Origin`, `Arrays.Origin`: the beginnings. `Origin.wellStored`, `Origin.exists_problem`:
  all of them are stored well.
* `Arrays.Intact`: the storage invariant. `intact_ofProblem`: the arrays of a problem that is stored
  well have it.
* **`Arrays.storage_of_history`**: the invariant holds after every history, and no access on the way,
  in the reading of any text or in the writing of the outcome is outside an array.
-/

import LinearProgram.Proofs.Lp.Access

namespace LinearProgram

/-- How a problem begins. -/
inductive Problem.Origin : Problem → Prop
  | empty : Origin {}
  | ofSize {rowCount columnCount : Nat} {problem : Problem} :
      ofSize? rowCount columnCount = some problem → Origin problem
  | parsed {text : String} {problem : Problem} : Lp.parse text = .ok problem → Origin problem

theorem Problem.Origin.wellStored {start : Problem} (origin : start.Origin) :
    start.WellStored := by
  cases origin with
  | empty => exact wellStored_empty
  | ofSize given => exact wellStored_empty.resize? given
  | parsed read => exact Lp.wellStored_parse read

namespace Arrays

/-! ### The storage invariant -/

/-- **What holds of the arrays after every operation.** The arrays of rows are of one length, and so
are those of columns and those of coefficients. The spans tile the coefficients, the columns of a
row are distinct and exist, and they grow in the rows before the mark. -/
structure Intact (arrays : Arrays) : Prop where
  rows_length : arrays.rows.length = arrays.spans.length
  costs_length : arrays.costs.length = arrays.bounds.length
  integers_length : arrays.integers.length = arrays.bounds.length
  columnNames_length : arrays.columnNames.length = arrays.bounds.length
  coefficients_length : arrays.coefficients.length = arrays.indices.length
  tiles : Tiles 0 arrays.spans arrays.indices.length
  within : ∀ index ∈ arrays.indices, 1 ≤ index ∧ index ≤ arrays.bounds.length
  distinct : ∀ span ∈ arrays.spans, (stretch arrays.indices span).Nodup
  sortedUpTo_le : arrays.sortedUpTo ≤ arrays.spans.length
  ordered : ∀ span ∈ arrays.spans.take arrays.sortedUpTo,
    (stretch arrays.indices span).Pairwise (· < ·)

theorem intact_ofProblem {problem : Problem} (stored : problem.WellStored) :
    (ofProblem problem).Intact := by
  have columns : (ofProblem problem).bounds.length = problem.columnCount :=
    columnCount_ofProblem problem
  have row (span : Span) : stretch (ofProblem problem).indices span
      = (problem.matrix.slice span).map (·.column) := stretch_map _ _ _
  constructor
  case rows_length => exact stored.rows_length
  case costs_length | integers_length | columnNames_length =>
    rw [columns]
    exact List.length_map _
  case coefficients_length => exact (List.length_map _).trans (List.length_map _).symm
  case tiles =>
    show Tiles 0 problem.matrix.spans (problem.matrix.entries.map _).length
    rw [List.length_map]
    exact stored.tiles
  case within =>
    intro index member
    obtain ⟨entry, listed, rfl⟩ := List.mem_map.mp member
    have flat : problem.matrix.entries = problem.matrix.rows.flatten :=
      congrArg SparseRows.entries stored.matrix_eq
    rw [flat] at listed
    obtain ⟨row, here, listed⟩ := List.mem_flatten.mp listed
    rw [columns]
    exact (stored.fit row here).within entry listed
  case distinct =>
    intro span member
    rw [row]
    exact (stored.fit _ (List.mem_map_of_mem member)).distinct
  case sortedUpTo_le => exact stored.sortedUpTo_le
  case ordered =>
    intro span member
    rw [row]
    refine stored.ordered _ ?_
    rw [SparseRows.rows, ← List.map_take]
    exact List.mem_map_of_mem member

/-! ### Histories -/

/-- How arrays begin. -/
inductive Origin : Arrays → Prop
  | empty : Origin {}
  | ofSize {rowCount columnCount : Nat} {arrays : Arrays} :
      resize {} rowCount columnCount = some arrays → Origin arrays
  | parsed {text : String} {arrays : Arrays} : parse text = some (.ok arrays) → Origin arrays

/-- Arrays begin as those of a problem that begins. -/
theorem Origin.exists_problem {start : Arrays} (origin : start.Origin) :
    ∃ problem : Problem, problem.Origin ∧ start = ofProblem problem := by
  cases origin with
  | empty => exact ⟨{}, .empty, rfl⟩
  | @ofSize rowCount columnCount _ given =>
    have made := resize_ofProblem Problem.wellStored_empty rowCount columnCount
    obtain rfl : start = _ := Option.some.inj (given.symm.trans made)
    cases sized : ({} : Problem).resize? rowCount columnCount with
    | none => exact ⟨{}, .empty, rfl⟩
    | some problem => exact ⟨problem, .ofSize sized, rfl⟩
  | @parsed text _ read =>
    rw [parse_eq] at read
    cases known : Lp.parse text with
    | error failure =>
      rw [known] at read
      cases read
    | ok problem =>
      rw [known] at read
      cases read
      exact ⟨problem, .parsed known, rfl⟩

/-- **The storage invariant over whole histories.** The operations make of the arrays what they make
of the problem that the arrays are of, and leave them intact; no access is outside an array, neither
then nor in the writing of the outcome nor in the reading of any text. -/
theorem storage_of_history {start : Arrays} (origin : start.Origin)
    {operations : List Operation} (fits : Operation.FitAll start operations) :
    ∃ first last : Problem, first.Origin ∧ start = ofProblem first
      ∧ last = LinearProgram.Operation.applyAll first (operations.map (·.onProblem))
      ∧ applyAll start operations = some (ofProblem last)
      ∧ (ofProblem last).Intact
      ∧ render (ofProblem last) = some (Lp.render last)
      ∧ ∀ text, parse text = some ((Lp.parse text).map ofProblem) := by
  obtain ⟨first, begins, rfl⟩ := origin.exists_problem
  obtain ⟨done, fit⟩ := applyAll_ofProblem begins.wellStored fits
  have stored := begins.wellStored.applyAll fit
  exact ⟨first, _, begins, rfl, rfl, done, intact_ofProblem stored, render_ofProblem stored,
    parse_eq⟩

/-- A row that is appended out of order, changed and put in order. -/
def rowHistory : List Operation :=
  [.resize 1 2, .appendRow [2, 1] [1, 3] .atMost 4 true, .setCoefficient 2 2 5, .normalize]

theorem fitAll_rowHistory : Operation.FitAll {} rowHistory := by
  refine ⟨trivial, fun sized made => ?_⟩
  obtain rfl := Option.some.inj made
  refine ⟨⟨rfl, by decide, by decide⟩, fun longer appended => ?_⟩
  obtain rfl := Option.some.inj appended
  exact ⟨⟨by decide, by decide⟩, fun _ _ => ⟨trivial, fun _ _ => trivial⟩⟩

theorem storage_of_rowHistory : Operation.FitAll {} rowHistory
    ∧ ∃ first last : Problem, first.Origin ∧ ({} : Arrays) = ofProblem first
      ∧ last = LinearProgram.Operation.applyAll first (rowHistory.map (·.onProblem))
      ∧ applyAll {} rowHistory = some (ofProblem last)
      ∧ (ofProblem last).Intact
      ∧ render (ofProblem last) = some (Lp.render last)
      ∧ ∀ text, parse text = some ((Lp.parse text).map ofProblem) :=
  ⟨fitAll_rowHistory, storage_of_history .empty fitAll_rowHistory⟩

end Arrays

end LinearProgram
