/-
**When appended rows are in order.**

A row is put in order when it is appended, unless that is deferred, but only if all rows before it are
known to be in order. Rows that a problem begins with or gets by a change of its dimensions are empty,
so they are in order, but not known to be.

* `Sorted`: every row is in order. `Operation.Prompt`: the operation stores no row out of order.
* `sorted_apply_iff`: one operation. `afterEach_iff_forEach_prompt`: a row of them.
* `Operation.Steady`: rows are added by appending only. `isNormalized_apply`: then they stay known.
* **`sorted_afterEach_iff`**: all problems of given dimensions, and what is done to them.
-/

import LinearProgram.Proofs.Problem.Order

namespace LinearProgram

open Problem

/-! ### Operations and the storage of coefficients -/

namespace Problem

/-- Every row is stored in order. -/
def Sorted (problem : Problem) : Prop :=
  ∀ row ∈ problem.matrix.rows, Increasing row

/-- The stored coefficients and what is known of their order. -/
def storage (problem : Problem) : SparseRows × Nat :=
  (problem.matrix, problem.sortedUpTo)

instance (problem : Problem) : Decidable problem.Sorted :=
  inferInstanceAs (Decidable (∀ row ∈ problem.matrix.rows, Increasing row))

theorem Sorted.congr {problem changed : Problem} (same : changed.storage = problem.storage)
    (ordered : problem.Sorted) : changed.Sorted := by
  have matrix : changed.matrix = problem.matrix := congrArg Prod.fst same
  unfold Sorted
  rw [matrix]
  exact ordered

theorem isNormalized_congr {problem changed : Problem} (same : changed.storage = problem.storage) :
    changed.isNormalized = problem.isNormalized := by
  have matrix : changed.matrix = problem.matrix := congrArg Prod.fst same
  have sortedUpTo : changed.sortedUpTo = problem.sortedUpTo := congrArg Prod.snd same
  rw [isNormalized, rowCount, matrix, sortedUpTo, isNormalized, rowCount]

theorem storage_foldl (set : Problem → Entry → Problem)
    (keeps : ∀ problem entry, (set problem entry).storage = problem.storage) (entries : List Entry)
    (problem : Problem) : (entries.foldl set problem).storage = problem.storage := by
  induction entries generalizing problem with
  | nil => rfl
  | cons entry rest hyp => exact (hyp (set problem entry)).trans (keeps problem entry)

theorem storage_getD_map {α : Type} {problem : Problem} (outcome : Option α) {change : α → Problem}
    (keeps : ∀ result, (change result).storage = problem.storage) :
    ((outcome.map change).getD problem).storage = problem.storage := by
  cases outcome with
  | none => rfl
  | some result => exact keeps result

end Problem

namespace Operation

variable {problem : Problem} {operation : Operation}

/-- Whether the operation is about coefficients or the number of rows. -/
def isStructural : Operation → Bool
  | resize .. | appendRow .. | setRow .. | setCoefficient .. | normalize => true
  | _ => false

/-- **Attributes of rows and columns** are stored elsewhere. -/
theorem storage_apply (other : operation.isStructural = false) :
    (operation.apply problem).storage = problem.storage := by
  cases operation with
  | resize | appendRow | setRow | setCoefficient | normalize => cases other
  | setObjectiveRow entries =>
    exact storage_foldl (fun problem entry => problem.setObjective entry.column entry.coefficient)
      (fun _ _ => rfl) entries _
  | setRhsVector entries =>
    exact storage_foldl (fun problem entry => problem.setRhs entry.column entry.coefficient)
      (fun _ _ => rfl) entries _
  | setRange | setBounds | setLower | setUpper => exact storage_getD_map _ fun _ => rfl
  | _ => rfl

/-! ### Rows that stay in order -/

/-- **The operation stores no row out of order.** An appended row is put in order if all rows before it
are known to be and the order is not deferred; otherwise it has to be given in order. -/
def Prompt (problem : Problem) : Operation → Prop
  | appendRow entries _ _ deferOrder =>
    (problem.isNormalized = true ∧ deferOrder = false) ∨ Increasing entries
  | _ => True

/-- An append that does not defer the order. -/
def Immediate : Operation → Prop
  | appendRow _ _ _ deferOrder => deferOrder = false
  | _ => True

end Operation

namespace Problem

variable {problem : Problem}

theorem sorted_iff {rows : List (List Entry)} (laid : problem.matrix = SparseRows.ofRows rows) :
    problem.Sorted ↔ ∀ row ∈ rows, Increasing row := by
  rw [Sorted, laid, SparseRows.rows_ofRows]

theorem sorted_appendRow_iff (stored : problem.WellStored) (ordered : problem.Sorted)
    {entries : List Entry} (fit : FitEntries problem.columnCount entries) (relation : Relation)
    (rhs : Float) (deferOrder : Bool) :
    (problem.appendRow entries relation rhs deferOrder).Sorted
      ↔ (problem.isNormalized = true ∧ deferOrder = false) ∨ Increasing entries := by
  obtain ⟨rows, laid, count, -, -, -⟩ := stored.exists_rows
  have before := (sorted_iff laid).mp ordered
  have known : (problem.sortedUpTo == rows.length && !deferOrder) = true
      ↔ problem.isNormalized = true ∧ deferOrder = false := by
    rw [isNormalized, count, Bool.and_eq_true, Bool.not_eq_true']
  rw [appendRow_eq laid, sorted_iff rfl, List.forall_mem_append, List.forall_mem_singleton]
  by_cases sorts : (problem.sortedUpTo == rows.length && !deferOrder) = true
  · rw [if_pos sorts]
    exact iff_of_true ⟨before, increasing_sortEntries fit.distinct⟩ (.inl (known.mp sorts))
  · rw [if_neg sorts]
    constructor
    · exact fun both => .inr both.2
    · rintro (both | increasing)
      · exact absurd (known.mpr both) sorts
      · exact ⟨before, increasing⟩

theorem Sorted.setRow (stored : problem.WellStored) (ordered : problem.Sorted) {index : Nat}
    {entries : List Entry} (has : problem.HasRow index)
    (fit : FitEntries problem.columnCount entries) : (problem.setRow index entries).Sorted := by
  obtain ⟨rows, laid, count, -, -, -⟩ := stored.exists_rows
  rw [setRow_eq laid (has.inside count)]
  refine (sorted_iff rfl).mpr fun row member => ?_
  rcases List.mem_or_eq_of_mem_set member with member | rfl
  · exact (sorted_iff laid).mp ordered row member
  · exact increasing_sortEntries fit.distinct

theorem Sorted.resize? (stored : problem.WellStored) (ordered : problem.Sorted)
    {resized : Problem} {rowCount columnCount : Nat}
    (fits : problem.resize? rowCount columnCount = some resized) : resized.Sorted := by
  obtain ⟨rows, laid, -, -, -, -⟩ := stored.exists_rows
  rw [resize?_eq laid (enough_of_resize? fits)] at fits
  obtain rfl := Option.some.inj fits
  refine (sorted_iff rfl).mpr fun row member => ?_
  rcases List.mem_append.mp member with member | member
  · obtain ⟨old, stood, rfl⟩ := List.mem_map.mp member
    exact ((sorted_iff laid).mp ordered old (List.mem_of_mem_take stood)).filter _
  · rw [List.eq_of_mem_replicate member]
    exact List.Pairwise.nil

/-- **One operation leaves all rows in order exactly if it stores none out of order.** -/
theorem sorted_apply_iff (stored : problem.WellStored) (ordered : problem.Sorted)
    {operation : Operation} (fits : operation.Fits problem) :
    (operation.apply problem).Sorted ↔ operation.Prompt problem := by
  cases structural : operation.isStructural with
  | false =>
    refine iff_of_true (ordered.congr (Operation.storage_apply structural)) ?_
    cases operation with
    | appendRow => cases structural
    | _ => trivial
  | true =>
    cases operation with
    | resize rows columns =>
      refine iff_of_true ?_ trivial
      show ((problem.resize? rows columns).getD problem).Sorted
      cases resized : problem.resize? rows columns with
      | none => exact ordered
      | some _ => exact Sorted.resize? stored ordered resized
    | appendRow entries relation rhs deferOrder =>
      exact sorted_appendRow_iff stored ordered fits relation rhs deferOrder
    | setRow row entries => exact iff_of_true (ordered.setRow stored fits.1 fits.2) trivial
    | setCoefficient row column value =>
      refine iff_of_true (ordered.setRow stored fits.1 ?_) trivial
      exact (stored.row_fit row).setCoefficient value fits.2.1 fits.2.2
    | normalize => exact iff_of_true (increasing_normalize stored) trivial
    | _ => cases structural

/-! ### Rows that are known to be in order -/

theorem isNormalized_iff {rows : List (List Entry)} (laid : problem.matrix = SparseRows.ofRows rows) :
    problem.isNormalized = true ↔ problem.sortedUpTo = rows.length := by
  rw [isNormalized, rowCount, laid, SparseRows.count_ofRows, beq_iff_eq]

theorem isNormalized_setRow (stored : problem.WellStored) {index : Nat} (has : problem.HasRow index)
    (entries : List Entry) : (problem.setRow index entries).isNormalized = problem.isNormalized := by
  obtain ⟨rows, laid, count, -, -, -⟩ := stored.exists_rows
  rw [Bool.eq_iff_iff, setRow_eq laid (has.inside count), isNormalized_iff laid, isNormalized_iff rfl,
    List.length_set]

end Problem

namespace Operation

/-- The operation adds no row but by appending it. -/
def Steady (problem : Problem) : Operation → Prop
  | resize rows _ => rows ≤ problem.rowCount
  | _ => True

end Operation

namespace Problem

/-- **Where rows are added by appending only**, and at once in order, all of them are known to be in
order. -/
theorem isNormalized_apply {problem : Problem} (stored : problem.WellStored)
    (known : problem.isNormalized = true) {operation : Operation} (fits : operation.Fits problem)
    (steady : operation.Steady problem) (immediate : operation.Immediate) :
    (operation.apply problem).isNormalized = true := by
  cases structural : operation.isStructural with
  | false => rw [isNormalized_congr (Operation.storage_apply structural), known]
  | true =>
    obtain ⟨rows, laid, count, -, -, -⟩ := stored.exists_rows
    have all := (isNormalized_iff laid).mp known
    cases operation with
    | resize rowCount columnCount =>
      show ((problem.resize? rowCount columnCount).getD problem).isNormalized = true
      cases resized : problem.resize? rowCount columnCount with
      | none => exact known
      | some next =>
        rw [resize?_eq laid (enough_of_resize? resized)] at resized
        obtain rfl := Option.some.inj resized
        have fewer : rowCount ≤ rows.length := count.symm ▸ steady
        refine (isNormalized_iff rfl).mpr ?_
        show min problem.sortedUpTo rowCount = _
        rw [List.length_append, List.length_map, List.length_take, List.length_replicate]
        omega
    | appendRow entries relation rhs deferOrder =>
      obtain rfl : deferOrder = false := immediate
      have sorts : (problem.sortedUpTo == rows.length && !false) = true := by
        rw [all, beq_self_eq_true]
        rfl
      show (problem.appendRow entries relation rhs false).isNormalized = true
      rw [appendRow_eq laid]
      refine (isNormalized_iff rfl).mpr ?_
      dsimp only
      rw [if_pos sorts, if_pos sorts, List.length_append, List.length_singleton]
    | setRow row entries => exact (isNormalized_setRow stored fits.1 entries).trans known
    | setCoefficient row column value => exact (isNormalized_setRow stored fits.1 _).trans known
    | normalize => exact isNormalized_normalize stored
    | _ => cases structural

end Problem

/-! ### Rows of operations -/

namespace Operation

variable {problem : Problem}

/-- What holds of the problem after each of a row of operations. -/
def AfterEach (holds : Problem → Prop) (problem : Problem) : List Operation → Prop
  | [] => True
  | operation :: rest =>
    holds (operation.apply problem) ∧ AfterEach holds (operation.apply problem) rest

instance decidableAfterEach (holds : Problem → Prop) [DecidablePred holds] :
    (problem : Problem) → (operations : List Operation) → Decidable (AfterEach holds problem operations)
  | _, [] => inferInstanceAs (Decidable True)
  | problem, operation :: rest =>
    let _ := decidableAfterEach holds (operation.apply problem) rest
    inferInstanceAs (Decidable (_ ∧ _))

/-- What holds of each of a row of operations, for the problem that the ones before it leave. -/
def ForEach (holds : Problem → Operation → Prop) (problem : Problem) : List Operation → Prop
  | [] => True
  | operation :: rest => holds problem operation ∧ ForEach holds (operation.apply problem) rest

theorem afterEach_iff_forEach_prompt (stored : problem.WellStored) (ordered : problem.Sorted)
    {operations : List Operation} (fits : FitAll problem operations) :
    AfterEach Sorted problem operations ↔ ForEach Prompt problem operations := by
  induction operations generalizing problem with
  | nil => exact Iff.rfl
  | cons operation rest hyp =>
    have first := sorted_apply_iff stored ordered fits.1
    constructor
    · rintro ⟨after, others⟩
      exact ⟨first.mp after, (hyp (stored.apply fits.1) after fits.2).mp others⟩
    · rintro ⟨prompt, others⟩
      have after := first.mpr prompt
      exact ⟨after, (hyp (stored.apply fits.1) after fits.2).mpr others⟩

/-- Each append meets a problem whose rows are known to be in order. -/
theorem forEach_prompt_of_steady (stored : problem.WellStored) (known : problem.isNormalized = true)
    {operations : List Operation} (fits : FitAll problem operations)
    (steady : ForEach Steady problem operations)
    (immediate : ∀ operation ∈ operations, operation.Immediate) :
    ForEach Prompt problem operations := by
  induction operations generalizing problem with
  | nil => trivial
  | cons operation rest hyp =>
    obtain ⟨first, others⟩ := List.forall_mem_cons.mp immediate
    refine ⟨?_, hyp (stored.apply fits.1) (isNormalized_apply stored known fits.1 steady.1 first)
      fits.2 steady.2 others⟩
    cases operation with
    | appendRow => exact .inl ⟨known, first⟩
    | _ => trivial

end Operation

namespace Problem

/-- The rows of new problems are empty, and known to be in order if there are none. -/
theorem sorted_ofSize? {rowCount columnCount : Nat} {start : Problem}
    (made : ofSize? rowCount columnCount = some start) :
    start.WellStored ∧ start.Sorted ∧ (start.isNormalized = true ↔ rowCount = 0) := by
  have none : ({} : Problem).Sorted := fun row member => (List.not_mem_nil member).elim
  refine ⟨wellStored_empty.resize? made, none.resize? wellStored_empty made, ?_⟩
  have laid : ({} : Problem).matrix = SparseRows.ofRows [] := rfl
  rw [ofSize?, resize?_eq laid (enough_of_resize? made)] at made
  obtain rfl := Option.some.inj made
  rw [isNormalized_iff rfl]
  dsimp only
  rw [Nat.zero_min, List.take_nil, List.map_nil, List.nil_append, List.length_replicate]
  exact eq_comm

open Operation

/-- **Appended rows are in order exactly as long as each append meets a problem whose rows are known
to be in order**, or is given a row in order, for a problem of any dimensions and whatever is done to it
as long as no append defers the order. The rows of a new problem are known to be in order only if there
are none. Then each append does its work as long as rows are added by appending only. -/
theorem sorted_afterEach_iff {rowCount columnCount : Nat} {start : Problem}
    (made : ofSize? rowCount columnCount = some start) {operations : List Operation}
    (fits : FitAll start operations)
    (immediate : ∀ operation ∈ operations, operation.Immediate) :
    (AfterEach Sorted start operations ↔ ForEach Prompt start operations)
      ∧ (start.isNormalized = true ↔ rowCount = 0)
      ∧ (rowCount = 0 → ForEach Steady start operations → AfterEach Sorted start operations) := by
  obtain ⟨stored, ordered, known⟩ := sorted_ofSize? made
  have each := afterEach_iff_forEach_prompt stored ordered fits
  refine ⟨each, known, fun empty steady => each.mpr ?_⟩
  exact forEach_prompt_of_steady stored (known.mpr empty) fits steady immediate

/-- A problem with two columns and no rows. -/
def rowless : Problem :=
  (ofSize? 0 2).getD {}

/-- Rows that are given out of order, behind a third column, and a change of the first of them. -/
def promptHistory : List Operation :=
  [.resize 0 3, .appendRow [⟨3, 1⟩, ⟨1, 2⟩] .atMost 4 false, .setCoefficient 1 2 5,
    .appendRow [⟨2, 1⟩, ⟨1, 3⟩] .atLeast 1 false]

theorem sorted_afterEach_prompt : ofSize? 0 2 = some rowless
    ∧ FitAll rowless promptHistory ∧ ForEach Steady rowless promptHistory
    ∧ AfterEach Sorted rowless promptHistory := by
  have made : ofSize? 0 2 = some rowless := rfl
  have fits : FitAll rowless promptHistory :=
    ⟨trivial, ⟨by decide, by decide⟩, ⟨⟨by decide, by decide⟩, by decide, by decide⟩,
      ⟨by decide, by decide⟩, trivial⟩
  have steady : ForEach Steady rowless promptHistory :=
    ⟨Nat.zero_le _, trivial, trivial, trivial, trivial⟩
  have immediate : ∀ operation ∈ promptHistory, operation.Immediate := by
    simp [promptHistory, Operation.Immediate]
  obtain ⟨-, -, orderly⟩ := sorted_afterEach_iff made fits immediate
  exact ⟨made, fits, steady, orderly rfl steady⟩

/-- A row that came with the dimensions is not known to be in order, so that one behind it is stored as
it is given. -/
example : (ofSize? 1 2).map (fun start => decide (AfterEach Sorted start
    [.appendRow [⟨2, 1⟩, ⟨1, 3⟩] .atMost 0 false])) = some false := by decide +kernel

end Problem

end LinearProgram
