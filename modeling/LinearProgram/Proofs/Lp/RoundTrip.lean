/-
**A problem that is written and read again.**

* `writtenNumbers`: the numbers that a text writes.
* `Transcribable`: a problem whose names, numbers and ranges survive being written.
* `Agrees`: two problems have the same dimensions, and the same at every row and column, zeros of
  either sign being one number.
* **`parse_render_agrees`**: the text of a transcribable problem is read as a problem that agrees
  with it.
-/

import LinearProgram.Proofs.Lp.Recovered
import LinearProgram.Proofs.Problem.Plain
import LinearProgram.Proofs.Ranges

namespace LinearProgram.Lp

open Decimal Problem

/-! ### What survives -/

/-- The numbers that a text writes, apart from the signs that it writes before them. -/
def writtenNumbers (problem : Problem) : List Float :=
  (objectiveEntries problem).map (·.coefficient.abs) ++ [problem.constant.abs]
    ++ problem.rowIndices.flatMap (fun index =>
      (writtenEntries problem index).map (·.coefficient.abs)
        ++ (problem.rowInfo index).rhs
          :: if (problem.rowInfo index).range.isSome then [farLimit (problem.rowInfo index)]
            else [])
    ++ (boundedColumns problem).flatMap fun index =>
      [(problem.column index).lower, (problem.column index).upper]

/-- **A range that survives**: its limit is finite, and its distance from the right-hand side is the
range again. -/
structure RangeKept (info : Row) (range : Float) : Prop where
  rhs : info.rhs.isFinite = true
  finite : range.isFinite = true
  low : -infiniteFrom < farLimit info
  high : farLimit info < infiniteFrom
  back : (match info.relation with
    | .atMost => info.rhs - (info.rhs - range) == range
    | _ => (info.rhs + range) - info.rhs == range) = true

instance (info : Row) (range : Float) : Decidable (RangeKept info range) :=
  decidable_of_iff (info.rhs.isFinite = true ∧ range.isFinite = true
      ∧ -infiniteFrom < farLimit info ∧ farLimit info < infiniteFrom ∧ _)
    ⟨fun ⟨rhs, finite, low, high, back⟩ => ⟨rhs, finite, low, high, back⟩,
      fun kept => ⟨kept.rhs, kept.finite, kept.low, kept.high, kept.back⟩⟩

/-- **A problem whose names, numbers and ranges survive being written.** The first two conditions
hold after every history, by `Origin.wellStored` and `rangesFit_of_history`. -/
structure Transcribable (problem : Problem) : Prop where
  stored : problem.WellStored
  rangesFit : problem.RangesFit
  name : ¬ ['*', '/'] <:+: problem.name.toList
  columnsDiffer : ColumnsDiffer problem
  columnNames : ∀ index ∈ problem.columnIndices, isName (problem.columnName index) = true
  rowsDiffer : (problem.rowIndices.map problem.rowName).Nodup
  rowNames : ∀ index ∈ problem.rowIndices, ∀ name ∈ (problem.rowInfo index).name,
    isRowName name = true
  objective : ∀ index ∈ problem.columnIndices, (problem.column index).objective.isFinite = true
  constant : problem.constant.isFinite = true
  coefficients : ∀ index ∈ problem.rowIndices, ∀ entry ∈ problem.row index,
    entry.coefficient.isFinite = true
  rhs : ∀ index ∈ problem.rowIndices, Bounded (problem.rowInfo index).rhs
  bounds : ∀ index ∈ problem.columnIndices,
    Bounded (problem.column index).lower ∧ Bounded (problem.column index).upper
  ranges : ∀ index ∈ problem.rowIndices, ∀ range ∈ (problem.rowInfo index).range,
    RangeKept (problem.rowInfo index) range
  recovered : ∀ value ∈ writtenNumbers problem, value.isFinite = true → Recovered value

/-- **The problems have the same dimensions, and the same at every row and column**, zeros of either
sign being one number. -/
structure Agrees (back given : Problem) : Prop where
  rowCount : back.rowCount = given.rowCount
  columnCount : back.columnCount = given.columnCount
  maximize : back.maximize = given.maximize
  constant : Same back.constant given.constant
  objective : ∀ column, given.HasColumn column →
    Same (back.column column).objective (given.column column).objective
  coefficient : ∀ row column, given.HasRow row → given.HasColumn column →
    Same (back.coefficient row column) (given.coefficient row column)
  relation : ∀ row, given.HasRow row → (back.rowInfo row).relation = (given.rowInfo row).relation
  rhs : ∀ row, given.HasRow row → Same (back.rowInfo row).rhs (given.rowInfo row).rhs
  hasRange : ∀ row, given.HasRow row →
    (back.rowInfo row).range.isSome = (given.rowInfo row).range.isSome
  range : ∀ row, given.HasRow row →
    Same (back.rowInfo row).shownRange (given.rowInfo row).shownRange
  rowBounds : ∀ row, given.HasRow row →
    Same (back.rowInfo row).bounds.1 (given.rowInfo row).bounds.1
      ∧ Same (back.rowInfo row).bounds.2 (given.rowInfo row).bounds.2
  bounds : ∀ column, given.HasColumn column →
    Same (back.column column).lower (given.column column).lower
      ∧ Same (back.column column).upper (given.column column).upper
  integer : ∀ column, given.HasColumn column →
    (back.column column).integer = (given.column column).integer
  rowName : ∀ row, given.HasRow row → back.rowName row = given.rowName row
  columnName : ∀ column, given.HasColumn column → back.columnName column = given.columnName column

/-! ### The numbers that a text writes -/

section Written

variable {problem : Problem}

theorem mem_writtenNumbers_objective {index : Nat} (low : 1 ≤ index)
    (listed : index ≤ declaredColumns problem) :
    (problem.column index).objective.abs ∈ writtenNumbers problem := by
  refine List.mem_append_left _ (List.mem_append_left _ (List.mem_append_left _ ?_))
  refine List.mem_map.mpr ⟨⟨index, (problem.column index).objective⟩, ?_, rfl⟩
  exact List.mem_map.mpr ⟨index, List.mem_range'_1.mpr ⟨low, by omega⟩, rfl⟩

theorem mem_writtenNumbers_constant : problem.constant.abs ∈ writtenNumbers problem :=
  List.mem_append_left _ (List.mem_append_left _
    (List.mem_append_right _ (List.mem_singleton_self _)))

theorem mem_writtenNumbers_entry {index column : Nat} (member : index ∈ problem.rowIndices)
    {value : Float} (written : ⟨column, value⟩ ∈ writtenEntries problem index) :
    value.abs ∈ writtenNumbers problem := by
  refine List.mem_append_left _ (List.mem_append_right _ ?_)
  exact List.mem_flatMap.mpr ⟨index, member, List.mem_append_left _
    (List.mem_map.mpr ⟨⟨column, value⟩, written, rfl⟩)⟩

theorem mem_writtenNumbers_rhs {index : Nat} (member : index ∈ problem.rowIndices) :
    (problem.rowInfo index).rhs ∈ writtenNumbers problem := by
  refine List.mem_append_left _ (List.mem_append_right _ ?_)
  exact List.mem_flatMap.mpr ⟨index, member, List.mem_append_right _ List.mem_cons_self⟩

theorem mem_writtenNumbers_far {index : Nat} (member : index ∈ problem.rowIndices)
    (ranged : (problem.rowInfo index).range.isSome) :
    farLimit (problem.rowInfo index) ∈ writtenNumbers problem := by
  refine List.mem_append_left _ (List.mem_append_right _ ?_)
  refine List.mem_flatMap.mpr ⟨index, member, List.mem_append_right _ (List.mem_cons_of_mem _ ?_)⟩
  rw [if_pos ranged]
  exact List.mem_singleton_self _

theorem mem_writtenNumbers_bounds {index : Nat} (bounded : index ∈ boundedColumns problem) :
    (problem.column index).lower ∈ writtenNumbers problem
      ∧ (problem.column index).upper ∈ writtenNumbers problem :=
  ⟨List.mem_append_right _ (List.mem_flatMap.mpr ⟨index, bounded, List.mem_cons_self⟩),
    List.mem_append_right _ (List.mem_flatMap.mpr
      ⟨index, bounded, List.mem_cons_of_mem _ (List.mem_singleton_self _)⟩)⟩

end Written

/-! ### Ranges -/

section Ranges

variable {info : Row} {range : Float}

theorem farLimit_eq (ranged : info.range = some range) :
    farLimit info = match info.relation with
      | .atMost => info.rhs - range
      | _ => info.rhs + range := by
  unfold farLimit Row.bounds
  cases relation : info.relation with
  | atMost | atLeast | equal =>
    dsimp only
    rw [ranged]
    rfl

theorem RangeKept.same_gap (kept : RangeKept info range) (ranged : info.range = some range) :
    Same (Progress.gap info (farLimit info)) range := by
  have back := kept.back
  rw [farLimit_eq ranged]
  unfold Progress.gap
  cases relation : info.relation with
  | atMost | atLeast | equal =>
    rw [relation] at back
    exact same_of_beq back

/-- Numbers in order whose difference is not below zero are the same. -/
theorem sub_eq_zero_of_lt {first second range : Float} (less : first < second)
    (same : Same (first - second) range) (notNegative : 0 ≤ range) : (range == 0) = true := by
  obtain ⟨-, number, le⟩ := le_iff.mp notNegative
  have low := units_nonpos (sign?_sub_of_lt less)
  have equal : units (parts (first - second)) = unitsOf range := unitsOf_congr same
  have zero : unitsOf 0 = 0 := rfl
  rw [beq_iff]
  exact ⟨number, rfl, by omega⟩

/-- **The range of a row leaves room** between its limit and the right-hand side. -/
theorem RangeKept.roomy (kept : RangeKept info range) (ranged : info.range = some range)
    (notNegative : 0 ≤ range) : Progress.Roomy info (farLimit info) := by
  have same := kept.same_gap ranged
  have far := farLimit_eq ranged
  -- Limits that cross would leave no range, and then they would be one number.
  have apart {value : Float} (less : unitsOf value < unitsOf info.rhs
      ∨ unitsOf info.rhs < unitsOf value) (zero : Same value info.rhs) : False := by
    have equal := unitsOf_congr zero
    omega
  have empty (zero : (range == 0) = true) : Same range 0 := .inr ⟨zero, by decide⟩
  unfold Progress.Roomy
  unfold Progress.gap at same
  cases relation : info.relation with
  | atMost =>
    rw [relation] at same far
    intro less
    have equal := same_sub (.refl info.rhs)
      (empty (sub_eq_zero_of_lt less same notNegative))
    rw [sub_zero, ← show farLimit info = info.rhs - range from far] at equal
    exact apart (.inr (lt_iff.mp less).2.2) equal
  | atLeast | equal =>
    rw [relation] at same far
    intro less
    have equal := same_add (.refl info.rhs)
      (empty (sub_eq_zero_of_lt less same notNegative))
    rw [← show farLimit info = info.rhs + range from far] at equal
    exact apart (.inl (lt_iff.mp less).2.2) (equal.trans (add_zero _))

end Ranges

/-- Two rows that compare alike, with the same right-hand side and the same range. -/
structure RowsAgree (back given : Row) : Prop where
  relation : back.relation = given.relation
  rhs : Same back.rhs given.rhs
  range : Option.Rel Same back.range given.range

namespace RowsAgree

variable {back given : Row} (agree : RowsAgree back given)

include agree

theorem isSome_range : back.range.isSome = given.range.isSome := by
  have ranges := agree.range
  generalize back.range = range at ranges
  generalize given.range = range' at ranges
  cases ranges with
  | some | none => rfl

theorem shownRange : Same back.shownRange given.shownRange := by
  have ranges := agree.range
  unfold Row.shownRange
  rw [agree.relation]
  generalize back.range = range at ranges
  generalize given.range = range' at ranges
  cases ranges with
  | some same => exact same
  | none => exact .refl _

theorem bounds : Same back.bounds.1 given.bounds.1 ∧ Same back.bounds.2 given.bounds.2 := by
  have rhs := agree.rhs
  have ranges := agree.range
  unfold Row.bounds
  rw [agree.relation]
  generalize back.range = range at ranges
  generalize given.range = range' at ranges
  cases ranges with
  | some same =>
    cases given.relation with
    | atMost => exact ⟨same_sub rhs same, rhs⟩
    | atLeast | equal => exact ⟨rhs, same_add rhs same⟩
  | none =>
    cases given.relation with
    | atMost => exact ⟨.refl (-infinity), rhs⟩
    | atLeast => exact ⟨rhs, .refl infinity⟩
    | equal => exact ⟨rhs, same_add rhs (.refl 0)⟩

end RowsAgree

/-! ### Coefficients that are written -/

theorem coefficient?_writtenEntries {problem : Problem} {index : Nat}
    (distinct : ((problem.row index).map (·.column)).Nodup) (column : Nat) :
    coefficient? (writtenEntries problem index) column
      = (coefficient? (problem.row index) column).filter (· != 0) := by
  have kept : ((writtenEntries problem index).map (·.column)).Nodup :=
    distinct.sublist (List.filter_sublist.map _)
  refine Option.ext fun value => ?_
  rw [coefficient?_eq_some_iff kept, Option.filter_eq_some_iff, coefficient?_eq_some_iff distinct]
  exact List.mem_filter

/-! ### Everything that is written can be read -/

theorem isNaN_of_bounded {value : Float} (bounded : Bounded value) : value.isNaN = false := by
  rcases bounded with infinite | ⟨low, -⟩
  · rcases eq_infinity_of_isInf infinite with rfl | rfl
    · decide
    · decide
  · exact (lt_iff.mp low).2.1

namespace Transcribable

variable {problem : Problem} (given : Transcribable problem) {index : Nat}

include given

theorem recovered_abs {value : Float} (finite : value.isFinite = true)
    (member : value.abs ∈ writtenNumbers problem) : Recovered value.abs :=
  given.recovered _ member ((isFinite_abs value).trans finite)

theorem same_rhs (member : index ∈ problem.rowIndices) :
    Same (rereadLimit (problem.rowInfo index).rhs) (problem.rowInfo index).rhs :=
  same_rereadLimit (given.rhs index member) (given.recovered _ (mem_writtenNumbers_rhs member))

theorem same_far (member : index ∈ problem.rowIndices) {range : Float}
    (ranged : (problem.rowInfo index).range = some range) :
    Same (rereadLimit (farLimit (problem.rowInfo index))) (farLimit (problem.rowInfo index)) := by
  have kept := given.ranges index member range ranged
  refine same_rereadLimit (.inr ⟨kept.low, kept.high⟩) (given.recovered _ ?_)
  exact mem_writtenNumbers_far member (Option.isSome_iff_exists.mpr ⟨range, ranged⟩)

theorem isRowName_rowName (member : index ∈ problem.rowIndices) :
    isRowName (problem.rowName index) = true := by
  have named := given.rowNames index member
  rw [rowName]
  cases name : (problem.rowInfo index).name with
  | none => exact isRowName_default index
  | some text => exact named text name

/-- A transcribable problem is printable. -/
theorem printable : Printable problem where
  name := given.name
  columnNames := given.columnNames
  rowNames := fun _ member => given.isRowName_rowName member
  objective := fun index member => isNaN_of_isFinite (given.objective index member)
  constant := isNaN_of_isFinite given.constant
  coefficients := fun index member entry written =>
    ⟨mem_columnIndices.mpr ((fit_writtenEntries given.stored index).within entry written),
      isNaN_of_isFinite (given.coefficients index member entry (List.mem_filter.mp written).1)⟩
  rhs := fun index member => isNaN_of_bounded (given.rhs index member)
  limits := by
    intro index member ranged
    obtain ⟨range, some⟩ := Option.isSome_iff_exists.mp ranged
    have kept := given.ranges index member range some
    have near := isNaN_of_bounded (given.rhs index member)
    have far : (farLimit (problem.rowInfo index)).isNaN = false := (lt_iff.mp kept.low).2.1
    unfold farLimit at far
    unfold Row.bounds at far ⊢
    cases relation : (problem.rowInfo index).relation with
    | atMost =>
      rw [relation] at far
      exact ⟨far, near⟩
    | atLeast | equal =>
      rw [relation] at far
      exact ⟨near, far⟩
  bounds := fun index member =>
    ⟨isNaN_of_bounded (given.bounds index member).1,
      isNaN_of_bounded (given.bounds index member).2⟩

/-- **A transcribable problem is legible.** -/
theorem legible : Legible problem where
  stored := given.stored
  printable := given.printable
  columnsDiffer := given.columnsDiffer
  labelsDiffer := given.rowsDiffer.sublist (List.filter_sublist.map _)
  roomy := by
    intro index member ranged
    obtain ⟨range, some⟩ := Option.isSome_iff_exists.mp ranged
    have roomy := (given.ranges index member range some).roomy some
      (given.rangesFit.rowInfo index range some)
    have near := given.same_rhs member
    have far := given.same_far member some
    have side : (rereadPlainRow problem index).relation = (problem.rowInfo index).relation := by
      rw [rereadPlainRow]
    have value : (rereadPlainRow problem index).rhs = rereadLimit (problem.rowInfo index).rhs := by
      rw [rereadPlainRow]
    unfold Progress.Roomy at roomy ⊢
    rw [side, value]
    cases relation : (problem.rowInfo index).relation with
    | atMost =>
      rw [relation] at roomy
      exact fun less => roomy ((lt_congr near far).mp less)
    | atLeast | equal =>
      rw [relation] at roomy
      exact fun less => roomy ((lt_congr far near).mp less)

/-! ### Columns that come back -/

theorem same_objective (has : problem.HasColumn index) :
    Same ((reread problem).column index).objective (problem.column index).objective := by
  have finite := given.objective index (mem_columnIndices.mpr has)
  rw [objective_reread given.stored has]
  split
  next listed =>
    rw [List.mem_range'_1] at listed
    exact same_rereadCoefficient (isNaN_of_isFinite finite)
      (given.recovered_abs finite (mem_writtenNumbers_objective has.1 (by omega)))
  next behind =>
    rw [List.mem_range'_1] at behind
    have low := has.1
    exact .zero (objective_eq_zero has (by omega))

/-- The bounds of a new column, changed by what is written about them. -/
theorem same_rereadBounds (has : problem.HasColumn index) (bounded : index ∈ boundedColumns problem)
    {fresh : Column} (lower : fresh.lower = 0) (upper : fresh.upper = infinity) :
    Same (rereadBounds problem index fresh).lower (problem.column index).lower
      ∧ Same (rereadBounds problem index fresh).upper (problem.column index).upper := by
  obtain ⟨within, within'⟩ := given.bounds index (mem_columnIndices.mpr has)
  obtain ⟨written, written'⟩ := mem_writtenNumbers_bounds bounded
  have low := same_rereadLimit within (given.recovered _ written)
  have high := same_rereadLimit within' (given.recovered _ written')
  unfold rereadBounds
  dsimp only
  split
  next equal =>
    dsimp only
    exact ⟨low, low.trans (same_of_beq equal)⟩
  split
  next infinite =>
    dsimp only
    rw [upper]
    exact ⟨low, (same_of_beq infinite).symm⟩
  split
  next zero =>
    dsimp only
    rw [lower]
    exact ⟨(same_of_beq zero).symm, high⟩
  next =>
    dsimp only
    exact ⟨low, high⟩

theorem same_bounds (has : problem.HasColumn index) :
    Same ((reread problem).column index).lower (problem.column index).lower
      ∧ Same ((reread problem).column index).upper (problem.column index).upper := by
  obtain ⟨fresh, lower, upper, same, same'⟩ := bounds_reread given.stored has
  rw [same, same']
  split
  next bounded => exact given.same_rereadBounds has bounded lower upper
  next other =>
    obtain ⟨zero, infinite⟩ := Bool.and_eq_true_iff.mp (hasDefaultBounds_of_notMem has other)
    rw [lower, upper]
    exact ⟨(same_of_beq zero).symm, (same_of_beq infinite).symm⟩

/-! ### Rows that come back -/

theorem same_coefficient (has : problem.HasRow index) (column : Nat) :
    Same ((reread problem).coefficient index column) (problem.coefficient index column) := by
  have fit := given.stored.row_fit index
  have coefficients (problem : Problem) :
      problem.coefficient index column = (coefficient? (problem.row index) column).getD 0 := rfl
  have distinct := (fit_rereadEntries (fit_writtenEntries given.stored index)).distinct
  have read : coefficient? (rereadEntries (writtenEntries problem index)) column
      = (coefficient? (writtenEntries problem index) column).map rereadCoefficient := by
    rw [rereadEntries, coefficient?, coefficient?, List.find?_map, Option.map_map, Option.map_map]
    rfl
  rw [coefficients, coefficients, row_reread has, coefficient?_sortEntries distinct, read,
    coefficient?_writtenEntries fit.distinct]
  cases stored : coefficient? (problem.row index) column with
  | none => exact .refl 0
  | some value =>
    have entry := (coefficient?_eq_some_iff fit.distinct).mp stored
    by_cases zero : (value == 0) = true
    · rw [Option.filter_some, bne, zero]
      exact .zero zero
    · have member := mem_rowIndices.mpr has
      have finite : value.isFinite = true :=
        given.coefficients index member ⟨column, value⟩ entry
      have nonzero : (value != 0) = true := by rw [bne, Bool.eq_false_iff.mpr zero, Bool.not_false]
      have written : ⟨column, value⟩ ∈ writtenEntries problem index :=
        List.mem_filter.mpr ⟨entry, nonzero⟩
      have listed : value.abs ∈ writtenNumbers problem := mem_writtenNumbers_entry member written
      rw [Option.filter_some, if_pos nonzero, Option.map_some, Option.getD_some, Option.getD_some]
      exact same_rereadCoefficient (isNaN_of_isFinite finite) (given.recovered_abs finite listed)

theorem same_range (member : index ∈ problem.rowIndices) :
    Option.Rel Same (rereadRow problem index).range (problem.rowInfo index).range := by
  unfold rereadRow
  cases ranged : (problem.rowInfo index).range with
  | none =>
    rw [Option.isSome_none, if_neg Bool.false_ne_true, rereadPlainRow]
    exact .none
  | some range =>
    have kept := given.ranges index member range ranged
    have near := given.same_rhs member
    have far := given.same_far member ranged
    -- The distance that is read is the range again.
    have same : Same (Progress.gap (rereadPlainRow problem index)
        (rereadLimit (farLimit (problem.rowInfo index)))) range := by
      refine Same.trans ?_ (kept.same_gap ranged)
      unfold Progress.gap
      rw [rereadPlainRow]
      dsimp only
      cases (problem.rowInfo index).relation with
      | atMost => exact same_sub near far
      | atLeast | equal => exact same_sub far near
    have number := (isNaN_congr same).trans (isNaN_of_isFinite kept.finite)
    have finite := (isInf_congr same).trans (isInf_of_isFinite kept.finite)
    have above := (le_congr (.refl 0) same).mpr (given.rangesFit.rowInfo index range ranged)
    rw [Option.isSome_some, if_pos rfl, Progress.limited, Row.setRange?, number, finite,
      if_neg Bool.false_ne_true, if_neg Bool.false_ne_true]
    exact .some ((same_abs above).trans same)

theorem rowsAgree (has : problem.HasRow index) :
    RowsAgree ((reread problem).rowInfo index) (problem.rowInfo index) := by
  have member := mem_rowIndices.mpr has
  rw [rowInfo_reread has]
  refine ⟨relation_rereadRow problem index, ?_, given.same_range member⟩
  rw [rhs_rereadRow]
  exact given.same_rhs member

/-- **What comes back agrees with what was written.** -/
theorem agrees : Agrees (reread problem) problem where
  rowCount := rowCount_reread problem
  columnCount := columnCount_reread given.stored
  maximize := rfl
  constant := same_rereadConstant (given.recovered_abs given.constant mem_writtenNumbers_constant)
  objective := fun _ has => given.same_objective has
  coefficient := fun _ column has _ => given.same_coefficient has column
  relation := fun _ has => (given.rowsAgree has).relation
  rhs := fun _ has => (given.rowsAgree has).rhs
  hasRange := fun _ has => (given.rowsAgree has).isSome_range
  range := fun _ has => (given.rowsAgree has).shownRange
  rowBounds := fun _ has => (given.rowsAgree has).bounds
  bounds := fun _ has => given.same_bounds has
  integer := fun _ has => integer_reread given.stored has
  rowName := fun _ has => rowName_reread has
  columnName := fun _ has => columnName_reread given.stored has

end Transcribable

/-- **The text of a transcribable problem is read as a problem that agrees with it.** -/
theorem parse_render_agrees {problem : Problem} (given : Transcribable problem) :
    ∃ back, parse (render problem) = .ok back ∧ Agrees back problem :=
  ⟨reread problem, parse_render given.legible, given.agrees⟩

/-- A problem with a range, an equality with one term, bounds of two forms and an integer column. -/
def plan : Problem where
  name := "plan"
  maximize := true
  constant := -1.5
  columns := [{ objective := 2, upper := 40, name := some "x" },
    { lower := -1, integer := true }, { lower := 0.5, upper := 0.5 }]
  rows := [{ relation := .atMost, rhs := 8, range := some 10, name := some "load" },
    { relation := .equal, rhs := 3 }]
  matrix := SparseRows.ofRows [[⟨1, 1⟩, ⟨2, -2.5⟩], [⟨2, 1⟩]]
  sortedUpTo := 2

theorem transcribable_plan : Transcribable plan where
  stored := by
    have laid : plan.matrix = SparseRows.ofRows [[⟨1, 1⟩, ⟨2, -2.5⟩], [⟨2, 1⟩]] := rfl
    refine .of_rows laid rfl (fun row member => ?_) (by decide) (by decide)
    rcases List.mem_cons.mp member with rfl | member
    · exact ⟨by decide, by decide⟩
    · rw [List.mem_singleton.mp member]
      exact ⟨by decide, by decide⟩
  rangesFit := by
    show ∀ row ∈ plan.rows, ∀ range ∈ row.range, 0 ≤ range
    decide +kernel
  name := by decide +kernel
  columnsDiffer := by
    show (plan.columnIndices.map plan.columnName).Nodup
    decide +kernel
  columnNames := by decide +kernel
  rowsDiffer := by decide +kernel
  rowNames := by decide +kernel
  objective := by decide +kernel
  constant := by decide +kernel
  coefficients := by decide +kernel
  rhs := by decide +kernel
  bounds := by decide +kernel
  ranges := by decide +kernel
  recovered := by decide +kernel

theorem parse_render_agrees_plan :
    Transcribable plan ∧ ∃ back, parse (render plan) = .ok back ∧ Agrees back plan :=
  ⟨transcribable_plan, parse_render_agrees transcribable_plan⟩

end LinearProgram.Lp
