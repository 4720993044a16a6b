/-
**Writing what was read is a fixed point.**

What a text describes is written, read and written again. The second text is the first one if no two
labels in it are the same and the twelve digits of a number tell enough about it: a number is written
again as it was, numbers that are written alike are equal where the writer asks whether they are, and
a range is finite and leads from one of its limits to the other.

* `Spans`: a range that is written again. `Steady`: all that is asked of a problem.
* `Orderly.legible`: then its text is read.
* `declaredColumns_reread`, `objectiveText_reread`, `rowsText_reread`, `boundsText_reread`,
  `integersText_reread`: the sections one by one.
* **`render_fixed_of_parse`**: then its text is read, and written again as it was.
-/

import LinearProgram.Proofs.Lp.Access
import LinearProgram.Proofs.Lp.Legible
import LinearProgram.Proofs.Lp.Orderly
import LinearProgram.Proofs.Lp.Reprint
import LinearProgram.Proofs.Lp.RoundTrip

namespace LinearProgram.Lp

open Decimal Problem

/-! ### What is written again -/

/-- The range of a row when it is read. -/
def rereadRange (info : Row) : Float :=
  (Progress.gap { info with rhs := rereadLimit info.rhs } (rereadLimit (farLimit info))).abs

/-- **A range that is written again**: it is finite when it is read, and leads from one limit to the
other. -/
structure Spans (info : Row) : Prop where
  finite : (rereadRange info).isFinite = true
  back : (match info.relation with
    | .atMost => rereadLimit info.rhs - rereadRange info
    | _ => rereadLimit info.rhs + rereadRange info) == rereadLimit (farLimit info)

instance (info : Row) : Decidable (Spans info) :=
  decidable_of_iff ((rereadRange info).isFinite = true ∧ _)
    ⟨fun ⟨finite, back⟩ => ⟨finite, back⟩, fun spans => ⟨spans.finite, spans.back⟩⟩

/-- **A problem that is written as what comes back is written.** -/
structure Steady (problem : Problem) : Prop where
  labels : (writtenLabels problem).Nodup
  numbers : ∀ value ∈ writtenNumbers problem, Lasting value
  objective : ∀ entry ∈ objectiveEntries problem, ToldApart entry.coefficient.abs 1
  coefficients : ∀ index ∈ problem.rowIndices, ∀ entry ∈ writtenEntries problem index,
    ToldApart entry.coefficient.abs 1
  rhs : ∀ index ∈ problem.rowIndices, Bounded (problem.rowInfo index).rhs
  ranges : ∀ index ∈ problem.rowIndices, (problem.rowInfo index).range.isSome →
    Bounded (farLimit (problem.rowInfo index)) ∧ Spans (problem.rowInfo index)
  bounds : ∀ index ∈ boundedColumns problem,
    Bounded (problem.column index).lower ∧ Bounded (problem.column index).upper
  crossing : ∀ index ∈ boundedColumns problem,
    ToldApart (problem.column index).lower (problem.column index).upper
  unbounded : ∀ index ∈ boundedColumns problem,
    ToldApart (problem.column index).upper infinity

/-! ### What is written is read -/

section Reading

variable {problem : Problem} {index : Nat}

theorem Steady.isNaN_objective (steady : Steady problem) (has : problem.HasColumn index) :
    (problem.column index).objective.isNaN = false := by
  by_cases listed : index ≤ declaredColumns problem
  · exact (steady.numbers _ (mem_writtenNumbers_objective has.1 listed)).isNaN_of_abs
  · exact (beq_iff.mp (objective_eq_zero has (Nat.lt_of_not_le listed))).1

theorem Steady.isNaN_bounds (steady : Steady problem) (has : problem.HasColumn index) :
    (problem.column index).lower.isNaN = false ∧ (problem.column index).upper.isNaN = false := by
  by_cases written : index ∈ boundedColumns problem
  · obtain ⟨lower, upper⟩ := steady.bounds index written
    exact ⟨isNaN_of_bounded lower, isNaN_of_bounded upper⟩
  · obtain ⟨zero, infinite⟩ :=
      Bool.and_eq_true_iff.mp (hasDefaultBounds_of_notMem has written)
    exact ⟨(beq_iff.mp zero).1, (beq_iff.mp infinite).1⟩

/-- The name of a row, if it has one. -/
theorem Orderly.rowName_stored (orderly : Orderly problem) (has : problem.HasRow index) :
    ∀ name ∈ (problem.rowInfo index).name,
      isRowName name = true ∧ name ≠ "R" ++ toString index := by
  have inside : index - 1 < problem.rows.length := by
    have := orderly.stored.rows_length_eq
    have := has.1
    have := has.2
    omega
  have found : problem.rows[index - 1]? = some (problem.rowInfo index) := by
    rw [rowInfo, List.getElem?_eq_getElem inside, Option.getD_some]
  have names := orderly.rowNames _ _ found
  rw [Nat.sub_add_cancel has.1] at names
  exact names

theorem Orderly.writable_rowInfo (orderly : Orderly problem) (steady : Steady problem)
    (has : problem.HasRow index) : (problem.rowInfo index).Writable where
  rhs := isNaN_of_bounded (steady.rhs index (mem_rowIndices.mpr has))
  name := fun name named => (orderly.rowName_stored has name named).1
  range := by
    unfold rowInfo
    cases found : problem.rows[index - 1]? with
    | none => nofun
    | some row => exact orderly.ranges row (List.mem_of_getElem? found)

/-- **The text of a steady problem can be read**, if the problem was read itself. -/
theorem Orderly.legible (orderly : Orderly problem) (steady : Steady problem) :
    Legible problem where
  stored := orderly.stored
  columnsDiffer := orderly.columnsDiffer
  labelsDiffer := steady.labels
  roomy := fun index member ranged =>
    roomy_of_writable (orderly.writable_rowInfo steady (mem_rowIndices.mp member)) ranged
  printable := {
    name := by
      rw [orderly.name]
      decide
    columnNames := orderly.columnNames
    rowNames := by
      intro index member
      rw [rowName]
      cases named : (problem.rowInfo index).name with
      | none => exact isRowName_default index
      | some text => exact (orderly.rowName_stored (mem_rowIndices.mp member) text named).1
    objective := fun index member => steady.isNaN_objective (mem_columnIndices.mp member)
    constant := (steady.numbers _ mem_writtenNumbers_constant).isNaN_of_abs
    coefficients := fun index member entry written =>
      ⟨mem_columnIndices.mpr ((fit_writtenEntries orderly.stored index).within entry written),
        (steady.numbers _ (mem_writtenNumbers_entry member written)).isNaN_of_abs⟩
    rhs := fun index member => isNaN_of_bounded (steady.rhs index member)
    limits := fun index member ranged =>
      isNaN_bounds (orderly.writable_rowInfo steady (mem_rowIndices.mp member)) ranged
    bounds := fun index member => steady.isNaN_bounds (mem_columnIndices.mp member) }

end Reading

/-! ### The objective -/

section Objective

variable {problem : Problem} {index : Nat} (orderly : Orderly problem) (steady : Steady problem)

include orderly steady

/-- A column has a coefficient in the objective when it comes back if it had one. -/
theorem objective_reread_eq_zero (has : problem.HasColumn index) :
    (((reread problem).column index).objective == 0) = ((problem.column index).objective == 0) := by
  rw [objective_reread orderly.stored has, Bool.eq_iff_iff]
  split
  next listed =>
    rw [List.mem_range'_1] at listed
    exact ⟨eq_zero_of_rereadCoefficient (steady.isNaN_objective has), fun zero => by
      rw [rereadCoefficient_of_zero zero]; rfl⟩
  next behind =>
    have low := has.1
    rw [List.mem_range'_1] at behind
    exact ⟨fun _ => objective_eq_zero has (by omega), fun _ => rfl⟩

theorem lastObjective_reread : lastObjective (reread problem) = lastObjective problem := by
  -- Only which coefficients are zero counts.
  have zeros (given : Problem) : lastObjective given
      = (((given.objective.map (· == 0)).reverse).dropWhile id).length := by
    rw [lastObjective, ← List.map_reverse, List.dropWhile_map, List.length_map]
    rfl
  have listed (given : Problem) : given.objective
      = given.columnIndices.map fun index => (given.column index).objective := by
    have all := Arrays.take_objective (Nat.le_refl given.columnCount)
    rw [List.take_of_length_le (by rw [objective, List.length_map]; rfl)] at all
    exact all
  rw [zeros, zeros, listed, listed, columnIndices_reread orderly.stored, List.map_map, List.map_map]
  congr 3
  exact List.map_congr_left fun index member =>
    objective_reread_eq_zero orderly steady (mem_columnIndices.mp member)

end Objective

/-! ### Rows -/

section Rows

variable {problem : Problem} {index : Nat} (orderly : Orderly problem) (steady : Steady problem)

theorem Orderly.increasing_row (orderly : Orderly problem) (index : Nat) :
    Increasing (problem.row index) := by
  have rows := orderly.stored.ordered
  rw [orderly.ordered, ← length_matrix_rows, List.take_length] at rows
  rw [row_of_rows orderly.stored.matrix_eq]
  cases found : problem.matrix.rows[index - 1]? with
  | none => exact List.Pairwise.nil
  | some row => exact rows row (List.mem_of_getElem? found)

include orderly steady

/-- **The entries of a row come back in their order**, and none of them vanishes. -/
theorem writtenEntries_reread (member : index ∈ problem.rowIndices) :
    writtenEntries (reread problem) index = rereadEntries (writtenEntries problem index) := by
  have written : Increasing (writtenEntries problem index) :=
    (orderly.increasing_row index).filter _
  have increasing : Increasing (rereadEntries (writtenEntries problem index)) := by
    rw [Increasing, columns_rereadEntries]
    exact written
  rw [writtenEntries, row_reread (mem_rowIndices.mp member), sortEntries_eq_self increasing]
  refine List.filter_eq_self.mpr fun entry listed => ?_
  obtain ⟨given, written, rfl⟩ := List.mem_map.mp listed
  have lasting := steady.numbers _ (mem_writtenNumbers_entry member written)
  have nonzero := (List.mem_filter.mp written).2
  rw [bne, Bool.not_eq_true'] at nonzero ⊢
  refine Bool.eq_false_iff.mpr fun zero => ?_
  exact Bool.eq_false_iff.mp nonzero (eq_zero_of_rereadCoefficient lasting.isNaN_of_abs zero)

/-- The terms of a row come back. -/
theorem termTexts_reread (member : index ∈ problem.rowIndices) :
    termTexts (reread problem) (writtenEntries (reread problem) index)
      = termTexts problem (writtenEntries problem index) := by
  rw [writtenEntries_reread orderly steady member, termTexts, termTexts, rereadEntries,
    List.map_map]
  refine List.map_congr_left fun entry written => ?_
  have has := (fit_writtenEntries orderly.stored index).within entry written
  have lasting := steady.numbers _ (mem_writtenNumbers_entry member written)
  show signedTerm ((reread problem).columnName entry.column) _ = _
  rw [columnName_reread orderly.stored has]
  exact signedTerm_reread _ lasting (steady.coefficients index member entry written)

omit orderly steady in
/-- The line of a range tells the limit that the right-hand side is not. -/
theorem rangeLine_of_isSome (name : String) {info : Row} (ranged : info.range.isSome = true) :
    rangeLine name info = name ++ ": "
      ++ (match info.relation with
        | .atMost => ">= "
        | _ => "<= ") ++ numberText (farLimit info) ++ ";\n" := by
  unfold rangeLine farLimit
  rw [if_pos ranged]
  cases info.relation with
  | atMost | atLeast | equal => simp only [String.append_assoc]

omit orderly steady in
/-- The range of a row that is read. -/
theorem range_reread {given : Float} (ranged : (problem.rowInfo index).range = some given)
    (spans : Spans (problem.rowInfo index)) :
    (rereadRow problem index).range = some (rereadRange (problem.rowInfo index)) := by
  have finite := spans.finite
  have gap : Progress.gap (rereadPlainRow problem index)
      (rereadLimit (farLimit (problem.rowInfo index)))
      = Progress.gap { problem.rowInfo index with rhs := rereadLimit (problem.rowInfo index).rhs }
        (rereadLimit (farLimit (problem.rowInfo index))) := by
    unfold Progress.gap
    rw [rereadPlainRow]
  rw [rereadRow, ranged, Option.isSome_some, if_pos rfl, Progress.limited, Row.setRange?, gap]
  rw [rereadRange] at finite ⊢
  have number := isNaN_of_isFinite finite
  have bounded := isInf_of_isFinite finite
  rw [isNaN_abs] at number
  rw [isInf_abs] at bounded
  rw [number, bounded, if_neg Bool.false_ne_true, if_neg Bool.false_ne_true]
  rfl

omit orderly in
/-- A row has a range when it comes back if it had one. -/
theorem isSome_range_reread (member : index ∈ problem.rowIndices) :
    (rereadRow problem index).range.isSome = (problem.rowInfo index).range.isSome := by
  cases ranged : (problem.rowInfo index).range with
  | none =>
    rw [rereadRow, ranged, Option.isSome_none, if_neg Bool.false_ne_true, rereadPlainRow]
    rfl
  | some given =>
    have spans := (steady.ranges index member (by rw [ranged]; rfl)).2
    rw [range_reread ranged spans]
    rfl

omit orderly in
/-- **The limit that a range adds comes back**: its text is what it was. -/
theorem rangeLine_reread (name : String) (member : index ∈ problem.rowIndices) :
    rangeLine name (rereadRow problem index) = rangeLine name (problem.rowInfo index) := by
  have same := isSome_range_reread steady member
  cases ranged : (problem.rowInfo index).range with
  | none =>
    rw [ranged, Option.isSome_none] at same
    rw [rangeLine, rangeLine, same, ranged, Option.isSome_none, if_neg Bool.false_ne_true,
      if_neg Bool.false_ne_true]
  | some given =>
    have some : (problem.rowInfo index).range.isSome = true := by rw [ranged]; rfl
    obtain ⟨bounded, spans⟩ := steady.ranges index member some
    have lasting := steady.numbers _ (mem_writtenNumbers_far member some)
    have far := farLimit_eq (range_reread ranged spans)
    rw [relation_rereadRow, rhs_rereadRow] at far
    have back : (farLimit (rereadRow problem index)
        == rereadLimit (farLimit (problem.rowInfo index))) = true := by
      rw [far]
      exact spans.back
    rw [rangeLine_of_isSome name some, rangeLine_of_isSome name (same.trans some),
      relation_rereadRow, numberText_congr (same_of_beq back),
      numberText_rereadLimit lasting bounded]

/-- **A row comes back with its name** if it was written with it. -/
theorem isLabelled_reread (member : index ∈ problem.rowIndices) :
    isLabelled (rereadRow problem index) (writtenEntries problem index).length
      = isLabelled (problem.rowInfo index) (writtenEntries problem index).length := by
  have range := isSome_range_reread steady member
  have stored := orderly.rowName_stored (mem_rowIndices.mp member)
  rw [isLabelled, name_rereadRow, range, rowLabel, Progress.storedLabel, rowName, isLabelled]
  cases named : (problem.rowInfo index).name with
  | none =>
    -- A default name is not stored, whether it was written or not.
    rw [Option.isSome_none, Bool.false_or]
    split
    next => rw [Option.getD_none, Option.filter_some, beq_self_eq_true]; rfl
    next => rfl
  | some name =>
    have other := (stored name named).2
    rw [Option.isSome_some, Bool.true_or, Bool.true_or, if_pos rfl, Option.getD_some,
      Option.filter_some, beq_eq_false_iff_ne.mpr other]
    rfl

/-- **The lines of a row come back.** -/
theorem rowLines_reread (member : index ∈ problem.rowIndices) :
    rowLines ((reread problem).rowName index) ((reread problem).rowInfo index)
        (termTexts (reread problem) (writtenEntries (reread problem) index))
      = rowLines (problem.rowName index) (problem.rowInfo index)
        (termTexts problem (writtenEntries problem index)) := by
  have has := mem_rowIndices.mp member
  have rhs := numberText_rereadLimit (steady.numbers _ (mem_writtenNumbers_rhs member))
    (steady.rhs index member)
  have label := isLabelled_reread orderly steady member
  have count : (termTexts problem (writtenEntries problem index)).length
      = (writtenEntries problem index).length := List.length_map _
  rw [termTexts_reread orderly steady member, rowName_reread has, rowInfo_reread has, rowLines,
    rowLines, count, label, relation_rereadRow, rhs_rereadRow, rhs, rangeLine_reread steady _ member]

/-- **The rows come back.** -/
theorem rowsText_reread : rowsText (reread problem) = rowsText problem := by
  have indices : (reread problem).rowIndices = problem.rowIndices := by
    rw [rowIndices, rowIndices, rowCount_reread]
  rw [rowsText, rowsText, indices,
    List.map_congr_left fun index member => rowLines_reread orderly steady member]

end Rows

/-! ### Columns -/

section Columns

variable {problem : Problem} {index : Nat} (orderly : Orderly problem) (steady : Steady problem)

/-- The line of bounds depends on nothing but the bounds. -/
theorem boundsLine_congr (name : String) {first second : Column}
    (lower : first.lower = second.lower) (upper : first.upper = second.upper) :
    boundsLine name first = boundsLine name second := by
  unfold boundsLine Column.hasDefaultBounds
  rw [lower, upper]

/-- Numbers that are told apart are not read as equal ones. -/
theorem ToldApart.not_beq {first second first' second' : Float} (apart : ToldApart first second)
    (differ : ¬ (first == second) = true) (text : numberText first' = numberText first)
    (text' : numberText second' = numberText second) : ¬ (first' == second') = true :=
  fun same => differ (apart (by rw [← text, ← text', numberText_congr (same_of_beq same)]))

/-- What is read where a limit was written: a number with the same text, and zero only for zero. -/
structure ReadAs (given read : Float) : Prop where
  text : numberText read = numberText given
  zero : (read == 0) = true → (given == 0) = true
  number : read.isNaN = false

theorem readAs_rereadLimit {value : Float} (lasting : Lasting value) (bounded : Bounded value) :
    ReadAs value (rereadLimit value) :=
  ⟨numberText_rereadLimit lasting bounded, eq_zero_of_rereadLimit lasting.number,
    isNaN_rereadLimit lasting.number⟩

/-- The bounds are written as those of the given column, and they are written. -/
structure WrittenAs (given read : Column) : Prop where
  line : ∀ name, boundsLine name read = boundsLine name given
  changed : read.hasDefaultBounds = false

section Bounds

variable {given fresh : Column} {lower upper : Float} (low : ReadAs given.lower lower)
  (high : ReadAs given.upper upper) (crossing : ToldApart given.lower given.upper)
  (unbounded : ToldApart given.upper infinity) (changed : given.hasDefaultBounds = false)
  (zero : fresh.lower = 0) (infinite : fresh.upper = infinity)

include low in
theorem writtenAs_fixed (equal : (given.lower == given.upper) = true) :
    WrittenAs given { fresh with lower, upper := lower } := by
  have self : (lower == lower) = true := beq_iff.mpr ⟨low.number, low.number, rfl⟩
  refine ⟨fun name => ?_, hasDefaultBounds_of_beq self⟩
  unfold boundsLine
  dsimp only
  rw [if_pos self, if_pos equal, low.text]

include low crossing changed infinite in
theorem writtenAs_above (differ : ¬ (given.lower == given.upper) = true)
    (top : (given.upper == infinity) = true) : WrittenAs given { fresh with lower } := by
  have finite : ¬ (lower == infinity) = true :=
    crossing.not_beq differ low.text (numberText_congr (same_of_beq top).symm)
  have notZero : ¬ (lower == 0) = true := fun isZero => by
    rw [Column.hasDefaultBounds, low.zero isZero, top] at changed
    cases changed
  have notDefault : ({ fresh with lower } : Column).hasDefaultBounds = false :=
    Bool.and_eq_false_iff.mpr (.inl (Bool.eq_false_iff.mpr notZero))
  refine ⟨fun name => ?_, notDefault⟩
  unfold boundsLine
  rw [notDefault, changed]
  dsimp only
  rw [infinite, if_neg finite, if_neg differ, if_pos top, low.text]
  rfl

include high crossing unbounded changed zero in
theorem writtenAs_below (differ : ¬ (given.lower == given.upper) = true)
    (finite : ¬ (given.upper == infinity) = true) (isZero : (given.lower == 0) = true) :
    WrittenAs given { fresh with upper } := by
  have finite' : ¬ (upper == infinity) = true := unbounded.not_beq finite high.text rfl
  have apart : ¬ (0 == upper) = true :=
    crossing.not_beq differ (numberText_congr (same_of_beq isZero).symm) high.text
  have notDefault : ({ fresh with upper } : Column).hasDefaultBounds = false :=
    Bool.and_eq_false_iff.mpr (.inr (Bool.eq_false_iff.mpr finite'))
  refine ⟨fun name => ?_, notDefault⟩
  unfold boundsLine
  rw [notDefault, changed]
  dsimp only
  rw [zero, if_neg apart, if_neg differ, if_neg finite', if_neg finite, if_pos isZero, high.text]
  rfl

include low high crossing unbounded changed in
theorem writtenAs_between (differ : ¬ (given.lower == given.upper) = true)
    (finite : ¬ (given.upper == infinity) = true) (notZero : ¬ (given.lower == 0) = true) :
    WrittenAs given { fresh with lower, upper } := by
  have finite' : ¬ (upper == infinity) = true := unbounded.not_beq finite high.text rfl
  have apart : ¬ (lower == upper) = true := crossing.not_beq differ low.text high.text
  have notZero' : ¬ (lower == 0) = true := fun isZero => notZero (low.zero isZero)
  have notDefault : ({ fresh with lower, upper } : Column).hasDefaultBounds = false :=
    Bool.and_eq_false_iff.mpr (.inr (Bool.eq_false_iff.mpr finite'))
  refine ⟨fun name => ?_, notDefault⟩
  unfold boundsLine
  rw [notDefault, changed]
  dsimp only
  rw [if_neg apart, if_neg differ, if_neg finite', if_neg finite, if_neg notZero', if_neg notZero,
    low.text, high.text]

end Bounds

include orderly steady

omit orderly in
/-- **Bounds that are written come back**, and are written again as they were. -/
theorem writtenAs_rereadBounds (bounded : index ∈ boundedColumns problem) {fresh : Column}
    (zero : fresh.lower = 0) (infinite : fresh.upper = infinity) :
    WrittenAs (problem.column index) (rereadBounds problem index fresh) := by
  obtain ⟨within, within'⟩ := steady.bounds index bounded
  obtain ⟨written, written'⟩ := mem_writtenNumbers_bounds bounded
  have low := readAs_rereadLimit (steady.numbers _ written) within
  have high := readAs_rereadLimit (steady.numbers _ written') within'
  have crossing := steady.crossing index bounded
  have unbounded := steady.unbounded index bounded
  have changed : (problem.column index).hasDefaultBounds = false := by
    have other := (List.mem_filter.mp bounded).2
    rwa [Bool.not_eq_true'] at other
  unfold rereadBounds
  dsimp only
  split
  next equal => exact writtenAs_fixed low equal
  split
  next differ top => exact writtenAs_above low crossing changed infinite differ top
  split
  next differ finite isZero =>
    exact writtenAs_below high crossing unbounded changed zero differ finite isZero
  next differ finite notZero =>
    exact writtenAs_between low high crossing unbounded changed differ finite notZero

/-- Bounds come back, written or not. -/
theorem bounds_reread_again (has : problem.HasColumn index) :
    (∀ name, boundsLine name ((reread problem).column index)
        = boundsLine name (problem.column index))
      ∧ ((reread problem).column index).hasDefaultBounds
        = (problem.column index).hasDefaultBounds := by
  obtain ⟨fresh, zero, infinite, lower, upper⟩ := bounds_reread orderly.stored has
  by_cases bounded : index ∈ boundedColumns problem
  · rw [if_pos bounded] at lower upper
    have again := writtenAs_rereadBounds steady bounded zero infinite
    have other := (List.mem_filter.mp bounded).2
    rw [Bool.not_eq_true'] at other
    refine ⟨fun name => (boundsLine_congr name lower upper).trans (again.line name), ?_⟩
    rw [other, ← again.changed, Column.hasDefaultBounds, Column.hasDefaultBounds, lower, upper]
  · rw [if_neg bounded] at lower upper
    have default := hasDefaultBounds_of_notMem has bounded
    have default' : ((reread problem).column index).hasDefaultBounds = true := by
      rw [Column.hasDefaultBounds, lower, upper, zero, infinite]
      decide
    refine ⟨fun name => ?_, default'.trans default.symm⟩
    rw [(boundsLine_eq_empty_iff name _).mpr default, (boundsLine_eq_empty_iff name _).mpr default']

theorem boundedColumns_reread : boundedColumns (reread problem) = boundedColumns problem := by
  rw [boundedColumns, boundedColumns, columnIndices_reread orderly.stored]
  exact List.filter_congr fun index member => by
    rw [(bounds_reread_again orderly steady (mem_columnIndices.mp member)).2]

omit steady in
theorem integerColumns_reread : integerColumns (reread problem) = integerColumns problem := by
  rw [integerColumns, integerColumns, columnIndices_reread orderly.stored]
  exact List.filter_congr fun index member =>
    integer_reread orderly.stored (mem_columnIndices.mp member)

/-- **The bounds come back.** -/
theorem boundsText_reread : boundsText (reread problem) = boundsText problem := by
  rw [boundsText, boundsText, columnIndices_reread orderly.stored]
  refine congrArg _ (List.map_congr_left fun index member => ?_)
  have has := mem_columnIndices.mp member
  rw [(bounds_reread_again orderly steady has).1, columnName_reread orderly.stored has]

omit steady in
/-- **The integer columns come back.** -/
theorem integersText_reread : integersText (reread problem) = integersText problem := by
  have columns : integerColumns (reread problem) = integerColumns problem :=
    integerColumns_reread orderly
  rw [integerColumns, integerColumns] at columns
  rw [integersText, integersText, columns]
  refine congrArg _ (List.map_congr_left fun index member => ?_)
  exact columnName_reread orderly.stored (mem_columnIndices.mp (List.mem_filter.mp member).1)

/-! ### Everything -/

/-- **As many columns are listed.** -/
theorem declaredColumns_reread : declaredColumns (reread problem) = declaredColumns problem := by
  have mentions : rowMentions (reread problem) problem.rowCount
      = rowMentions problem problem.rowCount := by
    refine List.flatMap_congr fun index member => ?_
    rw [writtenEntries_reread orderly steady member, columns_rereadEntries]
  rw [declaredColumns, declaredColumns, occurrences_eq, occurrences_eq, rowCount_reread, mentions,
    boundedColumns_reread orderly steady, integerColumns_reread orderly,
    columnCount_reread orderly.stored, lastObjective_reread orderly steady]

/-- **The objective comes back.** -/
theorem objectiveText_reread : objectiveText (reread problem) = objectiveText problem := by
  have constant := steady.numbers _ mem_writtenNumbers_constant
  have terms : termTexts (reread problem) (objectiveEntries (reread problem))
      = termTexts problem (objectiveEntries problem) := by
    rw [objectiveEntries, declaredColumns_reread orderly steady, objectiveEntries, termTexts,
      termTexts, List.map_map, List.map_map]
    refine List.map_congr_left fun index listed => ?_
    have has := hasColumn_of_declared listed
    have bound := List.mem_range'_1.mp listed
    have lasting := steady.numbers _ (mem_writtenNumbers_objective bound.1 (by omega))
    have apart := steady.objective _ (List.mem_map.mpr ⟨index, listed, rfl⟩)
    show signedTerm _ ((reread problem).column index).objective = signedTerm _ _
    rw [objective_reread orderly.stored has, if_pos listed, columnName_reread orderly.stored has]
    exact signedTerm_reread _ lasting apart
  have maximize : (reread problem).maximize = problem.maximize := rfl
  have read : (reread problem).constant = rereadConstant problem.constant := rfl
  rw [objectiveText, objectiveText, terms, maximize, read]
  unfold objectiveSection
  rw [constantText_reread constant]

/-- **What comes back is written as the problem was.** -/
theorem render_reread : render (reread problem) = render problem := by
  have name : (reread problem).name = problem.name := orderly.name.symm
  rw [render, render, name, objectiveText_reread orderly steady, rowsText_reread orderly steady,
    boundsText_reread orderly steady, integersText_reread orderly]

end Columns

/-- **Writing what was read is a fixed point**: the text of a steady problem is read, and what it
describes is written as the same text. -/
theorem render_fixed_of_parse {text : String} {problem : Problem}
    (read : parse text = .ok problem) (steady : Steady problem) :
    ∃ back, parse (render problem) = .ok back ∧ render back = render problem :=
  have orderly := orderly_parse read
  ⟨reread problem, parse_render (orderly.legible steady), render_reread orderly steady⟩

/-- What comes back from the text of `plan`, in which the rows are in order as they are written. -/
def planBack : Problem :=
  { reread plan with
    matrix := SparseRows.ofRows [rereadEntries (writtenEntries plan 1),
      rereadEntries (writtenEntries plan 2)] }

theorem reread_plan : reread plan = planBack := by
  have ordered : (Progress.afterRows plan plan.rowCount).lists
      = [rereadEntries (writtenEntries plan 1), rereadEntries (writtenEntries plan 2)] := by
    show [sortEntries _, sortEntries _] = _
    rw [sortEntries_eq_self (by decide +kernel), sortEntries_eq_self (by decide +kernel)]
  have laid : (reread plan).matrix = SparseRows.ofRows _ := congrArg SparseRows.ofRows ordered
  rw [planBack, ← laid]

theorem steady_planBack : Steady planBack where
  labels := by decide +kernel
  numbers := by decide +kernel
  objective := by decide +kernel
  coefficients := by decide +kernel
  rhs := by decide +kernel
  ranges := by decide +kernel
  bounds := by decide +kernel
  crossing := by decide +kernel
  unbounded := by decide +kernel

theorem render_fixed_of_parse_plan : parse (render plan) = .ok planBack ∧ Steady planBack
    ∧ ∃ back, parse (render planBack) = .ok back ∧ render back = render planBack := by
  have read : parse (render plan) = .ok planBack := by
    rw [← reread_plan]
    exact parse_render transcribable_plan.legible
  exact ⟨read, steady_planBack, render_fixed_of_parse read steady_planBack⟩

end LinearProgram.Lp
