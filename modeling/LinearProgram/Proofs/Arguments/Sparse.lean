/-
**When values with their indices are taken.**

Whether indices are distinct is told from a sorted copy, in which equal ones are neighbours. The copy
stands in the same buffer as the row itself, behind it, and what stands there was left by earlier calls.

* `FirstOutside`, `LeastRepeated`: the index that a failure names.
* `firstRepeated_mergeSort_eq_some_iff`: equal neighbours of the sorted copy, and repeated indices.
* `SparseFits`: what is required. `SparseFault`: the first requirement that is not met.
* `sparseEntries_eq_error_iff`: the cause of a failure.
* **`loadSparse_decides`**: what is taken, what is not, and why, on any work stack.
-/

import Mathlib.Data.List.Nodup
import LinearProgram.Proofs.Arguments.Load

namespace LinearProgram

/-! ### Repeated numbers -/

/-- The number occurs twice, and no smaller one does. -/
structure LeastRepeated (numbers : List Nat) (number : Nat) : Prop where
  repeated : 2 ≤ numbers.count number
  least : ∀ other, 2 ≤ numbers.count other → number ≤ other

theorem LeastRepeated.eq {numbers : List Nat} {first second : Nat}
    (one : LeastRepeated numbers first) (other : LeastRepeated numbers second) : first = second :=
  Nat.le_antisymm (one.least second other.repeated) (other.least first one.repeated)

theorem LeastRepeated.perm {first second : List Nat} {number : Nat} (same : first.Perm second)
    (least : LeastRepeated first number) : LeastRepeated second number :=
  ⟨same.count_eq number ▸ least.repeated, fun other twice =>
    least.least other (same.count_eq other ▸ twice)⟩

theorem not_nodup_of_leastRepeated {numbers : List Nat} {number : Nat}
    (least : LeastRepeated numbers number) : ¬numbers.Nodup := by
  intro distinct
  have once := List.nodup_iff_count_le_one.mp distinct number
  have twice := least.repeated
  omega

/-- The first equal neighbours of sorted numbers are the least number that occurs twice. -/
theorem leastRepeated_of_firstRepeated {numbers : List Nat} {number : Nat}
    (sorted : numbers.Pairwise (· ≤ ·)) (found : firstRepeated numbers = some number) :
    LeastRepeated numbers number := by
  fun_induction firstRepeated numbers with
  | case1 first rest =>
    cases found
    refine ⟨by simp, fun other twice => ?_⟩
    have member : other ∈ number :: number :: rest :=
      List.count_pos_iff.mp (Nat.lt_of_lt_of_le Nat.zero_lt_two twice)
    rcases List.mem_cons.mp member with rfl | member
    · exact Nat.le_refl _
    · exact (List.pairwise_cons.mp sorted).1 other member
  | case2 first second rest different hyp =>
    obtain ⟨bound, others⟩ := List.pairwise_cons.mp sorted
    obtain ⟨repeated, least⟩ := hyp others found
    refine ⟨Nat.le_trans repeated List.count_le_count_cons, fun other twice => ?_⟩
    -- The first number is smaller than its neighbour, so that it occurs once.
    by_cases here : other = first
    · subst here
      rw [List.count_cons_self] at twice
      have again : other ∈ second :: rest := List.count_pos_iff.mp (by omega)
      have smaller : other < second := Nat.lt_of_le_of_ne (bound second List.mem_cons_self) different
      rcases List.mem_cons.mp again with rfl | again
      · exact absurd smaller (Nat.lt_irrefl _)
      · exact absurd ((List.pairwise_cons.mp others).1 other again) (Nat.not_le.mpr smaller)
    · rw [List.count_cons_of_ne (Ne.symm here)] at twice
      exact least other twice
  | case3 => cases found

/-- **What a sorted copy tells**: the least number that occurs twice, if there is one. -/
theorem firstRepeated_mergeSort_eq_some_iff (numbers : List Nat) (number : Nat) :
    firstRepeated numbers.mergeSort = some number ↔ LeastRepeated numbers number := by
  have sound {found : Nat} (told : firstRepeated numbers.mergeSort = some found) :
      LeastRepeated numbers found :=
    (leastRepeated_of_firstRepeated (List.pairwise_mergeSort' (· ≤ ·) numbers) told).perm
      (List.mergeSort_perm numbers _)
  refine ⟨sound, fun least => ?_⟩
  cases told : firstRepeated numbers.mergeSort with
  | none =>
    have distinct := (firstRepeated_mergeSort_eq_none_iff numbers).mp told
    exact absurd distinct (not_nodup_of_leastRepeated least)
  | some found => rw [(sound told).eq least]

/-! ### What is required, and what is told -/

/-- An index of a dimension. -/
def Within (dimension index : Nat) : Prop :=
  1 ≤ index ∧ index ≤ dimension

instance (dimension index : Nat) : Decidable (Within dimension index) :=
  inferInstanceAs (Decidable (_ ∧ _))

/-- The first number of a list that is no index of the dimension. -/
def FirstOutside (dimension : Nat) (numbers : List Nat) (number : Nat) : Prop :=
  ¬Within dimension number ∧ ∃ before after, numbers = before ++ number :: after
    ∧ ∀ other ∈ before, Within dimension other

/-- **Values with indices that fit**: both are equally many, no more are counted than there are, and
those counted have distinct indices within the dimension. -/
structure SparseFits (count : Nat) (values : List Float) (indices : List Nat) (dimension : Nat) :
    Prop where
  lengths : values.length = indices.length
  enough : count ≤ values.length
  within : ∀ index ∈ indices.take count, Within dimension index
  distinct : (indices.take count).Nodup

/-- **The first requirement that is not met**, with what is told about it. -/
inductive SparseFault (count : Nat) (values : List Float) (indices : List Nat) (dimension : Nat) :
    ShapeFault → Prop
  | unequal (differ : values.length ≠ indices.length) :
    SparseFault count values indices dimension (.unequalLengths values.length indices.length)
  | short (lengths : values.length = indices.length) (less : values.length < count) :
    SparseFault count values indices dimension (.countTooLarge count values.length)
  | outside (lengths : values.length = indices.length) (enough : count ≤ values.length)
    (index : Nat) (first : FirstOutside dimension (indices.take count) index) :
    SparseFault count values indices dimension (.indexOutOfRange index dimension)
  | repeated (lengths : values.length = indices.length) (enough : count ≤ values.length)
    (within : ∀ index ∈ indices.take count, Within dimension index) (index : Nat)
    (least : LeastRepeated (indices.take count) index) :
    SparseFault count values indices dimension (.duplicateIndex index)

/-- What the check for indices looks for. -/
theorem not_within_iff (dimension index : Nat) :
    (index == 0 || decide (dimension < index)) = true ↔ ¬Within dimension index := by
  rw [Bool.or_eq_true, beq_iff_eq, decide_eq_true_eq, Within]
  omega

theorem find?_outside_iff (dimension : Nat) (numbers : List Nat) (number : Nat) :
    numbers.find? (fun index => index == 0 || dimension < index) = some number
      ↔ FirstOutside dimension numbers number := by
  rw [List.find?_eq_some_iff_append, not_within_iff, FirstOutside]
  simp only [Bool.not_eq_true', ← Bool.not_eq_true, not_within_iff, not_not]

theorem find?_inside_iff (dimension : Nat) (numbers : List Nat) :
    numbers.find? (fun index => index == 0 || dimension < index) = none
      ↔ ∀ index ∈ numbers, Within dimension index := by
  rw [List.find?_eq_none]
  exact forall₂_congr fun index _ => (not_congr (not_within_iff dimension index)).trans not_not

section Loading

variable (count : Nat) (values : List Float) (indices : List Nat) (dimension : Nat)

/-- **The requirements are looked at in their order.** -/
theorem sparseEntries_eq_error_iff (fault : ShapeFault) :
    sparseEntries count values indices dimension = .error fault
      ↔ SparseFault count values indices dimension fault := by
  constructor
  · intro failed
    unfold sparseEntries at failed
    split at failed
    next differ =>
      cases failed
      exact .unequal differ
    next same =>
      have lengths : values.length = indices.length := Decidable.not_not.mp same
      split at failed
      next less =>
        cases failed
        exact .short lengths less
      next enough =>
        split at failed
        next index found =>
          cases failed
          exact .outside lengths (Nat.not_lt.mp enough) index ((find?_outside_iff ..).mp found)
        next inside =>
          split at failed
          next index found =>
            cases failed
            exact .repeated lengths (Nat.not_lt.mp enough) ((find?_inside_iff ..).mp inside) index
              ((firstRepeated_mergeSort_eq_some_iff ..).mp found)
          next => cases failed
  · intro failed
    unfold sparseEntries
    cases failed with
    | unequal differ => rw [if_pos differ]
    | short lengths less => rw [if_neg (not_not.mpr lengths), if_pos less]
    | outside lengths enough index first =>
      rw [if_neg (not_not.mpr lengths), if_neg (Nat.not_lt.mpr enough),
        (find?_outside_iff ..).mpr first]
    | repeated lengths enough within index least =>
      rw [if_neg (not_not.mpr lengths), if_neg (Nat.not_lt.mpr enough),
        (find?_inside_iff ..).mpr within]
      dsimp only
      rw [(firstRepeated_mergeSort_eq_some_iff ..).mpr least]

theorem sparseFits_iff : SparseFits count values indices dimension
    ↔ sparseEntries count values indices dimension
      = .ok (List.zipWith Entry.mk (indices.take count) (values.take count)) := by
  rw [sparseEntries_eq_ok_iff]
  constructor
  · exact fun fits => ⟨fits.lengths, fits.enough, fits.within, fits.distinct, rfl⟩
  · exact fun ⟨lengths, enough, within, distinct, _⟩ => ⟨lengths, enough, within, distinct⟩

theorem map_coefficient_zipWith {columns : List Nat} {coefficients : List Float}
    (lengths : columns.length = coefficients.length) :
    (List.zipWith Entry.mk columns coefficients).map (·.coefficient) = coefficients := by
  induction columns generalizing coefficients with
  | nil => exact (List.eq_nil_of_length_eq_zero lengths.symm).symm
  | cons column rest hyp =>
    cases coefficients with
    | nil => cases lengths
    | cons coefficient others => exact congrArg (coefficient :: ·) (hyp (Nat.succ.inj lengths))

/-- **Values with indices are taken exactly if they fit**, on any work stack. What is taken are the
first of the indices and of the values, as they are and in their order; what stands behind them plays
no part. Otherwise the failure tells the first requirement that is not met: that of the lengths, that
of the count, the first index outside the dimension, or the least index that occurs twice. -/
theorem loadSparse_decides (stack : WorkStack) :
    (SparseFits count values indices dimension
        ↔ ∃ entries, (loadSparse stack count values indices dimension).1 = .ok entries)
      ∧ (∀ entries, (loadSparse stack count values indices dimension).1 = .ok entries →
        entries.map (·.column) = indices.take count
          ∧ entries.map (·.coefficient) = values.take count)
      ∧ (∀ (other : WorkStack) (values' : List Float) (indices' : List Nat),
        SparseFits count values indices dimension → values'.length = indices'.length →
        values'.take count = values.take count → indices'.take count = indices.take count →
        (loadSparse other count values' indices' dimension).1
          = (loadSparse stack count values indices dimension).1)
      ∧ ∀ fault, (loadSparse stack count values indices dimension).1 = .error fault
        ↔ SparseFault count values indices dimension fault := by
  rw [loadSparse_eq]
  refine ⟨⟨fun fits => ⟨_, (sparseFits_iff ..).mp fits⟩, ?_⟩, ?_, ?_, sparseEntries_eq_error_iff _ _ _ _⟩
  · rintro ⟨entries, taken⟩
    obtain ⟨lengths, enough, within, distinct, -⟩ := (sparseEntries_eq_ok_iff ..).mp taken
    exact ⟨lengths, enough, within, distinct⟩
  · intro entries taken
    obtain ⟨lengths, -, -, -, rfl⟩ := (sparseEntries_eq_ok_iff ..).mp taken
    have equal : (indices.take count).length = (values.take count).length := by
      rw [List.length_take, List.length_take, lengths]
    exact ⟨columns_zipWith equal, map_coefficient_zipWith equal⟩
  · intro other values' indices' fits lengths sameValues sameIndices
    have enough : count ≤ values'.length := by
      have counted := congrArg List.length sameValues
      rw [List.length_take, List.length_take, Nat.min_eq_left fits.enough] at counted
      omega
    have fits' : SparseFits count values' indices' dimension :=
      ⟨lengths, enough, sameIndices ▸ fits.within, sameIndices ▸ fits.distinct⟩
    rw [loadSparse_eq, (sparseFits_iff ..).mp fits, (sparseFits_iff ..).mp fits', sameValues,
      sameIndices]

end Loading

/-- A stack that was used, with a slot that is lent. -/
def usedStack : WorkStack where
  indices := [2, 2, 2]
  values := [0 / 0]
  indicesInUse := 1

/-- What stands behind the two that count is as wrong as it can be, and the same row is taken. Once
it counts, the least of the two indices that occur twice is told. -/
theorem loadSparse_decides_prefix :
    SparseFits 2 [5, 7, 0, 0, 0] [4, 2, 4, 2, 9] 4
      ∧ (loadSparse usedStack 2 [5, 7, 8] [4, 2, 0] 4).1
        = (loadSparse {} 2 [5, 7, 0, 0, 0] [4, 2, 4, 2, 9] 4).1
      ∧ (loadSparse usedStack 4 [5, 7, 0, 0, 0] [4, 2, 4, 2, 9] 4).1
        = .error (.duplicateIndex 2) := by
  have fits : SparseFits 2 [5, 7, 0, 0, 0] [4, 2, 4, 2, 9] 4 :=
    ⟨rfl, by decide, by decide, by decide⟩
  obtain ⟨-, -, same, -⟩ := loadSparse_decides 2 [5, 7, 0, 0, 0] [4, 2, 4, 2, 9] 4 {}
  obtain ⟨-, -, -, told⟩ := loadSparse_decides 4 [5, 7, 0, 0, 0] [4, 2, 4, 2, 9] 4 usedStack
  refine ⟨fits, same usedStack _ _ fits rfl rfl rfl, (told _).mpr ?_⟩
  refine .repeated rfl (by decide) (by decide) 2 ⟨by decide, fun other twice => ?_⟩
  have member : other ∈ [4, 2, 4, 2] := List.count_pos_iff.mp (Nat.lt_of_lt_of_le Nat.zero_lt_two twice)
  simp only [List.mem_cons, List.not_mem_nil, or_false] at member
  omega

end LinearProgram
