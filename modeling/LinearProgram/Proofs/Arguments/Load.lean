/-
**What a row argument gives.**

Slots at the top of a work stack hold what was written to them last, whatever the stack held before.
So the entries of a row argument are those that the argument says.

* `readIndices_putIndices`, `readValues_putValues`: what is read back from slots.
* `loadDense_eq`, `loadSparse_eq`, `loadText_eq`: the entries of the three forms.
* `sparseEntries_eq_ok_iff`: when values with indices fit.
* **`load_eq`**: what an argument gives, whatever the work stack holds.
* **`fit_load`**: the entries of an argument have distinct indices within the dimension.
* **`coefficients_load`**: their coefficients are among the numbers that the argument gives.
-/

import Mathlib.Data.List.Sort
import LinearProgram.Arguments.RowArgument
import LinearProgram.Problem.Operation

namespace LinearProgram

/-! ### Buffers -/

section Buffers

variable {α : Type}

theorem length_grow [Inhabited α] (buffer : List α) (size : Nat) :
    size ≤ (grow buffer size).length := by
  rw [grow, List.length_append, List.length_replicate]
  omega

theorem length_overwrite (buffer : List α) {start : Nat} (items : List α)
    (inside : start + items.length ≤ buffer.length) :
    (overwrite buffer start items).length = buffer.length := by
  rw [overwrite, List.length_append, List.length_append, List.length_take, List.length_drop]
  omega

/-- What was written is read back behind what stands in front of it. -/
theorem take_drop_overwrite (buffer : List α) (first count : Nat) (items : List α)
    (inside : first + count ≤ buffer.length) :
    ((overwrite buffer (first + count) items).drop first).take (count + items.length)
      = (buffer.drop first).take count ++ items := by
  have front : (buffer.take (first + count)).length = first + count := by
    rw [List.length_take]
    omega
  have middle : ((buffer.drop first).take count).length = count := by
    rw [List.length_take, List.length_drop]
    omega
  rw [overwrite, List.append_assoc, List.drop_append_of_le_length (by omega), List.drop_take,
    Nat.add_sub_cancel_left, List.take_append, middle, Nat.add_sub_cancel_left, List.take_left,
    List.take_of_length_le (by omega)]

end Buffers

namespace WorkStack

variable {stack : WorkStack} {slots : Slots}

/-- Slots that lie within the buffers, for so many indices and values. -/
structure Holds (stack : WorkStack) (slots : Slots) (indexCount valueCount : Nat) : Prop where
  indices : slots.indices.start + indexCount ≤ stack.indices.length
  values : slots.values.start + valueCount ≤ stack.values.length

theorem holds_take (stack : WorkStack) (indexCount valueCount : Nat) :
    (stack.take indexCount valueCount).2.Holds (stack.take indexCount valueCount).1 indexCount
      valueCount :=
  ⟨length_grow _ _, length_grow _ _⟩

theorem Holds.putIndices {indexCount valueCount offset : Nat}
    (holds : stack.Holds slots indexCount valueCount) (items : List Nat)
    (fits : offset + items.length ≤ indexCount) :
    (stack.putIndices slots offset items).Holds slots indexCount valueCount := by
  have inside := holds.indices
  refine ⟨?_, holds.values⟩
  rw [WorkStack.putIndices, length_overwrite _ _ (by omega)]
  exact inside

theorem Holds.putValues {indexCount valueCount offset : Nat}
    (holds : stack.Holds slots indexCount valueCount) (items : List Float)
    (fits : offset + items.length ≤ valueCount) :
    (stack.putValues slots offset items).Holds slots indexCount valueCount := by
  have inside := holds.values
  refine ⟨holds.indices, ?_⟩
  rw [WorkStack.putValues, length_overwrite _ _ (by omega)]
  exact inside

/-- Indices that were written are read back behind those in front of them. -/
theorem readIndices_putIndices {indexCount valueCount : Nat}
    (holds : stack.Holds slots indexCount valueCount) (offset filled : Nat) (items : List Nat)
    (fits : offset + filled ≤ indexCount) :
    (stack.putIndices slots (offset + filled) items).readIndices slots offset
        (filled + items.length)
      = stack.readIndices slots offset filled ++ items := by
  have inside := holds.indices
  have read := take_drop_overwrite stack.indices (slots.indices.start + offset) filled items
    (by omega)
  rw [Nat.add_assoc] at read
  exact read

/-- Values that were written are read back behind those in front of them. -/
theorem readValues_putValues {indexCount valueCount : Nat}
    (holds : stack.Holds slots indexCount valueCount) (offset filled : Nat) (items : List Float)
    (fits : offset + filled ≤ valueCount) :
    (stack.putValues slots (offset + filled) items).readValues slots offset
        (filled + items.length)
      = stack.readValues slots offset filled ++ items := by
  have inside := holds.values
  have read := take_drop_overwrite stack.values (slots.values.start + offset) filled items
    (by omega)
  rw [Nat.add_assoc] at read
  exact read

/-- Entries that were written are read back behind those in front of them. -/
theorem entries_put {indexCount valueCount : Nat} (holds : stack.Holds slots indexCount valueCount)
    (filled : Nat) (indices : List Nat) (values : List Float)
    (lengths : indices.length = values.length) (fits : filled + indices.length ≤ indexCount)
    (fitValues : filled + values.length ≤ valueCount) :
    ((stack.putIndices slots filled indices).putValues slots filled values).entries slots
        (filled + indices.length)
      = stack.entries slots filled ++ List.zipWith Entry.mk indices values := by
  have readIndices := readIndices_putIndices holds 0 filled indices (by omega)
  have readValues := readValues_putValues (holds.putIndices indices fits) 0 filled values (by omega)
  rw [Nat.zero_add] at readIndices readValues
  have same : (stack.readIndices slots 0 filled).length
      = (stack.readValues slots 0 filled).length := by
    have inside := holds.indices
    have insideValues := holds.values
    rw [WorkStack.readIndices, WorkStack.readValues, List.length_take, List.length_take,
      List.length_drop, List.length_drop]
    omega
  rw [WorkStack.entries, WorkStack.entries, ← List.zipWith_append same]
  congr 1
  rw [lengths]
  exact readValues

/-- Entries that were written to the front of slots are all that is read. -/
theorem entries_put_front {indexCount valueCount : Nat}
    (holds : stack.Holds slots indexCount valueCount) (indices : List Nat) (values : List Float)
    (lengths : indices.length = values.length) (fits : indices.length ≤ indexCount)
    (fitValues : values.length ≤ valueCount) :
    ((stack.putIndices slots 0 indices).putValues slots 0 values).entries slots indices.length
      = List.zipWith Entry.mk indices values := by
  have read := entries_put holds 0 indices values lengths (by omega) (by omega)
  rw [Nat.zero_add] at read
  exact read

end WorkStack

/-! ### Dense sequences -/

theorem nonzeroEntries_within (first : Nat) (values : List Float) :
    ∀ entry ∈ nonzeroEntries first values,
      first ≤ entry.column ∧ entry.column < first + values.length := by
  induction values generalizing first with
  | nil => exact fun _ member => (List.not_mem_nil member).elim
  | cons value rest hyp =>
    have later := hyp (first + 1)
    intro entry member
    rw [nonzeroEntries] at member
    rw [List.length_cons]
    split at member
    · rcases List.mem_cons.mp member with rfl | member
      · dsimp only
        omega
      · have bound := later entry member
        omega
    · have bound := later entry member
      omega

theorem nonzeroEntries_distinct (first : Nat) (values : List Float) :
    ((nonzeroEntries first values).map (·.column)).Nodup := by
  induction values generalizing first with
  | nil => exact List.nodup_nil
  | cons value rest hyp =>
    rw [nonzeroEntries]
    split
    · refine List.nodup_cons.mpr ⟨fun member => ?_, hyp (first + 1)⟩
      obtain ⟨entry, member, same⟩ := List.mem_map.mp member
      have bound := nonzeroEntries_within (first + 1) rest entry member
      dsimp only at same
      omega
    · exact hyp (first + 1)

theorem fit_nonzeroEntries {values : List Float} {dimension : Nat}
    (fits : values.length ≤ dimension) : FitEntries dimension (nonzeroEntries 1 values) := by
  refine ⟨nonzeroEntries_distinct 1 values, fun entry member => ?_⟩
  have bound := nonzeroEntries_within 1 values entry member
  omega

theorem coefficients_nonzeroEntries (first : Nat) (values : List Float) :
    (nonzeroEntries first values).map (·.coefficient) ⊆ values := by
  induction values generalizing first with
  | nil => exact List.nil_subset _
  | cons value rest hyp =>
    rw [nonzeroEntries]
    split
    · exact List.cons_subset_cons value (hyp (first + 1))
    · exact List.subset_cons_of_subset value (hyp (first + 1))

theorem zipWith_entries (entries : List Entry) :
    List.zipWith Entry.mk (entries.map (·.column)) (entries.map (·.coefficient)) = entries := by
  rw [List.zipWith_map, List.zipWith_self]
  exact List.map_id _

/-- **The entries of a dense sequence.** -/
theorem loadDense_eq (stack : WorkStack) {values : List Float} {dimension : Nat}
    (fits : values.length ≤ dimension) :
    (loadDense stack values dimension).1 = .ok (nonzeroEntries 1 values) := by
  have holds := WorkStack.holds_take stack (nonzeroEntries 1 values).length
    (nonzeroEntries 1 values).length
  have read := WorkStack.entries_put_front holds ((nonzeroEntries 1 values).map (·.column))
    ((nonzeroEntries 1 values).map (·.coefficient)) (by simp) (by simp) (by simp)
  rw [zipWith_entries, List.length_map] at read
  rw [loadDense, if_neg (Nat.not_lt.mpr fits)]
  exact congrArg Except.ok read

/-! ### Values with their indices -/

/-- Sorted numbers of which no two neighbours are equal are distinct. -/
theorem nodup_of_firstRepeated {numbers : List Nat} (sorted : numbers.Pairwise (· ≤ ·))
    (none : firstRepeated numbers = none) : numbers.Pairwise (· < ·) := by
  fun_induction firstRepeated numbers with
  | case1 first rest => cases none
  | case2 first second rest different hyp =>
    obtain ⟨least, others⟩ := List.pairwise_cons.mp sorted
    have increasing := hyp others none
    have before : first < second :=
      Nat.lt_of_le_of_ne (least second List.mem_cons_self) different
    refine List.pairwise_cons.mpr ⟨fun number member => ?_, increasing⟩
    rcases List.mem_cons.mp member with rfl | member
    · exact before
    · exact Nat.lt_trans before ((List.pairwise_cons.mp increasing).1 number member)
  | case3 numbers short =>
    match numbers, short with
    | [], _ => exact List.Pairwise.nil
    | [number], _ => exact List.pairwise_singleton _ _
    | first :: second :: rest, short => exact (short first second rest rfl).elim

/-- Equal neighbours are no distinct numbers. -/
theorem firstRepeated_of_nodup {numbers : List Nat} (distinct : numbers.Nodup) :
    firstRepeated numbers = none := by
  fun_induction firstRepeated numbers with
  | case1 first rest => exact absurd List.mem_cons_self (List.nodup_cons.mp distinct).1
  | case2 first second rest different hyp => exact hyp (List.nodup_cons.mp distinct).2
  | case3 => rfl

/-- The duplicate that a sparse argument is searched for is there unless its indices are distinct. -/
theorem firstRepeated_mergeSort_eq_none_iff (numbers : List Nat) :
    firstRepeated numbers.mergeSort = none ↔ numbers.Nodup := by
  rw [← (List.mergeSort_perm numbers _).nodup_iff]
  constructor
  · intro none
    exact (nodup_of_firstRepeated (List.pairwise_mergeSort' (· ≤ ·) numbers) none).imp Nat.ne_of_lt
  · exact firstRepeated_of_nodup

/-- Indices that were written to the second half of slots are read back from there. -/
theorem readIndices_aside {stack : WorkStack} {slots : Slots} {count valueCount : Nat}
    (holds : stack.Holds slots (2 * count) valueCount) {indices : List Nat}
    (length : indices.length = count) :
    (stack.putIndices slots count indices).readIndices slots count count = indices := by
  have read := WorkStack.readIndices_putIndices holds count 0 indices (by omega)
  rw [Nat.add_zero, Nat.zero_add, length] at read
  exact read

/-- The entries that values with indices give, or why they do not fit. -/
def sparseEntries (count : Nat) (values : List Float) (indices : List Nat) (dimension : Nat) :
    Except ShapeFault (List Entry) :=
  if values.length ≠ indices.length then .error (.unequalLengths values.length indices.length)
  else if values.length < count then .error (.countTooLarge count values.length)
  else
    match (indices.take count).find? fun index => index == 0 || dimension < index with
    | some index => .error (.indexOutOfRange index dimension)
    | none =>
      match firstRepeated (indices.take count).mergeSort with
      | some index => .error (.duplicateIndex index)
      | none => .ok (List.zipWith Entry.mk (indices.take count) (values.take count))

/-- **The entries of values with indices.** -/
theorem loadSparse_eq (stack : WorkStack) (count : Nat) (values : List Float) (indices : List Nat)
    (dimension : Nat) :
    (loadSparse stack count values indices dimension).1
      = sparseEntries count values indices dimension := by
  unfold loadSparse sparseEntries
  by_cases unequal : values.length ≠ indices.length
  · rw [if_pos unequal, if_pos unequal]
  rw [if_neg unequal, if_neg unequal]
  by_cases short : values.length < count
  · rw [if_pos short, if_pos short]
  rw [if_neg short, if_neg short]
  cases (indices.take count).find? fun index => index == 0 || dimension < index with
  | some index => rfl
  | none =>
    have length : (indices.take count).length = count := by
      rw [List.length_take]
      omega
    have valuesLength : (values.take count).length = count := by
      rw [List.length_take]
      omega
    have sortedLength : (indices.take count).mergeSort.length = count := by
      rw [List.length_mergeSort, length]
    -- The indices are written aside, read back, sorted in their place, and read back again.
    have holds := WorkStack.holds_take stack (2 * count) count
    have aside := readIndices_aside holds length
    have holds' := holds.putIndices (indices.take count)
      (show count + (indices.take count).length ≤ 2 * count by omega)
    have sorted := readIndices_aside holds' sortedLength
    have holds'' := holds'.putIndices (indices.take count).mergeSort
      (show count + (indices.take count).mergeSort.length ≤ 2 * count by omega)
    have read := WorkStack.entries_put_front holds'' (indices.take count) (values.take count)
      (by omega) (by omega) (by omega)
    rw [length] at read
    dsimp only
    rw [aside, sorted]
    cases firstRepeated (indices.take count).mergeSort with
    | some index => rfl
    | none => exact congrArg Except.ok read

/-- **Values with indices are taken exactly if they fit**, and then as they are. -/
theorem sparseEntries_eq_ok_iff (count : Nat) (values : List Float) (indices : List Nat)
    (dimension : Nat) (entries : List Entry) :
    sparseEntries count values indices dimension = .ok entries
      ↔ values.length = indices.length ∧ count ≤ values.length
        ∧ (∀ index ∈ indices.take count, 1 ≤ index ∧ index ≤ dimension)
        ∧ (indices.take count).Nodup
        ∧ entries = List.zipWith Entry.mk (indices.take count) (values.take count) := by
  unfold sparseEntries
  by_cases unequal : values.length ≠ indices.length
  · rw [if_pos unequal]
    exact ⟨nofun, fun all => absurd all.1 unequal⟩
  rw [if_neg unequal]
  by_cases short : values.length < count
  · rw [if_pos short]
    exact ⟨nofun, fun all => absurd all.2.1 (Nat.not_le.mpr short)⟩
  rw [if_neg short]
  have lengths : values.length = indices.length := Decidable.not_not.mp unequal
  cases outside : (indices.take count).find? fun index => index == 0 || dimension < index with
  | some index =>
    have member := List.mem_of_find?_eq_some outside
    have there := List.find?_some outside
    rw [Bool.or_eq_true, beq_iff_eq, decide_eq_true_eq] at there
    refine ⟨nofun, fun all => ?_⟩
    have within := all.2.2.1 index member
    omega
  | none =>
    have within : ∀ index ∈ indices.take count, 1 ≤ index ∧ index ≤ dimension := by
      intro index member
      have there := List.find?_eq_none.mp outside index member
      rw [Bool.or_eq_true, beq_iff_eq, decide_eq_true_eq] at there
      omega
    cases repeated : firstRepeated (indices.take count).mergeSort with
    | some index =>
      refine ⟨nofun, fun all => ?_⟩
      rw [(firstRepeated_mergeSort_eq_none_iff _).mpr all.2.2.2.1] at repeated
      cases repeated
    | none =>
      have distinct := (firstRepeated_mergeSort_eq_none_iff _).mp repeated
      rw [Except.ok.injEq]
      constructor
      · exact fun same => ⟨lengths, Nat.not_lt.mp short, within, distinct, same.symm⟩
      · exact fun all => all.2.2.2.2.symm

theorem columns_zipWith {indices : List Nat} {values : List Float}
    (lengths : indices.length = values.length) :
    (List.zipWith Entry.mk indices values).map (·.column) = indices := by
  induction indices generalizing values with
  | nil => rfl
  | cons index rest hyp =>
    cases values with
    | nil => cases lengths
    | cons value values => exact congrArg (index :: ·) (hyp (Nat.succ.inj lengths))

theorem fit_zipWith {dimension : Nat} {indices : List Nat} {values : List Float}
    (lengths : indices.length = values.length) (distinct : indices.Nodup)
    (within : ∀ index ∈ indices, 1 ≤ index ∧ index ≤ dimension) :
    FitEntries dimension (List.zipWith Entry.mk indices values) := by
  refine ⟨by rwa [columns_zipWith lengths], fun entry member => within entry.column ?_⟩
  rw [← columns_zipWith lengths]
  exact List.mem_map_of_mem member

theorem coefficients_zipWith (indices : List Nat) (values : List Float) :
    (List.zipWith Entry.mk indices values).map (·.coefficient) ⊆ values := by
  induction indices generalizing values with
  | nil => exact List.nil_subset _
  | cons index rest hyp =>
    cases values with
    | nil => exact List.nil_subset _
    | cons value values => exact List.cons_subset_cons value (hyp values)

/-! ### Texts of numbers -/

/-- The values that words write, or the fault of the first that is no number. -/
def wordValues : List (List Char) → Except ShapeFault (List Float)
  | [] => .ok []
  | word :: rest =>
    match Decimal.signed? word with
    | none => .error (.invalidNumber (String.ofList word))
    | some value => (wordValues rest).map (value :: ·)

theorem length_wordValues {words : List (List Char)} {values : List Float}
    (read : wordValues words = .ok values) : values.length = words.length := by
  induction words generalizing values with
  | nil =>
    cases read
    rfl
  | cons word rest hyp =>
    rw [wordValues] at read
    split at read
    · cases read
    next value _ =>
      cases others : wordValues rest with
      | error fault =>
        rw [others] at read
        cases read
      | ok found =>
        rw [others] at read
        cases read
        exact congrArg (· + 1) (hyp others)

/-- Filling slots with the numbers of words adds their entries behind those that are there. -/
theorem fillWords_eq {stack : WorkStack} {slots : Slots} {size : Nat} (index filled : Nat)
    (words : List (List Char)) (holds : stack.Holds slots size size)
    (fits : filled + words.length ≤ size) :
    match wordValues words with
    | .error fault => (fillWords stack slots index filled words).1 = .error fault
    | .ok values =>
      (fillWords stack slots index filled words).1
          = .ok (filled + (nonzeroEntries index values).length)
        ∧ (fillWords stack slots index filled words).2.entries slots
            (filled + (nonzeroEntries index values).length)
          = stack.entries slots filled ++ nonzeroEntries index values := by
  induction words generalizing stack index filled with
  | nil =>
    refine ⟨rfl, ?_⟩
    exact (List.append_nil _).symm
  | cons word rest hyp =>
    rw [List.length_cons] at fits
    rw [wordValues, fillWords]
    cases Decimal.signed? word with
    | none => rfl
    | some value =>
      dsimp only
      by_cases nonzero : (value != 0) = true
      · have put := WorkStack.entries_put holds filled [index] [value] rfl
          (show filled + 1 ≤ size by omega) (show filled + 1 ≤ size by omega)
        have holds' := (holds.putIndices [index] (show filled + 1 ≤ size by omega)).putValues
          [value] (show filled + 1 ≤ size by omega)
        have step := hyp (index + 1) (filled + 1) holds' (by omega)
        rw [if_pos nonzero]
        cases others : wordValues rest with
        | error fault =>
          rw [others] at step
          exact step
        | ok values =>
          rw [others] at step
          have entries : nonzeroEntries index (value :: values)
              = ⟨index, value⟩ :: nonzeroEntries (index + 1) values := by
            rw [nonzeroEntries, if_pos nonzero]
          dsimp only [Except.map]
          rw [entries, List.length_cons, Nat.add_comm (nonzeroEntries (index + 1) values).length,
            ← Nat.add_assoc]
          refine ⟨step.1, step.2.trans ?_⟩
          rw [show filled + 1 = filled + [index].length from rfl, put, List.append_assoc]
          rfl
      -- A zero takes no slot, but the words behind it still count on.
      · have step := hyp (index + 1) filled holds (by omega)
        rw [if_neg nonzero]
        cases others : wordValues rest with
        | error fault =>
          rw [others] at step
          exact step
        | ok values =>
          rw [others] at step
          have entries : nonzeroEntries index (value :: values)
              = nonzeroEntries (index + 1) values := by
            rw [nonzeroEntries, if_neg nonzero]
          dsimp only [Except.map]
          rw [entries]
          exact step

/-- **A text of numbers is read as a dense sequence.** -/
theorem loadText_eq (stack : WorkStack) {source : String} {dimension : Nat}
    (fits : (Text.words source.toList).length ≤ dimension) :
    (loadText stack source dimension).1
      = (wordValues (Text.words source.toList)).map (nonzeroEntries 1) := by
  have holds := WorkStack.holds_take stack (Text.words source.toList).length
    (Text.words source.toList).length
  have filled := fillWords_eq 1 0 (Text.words source.toList) holds (by omega)
  unfold loadText
  dsimp only
  rw [if_neg (Nat.not_lt.mpr fits)]
  generalize fillWords _ _ _ _ _ = outcome at filled ⊢
  obtain ⟨result, after⟩ := outcome
  cases read : wordValues (Text.words source.toList) with
  | error fault =>
    rw [read] at filled
    obtain rfl : result = .error fault := filled
    rfl
  | ok values =>
    rw [read] at filled
    obtain ⟨count, entries⟩ := filled
    obtain rfl : result = .ok (0 + (nonzeroEntries 1 values).length) := count
    exact congrArg Except.ok entries

theorem wordValues_subset {words : List (List Char)} {values : List Float}
    (read : wordValues words = .ok values) : values ⊆ words.filterMap Decimal.signed? := by
  induction words generalizing values with
  | nil =>
    cases read
    exact List.nil_subset _
  | cons word rest hyp =>
    rw [wordValues] at read
    split at read
    · cases read
    next value found =>
      rw [List.filterMap_cons_some found]
      cases others : wordValues rest with
      | error fault =>
        rw [others] at read
        cases read
      | ok later =>
        rw [others] at read
        cases read
        exact List.cons_subset_cons value (hyp others)

/-! ### All forms -/

/-- The numbers that an argument gives. -/
def RowArgument.numbers : RowArgument → List Float
  | dense values => values
  | sparse _ values _ => values
  | text source => (Text.words source.toList).filterMap Decimal.signed?

/-- **What an argument gives**: entries, or why it does not fit. -/
def RowArgument.given (dimension : Nat) : RowArgument → Except ShapeFault (List Entry)
  | dense values =>
    if dimension < values.length then .error (.tooLong values.length dimension)
    else .ok (nonzeroEntries 1 values)
  | sparse count values indices => sparseEntries count values indices dimension
  | text source =>
    let words := Text.words source.toList
    if dimension < words.length then .error (.tooManyNumbers words.length dimension)
    else (wordValues words).map (nonzeroEntries 1)

section Loading

variable {argument : RowArgument} {dimension : Nat} {stack : WorkStack} {entries : List Entry}

/-- **What is loaded does not depend on the work stack.** -/
theorem load_eq (argument : RowArgument) (dimension : Nat) (stack : WorkStack) :
    (argument.load dimension stack).1 = argument.given dimension := by
  cases argument with
  | dense values =>
    by_cases fits : values.length ≤ dimension
    · exact (loadDense_eq stack fits).trans (if_neg (Nat.not_lt.mpr fits)).symm
    · have long := Nat.lt_of_not_le fits
      rw [RowArgument.load, loadDense, RowArgument.given, if_pos long, if_pos long]
  | sparse count values indices => exact loadSparse_eq stack count values indices dimension
  | text source =>
    by_cases fits : (Text.words source.toList).length ≤ dimension
    · exact (loadText_eq stack fits).trans (if_neg (Nat.not_lt.mpr fits)).symm
    · have long := Nat.lt_of_not_le fits
      dsimp only [RowArgument.load, loadText, RowArgument.given]
      rw [if_pos long, if_pos long]

/-- **What the entries are**: the values other than zero of a sequence, or values with their
indices. -/
theorem load_cases (loads : (argument.load dimension stack).1 = .ok entries) :
    (∃ values, values.length ≤ dimension ∧ values ⊆ argument.numbers
      ∧ entries = nonzeroEntries 1 values)
    ∨ ∃ indices values, indices.length = values.length ∧ indices.Nodup
      ∧ (∀ index ∈ indices, 1 ≤ index ∧ index ≤ dimension) ∧ values ⊆ argument.numbers
      ∧ entries = List.zipWith Entry.mk indices values := by
  rw [load_eq] at loads
  cases argument with
  | dense values =>
    rw [RowArgument.given] at loads
    split at loads
    · cases loads
    next fits =>
      cases loads
      exact .inl ⟨values, Nat.not_lt.mp fits, List.Subset.refl _, rfl⟩
  | sparse count values indices =>
    obtain ⟨lengths, fits, within, distinct, rfl⟩ :=
      (sparseEntries_eq_ok_iff count values indices dimension entries).mp loads
    refine .inr ⟨_, _, ?_, distinct, within, List.take_subset count values, rfl⟩
    rw [List.length_take, List.length_take, lengths]
  | text source =>
    dsimp only [RowArgument.given] at loads
    split at loads
    · cases loads
    next fits =>
      cases read : wordValues (Text.words source.toList) with
      | error fault =>
        rw [read] at loads
        cases loads
      | ok values =>
        rw [read] at loads
        cases loads
        exact .inl ⟨values, length_wordValues read ▸ Nat.not_lt.mp fits, wordValues_subset read, rfl⟩

/-- **The entries of an argument have distinct indices within the dimension.** -/
theorem fit_load (loads : (argument.load dimension stack).1 = .ok entries) :
    FitEntries dimension entries := by
  obtain ⟨values, fits, -, rfl⟩ | ⟨indices, values, lengths, distinct, within, -, rfl⟩ :=
    load_cases loads
  · exact fit_nonzeroEntries fits
  · exact fit_zipWith lengths distinct within

/-- **The coefficients of the entries are numbers of the argument.** -/
theorem coefficients_load (loads : (argument.load dimension stack).1 = .ok entries) :
    entries.map (·.coefficient) ⊆ argument.numbers := by
  obtain ⟨values, -, given, rfl⟩ | ⟨indices, values, -, -, -, given, rfl⟩ := load_cases loads
  · exact List.Subset.trans (coefficients_nonzeroEntries 1 values) given
  · exact List.Subset.trans (coefficients_zipWith indices values) given

end Loading

end LinearProgram
