/-
**The objective lists no more columns than it has to.**

A reader numbers the columns by first appearance, so a text gives every column back at its index
when all of them are mentioned and each is first mentioned before the next one. Some leading columns
are listed in the objective for that, and all up to the last one with a coefficient other than zero.

* `mentions`: the columns that a text mentions, in order, if its objective lists some of them.
* `MetInOrder`: every column is mentioned, and first before the next one.
* `Restores`: so it is, and no column behind the listed ones has a part in the objective.
* `not_settled_unsettledColumns`, `objective_ne_zero`: why one column less does not do.
* **`declaredColumns_least`**: the columns that the objective lists restore the numbering, and fewer
  do not.
-/

import LinearProgram.Proofs.Lp.Numbering
import LinearProgram.Proofs.Lp.Tokens

namespace LinearProgram.Lp

open Problem

/-! ### What a text mentions -/

/-- The columns with a line of bounds. -/
def linedColumns (problem : Problem) : List Nat :=
  problem.columnIndices.filter fun index =>
    boundsLine (problem.columnName index) (problem.column index) != ""

/-- **The columns that a text mentions**, in order, if its objective lists the first few: these, then
the entries of the rows other than zero, row by row, then the columns with a line of bounds, then the
integer columns. -/
def mentions (problem : Problem) (listed : Nat) : List Nat :=
  List.range' 1 listed
    ++ problem.rowIndices.flatMap (fun index => (writtenEntries problem index).map (·.column))
    ++ linedColumns problem
    ++ problem.columnIndices.filter (fun index => (problem.column index).integer)

/-- **Every column is mentioned, and first before the next ones.** -/
structure MetInOrder (total : Nat) (mentions : List Nat) : Prop where
  met : ∀ index, 1 ≤ index → index ≤ total → index ∈ mentions
  inOrder : ∀ index later, 1 ≤ index → index < later → later ≤ total →
    mentions.idxOf index < mentions.idxOf later

/-- **Listing some columns restores the numbering**: the others have no part in the objective, and
all columns are met in order. -/
structure Restores (problem : Problem) (listed : Nat) : Prop where
  unpriced : ∀ index, listed < index → index ≤ problem.columnCount →
    ((problem.column index).objective == 0) = true
  metInOrder : MetInOrder problem.columnCount (mentions problem listed)

section Lines

variable {problem : Problem}

theorem mentions_eq (problem : Problem) (listed : Nat) :
    mentions problem listed = List.range' 1 listed ++ occurrences problem := by
  have lined : linedColumns problem
      = problem.columnIndices.filter fun index => !(problem.column index).hasDefaultBounds := by
    refine List.filter_congr fun index _ => ?_
    rw [Bool.eq_iff_iff, bne_iff_ne, Bool.not_eq_true', ← Bool.not_eq_true]
    exact (boundsLine_eq_empty_iff _ _).not
  rw [mentions, lined, occurrences, List.append_assoc, List.append_assoc, List.append_assoc]

/-- A listed column is met at its place. -/
theorem idxOf_mentions_of_le {listed index : Nat} (low : 1 ≤ index) (le : index ≤ listed) :
    (mentions problem listed).idxOf index = index - 1 := by
  have member : index ∈ List.range' 1 listed := List.mem_range'_1.mpr ⟨low, by omega⟩
  rw [mentions_eq, List.idxOf_append, if_pos member]
  have inside : index - 1 < (List.range' 1 listed).length := by
    rw [List.length_range']
    omega
  have here : (List.range' 1 listed)[index - 1] = index := by
    rw [List.getElem_range']
    omega
  have nodup : (List.range' 1 listed).Nodup := List.nodup_range'
  have place := nodup.idxOf_getElem (index - 1) inside
  rwa [here] at place

/-- Any other column is met where it occurs behind the objective. -/
theorem idxOf_mentions_of_lt {listed index : Nat} (lt : listed < index) :
    (mentions problem listed).idxOf index = listed + (occurrences problem).idxOf index := by
  have absent : index ∉ List.range' 1 listed := fun member => by
    have := (List.mem_range'_1.mp member).2
    omega
  rw [mentions_eq, List.idxOf_append, if_neg absent, List.length_range', Nat.add_comm]

theorem mem_mentions_of_lt {listed index : Nat} (lt : listed < index) :
    index ∈ mentions problem listed ↔ index ∈ occurrences problem := by
  rw [mentions_eq, List.mem_append, List.mem_range'_1]
  exact or_iff_right fun inside => by omega

/-- Only columns that exist are mentioned. -/
theorem hasColumn_of_mem_mentions (stored : problem.WellStored) {listed index : Nat}
    (le : listed ≤ problem.columnCount) (member : index ∈ mentions problem listed) :
    problem.HasColumn index := by
  rw [mentions_eq, List.mem_append, List.mem_range'_1] at member
  rcases member with inside | member
  · exact ⟨inside.1, by omega⟩
  · exact hasColumn_of_mem_occurrences stored member

end Lines

/-! ### The columns that are listed restore the numbering -/

/-- What first occurs in order does so from any column to any later one. -/
theorem Settled.lt {mentions : List Nat} {total start : Nat}
    (settled : Settled mentions total start) {index later : Nat} (low : start < index)
    (lt : index < later) (high : later ≤ total) :
    mentions.idxOf index < mentions.idxOf later := by
  induction later, lt using Nat.le_induction with
  | base => exact (settled index low (by omega)).2.resolve_left (by omega)
  | succ later le hyp =>
    have step := (settled later (by omega) (by omega)).2.resolve_left (by omega)
    exact (hyp (by omega)).trans step

theorem restores_declaredColumns (problem : Problem) :
    Restores problem (declaredColumns problem) where
  unpriced := fun index behind high => objective_eq_zero ⟨by omega, high⟩ behind
  metInOrder := {
    met := by
      intro index low high
      by_cases listed : index ≤ declaredColumns problem
      · rw [mentions_eq]
        exact List.mem_append_left _ (List.mem_range'_1.mpr ⟨low, by omega⟩)
      · exact (mem_mentions_of_lt (by omega)).mpr
          (settled_occurrences problem index (by omega) high).1
    inOrder := by
      intro index later low lt high
      by_cases listed : later ≤ declaredColumns problem
      · rw [idxOf_mentions_of_le low (by omega), idxOf_mentions_of_le (by omega) listed]
        omega
      rw [idxOf_mentions_of_lt (not_le.mp listed)]
      by_cases listed' : index ≤ declaredColumns problem
      · rw [idxOf_mentions_of_le low listed']
        omega
      · rw [idxOf_mentions_of_lt (not_le.mp listed')]
        have := (settled_occurrences problem).lt (not_le.mp listed') lt high
        omega }

/-! ### Fewer columns do not -/

/-- **Where the scan from the end stops**, a column is missing behind the objective, or it first
occurs there after the next one. -/
theorem not_settled_unsettledColumns {mentions : List Nat} {total count : Nat}
    (stops : 0 < unsettledColumns mentions total count)
    (member : unsettledColumns mentions total count ∈ mentions)
    (before : unsettledColumns mentions total count = total
      ∨ mentions.idxOf (unsettledColumns mentions total count)
        < mentions.idxOf (unsettledColumns mentions total count + 1)) : False := by
  fun_induction unsettledColumns mentions total count with
  | case1 => exact Nat.lt_irrefl 0 stops
  | case2 count place holds hyp => exact hyp stops member before
  | case3 count place unsettled =>
    refine unsettled ?_
    rw [Bool.and_eq_true, Bool.or_eq_true, decide_eq_true_eq, decide_eq_true_eq, beq_iff_eq]
    exact ⟨List.idxOf_lt_length_of_mem member, before⟩

/-- The last column that is not taken off the end has a coefficient. -/
theorem objective_ne_zero {problem : Problem} (priced : 0 < lastObjective problem) :
    ((problem.column (lastObjective problem)).objective == 0) = false := by
  have nonempty : problem.objective.reverse.dropWhile (· == 0) ≠ [] :=
    List.ne_nil_of_length_pos priced
  have head := List.head_dropWhile_not (· == (0 : Float)) nonempty
  have suffix : problem.objective.reverse.dropWhile (· == 0) <:+ problem.objective.reverse :=
    List.dropWhile_suffix _
  obtain ⟨first, rest, split⟩ := List.exists_cons_of_ne_nil nonempty
  have length : lastObjective problem = rest.length + 1 := by
    rw [lastObjective, split, List.length_cons]
  have first_eq : (problem.objective.reverse.dropWhile (· == 0)).head nonempty = first := by
    simp only [split, List.head_cons]
  rw [first_eq] at head
  -- The list up to the place is what is left, turned round.
  have front : rest.reverse ++ [first] <+: problem.objective := by
    have turned := List.reverse_prefix.mpr suffix
    rwa [split, List.reverse_reverse, List.reverse_cons] at turned
  have found : problem.objective[rest.length]? = some first := by
    obtain ⟨others, all⟩ := front
    rw [← all, List.append_assoc, ← List.length_reverse, List.getElem?_append_right le_rfl,
      Nat.sub_self]
    rfl
  rw [objective, List.getElem?_map] at found
  obtain ⟨column, there, rfl⟩ := Option.map_eq_some_iff.mp found
  rw [Problem.column, length, Nat.add_sub_cancel, there]
  exact head

theorem not_restores_of_lt {problem : Problem} {fewer : Nat}
    (lt : fewer < declaredColumns problem) : ¬ Restores problem fewer := by
  intro restores
  rcases lt_max_iff.mp lt with unsettled | priced
  · -- The column where the scan stops is not met in order.
    have le := unsettledColumns_le (occurrences problem) problem.columnCount problem.columnCount
    have met := restores.metInOrder.met _ (by omega) le
    refine not_settled_unsettledColumns (by omega) ((mem_mentions_of_lt unsettled).mp met) ?_
    refine (Nat.eq_or_lt_of_le le).imp_right fun more => ?_
    have before := restores.metInOrder.inOrder _ _ (by omega) (Nat.lt_succ_self _) more
    rw [idxOf_mentions_of_lt unsettled, idxOf_mentions_of_lt (by omega)] at before
    exact Nat.lt_of_add_lt_add_left before
  · have zero := restores.unpriced _ priced (lastObjective_le problem)
    rw [objective_ne_zero (by omega)] at zero
    cases zero

/-! ### The least number of columns -/

/-- **The objective lists no more columns than it has to.** It lists existing columns, the first ones
in order. With them the others have no part in the objective, nothing but the columns of the problem
is mentioned, and every column is met, first before the next ones. With fewer of them a column behind
has a part in the objective, or some column is not met in order. -/
theorem declaredColumns_least {problem : Problem} (stored : problem.WellStored) :
    declaredColumns problem ≤ problem.columnCount
      ∧ (objectiveEntries problem).map (·.column) = List.range' 1 (declaredColumns problem)
      ∧ (∀ index ∈ mentions problem (declaredColumns problem), problem.HasColumn index)
      ∧ Restores problem (declaredColumns problem)
      ∧ ∀ fewer < declaredColumns problem, ¬ Restores problem fewer :=
  ⟨declaredColumns_le problem, columns_objectiveEntries problem,
    fun _ member => hasColumn_of_mem_mentions stored (declaredColumns_le problem) member,
    restores_declaredColumns problem, fun _ lt => not_restores_of_lt lt⟩

/-- A problem whose row mentions the last column before the third one, which has a coefficient in the
objective, and where no line mentions the second one. -/
def scattered : Problem where
  columns := [{}, {}, { objective := 2 }, { upper := 5 }]
  rows := [{ relation := .atMost, rhs := 4 }]
  matrix := SparseRows.ofRows [[⟨4, 1⟩, ⟨1, 1⟩]]

theorem wellStored_scattered : scattered.WellStored := by
  have laid : scattered.matrix = SparseRows.ofRows [[⟨4, 1⟩, ⟨1, 1⟩]] := rfl
  refine .of_rows laid rfl (fun row member => ?_) (by decide) (by decide)
  rw [List.mem_singleton.mp member]
  exact ⟨by decide, by decide⟩

theorem declaredColumns_least_scattered :
    scattered.WellStored ∧ declaredColumns scattered = 3 ∧ Restores scattered 3
      ∧ ¬ Restores scattered 2 := by
  have three : declaredColumns scattered = 3 := by decide +kernel
  obtain ⟨-, -, -, restores, least⟩ := declaredColumns_least wellStored_scattered
  rw [three] at restores least
  exact ⟨wellStored_scattered, three, restores, least 2 (by decide)⟩

end LinearProgram.Lp
