/-
**Columns come back at their indices.**

A reader gives the next index to a name that it has not met. So names come back at the indices that
they were written with if no column is mentioned before all columns that precede it.

* `reached`: the number of columns that some mentions lead to. `InOrder`: no mention skips a column.
* `settled_of_unsettledColumns`: what `unsettledColumns` leaves off first occurs in order.
* **`inOrder_occurrences`**: behind the columns that the objective lists, no mention skips a column.
  **`reached_occurrences`**: all columns are mentioned in the end.
-/

import LinearProgram.Proofs.Lp.Written

namespace LinearProgram.Lp

open Problem

/-! ### Mentions -/

/-- The number of columns after some more of them are mentioned. -/
def reached (count : Nat) (mentions : List Nat) : Nat :=
  mentions.foldl max count

/-- No mention skips a column. -/
def InOrder : Nat → List Nat → Prop
  | _, [] => True
  | count, index :: rest => (1 ≤ index ∧ index ≤ count + 1) ∧ InOrder (max count index) rest

theorem reached_append (count : Nat) (first second : List Nat) :
    reached count (first ++ second) = reached (reached count first) second :=
  List.foldl_append

theorem inOrder_append {count : Nat} {first second : List Nat} :
    InOrder count (first ++ second)
      ↔ InOrder count first ∧ InOrder (reached count first) second := by
  induction first generalizing count with
  | nil => exact (iff_of_eq (true_and _)).symm
  | cons index rest hyp => exact (and_congr_right fun _ => hyp).trans and_assoc.symm

theorem le_reached (count : Nat) (mentions : List Nat) : count ≤ reached count mentions := by
  induction mentions generalizing count with
  | nil => exact Nat.le_refl _
  | cons index rest hyp => exact Nat.le_trans (Nat.le_max_left _ _) (hyp _)

theorem le_reached_of_mem (count : Nat) {index : Nat} {mentions : List Nat}
    (member : index ∈ mentions) : index ≤ reached count mentions := by
  induction mentions generalizing count with
  | nil => exact (List.not_mem_nil member).elim
  | cons first rest hyp =>
    rcases List.mem_cons.mp member with rfl | member
    · exact Nat.le_trans (Nat.le_max_right _ _) (le_reached _ rest)
    · exact hyp _ member

theorem reached_le {count total : Nat} {mentions : List Nat} (start : count ≤ total)
    (inside : ∀ index ∈ mentions, index ≤ total) : reached count mentions ≤ total := by
  induction mentions generalizing count with
  | nil => exact start
  | cons index rest hyp =>
    exact hyp (Nat.max_le.mpr ⟨start, inside index List.mem_cons_self⟩)
      fun other member => inside other (List.mem_cons_of_mem _ member)

/-- The columns `1, …, count` in a row. -/
theorem inOrder_range' (start count : Nat) : InOrder start (List.range' (start + 1) count) := by
  induction count generalizing start with
  | zero => exact trivial
  | succ count hyp =>
    have next : max start (start + 1) = start + 1 := Nat.max_eq_right (Nat.le_succ _)
    refine ⟨⟨Nat.le_add_left _ _, Nat.le_refl _⟩, ?_⟩
    rw [next]
    exact hyp (start + 1)

theorem reached_range' (start count : Nat) :
    reached start (List.range' (start + 1) count) = start + count := by
  induction count generalizing start with
  | zero => rfl
  | succ count hyp =>
    have next : max start (start + 1) = start + 1 := Nat.max_eq_right (Nat.le_succ _)
    show reached (max start (start + 1)) _ = _
    rw [next, hyp (start + 1)]
    omega

/-! ### What first occurs in order -/

/-- The columns behind `start` all occur, each of them before the next one. -/
def Settled (mentions : List Nat) (total start : Nat) : Prop :=
  ∀ index, start < index → index ≤ total →
    index ∈ mentions ∧ (index = total ∨ mentions.idxOf index < mentions.idxOf (index + 1))

theorem Settled.mono {mentions : List Nat} {total start later : Nat}
    (settled : Settled mentions total start) (le : start ≤ later) : Settled mentions total later :=
  fun index low high => settled index (Nat.lt_of_le_of_lt le low) high

/-- **What is left off the end first occurs in order.** -/
theorem settled_of_unsettledColumns {mentions : List Nat} {total count : Nat}
    (settled : Settled mentions total count) :
    Settled mentions total (unsettledColumns mentions total count) := by
  fun_induction unsettledColumns mentions total count with
  | case1 => exact settled
  | case2 count place holds hyp =>
    refine hyp fun index low high => ?_
    by_cases last : index = count + 1
    · subst last
      rw [Bool.and_eq_true, Bool.or_eq_true, decide_eq_true_eq, decide_eq_true_eq,
        beq_iff_eq] at holds
      exact ⟨List.idxOf_lt_length_iff.mp holds.1, holds.2⟩
    · exact settled index (by omega) high
  | case3 => exact settled

/-- A column that occurs behind another one is not mentioned before it. -/
theorem mem_of_idxOf_lt {front back : List Nat} {index other : Nat}
    (before : (front ++ other :: back).idxOf index < (front ++ other :: back).idxOf other) :
    index ∈ front := by
  have last : (front ++ other :: back).idxOf other ≤ front.length := by
    rw [List.idxOf_append]
    split
    next member => exact Nat.le_of_lt (List.idxOf_lt_length_of_mem member)
    next => rw [List.idxOf_cons_self, Nat.zero_add]
  by_contra missing
  rw [List.idxOf_append, if_neg missing] at before
  omega

/-- **Behind the start of what first occurs in order, no mention skips a column.** -/
theorem Settled.inOrder {mentions : List Nat} {total start : Nat}
    (settled : Settled mentions total start)
    (inside : ∀ index ∈ mentions, 1 ≤ index ∧ index ≤ total) : InOrder start mentions := by
  -- Whatever has been mentioned, the column before the next one is among it or at the start.
  have rest (front back : List Nat) (all : mentions = front ++ back) :
      InOrder (reached start front) back := by
    induction back generalizing front with
    | nil => exact trivial
    | cons index others hyp =>
      obtain ⟨low, high⟩ := inside index (all ▸ List.mem_append_right _ List.mem_cons_self)
      refine ⟨⟨low, ?_⟩, ?_⟩
      · by_cases near : index ≤ start + 1
        · exact Nat.le_trans near (Nat.succ_le_succ (le_reached start front))
        · obtain ⟨-, last | before⟩ := settled (index - 1) (by omega) (by omega)
          · omega
          · rw [Nat.sub_add_cancel low, all] at before
            have le := le_reached_of_mem start (mem_of_idxOf_lt before)
            omega
      · have step := hyp (front ++ [index]) (by rw [all, List.append_assoc]; rfl)
        rw [reached_append] at step
        exact step
  exact rest [] mentions rfl

theorem Settled.reached {mentions : List Nat} {total start : Nat}
    (settled : Settled mentions total start) (le : start ≤ total)
    (inside : ∀ index ∈ mentions, index ≤ total) : reached start mentions = total := by
  refine Nat.le_antisymm (reached_le le inside) ?_
  by_cases all : start = total
  · rw [all]
    exact le_reached total mentions
  · obtain ⟨member, -⟩ := settled total (by omega) (Nat.le_refl _)
    exact le_reached_of_mem _ member

/-! ### What a written problem mentions -/

section Written

variable {problem : Problem}

theorem settled_occurrences (problem : Problem) :
    Settled (occurrences problem) problem.columnCount (declaredColumns problem) :=
  (settled_of_unsettledColumns fun _ low high => absurd low (Nat.not_lt.mpr high)).mono
    (Nat.le_max_left _ _)

/-- **Behind the columns that the objective lists, no mention skips a column.** -/
theorem inOrder_occurrences (stored : problem.WellStored) :
    InOrder (declaredColumns problem) (occurrences problem) :=
  (settled_occurrences problem).inOrder fun _ member =>
    hasColumn_of_mem_occurrences stored member

/-- **All columns are mentioned in the end.** -/
theorem reached_occurrences (stored : problem.WellStored) :
    reached (declaredColumns problem) (occurrences problem) = problem.columnCount :=
  (settled_occurrences problem).reached (declaredColumns_le problem) fun _ member =>
    (hasColumn_of_mem_occurrences stored member).2

/-- What `dropWhile` takes off the end of a list. -/
theorem getElem_of_length_dropWhile_le {α : Type} {items : List α} (test : α → Bool) {place : Nat}
    (inside : place < items.length)
    (behind : (items.reverse.dropWhile test).length ≤ place) : test items[place] = true := by
  have split : items = (items.reverse.dropWhile test).reverse
      ++ (items.reverse.takeWhile test).reverse := by
    rw [← List.reverse_append, List.takeWhile_append_dropWhile, List.reverse_reverse]
  have member : items[place] ∈ (items.reverse.takeWhile test).reverse := by
    have found := List.getElem_of_eq split inside
    rw [List.getElem_append_right (by rw [List.length_reverse]; exact behind)] at found
    rw [found]
    exact List.getElem_mem _
  exact List.mem_takeWhile_imp (List.mem_reverse.mp member)

/-- Columns behind those that the objective lists have no part in the objective. -/
theorem objective_eq_zero {index : Nat} (has : problem.HasColumn index)
    (behind : declaredColumns problem < index) :
    ((problem.column index).objective == 0) = true := by
  have last : lastObjective problem < index :=
    Nat.lt_of_le_of_lt (Nat.le_max_right _ _) behind
  obtain ⟨low, high⟩ := has
  have inside : index - 1 < problem.objective.length := by
    rw [objective, List.length_map]
    show index - 1 < problem.columnCount
    omega
  have zero := getElem_of_length_dropWhile_le (· == 0) inside (Nat.le_sub_one_of_lt last)
  rw [objective, List.length_map] at inside
  simp only [objective, List.getElem_map] at zero
  rw [Problem.column, List.getElem?_eq_getElem inside, Option.getD_some]
  exact zero

end Written

end LinearProgram.Lp
