/-
**Whether row names address their own rows.**

A row that was not given a name has the letter `R` and its number for one. A label may be just that: the
name of a row that stands there already, or of one that is added later. Labels are told apart from each
other and from nothing else, so such a name is that of two rows, and it addresses the one that was given
it. This is the only way in which a name fails to address its row.

* `Labelled`: what holds of the labels of a reader. `Labelled.statement`: every statement keeps it.
* `Unborrowed`: no row was given the name that another row has anyway.
* `Labelled.exists_findRow?`: a row name always addresses a row of that name.
* `Labelled.rowNames_differ`: unless a name is borrowed, row names are distinct.
* **`rowName_addresses`**: exactly then they address their own rows, and move their limits.
-/

import LinearProgram.Proofs.Lp.Limits
import LinearProgram.Proofs.Lp.Pieces
import LinearProgram.Proofs.Lp.TextValue
import LinearProgram.Proofs.Lp.Tokens

namespace LinearProgram.Lp

open Decimal Problem

/-! ### Numbers in names -/

theorem index?_digits (number : Nat) : index? (digits number) = some number := by
  have some : (digits number).isEmpty = false := List.isEmpty_eq_false_iff.mpr Nat.toDigits_ne_nil
  have all : (digits number).all Char.isDigit = true :=
    List.all_eq_true.mpr fun character member => allDigits_digits number character member
  rw [index?, some, all, natOfDigits_digits]
  rfl

/-- Two rows do not have one name by their numbers. -/
theorem rowDefault_injective {index other : Nat}
    (same : "R" ++ toString index = "R" ++ toString other) : index = other := by
  have texts := congrArg String.toList same
  rw [toList_default, toList_default] at texts
  have numbers := congrArg index? (List.append_cancel_left texts)
  rw [index?_digits, index?_digits] at numbers
  exact Option.some.inj numbers

/-! ### What holds of the labels -/

/-- A label is that of one row. -/
theorem lookup_eq_of_mem {labels : List (String × Nat)} (distinct : (labels.map (·.1)).Nodup)
    {name : String} {index : Nat} (member : (name, index) ∈ labels) :
    labels.lookup name = some index := by
  obtain ⟨before, after, rfl⟩ := List.append_of_mem member
  rw [List.map_append, List.nodup_append] at distinct
  refine List.lookup_eq_some_iff.mpr ⟨before, after, rfl, fun pair inside => ?_⟩
  rw [bne_iff_ne]
  exact (distinct.2.2 _ (List.mem_map_of_mem inside) _ List.mem_cons_self).symm

/-- **What holds of the labels of a reader**: no two are the same, each is the name of the row that it
was given to, and a name that is stored for a row is a label of it and not the one by its number. -/
structure Labelled (reader : Reader) : Prop where
  distinct : (reader.labels.map (·.1)).Nodup
  named : ∀ label ∈ reader.labels, reader.problem.HasRow label.2
    ∧ reader.problem.rowName label.2 = label.1
  stored : ∀ index, reader.problem.HasRow index → ∀ name ∈ (reader.problem.rowInfo index).name,
    (name, index) ∈ reader.labels ∧ name ≠ "R" ++ toString index

theorem labelled_empty : Labelled {} where
  distinct := List.nodup_nil
  named := fun _ member => (List.not_mem_nil member).elim
  stored := fun _ has => absurd (Nat.le_trans has.1 has.2) (Nat.not_succ_le_zero 0)

namespace Labelled

variable {reader after : Reader}

/-- The rows keep their names. -/
theorem of_names (labelled : Labelled reader) (labels : after.labels = reader.labels)
    (count : after.problem.rowCount = reader.problem.rowCount)
    (names : ∀ index, (after.problem.rowInfo index).name = (reader.problem.rowInfo index).name) :
    Labelled after where
  distinct := labels ▸ labelled.distinct
  named := by
    rw [labels]
    intro label member
    obtain ⟨has, named⟩ := labelled.named label member
    refine ⟨⟨has.1, count ▸ has.2⟩, ?_⟩
    rw [rowName, names]
    exact named
  stored := by
    rw [labels]
    intro index has
    rw [names]
    exact labelled.stored index ⟨has.1, count ▸ has.2⟩

theorem of_sameRows (labelled : Labelled reader) (same : Reader.SameRows reader after) :
    Labelled after := by
  refine labelled.of_names same.labels same.rowCount_eq fun index => ?_
  rw [rowInfo, same.rows, rowInfo]

/-- **A row changes and keeps its name.** -/
theorem modifyRow (labelled : Labelled reader) (index : Nat) {row : Row}
    (kept : row.name = (reader.problem.rowInfo index).name) :
    Labelled (reader.change (·.modifyRow index fun _ => row)) := by
  refine labelled.of_names rfl rfl fun other => ?_
  unfold Reader.change Problem.modifyRow rowInfo
  unfold rowInfo at kept
  dsimp only
  rw [List.getElem?_modify]
  cases found : reader.problem.rows[other - 1]? with
  | none => rfl
  | some old =>
    by_cases here : index - 1 = other - 1
    · rw [here, found] at kept
      simp [here, kept]
    · simp [here]

section Added

variable {label : Option String} {row : Row} (sound : reader.Sound)
  (added : Reader.RowAdded reader label row after)

include sound added

/-- The rows before it are what they were. -/
theorem rowInfo_of_rowAdded {index : Nat} (has : reader.problem.HasRow index) :
    after.problem.rowInfo index = reader.problem.rowInfo index := by
  have inside : index - 1 < reader.problem.rows.length := by
    rw [sound.stored.rows_length_eq]
    exact Nat.lt_of_lt_of_le (Nat.sub_lt has.1 Nat.one_pos) has.2
  rw [rowInfo, added.rows, List.getElem?_append_left inside, rowInfo]

theorem rowInfo_last_of_rowAdded : after.problem.rowInfo (reader.problem.rowCount + 1) = { row with
    name := label.filter (· != "R" ++ toString (reader.problem.rowCount + 1)) } := by
  rw [rowInfo, added.rows, Nat.add_sub_cancel, ← sound.stored.rows_length_eq,
    List.getElem?_concat_length]
  rfl

/-- **A row is added**, with a label that is none yet. -/
theorem of_rowAdded (labelled : Labelled reader) : Labelled after where
  distinct := by
    rw [added.labels, List.map_append]
    refine List.nodup_append.mpr ⟨labelled.distinct, ?_, ?_⟩
    · cases label with
      | none => exact List.nodup_nil
      | some name => exact List.nodup_singleton name
    · intro name given other new same
      obtain ⟨pair, stood, rfl⟩ := List.mem_map.mp given
      cases label with
      | none => exact List.not_mem_nil new
      | some fresh =>
        obtain rfl : other = fresh := List.mem_singleton.mp new
        have free := List.lookup_eq_none_iff.mp (added.fresh other rfl) pair stood
        rw [bne_iff_ne] at free
        exact free same.symm
  named := by
    rw [added.labels]
    intro pair member
    rcases List.mem_append.mp member with member | member
    · obtain ⟨has, named⟩ := labelled.named pair member
      refine ⟨⟨has.1, added.count ▸ Nat.le_succ_of_le has.2⟩, ?_⟩
      rw [rowName, rowInfo_of_rowAdded sound added has]
      exact named
    · cases label with
      | none => exact (List.not_mem_nil member).elim
      | some name =>
        obtain rfl := List.mem_singleton.mp member
        refine ⟨⟨Nat.le_add_left _ _, Nat.le_of_eq added.count.symm⟩, ?_⟩
        -- A name that is not stored is the one that the row has anyway.
        rw [rowName, rowInfo_last_of_rowAdded sound added, Option.filter_some]
        split
        next => rfl
        next same =>
          rw [bne_iff_ne, not_not] at same
          exact same.symm
  stored := by
    intro index has name stored
    rw [added.labels, List.mem_append]
    by_cases new : index = reader.problem.rowCount + 1
    · subst new
      rw [rowInfo_last_of_rowAdded sound added] at stored
      obtain ⟨rfl, other⟩ := Option.filter_eq_some_iff.mp stored
      rw [bne_iff_ne] at other
      exact ⟨.inr List.mem_cons_self, other⟩
    · have stood : reader.problem.HasRow index := by
        obtain ⟨low, high⟩ := has
        rw [added.count] at high
        exact ⟨low, by omega⟩
      rw [rowInfo_of_rowAdded sound added stood] at stored
      obtain ⟨labels, other⟩ := labelled.stored index stood name stored
      exact ⟨.inl labels, other⟩

end Added

/-- **Every action keeps what holds of the labels.** -/
theorem act (labelled : Labelled reader) (sound : reader.Sound) {line : Nat} {action : Action}
    (done : reader.act line action = .ok after) : Labelled after := by
  cases action with
  | objective | declaration | bound | boundBoth =>
    refine labelled.of_sameRows (.act ?_ done)
    trivial
  | addRow label terms relation rhs =>
    exact labelled.of_rowAdded sound (Reader.rowAdded_addRow sound done)
  | addRowBetween label terms lower upper =>
    obtain ⟨relation, rhs, middle, -, added, rfl | ⟨range, row, set, rfl⟩⟩ :=
      Reader.exists_of_addRowBetween done
    · exact labelled.of_rowAdded sound (Reader.rowAdded_addRow sound added)
    · have named := labelled.of_rowAdded sound (Reader.rowAdded_addRow sound added)
      refine named.modifyRow _ ?_
      rw [setRange?_eq_some set]
  | moveLimit name relation value =>
    obtain ⟨index, -, row, limited, rfl⟩ := Reader.exists_row_of_moveLimit done
    exact labelled.modifyRow index (limited?_keeps limited).1

end Labelled

/-- **Whatever statements a reader has taken**, it is sound, and so are its labels. -/
theorem Reader.labelled_run {pieces : List (List Located)} {reader : Reader}
    (done : Reader.run {} pieces = .ok reader) : reader.Sound ∧ Labelled reader :=
  Reader.sound_empty.run (fun _ _ _ _ _ _ _ sound acts labelled => labelled.act sound acts) done
    labelled_empty

/-! ### Names that are borrowed -/

/-- **No row was given the name that another row has anyway.** -/
def Unborrowed (problem : Problem) : Prop :=
  ∀ index ∈ problem.rowIndices, (problem.rowInfo index).name = none →
    ∀ other ∈ problem.rowIndices, (problem.rowInfo other).name ≠ some ("R" ++ toString index)

instance (problem : Problem) : Decidable (Unborrowed problem) :=
  inferInstanceAs (Decidable (∀ index ∈ problem.rowIndices, _))

/-- Two rows do not have one name. -/
def RowsDiffer (problem : Problem) : Prop :=
  (problem.rowIndices.map problem.rowName).Nodup

namespace Labelled

variable {reader : Reader}

/-- **The name of a row addresses a row of that name.** -/
theorem exists_findRow? (labelled : Labelled reader) {index : Nat}
    (has : reader.problem.HasRow index) :
    ∃ found, reader.findRow? (reader.problem.rowName index) = some found
      ∧ reader.problem.HasRow found
      ∧ reader.problem.rowName found = reader.problem.rowName index := by
  cases given : reader.labels.lookup (reader.problem.rowName index) with
  | some found =>
    obtain ⟨before, behind, all, -⟩ := List.lookup_eq_some_iff.mp given
    obtain ⟨exists_, named⟩ := labelled.named (reader.problem.rowName index, found)
      (all ▸ List.mem_append_right _ List.mem_cons_self)
    exact ⟨found, by rw [Reader.findRow?, given], exists_, named⟩
  | none =>
    refine ⟨index, ?_, has, rfl⟩
    cases name : (reader.problem.rowInfo index).name with
    | some label =>
      have member := (labelled.stored index has label name).1
      rw [rowName, name, Option.getD_some, lookup_eq_of_mem labelled.distinct member] at given
      cases given
    | none =>
      have text : (reader.problem.rowName index).toList = 'R' :: digits index := by
        rw [rowName, name]
        exact toList_default "R" index
      rw [Reader.findRow?, given, text]
      show (index? (digits index)).filter _ = some index
      rw [index?_digits, Option.filter_some, decide_eq_true has.1, decide_eq_true has.2]
      rfl

/-- **Row names are distinct unless one is borrowed.** -/
theorem rowNames_differ (labelled : Labelled reader) :
    Unborrowed reader.problem ↔ RowsDiffer reader.problem := by
  constructor
  · intro unborrowed
    refine List.Nodup.map_on ?_ (List.nodup_range' ..)
    intro index member other member' same
    cases name : (reader.problem.rowInfo index).name with
    | none =>
      cases name' : (reader.problem.rowInfo other).name with
      | none =>
        rw [rowName, rowName, name, name'] at same
        exact rowDefault_injective same
      | some label =>
        rw [rowName, rowName, name, name'] at same
        exact absurd (name'.trans (congrArg some same.symm)) (unborrowed index member name other member')
    | some label =>
      cases name' : (reader.problem.rowInfo other).name with
      | none =>
        rw [rowName, rowName, name, name'] at same
        exact absurd (name.trans (congrArg some same)) (unborrowed other member' name' index member)
      | some label' =>
        rw [rowName, rowName, name, name'] at same
        obtain rfl : label = label' := same
        have here := (labelled.stored index (mem_rowIndices.mp member) label name).1
        have there := (labelled.stored other (mem_rowIndices.mp member') label name').1
        rw [← Option.some_inj, ← lookup_eq_of_mem labelled.distinct here,
          lookup_eq_of_mem labelled.distinct there]
  · intro differ index member name other member' borrowed
    have same : reader.problem.rowName index = reader.problem.rowName other := by
      rw [rowName, rowName, name, borrowed]
      rfl
    obtain rfl := List.inj_on_of_nodup_map differ member member' same
    rw [name] at borrowed
    cases borrowed

/-- **Row names address their own rows if they are distinct**, and only then. -/
theorem findRow?_rowName_iff (labelled : Labelled reader) :
    (∀ index, reader.problem.HasRow index →
        reader.findRow? (reader.problem.rowName index) = some index)
      ↔ RowsDiffer reader.problem := by
  constructor
  · intro addressed
    refine List.Nodup.map_on ?_ (List.nodup_range' ..)
    intro index member other member' same
    have here := addressed index (mem_rowIndices.mp member)
    rw [same, addressed other (mem_rowIndices.mp member')] at here
    exact (Option.some.inj here).symm
  · intro differ index has
    obtain ⟨found, given, exists_, same⟩ := labelled.exists_findRow? has
    rw [given, List.inj_on_of_nodup_map differ (mem_rowIndices.mpr exists_) (mem_rowIndices.mpr has) same]

end Labelled

/-- **Row names address their own rows exactly if no name is borrowed**, whatever statements were read.
The name of a row always addresses a row of that name. It is that row itself for every row if no row was
given the name that another one has anyway, and this is also when no two rows have one name. A statement
under the name of a row then moves a limit of that row and changes nothing else. -/
theorem rowName_addresses {pieces : List (List Located)} {reader : Reader}
    (done : Reader.run {} pieces = .ok reader) :
    (∀ index, reader.problem.HasRow index →
        ∃ found, reader.findRow? (reader.problem.rowName index) = some found
          ∧ reader.problem.HasRow found
          ∧ reader.problem.rowName found = reader.problem.rowName index)
      ∧ (Unborrowed reader.problem ↔ ∀ index, reader.problem.HasRow index →
        reader.findRow? (reader.problem.rowName index) = some index)
      ∧ (Unborrowed reader.problem ↔ RowsDiffer reader.problem)
      ∧ (Unborrowed reader.problem → ∀ index, reader.problem.HasRow index →
        ∀ (tokens limit : List Located) (relation : Relation) (after : Reader),
          MovesLimit tokens (reader.problem.rowName index) relation limit →
          reader.statement tokens = .ok after →
          ∃ line expression row, Expression.read line limit = .ok expression
            ∧ (reader.problem.rowInfo index).limited? relation (clamp expression.constant) = some row
            ∧ after = reader.change (·.modifyRow index fun _ => row)) := by
  obtain ⟨-, labelled⟩ := Reader.labelled_run done
  have addresses := labelled.rowNames_differ.trans labelled.findRow?_rowName_iff.symm
  refine ⟨fun index has => labelled.exists_findRow? has, addresses, labelled.rowNames_differ, ?_⟩
  intro unborrowed index has tokens limit relation after moves accepted
  obtain ⟨line, expression, read, moved⟩ := moves.moveLimit accepted
  obtain ⟨row, limited, changed⟩ := Reader.moveLimit_eq (addresses.mp unborrowed index has) moved
  exact ⟨line, expression, row, read, limited, changed⟩

/-- The pieces of a text with two rows, the second of which has its name anyway. -/
def oneNamed : List (List Located) :=
  pieces ((scan 1 "min: ;\nc: x <= 3;\nR2: y >= 1;\n".toList).toOption.getD [])

/-- The statement `R2: <= 5`. -/
def limitSecond : List Located :=
  [⟨.name "R2", 1⟩, ⟨.colon, 1⟩, ⟨.relation .atMost, 1⟩, ⟨.number 5, 1⟩]

theorem rowName_addresses_oneNamed : ∃ reader, Reader.run {} oneNamed = .ok reader
    ∧ Unborrowed reader.problem ∧ RowsDiffer reader.problem
    ∧ reader.problem.rowName 2 = "R2" ∧ reader.findRow? "R2" = some 2
    ∧ ∃ after row, reader.statement limitSecond = .ok after
      ∧ after = reader.change (·.modifyRow 2 fun _ => row) := by
  have view : ((Reader.run {} oneNamed).toOption.map fun reader =>
      (decide (Unborrowed reader.problem), reader.problem.rowCount, reader.problem.rowName 2,
        (reader.statement limitSecond).toOption.map fun _ => ()))
      = some (true, 2, "R2", some ()) := by decide +kernel
  obtain ⟨reader, done, seen⟩ := exists_ok_of_view view
  simp only [Prod.mk.injEq, decide_eq_true_eq] at seen
  obtain ⟨unborrowed, count, name, next⟩ := seen
  obtain ⟨after, accepted, -⟩ := exists_ok_of_view next
  obtain ⟨-, addresses, differ, moves⟩ := rowName_addresses done
  have has : reader.problem.HasRow 2 := ⟨by decide, count.ge⟩
  have written : MovesLimit limitSecond (reader.problem.rowName 2) .atMost [⟨.number 5, 1⟩] := by
    rw [name]
    exact ⟨⟨[⟨.name "R2", 1⟩, ⟨.colon, 1⟩], 1, rfl, rfl⟩, fun relation member => by simp at member⟩
  have found := addresses.mp unborrowed 2 has
  rw [name] at found
  obtain ⟨-, -, row, -, -, changed⟩ := moves unborrowed 2 has _ _ _ _ written accepted
  exact ⟨reader, done, unborrowed, differ.mp unborrowed, name, found, after, row, accepted, changed⟩

end LinearProgram.Lp
