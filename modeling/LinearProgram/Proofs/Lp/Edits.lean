/-
**What an action can do to a reader.**

Whatever a statement asks for, it comes down to a few changes: a name is looked up, a column or a row
that exists changes and keeps its name, a row is added at the end, a row gets a name of its own. What
each of them keeps, a text keeps.

* `Reader.Edit`: one change. `Reader.Moved`: what it leaves of a row that exists.
* **`Reader.act_edits`**: what an action does. `Reader.statements_edits`: so it is for a row of
  statements.
* `Reader.Edits.preserves`: what every change keeps.
-/

import Mathlib.Logic.Relation
import LinearProgram.Proofs.Lp.Names
import LinearProgram.Proofs.Lp.Reading

namespace LinearProgram.Lp

namespace Reader

/-! ### Changes -/

/-- **What is left of a row that changes**: its name, and its range unless it loses it or gets a finite
one that is not below zero. -/
structure Moved (before after : Row) : Prop where
  name : after.name = before.name
  range : ∀ range ∈ after.range, range ∈ before.range ∨ range.isFinite = true ∧ 0 ≤ range

/-- **One change that an action makes.** -/
inductive Edit : Reader → Reader → Prop
  | column (reader : Reader) {name : String} (named : isName name = true) :
    Edit reader (reader.column name).2
  | mark (reader : Reader) (maximize : Bool) (constant : Float) (hasObjective : Bool) :
    Edit reader { reader with
      problem := { reader.problem with maximize, constant }, hasObjective }
  | modifyColumn (reader : Reader) (index : Nat) (change : Column → Column)
      (keeps : ∀ column, (change column).name = column.name) :
    Edit reader (reader.change (·.modifyColumn index change))
  | appendRow (reader : Reader) {entries : List Entry}
      (fit : FitEntries reader.problem.columnCount entries) (relation : Relation)
      (rhs : Float) :
    Edit reader (reader.change (·.appendRow entries relation rhs false))
  | modifyRow (reader : Reader) (index : Nat) (change : Row → Row)
      (moved : Moved (reader.problem.rowInfo index) (change (reader.problem.rowInfo index))) :
    Edit reader (reader.change (·.modifyRow index change))
  | nameRow (reader : Reader) {index : Nat} (low : 1 ≤ index) {name : String}
      (named : isRowName name = true) (other : name ≠ "R" ++ toString index) :
    Edit reader (reader.change (·.setRowName index name))
  | label (reader : Reader) (labels : List (String × Nat)) : Edit reader { reader with labels }

/-- Some changes one after the other. -/
abbrev Edits : Reader → Reader → Prop :=
  Relation.ReflTransGen Edit

/-- **What every change keeps is kept.** -/
theorem Edits.preserves {good : Reader → Prop}
    (keeps : ∀ {before after}, Edit before after → good before → good after)
    {reader after : Reader} (edits : Edits reader after) (start : good reader) : good after := by
  induction edits with
  | refl => exact start
  | tail _ edit hyp => exact keeps edit hyp

/-! ### Columns -/

section Columns

variable {reader after : Reader} {line : Nat}

theorem entries_edits (reader : Reader) {terms : List Term} (named : NamedTerms terms) :
    Edits reader (reader.entries terms).2 :=
  entries_keeps (fun before term member edits => edits.tail (.column before (named term member))) .refl

theorem objective_edits {maximize : Bool} {body : List Located} (named : Named body)
    (done : reader.objective line maximize body = .ok after) : Edits reader after := by
  obtain ⟨expression, read, rfl⟩ := exists_of_objective done
  have named := Expression.read_named named read
  refine withObjective_keeps ?_ ?_ ?_ .refl maximize
  · exact fun before _ _ _ edits => edits.tail (.mark before _ _ _)
  · exact fun before term member edits => edits.tail (.column before (named term member))
  · exact fun before index value edits =>
      edits.tail (.modifyColumn before index ({ · with objective := value }) fun _ => rfl)

theorem declare_edits {name : String} (named : isName name = true) (declared : Section) :
    Edits reader (reader.declare declared name) := by
  refine (Relation.ReflTransGen.single (.column reader named)).tail ?_
  unfold Reader.declare
  cases declared with
  | integer | free => exact .modifyColumn _ _ _ fun _ => rfl
  | binary => exact .modifyColumn _ _ (·.setBinary true) fun _ => rfl

theorem declareAll_edits {declared : Section} {body : List Located} (named : Named body)
    (done : reader.declareAll declared body = .ok after) : Edits reader after := by
  fun_induction Reader.declareAll reader declared body with
  | case1 reader =>
    cases done
    exact .refl
  | case2 reader line rest hyp => exact hyp named.tail done
  | case3 reader name line rest hyp =>
    exact (declare_edits named.head declared).trans (hyp named.tail done)
  | case4 => cases done

theorem limits_edits (reader : Reader) {name : String} (named : isName name = true)
    (lower upper : Float) :
    Edits reader ((reader.column name).2.change
      (·.forceBounds (reader.column name).1 lower upper)) :=
  (Relation.ReflTransGen.single (.column reader named)).tail (.modifyColumn _ _ _ fun _ => rfl)

end Columns

/-! ### Rows -/

section Rows

variable {reader after : Reader} {line : Nat}

theorem moved_setRange? {row ranged : Row} {range : Float}
    (set : row.setRange? range = some ranged) : Moved row ranged where
  name := by rw [setRange?_eq_some set]
  range := fun stored member => .inr (range_of_setRange? set stored member)

theorem moved_limited? {row moved : Row} {relation : Relation} {limit : Float}
    (limited : row.limited? relation limit = some moved) : Moved row moved := by
  have ranged (relation : Relation) (range : Float) : Moved row (row.ranged relation range) := by
    unfold Row.ranged
    cases set : ({ row with relation } : Row).setRange? range with
    | none => exact ⟨rfl, fun _ kept => .inl kept⟩
    | some moved =>
      have moved := moved_setRange? set
      exact ⟨moved.name, moved.range⟩
  rcases limited?_cases limited with rfl | rfl | ⟨relation, range, rfl⟩
  · exact ⟨rfl, nofun⟩
  · exact ⟨rfl, fun _ kept => .inl kept⟩
  · exact ranged relation range

theorem addRow_edits {label : Option String} {terms : List Term} {relation : Relation} {rhs : Float}
    (labelled : NamedLabel label) (named : NamedTerms terms) (distinct : Distinct terms)
    (done : reader.addRow line label terms relation rhs = .ok after) : Edits reader after := by
  have added := (entries_edits reader named).tail
    (.appendRow _ (fit_entries reader distinct).sort relation rhs)
  cases (rowNamed_of_addRow done).2 with
  | unnamed => exact added
  | usual => exact added.tail (.label _ _)
  | @stored name other =>
    have stored := added.tail (.nameRow _ (Nat.le_add_left _ _) (labelled name rfl) other)
    exact stored.tail (.label _ _)

theorem addRowBetween_edits {label : Option String} {terms : List Term} {lower upper : Float}
    (labelled : NamedLabel label) (named : NamedTerms terms) (distinct : Distinct terms)
    (done : reader.addRowBetween line label terms lower upper = .ok after) :
    Edits reader after := by
  obtain ⟨relation, rhs, middle, -, added, same⟩ := exists_of_addRowBetween done
  have edits := addRow_edits labelled named distinct added
  rcases same with rfl | ⟨range, row, set, rfl⟩
  · exact edits
  · exact edits.tail (.modifyRow middle _ (fun _ => row) (moved_setRange? set))

theorem moveLimit_edits {name : String} {relation : Relation} {value : Float}
    (done : reader.moveLimit line name relation value = .ok after) : Edits reader after := by
  obtain ⟨index, -, row, limited, rfl⟩ := exists_row_of_moveLimit done
  exact .single (.modifyRow reader index (fun _ => row) (moved_limited? limited))

end Rows

/-! ### Statements -/

variable {reader after : Reader}

/-- **What an action does.** -/
theorem act_edits {line : Nat} {action : Action} (named : action.Named) (distinct : action.Distinct)
    (done : reader.act line action = .ok after) : Edits reader after := by
  cases action with
  | objective maximize body => exact objective_edits named done
  | declaration declared body => exact declareAll_edits named (declareAll_of_declaration done)
  | bound term relation value =>
    obtain ⟨lower, upper, rfl⟩ := exists_of_bound done
    exact limits_edits reader named lower upper
  | boundBoth term =>
    obtain ⟨lower, upper, rfl⟩ := exists_of_boundBoth done
    exact limits_edits reader named lower upper
  | addRow label terms relation rhs => exact addRow_edits named.1 named.2 distinct done
  | addRowBetween label terms lower upper => exact addRowBetween_edits named.1 named.2 distinct done
  | moveLimit name relation value => exact moveLimit_edits done

/-- **What a row of statements does.** -/
theorem statements_edits {pending tokens : List Located} (named : Named pending)
    (named' : Named tokens) (done : reader.statements pending tokens = .ok after) :
    Edits reader after := by
  fun_induction Reader.statements reader pending tokens with
  | case1 =>
    cases done
    exact .refl
  | case2 => cases done
  | case3 reader pending line rest hyp =>
    obtain ⟨middle, first, done⟩ := exists_of_bind_ok done
    refine Relation.ReflTransGen.trans ?_ (hyp middle .nil named'.tail done)
    have named : Named pending.reverse := named.mono (List.reverse_subset.mpr (List.Subset.refl _))
    cases tokens : pending.reverse with
    | nil =>
      rw [tokens] at first
      cases first
      exact .refl
    | cons token others =>
      rw [tokens] at first named
      obtain ⟨action, asks, first⟩ := exists_of_bind_ok first
      exact act_edits (Statement.action_named named asks) (Statement.action_distinct asks) first
  | case4 reader pending token rest _ hyp =>
    exact hyp (named.cons (named' token List.mem_cons_self)) named'.tail done

end Reader

/-- **What a text does**: changes one after the other, from an empty reader. -/
theorem exists_reader_of_parse {text : String} {problem : Problem}
    (read : parse text = .ok problem) :
    ∃ reader : Reader, Reader.Edits {} reader ∧ reader.problem = problem := by
  obtain ⟨tokens, scanned, read⟩ := exists_of_bind_ok read
  obtain ⟨reader, done, read⟩ := exists_of_bind_ok read
  obtain rfl := Except.ok.inj read
  exact ⟨reader, Reader.statements_edits .nil (scan_named scanned) done, rfl⟩

end LinearProgram.Lp
