/-
**Changes that a model accepts.**

* `hasColumn_of_checkColumn`, `hasRow_of_checkRow`: what passes the checks of an index exists.
* `Edit.numbers`: the numbers that a change brings in.
* **`Edit.exists_operation`**: a change of the problem that is accepted is an operation whose
  arguments fit. It brings in no other numbers, and no names.
-/

import LinearProgram.Model.Edit
import LinearProgram.Proofs.Arguments.Load
import LinearProgram.Proofs.Problem.Writable

namespace LinearProgram

open Problem

namespace Edit

theorem hasColumn_of_checkColumn {problem : Problem} {index : Nat}
    (passes : Model.checkColumn problem index = .ok ()) : problem.HasColumn index := by
  unfold Model.checkColumn at passes
  split at passes
  · cases passes
  next inside =>
    rw [HasColumn]
    omega

theorem hasRow_of_checkRow {problem : Problem} {index : Nat}
    (passes : Model.checkRow problem index = .ok ()) : problem.HasRow index := by
  unfold Model.checkRow at passes
  split at passes
  · cases passes
  next inside =>
    rw [HasRow]
    omega

theorem of_ofColumn {problem : Problem} {index : Nat} {changed : Option Problem}
    {result : Option Problem} (done : ofColumn problem index changed = .ok result) :
    problem.HasColumn index ∧ changed = result := by
  unfold ofColumn at done
  cases passes : Model.checkColumn problem index with
  | error error =>
    rw [passes] at done
    cases done
  | ok =>
    rw [passes] at done
    cases done
    exact ⟨hasColumn_of_checkColumn passes, rfl⟩

theorem of_ofRow {problem : Problem} {index : Nat} {changed : Option Problem}
    {result : Option Problem} (done : ofRow problem index changed = .ok result) :
    problem.HasRow index ∧ changed = result := by
  unfold ofRow at done
  cases passes : Model.checkRow problem index with
  | error error =>
    rw [passes] at done
    cases done
  | ok =>
    rw [passes] at done
    cases done
    exact ⟨hasRow_of_checkRow passes, rfl⟩

theorem of_withEntries {argument : RowArgument} {dimension : Nat} {work : WorkStack}
    {change : List Entry → Problem} {result : Option Problem}
    (done : (withEntries argument dimension work change).1 = .ok result) :
    ∃ entries, FitEntries dimension entries ∧ entries.map (·.coefficient) ⊆ argument.numbers
      ∧ some (change entries) = result := by
  unfold withEntries at done
  dsimp only at done
  split at done
  next entries work' loaded =>
    have loads : (argument.load dimension work).1 = .ok entries := by rw [loaded]
    exact ⟨entries, fit_load loads, coefficients_load loads, Except.ok.inj done⟩
  next => cases done

/-- The numbers that an edit brings in. -/
def numbers : Edit → List Float
  | setObjective _ value | setCoefficient _ _ value | setRhs _ value | setRange _ value
  | setLower _ value | setUpper _ value => [value]
  | setBounds _ lower upper => [lower, upper]
  | setObjectiveRow argument | setRow _ argument | setRhsVector argument => argument.numbers
  | addRow argument _ rhs => rhs :: argument.numbers
  | resize .. | setMaximize _ | setRelation .. | setBinary .. | setInteger .. => []

/-- **The operation brings in no number that the edit does not, and no name.** -/
structure Brings (edit : Edit) (operation : Operation) : Prop where
  numbers : operation.numbers ⊆ edit.numbers
  nameFits : operation.NameFits

/-- **A change that is accepted is an operation whose arguments fit.** -/
theorem exists_operation {edit : Edit} {rowMode : Bool} {problem next : Problem} {work : WorkStack}
    (accepted : (edit.apply rowMode problem work).1 = .ok (some next)) :
    ∃ operation : Operation, operation.Fits problem ∧ operation.apply problem = next
      ∧ edit.Brings operation := by
  have same {numbers : List Float} : numbers ⊆ numbers := List.Subset.refl numbers
  cases edit with
  | resize rows columns =>
    have resized : problem.resize? rows columns = some next := Except.ok.inj accepted
    refine ⟨.resize rows columns, trivial, ?_, same, trivial⟩
    rw [Operation.apply, resized]
    rfl
  | setMaximize maximize =>
    cases accepted
    exact ⟨.setMaximize maximize, trivial, rfl, same, trivial⟩
  | setObjectiveRow argument =>
    obtain ⟨entries, fit, given, made⟩ := of_withEntries accepted
    cases made
    exact ⟨.setObjectiveRow entries, fit, rfl, given, trivial⟩
  | setObjective column value =>
    obtain ⟨has, made⟩ := of_ofColumn accepted
    cases made
    exact ⟨.setObjective column value, has, rfl, same, trivial⟩
  | addRow argument relation rhs =>
    obtain ⟨entries, fit, given, made⟩ := of_withEntries accepted
    cases made
    exact ⟨.appendRow entries relation rhs rowMode, fit, rfl, List.cons_subset_cons rhs given, trivial⟩
  | setRow row argument =>
    unfold Edit.apply at accepted
    dsimp only at accepted
    split at accepted
    · cases accepted
    next passes =>
      obtain ⟨entries, fit, given, made⟩ := of_withEntries accepted
      cases made
      exact ⟨.setRow row entries, ⟨hasRow_of_checkRow passes, fit⟩, rfl, given, trivial⟩
  | setCoefficient row column value =>
    unfold Edit.apply at accepted
    dsimp only at accepted
    cases passes : Model.checkColumn problem column with
    | error error =>
      rw [passes] at accepted
      cases accepted
    | ok =>
      have hasColumn := hasColumn_of_checkColumn passes
      rw [passes] at accepted
      by_cases objective : row = 0
      · subst objective
        cases accepted
        exact ⟨.setObjective column value, hasColumn, rfl, same, trivial⟩
      · dsimp only [bind, Except.bind] at accepted
        rw [if_neg objective] at accepted
        obtain ⟨has, made⟩ := of_ofRow accepted
        cases made
        exact ⟨.setCoefficient row column value, ⟨has, hasColumn⟩, rfl, same, trivial⟩
  | setRelation row relation =>
    obtain ⟨has, made⟩ := of_ofRow accepted
    cases made
    exact ⟨.setRelation row relation, has, rfl, same, trivial⟩
  | setRhs row value =>
    obtain ⟨has, made⟩ := of_ofRow accepted
    cases made
    exact ⟨.setRhs row value, has, rfl, same, trivial⟩
  | setRange row range =>
    obtain ⟨has, made⟩ := of_ofRow accepted
    refine ⟨.setRange row range, has, ?_, same, trivial⟩
    rw [Operation.apply, made]
    rfl
  | setRhsVector argument =>
    obtain ⟨entries, fit, given, made⟩ := of_withEntries accepted
    cases made
    exact ⟨.setRhsVector entries, fit, rfl, given, trivial⟩
  | setBounds column lower upper =>
    obtain ⟨has, made⟩ := of_ofColumn accepted
    refine ⟨.setBounds column lower upper, has, ?_, same, trivial⟩
    rw [Operation.apply, made]
    rfl
  | setLower column lower =>
    obtain ⟨has, made⟩ := of_ofColumn accepted
    refine ⟨.setLower column lower, has, ?_, same, trivial⟩
    rw [Operation.apply, made]
    rfl
  | setUpper column upper =>
    obtain ⟨has, made⟩ := of_ofColumn accepted
    refine ⟨.setUpper column upper, has, ?_, same, trivial⟩
    rw [Operation.apply, made]
    rfl
  | setBinary column binary =>
    obtain ⟨has, made⟩ := of_ofColumn accepted
    cases made
    exact ⟨.setBinary column binary, has, rfl, same, trivial⟩
  | setInteger column integer =>
    obtain ⟨has, made⟩ := of_ofColumn accepted
    cases made
    exact ⟨.setInteger column integer, has, rfl, same, trivial⟩

/-- An edit that is accepted preserves the storage invariant. -/
theorem wellStored_of_apply {edit : Edit} {rowMode : Bool} {problem next : Problem}
    {work : WorkStack} (stored : problem.WellStored)
    (accepted : (edit.apply rowMode problem work).1 = .ok (some next)) : next.WellStored := by
  obtain ⟨operation, fits, rfl, -⟩ := exists_operation accepted
  exact stored.apply fits

/-- An edit that brings in numbers only leaves a problem that can be written. -/
theorem writable_of_apply {edit : Edit} {rowMode : Bool} {problem next : Problem}
    {work : WorkStack} (stored : problem.WellStored) (writable : problem.Writable)
    (numbers : ∀ number ∈ edit.numbers, number.isNaN = false)
    (accepted : (edit.apply rowMode problem work).1 = .ok (some next)) : next.Writable := by
  obtain ⟨operation, fits, rfl, brings⟩ := exists_operation accepted
  refine writable.apply stored fits ⟨fun number member => ?_, brings.nameFits⟩
  exact numbers number (brings.numbers member)

end Edit

end LinearProgram
