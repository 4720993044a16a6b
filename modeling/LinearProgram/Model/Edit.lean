/-
**Changes of a model's problem and of its settings.**

A change of the problem is accepted, declined, or fails. Only an accepted one does anything: it also
drops the solution, which belonged to the problem as it was. Settings and names are no part of what
was solved, so setting them keeps the solution.

* `Edit`: the changes of the problem. `Edit.apply`: what an edit makes of a problem.
  `Edit.answer`: what the caller is told.
* `Model.edit`: an edit behind the gate; the answer tells whether it was accepted.
* `Setting`, `Model.configure`: names and settings.
-/

import LinearProgram.Arguments.RowArgument
import LinearProgram.Lp.Name
import LinearProgram.Model.Query

namespace LinearProgram

/-- A change of a problem. Row zero of a coefficient is the objective. -/
inductive Edit where
  | resize (rows columns : Nat)
  | setMaximize (maximize : Bool)
  | setObjectiveRow (argument : RowArgument)
  | setObjective (column : Nat) (value : Float)
  | addRow (argument : RowArgument) (relation : Relation) (rhs : Float)
  | setRow (row : Nat) (argument : RowArgument)
  | setCoefficient (row column : Nat) (value : Float)
  | setRelation (row : Nat) (relation : Relation)
  | setRhs (row : Nat) (value : Float)
  | setRange (row : Nat) (range : Float)
  | setRhsVector (argument : RowArgument)
  | setBounds (column : Nat) (lower upper : Float)
  | setLower (column : Nat) (lower : Float)
  | setUpper (column : Nat) (upper : Float)
  | setBinary (column : Nat) (binary : Bool)
  | setInteger (column : Nat) (integer : Bool)
  deriving Repr

namespace Edit

/-- What an edit makes of a problem: the new problem, nothing if the edit is declined, or a failure;
and the work stack afterwards. -/
abbrev Result := Except Error (Option Problem) × WorkStack

/-- An edit that needs the entries of a row. They stand in a frame of the work stack that is closed
again whatever happens. -/
def withEntries (argument : RowArgument) (dimension : Nat) (work : WorkStack)
    (change : List Entry → Problem) : Result :=
  let frame := work.openFrame
  match argument.load dimension work with
  | (.ok entries, work) => (.ok (some (change entries)), work.close frame)
  | (.error fault, work) => (.error (.shape fault), work.close frame)

/-- An edit of a column that must exist. -/
def ofColumn (problem : Problem) (index : Nat) (changed : Option Problem) :
    Except Error (Option Problem) := do
  Model.checkColumn problem index
  return changed

/-- An edit of a row that must exist. -/
def ofRow (problem : Problem) (index : Nat) (changed : Option Problem) :
    Except Error (Option Problem) := do
  Model.checkRow problem index
  return changed

/-- **What an edit makes of a problem.** In row mode an appended row is not put in order. -/
def apply (rowMode : Bool) (problem : Problem) (work : WorkStack) : Edit → Result
  | .resize rows columns => (.ok (problem.resize? rows columns), work)
  | .setMaximize maximize => (.ok (some { problem with maximize }), work)
  | .setObjectiveRow argument =>
    withEntries argument problem.columnCount work problem.setObjectiveRow
  | .setObjective column value =>
    (ofColumn problem column (some (problem.setObjective column value)), work)
  | .addRow argument relation rhs =>
    withEntries argument problem.columnCount work fun entries =>
      problem.appendRow entries relation rhs rowMode
  | .setRow row argument =>
    match Model.checkRow problem row with
    | .error error => (.error error, work)
    | .ok () => withEntries argument problem.columnCount work (problem.setRow row)
  | .setCoefficient row column value =>
    (do
      Model.checkColumn problem column
      if row = 0 then return some (problem.setObjective column value)
      ofRow problem row (some (problem.setCoefficient row column value)), work)
  | .setRelation row relation => (ofRow problem row (some (problem.setRelation row relation)), work)
  | .setRhs row value => (ofRow problem row (some (problem.setRhs row value)), work)
  | .setRange row range => (ofRow problem row (problem.setRange? row range), work)
  | .setRhsVector argument => withEntries argument problem.rowCount work problem.setRhsVector
  | .setBounds column lower upper =>
    (ofColumn problem column (problem.setBounds? column lower upper), work)
  | .setLower column lower => (ofColumn problem column (problem.setLower? column lower), work)
  | .setUpper column upper => (ofColumn problem column (problem.setUpper? column upper), work)
  | .setBinary column binary =>
    (ofColumn problem column (some (problem.setBinary column binary)), work)
  | .setInteger column integer =>
    (ofColumn problem column (some (problem.setInteger column integer)), work)

/-- What a caller is told about an edit that did not fail: whether it was accepted, except that the
direction of the objective is never declined and so tells nothing. -/
def answer (edit : Edit) (accepted : Bool) : Answer :=
  match edit with
  | .setMaximize _ => .done
  | _ => .flag accepted

end Edit

/-- A setting, or a name. -/
inductive Setting where
  | name (name : String)
  | rowMode (on : Bool)
  | breakAtFirst (on : Bool)
  | verbosity (verbosity : Verbosity)
  | timeout (seconds : Nat)
  | rowName (row : Nat) (name : String)
  | columnName (column : Nat) (name : String)
  deriving Repr

namespace Model

variable {Engine : Type}

/-- **Changes the problem.** The answer tells whether the change was accepted; only then is the
solution dropped. -/
def edit (model : Model Engine) (edit : Edit) : Except Error Bool × Model Engine :=
  match model.checkIdle with
  | .error error => (.error error, model)
  | .ok () =>
    match edit.apply model.options.rowMode model.problem model.work with
    | (.error error, work) => (.error error, { model with work })
    | (.ok none, work) => (.ok false, { model with work })
    | (.ok (some problem), work) => (.ok true, { model with problem, work, solution := none })

/-- The model with other settings. -/
def withOptions (model : Model Engine) (change : Options → Options) : Model Engine :=
  { model with options := change model.options }

/-- **Changes a setting or a name.** Leaving row mode puts the rows in order; a name that cannot be
written is declined. -/
def configure (model : Model Engine) (setting : Setting) : Except Error Answer × Model Engine :=
  match model.checkIdle with
  | .error error => (.error error, model)
  | .ok () =>
    match setting with
    | .name name => (.ok .done, { model with problem := { model.problem with name } })
    | .rowMode on =>
      if model.options.rowMode == on then (.ok (.flag false), model)
      else
        let model := model.withOptions ({ · with rowMode := on })
        (.ok (.flag true), if on then model else model.normalize)
    | .breakAtFirst on => (.ok .done, model.withOptions ({ · with breakAtFirst := on }))
    | .verbosity verbosity => (.ok .done, model.withOptions ({ · with verbosity }))
    | .timeout seconds => (.ok .done, model.withOptions ({ · with timeout := seconds }))
    | .rowName row name =>
      match checkRow model.problem row with
      | .error error => (.error error, model)
      | .ok () =>
        if Lp.isRowName name then
          (.ok (.flag true), { model with problem := model.problem.setRowName row name })
        else (.ok (.flag false), model)
    | .columnName column name =>
      match checkColumn model.problem column with
      | .error error => (.error error, model)
      | .ok () =>
        if Lp.isName name then
          (.ok (.flag true), { model with problem := model.problem.setColumnName column name })
        else (.ok (.flag false), model)

end Model

end LinearProgram
