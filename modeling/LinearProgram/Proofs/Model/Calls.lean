/-
**How the calls of a model can go.**

A call is told once: as a relation between the model, what the caller is told and the model
afterwards. It has a constructor for each way that the call can go, with the checks that lead there.
What calls keep and how they fail is then told from these relations, by cases.

* `Model.Asking`, `Model.Editing`, `Model.Configuring`, `Model.Disposing`, `Model.Releasing`: the
  calls that no solve comes of. `Model.Beginning`: the beginning of a solve.
* **`asking`**, `editing`, `configuring`, `disposing`, `releasing`, `beginning`: there is no other
  way.
* `Model.Call`: the calls that no solve comes of, together. A solve that does not begin is one of
  them.
-/

import LinearProgram.Model.Edit
import LinearProgram.Model.Solve

namespace LinearProgram.Model

variable {World Engine : Type} {model next : Model Engine}

/-! ### The gates -/

theorem active_and_idle_of_checkIdle (passes : model.checkIdle = .ok ()) :
    model.isDisposed = false ∧ model.isRunning = false := by
  unfold checkIdle at passes
  split at passes
  next => cases passes
  next active =>
    split at passes
    next => cases passes
    next idle => exact ⟨Bool.eq_false_iff.mpr active, Bool.eq_false_iff.mpr idle⟩

theorem not_running_of_checkIdle (passes : model.checkIdle = .ok ()) : model.isRunning = false :=
  (active_and_idle_of_checkIdle passes).2

theorem checkIdle_of_disposed (disposed : model.isDisposed = true) :
    model.checkIdle = .error .disposed :=
  if_pos disposed

theorem checkIdle_of_running (active : model.isDisposed = false) (running : model.isRunning = true) :
    model.checkIdle = .error .busy := by
  rw [checkIdle, active, running]
  rfl

theorem checkActive_of_disposed (disposed : model.isDisposed = true) :
    model.checkActive = .error .disposed :=
  if_pos disposed

theorem checkActive_of_active (active : model.isDisposed = false) : model.checkActive = .ok () := by
  rw [checkActive, active]
  rfl

/-! ### Questions -/

/-- **How a question can go.** -/
inductive Asking (model : Model Engine) (query : Query) :
    Except Error Answer → Model Engine → Prop
  /-- The gate is shut. -/
  | barred (error : Error) (gate : model.checkActive = .error error) :
    Asking model query (.error error) model
  /-- The rows are put in order first. -/
  | ordered (gate : model.checkActive = .ok ()) (orders : query.ordersRows = true) :
    Asking model query (query.answer model.normalize) model.normalize
  | answered (gate : model.checkActive = .ok ()) (plain : query.ordersRows = false) :
    Asking model query (query.answer model) model

/-- A question goes one of these ways. -/
theorem asking {query : Query} {result : Except Error Answer}
    (asked : model.ask query = (result, next)) : Asking model query result next := by
  unfold ask at asked
  split at asked
  next error gate =>
    cases asked
    exact .barred error gate
  next gate =>
    cases orders : query.ordersRows with
    | true =>
      rw [orders] at asked
      cases asked
      exact .ordered gate orders
    | false =>
      rw [orders] at asked
      cases asked
      exact .answered gate orders

/-- A question at most puts the rows of a model in order. -/
theorem ask_eq_or (model : Model Engine) (query : Query) :
    (model.ask query).2 = model ∨ (model.ask query).2 = model.normalize := by
  rcases asked : model.ask query with ⟨result, next⟩
  cases asking asked with
  | barred | answered => exact .inl rfl
  | ordered => exact .inr rfl

/-- What a model that was not disposed answers without putting its rows in order. -/
theorem ask_of_active (active : model.isDisposed = false) {query : Query}
    (plain : query.ordersRows = false) : (model.ask query).1 = query.answer model := by
  rw [ask, checkActive_of_active active]
  dsimp only
  rw [plain]
  rfl

/-! ### Changes -/

/-- **How an edit can go.** The work stack is what reading the arguments left of it. -/
inductive Editing (model : Model Engine) (change : Edit) :
    Except Error Bool → Model Engine → Prop
  /-- The gate is shut. -/
  | barred (error : Error) (gate : model.checkIdle = .error error) :
    Editing model change (.error error) model
  | failed (error : Error) (work : WorkStack) (gate : model.checkIdle = .ok ())
    (applied : change.apply model.options.rowMode model.problem model.work = (.error error, work)) :
    Editing model change (.error error) { model with work }
  | declined (work : WorkStack) (gate : model.checkIdle = .ok ())
    (applied : change.apply model.options.rowMode model.problem model.work = (.ok none, work)) :
    Editing model change (.ok false) { model with work }
  | accepted (problem : Problem) (work : WorkStack) (gate : model.checkIdle = .ok ())
    (applied : change.apply model.options.rowMode model.problem model.work
      = (.ok (some problem), work)) :
    Editing model change (.ok true) { model with problem, work, solution := none }

/-- An edit goes one of these ways. -/
theorem editing {change : Edit} {result : Except Error Bool}
    (edited : model.edit change = (result, next)) : Editing model change result next := by
  unfold edit at edited
  split at edited
  next error gate =>
    cases edited
    exact .barred error gate
  next gate =>
    split at edited
    next error work applied =>
      cases edited
      exact .failed error work gate applied
    next work applied =>
      cases edited
      exact .declined work gate applied
    next problem work applied =>
      cases edited
      exact .accepted problem work gate applied

/-! ### Settings and names -/

/-- **How setting something can go.** -/
inductive Configuring (model : Model Engine) :
    Setting → Except Error Answer → Model Engine → Prop
  /-- The gate is shut. -/
  | barred (setting : Setting) (error : Error) (gate : model.checkIdle = .error error) :
    Configuring model setting (.error error) model
  | name (name : String) (gate : model.checkIdle = .ok ()) :
    Configuring model (.name name) (.ok .done)
      { model with problem := { model.problem with name } }
  /-- Row mode is as it should be already. -/
  | rowModeSame (gate : model.checkIdle = .ok ()) :
    Configuring model (.rowMode model.options.rowMode) (.ok (.flag false)) model
  | rowModeOn (gate : model.checkIdle = .ok ()) (off : model.options.rowMode = false) :
    Configuring model (.rowMode true) (.ok (.flag true))
      (model.withOptions ({ · with rowMode := true }))
  /-- Leaving row mode puts the rows in order. -/
  | rowModeOff (gate : model.checkIdle = .ok ()) (on : model.options.rowMode = true) :
    Configuring model (.rowMode false) (.ok (.flag true))
      (model.withOptions ({ · with rowMode := false })).normalize
  | breakAtFirst (on : Bool) (gate : model.checkIdle = .ok ()) :
    Configuring model (.breakAtFirst on) (.ok .done)
      (model.withOptions ({ · with breakAtFirst := on }))
  | verbosity (verbosity : Verbosity) (gate : model.checkIdle = .ok ()) :
    Configuring model (.verbosity verbosity) (.ok .done) (model.withOptions ({ · with verbosity }))
  | timeout (seconds : Nat) (gate : model.checkIdle = .ok ()) :
    Configuring model (.timeout seconds) (.ok .done)
      (model.withOptions ({ · with timeout := seconds }))
  | noRow (row : Nat) (name : String) (error : Error) (gate : model.checkIdle = .ok ())
    (outside : checkRow model.problem row = .error error) :
    Configuring model (.rowName row name) (.error error) model
  /-- What should name the row cannot. -/
  | noRowName (row : Nat) (name : String) (gate : model.checkIdle = .ok ())
    (has : checkRow model.problem row = .ok ()) (unfit : Lp.isRowName name = false) :
    Configuring model (.rowName row name) (.ok (.flag false)) model
  | rowName (row : Nat) (name : String) (gate : model.checkIdle = .ok ())
    (has : checkRow model.problem row = .ok ()) (fit : Lp.isRowName name = true) :
    Configuring model (.rowName row name) (.ok (.flag true))
      { model with problem := model.problem.setRowName row name }
  | noColumn (column : Nat) (name : String) (error : Error) (gate : model.checkIdle = .ok ())
    (outside : checkColumn model.problem column = .error error) :
    Configuring model (.columnName column name) (.error error) model
  /-- What should name the column cannot. -/
  | noColumnName (column : Nat) (name : String) (gate : model.checkIdle = .ok ())
    (has : checkColumn model.problem column = .ok ()) (unfit : Lp.isName name = false) :
    Configuring model (.columnName column name) (.ok (.flag false)) model
  | columnName (column : Nat) (name : String) (gate : model.checkIdle = .ok ())
    (has : checkColumn model.problem column = .ok ()) (fit : Lp.isName name = true) :
    Configuring model (.columnName column name) (.ok (.flag true))
      { model with problem := model.problem.setColumnName column name }

/-- Setting something goes one of these ways. -/
theorem configuring {setting : Setting} {result : Except Error Answer}
    (configured : model.configure setting = (result, next)) :
    Configuring model setting result next := by
  unfold configure at configured
  split at configured
  next error gate =>
    cases configured
    exact .barred setting error gate
  next gate =>
    cases setting with
    | name name =>
      cases configured
      exact .name name gate
    | rowMode on =>
      dsimp only at configured
      split at configured
      next same =>
        cases configured
        obtain rfl := eq_of_beq same
        exact .rowModeSame gate
      next differs =>
        cases on with
        | true =>
          cases configured
          exact .rowModeOn gate (by simpa using differs)
        | false =>
          cases configured
          exact .rowModeOff gate (by simpa using differs)
    | breakAtFirst on =>
      cases configured
      exact .breakAtFirst on gate
    | verbosity verbosity =>
      cases configured
      exact .verbosity verbosity gate
    | timeout seconds =>
      cases configured
      exact .timeout seconds gate
    | rowName row name =>
      dsimp only at configured
      split at configured
      next error outside =>
        cases configured
        exact .noRow row name error gate outside
      next has =>
        split at configured
        next fit =>
          cases configured
          exact .rowName row name gate has fit
        next unfit =>
          cases configured
          exact .noRowName row name gate has (Bool.eq_false_iff.mpr unfit)
    | columnName column name =>
      dsimp only at configured
      split at configured
      next error outside =>
        cases configured
        exact .noColumn column name error gate outside
      next has =>
        split at configured
        next fit =>
          cases configured
          exact .columnName column name gate has fit
        next unfit =>
          cases configured
          exact .noColumnName column name gate has (Bool.eq_false_iff.mpr unfit)

/-! ### The end of a model -/

/-- **How disposing can go.** -/
inductive Disposing (model : Model Engine) : Except Error Unit → Model Engine → Prop
  | already (disposed : model.isDisposed = true) : Disposing model (.ok ()) model
  | busy (active : model.isDisposed = false) (running : model.isRunning = true) :
    Disposing model (.error .busy) model
  | ended (active : model.isDisposed = false) (idle : model.isRunning = false) :
    Disposing model (.ok ())
      { model with isDisposed := true, engine := none, solution := none, problem := {}, work := {} }

/-- Disposing goes one of these ways. -/
theorem disposing {result : Except Error Unit} (ends : model.dispose = (result, next)) :
    Disposing model result next := by
  unfold dispose at ends
  split at ends
  next disposed =>
    cases ends
    exact .already disposed
  next active =>
    split at ends
    next running =>
      cases ends
      exact .busy (Bool.eq_false_iff.mpr active) running
    next idle =>
      cases ends
      exact .ended (Bool.eq_false_iff.mpr active) (Bool.eq_false_iff.mpr idle)

/-- **What is left of a model** whose last holder is gone. -/
inductive Releasing (model : Model Engine) : Model Engine → Prop
  | already (disposed : model.isDisposed = true) : Releasing model model
  | ended (active : model.isDisposed = false) :
    Releasing model { model with isDisposed := true, engine := none, solution := none }

/-- One of these is left of it. -/
theorem releasing (released : model.release = next) : Releasing model next := by
  subst released
  unfold release
  split
  next disposed => exact .already disposed
  next active => exact .ended (Bool.eq_false_iff.mpr active)

theorem isDisposed_release (model : Model Engine) : model.release.isDisposed = true := by
  generalize released : model.release = next
  cases releasing released with
  | already disposed => exact disposed
  | ended => rfl

theorem isRunning_release (model : Model Engine) : model.release.isRunning = model.isRunning := by
  generalize released : model.release = next
  cases releasing released <;> rfl

theorem problem_release (model : Model Engine) : model.release.problem = model.problem := by
  generalize released : model.release = next
  cases releasing released <;> rfl

theorem options_release (model : Model Engine) : model.release.options = model.options := by
  generalize released : model.release = next
  cases releasing released <;> rfl

/-! ### The beginning of a solve -/

/-- **How the beginning of a solve can go**: what the caller is told, the model afterwards, and the
world. -/
inductive Beginning (solver : Solver World Engine) (model : Model Engine) (world : World) :
    Except Error (Assignment Engine) → Model Engine → World → Prop
  /-- The gate is shut. -/
  | barred (error : Error) (gate : model.checkIdle = .error error) :
    Beginning solver model world (.error error) model world
  /-- There is no engine to be had. -/
  | unequipped (message : String) (later : World) (gate : model.checkIdle = .ok ())
    (made : solver.engineOr model.engine world = (.error message, later)) :
    Beginning solver model world (.error (.engine message)) model later
  /-- The engine does not take the problem. -/
  | declined (engine built : Engine) (message : String) (middle later : World)
    (gate : model.checkIdle = .ok ())
    (made : solver.engineOr model.engine world = (.ok engine, middle))
    (given : solver.build model.problem.normalize engine middle = (.error message, built, later)) :
    Beginning solver model world (.error (.solve message))
      { model with problem := model.problem.normalize, engine := some built } later
  /-- The solve begins. -/
  | begun (engine built : Engine) (middle later : World) (gate : model.checkIdle = .ok ())
    (made : solver.engineOr model.engine world = (.ok engine, middle))
    (given : solver.build model.problem.normalize engine middle = (.ok (), built, later)) :
    Beginning solver model world (.ok ⟨built, model.options⟩)
      { model with
        problem := model.problem.normalize
        engine := none
        solveState := .running
        solution := none } later

/-- The beginning of a solve goes one of these ways. -/
theorem beginning {solver : Solver World Engine} {world later : World}
    {result : Except Error (Assignment Engine)}
    (begun : model.begin solver world = (result, next, later)) :
    Beginning solver model world result next later := by
  unfold begin at begun
  split at begun
  next error gate =>
    cases begun
    exact .barred error gate
  next gate =>
    split at begun
    next message after made =>
      cases begun
      exact .unequipped message later gate made
    next engine middle made =>
      dsimp only at begun
      split at begun
      next message built after given =>
        cases begun
        exact .declined engine built message middle later gate made given
      next built after given =>
        cases begun
        exact .begun engine built middle later gate made given

/-! ### Calls together -/

/-- **A call that no solve comes of**, and what it makes of the model. -/
inductive Call (solver : Solver World Engine) (model : Model Engine) : Model Engine → Prop
  | ask (query : Query) : Call solver model (model.ask query).2
  | edit (change : Edit) : Call solver model (model.edit change).2
  | configure (setting : Setting) : Call solver model (model.configure setting).2
  | dispose : Call solver model model.dispose.2
  | release : Call solver model model.release
  /-- A solve does not begin. -/
  | refused {next : Model Engine} (world later : World) (error : Error)
    (begun : model.begin solver world = (.error error, next, later)) : Call solver model next

end LinearProgram.Model
