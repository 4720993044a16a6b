/-
**In which order a call of a host is checked.**

The arguments are counted, then they are looked at one after the other, and only then is the model
asked anything. A negative index is told as soon as it is met, so an argument behind it may be of the
wrong kind and not be told.

* `Model.Fails`: how a request fails, and the model afterwards; `fails_of_perform`: there is no other
  way.
* `Session.Checked`: what a call tells and leaves, by its arguments.
* **`checked_call`**: this is so for every method, all arguments and every model.
-/

import LinearProgram.Proofs.Host.Decoding
import LinearProgram.Proofs.Session.Lifecycle
import LinearProgram.Solver.Fixed

namespace LinearProgram

variable {World Engine : Type}

/-! ### Failures of shape -/

/-- **If it fails at all, it is for the shape of an argument.** -/
inductive FailsByShape {α : Type} : Except Error α → Prop
  | ok (value : α) : FailsByShape (.ok value)
  | shape (fault : ShapeFault) : FailsByShape (.error (.shape fault))

theorem FailsByShape.bind {α β : Type} {first : Except Error α} {rest : α → Except Error β}
    (check : FailsByShape first) (others : ∀ value, FailsByShape (rest value)) :
    FailsByShape (first >>= rest) := by
  cases check with
  | ok value => exact others value
  | shape fault => exact .shape fault

theorem FailsByShape.returns {α : Type} {check : Except Error Unit} (byShape : FailsByShape check)
    (value : α) : FailsByShape (do check; return value) :=
  byShape.bind fun _ => .ok value

theorem failsByShape_checkColumn (problem : Problem) (index : Nat) :
    FailsByShape (Model.checkColumn problem index) := by
  unfold Model.checkColumn
  split
  · exact .shape _
  · exact .ok ()

theorem failsByShape_checkRow (problem : Problem) (index : Nat) :
    FailsByShape (Model.checkRow problem index) := by
  unfold Model.checkRow
  split
  · exact .shape _
  · exact .ok ()

theorem Query.failsByShape_answer (model : Model Engine) (query : Query) :
    FailsByShape (query.answer model) := by
  cases query with
  | objectiveOf | bounds | lower | upper | isBinary | isInteger | kind | columnName =>
    exact (failsByShape_checkColumn ..).returns _
  | row | relation | rowName | rhs | range => exact (failsByShape_checkRow ..).returns _
  | coefficient row column =>
    refine (failsByShape_checkColumn _ column).bind fun _ => ?_
    split
    · exact .ok _
    · exact (failsByShape_checkRow ..).returns _
  | status =>
    rw [answer]
    split <;> exact .ok _
  | _ => exact .ok _

namespace Edit

theorem failsByShape_withEntries (argument : RowArgument) (dimension : Nat) (work : WorkStack)
    (change : List Entry → Problem) :
    FailsByShape (withEntries argument dimension work change).1 := by
  unfold withEntries
  dsimp only
  split
  · exact .ok _
  · exact .shape _

theorem failsByShape_apply (change : Edit) (rowMode : Bool) (problem : Problem) (work : WorkStack) :
    FailsByShape (change.apply rowMode problem work).1 := by
  cases change with
  | resize | setMaximize => exact .ok _
  | setObjective | setBounds | setLower | setUpper | setBinary | setInteger =>
    exact (failsByShape_checkColumn ..).returns _
  | setRelation | setRhs | setRange => exact (failsByShape_checkRow ..).returns _
  | setObjectiveRow | addRow | setRhsVector => exact failsByShape_withEntries ..
  | setRow row argument =>
    have checked := failsByShape_checkRow problem row
    unfold apply
    dsimp only
    generalize Model.checkRow problem row = result at checked ⊢
    cases checked with
    | ok => exact failsByShape_withEntries ..
    | shape fault => exact .shape fault
  | setCoefficient row column value =>
    refine (failsByShape_checkColumn problem column).bind fun _ => ?_
    split
    · exact .ok _
    · exact (failsByShape_checkRow ..).returns _

end Edit

/-! ### How a request fails -/

namespace Model

/-- **How a request fails**, and the model afterwards. No request fails for the number or the kinds of
the arguments of a call. -/
inductive Fails (model : Model Engine) : Error → Model Engine → Prop
  /-- Nothing but what the storage for arguments held is overwritten, and all of it is given back. -/
  | shape (fault : ShapeFault) (work : WorkStack) (given : work.isEmpty = model.work.isEmpty) :
    Fails model (.shape fault) { model with work }
  | disposed : Fails model .disposed model
  | busy : Fails model .busy model
  | file (next : Model Engine) : Fails model .file next
  | engine (message : String) : Fails model (.engine message) model
  | solve (message : String) (next : Model Engine) : Fails model (.solve message) next

variable {model : Model Engine} {error : Error}

theorem fails_of_shape {α : Type} {result : Except Error α} (byShape : FailsByShape result)
    (failed : result = .error error) : Fails model error model := by
  subst failed
  cases byShape with
  | shape fault => exact .shape fault model.work rfl

theorem fails_of_checkActive (gate : model.checkActive = .error error) : Fails model error model := by
  unfold checkActive at gate
  split at gate <;> cases gate
  exact .disposed

theorem fails_of_checkIdle (gate : model.checkIdle = .error error) : Fails model error model := by
  unfold checkIdle at gate
  split at gate
  · cases gate
    exact .disposed
  split at gate <;> cases gate
  exact .busy

theorem fails_of_ask {query : Query} (failed : (model.ask query).1 = .error error) :
    Fails model error (model.ask query).2 := by
  rcases asked : model.ask query with ⟨result, next⟩
  rw [asked] at failed
  cases asking asked with
  | barred reason gate =>
    cases failed
    exact fails_of_checkActive gate
  | ordered _ orders =>
    -- The questions that put the rows in order do not fail.
    cases query with
    | text | problem => cases failed
    | _ => cases orders
  | answered => exact fails_of_shape (query.failsByShape_answer model) failed

theorem fails_of_edit {change : Edit} (failed : (model.edit change).1 = .error error) :
    Fails model error (model.edit change).2 := by
  have given := change.isEmpty_apply model.options.rowMode model.problem model.work
  have byShape := change.failsByShape_apply model.options.rowMode model.problem model.work
  rcases edited : model.edit change with ⟨result, next⟩
  rw [edited] at failed
  cases editing edited with
  | barred reason gate =>
    cases failed
    exact fails_of_checkIdle gate
  | failed reason work _ applied =>
    rw [applied] at given byShape
    cases failed
    cases byShape with
    | shape fault => exact .shape fault work given
  | declined | accepted => cases failed

theorem fails_of_configure {setting : Setting} (failed : (model.configure setting).1 = .error error) :
    Fails model error (model.configure setting).2 := by
  rcases configured : model.configure setting with ⟨result, next⟩
  rw [configured] at failed
  cases configuring configured with
  | barred _ reason gate =>
    cases failed
    exact fails_of_checkIdle gate
  | noRow row name reason _ outside =>
    cases failed
    exact fails_of_shape (failsByShape_checkRow model.problem row) outside
  | noColumn column name reason _ outside =>
    cases failed
    exact fails_of_shape (failsByShape_checkColumn model.problem column) outside
  | _ => cases failed

theorem fails_of_dispose (failed : model.dispose.1 = .error error) :
    Fails model error model.dispose.2 := by
  rcases ends : model.dispose with ⟨result, next⟩
  rw [ends] at failed
  cases disposing ends with
  | busy =>
    cases failed
    exact .busy
  | already | ended => cases failed

theorem fails_of_begin {solver : Solver World Engine} {world later : World} {next : Model Engine}
    (begun : model.begin solver world = (.error error, next, later)) : Fails model error next := by
  cases beginning begun with
  | barred error gate => exact fails_of_checkIdle gate
  | unequipped message => exact .engine message
  | declined engine built message => exact .solve message _

end Model

namespace Session

variable {session : Session World Engine} {number : Nat} {model : Model Engine} {error : Error}

/-- A solve fails before it begins, or because the engine did. -/
theorem fails_of_solve (found : session.models[number]? = some model)
    (failed : (session.solve number).1 = .error error) :
    ∃ next, (session.solve number).2.models = session.models.set number next
      ∧ model.Fails error next := by
  rcases begun : model.begin session.solver session.world with ⟨result, changed, later⟩
  cases result with
  | error reason =>
    rw [solve, begin_eq found begun] at failed ⊢
    cases failed
    exact ⟨changed, rfl, Model.fails_of_begin begun⟩
  | ok assignment =>
    obtain ⟨world, result, models⟩ := solve_eq found begun
    rw [result] at failed
    obtain ⟨message, -, rfl, -⟩ := Model.finish_eq_error failed
    exact ⟨_, models, .solve message _⟩

theorem file_of_put {text : String} {sink : Sink} (failed : (session.put text sink).1 = .error error) :
    error = .file := by
  unfold put at failed
  split at failed
  · cases failed
  · cases failed
    rfl
  · split at failed <;> cases failed
    rfl

theorem fails_of_write {sink : Sink} (failed : (session.write number model sink).1 = .error error) :
    ∃ next, (session.write number model sink).2.models = session.models.set number next
      ∧ model.Fails error next := by
  refine ⟨(model.ask .text).2, models_write session number model sink, ?_⟩
  unfold write at failed
  split at failed
  next text asked answer =>
    obtain rfl := file_of_put failed
    exact .file _
  · exact Model.fails_of_ask failed

theorem error_of_map {α β : Type} {result : Except Error α} {change : α → β}
    (failed : result.map change = .error error) : result = .error error := by
  cases result <;> cases failed
  rfl

/-- **How a request fails**, and what that leaves of its model. -/
theorem fails_of_perform (found : session.models[number]? = some model) {request : Request}
    (failed : (session.perform number model request).1 = .error error) :
    ∃ next, (session.perform number model request).2.models = session.models.set number next
      ∧ model.Fails error next := by
  cases request with
  | ask query => exact ⟨_, rfl, Model.fails_of_ask failed⟩
  | isDisposed => cases failed
  | edit change => exact ⟨_, rfl, Model.fails_of_edit (error_of_map failed)⟩
  | configure setting => exact ⟨_, rfl, Model.fails_of_configure failed⟩
  | write sink => exact fails_of_write failed
  | solve => exact fails_of_solve found (error_of_map failed)
  | solveLater callback =>
    obtain ⟨changed, later, begun, models⟩ := solveLater_eq_error found (error_of_map failed)
    exact ⟨changed, models, Model.fails_of_begin begun⟩
  | dispose => exact ⟨_, rfl, Model.fails_of_dispose (error_of_map failed)⟩

/-! ### Calls -/

open Host

/-- What is told to the host once its call is decoded, and the session afterwards. -/
def respond (session : Session World Engine) (number : Nat) (model : Model Engine) :
    Except Error Call → Except Error Value × Session World Engine
  | .error error => (.error error, session)
  | .ok .decline => (.ok (.bool false), session)
  | .ok (.request request) =>
    let (result, session) := session.perform number model request
    (result.map (Call.value request), session.pass 0)

theorem call_eq {slot : Nat} (held : session.model? slot = some (number, model)) (method : String)
    (arguments : Arguments) :
    session.call slot method arguments
      = some (session.respond number model (Call.decode method arguments)) := by
  rw [call, held, Option.map_some]
  cases Call.decode method arguments with
  | error => rfl
  | ok decoded => cases decoded <;> rfl

theorem found_of_held {slot : Nat} (held : session.model? slot = some (number, model)) :
    session.models[number]? = some model := by
  obtain ⟨there, found, rest⟩ := Option.bind_eq_some_iff.mp held
  obtain ⟨_, found, same⟩ := Option.bind_eq_some_iff.mp rest
  cases same
  exact found

/-- **What a call tells and leaves, by its arguments.** -/
structure Checked (session : Session World Engine) (number : Nat) (model : Model Engine)
    (forms : List Form) (arguments : Arguments)
    (outcome : Except Error Value × Session World Engine) : Prop where
  /-- First the arguments are counted. -/
  uncounted : (∀ form ∈ forms, form.kinds.length ≠ arguments.length) →
    outcome = (.error .arity, session)
  /-- Then one of the wrong kind is told, unless a negative index is met before. -/
  unsuited : ∀ form ∈ forms, form.kinds.length = arguments.length →
    ¬StraysFirst form.kinds arguments → ¬Suited form.kinds arguments →
    ∃ fault, outcome = (.error (.kind fault), session)
  strayed : ∀ form ∈ forms, form.kinds.length = arguments.length →
    StraysFirst form.kinds arguments →
    ∃ index, outcome = (.error (.shape (.negativeIndex index)), session)
  /-- Only then anything else can be wrong. -/
  suited : ∀ form ∈ forms, Suited form.kinds arguments → ¬StraysFirst form.kinds arguments →
    outcome.1 ≠ .error .arity ∧ ∀ fault, outcome.1 ≠ .error (.kind fault)
  /-- A failure of shape leaves the model as it was; only what the storage for arguments held may be
  overwritten. -/
  misfit : ∀ fault, outcome.1 = .error (.shape fault) →
    ∃ work, work.isEmpty = model.work.isEmpty
      ∧ outcome.2.models = session.models.set number { model with work }

/-- A failure behind the decoding. -/
theorem fails_of_respond (found : session.models[number]? = some model) {call : Call}
    (failed : (session.respond number model (.ok call)).1 = .error error) :
    ∃ next, (session.respond number model (.ok call)).2.models = session.models.set number next
      ∧ model.Fails error next := by
  cases call with
  | decline => cases failed
  | request request =>
    obtain ⟨next, models, fails⟩ := fails_of_perform found (error_of_map failed)
    exact ⟨next, (models_pass _ 0).1.trans models, fails⟩

theorem checked_respond (found : session.models[number]? = some model) {forms : List Form}
    {arguments : Arguments} {decoded : Except Error Call}
    (conforms : Conforms forms arguments decoded) :
    session.Checked number model forms arguments (session.respond number model decoded) where
  uncounted other := by
    rw [conforms.counted other]
    rfl
  unsuited form member same first unsuits := by
    obtain ⟨-, unsuited, -⟩ := (conforms.looked form member same).cases_of_arguments
    obtain ⟨fault, rfl⟩ := unsuited first unsuits
    exact ⟨fault, rfl⟩
  strayed form member same first := by
    obtain ⟨strayed, -, -⟩ := (conforms.looked form member same).cases_of_arguments
    obtain ⟨index, rfl⟩ := strayed first
    exact ⟨index, rfl⟩
  suited form member suited first := by
    have same : form.kinds.length = arguments.length := suited.length_eq
    obtain ⟨-, -, taken⟩ := (conforms.looked form member same).cases_of_arguments
    obtain ⟨call, rfl, -⟩ := taken first suited
    refine ⟨fun failed => ?_, fun fault failed => ?_⟩
    · obtain ⟨next, -, fails⟩ := fails_of_respond found failed
      cases fails
    · obtain ⟨next, -, fails⟩ := fails_of_respond found failed
      cases fails
  misfit fault failed := by
    cases decoded with
    | error error => exact ⟨model.work, rfl, (set_found found).symm⟩
    | ok call =>
      obtain ⟨next, models, fails⟩ := fails_of_respond found failed
      cases fails with
      | shape fault work given => exact ⟨work, given, models⟩

/-- **Every call of a host is checked in this order**, whatever the state of the model. -/
theorem checked_call {method : String} {forms : List Form} (known : signature? method = some forms)
    {slot : Nat} (held : session.model? slot = some (number, model)) (arguments : Arguments) :
    ∃ outcome, session.call slot method arguments = some outcome
      ∧ session.Checked number model forms arguments outcome :=
  ⟨_, call_eq held method arguments,
    checked_respond (found_of_held held) (conforms_decode known arguments)⟩

/-- A session with an empty model. -/
def emptyModel : Session Unit FixedEngine where
  solver := fixedSolver (.status .optimal) 0
  world := ()
  models := [{}]
  slots := [(0, 0)]

/-- A text in the place of a row is told behind an index that is not negative, and not told behind one
that is. -/
theorem checked_call_setRow :
    (∃ fault, emptyModel.call 0 "setRow" [.number 1, .text "x"]
        = some (.error (.kind fault), emptyModel))
      ∧ ¬Suited [.index, .numbers] [.number (-1), .text "x"]
      ∧ ∃ index, emptyModel.call 0 "setRow" [.number (-1), .text "x"]
        = some (.error (.shape (.negativeIndex index)), emptyModel) := by
  have known : signature? "setRow" = some [.change [.index, .numbers]] := rfl
  have held : emptyModel.model? 0 = some (0, {}) := rfl
  have unsuited (index : Float) : ¬Suited [.index, .numbers] [.number index, .text "x"] := fun suited =>
    (List.forall₂_cons.mp (List.forall₂_cons.mp suited).2).1
  have first : ¬StraysFirst [.index, .numbers] [.number 1, .text "x"] := by
    have one : Decimal.integer? 1 = some 1 := by decide +kernel
    rintro (⟨whole, same, negative⟩ | ⟨-, strays | ⟨-, rest⟩⟩)
    · cases one.symm.trans same
      exact absurd negative (by decide)
    · exact strays
    · exact rest
  have negative : StraysFirst [.index, .numbers] [.number (-1), .text "x"] :=
    .inl ⟨-1, by decide +kernel, by decide⟩
  refine ⟨?_, unsuited _, ?_⟩
  · obtain ⟨outcome, called, checked⟩ := checked_call known held [.number 1, .text "x"]
    obtain ⟨fault, rfl⟩ := checked.unsuited _ List.mem_cons_self rfl first (unsuited 1)
    exact ⟨fault, called⟩
  · obtain ⟨outcome, called, checked⟩ := checked_call known held [.number (-1), .text "x"]
    obtain ⟨index, rfl⟩ := checked.strayed _ List.mem_cons_self rfl negative
    exact ⟨index, called⟩

end Session

end LinearProgram
