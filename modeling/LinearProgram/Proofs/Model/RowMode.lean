/-
**A model in row mode, and the same model out of it.**

Row mode decides when the entries of appended rows are put in order, and nothing else. So a model in
row mode is compared with the model out of it whose rows are in order.

* `Edit.Same`: the same came of two edits, apart from the order of entries. `Edit.same_apply`: it does
  of one edit of problems that stand for the same plain problem.
* `Model.tidy`: the model out of row mode with its rows in order.
* `ask_tidy`, `edit_tidy`, `configure_tidy`, `dispose_tidy`, `release_tidy`, `begin_tidy`,
  `finish_tidy`: the tidy model gives the same answers, and the models afterwards differ in tidiness
  at most.
* `Solver.IgnoresRowMode`: engines that do not look at row mode; `attempt_tidy`.
-/

import LinearProgram.Proofs.Model.Calm
import LinearProgram.Proofs.Problem.Order

namespace LinearProgram

open Problem

variable {World Engine : Type}

/-! ### Edits -/

namespace Edit

/-- **The same came of two edits**: the same failure, or both were declined, or problems that stand
for the same plain problem; and the storage for arguments is the same. -/
structure Same (first second : Result) : Prop where
  outcome : first.1.map (Option.map Problem.plain) = second.1.map (Option.map Problem.plain)
  work : first.2 = second.2

theorem same_withEntries {argument : RowArgument} {dimension : Nat} {work : WorkStack}
    {change change' : List Entry → Problem}
    (agree : ∀ entries, FitEntries dimension entries →
      (change entries).plain = (change' entries).plain) :
    Same (withEntries argument dimension work change)
      (withEntries argument dimension work change') := by
  unfold withEntries
  rcases loaded : argument.load dimension work with ⟨result, later⟩
  cases result with
  | error fault => exact ⟨rfl, rfl⟩
  | ok entries =>
    have loads : (argument.load dimension work).1 = .ok entries := by rw [loaded]
    refine ⟨?_, rfl⟩
    exact congrArg (fun plain => Except.ok (some plain)) (agree entries (fit_load loads))

variable {first second : Problem}

theorem checkColumn_eq_of_plain (same : first.plain = second.plain) (index : Nat) :
    Model.checkColumn first index = Model.checkColumn second index := by
  rw [Model.checkColumn, columnCount_eq_of_plain same, Model.checkColumn]

theorem same_ofColumn (same : first.plain = second.plain) {index : Nat}
    {changed changed' : Option Problem} {work : WorkStack}
    (agree : first.HasColumn index → changed.map Problem.plain = changed'.map Problem.plain) :
    Same (ofColumn first index changed, work) (ofColumn second index changed', work) := by
  refine ⟨?_, rfl⟩
  rw [ofColumn, ofColumn, ← checkColumn_eq_of_plain same]
  cases passes : Model.checkColumn first index with
  | error error => rfl
  | ok => exact congrArg Except.ok (agree (hasColumn_of_checkColumn passes))

theorem map_setBounds?_eq_of_plain (same : first.plain = second.plain) (index : Nat)
    (lower upper : Float) : (first.setBounds? index lower upper).map Problem.plain
      = (second.setBounds? index lower upper).map Problem.plain := by
  rw [setBounds?, setBounds?, column_eq_of_plain same, Option.map_map, Option.map_map]
  refine congrArg (Option.map · _) (funext fun column => ?_)
  exact congrArg (Plain.modifyColumn · index fun _ => column) same

variable (stored : first.WellStored) (stored' : second.WellStored)
include stored stored'

theorem checkRow_eq_of_plain (same : first.plain = second.plain) (index : Nat) :
    Model.checkRow first index = Model.checkRow second index := by
  rw [Model.checkRow, rowCount_eq_of_plain stored stored' same, Model.checkRow]

theorem same_ofRow (same : first.plain = second.plain) {index : Nat}
    {changed changed' : Option Problem} {work : WorkStack}
    (agree : first.HasRow index → changed.map Problem.plain = changed'.map Problem.plain) :
    Same (ofRow first index changed, work) (ofRow second index changed', work) := by
  refine ⟨?_, rfl⟩
  rw [ofRow, ofRow, ← checkRow_eq_of_plain stored stored' same]
  cases passes : Model.checkRow first index with
  | error error => rfl
  | ok => exact congrArg Except.ok (agree (hasRow_of_checkRow passes))

/-- Arguments that fit a problem fit every one that stands for the same plain problem. -/
theorem fits_of_plain (same : first.plain = second.plain) {operation : Operation}
    (fits : operation.Fits first) : operation.Fits second := by
  have columns := columnCount_eq_of_plain same
  have rows := rowCount_eq_of_plain stored stored' same
  cases operation <;> simp only [Operation.Fits, HasRow, HasColumn, columns, rows] at fits ⊢ <;>
    exact fits

/-- An operation that fits does the same to problems that stand for the same plain problem. -/
theorem plain_apply_congr (same : first.plain = second.plain) {operation : Operation}
    (fits : operation.Fits first) :
    (operation.apply first).plain = (operation.apply second).plain := by
  rw [plain_apply stored fits, plain_apply stored' (fits_of_plain stored stored' same fits), same]

theorem map_resize?_eq_of_plain (same : first.plain = second.plain) (rows columns : Nat) :
    (first.resize? rows columns).map Problem.plain
      = (second.resize? rows columns).map Problem.plain := by
  by_cases enough : Storable rows columns
  · obtain ⟨resized, one⟩ : ∃ resized, first.resize? rows columns = some resized :=
      ⟨_, if_pos enough⟩
    obtain ⟨resized', other⟩ : ∃ resized, second.resize? rows columns = some resized :=
      ⟨_, if_pos enough⟩
    rw [one, other, Option.map_some, Option.map_some, plain_resize? stored one,
      plain_resize? stored' other, same]
  · rw [resize?, if_neg enough, resize?, if_neg enough]

theorem map_setRange?_eq_of_plain (same : first.plain = second.plain) (index : Nat)
    (range : Float) : (first.setRange? index range).map Problem.plain
      = (second.setRange? index range).map Problem.plain := by
  rw [setRange?, setRange?, rowInfo_eq_of_plain stored stored' same, Option.map_map, Option.map_map]
  refine congrArg (Option.map · _) (funext fun row => ?_)
  dsimp only [Function.comp]
  rw [plain_modifyRow, plain_modifyRow, same]

/-- **An edit does the same to problems that stand for the same plain problem**, in row mode or out of
it. -/
theorem same_apply (same : first.plain = second.plain) (change : Edit) (rowMode rowMode' : Bool)
    (work : WorkStack) :
    Same (change.apply rowMode first work) (change.apply rowMode' second work) := by
  have columns := columnCount_eq_of_plain same
  have rows := rowCount_eq_of_plain stored stored' same
  have congr (operation : Operation) (fits : operation.Fits first) :
      (operation.apply first).plain = (operation.apply second).plain :=
    plain_apply_congr stored stored' same fits
  cases change with
  | resize rows columns =>
    exact ⟨congrArg Except.ok (map_resize?_eq_of_plain stored stored' same rows columns), rfl⟩
  | setMaximize maximize =>
    exact ⟨congrArg (Except.ok ∘ some) (congr (.setMaximize maximize) trivial), rfl⟩
  | setObjectiveRow argument =>
    unfold apply
    dsimp only
    rw [← columns]
    exact same_withEntries fun entries fit => congr (.setObjectiveRow entries) fit
  | setObjective column value =>
    exact same_ofColumn same fun has => congrArg some (congr (.setObjective column value) has)
  | addRow argument relation rhs =>
    unfold apply
    dsimp only
    rw [← columns]
    refine same_withEntries fun entries fit => ?_
    rw [plain_appendRow stored fit.distinct, plain_appendRow stored' fit.distinct, same]
  | setRow row argument =>
    unfold apply
    dsimp only
    rw [← checkRow_eq_of_plain stored stored' same]
    cases passes : Model.checkRow first row with
    | error error => exact ⟨rfl, rfl⟩
    | ok =>
      have has := hasRow_of_checkRow passes
      dsimp only
      rw [← columns]
      exact same_withEntries fun entries fit => congr (.setRow row entries) ⟨has, fit⟩
  | setCoefficient row column value =>
    unfold apply
    dsimp only
    rw [← checkColumn_eq_of_plain same]
    cases passes : Model.checkColumn first column with
    | error error => exact ⟨rfl, rfl⟩
    | ok =>
      have hasColumn := hasColumn_of_checkColumn passes
      dsimp only [bind, Except.bind]
      by_cases objective : row = 0
      · rw [if_pos objective, if_pos objective]
        exact ⟨congrArg (Except.ok ∘ some) (congr (.setObjective column value) hasColumn), rfl⟩
      · rw [if_neg objective, if_neg objective]
        exact same_ofRow stored stored' same fun hasRow =>
          congrArg some (congr (.setCoefficient row column value) ⟨hasRow, hasColumn⟩)
  | setRelation row relation =>
    exact same_ofRow stored stored' same fun has =>
      congrArg some (congr (.setRelation row relation) has)
  | setRhs row value =>
    exact same_ofRow stored stored' same fun has => congrArg some (congr (.setRhs row value) has)
  | setRange row range =>
    exact same_ofRow stored stored' same fun _ =>
      map_setRange?_eq_of_plain stored stored' same row range
  | setRhsVector argument =>
    unfold apply
    dsimp only
    rw [← rows]
    exact same_withEntries fun entries fit => congr (.setRhsVector entries) fit
  | setBounds column lower upper =>
    exact same_ofColumn same fun _ => map_setBounds?_eq_of_plain same column lower upper
  | setLower column lower =>
    refine same_ofColumn same fun _ => ?_
    rw [setLower?, setLower?, column_eq_of_plain same]
    exact map_setBounds?_eq_of_plain same column _ _
  | setUpper column upper =>
    refine same_ofColumn same fun _ => ?_
    rw [setUpper?, setUpper?, column_eq_of_plain same]
    exact map_setBounds?_eq_of_plain same column _ _
  | setBinary column binary =>
    exact same_ofColumn same fun has => congrArg some (congr (.setBinary column binary) has)
  | setInteger column integer =>
    exact same_ofColumn same fun has => congrArg some (congr (.setInteger column integer) has)

end Edit

/-! ### Questions -/

/-- Whether the question is about row mode itself. -/
def Query.tellsRowMode : Query → Bool
  | .options | .rowMode => true
  | _ => false

/-- Whether the setting is row mode. -/
def Setting.isRowMode : Setting → Bool
  | .rowMode _ => true
  | _ => false

/-- The settings out of row mode. -/
def Options.tidy (options : Options) : Options :=
  { options with rowMode := false }

namespace Model

/-- **The model out of row mode, with its rows in order.** -/
def tidy (model : Model Engine) : Model Engine :=
  { model with problem := model.problem.normalize, options := model.options.tidy }

theorem ofColumn_eq_of_plain {first second : Problem} (same : first.plain = second.plain)
    {index : Nat} {answer answer' : Answer} (agree : answer = answer') :
    Query.ofColumn first index answer = Query.ofColumn second index answer' := by
  rw [Query.ofColumn, Query.ofColumn, Edit.checkColumn_eq_of_plain same, agree]

theorem ofRow_eq_of_plain {first second : Problem} (stored : first.WellStored)
    (stored' : second.WellStored) (same : first.plain = second.plain) {index : Nat}
    {answer answer' : Answer} (agree : first.HasRow index → answer = answer') :
    Query.ofRow first index answer = Query.ofRow second index answer' := by
  rw [Query.ofRow, Query.ofRow, ← Edit.checkRow_eq_of_plain stored stored' same]
  cases passes : Model.checkRow first index with
  | error error => rfl
  | ok => exact congrArg Except.ok (agree (Edit.hasRow_of_checkRow passes))

variable {model : Model Engine}

/-- The answer to a question that does not put the rows in order first does not depend on that. -/
theorem answer_tidy (stored : model.problem.WellStored) {query : Query}
    (ordinary : query.tellsRowMode = false) (unordered : query.ordersRows = false) :
    query.answer model.tidy = query.answer model := by
  have ordered : model.tidy.problem.WellStored := stored.normalize
  have same : model.tidy.problem.plain = model.problem.plain := plain_normalize stored
  have column := column_eq_of_plain same
  have rowInfo := rowInfo_eq_of_plain ordered stored same
  cases query with
  | options | rowMode => cases ordinary
  | text | problem => cases unordered
  | rowCount => exact congrArg (Except.ok ∘ Answer.count) (rowCount_eq_of_plain ordered stored same)
  | columnCount => exact congrArg (Except.ok ∘ Answer.count) (columnCount_eq_of_plain same)
  | name => exact congrArg (fun plain => Except.ok (Answer.text plain.name)) same
  | maximize => exact congrArg (fun plain => Except.ok (Answer.flag plain.maximize)) same
  | objective =>
    exact congrArg (fun plain => Except.ok (Answer.numbers (plain.columns.map (·.objective)))) same
  | breakAtFirst | verbosity | timeout | solveState | status => rfl
  | objectiveValue | columnValues | activities | copyColumnValues => rfl
  | objectiveOf index | lower index | upper index | isBinary index | isInteger index | kind index
  | bounds index =>
    refine ofColumn_eq_of_plain same ?_
    rw [column]
  | columnName index =>
    refine ofColumn_eq_of_plain same ?_
    rw [columnName, column, columnName]
  | relation index | rhs index | range index =>
    refine ofRow_eq_of_plain ordered stored same fun _ => ?_
    rw [rowInfo]
  | rowName index =>
    refine ofRow_eq_of_plain ordered stored same fun _ => ?_
    rw [rowName, rowInfo, rowName]
  | row index =>
    refine ofRow_eq_of_plain ordered stored same fun has => ?_
    rw [denseRow_eq_of_plain ordered stored same has]
  | coefficient index other =>
    unfold Query.answer
    dsimp only
    rw [Edit.checkColumn_eq_of_plain same]
    refine congrArg _ (funext fun _ => ?_)
    by_cases objective : index = 0
    · rw [if_pos objective, if_pos objective, column]
    · rw [if_neg objective, if_neg objective]
      refine ofRow_eq_of_plain ordered stored same fun has => ?_
      rw [coefficient_eq_of_plain ordered stored same has]

theorem tidy_tidy (stored : model.problem.WellStored) : model.tidy.tidy = model.tidy := by
  rw [tidy, tidy, normalize_normalize stored]
  rfl

/-- Models that are the same but for row mode and the order of entries. -/
theorem tidy_congr {first second : Model Engine} (stored : first.problem.WellStored)
    (stored' : second.problem.WellStored) (same : first.problem.plain = second.problem.plain)
    (others : { first with problem := {}, options := first.options.tidy }
      = { second with problem := {}, options := second.options.tidy }) :
    first.tidy = second.tidy := by
  have problem := normalize_eq_of_plain stored stored' same
  have whole := congrArg (fun model : Model Engine => { model with problem := first.problem.normalize })
    others
  dsimp only at whole
  rw [tidy, tidy, whole, problem]

/-- **A tidy model gives the same answers**, except about row mode. -/
theorem ask_tidy (stored : model.problem.WellStored) {query : Query}
    (ordinary : query.tellsRowMode = false) :
    (model.tidy.ask query).1 = (model.ask query).1 := by
  unfold ask
  have gate : model.tidy.checkActive = model.checkActive := rfl
  rw [gate]
  split
  · rfl
  · dsimp only
    cases orders : query.ordersRows with
    | true =>
      have same : model.tidy.normalize.problem = model.normalize.problem :=
        normalize_normalize stored
      cases query <;> simp only [Query.ordersRows, Bool.false_eq_true] at orders <;>
        simp only [if_true, Query.answer, same]
    | false => exact answer_tidy stored ordinary orders

/-- A question leaves the model as it was, but for tidiness. -/
theorem tidy_ask (stored : model.problem.WellStored) (query : Query) :
    (model.ask query).2.tidy = model.tidy := by
  unfold ask
  split
  · rfl
  · dsimp only
    split
    · exact tidy_congr stored.normalize stored (plain_normalize stored) rfl
    · rfl

/-! ### Changes -/

/-- **An edit does the same to a tidy model.** -/
theorem edit_tidy (stored : model.problem.WellStored) (change : Edit) :
    (model.tidy.edit change).1 = (model.edit change).1
      ∧ (model.tidy.edit change).2.tidy = (model.edit change).2.tidy := by
  have ordered : model.tidy.problem.WellStored := stored.normalize
  have plain : model.tidy.problem.plain = model.problem.plain := plain_normalize stored
  have gate : model.tidy.checkIdle = model.checkIdle := rfl
  obtain ⟨outcome, work⟩ := Edit.same_apply ordered stored plain change
    model.tidy.options.rowMode model.options.rowMode model.work
  unfold edit
  rw [gate]
  split
  · exact ⟨rfl, tidy_tidy stored⟩
  rcases one : change.apply model.tidy.options.rowMode model.tidy.problem model.work with
    ⟨result, later⟩
  rcases other : change.apply model.options.rowMode model.problem model.work with ⟨result', later'⟩
  rw [one, other] at outcome work
  rw [show model.tidy.work = model.work from rfl, one]
  dsimp only at outcome work
  subst work
  -- The outcomes are of one kind, and accepted problems stand for the same plain problem.
  match result, result', outcome with
  | .error _, .error _, rfl => exact ⟨rfl, tidy_congr ordered stored plain rfl⟩
  | .ok none, .ok none, _ => exact ⟨rfl, tidy_congr ordered stored plain rfl⟩
  | .ok (some changed), .ok (some changed'), same =>
    have same : changed.plain = changed'.plain := Option.some.inj (Except.ok.inj same)
    have kept := Edit.wellStored_of_apply ordered (by rw [one])
    have kept' := Edit.wellStored_of_apply stored (by rw [other])
    exact ⟨rfl, tidy_congr kept kept' same rfl⟩

/-- **A setting or a name does the same to a tidy model**, except row mode. -/
theorem configure_tidy (stored : model.problem.WellStored) {setting : Setting}
    (ordinary : setting.isRowMode = false) :
    (model.tidy.configure setting).1 = (model.configure setting).1
      ∧ (model.tidy.configure setting).2.tidy = (model.configure setting).2.tidy := by
  have ordered : model.tidy.problem.WellStored := stored.normalize
  have plain : model.tidy.problem.plain = model.problem.plain := plain_normalize stored
  have gate : model.tidy.checkIdle = model.checkIdle := rfl
  unfold configure
  rw [gate]
  split
  · exact ⟨rfl, tidy_tidy stored⟩
  cases setting with
  | rowMode => cases ordinary
  | name name =>
    refine ⟨rfl, tidy_congr ?_ ?_ ?_ rfl⟩
    · exact ordered.congr rfl rfl (Nat.le_refl _) rfl
    · exact stored.congr rfl rfl (Nat.le_refl _) rfl
    · exact congrArg (fun plain : Plain => { plain with name }) plain
  | breakAtFirst | verbosity | timeout => exact ⟨rfl, tidy_congr ordered stored plain rfl⟩
  | rowName row name =>
    dsimp only
    rw [Edit.checkRow_eq_of_plain ordered stored plain]
    split
    · exact ⟨rfl, tidy_tidy stored⟩
    split
    · refine ⟨rfl, tidy_congr (ordered.modifyRow _ _) (stored.modifyRow _ _) ?_ rfl⟩
      exact (plain_modifyRow _ _ _).trans ((congrArg (Plain.modifyInfo · row _) plain).trans
        (plain_modifyRow _ _ _).symm)
    · exact ⟨rfl, tidy_tidy stored⟩
  | columnName column name =>
    dsimp only
    rw [Edit.checkColumn_eq_of_plain plain]
    split
    · exact ⟨rfl, tidy_tidy stored⟩
    split
    · refine ⟨rfl, tidy_congr (ordered.modifyColumn _ _) (stored.modifyColumn _ _) ?_ rfl⟩
      exact congrArg (Plain.modifyColumn · column _) plain
    · exact ⟨rfl, tidy_tidy stored⟩

/-- Row mode changes nothing but tidiness. -/
theorem tidy_configure_rowMode (stored : model.problem.WellStored) (on : Bool) :
    (model.configure (.rowMode on)).2.tidy = model.tidy := by
  unfold configure
  split
  · rfl
  · dsimp only
    split
    · rfl
    · cases on with
      | true => rfl
      | false => exact tidy_congr stored.normalize stored (plain_normalize stored) rfl

theorem dispose_tidy (stored : model.problem.WellStored) :
    model.tidy.dispose.1 = model.dispose.1
      ∧ model.tidy.dispose.2.tidy = model.dispose.2.tidy := by
  have disposed : model.tidy.isDisposed = model.isDisposed := rfl
  have running : model.tidy.isRunning = model.isRunning := rfl
  unfold dispose
  rw [disposed, running]
  split
  · exact ⟨rfl, tidy_tidy stored⟩
  split
  · exact ⟨rfl, tidy_tidy stored⟩
  · exact ⟨rfl, rfl⟩

theorem release_tidy (stored : model.problem.WellStored) :
    model.tidy.release.tidy = model.release.tidy := by
  have disposed : model.tidy.isDisposed = model.isDisposed := rfl
  unfold release
  rw [disposed]
  split
  · exact tidy_tidy stored
  · exact tidy_congr stored.normalize stored (plain_normalize stored) rfl

end Model

/-! ### Solves -/

/-- What a solve takes out of its model, out of row mode. -/
def Assignment.tidy (assignment : Assignment Engine) : Assignment Engine :=
  { assignment with options := assignment.options.tidy }

/-- **Engines that do not look at row mode.** -/
def Solver.IgnoresRowMode (solver : Solver World Engine) : Prop :=
  ∀ options rowMode engine world,
    solver.run { options with rowMode } engine world = solver.run options engine world

theorem attempt_tidy {solver : Solver World Engine} (ignores : solver.IgnoresRowMode)
    (assignment : Assignment Engine) (world : World) :
    solver.attempt assignment.tidy world = solver.attempt assignment world := by
  have same := ignores assignment.options false assignment.engine world
  rw [Solver.attempt, Assignment.tidy, Options.tidy, same, Solver.attempt]

namespace Model

variable {model : Model Engine}

/-- **A solve of a tidy model begins with the same problem.** -/
theorem begin_tidy (stored : model.problem.WellStored) (solver : Solver World Engine)
    (world : World) : model.tidy.begin solver world
      = ((model.begin solver world).1.map (·.tidy), (model.begin solver world).2.1.tidy,
        (model.begin solver world).2.2) := by
  have problem : model.tidy.problem.normalize = model.problem.normalize :=
    normalize_normalize stored
  have engine : model.tidy.engine = model.engine := rfl
  rcases begun : model.begin solver world with ⟨result, next, later⟩
  cases beginning begun with
  | barred error gate =>
    have gate' : model.tidy.checkIdle = .error error := gate
    simp only [begin, gate']
    rfl
  | unequipped message _ gate made =>
    have gate' : model.tidy.checkIdle = .ok () := gate
    simp only [begin, gate', engine, made]
    rfl
  | declined first built message middle _ gate made given =>
    have gate' : model.tidy.checkIdle = .ok () := gate
    simp only [begin, gate', engine, made, problem, given]
    simp only [tidy, normalize_normalize stored]
    rfl
  | begun first built middle _ gate made given =>
    have gate' : model.tidy.checkIdle = .ok () := gate
    simp only [begin, gate', engine, made, problem, given]
    simp only [tidy, normalize_normalize stored]
    rfl

/-- A solve begins with the rows in order. -/
theorem problem_tidy_of_begin (stored : model.problem.WellStored) {solver : Solver World Engine}
    {world later : World} {assignment : Assignment Engine} {next : Model Engine}
    (begun : model.begin solver world = (.ok assignment, next, later)) :
    next.tidy.problem = next.problem := by
  cases beginning begun with
  | begun => exact normalize_normalize stored

theorem finish_tidy (model : Model Engine) (solver : Solver World Engine)
    (attempt : Attempt Engine) (world : World) : model.tidy.finish solver attempt world
      = ((model.finish solver attempt world).1, (model.finish solver attempt world).2.1.tidy,
        (model.finish solver attempt world).2.2) := by
  have disposed : model.tidy.isDisposed = model.isDisposed := rfl
  unfold finish
  dsimp only
  rw [disposed]
  split <;> rfl

end Model

end LinearProgram
