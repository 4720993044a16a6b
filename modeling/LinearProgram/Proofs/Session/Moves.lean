/-
**All that a step of a workshop can do.**

* `Moved`: one constructor for each kind of step and each of its outcomes, with what has to hold before
  it and the state that it leads to.
* **`moved_of_move?`**, `Moved.move?_eq`: the steps that can be made are these.
* `begin?_eq_some`, `finish?_eq_some`: the beginning and the end of a solve, whoever asks for it.
-/

import LinearProgram.Session.Workshop

namespace LinearProgram.Workshop

variable {World Engine : Type} {shop next : Workshop World Engine} {number : Nat}

/-! ### Contexts that are not gone -/

theorem context?_eq_some_iff {owned : OwnedContext Engine} :
    shop.context? number = some owned
      ↔ shop.contexts[number]? = some owned ∧ owned.isGone = false := by
  rw [context?, Option.filter_eq_some_iff, Bool.not_eq_true']

theorem getElem?_of_context? {owned : OwnedContext Engine}
    (found : shop.context? number = some owned) : shop.contexts[number]? = some owned :=
  (context?_eq_some_iff.mp found).1

theorem here_of_context? {owned : OwnedContext Engine}
    (found : shop.context? number = some owned) : owned.isGone = false :=
  (context?_eq_some_iff.mp found).2

/-! ### Steps -/

/-- **All that a step can do**, with what has to hold before it. -/
inductive Moved (shop : Workshop World Engine) : WorkshopMove → Workshop World Engine → Prop
  | create (rows columns : Nat) : Moved shop (.create rows columns)
      (shop.withMade (Model.create shop.solver rows columns shop.world))
  | read (bytes : List UInt8) (verbosity : Verbosity) (name : String) :
    Moved shop (.read bytes verbosity name)
      (shop.withMade (Model.read shop.solver bytes verbosity name shop.world))
  | ask {number : Nat} {model : Model Engine} (query : Query)
    (found : shop.models[number]? = some model) :
    Moved shop (.ask number query) (shop.setModel number (model.ask query).2)
  | edit {number : Nat} {model : Model Engine} (change : Edit)
    (found : shop.models[number]? = some model) :
    Moved shop (.edit number change) (shop.setModel number (model.edit change).2)
  | configure {number : Nat} {model : Model Engine} (setting : Setting)
    (found : shop.models[number]? = some model) :
    Moved shop (.configure number setting) (shop.setModel number (model.configure setting).2)
  | dispose {number : Nat} {model : Model Engine} (found : shop.models[number]? = some model) :
    Moved shop (.dispose number) (shop.setModel number model.dispose.2)
  | release {number : Nat} {model : Model Engine} (found : shop.models[number]? = some model) :
    Moved shop (.release number) (shop.setModel number model.release)
  /-- A solve that somebody would wait for does not begin. -/
  | refused {number : Nat} {error : Error} {next : Workshop World Engine}
    (refuses : shop.begin? number = some (.error error, next)) : Moved shop (.begin number) next
  | begin {number : Nat} {assignment : Assignment Engine} {middle : Workshop World Engine}
    (begins : shop.begin? number = some (.ok assignment, middle)) : Moved shop (.begin number)
      { middle with waiting := middle.waiting ++ [.begun number assignment] }
  | attempt {index number : Nat} {assignment : Assignment Engine}
    (waits : shop.waiting[index]? = some (.begun number assignment)) : Moved shop (.attempt index)
      { shop with
        waiting := shop.waiting.set index
          (.ended number (shop.solver.attempt assignment shop.world).1)
        world := (shop.solver.attempt assignment shop.world).2 }
  | finish {index number : Nat} {attempt : Attempt Engine} {result : Except Error Status}
    {middle : Workshop World Engine} (waits : shop.waiting[index]? = some (.ended number attempt))
    (finishes : shop.finish? number attempt = some (result, middle)) :
    Moved shop (.finish index) { middle with waiting := middle.waiting.eraseIdx index }
  | openContext (workers : Nat) : Moved shop (.openContext workers)
      { shop with contexts := shop.contexts ++ [.ofSize workers] }
  /-- A solve that a context would take does not begin. -/
  | declined {number model : Nat} {owned : OwnedContext Engine} {error : Error}
    {next : Workshop World Engine} (callback : Callback)
    (found : shop.context? number = some owned) (free : owned.isFree = true)
    (refuses : shop.begin? model = some (.error error, next)) :
    Moved shop (.submit number model callback) next
  | submit {number model : Nat} {owned : OwnedContext Engine} {assignment : Assignment Engine}
    {middle : Workshop World Engine} (callback : Callback)
    (found : shop.context? number = some owned) (free : owned.isFree = true)
    (begins : shop.begin? model = some (.ok assignment, middle)) :
    Moved shop (.submit number model callback)
      ((middle.setContext number (owned.submit model assignment callback)).note
        (.accepted number owned.nextTicket model))
  | hand {number : Nat} {owned changed : OwnedContext Engine}
    (found : shop.context? number = some owned) (hands : owned.hand? = some changed) :
    Moved shop (.hand number) (shop.setContext number changed)
  | pool {number : Nat} {move : PoolMove Empty} {owned changed : OwnedContext Engine}
    (found : shop.context? number = some owned) (moves : owned.poolMove? move = some changed) :
    Moved shop (.pool number move) (shop.setContext number changed)
  | work {number index : Nat} {owned : OwnedContext Engine} {job : Job Engine}
    (found : shop.context? number = some owned) (has : owned.job? index = some job) :
    Moved shop (.work number index)
      (({ shop.setContext number (owned.setErrand index
            (.report ⟨job.ticket, job.model, (shop.solver.attempt job.assignment shop.world).1⟩)) with
          world := (shop.solver.attempt job.assignment shop.world).2 }).note
        (.ended number job.ticket (shop.solver.attempt job.assignment shop.world).1.result))
  | deliver {number : Nat} {owned changed : OwnedContext Engine} {report : Report Engine}
    {callback : Option Callback} {result : Except Error Status} {middle : Workshop World Engine}
    (found : shop.context? number = some owned)
    (receives : owned.receive? = some (report, callback, changed))
    (finishes : shop.finish? report.model report.attempt = some (result, middle)) :
    Moved shop (.deliver number) { middle.setContext number changed with
      log := middle.log
        ++ (callback.map fun _ => Notice.called number report.ticket result).toList }
  | leave {number : Nat} {owned changed : OwnedContext Engine}
    (found : shop.context? number = some owned) (leaves : owned.leave? = some changed) :
    Moved shop (.leave number) (shop.setContext number changed)

/-- **A step that can be made is one of these.** -/
theorem moved_of_move? {move : WorkshopMove} (moved : shop.move? move = some next) :
    Moved shop move next := by
  cases move with
  | create rows columns =>
    cases moved
    exact .create rows columns
  | read bytes verbosity name =>
    cases moved
    exact .read bytes verbosity name
  | ask number query =>
    obtain ⟨model, found, rfl⟩ := Option.map_eq_some_iff.mp moved
    exact .ask query found
  | edit number change =>
    obtain ⟨model, found, rfl⟩ := Option.map_eq_some_iff.mp moved
    exact .edit change found
  | configure number setting =>
    obtain ⟨model, found, rfl⟩ := Option.map_eq_some_iff.mp moved
    exact .configure setting found
  | dispose number =>
    obtain ⟨model, found, rfl⟩ := Option.map_eq_some_iff.mp moved
    exact .dispose found
  | release number =>
    obtain ⟨model, found, rfl⟩ := Option.map_eq_some_iff.mp moved
    exact .release found
  | begin number =>
    obtain ⟨⟨begun, middle⟩, begins, same⟩ := Option.map_eq_some_iff.mp moved
    cases begun with
    | error error =>
      cases same
      exact .refused begins
    | ok assignment =>
      cases same
      exact .begin begins
  | attempt index =>
    change shop.attempt? index = some next at moved
    unfold attempt? at moved
    split at moved
    next number assignment waits =>
      cases moved
      exact .attempt waits
    next => cases moved
  | finish index =>
    change shop.finishWaiting? index = some next at moved
    unfold finishWaiting? at moved
    split at moved
    next number attempt waits =>
      obtain ⟨⟨result, middle⟩, finishes, rfl⟩ := Option.map_eq_some_iff.mp moved
      exact .finish waits finishes
    next => cases moved
  | openContext workers =>
    cases moved
    exact .openContext workers
  | submit number model callback =>
    obtain ⟨owned, found, moved⟩ := Option.bind_eq_some_iff.mp moved
    rw [Option.ite_none_right_eq_some] at moved
    obtain ⟨free, moved⟩ := moved
    obtain ⟨⟨begun, middle⟩, begins, same⟩ := Option.map_eq_some_iff.mp moved
    cases begun with
    | error error =>
      cases same
      exact .declined callback found free begins
    | ok assignment =>
      cases same
      exact .submit callback found free begins
  | hand number =>
    obtain ⟨owned, found, moved⟩ := Option.bind_eq_some_iff.mp moved
    obtain ⟨changed, hands, rfl⟩ := Option.map_eq_some_iff.mp moved
    exact .hand found hands
  | pool number move =>
    obtain ⟨owned, found, moved⟩ := Option.bind_eq_some_iff.mp moved
    obtain ⟨changed, moves, rfl⟩ := Option.map_eq_some_iff.mp moved
    exact .pool found moves
  | work number index =>
    obtain ⟨owned, found, moved⟩ := Option.bind_eq_some_iff.mp moved
    obtain ⟨job, has, rfl⟩ := Option.map_eq_some_iff.mp moved
    exact .work found has
  | deliver number =>
    obtain ⟨owned, found, moved⟩ := Option.bind_eq_some_iff.mp moved
    obtain ⟨⟨report, callback, changed⟩, receives, moved⟩ := Option.bind_eq_some_iff.mp moved
    obtain ⟨⟨result, middle⟩, finishes, rfl⟩ := Option.map_eq_some_iff.mp moved
    have delivers := Moved.deliver found receives finishes
    cases callback with
    | none =>
      simp only [Option.map_none, Option.toList_none, List.append_nil] at delivers
      exact delivers
    | some callback => exact delivers
  | leave number =>
    obtain ⟨owned, found, moved⟩ := Option.bind_eq_some_iff.mp moved
    obtain ⟨changed, leaves, rfl⟩ := Option.map_eq_some_iff.mp moved
    exact .leave found leaves

/-- Each of these can be made. -/
theorem Moved.move?_eq {move : WorkshopMove} (moved : Moved shop move next) :
    shop.move? move = some next := by
  cases moved with
  | create | read | openContext => rfl
  | ask _ found | edit _ found | configure _ found | dispose found | release found =>
    exact Option.map_eq_some_iff.mpr ⟨_, found, rfl⟩
  | refused begins | begin begins => exact Option.map_eq_some_iff.mpr ⟨_, begins, rfl⟩
  | attempt waits => simp only [move?, attempt?, waits]
  | finish waits finishes => simp only [move?, finishWaiting?, waits, finishes, Option.map_some]
  | declined _ found free begins | submit _ found free begins =>
    simp [move?, submit?, found, free, begins]
  | hand found moves | pool found moves | leave found moves =>
    simp only [move?, onContext?, found, moves, Option.bind_some, Option.map_some]
  | work found has => simp only [move?, work?, found, has, Option.bind_some, Option.map_some]
  | @deliver _ _ _ _ callback _ _ found receives finishes =>
    simp only [move?, deliver?, found, receives, finishes, Option.bind_some, Option.map_some]
    cases callback with
    | none =>
      simp only [Option.map_none, Option.toList_none, List.append_nil]
      rfl
    | some callback => rfl

/-! ### Beginning and finishing -/

/-- **The beginning of a solve.** It is written down if it succeeds. -/
theorem begin?_eq_some {begun : Except Error (Assignment Engine)}
    (begins : shop.begin? number = some (begun, next)) :
    ∃ model changed later, shop.models[number]? = some model
      ∧ model.begin shop.solver shop.world = (begun, changed, later)
      ∧ next = { shop.setModel number changed with
        world := later
        log := shop.log
          ++ (begun.toOption.map fun _ => Notice.begun number changed.problem).toList } := by
  obtain ⟨model, found, same⟩ := Option.map_eq_some_iff.mp begins
  rcases outcome : model.begin shop.solver shop.world with ⟨result, changed, later⟩
  rw [outcome] at same
  refine ⟨model, changed, later, found, ?_⟩
  cases result with
  | error error =>
    cases same
    exact ⟨outcome, by simp [Except.toOption, setModel]⟩
  | ok assignment =>
    cases same
    exact ⟨outcome, rfl⟩

theorem exists_finish? {model : Model Engine} (found : shop.models[number]? = some model)
    (attempt : Attempt Engine) :
    ∃ result next, shop.finish? number attempt = some (result, next) :=
  ⟨_, _, congrArg (Option.map _) found⟩

/-- **The end of a solve**, which is written down. -/
theorem finish?_eq_some {attempt : Attempt Engine} {result : Except Error Status}
    (finishes : shop.finish? number attempt = some (result, next)) :
    ∃ model changed later, shop.models[number]? = some model
      ∧ model.finish shop.solver attempt shop.world = (result, changed, later)
      ∧ next = { shop.setModel number changed with
        world := later
        log := shop.log ++ [.finished number result] } := by
  obtain ⟨model, found, same⟩ := Option.map_eq_some_iff.mp finishes
  cases same
  exact ⟨model, _, _, found, rfl, rfl⟩

theorem frame_of_begin? {number : Nat} {begun : Except Error (Assignment Engine)}
    (begins : shop.begin? number = some (begun, next)) :
    next.waiting = shop.waiting ∧ next.contexts = shop.contexts := by
  obtain ⟨model, changed, later, -, -, rfl⟩ := begin?_eq_some begins
  exact ⟨rfl, rfl⟩

theorem frame_of_finish? {number : Nat} {attempt : Attempt Engine}
    {result : Except Error Status} (finishes : shop.finish? number attempt = some (result, next)) :
    next.waiting = shop.waiting ∧ next.contexts = shop.contexts := by
  obtain ⟨model, changed, later, -, -, rfl⟩ := finish?_eq_some finishes
  exact ⟨rfl, rfl⟩

end LinearProgram.Workshop
