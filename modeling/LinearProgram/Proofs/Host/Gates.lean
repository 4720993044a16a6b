/-
**Which gate a call of a host meets** when there is nothing wrong with its arguments.

A call makes a request of its model, which meets the gates of the model, or it is declined on the spot
because an operator among its arguments stands for no relation. What is declined meets no gate.

* `Natural`: no argument holds a negative index.
* `Session.Guarded`: what comes of a call whose arguments are of their kinds, by the state of the model.
* **`guarded_call`**: this is so for every method, all such arguments and every model.
-/

import LinearProgram.Proofs.Host.Checking

namespace LinearProgram

open Host

variable {World Engine : Type}

namespace Host

/-- **No argument holds a negative index.** -/
def Natural (kinds : List Kind) (arguments : Arguments) : Prop :=
  ∀ kind value, (kind, value) ∈ kinds.zip arguments → ¬kind.Strays value

theorem Natural.not_straysFirst {kinds : List Kind} {arguments : Arguments}
    (natural : Natural kinds arguments) : ¬StraysFirst kinds arguments := by
  induction kinds generalizing arguments with
  | nil => exact nofun
  | cons kind kinds hyp =>
    cases arguments with
    | nil => exact nofun
    | cons value values =>
      rintro (strays | ⟨-, later⟩)
      · exact natural kind value List.mem_cons_self strays
      · exact hyp (fun other held member => natural other held (List.mem_cons_of_mem _ member)) later

/-- A question asks for nothing that a running model is busy for. -/
theorem Serves.isQuestion_iff {purpose : Purpose} {request : Request} (serves : Serves purpose request) :
    request.isQuestion = true ↔ purpose = .ask := by
  cases serves <;> simp [Request.isQuestion]

theorem Serves.dispose_iff {purpose : Purpose} {request : Request} (serves : Serves purpose request) :
    request = .dispose ↔ purpose = .dispose := by
  cases serves <;> simp

/-- No call asks whether its model is disposed of. -/
theorem Serves.ne_isDisposed {purpose : Purpose} {request : Request}
    (serves : Serves purpose request) : request ≠ .isDisposed := by
  cases serves <;> simp

end Host

namespace Session

variable {session : Session World Engine} {number : Nat} {model : Model Engine} {purpose : Purpose}
  {request : Request}

theorem prepared_of_serves (serves : Serves purpose request) : session.prepared request = session := by
  cases serves <;> rfl

theorem models_of_question (found : session.models[number]? = some model)
    (serves : Serves .ask request) :
    (session.perform number model request).2.models = session.models
      ∨ (session.perform number model request).2.models
        = session.models.set number model.normalize := by
  have told (query : Query) : session.models.set number (model.ask query).2 = session.models
      ∨ session.models.set number (model.ask query).2 = session.models.set number model.normalize := by
    rcases model.ask_eq_or query with same | ordered
    · rw [same]
      exact .inl (set_found found)
    · rw [ordered]
      exact .inr rfl
  cases serves with
  | ask query => exact told query
  | write path =>
    change (session.write number model (.file path)).2.models = _
      ∨ (session.write number model (.file path)).2.models = _
    rw [models_write]
    exact told .text

/-! ### Calls whose arguments are of their kinds -/

theorem respond_of_perform {result : Except Error Answer} {next : Session World Engine}
    (performed : session.perform number model request = (result, next)) :
    session.respond number model (.ok (.request request))
      = (result.map (Call.value request), next.pass 0) := by
  rw [respond, performed]

/-- **What comes of a call whose arguments are of their kinds.** -/
structure Guarded (session : Session World Engine) (number : Nat) (model : Model Engine)
    (method : String) (form : Form) (arguments : Arguments)
    (outcome : Except Error Value × Session World Engine) : Prop where
  /-- A row with an operator that stands for no relation is declined, whatever the model is. -/
  declined : Unrelated form.kinds arguments →
    method ∈ ["constraint", "constraintEx", "constraintStr"] ∧ outcome = (.ok (.bool false), session)
  /-- A disposed model can be disposed of again. -/
  deleted : model.isDisposed = true → method = "delete" → outcome = (.ok .null, session.pass 0)
  /-- It answers nothing else. -/
  disposed : model.isDisposed = true → method ≠ "delete" → ¬Unrelated form.kinds arguments →
    outcome = (.error .disposed, session.pass 0)
  /-- A running model takes no change, no end and no other solve. -/
  busy : model.isDisposed = false → model.isRunning = true → form.purpose ≠ .ask →
    ¬Unrelated form.kinds arguments → outcome = (.error .busy, session.pass 0)
  /-- A question changes nothing but the order of the entries of rows. -/
  asked : form.purpose = .ask → outcome.2.models = session.models
    ∨ outcome.2.models = session.models.set number model.normalize
  /-- The workers that go on meanwhile touch no model. -/
  untouched : (session.pass 0).models = session.models

theorem guarded_respond (found : session.models[number]? = some model) {method : String} {form : Form}
    {arguments : Arguments}
    (methods : (form.purpose = .dispose ↔ method = "delete")
      ∧ (.operator ∈ form.kinds → method ∈ ["constraint", "constraintEx", "constraintStr"]))
    {call : Call} (makes : form.Makes arguments call) :
    session.Guarded number model method form arguments (session.respond number model (.ok call)) where
  declined unrelated := by
    obtain ⟨code, member, -⟩ := id unrelated
    refine ⟨methods.2 (List.of_mem_zip member).1, ?_⟩
    rw [makes.declined unrelated]
    rfl
  deleted disposed delete := by
    have related : ¬Unrelated form.kinds arguments := fun ⟨code, member, _⟩ => by
      have appends := methods.2 (List.of_mem_zip member).1
      rw [delete] at appends
      exact absurd appends (by decide)
    obtain ⟨request, rfl, serves⟩ := makes.serves related
    obtain rfl := serves.dispose_iff.mpr (methods.1.mpr delete)
    rw [respond_of_perform ((gates found).disposed_dispose disposed)]
    rfl
  disposed disposed other related := by
    obtain ⟨request, rfl, serves⟩ := makes.serves related
    have other' : request ≠ .dispose := fun same => other (methods.1.mp (serves.dispose_iff.mp same))
    rw [respond_of_perform ((gates found).disposed disposed request other' serves.ne_isDisposed),
      prepared_of_serves serves]
    rfl
  busy active running change related := by
    obtain ⟨request, rfl, serves⟩ := makes.serves related
    have question : request.isQuestion = false :=
      Bool.eq_false_iff.mpr fun question => change (serves.isQuestion_iff.mp question)
    rw [respond_of_perform ((gates found).busy active running request question),
      prepared_of_serves serves]
    rfl
  asked question := by
    by_cases unrelated : Unrelated form.kinds arguments
    · rw [makes.declined unrelated]
      exact .inl rfl
    · obtain ⟨request, rfl, serves⟩ := makes.serves unrelated
      rw [question] at serves
      have passed := (models_pass (session.perform number model request).2 0).1
      exact (models_of_question found serves).imp passed.trans passed.trans
  untouched := (models_pass session 0).1

/-- **A call whose arguments are of their kinds, and none a negative index, respects the life of its
model**, unless it is declined for an operator that stands for no relation. On a disposed model all
methods but one fail; while a solve is under way every change does. Neither changes anything. -/
theorem guarded_call {method : String} {forms : List Form} (known : signature? method = some forms)
    {form : Form} (member : form ∈ forms) {slot : Nat}
    (held : session.model? slot = some (number, model)) {arguments : Arguments}
    (suited : Suited form.kinds arguments) (natural : Natural form.kinds arguments) :
    ∃ outcome, session.call slot method arguments = some outcome
      ∧ session.Guarded number model method form arguments outcome := by
  have looked := (conforms_decode known arguments).looked form member suited.length_eq
  obtain ⟨call, decoded, makes⟩ := looked.cases_of_arguments.2.2 natural.not_straysFirst suited
  refine ⟨_, call_eq held method arguments, ?_⟩
  rw [decoded]
  exact guarded_respond (found_of_held held) (signature?_spec known form member) makes

/-- A session with a model that is disposed of and one that is being solved. -/
def shutModels : Session Unit FixedEngine where
  solver := fixedSolver (.status .optimal) 0
  world := ()
  models := [{ isDisposed := true }, { solveState := .running }]
  slots := [(0, 0), (1, 1)]

/-- A row is refused by both models for what they are, and declined by both alike for its operator. -/
theorem guarded_call_constraint :
    shutModels.call 0 "constraint" [.null, .number 1, .number 4]
        = some (.error .disposed, shutModels.pass 0)
      ∧ shutModels.call 1 "constraint" [.null, .number 1, .number 4]
        = some (.error .busy, shutModels.pass 0)
      ∧ shutModels.call 0 "constraint" [.null, .number 7, .number 4]
        = some (.ok (.bool false), shutModels)
      ∧ shutModels.call 1 "constraint" [.null, .number 7, .number 4]
        = some (.ok (.bool false), shutModels) := by
  have known : signature? "constraint" = some [.change [.numbers, .operator, .number]] := rfl
  have ended : shutModels.model? 0 = some (0, { isDisposed := true }) := rfl
  have running : shutModels.model? 1 = some (1, { solveState := .running }) := rfl
  have suited (code : Float) :
      Suited [.numbers, .operator, .number] [.null, .number code, .number 4] :=
    .cons trivial (.cons trivial (.cons trivial .nil))
  have natural (code : Float) :
      Natural [.numbers, .operator, .number] [.null, .number code, .number 4] := by
    intro kind value member
    simp only [List.zip_cons_cons, List.zip_nil_left, List.mem_cons, List.not_mem_nil, or_false,
      Prod.mk.injEq] at member
    rcases member with ⟨rfl, rfl⟩ | ⟨rfl, rfl⟩ | ⟨rfl, rfl⟩ <;> exact nofun
  have related : ¬Unrelated [.numbers, .operator, .number] [.null, .number 1, .number 4] := by
    rintro ⟨code, member, none⟩
    obtain rfl : code = 1 := by simpa using member
    have stands : (Arguments.codeOf? Relation.ofCode? 1).isSome = true := by decide +kernel
    rw [none] at stands
    cases stands
  have unrelated : Unrelated [.numbers, .operator, .number] [.null, .number 7, .number 4] :=
    ⟨7, by simp, by decide +kernel⟩
  refine ⟨?_, ?_, ?_, ?_⟩
  · obtain ⟨outcome, called, guarded⟩ :=
      guarded_call known List.mem_cons_self ended (suited 1) (natural 1)
    rw [called, guarded.disposed rfl (by decide) related]
  · obtain ⟨outcome, called, guarded⟩ :=
      guarded_call known List.mem_cons_self running (suited 1) (natural 1)
    rw [called, guarded.busy rfl rfl nofun related]
  · obtain ⟨outcome, called, guarded⟩ :=
      guarded_call known List.mem_cons_self ended (suited 7) (natural 7)
    rw [called, (guarded.declined unrelated).2]
  · obtain ⟨outcome, called, guarded⟩ :=
      guarded_call known List.mem_cons_self running (suited 7) (natural 7)
    rw [called, (guarded.declined unrelated).2]

end Session

end LinearProgram
