/-
**The decoding of a call follows the signature of its method.**

* `looks_number`, `looks_index`, `looks_indices`, …: what each look at an argument can tell.
* `Conforms`: the decoding of a method agrees with the forms of its signature.
* **`conforms_decode`**: it does so for every method.
-/

import LinearProgram.Proofs.Host.Signature

namespace LinearProgram.Host

variable {arguments : Arguments} {position : Nat} {value : Value}

/-! ### Looks at one argument -/

theorem expect_eq {α : Type} (found : arguments[position]? = some value) (expected : Expected)
    (view : Value → Option α) :
    arguments.expect position expected view = match view value with
      | some result => .ok result
      | none => .error (Arguments.unexpected position expected) := by
  rw [Arguments.expect, Arguments.get, found]
  rfl

/-- A look through a view that gives something exactly of the values of the kind. -/
theorem looks_expect {α : Type} {kind : Kind} {expected : Expected} {view : Value → Option α}
    (found : arguments[position]? = some value)
    (views : (view value).isSome = true ↔ kind.Suits value) (plain : ¬kind.Strays value) :
    Looks kind value (arguments.expect position expected view) := by
  rw [expect_eq found]
  cases viewed : view value with
  | none =>
    refine .unsuited _ (fun suits => ?_) plain
    rw [← views, viewed] at suits
    cases suits
  | some result =>
    refine .taken result (views.mp ?_) plain
    rw [viewed]
    rfl

theorem looks_number (found : arguments[position]? = some value) :
    Looks .number value (arguments.number position) :=
  looks_expect found (by cases value <;> simp [Value.asNumber?, Kind.Suits]) nofun

theorem looks_operator (found : arguments[position]? = some value) :
    Looks .operator value (arguments.number position) :=
  looks_expect found (by cases value <;> simp [Value.asNumber?, Kind.Suits]) nofun

theorem looks_boolean (found : arguments[position]? = some value) :
    Looks .boolean value (arguments.boolean position) :=
  looks_expect found (by cases value <;> simp [Value.asBool?, Kind.Suits]) nofun

theorem looks_string (found : arguments[position]? = some value) :
    Looks .text value (arguments.string position) :=
  looks_expect found (by cases value <;> simp [Value.asText?, Kind.Suits]) nofun

/-- A number is what the value is. -/
theorem eq_number_of_number (found : arguments[position]? = some value) {amount : Float}
    (looked : arguments.number position = .ok amount) : value = .number amount := by
  rw [Arguments.number, expect_eq found] at looked
  cases value with
  | number => cases looked; rfl
  | null | bool | text | array => cases looked

theorem looks_verbosity (found : arguments[position]? = some value) :
    Looks .level value (arguments.verbosity position) := by
  rw [Arguments.verbosity, Arguments.number, expect_eq found]
  cases value with
  | number amount =>
    dsimp only [Value.asNumber?, bind, Except.bind]
    split
    next verbosity coded => exact .taken verbosity (congrArg Option.isSome coded) nofun
    next none =>
      refine .unsuited _ (fun suits => ?_) nofun
      rw [Kind.Suits, none] at suits
      cases suits
  | null | bool | text | array => exact .unsuited _ nofun nofun

/-! ### Looks at indices -/

/-- A number that is taken for an index. -/
theorem looks_indexOf (position : Nat) (expected : Expected) (amount : Float) :
    Looks .index (.number amount) (Arguments.indexOf position expected amount) := by
  unfold Arguments.indexOf
  cases same : Decimal.integer? amount with
  | none =>
    have fraction : ¬Integral amount := by
      rw [Integral, same]
      exact Bool.false_ne_true
    exact .unsuited _ fraction fun below => fraction below.integral
  | some whole =>
    dsimp only
    split
    next negative => exact .strayed amount ⟨whole, same, negative⟩
    next natural =>
      refine .taken _ (congrArg Option.isSome same) ?_
      rintro ⟨whole', same', negative⟩
      obtain rfl := Option.some.inj (same.symm.trans same')
      exact natural negative

theorem looks_index (found : arguments[position]? = some value) :
    Looks .index value (arguments.index position) := by
  rw [Arguments.index, Arguments.number, expect_eq found]
  cases value with
  | number amount => exact looks_indexOf position .integer amount
  | null | bool | text | array => exact .unsuited _ nofun nofun

theorem looks_columnOf (found : arguments[0]? = some value) :
    Looks .index value (Call.columnOf arguments) := by
  have looked := looks_index found
  unfold Call.columnOf
  generalize arguments.index 0 = result at looked ⊢
  cases looked with
  | taken result suits plain => exact .taken result suits plain
  | unsuited fault unsuits plain => exact .unsuited _ unsuits plain
  | strayed number strays => exact .strayed number strays

/-! ### Looks at rows -/

/-- **How the numbers of a row are listed**: all of them, or none if an item is no number. -/
inductive Listing : List Value → Option (List Float) → Prop
  | all (amounts : List Float) : Listing (amounts.map .number) (some amounts)
  | none {items : List Value} (item : Value) (member : item ∈ items) (other : ¬item.IsNumber) :
    Listing items none

theorem listing_mapM (items : List Value) : Listing items (items.mapM Value.asNumber?) := by
  induction items with
  | nil => exact .all []
  | cons first rest hyp =>
    rw [List.mapM_cons]
    cases first with
    | number amount =>
      have viewed : Value.asNumber? (.number amount) = some amount := rfl
      rw [viewed]
      cases listed : rest.mapM Value.asNumber? with
      | some amounts =>
        rw [listed] at hyp
        cases hyp
        exact .all (amount :: amounts)
      | none =>
        rw [listed] at hyp
        cases hyp with
        | none item member other => exact .none item (List.mem_cons_of_mem _ member) other
    | null | bool | text | array => exact .none _ List.mem_cons_self nofun

theorem isNumber_of_mem_map {item : Value} {amounts : List Float}
    (member : item ∈ amounts.map Value.number) : item.IsNumber := by
  obtain ⟨amount, -, rfl⟩ := List.mem_map.mp member
  exact ⟨amount, rfl⟩

theorem looks_numbers (found : arguments[position]? = some value) :
    Looks .numbers value (arguments.numbers position) := by
  refine looks_expect found ?_ nofun
  cases value with
  | null => exact ⟨fun _ => trivial, fun _ => rfl⟩
  | bool | number | text => exact ⟨nofun, nofun⟩
  | array items =>
    change (items.mapM Value.asNumber?).isSome = true ↔ ∀ item ∈ items, item.IsNumber
    have listing := listing_mapM items
    generalize items.mapM Value.asNumber? = listed at listing ⊢
    cases listing with
    | all amounts => exact ⟨fun _ _ member => isNumber_of_mem_map member, fun _ => rfl⟩
    | none item member other => exact ⟨nofun, fun all => absurd (all item member) other⟩

/-- Numbers are taken for indices up to the first one that is none. -/
theorem looks_mapM_indexOf (position : Nat) (expected : Expected) (amounts : List Float) :
    Looks .indices (.array (amounts.map .number))
      (amounts.mapM (Arguments.indexOf position expected)) := by
  induction amounts with
  | nil => exact .taken [] nofun fun strays => strays.2
  | cons amount amounts hyp =>
    rw [List.mapM_cons, List.map_cons]
    have first := looks_indexOf position expected amount
    generalize Arguments.indexOf position expected amount = looked at first ⊢
    generalize amounts.mapM (Arguments.indexOf position expected) = others at hyp ⊢
    have numbers : ∀ item ∈ amounts.map Value.number, item.IsNumber :=
      fun _ => isNumber_of_mem_map
    cases first with
    | unsuited fault fraction =>
      refine .unsuited _ (fun suits => fraction (Kind.suits_indices_cons.mp suits).1) fun strays => ?_
      rcases (Kind.strays_indices_cons.mp strays).2 with below | ⟨integral, -⟩
      · exact fraction below.integral
      · exact fraction integral
    | strayed number below =>
      exact .strayed number (Kind.strays_indices_cons.mpr ⟨numbers, .inl below⟩)
    | taken index integral above =>
      have strays : Kind.indices.Strays (.array (.number amount :: amounts.map Value.number)) →
          Kind.indices.Strays (.array (amounts.map Value.number)) := fun strays =>
        (Kind.strays_indices_cons.mp strays).2.elim (absurd · above) (·.2)
      cases hyp with
      | taken indices suits plain =>
        exact .taken _ (Kind.suits_indices_cons.mpr ⟨integral, suits⟩) fun first => plain (strays first)
      | unsuited fault unsuits plain =>
        exact .unsuited fault (fun suits => unsuits (Kind.suits_indices_cons.mp suits).2) fun first =>
          plain (strays first)
      | strayed number later =>
        exact .strayed number (Kind.strays_indices_cons.mpr ⟨numbers, .inr ⟨integral, later⟩⟩)

theorem looks_indices (found : arguments[position]? = some value) :
    Looks .indices value (arguments.indices position) := by
  rw [Arguments.indices, Arguments.numbers, expect_eq found]
  cases value with
  | null => exact .taken [] trivial nofun
  | bool | number | text => exact .unsuited _ nofun nofun
  | array items =>
    dsimp only [Arguments.numbersOf?]
    have listing := listing_mapM items
    generalize items.mapM Value.asNumber? = listed at listing ⊢
    cases listing with
    | all amounts => exact looks_mapM_indexOf position .integers amounts
    | none item member other =>
      refine .unsuited _ (fun suits => ?_) fun strays => other (strays.1 item member)
      obtain ⟨amount, same, -⟩ := suits item member
      exact other ⟨amount, same⟩

/-! ### The calls that arguments make -/

/-- Without an operator among the arguments there is none that stands for no relation. -/
theorem Form.makes_request {form : Form} {request : Request} (plain : .operator ∉ form.kinds)
    (serves : Serves form.purpose request) : form.Makes arguments (.request request) where
  declined unrelated := by
    obtain ⟨code, member, -⟩ := unrelated
    exact absurd (List.of_mem_zip member).1 plain
  serves _ := ⟨request, rfl, serves⟩

/-- A row is appended if the only operator among the arguments stands for a relation. -/
theorem Form.makes_addRow {kinds : List Kind} {code : Float}
    (member : (.operator, .number code) ∈ kinds.zip arguments)
    (only : ∀ other, (Kind.operator, Value.number other) ∈ kinds.zip arguments → other = code)
    (argument : RowArgument) (rhs : Float) :
    (Form.change kinds).Makes arguments (Call.addRow argument code rhs) where
  declined unrelated := by
    obtain ⟨other, member, none⟩ := unrelated
    obtain rfl := only other member
    rw [Call.addRow, none]
  serves related := by
    rw [Call.addRow]
    cases coded : Arguments.codeOf? Relation.ofCode? code with
    | none => exact absurd ⟨code, member, coded⟩ related
    | some relation => exact ⟨_, rfl, .edit _⟩

/-! ### Decoding -/

/-- **The decoding of a call agrees with the forms of its method.** -/
structure Conforms (forms : List Form) (arguments : Arguments) (outcome : Except Error Call) :
    Prop where
  /-- First the arguments are counted. -/
  counted : (∀ form ∈ forms, form.kinds.length ≠ arguments.length) → outcome = .error .arity
  /-- Then they are looked at one after the other. -/
  looked : ∀ form ∈ forms, form.kinds.length = arguments.length →
    Outcome (form.Makes arguments) form.kinds arguments outcome

theorem conforms_of_arity {forms : List Form} {rest : Nat → Except Error Call}
    (looked : ∀ form ∈ forms, form.kinds.length = arguments.length →
      Outcome (form.Makes arguments) form.kinds arguments (rest arguments.length)) :
    Conforms forms arguments (arguments.arity (forms.map (·.kinds.length)) >>= rest) where
  counted other := by
    have outside : arguments.length ∉ forms.map (·.kinds.length) := fun inside => by
      obtain ⟨form, member, same⟩ := List.mem_map.mp inside
      exact other form member same
    rw [Arguments.arity, if_neg (by simpa using outside)]
    rfl
  looked form member same := by
    have inside : arguments.length ∈ forms.map (·.kinds.length) :=
      List.mem_map.mpr ⟨form, member, same⟩
    rw [Arguments.arity, if_pos (by simpa using inside)]
    exact looked form member same

/-- A method of one form. -/
theorem conforms_of_form {form : Form} {rest : Except Error Call}
    (looked : form.kinds.length = arguments.length →
      Outcome (form.Makes arguments) form.kinds arguments rest) :
    Conforms [form] arguments (arguments.arity [form.kinds.length] >>= fun _ => rest) :=
  conforms_of_arity (List.forall_mem_singleton.mpr looked)

/-- A method of two forms. -/
theorem conforms_of_forms {first second : Form} {rest : Nat → Except Error Call}
    (looked : first.kinds.length = arguments.length →
      Outcome (first.Makes arguments) first.kinds arguments (rest arguments.length))
    (looked' : second.kinds.length = arguments.length →
      Outcome (second.Makes arguments) second.kinds arguments (rest arguments.length)) :
    Conforms [first, second] arguments
      (arguments.arity [first.kinds.length, second.kinds.length] >>= rest) :=
  conforms_of_arity (List.forall_mem_cons.mpr ⟨looked, List.forall_mem_singleton.mpr looked'⟩)

/-- A method without arguments. -/
theorem conforms_plain {purpose : Purpose} {request : Request} (serves : Serves purpose request) :
    Conforms [⟨[], purpose⟩] arguments (do let _ ← arguments.arity [0]; return .request request) := by
  refine conforms_of_form fun same => ?_
  match arguments, same with
  | [], _ => exact .done (Form.makes_request nofun serves)

/-- A method with one argument. -/
theorem conforms_one {α : Type} {kind : Kind} {purpose : Purpose} {look : Except Error α}
    {request : α → Request} (plain : kind ≠ .operator)
    (looks : ∀ value, arguments[0]? = some value → Looks kind value look)
    (serves : ∀ result, Serves purpose (request result)) :
    Conforms [⟨[kind], purpose⟩] arguments
      (do let _ ← arguments.arity [1]; return .request (request (← look))) := by
  refine conforms_of_form fun same => ?_
  match arguments, same with
  | [value], _ =>
    refine .bind (looks value rfl) fun result _ => .done ?_
    exact Form.makes_request (by simpa using plain.symm) (serves result)

theorem conforms_askOrSet {α : Type} {kind : Kind} {look : Except Error α} {set : α → Request}
    (plain : kind ≠ .operator) (query : Query)
    (looks : ∀ value, arguments[0]? = some value → Looks kind value look)
    (serves : ∀ result, Serves .change (set result)) :
    Conforms (Form.askOrSet [] kind) arguments
      (Call.askOrSet arguments query do return .request (set (← look))) := by
  refine conforms_of_forms (fun same => ?_) fun same => ?_
  · match arguments, same with
    | [], _ => exact .done (Form.makes_request (by decide) (.ask query))
  · match arguments, same with
    | [value], _ =>
      refine .bind (looks value rfl) fun result _ => .done ?_
      exact Form.makes_request (by simpa [Form.change] using plain.symm) (serves result)

theorem conforms_askOrSetAt {α : Type} {kind : Kind} {index : Arguments → Except Error Nat}
    {query : Nat → Query} {look : Except Error α} {set : Nat → α → Edit} (plain : kind ≠ .operator)
    (looks_at : ∀ value, arguments[0]? = some value → Looks .index value (index arguments))
    (looks : ∀ value, arguments[1]? = some value → Looks kind value look) :
    Conforms (Form.askOrSet [.index] kind) arguments
      (Call.askOrSetAt arguments index query look set) := by
  refine conforms_of_forms (fun same => ?_) fun same => ?_
  · match arguments, same with
    | [first], _ =>
      refine .bind (looks_at first rfl) fun place _ => .done ?_
      exact Form.makes_request (by decide) (.ask (query place))
  · match arguments, same with
    | [first, second], _ =>
      refine .bind (looks_at first rfl) fun place _ => .bind (looks second rfl) fun result _ => .done ?_
      exact Form.makes_request (by simpa [Form.change] using plain.symm) (.edit (set place result))

/-- A method that replaces something at an index. -/
theorem conforms_two {α : Type} {kind : Kind} {look : Except Error α} {edit : Nat → α → Edit}
    (plain : kind ≠ .operator)
    (looks : ∀ value, arguments[1]? = some value → Looks kind value look) :
    Conforms [.change [.index, kind]] arguments (do
      let _ ← arguments.arity [2]
      let index ← arguments.index 0
      return .edit (edit index (← look))) := by
  refine conforms_of_form fun same => ?_
  match arguments, same with
  | [first, second], _ =>
    refine .bind (looks_index rfl) fun index _ => .bind (looks second rfl) fun result _ => .done ?_
    exact Form.makes_request (by simpa [Form.change] using plain.symm) (.edit (edit index result))

/-- A method that appends a row. -/
theorem conforms_addRow {α : Type} {kind : Kind} {look : Except Error α} {argument : α → RowArgument}
    (plain : kind ≠ .operator)
    (looks : ∀ value, arguments[0]? = some value → Looks kind value look) :
    Conforms [.change [kind, .operator, .number]] arguments (do
      let _ ← arguments.arity [3]
      let result ← look
      let code ← arguments.number 1
      let rhs ← arguments.number 2
      return Call.addRow (argument result) code rhs) := by
  refine conforms_of_form fun same => ?_
  match arguments, same with
  | [first, _, _], _ =>
    refine .bind (looks first rfl) fun result _ => .bind (looks_operator rfl) fun code coded => ?_
    obtain rfl := eq_number_of_number rfl coded
    refine .bind (looks_number rfl) fun rhs _ => .done ?_
    exact Form.makes_addRow (by simp) (by simp [plain.symm]) (argument result) rhs

/-- The solution is asked for with a row of numbers that is not used, or without. -/
theorem conforms_columnValues :
    Conforms [.ask [], .ask [.numbers]] arguments (Call.columnValues arguments) := by
  refine conforms_of_forms (fun same => ?_) fun same => ?_
  · match arguments, same with
    | [], _ => exact .done (Form.makes_request nofun (.ask .columnValues))
  · match arguments, same with
    | [value], _ =>
      have looked : Looks .numbers value (Arguments.numbers [value] 0) := looks_numbers rfl
      dsimp only [List.length_singleton, if_true]
      generalize Arguments.numbers [value] 0 = listed at looked ⊢
      cases looked with
      | taken listed suits plain =>
        exact .next suits plain (.done (Form.makes_request (by decide) (.ask .columnValues)))
      | unsuited fault unsuits plain => exact .unsuited _ unsuits plain [] []
      | strayed number strays => cases strays

/-- A coefficient is asked for, or set. -/
theorem conforms_coefficient :
    Conforms (Form.askOrSet [.index, .index] .number) arguments (do
      let count ← arguments.arity [2, 3]
      let row ← arguments.index 0
      let column ← arguments.index 1
      if count = 2 then return .ask (.coefficient row column)
      else return .edit (.setCoefficient row column (← arguments.number 2))) := by
  refine conforms_of_forms (fun same => ?_) fun same => ?_
  · match arguments, same with
    | [_, _], _ =>
      refine .bind (looks_index rfl) fun row _ => .bind (looks_index rfl) fun column _ => .done ?_
      exact Form.makes_request (by decide) (.ask (.coefficient row column))
  · match arguments, same with
    | [_, _, _], _ =>
      refine .bind (looks_index rfl) fun row _ => .bind (looks_index rfl) fun column _ => ?_
      refine .bind (looks_number rfl) fun value _ => .done ?_
      exact Form.makes_request (by decide) (.edit (.setCoefficient row column value))

theorem conforms_setBounds :
    Conforms [.change [.index, .number, .number]] arguments (do
      let _ ← arguments.arity [3]
      let column ← arguments.index 0
      let lower ← arguments.number 1
      let upper ← arguments.number 2
      return .edit (.setBounds column lower upper)) := by
  refine conforms_of_form fun same => ?_
  match arguments, same with
  | [_, _, _], _ =>
    refine .bind (looks_index rfl) fun column _ => .bind (looks_number rfl) fun lower _ => ?_
    refine .bind (looks_number rfl) fun upper _ => .done ?_
    exact Form.makes_request (by decide) (.edit (.setBounds column lower upper))

theorem conforms_setObjectiveRow_sparse :
    Conforms [.change [.index, .numbers, .indices]] arguments (do
      let _ ← arguments.arity [3]
      let count ← arguments.index 0
      let values ← arguments.numbers 1
      let indices ← arguments.indices 2
      return .edit (.setObjectiveRow (.sparse count values indices))) := by
  refine conforms_of_form fun same => ?_
  match arguments, same with
  | [_, _, _], _ =>
    refine .bind (looks_index rfl) fun count _ => .bind (looks_numbers rfl) fun values _ => ?_
    refine .bind (looks_indices rfl) fun indices _ => .done ?_
    exact Form.makes_request (by decide) (.edit _)

theorem conforms_setRow_sparse :
    Conforms [.change [.index, .index, .numbers, .indices]] arguments (do
      let _ ← arguments.arity [4]
      let row ← arguments.index 0
      let count ← arguments.index 1
      let values ← arguments.numbers 2
      let indices ← arguments.indices 3
      return .edit (.setRow row (.sparse count values indices))) := by
  refine conforms_of_form fun same => ?_
  match arguments, same with
  | [_, _, _, _], _ =>
    refine .bind (looks_index rfl) fun row _ => .bind (looks_index rfl) fun count _ => ?_
    refine .bind (looks_numbers rfl) fun values _ => .bind (looks_indices rfl) fun indices _ => ?_
    exact .done (Form.makes_request (by decide) (.edit _))

theorem conforms_addRow_sparse :
    Conforms [.change [.index, .numbers, .indices, .operator, .number]] arguments (do
      let _ ← arguments.arity [5]
      let count ← arguments.index 0
      let values ← arguments.numbers 1
      let indices ← arguments.indices 2
      let code ← arguments.number 3
      let rhs ← arguments.number 4
      return Call.addRow (.sparse count values indices) code rhs) := by
  refine conforms_of_form fun same => ?_
  match arguments, same with
  | [_, _, _, _, _], _ =>
    refine .bind (looks_index rfl) fun count _ => .bind (looks_numbers rfl) fun values _ => ?_
    refine .bind (looks_indices rfl) fun indices _ => .bind (looks_operator rfl) fun code coded => ?_
    obtain rfl := eq_number_of_number rfl coded
    refine .bind (looks_number rfl) fun rhs _ => .done ?_
    exact Form.makes_addRow (by simp) (by simp) (.sparse count values indices) rhs

/-- **The decoding of every method agrees with its signature.** -/
theorem conforms_decode {method : String} {forms : List Form} (known : signature? method = some forms)
    (arguments : Arguments) : Conforms forms arguments (Call.decode method arguments) := by
  unfold signature? at known
  split at known
  all_goals cases known
  all_goals rw [Call.decode]
  -- The cases are numbered as the methods in the table. First those that ask, and set with one more
  -- argument.
  case h_1 => exact conforms_askOrSet (by decide) .name (fun _ => looks_string) fun _ => .configure _
  case h_2 =>
    exact conforms_askOrSet (by decide) .rowMode (fun _ => looks_boolean) fun _ => .configure _
  case h_7 => exact conforms_askOrSet (by decide) .maximize (fun _ => looks_boolean) fun _ => .edit _
  case h_27 =>
    exact conforms_askOrSet (by decide) .breakAtFirst (fun _ => looks_boolean) fun _ => .configure _
  case h_28 =>
    exact conforms_askOrSet (by decide) .verbosity (fun _ => looks_verbosity) fun _ => .configure _
  case h_29 =>
    exact conforms_askOrSet (by decide) .timeout (fun _ => looks_number) fun _ => .configure _
  case h_3 | h_13 | h_14 | h_25 | h_26 =>
    exact conforms_askOrSetAt (by decide) (fun _ => looks_index) fun _ => looks_number
  case h_8 | h_9 =>
    exact conforms_askOrSetAt (by decide) (fun _ => looks_columnOf) fun _ => looks_boolean
  case h_23 => exact conforms_coefficient
  case h_31 => exact conforms_columnValues
  -- Those that always take as many arguments.
  case h_11 | h_12 => exact conforms_plain (.ask _)
  case h_30 => exact conforms_plain .solve
  case h_33 => exact conforms_plain .dispose
  case h_4 | h_15 => exact conforms_one (by decide) (fun _ => looks_numbers) fun _ => .edit _
  case h_6 | h_16 => exact conforms_one (by decide) (fun _ => looks_string) fun _ => .edit _
  case h_32 => exact conforms_one (by decide) (fun _ => looks_string) fun _ => .write _
  case h_10 => exact conforms_two (by decide) fun _ => looks_index
  case h_20 => exact conforms_two (by decide) fun _ => looks_numbers
  case h_22 => exact conforms_two (by decide) fun _ => looks_string
  case h_24 => exact conforms_setBounds
  case h_5 => exact conforms_setObjectiveRow_sparse
  case h_21 => exact conforms_setRow_sparse
  case h_17 => exact conforms_addRow (by decide) fun _ => looks_numbers
  case h_18 => exact conforms_addRow_sparse
  case h_19 => exact conforms_addRow (by decide) fun _ => looks_string

end LinearProgram.Host
