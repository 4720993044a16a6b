/-
**What the methods of a model take.**

A host calls a method by name with loosely typed arguments. Each method takes rows of arguments of a
few lengths, and of each argument it expects one kind. The signatures say so in one table, apart from
the decoding, which looks at the arguments one by one.

* `Kind.Suits`: an argument is of a kind. `Kind.Strays`: a negative index is the first fault in it.
* `Suited`, `StraysFirst`: the same for all arguments together.
* `Form`: the kinds of the arguments in their order, and whether a call asks or changes something.
  `signature?`: the forms of each method. `Form.Makes`: the call that arguments of a form make.
* `Looks`: what a look at one argument can tell. `Outcome`: what looks at all of them can tell, one
  after the other; **`cases_of_arguments`**: the arguments decide which of it.
-/

import Mathlib.Data.List.Forall2
import LinearProgram.Host.Call

namespace LinearProgram.Host

/-! ### Kinds of arguments -/

/-- The number is an integer. -/
def Integral (number : Float) : Prop :=
  (Decimal.integer? number).isSome = true

/-- The number is an integer below zero. -/
def Below (number : Float) : Prop :=
  ∃ whole, Decimal.integer? number = some whole ∧ whole < 0

theorem Below.integral {number : Float} (below : Below number) : Integral number := by
  obtain ⟨whole, same, -⟩ := below
  rw [Integral, same]
  rfl

/-- The value is a number. -/
def Value.IsNumber (value : Value) : Prop :=
  ∃ number, value = .number number

/-- What an argument is expected to be. -/
inductive Kind where
  | number
  | index
  | boolean
  | text
  | numbers
  | indices
  /-- The number of a verbosity. -/
  | level
  /-- A number that is to stand for a relation. -/
  | operator
  deriving DecidableEq, Repr

namespace Kind

/-- **The argument is of the kind.** A negative index is an integer, so it is of the kind. -/
def Suits : Kind → Value → Prop
  | number, .number _ | operator, .number _ | boolean, .bool _ | text, .text _ => True
  | index, .number amount => Integral amount
  | level, .number amount => (Arguments.codeOf? Verbosity.ofCode? amount).isSome = true
  | numbers, .null | indices, .null => True
  | numbers, .array items => ∀ item ∈ items, item.IsNumber
  | indices, .array items => ∀ item ∈ items, ∃ amount, item = .number amount ∧ Integral amount
  | _, _ => False

/-- The items begin with integers, the last of which is negative. -/
def StraysIn : List Value → Prop
  | .number amount :: rest => Below amount ∨ (Integral amount ∧ StraysIn rest)
  | _ => False

/-- **A negative index is the first fault in the argument.** That the items of a row are numbers is
looked at before any of them is taken for an index. -/
def Strays : Kind → Value → Prop
  | index, .number amount => Below amount
  | indices, .array items => (∀ item ∈ items, item.IsNumber) ∧ StraysIn items
  | _, _ => False

theorem suits_indices_cons {amount : Float} {items : List Value} :
    indices.Suits (.array (.number amount :: items))
      ↔ Integral amount ∧ indices.Suits (.array items) := by
  refine List.forall_mem_cons.trans (and_congr_left' ⟨?_, fun integral => ⟨amount, rfl, integral⟩⟩)
  rintro ⟨_, same, integral⟩
  cases same
  exact integral

theorem strays_indices_cons {amount : Float} {items : List Value} :
    indices.Strays (.array (.number amount :: items))
      ↔ (∀ item ∈ items, item.IsNumber)
        ∧ (Below amount ∨ (Integral amount ∧ indices.Strays (.array items))) := by
  have numbers : (∀ item ∈ Value.number amount :: items, item.IsNumber)
      ↔ ∀ item ∈ items, item.IsNumber :=
    List.forall_mem_cons.trans (and_iff_right ⟨amount, rfl⟩)
  refine (and_congr_left' numbers).trans (and_congr_right fun others => or_congr_right ?_)
  exact and_congr_right fun _ => (and_iff_right others).symm

end Kind

/-- The arguments are as many as the kinds, and each is of its kind. -/
def Suited (kinds : List Kind) (arguments : Arguments) : Prop :=
  List.Forall₂ Kind.Suits kinds arguments

/-- **A negative index is the first fault in the arguments**: all in front of it is of its kind. -/
def StraysFirst : List Kind → Arguments → Prop
  | kind :: kinds, value :: values =>
    kind.Strays value ∨ (kind.Suits value ∧ StraysFirst kinds values)
  | _, _ => False

/-! ### Signatures -/

/-- What a call is made for. -/
inductive Purpose where
  /-- To be told something, or to have it written to a file. -/
  | ask
  /-- To change the problem, a name or a setting, or to solve the problem. -/
  | change
  | dispose
  deriving DecidableEq, Repr

/-- A row of arguments that a method takes. -/
structure Form where
  kinds : List Kind
  purpose : Purpose
  deriving Repr

namespace Form

def ask (kinds : List Kind) : Form :=
  ⟨kinds, .ask⟩

def change (kinds : List Kind) : Form :=
  ⟨kinds, .change⟩

/-- Without the last argument the method asks, with it the method sets. -/
def askOrSet (kinds : List Kind) (kind : Kind) : List Form :=
  [ask kinds, change (kinds ++ [kind])]

end Form

open Kind Form in
/-- **The forms of each method.** -/
def signature? : String → Option (List Form)
  | "name" => some (askOrSet [] text)
  | "addRowMode" => some (askOrSet [] boolean)
  | "obj" => some (askOrSet [index] number)
  | "objFn" => some [change [numbers]]
  | "objFnEx" => some [change [index, numbers, indices]]
  | "objFnStr" => some [change [text]]
  | "maxim" => some (askOrSet [] boolean)
  | "binary" => some (askOrSet [index] boolean)
  | "intVar" => some (askOrSet [index] boolean)
  | "resize" => some [change [index, index]]
  | "rows" => some [ask []]
  | "columns" => some [ask []]
  | "rh" => some (askOrSet [index] number)
  | "rhRange" => some (askOrSet [index] number)
  | "rhVec" => some [change [numbers]]
  | "rhVecStr" => some [change [text]]
  | "constraint" => some [change [numbers, operator, number]]
  | "constraintEx" => some [change [index, numbers, indices, operator, number]]
  | "constraintStr" => some [change [text, operator, number]]
  | "setRow" => some [change [index, numbers]]
  | "setRowEx" => some [change [index, index, numbers, indices]]
  | "setRowStr" => some [change [index, text]]
  | "mat" => some (askOrSet [index, index] number)
  | "bounds" => some [change [index, number, number]]
  | "upBound" => some (askOrSet [index] number)
  | "lowBound" => some (askOrSet [index] number)
  | "breakAtFirst" => some (askOrSet [] boolean)
  | "verbose" => some (askOrSet [] level)
  | "timeout" => some (askOrSet [] number)
  | "solveSync" => some [change []]
  | "variables" => some [ask [], ask [numbers]]
  | "writeLP" => some [ask [text]]
  | "delete" => some [⟨[], .dispose⟩]
  | _ => none

/-- Only one method disposes of its model, and only the methods that append a row take an operator. -/
theorem signature?_spec {method : String} {forms : List Form} (known : signature? method = some forms) :
    ∀ form ∈ forms, (form.purpose = .dispose ↔ method = "delete")
      ∧ (.operator ∈ form.kinds → method ∈ ["constraint", "constraintEx", "constraintStr"]) := by
  unfold signature? at known
  split at known <;> cases known <;> decide

/-- A request that serves a purpose. -/
inductive Serves : Purpose → Request → Prop
  | ask (query : Query) : Serves .ask (.ask query)
  | write (path : String) : Serves .ask (.write (.file path))
  | edit (edit : Edit) : Serves .change (.edit edit)
  | configure (setting : Setting) : Serves .change (.configure setting)
  | solve : Serves .change .solve
  | dispose : Serves .dispose .dispose

/-- An operator among the arguments stands for no relation. -/
def Unrelated (kinds : List Kind) (arguments : Arguments) : Prop :=
  ∃ code, (Kind.operator, Value.number code) ∈ kinds.zip arguments
    ∧ Arguments.codeOf? Relation.ofCode? code = none

/-- **The call that arguments of a form make.** -/
structure Form.Makes (form : Form) (arguments : Arguments) (call : Call) : Prop where
  declined : Unrelated form.kinds arguments → call = .decline
  serves : ¬Unrelated form.kinds arguments →
    ∃ request, call = .request request ∧ Serves form.purpose request

/-! ### Looking at arguments -/

/-- **What a look at one argument can tell.** -/
inductive Looks {α : Type} (kind : Kind) (value : Value) : Except Error α → Prop
  | taken (result : α) (suits : kind.Suits value) (plain : ¬kind.Strays value) :
    Looks kind value (.ok result)
  | unsuited (fault : KindFault) (unsuits : ¬kind.Suits value) (plain : ¬kind.Strays value) :
    Looks kind value (.error (.kind fault))
  | strayed (number : Float) (strays : kind.Strays value) :
    Looks kind value (.error (.shape (.negativeIndex number)))

/-- **What looks at arguments can tell**, one after the other, up to the first fault. -/
inductive Outcome (makes : Call → Prop) : List Kind → Arguments → Except Error Call → Prop
  | done {call : Call} (made : makes call) : Outcome makes [] [] (.ok call)
  | next {kind : Kind} {value : Value} {kinds : List Kind} {values : Arguments}
    {outcome : Except Error Call} (suits : kind.Suits value) (plain : ¬kind.Strays value)
    (others : Outcome makes kinds values outcome) :
    Outcome makes (kind :: kinds) (value :: values) outcome
  | unsuited {kind : Kind} {value : Value} (fault : KindFault) (unsuits : ¬kind.Suits value)
    (plain : ¬kind.Strays value) (kinds : List Kind) (values : Arguments) :
    Outcome makes (kind :: kinds) (value :: values) (.error (.kind fault))
  | strayed {kind : Kind} {value : Value} (number : Float) (strays : kind.Strays value)
    (kinds : List Kind) (values : Arguments) :
    Outcome makes (kind :: kinds) (value :: values) (.error (.shape (.negativeIndex number)))

section Looking

variable {α : Type} {makes : Call → Prop} {kind : Kind} {value : Value} {kinds : List Kind}
  {values arguments : Arguments} {outcome : Except Error Call} {position : Nat}

/-- One more look in front of the others. -/
theorem Outcome.bind {look : Except Error α} {rest : α → Except Error Call}
    (looks : Looks kind value look)
    (others : ∀ result, look = .ok result → Outcome makes kinds values (rest result)) :
    Outcome makes (kind :: kinds) (value :: values) (look >>= rest) := by
  cases looks with
  | taken result suits plain => exact .next suits plain (others result rfl)
  | unsuited fault unsuits plain => exact .unsuited fault unsuits plain kinds values
  | strayed number strays => exact .strayed number strays kinds values

/-- **What the arguments are decides what is told.** -/
theorem Outcome.cases_of_arguments (outcome_eq : Outcome makes kinds values outcome) :
    (StraysFirst kinds values → ∃ number, outcome = .error (.shape (.negativeIndex number)))
      ∧ (¬StraysFirst kinds values → ¬Suited kinds values → ∃ fault, outcome = .error (.kind fault))
      ∧ (¬StraysFirst kinds values → Suited kinds values → ∃ call, outcome = .ok call ∧ makes call)
      := by
  induction outcome_eq with
  | done made => exact ⟨nofun, fun _ unsuited => absurd .nil unsuited, fun _ _ => ⟨_, rfl, made⟩⟩
  | next suits plain _ hyp =>
    obtain ⟨strayed, unsuited, taken⟩ := hyp
    refine ⟨?_, fun first unsuits => ?_, fun first suited => ?_⟩
    · rintro (strays | ⟨-, first⟩)
      · exact absurd strays plain
      · exact strayed first
    · exact unsuited (fun later => first (.inr ⟨suits, later⟩)) fun later => unsuits (.cons suits later)
    · exact taken (fun later => first (.inr ⟨suits, later⟩)) (List.forall₂_cons.mp suited).2
  | unsuited fault unsuits plain kinds values =>
    refine ⟨?_, fun _ _ => ⟨fault, rfl⟩, fun _ suited => ?_⟩
    · rintro (strays | ⟨suits, -⟩)
      · exact absurd strays plain
      · exact absurd suits unsuits
    · exact absurd (List.forall₂_cons.mp suited).1 unsuits
  | strayed number strays kinds values =>
    exact ⟨fun _ => ⟨number, rfl⟩, fun first => absurd (.inl strays) first,
      fun first => absurd (.inl strays) first⟩

end Looking

end LinearProgram.Host
