/-
**The arguments of a host call.**

A host call first has its arguments counted and then looks at them one by one, in the order of
their positions as each method needs them. An argument of the wrong kind is told with its position
and with what was expected. A negative index is of the right kind but names nothing.

* `Arguments.arity`: the number of arguments.
* `Arguments.number`, `index`, `boolean`, `string`, `numbers`, `indices`: the kinds of arguments.
* `Arguments.verbosity`: the number of a verbosity.
-/

import LinearProgram.Decimal.Integer
import LinearProgram.Host.Value

namespace LinearProgram.Host

/-- The arguments of a host call. -/
abbrev Arguments := List Value

/-- The largest index that can be told from a larger one. -/
def largestIndex : Nat := Nat.pow 2 64 - 1

namespace Arguments

/-- The failure of an argument that is not what was expected. -/
def unexpected (position : Nat) (expected : Expected) : Error :=
  .kind (.unexpected position expected)

/-- The number of arguments, which must be one of those allowed. -/
def arity (arguments : Arguments) (allowed : List Nat) : Except Error Nat :=
  if allowed.contains arguments.length then .ok arguments.length else .error .arity

/-- The argument at a position. -/
def get (arguments : Arguments) (position : Nat) : Except Error Value :=
  match arguments[position]? with
  | some value => .ok value
  | none => .error .arity

/-- What an argument is, if it is what was expected. -/
def expect {α : Type} (arguments : Arguments) (position : Nat) (expected : Expected)
    (view : Value → Option α) : Except Error α := do
  match view (← arguments.get position) with
  | some value => return value
  | none => throw (unexpected position expected)

/-- A number. -/
def number (arguments : Arguments) (position : Nat) : Except Error Float :=
  arguments.expect position .number Value.asNumber?

/-- A truth value. -/
def boolean (arguments : Arguments) (position : Nat) : Except Error Bool :=
  arguments.expect position .boolean Value.asBool?

/-- A text. -/
def string (arguments : Arguments) (position : Nat) : Except Error String :=
  arguments.expect position .string Value.asText?

/-- The index that a number stands for. -/
def indexOf (position : Nat) (expected : Expected) (value : Float) : Except Error Nat :=
  match Decimal.integer? value with
  | none => .error (unexpected position expected)
  | some whole =>
    if whole < 0 then .error (.shape (.negativeIndex value))
    else .ok (min whole.toNat largestIndex)

/-- An index: an integral number that is not negative. -/
def index (arguments : Arguments) (position : Nat) : Except Error Nat := do
  indexOf position .integer (← arguments.number position)

/-- The numbers that a value lists; the empty value lists none. -/
def numbersOf? : Value → Option (List Float)
  | .null => some []
  | .array items => items.mapM Value.asNumber?
  | _ => none

/-- A row of numbers. -/
def numbers (arguments : Arguments) (position : Nat) : Except Error (List Float) :=
  arguments.expect position .numbers numbersOf?

/-- A row of indices. -/
def indices (arguments : Arguments) (position : Nat) : Except Error (List Nat) := do
  (← arguments.numbers position).mapM (indexOf position .integers)

/-- The code that a number stands for. -/
def codeOf? {α : Type} (ofCode? : Int → Option α) (value : Float) : Option α :=
  (Decimal.integer? value).bind ofCode?

/-- A verbosity by its number. -/
def verbosity (arguments : Arguments) (position : Nat) : Except Error Verbosity := do
  let level ← arguments.number position
  match codeOf? Verbosity.ofCode? level with
  | some verbosity => return verbosity
  | none => throw (.kind (.verbosity level))

end Arguments

end LinearProgram.Host
