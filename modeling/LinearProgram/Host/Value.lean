/-
**Values of a host application.**

A host passes loosely typed values and gets such values back. Two values are equal when they are of
one kind and their contents are; numbers compare as numbers, so what is not a number differs even
from itself.

* `Value`: the values. `Value.beq`: their equality.
* `Value.ofAnswer`: the answer of a model as a value.
-/

import LinearProgram.Decimal.Literal
import LinearProgram.Model.Query

namespace LinearProgram.Host

/-- A loosely typed value. -/
inductive Value where
  | null
  | bool (value : Bool)
  | number (value : Float)
  | text (value : String)
  | array (items : List Value)
  deriving Repr, Inhabited

namespace Value

mutual

/-- Whether two values are equal. -/
def beq : Value → Value → Bool
  | null, null => true
  | bool first, bool second => first == second
  | number first, number second => first == second
  | text first, text second => first == second
  | array first, array second => beqAll first second
  | _, _ => false

/-- Whether two rows of values are equal, item by item. -/
def beqAll : List Value → List Value → Bool
  | [], [] => true
  | first :: firsts, second :: seconds => beq first second && beqAll firsts seconds
  | _, _ => false

end

instance : BEq Value := ⟨beq⟩

/-- The number that a value is. -/
def asNumber? : Value → Option Float
  | number value => some value
  | _ => none

/-- The truth value that a value is. -/
def asBool? : Value → Option Bool
  | bool value => some value
  | _ => none

/-- The text that a value is. -/
def asText? : Value → Option String
  | text value => some value
  | _ => none

/-- The items that a value has. -/
def asArray? : Value → Option (List Value)
  | array items => some items
  | _ => none

/-- Whether a value is the empty one. -/
def isNull : Value → Bool
  | null => true
  | _ => false

/-- The double nearest to an integer. -/
def ofInt (value : Int) : Value :=
  number (Decimal.withSign (value < 0) (Decimal.ofScientific value.natAbs 0))

/-- An answer as a value: codes stand for verbosities and outcomes, and what has no value of its own
is empty. -/
def ofAnswer : Answer → Value
  | .flag value => bool value
  | .count value => ofInt value
  | .number value => number value
  | .text value => text value
  | .numbers values => array (values.map number)
  | .verbosity verbosity => ofInt verbosity.code
  | .status status => ofInt status.code
  | _ => null

end Value

end LinearProgram.Host
