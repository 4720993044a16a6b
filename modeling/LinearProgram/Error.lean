/-
**Why an operation failed.**

An operation that the model cannot carry out fails with a cause. What the engine merely declines,
such as crossing bounds, is no failure: such an operation answers `false`. Neither is the outcome of
a solve, whatever it is.

* `Error`: the causes.
* `Error.kind`: the name of the kind of failure in the host interface.
* `Error.message`: the wording.
-/

import LinearProgram.Arguments.ShapeFault
import LinearProgram.Lp.Fault

namespace LinearProgram

/-- What an argument of a host call is expected to be. -/
inductive Expected where
  | number
  | integer
  | boolean
  | string
  | numbers
  | integers
  | array
  deriving DecidableEq, Repr

/-- The wording of what is expected. -/
def Expected.phrase : Expected → String
  | number => "a Number"
  | integer => "an integral Number"
  | boolean => "a Boolean"
  | string => "a String"
  | numbers => "a Array of Numbers or NULL"
  | integers => "a Array of integral Numbers"
  | array => "a Array of Numbers"

/-- The word for the position of an argument, counted from zero. -/
def ordinal : Nat → String
  | 0 => "First"
  | 1 => "Second"
  | 2 => "Third"
  | 3 => "Fourth"
  | 4 => "Fifth"
  | _ => "Next"

/-- Why an argument of a host call is of the wrong kind. -/
inductive KindFault where
  | unexpected (position : Nat) (expected : Expected)
  | mixed
  | verbosity (level : Float)
  | unknownMethod (name : String)
  deriving Repr

/-- The wording of a fault of kind. -/
def KindFault.message : KindFault → String
  | unexpected position expected => ordinal position ++ " argument should be " ++ expected.phrase
  | mixed => "Invalid type of arguments"
  | verbosity level => "invalid verbosity level " ++ Decimal.text level
  | unknownMethod name => "unknown method " ++ name

/-- Why an operation failed. -/
inductive Error where
  /-- A host call has the wrong number of arguments. -/
  | arity
  /-- A host call has an argument of the wrong kind. -/
  | kind (fault : KindFault)
  | shape (fault : ShapeFault)
  /-- The dimensions of a problem cannot be stored. -/
  | dimensions (rows columns : Nat)
  /-- No engine could be made. -/
  | engine (message : String)
  | disposed
  | busy
  /-- A file could not be read or written. -/
  | file
  | parse (failure : Lp.Failure)
  /-- The engine failed. -/
  | solve (message : String)
  deriving Repr

namespace Error

/-- The name of the kind of failure in the host interface. -/
def kindName : Error → String
  | arity => "ArityError"
  | kind _ => "TypeError"
  | shape _ => "ShapeError"
  | dimensions .. | engine _ => "AllocationError"
  | disposed => "UseAfterDisposeError"
  | busy => "ModelBusyError"
  | file => "IOError"
  | parse _ => "ParseError"
  | solve _ => "SolveError"

/-- The wording of the dimensions that cannot be stored. -/
def dimensionsMessage (rows columns : Nat) : String :=
  "cannot allocate a model of " ++ toString rows ++ " rows and " ++ toString columns ++ " columns"

/-- The wording of a failure. What the system says about a file is not part of it. -/
def message : Error → String
  | arity => "Invalid number of arguments"
  | kind fault => fault.message
  | shape fault => "shape error: " ++ fault.message
  | dimensions rows columns => "allocation failed: " ++ dimensionsMessage rows columns
  | engine message => "allocation failed: " ++ message
  | disposed => "model has been disposed"
  | busy => "model is busy: a solve is in progress"
  | file => "I/O error"
  | parse failure =>
    "parse error at line " ++ toString failure.line ++ ": " ++ failure.fault.message
  | solve message => "solve failed: " ++ message

end Error

end LinearProgram
