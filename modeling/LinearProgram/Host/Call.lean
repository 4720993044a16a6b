/-
**Calls of a model's methods by name.**

A host names a method and gives loosely typed arguments. Decoding turns them into a call; nothing of
the model is looked at before that has succeeded. Many methods do two things: with fewer arguments
they ask, with more they set.

* `Construction`: how a host gets a new model.
* `Call`: what a host can ask of a model it has.
* `Construction.decode`, `Call.decode`: what a name and arguments ask for, or the first thing wrong
  with them.
* `Call.value`: what a host is told.
-/

import LinearProgram.Host.Arguments
import LinearProgram.Model.Request

namespace LinearProgram.Host

/-- How a host gets a new model. -/
inductive Construction where
  | make (rows columns : Nat)
  | read (path : String) (verbosity : Verbosity) (name : String)
  deriving Repr

/-- **The construction that a name and arguments ask for.** -/
def Construction.decode (function : String) (arguments : Arguments) :
    Except Error Construction :=
  match function with
  | "makeLP" => do
    let _ ← arguments.arity [2]
    let rows ← arguments.index 0
    let columns ← arguments.index 1
    return .make rows columns
  | "readLP" => do
    let _ ← arguments.arity [3]
    let path ← arguments.string 0
    let verbosity ← arguments.verbosity 1
    let name ← arguments.string 2
    return .read path verbosity name
  | _ => .error (.kind (.unknownMethod function))

/-- What a host can ask of a model. -/
inductive Call where
  | request (request : Request)
  /-- A row with a relation that does not exist is declined at once. -/
  | decline
  deriving Repr

namespace Call

/-- The call that asks a question. -/
def ask (query : Query) : Call :=
  .request (.ask query)

/-- The call that changes the problem. -/
def edit (edit : Edit) : Call :=
  .request (.edit edit)

/-- The call that changes a setting or a name. -/
def configure (setting : Setting) : Call :=
  .request (.configure setting)

/-- A column index of a method that tells all faults of kind alike. -/
def columnOf (arguments : Arguments) : Except Error Nat :=
  match arguments.index 0 with
  | .error (.kind _) => .error (.kind .mixed)
  | other => other

/-- A call that asks without arguments and sets with one. -/
def askOrSet (arguments : Arguments) (query : Query) (set : Except Error Call) :
    Except Error Call := do
  if (← arguments.arity [0, 1]) = 0 then return .ask query else set

/-- A call that asks about an index and sets with one more argument. -/
def askOrSetAt {α : Type} (arguments : Arguments) (index : Arguments → Except Error Nat)
    (query : Nat → Query) (value : Except Error α) (set : Nat → α → Edit) : Except Error Call := do
  let count ← arguments.arity [1, 2]
  let index ← index arguments
  if count = 1 then return .ask (query index) else return .edit (set index (← value))

/-- The call that appends a row, if the relation exists. -/
def addRow (argument : RowArgument) (code rhs : Float) : Call :=
  match Arguments.codeOf? Relation.ofCode? code with
  | some relation => .edit (.addRow argument relation rhs)
  | none => .decline

/-- A solution can be asked for with an array that is not used. -/
def columnValues (arguments : Arguments) : Except Error Call := do
  if (← arguments.arity [0, 1]) = 1 then
    match arguments.numbers 0 with
    | .error _ => throw (Arguments.unexpected 0 .array)
    | .ok _ => return .ask .columnValues
  return .ask .columnValues

/-- **The call that a name and arguments make.** -/
def decode (method : String) (arguments : Arguments) : Except Error Call :=
  match method with
  | "name" => askOrSet arguments .name do return .configure (.name (← arguments.string 0))
  | "addRowMode" =>
    askOrSet arguments .rowMode do return .configure (.rowMode (← arguments.boolean 0))
  | "obj" => askOrSetAt arguments (·.index 0) .objectiveOf (arguments.number 1) .setObjective
  | "objFn" => do
    let _ ← arguments.arity [1]
    return .edit (.setObjectiveRow (.dense (← arguments.numbers 0)))
  | "objFnEx" => do
    let _ ← arguments.arity [3]
    let count ← arguments.index 0
    let values ← arguments.numbers 1
    let indices ← arguments.indices 2
    return .edit (.setObjectiveRow (.sparse count values indices))
  | "objFnStr" => do
    let _ ← arguments.arity [1]
    return .edit (.setObjectiveRow (.text (← arguments.string 0)))
  | "maxim" =>
    askOrSet arguments .maximize do return .edit (.setMaximize (← arguments.boolean 0))
  | "binary" => askOrSetAt arguments columnOf .isBinary (arguments.boolean 1) .setBinary
  | "intVar" => askOrSetAt arguments columnOf .isInteger (arguments.boolean 1) .setInteger
  | "resize" => do
    let _ ← arguments.arity [2]
    let rows ← arguments.index 0
    let columns ← arguments.index 1
    return .edit (.resize rows columns)
  | "rows" => do
    let _ ← arguments.arity [0]
    return .ask .rowCount
  | "columns" => do
    let _ ← arguments.arity [0]
    return .ask .columnCount
  | "rh" => askOrSetAt arguments (·.index 0) .rhs (arguments.number 1) .setRhs
  | "rhRange" => askOrSetAt arguments (·.index 0) .range (arguments.number 1) .setRange
  | "rhVec" => do
    let _ ← arguments.arity [1]
    return .edit (.setRhsVector (.dense (← arguments.numbers 0)))
  | "rhVecStr" => do
    let _ ← arguments.arity [1]
    return .edit (.setRhsVector (.text (← arguments.string 0)))
  | "constraint" => do
    let _ ← arguments.arity [3]
    let values ← arguments.numbers 0
    let code ← arguments.number 1
    let rhs ← arguments.number 2
    return addRow (.dense values) code rhs
  | "constraintEx" => do
    let _ ← arguments.arity [5]
    let count ← arguments.index 0
    let values ← arguments.numbers 1
    let indices ← arguments.indices 2
    let code ← arguments.number 3
    let rhs ← arguments.number 4
    return addRow (.sparse count values indices) code rhs
  | "constraintStr" => do
    let _ ← arguments.arity [3]
    let text ← arguments.string 0
    let code ← arguments.number 1
    let rhs ← arguments.number 2
    return addRow (.text text) code rhs
  | "setRow" => do
    let _ ← arguments.arity [2]
    let row ← arguments.index 0
    return .edit (.setRow row (.dense (← arguments.numbers 1)))
  | "setRowEx" => do
    let _ ← arguments.arity [4]
    let row ← arguments.index 0
    let count ← arguments.index 1
    let values ← arguments.numbers 2
    let indices ← arguments.indices 3
    return .edit (.setRow row (.sparse count values indices))
  | "setRowStr" => do
    let _ ← arguments.arity [2]
    let row ← arguments.index 0
    return .edit (.setRow row (.text (← arguments.string 1)))
  | "mat" => do
    let count ← arguments.arity [2, 3]
    let row ← arguments.index 0
    let column ← arguments.index 1
    if count = 2 then return .ask (.coefficient row column)
    else return .edit (.setCoefficient row column (← arguments.number 2))
  | "bounds" => do
    let _ ← arguments.arity [3]
    let column ← arguments.index 0
    let lower ← arguments.number 1
    let upper ← arguments.number 2
    return .edit (.setBounds column lower upper)
  | "upBound" => askOrSetAt arguments (·.index 0) .upper (arguments.number 1) .setUpper
  | "lowBound" => askOrSetAt arguments (·.index 0) .lower (arguments.number 1) .setLower
  | "breakAtFirst" =>
    askOrSet arguments .breakAtFirst do return .configure (.breakAtFirst (← arguments.boolean 0))
  | "verbose" =>
    askOrSet arguments .verbosity do return .configure (.verbosity (← arguments.verbosity 0))
  | "timeout" =>
    askOrSet arguments .timeout do
      return .configure (.timeout (Decimal.wholePart largestIndex (← arguments.number 0)))
  | "solveSync" => do
    let _ ← arguments.arity [0]
    return .request .solve
  | "variables" => columnValues arguments
  | "writeLP" => do
    let _ ← arguments.arity [1]
    return .request (.write (.file (← arguments.string 0)))
  | "delete" => do
    let _ ← arguments.arity [0]
    return .request .dispose
  | _ => .error (.kind (.unknownMethod method))

/-- **What a host is told** about a request that did not fail. A new name is confirmed, though
setting it tells nothing. -/
def value (request : Request) (answer : Answer) : Value :=
  match request with
  | .configure (.name _) => .bool true
  | _ => Value.ofAnswer answer

end Call

end LinearProgram.Host
