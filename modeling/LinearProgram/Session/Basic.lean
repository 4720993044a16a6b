/-
**Models that are held in slots.**

A session has a solver, the world that its engines share, a disk, and every model that was ever
made. A model is known by its number; whoever holds one keeps its number in a slot. A callback that
is to start a solve again holds its model, too. Giving up a slot ends its model unless such a
callback holds it, even in the middle of a solve; so does putting another model into the slot.

* `Session.model?`: the model in a slot. `Session.hold`, `Session.release`: filling slots and giving
  them up.
* `Session.isHeld`, `Session.releaseUnheld`: a model ends when nobody holds it any more.
* `Session.create`, `Session.read`: new models. Nothing is given up for a model that was not made.
-/

import LinearProgram.Model.Open
import LinearProgram.Session.Context
import LinearProgram.Session.Disk

namespace LinearProgram

/-- Where the text of a problem can come from. -/
inductive Source where
  | bytes (bytes : List UInt8)
  | file (path : String)
  /-- A place that gives nothing. -/
  | broken
  deriving Repr

/-- Models in slots, and what they share. -/
structure Session (World Engine : Type) where
  solver : Solver World Engine
  world : World
  disk : Disk := {}
  /-- Every model, by its number. -/
  models : List (Model Engine) := []
  /-- The slots in use, with the numbers of their models. -/
  slots : List (Nat × Nat) := []
  /-- The workers that a context gets; zero asks for one for each processor. -/
  workers : Nat := 1
  processors : Nat := 1
  context : Option (Context Engine) := none
  /-- The time that has passed. -/
  clock : Nat := 0

namespace Session

variable {World Engine : Type}

/-- The model in a slot, with its number. -/
def model? (session : Session World Engine) (slot : Nat) : Option (Nat × Model Engine) := do
  let number ← session.slots.lookup slot
  let model ← session.models[number]?
  return (number, model)

/-- The model with a number. -/
def modelAt (session : Session World Engine) (number : Nat) : Model Engine :=
  (session.models[number]?).getD {}

/-- Whether a model is in a slot or held by a callback. -/
def isHeld (session : Session World Engine) (number : Nat) : Bool :=
  session.slots.any (fun entry => entry.2 == number)
    || session.context.any fun context => context.callbacks.any fun entry => entry.keeps number

/-- Replaces a model. -/
def setModel (session : Session World Engine) (number : Nat) (model : Model Engine) :
    Session World Engine :=
  { session with models := session.models.set number model }

/-- A model ends if nobody holds it any more. -/
def releaseUnheld (session : Session World Engine) (number : Nat) : Session World Engine :=
  if session.isHeld number then session
  else session.setModel number (session.modelAt number).release

/-- **Gives up a slot.** -/
def release (session : Session World Engine) (slot : Nat) : Session World Engine :=
  match session.slots.lookup slot with
  | none => session
  | some number =>
    { session with
      slots := session.slots.filter fun entry => entry.1 != slot }.releaseUnheld number

/-- **Puts a new model into a slot.** -/
def hold (session : Session World Engine) (slot : Nat) (model : Model Engine) :
    Session World Engine :=
  let session := session.release slot
  { session with
    models := session.models ++ [model]
    slots := (slot, session.models.length) :: session.slots }

/-- Puts a model into a slot if it was made. -/
def holdMade (session : Session World Engine) (slot : Nat)
    (made : Except Error (Model Engine) × World) : Except Error Unit × Session World Engine :=
  match made with
  | (.error error, world) => (.error error, { session with world })
  | (.ok model, world) => (.ok (), { session with world }.hold slot model)

/-- **A new model of empty rows and continuous columns.** -/
def create (session : Session World Engine) (slot rows columns : Nat) :
    Except Error Unit × Session World Engine :=
  session.holdMade slot (Model.create session.solver rows columns session.world)

/-- What a source gives. -/
def contents? (session : Session World Engine) : Source → Option (List UInt8)
  | .bytes bytes => some bytes
  | .file path => session.disk.read? path
  | .broken => none

/-- **A new model of the problem in a text.** -/
def read (session : Session World Engine) (slot : Nat) (source : Source) (verbosity : Verbosity)
    (name : String) : Except Error Unit × Session World Engine :=
  match session.contents? source with
  | none => (.error .file, session)
  | some bytes =>
    session.holdMade slot (Model.read session.solver bytes verbosity name session.world)

end Session

end LinearProgram
