/-
**Working storage for the arguments of a call.**

A work stack has a buffer of indices and one of values. A call opens a frame, takes slots at the
top of both buffers, and gives all of them back when the frame closes, however the call ended. The
buffers keep their size and their contents from call to call, so slots hold what an earlier call
left there until they are written.

* `WorkStack.take`: slots at the top. `WorkStack.close`: gives back all slots of a frame.
* `WorkStack.putIndices`, `putValues`, `entries`: writing to slots and reading from them.
-/

import LinearProgram.Problem.SparseRows

namespace LinearProgram

/-- Buffers that are used from the bottom up. -/
structure WorkStack where
  indices : List Nat := []
  values : List Float := []
  /-- The number of indices that are in use. -/
  indicesInUse : Nat := 0
  /-- The number of values that are in use. -/
  valuesInUse : Nat := 0
  deriving Repr

instance : Inhabited WorkStack := ⟨{}⟩

/-- How much of each buffer was in use when a call began. -/
structure Frame where
  indices : Nat
  values : Nat
  deriving DecidableEq, Repr

/-- The stretches of both buffers that one request was given. -/
structure Slots where
  indices : Span
  values : Span
  deriving DecidableEq, Repr

/-- A buffer of at least the given size. -/
def grow {α : Type} [Inhabited α] (buffer : List α) (size : Nat) : List α :=
  buffer ++ List.replicate (size - buffer.length) default

/-- Items written over the contents of a buffer. -/
def overwrite {α : Type} (buffer : List α) (start : Nat) (items : List α) : List α :=
  buffer.take start ++ items ++ buffer.drop (start + items.length)

namespace WorkStack

/-- Whether nothing is in use. -/
def isEmpty (stack : WorkStack) : Bool :=
  stack.indicesInUse == 0 && stack.valuesInUse == 0

/-- The numbers of indices and of values in use. -/
def outstanding (stack : WorkStack) : Nat × Nat :=
  (stack.indicesInUse, stack.valuesInUse)

/-- A frame at the present top. -/
def openFrame (stack : WorkStack) : Frame :=
  ⟨stack.indicesInUse, stack.valuesInUse⟩

/-- Gives back everything taken since the frame was opened. -/
def close (stack : WorkStack) (frame : Frame) : WorkStack :=
  { stack with indicesInUse := frame.indices, valuesInUse := frame.values }

/-- **Slots at the top of both buffers.** The buffers grow as needed; what the slots hold is left
from earlier. -/
def take (stack : WorkStack) (indexCount valueCount : Nat) : Slots × WorkStack :=
  (⟨⟨stack.indicesInUse, indexCount⟩, ⟨stack.valuesInUse, valueCount⟩⟩,
    { indices := grow stack.indices (stack.indicesInUse + indexCount)
      values := grow stack.values (stack.valuesInUse + valueCount)
      indicesInUse := stack.indicesInUse + indexCount
      valuesInUse := stack.valuesInUse + valueCount })

/-- Writes indices to slots, from an offset on. -/
def putIndices (stack : WorkStack) (slots : Slots) (offset : Nat) (items : List Nat) : WorkStack :=
  { stack with indices := overwrite stack.indices (slots.indices.start + offset) items }

/-- Writes values to slots, from an offset on. -/
def putValues (stack : WorkStack) (slots : Slots) (offset : Nat) (items : List Float) : WorkStack :=
  { stack with values := overwrite stack.values (slots.values.start + offset) items }

/-- The indices in slots, from an offset on. -/
def readIndices (stack : WorkStack) (slots : Slots) (offset count : Nat) : List Nat :=
  (stack.indices.drop (slots.indices.start + offset)).take count

/-- The values in slots, from an offset on. -/
def readValues (stack : WorkStack) (slots : Slots) (offset count : Nat) : List Float :=
  (stack.values.drop (slots.values.start + offset)).take count

/-- The first indices and values in slots, taken together as entries. -/
def entries (stack : WorkStack) (slots : Slots) (count : Nat) : List Entry :=
  List.zipWith Entry.mk (stack.readIndices slots 0 count) (stack.readValues slots 0 count)

end WorkStack

end LinearProgram
