/-
**The coefficients of a row as a call gives them.**

A row comes as a dense sequence of values, as values with their indices, or as a text of numbers.
All three become entries in working storage. Zeros are dropped from a dense sequence and from a
text; values with indices are taken as they are.

* `RowArgument`: the three forms.
* `RowArgument.load`: the entries, or why they do not fit into the dimension.
* `loadDense`, `loadSparse`, `loadText`: the three forms one by one.
-/

import LinearProgram.Arguments.ShapeFault
import LinearProgram.Arguments.WorkStack
import LinearProgram.Decimal.Literal
import LinearProgram.Text.Blank

namespace LinearProgram

/-- The coefficients of a row as a call gives them. -/
inductive RowArgument where
  | dense (values : List Float)
  | sparse (count : Nat) (values : List Float) (indices : List Nat)
  | text (source : String)
  deriving Repr

/-- The values other than zero of a dense sequence, with the index at which each one stands. -/
def nonzeroEntries (first : Nat) : List Float → List Entry
  | [] => []
  | value :: rest =>
    if value != 0 then ⟨first, value⟩ :: nonzeroEntries (first + 1) rest
    else nonzeroEntries (first + 1) rest

/-- The first of two equal neighbours. -/
def firstRepeated : List Nat → Option Nat
  | first :: second :: rest =>
    if first = second then some first else firstRepeated (second :: rest)
  | _ => none

/-- **A dense sequence**; the value at position `i` belongs to the index `i + 1`. -/
def loadDense (stack : WorkStack) (values : List Float) (dimension : Nat) :
    Except ShapeFault (List Entry) × WorkStack :=
  if dimension < values.length then (.error (.tooLong values.length dimension), stack)
  else
    let entries := nonzeroEntries 1 values
    let (slots, stack) := stack.take entries.length entries.length
    let stack := stack.putIndices slots 0 (entries.map (·.column))
    let stack := stack.putValues slots 0 (entries.map (·.coefficient))
    (.ok (stack.entries slots entries.length), stack)

/-- **Values with their indices**, of which the first `count` are used. The indices must be distinct
and within the dimension. A second set of index slots holds them sorted, where equal ones are
neighbours. -/
def loadSparse (stack : WorkStack) (count : Nat) (values : List Float) (indices : List Nat)
    (dimension : Nat) : Except ShapeFault (List Entry) × WorkStack :=
  if values.length ≠ indices.length then
    (.error (.unequalLengths values.length indices.length), stack)
  else if values.length < count then (.error (.countTooLarge count values.length), stack)
  else
    match (indices.take count).find? fun index => index == 0 || dimension < index with
    | some index => (.error (.indexOutOfRange index dimension), stack)
    | none =>
      let (slots, stack) := stack.take (2 * count) count
      let stack := stack.putIndices slots count (indices.take count)
      let stack := stack.putIndices slots count (stack.readIndices slots count count).mergeSort
      match firstRepeated (stack.readIndices slots count count) with
      | some index => (.error (.duplicateIndex index), stack)
      | none =>
        let stack := stack.putIndices slots 0 (indices.take count)
        let stack := stack.putValues slots 0 (values.take count)
        (.ok (stack.entries slots count), stack)

/-- Writes the numbers that words write to slots, without the zeros. `index` is that of the first
word, `filled` the number of slots written before; the result is the number written in all. -/
def fillWords (stack : WorkStack) (slots : Slots) (index filled : Nat) :
    List (List Char) → Except ShapeFault Nat × WorkStack
  | [] => (.ok filled, stack)
  | word :: rest =>
    match Decimal.signed? word with
    | none => (.error (.invalidNumber (String.ofList word)), stack)
    | some value =>
      if value != 0 then
        fillWords ((stack.putIndices slots filled [index]).putValues slots filled [value]) slots
          (index + 1) (filled + 1) rest
      else fillWords stack slots (index + 1) filled rest

/-- **A text of numbers** with blanks between them, read as a dense sequence. -/
def loadText (stack : WorkStack) (source : String) (dimension : Nat) :
    Except ShapeFault (List Entry) × WorkStack :=
  let words := Text.words source.toList
  if dimension < words.length then (.error (.tooManyNumbers words.length dimension), stack)
  else
    let (slots, stack) := stack.take words.length words.length
    match fillWords stack slots 1 0 words with
    | (.ok filled, stack) => (.ok (stack.entries slots filled), stack)
    | (.error fault, stack) => (.error fault, stack)

/-- **The entries that a call gives for a row**, or why they do not fit. -/
def RowArgument.load (argument : RowArgument) (dimension : Nat) (stack : WorkStack) :
    Except ShapeFault (List Entry) × WorkStack :=
  match argument with
  | dense values => loadDense stack values dimension
  | sparse count values indices => loadSparse stack count values indices dimension
  | text source => loadText stack source dimension

end LinearProgram
