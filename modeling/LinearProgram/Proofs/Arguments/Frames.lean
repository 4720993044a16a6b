/-
**Calls through a frame of a work stack.**

The buffers of a work stack are never cleared, and a call that fails may have taken slots by then. A
call is told by none of that. It takes its slots at the top and writes to no other place, so what
stands below the top stays there, for the frames that enclose the call and for the calls before it.

* `Extends`: what stands below the tops of one stack stands in another as well.
* `Loads`: what loading a row does to a stack. `loads_load`: each of the three forms does that.
* `serve`, `serveAll`: one call through a frame, and all of them.
* **`transparent_serveAll`**: what the calls are told, where their slots are, and what is left when
  the frame is closed.
-/

import LinearProgram.Proofs.Arguments.Load

namespace LinearProgram

/-! ### Stretches and slots -/

/-- Two stretches without a common place. -/
def Span.Apart (first second : Span) : Prop :=
  first.start + first.length ≤ second.start ∨ second.start + second.length ≤ first.start

/-- Slots without a common place. -/
structure Slots.Apart (first second : Slots) : Prop where
  indices : first.indices.Apart second.indices
  values : first.values.Apart second.values

section Buffers

variable {α : Type}

theorem getElem?_grow [Inhabited α] {buffer : List α} {place : Nat} {item : α} (size : Nat)
    (stands : buffer[place]? = some item) : (grow buffer size)[place]? = some item := by
  obtain ⟨inside, -⟩ := List.getElem?_eq_some_iff.mp stands
  rw [grow, List.getElem?_append_left inside]
  exact stands

theorem getElem?_overwrite {buffer : List α} {start place : Nat} {item : α} (items : List α)
    (below : place < start) (stands : buffer[place]? = some item) :
    (overwrite buffer start items)[place]? = some item := by
  obtain ⟨inside, -⟩ := List.getElem?_eq_some_iff.mp stands
  rw [overwrite, List.append_assoc, List.getElem?_append_left (by rw [List.length_take]; omega),
    List.getElem?_take_of_lt below]
  exact stands

/-- A stretch is read the same where all that stands below some place is kept. -/
theorem take_drop_of_kept {buffer kept : List α} {start count bound : Nat}
    (keeps : ∀ place < bound, ∀ item, buffer[place]? = some item → kept[place]? = some item)
    (within : start + count ≤ bound) (full : ((buffer.drop start).take count).length = count) :
    (kept.drop start).take count = (buffer.drop start).take count := by
  refine List.ext_getElem? fun place => ?_
  by_cases inside : place < count
  · have there : start + place < buffer.length := by
      rw [List.length_take, List.length_drop] at full
      omega
    have item := List.getElem?_eq_getElem there
    rw [List.getElem?_take_of_lt inside, List.getElem?_take_of_lt inside, List.getElem?_drop,
      List.getElem?_drop, item]
    exact keeps _ (by omega) _ item
  · rw [List.getElem?_eq_none (by rw [List.length_take]; omega),
      List.getElem?_eq_none (by rw [List.length_take]; omega)]

end Buffers

namespace WorkStack

/-! ### What stays below the top -/

/-- Slots below the tops of a stack: handed out, and not given back. -/
structure Lent (stack : WorkStack) (slots : Slots) : Prop where
  indices : slots.indices.start + slots.indices.length ≤ stack.indicesInUse
  values : slots.values.start + slots.values.length ≤ stack.valuesInUse

/-- The second stack has no lower tops than the first, and what stands below the tops of the first
stands in the second as well. -/
structure Extends (first second : WorkStack) : Prop where
  indicesInUse : first.indicesInUse ≤ second.indicesInUse
  valuesInUse : first.valuesInUse ≤ second.valuesInUse
  indices : ∀ place < first.indicesInUse, ∀ index,
    first.indices[place]? = some index → second.indices[place]? = some index
  values : ∀ place < first.valuesInUse, ∀ value,
    first.values[place]? = some value → second.values[place]? = some value

variable {base stack after final : WorkStack} {slots : Slots}

theorem Lent.mono (lent : stack.Lent slots) (held : stack.Extends after) : after.Lent slots :=
  ⟨Nat.le_trans lent.indices held.indicesInUse, Nat.le_trans lent.values held.valuesInUse⟩

namespace Extends

theorem refl (stack : WorkStack) : stack.Extends stack :=
  ⟨Nat.le_refl _, Nat.le_refl _, fun _ _ _ stands => stands, fun _ _ _ stands => stands⟩

theorem trans (earlier : base.Extends stack) (later : stack.Extends after) :
    base.Extends after where
  indicesInUse := Nat.le_trans earlier.indicesInUse later.indicesInUse
  valuesInUse := Nat.le_trans earlier.valuesInUse later.valuesInUse
  indices place below index stands :=
    later.indices place (Nat.lt_of_lt_of_le below earlier.indicesInUse) index
      (earlier.indices place below index stands)
  values place below value stands :=
    later.values place (Nat.lt_of_lt_of_le below earlier.valuesInUse) value
      (earlier.values place below value stands)

theorem take (stack : WorkStack) (indexCount valueCount : Nat) :
    stack.Extends (stack.take indexCount valueCount).2 where
  indicesInUse := Nat.le_add_right _ _
  valuesInUse := Nat.le_add_right _ _
  indices _ _ _ stands := getElem?_grow _ stands
  values _ _ _ stands := getElem?_grow _ stands

/-- Slots at or above the tops may be written to. -/
theorem putIndices (held : base.Extends stack) (slots : Slots)
    (above : base.indicesInUse ≤ slots.indices.start) (offset : Nat) (items : List Nat) :
    base.Extends (stack.putIndices slots offset items) where
  indicesInUse := held.indicesInUse
  valuesInUse := held.valuesInUse
  indices place below index stands :=
    getElem?_overwrite items (by omega) (held.indices place below index stands)
  values := held.values

theorem putValues (held : base.Extends stack) (slots : Slots)
    (above : base.valuesInUse ≤ slots.values.start) (offset : Nat) (items : List Float) :
    base.Extends (stack.putValues slots offset items) where
  indicesInUse := held.indicesInUse
  valuesInUse := held.valuesInUse
  indices := held.indices
  values place below value stands :=
    getElem?_overwrite items (by omega) (held.values place below value stands)

/-- A frame that is closed leaves what was there when it was opened. -/
theorem close (held : base.Extends stack) : base.Extends (stack.close base.openFrame) :=
  ⟨Nat.le_refl _, Nat.le_refl _, held.indices, held.values⟩

/-- What slots below the tops hold is read from the later stack as well. -/
theorem readIndices (held : stack.Extends after) {count : Nat}
    (within : slots.indices.start + count ≤ stack.indicesInUse)
    (full : (stack.readIndices slots 0 count).length = count) :
    after.readIndices slots 0 count = stack.readIndices slots 0 count :=
  take_drop_of_kept held.indices (by omega) full

theorem readValues (held : stack.Extends after) {count : Nat}
    (within : slots.values.start + count ≤ stack.valuesInUse)
    (full : (stack.readValues slots 0 count).length = count) :
    after.readValues slots 0 count = stack.readValues slots 0 count :=
  take_drop_of_kept held.values (by omega) full

end Extends

/-! ### Rows in slots -/

/-- The slots by which the tops were raised. -/
def raised (before after : WorkStack) : Slots :=
  ⟨⟨before.indicesInUse, after.indicesInUse - before.indicesInUse⟩,
    ⟨before.valuesInUse, after.valuesInUse - before.valuesInUse⟩⟩

theorem raised_take (stack : WorkStack) (indexCount valueCount : Nat) :
    raised stack (stack.take indexCount valueCount).2 = (stack.take indexCount valueCount).1 := by
  rw [raised, take, Nat.add_sub_cancel_left, Nat.add_sub_cancel_left]

theorem lent_raised (held : base.Extends after) : after.Lent (raised base after) :=
  ⟨Nat.le_of_eq (Nat.add_sub_cancel' held.indicesInUse),
    Nat.le_of_eq (Nat.add_sub_cancel' held.valuesInUse)⟩

/-- Slots that are handed out do not meet those that were handed out before. -/
theorem Lent.apart_raised (lent : base.Lent slots) (after : WorkStack) :
    slots.Apart (raised base after) :=
  ⟨.inl lent.indices, .inl lent.values⟩

/-- Slots hold a row. -/
structure Bears (stack : WorkStack) (slots : Slots) (entries : List Entry) : Prop where
  indices : entries.length ≤ slots.indices.length
  values : entries.length ≤ slots.values.length
  reads : stack.entries slots entries.length = entries

theorem length_entries (stack : WorkStack) (slots : Slots) (count : Nat) :
    (stack.entries slots count).length
      = min (stack.readIndices slots 0 count).length (stack.readValues slots 0 count).length :=
  List.length_zipWith

theorem length_entries_le (stack : WorkStack) (slots : Slots) (count : Nat) :
    (stack.entries slots count).length ≤ count := by
  rw [length_entries, readIndices, readValues, List.length_take, List.length_take]
  omega

/-- The entries that were read are those at the front. -/
theorem entries_length_entries (stack : WorkStack) (slots : Slots) (count : Nat) :
    stack.entries slots (stack.entries slots count).length = stack.entries slots count := by
  have front (size : Nat) : stack.entries slots size
      = (List.zipWith Entry.mk (stack.indices.drop (slots.indices.start + 0))
          (stack.values.drop (slots.values.start + 0))).take size :=
    List.take_zipWith.symm
  rw [front, front count, List.length_take, List.take_eq_take_iff]
  omega

theorem bears_entries {count : Nat} (stack : WorkStack) (fits : count ≤ slots.indices.length)
    (fitValues : count ≤ slots.values.length) : stack.Bears slots (stack.entries slots count) where
  indices := Nat.le_trans (length_entries_le _ _ _) fits
  values := Nat.le_trans (length_entries_le _ _ _) fitValues
  reads := entries_length_entries stack slots count

/-- **A row stays in its slots** as long as these are not given back. -/
theorem Bears.mono {entries : List Entry} (bears : stack.Bears slots entries)
    (lent : stack.Lent slots) (held : stack.Extends after) : after.Bears slots entries := by
  refine ⟨bears.indices, bears.values, ?_⟩
  have full := congrArg List.length bears.reads
  rw [length_entries] at full
  have most : (stack.readIndices slots 0 entries.length).length ≤ entries.length :=
    List.length_take_le _ _
  have mostValues : (stack.readValues slots 0 entries.length).length ≤ entries.length :=
    List.length_take_le _ _
  have within := lent.indices
  have withinValues := lent.values
  have fits := bears.indices
  have fitValues := bears.values
  rw [WorkStack.entries, held.readIndices (by omega) (by omega),
    held.readValues (by omega) (by omega)]
  exact bears.reads

/-! ### Loading a row -/

/-- What loading a row does to a stack: the row, if there is one, is in slots that were taken. -/
structure Loads (stack : WorkStack) (outcome : Except ShapeFault (List Entry) × WorkStack) :
    Prop where
  held : stack.Extends outcome.2
  row : ∀ entries, outcome.1 = .ok entries →
    outcome.2.Bears (raised stack outcome.2) entries

theorem Loads.error (held : stack.Extends after) (fault : ShapeFault) :
    stack.Loads (.error fault, after) :=
  ⟨held, nofun⟩

theorem Loads.entries {count : Nat} (held : stack.Extends after)
    (taken : raised stack after = slots) (fits : count ≤ slots.indices.length)
    (fitValues : count ≤ slots.values.length) :
    stack.Loads (.ok (after.entries slots count), after) := by
  refine ⟨held, fun entries same => ?_⟩
  cases same
  rw [taken]
  exact bears_entries after fits fitValues

theorem loads_loadDense (stack : WorkStack) (values : List Float) (dimension : Nat) :
    stack.Loads (loadDense stack values dimension) := by
  rw [loadDense]
  split
  · exact .error (.refl stack) _
  · have taken := Extends.take stack (nonzeroEntries 1 values).length
      (nonzeroEntries 1 values).length
    exact .entries ((taken.putIndices _ (Nat.le_refl _) 0 _).putValues _ (Nat.le_refl _) 0 _)
      (raised_take stack _ _) (Nat.le_refl _) (Nat.le_refl _)

theorem loads_loadSparse (stack : WorkStack) (count : Nat) (values : List Float)
    (indices : List Nat) (dimension : Nat) :
    stack.Loads (loadSparse stack count values indices dimension) := by
  rw [loadSparse]
  split
  · exact .error (.refl stack) _
  split
  · exact .error (.refl stack) _
  split
  · exact .error (.refl stack) _
  -- The slots are taken by now, so a fault leaves them to the frame.
  have taken := Extends.take stack (2 * count) count
  have sorted (items : List Nat) := (taken.putIndices (stack.take (2 * count) count).1
    (Nat.le_refl _) count (indices.take count)).putIndices (stack.take (2 * count) count).1
      (Nat.le_refl _) count items
  dsimp only
  split
  · exact .error (sorted _) _
  · exact .entries
      (((sorted _).putIndices _ (Nat.le_refl _) 0 _).putValues _ (Nat.le_refl _) 0 _)
      (raised_take stack _ _) (Nat.le_mul_of_pos_left count (Nat.succ_pos 1)) (Nat.le_refl _)

/-- Filling slots writes to them only, and not to more of them than there are words. -/
theorem fillWords_held (base stack : WorkStack) (slots : Slots) (index filled : Nat)
    (words : List (List Char)) (held : base.Extends stack)
    (above : base.indicesInUse ≤ slots.indices.start)
    (aboveValues : base.valuesInUse ≤ slots.values.start) :
    base.Extends (fillWords stack slots index filled words).2
      ∧ raised base (fillWords stack slots index filled words).2 = raised base stack
      ∧ ∀ count, (fillWords stack slots index filled words).1 = .ok count →
          count ≤ filled + words.length := by
  induction words generalizing stack index filled with
  | nil => exact ⟨held, rfl, fun count same => by cases same; exact Nat.le_refl _⟩
  | cons word rest hyp =>
    rw [fillWords, List.length_cons]
    cases Decimal.signed? word with
    | none => exact ⟨held, rfl, fun _ failed => by cases failed⟩
    | some value =>
      dsimp only
      split
      · obtain ⟨held', same, most⟩ := hyp
          ((stack.putIndices slots filled [index]).putValues slots filled [value]) (index + 1)
          (filled + 1) ((held.putIndices slots above _ _).putValues slots aboveValues _ _)
        refine ⟨held', same, fun count filledAll => ?_⟩
        have bound := most count filledAll
        omega
      · obtain ⟨held', same, most⟩ := hyp stack (index + 1) filled held
        refine ⟨held', same, fun count filledAll => ?_⟩
        have bound := most count filledAll
        omega

theorem loads_loadText (stack : WorkStack) (source : String) (dimension : Nat) :
    stack.Loads (loadText stack source dimension) := by
  unfold loadText
  dsimp only
  split
  · exact .error (.refl stack) _
  · obtain ⟨held, same, most⟩ := fillWords_held stack _
      (stack.take (Text.words source.toList).length (Text.words source.toList).length).1 1 0
      (Text.words source.toList) (Extends.take stack _ _) (Nat.le_refl _) (Nat.le_refl _)
    split
    next filled after done =>
      rw [done] at held same most
      have bound := most filled rfl
      rw [Nat.zero_add] at bound
      exact .entries held (same.trans (raised_take stack _ _)) bound bound
    next fault after failed =>
      rw [failed] at held
      exact .error held fault

/-- **Loading a row** takes slots for it and touches nothing else. -/
theorem loads_load (argument : RowArgument) (dimension : Nat) (stack : WorkStack) :
    stack.Loads (argument.load dimension stack) := by
  cases argument with
  | dense values => exact loads_loadDense stack values dimension
  | sparse count values indices => exact loads_loadSparse stack count values indices dimension
  | text source => exact loads_loadText stack source dimension

/-! ### Calls through a frame -/

/-- A call through a frame: it loads a row, or it asks for slots, which then are the caller's own.
The indices and values are what the caller writes to them in the end. -/
inductive Call where
  | load (argument : RowArgument) (dimension : Nat)
  | alloc (indices : List Nat) (values : List Float)

/-- What a call is told. -/
inductive Reply where
  | row (outcome : Except ShapeFault (List Entry))
  | room (slots : Slots)

/-- One call through a frame. -/
def serve (stack : WorkStack) : Call → Reply × WorkStack
  | .load argument dimension =>
    let (outcome, after) := argument.load dimension stack
    (.row outcome, after)
  | .alloc indices values =>
    let (slots, after) := stack.take indices.length values.length
    (.room slots, (after.putIndices slots 0 indices).putValues slots 0 values)

/-- A call, what it was told, and the slots that it took. -/
structure Service where
  call : Call
  reply : Reply
  slots : Slots

/-- Calls through a frame, one after the other. None of them ends the frame, whether it fails or
not. -/
def serveAll (stack : WorkStack) : List Call → List Service × WorkStack
  | [] => ([], stack)
  | call :: rest =>
    let (reply, after) := stack.serve call
    let (services, final) := after.serveAll rest
    (⟨call, reply, raised stack after⟩ :: services, final)

namespace Service

/-- A call for a row is told what it is told on a stack that was never used, and a call for slots
where these are. -/
def Answered (service : Service) : Prop :=
  match service.call with
  | .load argument dimension => service.reply = .row (argument.load dimension {}).1
  | .alloc indices values => service.reply = .room service.slots
      ∧ service.slots.indices.length = indices.length
      ∧ service.slots.values.length = values.length

/-- What was put into the slots of a call stands there. -/
structure Stands (service : Service) (stack : WorkStack) : Prop where
  lent : stack.Lent service.slots
  row : ∀ entries, service.reply = .row (.ok entries) → stack.Bears service.slots entries
  indices : ∀ indices values, service.call = .alloc indices values →
    stack.readIndices service.slots 0 indices.length = indices
  values : ∀ indices values, service.call = .alloc indices values →
    stack.readValues service.slots 0 values.length = values

theorem Stands.mono {service : Service} (stands : service.Stands stack)
    (answered : service.Answered) (held : stack.Extends after) : service.Stands after where
  lent := stands.lent.mono held
  row entries told := (stands.row entries told).mono stands.lent held
  indices indices values asked := by
    rw [Answered, asked] at answered
    have within := stands.lent.indices
    have read := stands.indices indices values asked
    rw [answered.2.1] at within
    rw [held.readIndices within (congrArg List.length read), read]
  values indices values asked := by
    rw [Answered, asked] at answered
    have within := stands.lent.values
    have read := stands.values indices values asked
    rw [answered.2.2] at within
    rw [held.readValues within (congrArg List.length read), read]

end Service

/-- **What one call does.** -/
theorem serve_spec (stack : WorkStack) (call : Call) :
    stack.Extends (stack.serve call).2
      ∧ Service.Answered ⟨call, (stack.serve call).1, raised stack (stack.serve call).2⟩
      ∧ Service.Stands ⟨call, (stack.serve call).1, raised stack (stack.serve call).2⟩
          (stack.serve call).2 := by
  cases call with
  | load argument dimension =>
    have loads := loads_load argument dimension stack
    refine ⟨loads.held, ?_, lent_raised loads.held, ?_, nofun, nofun⟩
    · exact congrArg Reply.row
        ((load_eq argument dimension stack).trans (load_eq argument dimension {}).symm)
    · intro entries told
      exact loads.row entries (Reply.row.inj told)
  | alloc indices values =>
    have taken := holds_take stack indices.length values.length
    have held := ((Extends.take stack indices.length values.length).putIndices
      (stack.take indices.length values.length).1 (Nat.le_refl _) 0 indices).putValues
        (stack.take indices.length values.length).1 (Nat.le_refl _) 0 values
    have same := raised_take stack indices.length values.length
    refine ⟨held, ⟨congrArg Reply.room same.symm, ?_, ?_⟩, lent_raised held, nofun, ?_, ?_⟩
    · exact congrArg (·.indices.length) same
    · exact congrArg (·.values.length) same
    · rintro _ _ ⟨⟩
      have read := readIndices_putIndices taken 0 0 indices (Nat.zero_le _)
      rw [Nat.zero_add, Nat.zero_add] at read
      exact read
    · rintro _ _ ⟨⟩
      have read := readValues_putValues (taken.putIndices indices (Nat.le_of_eq (Nat.zero_add _)))
        0 0 values (Nat.zero_le _)
      rw [Nat.zero_add, Nat.zero_add] at read
      exact read

/-- What the calls through a frame are told, where their slots are, and what they leave of the rest,
for as long as the frame is open and when it is closed. -/
structure Transparent (stack : WorkStack) (calls : List Call) (services : List Service)
    (final : WorkStack) : Prop where
  /-- Each call is served, whether one before it failed or not. -/
  served : services.map (·.call) = calls
  answered : ∀ service ∈ services, service.Answered
  stands : ∀ service ∈ services, service.Stands final
  apart : services.Pairwise fun first second => first.slots.Apart second.slots
  /-- Slots of the frames around it are apart from those of this frame. -/
  enclosing : ∀ slots, stack.Lent slots → ∀ service ∈ services, slots.Apart service.slots
  /-- What stands in the slots of the frames around it is not changed. -/
  held : stack.Extends final
  left : stack.Extends (final.close stack.openFrame)
  outstanding : (final.close stack.openFrame).outstanding = stack.outstanding

/-- **Calls through a frame are told nothing of the stack**, whatever its buffers hold and whatever
is in use. -/
theorem transparent_serveAll (stack : WorkStack) (calls : List Call) :
    Transparent stack calls (stack.serveAll calls).1 (stack.serveAll calls).2 := by
  induction calls generalizing stack with
  | nil =>
    exact ⟨rfl, nofun, nofun, .nil, fun _ _ _ member => (List.not_mem_nil member).elim, .refl stack,
      (Extends.refl stack).close, rfl⟩
  | cons call rest hyp =>
    obtain ⟨held, answered, stands⟩ := serve_spec stack call
    obtain ⟨served, later, laterStands, apart, enclosing, heldRest, -, -⟩ :=
      hyp (stack.serve call).2
    have whole := held.trans heldRest
    refine ⟨congrArg (call :: ·) served, ?_, ?_, ?_, ?_, whole, whole.close, rfl⟩
    · exact List.forall_mem_cons.mpr ⟨answered, later⟩
    · exact List.forall_mem_cons.mpr ⟨stands.mono answered heldRest, laterStands⟩
    · exact List.pairwise_cons.mpr ⟨enclosing _ stands.lent, apart⟩
    · intro slots lent
      exact List.forall_mem_cons.mpr ⟨lent.apart_raised _, enclosing slots (lent.mono held)⟩

end WorkStack

end LinearProgram
