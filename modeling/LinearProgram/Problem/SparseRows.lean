/-
**Rows of a matrix, stored end to end.**

The entries of all rows stand in one sequence, row after row. A row is a span of that sequence: the
place of its first entry and the number of its entries. Appending a row grows the sequence at its
end, replacing one moves the spans behind it, and cutting the matrix down packs the entries that
stay towards the front, in the sequence that they are read from.

An operation reads and writes at places that it works out from the spans. Its name ends in a
question mark where nothing comes out if one of the places is outside the sequence, or if a span
would have to move in front of it; the operation without the mark then leaves everything as it is.
For spans that tile the sequence this never happens.

* `SparseRows.rows`: the view that all operations are described by, one list of entries a row.
* `Tiles`: spans that follow one another without a gap.
* `SparseRows.ofRows`: rows laid end to end. `rows_ofRows`: the view gives them back.
* `SparseRows.push`, `row?`, `replace?`, `resize?`: `push_ofRows`, `row?_ofRows`,
  `replace?_ofRows` and `resize?_ofRows` say what they do to rows laid end to end.
-/

namespace LinearProgram

/-- A coefficient and the column, counted from one, that it stands in. -/
structure Entry where
  column : Nat
  coefficient : Float
  deriving Repr, Inhabited

/-- A stretch of a sequence. -/
structure Span where
  start : Nat
  length : Nat
  deriving DecidableEq, Repr, Inhabited

/-- The span after `added` items were put in and `removed` items taken out in front of it. -/
def Span.shift? (span : Span) (added removed : Nat) : Option Span :=
  if removed ≤ span.start + added then some ⟨span.start + added - removed, span.length⟩ else none

/-- Spans that follow one another without a gap from one place to another. -/
def Tiles : Nat → List Span → Nat → Prop
  | start, [], stop => start = stop
  | start, span :: spans, stop => span.start = start ∧ Tiles (start + span.length) spans stop

/-- Rows of entries, stored end to end. -/
structure SparseRows where
  spans : List Span := []
  entries : List Entry := []
  deriving Repr

instance : Inhabited SparseRows := ⟨{}⟩

namespace SparseRows

/-- The entries of a span. -/
def slice (matrix : SparseRows) (span : Span) : List Entry :=
  (matrix.entries.drop span.start).take span.length

/-- The entries of a span that lies within the sequence. -/
def slice? (matrix : SparseRows) (span : Span) : Option (List Entry) :=
  if span.start + span.length ≤ matrix.entries.length then some (matrix.slice span) else none

/-- All rows, in order. -/
def rows (matrix : SparseRows) : List (List Entry) :=
  matrix.spans.map matrix.slice

/-- The number of rows. -/
def count (matrix : SparseRows) : Nat :=
  matrix.spans.length

/-- The row at a position counted from zero. -/
def row? (matrix : SparseRows) (position : Nat) : Option (List Entry) :=
  (matrix.spans[position]?).bind matrix.slice?

/-- The row at a position counted from zero; empty if there is none. -/
def row (matrix : SparseRows) (position : Nat) : List Entry :=
  (matrix.row? position).getD []

/-- The spans of rows laid end to end from a place on. -/
def spansFrom (start : Nat) : List (List Entry) → List Span
  | [] => []
  | row :: rest => ⟨start, row.length⟩ :: spansFrom (start + row.length) rest

/-- Rows laid end to end. -/
def ofRows (rows : List (List Entry)) : SparseRows :=
  ⟨spansFrom 0 rows, rows.flatten⟩

/-- Appends a row. -/
def push (matrix : SparseRows) (row : List Entry) : SparseRows :=
  ⟨matrix.spans ++ [⟨matrix.entries.length, row.length⟩], matrix.entries ++ row⟩

/-- Puts a row in the place of another one; the rows behind it move along. -/
def replace? (matrix : SparseRows) (position : Nat) (row : List Entry) : Option SparseRows := do
  let span ← matrix.spans[position]?
  let old ← matrix.slice? span
  let later ← (matrix.spans.drop (position + 1)).mapM (·.shift? row.length old.length)
  return {
    spans := matrix.spans.take position ++ ⟨span.start, row.length⟩ :: later
    entries :=
      matrix.entries.take span.start ++ row ++ matrix.entries.drop (span.start + span.length) }

/-- `replace?`, or the matrix as it is. -/
def replace (matrix : SparseRows) (position : Nat) (row : List Entry) : SparseRows :=
  (matrix.replace? position row).getD matrix

/-! ### Packing -/

/-- Copies the entry at a position to the place where the next entry goes, if its column stays. -/
def packEntry? (columnCount position : Nat) (entries : List Entry) (place : Nat) :
    Option (List Entry × Nat) :=
  match entries[position]? with
  | none => none
  | some entry =>
    if entry.column ≤ columnCount then
      if place < entries.length then some (entries.set place entry, place + 1) else none
    else some (entries, place)

/-- Packs a number of entries from a position on. -/
def packRow? (columnCount position : Nat) :
    Nat → List Entry → Nat → Option (List Entry × Nat)
  | 0, entries, place => some (entries, place)
  | count + 1, entries, place => do
    let (entries, place) ← packEntry? columnCount position entries place
    packRow? columnCount (position + 1) count entries place

/-- Packs the rows of some spans; the spans that they have then, the entries, and the place behind
the last one. -/
def pack? (columnCount : Nat) :
    List Span → List Entry → Nat → Option (List Span × List Entry × Nat)
  | [], entries, place => some ([], entries, place)
  | span :: spans, entries, place => do
    let (entries, next) ← packRow? columnCount span.start span.length entries place
    let (packed, rest) ← pack? columnCount spans entries next
    return (⟨place, next - place⟩ :: packed, rest)

/-- Keeps the first `rowCount` rows and in them the columns up to `columnCount`, and fills up with
empty rows. -/
def resize? (matrix : SparseRows) (rowCount columnCount : Nat) : Option SparseRows := do
  let (spans, entries, place) ← pack? columnCount (matrix.spans.take rowCount) matrix.entries 0
  return {
    spans := spans ++ List.replicate (rowCount - matrix.count) ⟨place, 0⟩
    entries := entries.take place }

/-- `resize?`, or the matrix as it is. -/
def resize (matrix : SparseRows) (rowCount columnCount : Nat) : SparseRows :=
  (matrix.resize? rowCount columnCount).getD matrix

/-! ### The view of rows laid end to end -/

@[simp] theorem length_spansFrom (start : Nat) (rows : List (List Entry)) :
    (spansFrom start rows).length = rows.length := by
  induction rows generalizing start with
  | nil => rfl
  | cons row rest hyp => simp [spansFrom, hyp]

theorem spansFrom_append (start : Nat) (first second : List (List Entry)) :
    spansFrom start (first ++ second)
      = spansFrom start first ++ spansFrom (start + first.flatten.length) second := by
  induction first generalizing start with
  | nil => simp [spansFrom]
  | cons row rest hyp => simp [spansFrom, hyp, Nat.add_assoc]

theorem spansFrom_replicate_nil (start count : Nat) :
    spansFrom start (List.replicate count []) = List.replicate count ⟨start, 0⟩ := by
  induction count with
  | zero => rfl
  | succ count hyp => simp [List.replicate_succ, spansFrom, hyp]

/-- A span of rows laid end to end behind other entries cuts out its row again. -/
theorem map_slice_spansFrom (before : List Entry) (rows : List (List Entry)) (after : List Entry) :
    (spansFrom before.length rows).map
        (fun span => ((before ++ rows.flatten ++ after).drop span.start).take span.length)
      = rows := by
  induction rows generalizing before with
  | nil => rfl
  | cons row rest hyp =>
    have step := hyp (before ++ row)
    simp only [List.length_append] at step
    simp only [spansFrom, List.map_cons, List.flatten_cons, List.cons.injEq]
    constructor
    · simp
    · simpa using step

@[simp] theorem rows_ofRows (rows : List (List Entry)) : (ofRows rows).rows = rows := by
  have view := map_slice_spansFrom [] rows []
  simp only [List.nil_append, List.append_nil, List.length_nil] at view
  exact view

@[simp] theorem count_ofRows (rows : List (List Entry)) : (ofRows rows).count = rows.length :=
  length_spansFrom 0 rows

@[simp] theorem entries_ofRows (rows : List (List Entry)) :
    (ofRows rows).entries = rows.flatten := rfl

/-! ### Spans that tile the entries -/

theorem tiles_spansFrom (start : Nat) (rows : List (List Entry)) :
    Tiles start (spansFrom start rows) (start + rows.flatten.length) := by
  induction rows generalizing start with
  | nil => rfl
  | cons row rest hyp =>
    refine ⟨rfl, ?_⟩
    rw [List.flatten_cons, List.length_append, ← Nat.add_assoc]
    exact hyp (start + row.length)

theorem le_of_tiles {start stop : Nat} {spans : List Span} (tiles : Tiles start spans stop) :
    start ≤ stop := by
  induction spans generalizing start with
  | nil => exact Nat.le_of_eq tiles
  | cons span rest hyp => exact Nat.le_trans (Nat.le_add_right _ _) (hyp tiles.2)

/-- **Spans that tile a sequence are those of its pieces laid end to end.** -/
theorem spans_eq_of_tiles {start : Nat} {spans : List Span} {entries : List Entry}
    (tiles : Tiles start spans entries.length) :
    spansFrom start (spans.map (slice ⟨spans, entries⟩)) = spans
      ∧ (spans.map (slice ⟨spans, entries⟩)).flatten = entries.drop start := by
  have slices : ∀ all : List Span, (slice ⟨all, entries⟩ : Span → List Entry)
      = fun span => (entries.drop span.start).take span.length := fun _ => rfl
  rw [slices]
  induction spans generalizing start with
  | nil =>
    refine ⟨rfl, ?_⟩
    rw [show start = entries.length from tiles, List.drop_length]
    rfl
  | cons span rest hyp =>
    obtain ⟨place, tiles⟩ := tiles
    obtain ⟨spans, flat⟩ := hyp tiles
    have bound := le_of_tiles tiles
    have length : ((entries.drop span.start).take span.length).length = span.length := by
      rw [List.length_take, List.length_drop]
      omega
    constructor
    · rw [List.map_cons, spansFrom, length, spans, ← place]
    · rw [List.map_cons, List.flatten_cons, flat, place, ← List.drop_drop,
        List.take_append_drop]

/-- Spans tile the entries exactly when the rows are laid end to end. -/
theorem tiles_iff_eq_ofRows (matrix : SparseRows) :
    Tiles 0 matrix.spans matrix.entries.length ↔ matrix = ofRows matrix.rows := by
  constructor
  · intro tiles
    obtain ⟨spans, flat⟩ := spans_eq_of_tiles tiles
    simp only [ofRows, rows, spans, flat, List.drop_zero]
  · intro same
    have tiles := tiles_spansFrom 0 matrix.rows
    rw [Nat.zero_add] at tiles
    rw [same]
    exact tiles

/-! ### What the operations do -/

/-- A row that is laid end to end with others lies within the entries. -/
theorem slice?_ofRows {rows : List (List Entry)} {span : Span}
    (member : span ∈ (ofRows rows).spans) :
    (ofRows rows).slice? span = some ((ofRows rows).slice span) := by
  have within : ∀ start, ∀ span ∈ spansFrom start rows,
      span.start + span.length ≤ start + rows.flatten.length := by
    clear member
    induction rows with
    | nil => exact fun _ _ member => (List.not_mem_nil member).elim
    | cons row rest hyp =>
      intro start span member
      rw [List.flatten_cons, List.length_append]
      rcases List.mem_cons.mp member with rfl | member
      · show start + row.length ≤ _
        omega
      · have bound := hyp _ _ member
        omega
  have bound := within 0 span member
  rw [Nat.zero_add] at bound
  rw [slice?, if_pos (by simpa using bound)]

theorem row?_ofRows (rows : List (List Entry)) (position : Nat) :
    (ofRows rows).row? position = rows[position]? := by
  have view : ((ofRows rows).spans[position]?).map (ofRows rows).slice = rows[position]? := by
    rw [← List.getElem?_map]
    exact congrArg (·[position]?) (rows_ofRows rows)
  rw [← view, row?]
  cases found : (ofRows rows).spans[position]? with
  | none => rfl
  | some span => exact slice?_ofRows (List.mem_of_getElem? found)

theorem row_ofRows (rows : List (List Entry)) (position : Nat) :
    (ofRows rows).row position = (rows[position]?).getD [] := by
  rw [row, row?_ofRows]

theorem push_ofRows (rows : List (List Entry)) (row : List Entry) :
    (ofRows rows).push row = ofRows (rows ++ [row]) := by
  simp [push, ofRows, spansFrom_append, spansFrom]

/-- The spans behind a row move along with its end. -/
theorem mapM_shift?_spansFrom (start added removed : Nat) (enough : removed ≤ start)
    (rows : List (List Entry)) :
    (spansFrom start rows).mapM (·.shift? added removed)
      = some (spansFrom (start + added - removed) rows) := by
  induction rows generalizing start with
  | nil => rfl
  | cons row rest hyp =>
    have head : (⟨start, row.length⟩ : Span).shift? added removed
        = some ⟨start + added - removed, row.length⟩ := if_pos (by dsimp only; omega)
    have place : start + row.length + added - removed = start + added - removed + row.length := by
      omega
    rw [spansFrom, List.mapM_cons, head, hyp _ (by omega), place]
    rfl

theorem replace?_ofRows {rows : List (List Entry)} {position : Nat} (row : List Entry)
    (inside : position < rows.length) :
    (ofRows rows).replace? position row = some (ofRows (rows.set position row)) := by
  obtain ⟨before, old, after, rfl, place⟩ :
      ∃ before old after, rows = before ++ old :: after ∧ before.length = position :=
    ⟨rows.take position, rows[position], rows.drop (position + 1),
      by rw [List.getElem_cons_drop, List.take_append_drop], by simp; omega⟩
  subst place
  have spans : (ofRows (before ++ old :: after)).spans
      = spansFrom 0 before ++ ⟨before.flatten.length, old.length⟩ ::
          spansFrom (before.flatten.length + old.length) after := by
    simp [ofRows, spansFrom_append, spansFrom]
  have length : (spansFrom 0 before).length = before.length := length_spansFrom 0 before
  have found : (ofRows (before ++ old :: after)).spans[before.length]?
      = some ⟨before.flatten.length, old.length⟩ := by
    rw [spans, List.getElem?_append_right (Nat.le_of_eq length), length, Nat.sub_self]
    rfl
  have cut : (ofRows (before ++ old :: after)).slice? ⟨before.flatten.length, old.length⟩
      = some old := by
    rw [slice?_ofRows (List.mem_of_getElem? found)]
    simp [slice]
  -- The spans behind the row move by the difference of the lengths.
  have shifted := mapM_shift?_spansFrom (before.flatten.length + old.length) row.length old.length
    (by omega) after
  rw [show before.flatten.length + old.length + row.length - old.length
    = before.flatten.length + row.length by omega] at shifted
  have front : (ofRows (before ++ old :: after)).spans.take before.length = spansFrom 0 before := by
    rw [spans, ← length, List.take_left]
  have back : (ofRows (before ++ old :: after)).spans.drop (before.length + 1)
      = spansFrom (before.flatten.length + old.length) after := by
    rw [spans, ← length, List.drop_length_add_append]
    rfl
  have kept : (ofRows (before ++ old :: after)).entries.take before.flatten.length
      = before.flatten := by
    simp only [ofRows, List.flatten_append, List.take_left]
  have rest : (ofRows (before ++ old :: after)).entries.drop (before.flatten.length + old.length)
      = after.flatten := by
    simp only [ofRows, List.flatten_append, List.flatten_cons, List.drop_length_add_append,
      List.drop_left]
  simp only [replace?, found, cut, front, back, shifted, kept, rest, bind, Option.bind, pure]
  simp only [ofRows, List.set_append_right _ _ (Nat.le_refl _), Nat.sub_self, List.set_cons_zero,
    spansFrom_append, spansFrom, List.flatten_append, List.flatten_cons, Nat.zero_add,
    List.append_assoc]

theorem replace_ofRows {rows : List (List Entry)} {position : Nat} (row : List Entry)
    (inside : position < rows.length) :
    (ofRows rows).replace position row = ofRows (rows.set position row) := by
  rw [replace, replace?_ofRows row inside, Option.getD_some]

/-! ### What packing does -/

/-- The entries of a row that stay. -/
def keep (columnCount : Nat) (row : List Entry) : List Entry :=
  row.filter fun entry => entry.column ≤ columnCount

/-- **Packing one row.** In front stand the entries packed before, then entries that are no longer
needed; the kept ones of the row join the former, and the rest of the sequence stays. -/
theorem packRow?_append (columnCount : Nat) (packed spare row rest : List Entry) :
    ∃ spare' : List Entry, packRow? columnCount (packed.length + spare.length) row.length
        (packed ++ spare ++ row ++ rest) packed.length
      = some (packed ++ keep columnCount row ++ spare' ++ rest,
          packed.length + (keep columnCount row).length)
      ∧ spare'.length + (keep columnCount row).length = spare.length + row.length := by
  induction row generalizing packed spare with
  | nil => exact ⟨spare, by simp [packRow?, keep], rfl⟩
  | cons entry row hyp =>
    have read : (packed ++ spare ++ entry :: row ++ rest)[packed.length + spare.length]?
        = some entry := by
      rw [← List.length_append, List.append_assoc (packed ++ spare),
        List.getElem?_append_right (Nat.le_refl _), Nat.sub_self]
      rfl
    by_cases stays : entry.column ≤ columnCount
    · have kept : keep columnCount (entry :: row) = entry :: keep columnCount row :=
        List.filter_cons_of_pos (by simpa using stays)
      -- The entry goes to the front of the spare ones, or stays where it is if there are none.
      obtain ⟨spare', written, size⟩ : ∃ spare' : List Entry,
          (packed ++ spare ++ entry :: row ++ rest).set packed.length entry
            = packed ++ [entry] ++ spare' ++ row ++ rest ∧ spare'.length = spare.length := by
        cases spare with
        | nil => exact ⟨[], by simp, rfl⟩
        | cons first spare => exact ⟨spare ++ [entry], by simp, by simp⟩
      have inside : packed.length < (packed ++ spare ++ entry :: row ++ rest).length := by
        simp only [List.length_append, List.length_cons]
        omega
      obtain ⟨spare'', next, total⟩ := hyp (packed ++ [entry]) spare'
      refine ⟨spare'', ?_, ?_⟩
      · rw [List.length_cons, packRow?, packEntry?, read]
        simp only [if_pos stays, if_pos inside, written]
        simp only [List.length_append, List.length_cons, List.length_nil, size] at next
        rw [Nat.add_right_comm, show packed.length + 1 = packed.length + (0 + 1) by omega]
        refine next.trans ?_
        simp only [kept, List.length_cons, List.append_assoc, List.cons_append,
          List.nil_append]
        rw [Nat.zero_add, Nat.add_assoc, Nat.add_comm 1]
      · rw [kept, List.length_cons, List.length_cons]
        omega
    · obtain ⟨spare', next, total⟩ := hyp packed (spare ++ [entry])
      have dropped : keep columnCount (entry :: row) = keep columnCount row :=
        List.filter_cons_of_neg (by simpa using stays)
      refine ⟨spare', ?_, ?_⟩
      · rw [List.length_cons, packRow?, packEntry?, read]
        simp only [if_neg stays, dropped]
        rw [List.length_append, List.length_singleton, ← Nat.add_assoc] at next
        simpa using next
      · rw [dropped, List.length_cons]
        simp only [List.length_append, List.length_singleton] at total
        omega

/-- **Packing rows laid end to end.** -/
theorem pack?_spansFrom (columnCount : Nat) (packed spare : List Entry) (rows : List (List Entry))
    (rest : List Entry) :
    ∃ spare' : List Entry,
      pack? columnCount (spansFrom (packed.length + spare.length) rows)
          (packed ++ spare ++ rows.flatten ++ rest) packed.length
        = some (spansFrom packed.length (rows.map (keep columnCount)),
            packed ++ (rows.map (keep columnCount)).flatten ++ spare' ++ rest,
            packed.length + (rows.map (keep columnCount)).flatten.length) := by
  induction rows generalizing packed spare with
  | nil => exact ⟨spare, by simp [pack?, spansFrom]⟩
  | cons row rows hyp =>
    obtain ⟨spare', first, size⟩ :=
      packRow?_append columnCount packed spare row (rows.flatten ++ rest)
    obtain ⟨spare'', others⟩ := hyp (packed ++ keep columnCount row) spare'
    have place : packed.length + spare.length + row.length
        = (packed ++ keep columnCount row).length + spare'.length := by
      rw [List.length_append]
      omega
    have together : packed ++ spare ++ (row :: rows).flatten ++ rest
        = packed ++ spare ++ row ++ (rows.flatten ++ rest) := by simp
    have length : packed.length + (keep columnCount row).length - packed.length
        = (keep columnCount row).length := Nat.add_sub_cancel_left ..
    have stop : packed.length + (keep columnCount row).length
        = (packed ++ keep columnCount row).length := List.length_append.symm
    refine ⟨spare'', ?_⟩
    rw [spansFrom, pack?, together, place]
    simp only [first, bind, Option.bind, length]
    rw [← List.append_assoc, stop, others]
    simp [spansFrom, Nat.add_assoc, pure]

theorem resize?_ofRows (rows : List (List Entry)) (rowCount columnCount : Nat) :
    (ofRows rows).resize? rowCount columnCount
      = some (ofRows ((rows.take rowCount).map (keep columnCount)
          ++ List.replicate (rowCount - rows.length) [])) := by
  have split : rows.flatten = (rows.take rowCount).flatten ++ (rows.drop rowCount).flatten := by
    rw [← List.flatten_append, List.take_append_drop]
  have front : (ofRows rows).spans.take rowCount = spansFrom 0 (rows.take rowCount) := by
    have both : (ofRows rows).spans = spansFrom 0 (rows.take rowCount)
        ++ spansFrom (0 + (rows.take rowCount).flatten.length) (rows.drop rowCount) := by
      rw [← spansFrom_append, List.take_append_drop]
      rfl
    by_cases enough : rowCount ≤ rows.length
    · have length : (spansFrom 0 (rows.take rowCount)).length = rowCount := by
        rw [length_spansFrom, List.length_take, Nat.min_eq_left enough]
      rw [both, List.take_left' length]
    · rw [List.take_of_length_le (by rw [ofRows, length_spansFrom]; omega),
        List.take_of_length_le (by omega)]
      rfl
  obtain ⟨spare, packed⟩ := pack?_spansFrom columnCount [] [] (rows.take rowCount)
    (rows.drop rowCount).flatten
  simp only [List.length_nil, List.nil_append, Nat.zero_add] at packed
  simp only [resize?, front, entries_ofRows, split, packed, bind, Option.bind, pure, count_ofRows]
  simp only [ofRows, spansFrom_append, spansFrom_replicate_nil, List.flatten_append,
    List.flatten_replicate_nil, List.append_nil, Nat.zero_add, List.append_assoc, List.take_left]

theorem resize_ofRows (rows : List (List Entry)) (rowCount columnCount : Nat) :
    (ofRows rows).resize rowCount columnCount
      = ofRows ((rows.take rowCount).map (keep columnCount)
          ++ List.replicate (rowCount - rows.length) []) := by
  rw [resize, resize?_ofRows, Option.getD_some]

end SparseRows

end LinearProgram
