/-
**The tokens of a written problem.**

* `numberTokens`, `termTokens`: a number and a term.
* `objectiveTokens`, `rowTokens`, `rangeTokens`, `boundTokens`, `integerTokens`: the statements.
* `statementsOf`: all statements of a problem, in order.
* `Printable`: names and numbers that can be told apart from everything around them.
* **`lexes_render`**: the text of a printable problem has the tokens of its statements.
-/

import LinearProgram.Proofs.Decimal.Comparison
import LinearProgram.Proofs.Lp.Scanning
import LinearProgram.Proofs.Lp.Written

namespace LinearProgram.Lp

open Decimal Problem

/-! ### Numbers and terms -/

/-- The tokens of a written number. -/
def numberTokens (value : Float) : List Token :=
  match (numberText value).toList with
  | '-' :: rest => [.minus, .number ((decimal? rest).getD 0)]
  | text => [.number ((decimal? text).getD 0)]

/-- The tokens of a sign. -/
def signTokens (negative : Bool) : List Token :=
  if negative then [.minus] else []

/-- A written number is a sign and a magnitude. -/
theorem exists_numberTokens {value : Float} (number : value.isNaN = false) :
    ∃ negative magnitude, numberTokens value = signTokens negative ++ [.number magnitude]
      ∧ signed? (numberText value).toList = some (withSign negative magnitude)
      ∧ (0 ≤ value → negative = false)
      ∧ LexesBefore (numberText value).toList (numberTokens value) := by
  obtain ⟨negative, text, magnitude, same, decimal, found, signed, positive⟩ :=
    exists_written number
  have tokens : numberTokens value = signTokens negative ++ [.number magnitude] := by
    unfold numberTokens
    rw [same]
    cases negative with
    | true =>
      show [Token.minus, .number ((decimal? text).getD 0)] = _
      rw [found]
      rfl
    | false =>
      obtain ⟨first, rest, rfl, digit⟩ := decimal.exists_cons
      split
      next minus =>
        obtain rfl := (List.cons.inj minus).1
        exact absurd digit (by decide)
      next =>
        show [Token.number ((decimal? (first :: rest)).getD 0)] = _
        rw [found]
        rfl
  refine ⟨negative, magnitude, tokens, signed, positive, ?_⟩
  rw [tokens, same]
  have sign : Lexes (signText negative) (signTokens negative) := by
    cases negative with
    | true => exact lexes_operator (by decide) fun _ => rfl
    | false => exact lexes_nil
  exact sign.appendBefore (lexesBefore_decimal decimal found)

theorem lexesBefore_number {value : Float} (number : value.isNaN = false) :
    LexesBefore (numberText value).toList (numberTokens value) := by
  obtain ⟨-, -, -, -, -, lexes⟩ := exists_numberTokens number
  exact lexes

/-- The tokens of a term. -/
def termTokens (name : String) (coefficient : Float) : List Token :=
  if coefficient == 1 then [.plus, .name name]
  else if coefficient == -1 then [.minus, .name name]
  else if 0 ≤ coefficient then .plus :: numberTokens coefficient ++ [.name name]
  else .minus :: numberTokens (-coefficient) ++ [.name name]

theorem lexes_plus : Lexes ['+'] [.plus] :=
  lexes_operator (by decide) fun _ => rfl

theorem lexes_minus : Lexes ['-'] [.minus] :=
  lexes_operator (by decide) fun _ => rfl

theorem ends_of_strange {character : Char} (strange : character ∈ [' ', ';', ':', ','])
    (rest : List Char) : Ends (character :: rest) := by
  have all : ∀ character ∈ [' ', ';', ':', ','], isNameCharacter character = false := by
    simp only [List.forall_mem_cons, List.not_mem_nil, false_implies, implies_true]
    decide
  intro other member
  obtain rfl := Option.some.inj member
  exact all _ strange

/-- A blank closes a piece. -/
theorem LexesBefore.closeBlank {text : List Char} {tokens : List Token}
    (open_ : LexesBefore text tokens) : Lexes (text ++ [' ']) tokens := by
  have closed := open_.close lexes_blank (List.cons_ne_nil _ _) (ends_of_strange (by decide) [])
  rw [List.append_nil] at closed
  exact closed

theorem lexesBefore_term {name : String} (isName : isName name = true) {coefficient : Float}
    (number : coefficient.isNaN = false) :
    LexesBefore (signedTerm name coefficient).toList (termTokens name coefficient) := by
  have named := lexesBefore_name isName
  have opposite : (-coefficient).isNaN = false := (isNaN_neg coefficient).trans number
  unfold signedTerm termTokens
  split
  · rw [String.toList_append]
    exact lexes_plus.appendBefore named
  split
  · rw [String.toList_append]
    exact lexes_minus.appendBefore named
  split
  · rw [String.toList_append, String.toList_append, String.toList_append]
    exact (lexes_plus.appendBefore (lexesBefore_number number)).closeBlank.appendBefore named
  · rw [String.toList_append, String.toList_append, String.toList_append]
    exact (lexes_minus.appendBefore (lexesBefore_number opposite)).closeBlank.appendBefore named

/-- Pieces with a separator between them. -/
theorem lexesBefore_intercalate {separator : List Char} {between : List Token}
    (closes : Lexes separator between) (some : separator ≠ []) (ends : Ends separator) {α : Type}
    {items : List α} {text : α → List Char} {tokens : α → List Token}
    (each : ∀ item ∈ items, LexesBefore (text item) (tokens item)) :
    LexesBefore (separator.intercalate (items.map text))
      (between.intercalate (items.map tokens)) := by
  induction items with
  | nil => exact lexes_nil.before
  | cons item rest hyp =>
    have here := each item List.mem_cons_self
    have later := hyp fun other member => each other (List.mem_cons_of_mem _ member)
    cases rest with
    | nil =>
      rw [List.map_singleton, List.map_singleton, List.intercalate_singleton,
        List.intercalate_singleton]
      exact here
    | cons second others =>
      rw [List.map_cons, List.map_cons, List.intercalate_cons_cons, List.map_cons, List.map_cons,
        List.intercalate_cons_cons]
      exact (here.close closes some ends).appendBefore later

theorem intercalate_nil {α : Type} (lists : List (List α)) :
    [].intercalate lists = lists.flatten := by
  induction lists with
  | nil => rfl
  | cons first rest hyp =>
    cases rest with
    | nil => rw [List.intercalate_singleton, List.flatten_singleton]
    | cons second others =>
      rw [List.intercalate_cons_cons, List.append_nil, hyp]
      rfl

/-- Terms with blanks between them. -/
theorem lexesBefore_terms {problem : Problem} {entries : List Entry}
    (each : ∀ entry ∈ entries, isName (problem.columnName entry.column) = true
      ∧ entry.coefficient.isNaN = false) :
    LexesBefore (joinTerms (termTexts problem entries)).toList (entries.flatMap fun entry =>
      termTokens (problem.columnName entry.column) entry.coefficient) := by
  have terms := lexesBefore_intercalate lexes_blank (List.cons_ne_nil _ _)
    (ends_of_strange (by decide) [])
    fun entry member => lexesBefore_term (each entry member).1 (each entry member).2
  rw [intercalate_nil] at terms
  rw [joinTerms, termTexts, String.toList_intercalate, List.map_map]
  exact terms

/-! ### Statements -/

/-- What a semicolon closes is a statement. -/
theorem LexesBefore.statement {text : List Char} {tokens : List Token}
    (open_ : LexesBefore text tokens) : Lexes (text ++ [';', '\n']) (tokens ++ [.semicolon]) := by
  have semicolon : Lexes [';'] [.semicolon] := lexes_operator (by decide) fun _ => rfl
  exact open_.close (semicolon.append lexes_newline) (List.cons_ne_nil _ _)
    (ends_of_strange (by decide) _)

/-- What a relation follows is closed by it. -/
theorem LexesBefore.related {text : List Char} {tokens : List Token}
    (open_ : LexesBefore text tokens) (relation : Relation) :
    Lexes (text ++ ' ' :: (relation.symbol.toList ++ [' '])) (tokens ++ [.relation relation]) :=
  open_.close (lexes_blank.append (lexes_relation relation)) (List.cons_ne_nil _ _)
    (ends_of_strange (by decide) _)

/-- A name with a colon. -/
theorem lexes_label {name : String} (isName : isName name = true) :
    Lexes (name.toList ++ [':', ' ']) [.name name, .colon] := by
  have colon : Lexes [':'] [.colon] := lexes_operator (by decide) fun _ => rfl
  exact (lexesBefore_name isName).close (colon.append lexes_blank) (List.cons_ne_nil _ _)
    (ends_of_strange (by decide) _)

/-- The tokens of the objective's constant. -/
def constantTokens (constant : Float) : List Token :=
  if constant == 0 then []
  else (if 0 < constant then .plus else .minus) :: numberTokens constant.abs

/-- The tokens of the objective. -/
def objectiveTokens (problem : Problem) : List Token :=
  [.name (if problem.maximize then "max" else "min"), .colon]
    ++ (objectiveEntries problem).flatMap (fun entry =>
      termTokens (problem.columnName entry.column) entry.coefficient)
    ++ constantTokens problem.constant

/-- The tokens of the limit that a range adds to a row. -/
def rangeTokens (name : String) (info : Row) : List Token :=
  match info.relation with
  | .atMost => .name name :: .colon :: .relation .atLeast :: numberTokens info.bounds.1
  | _ => .name name :: .colon :: .relation .atMost :: numberTokens info.bounds.2

/-- The tokens of a row. -/
def rowTokens (problem : Problem) (index : Nat) : List Token :=
  let info := problem.rowInfo index
  let entries := writtenEntries problem index
  (if isLabelled info entries.length then [.name (problem.rowName index), .colon] else [])
    ++ (if entries.isEmpty then [.number 0]
      else entries.flatMap fun entry =>
        termTokens (problem.columnName entry.column) entry.coefficient)
    ++ .relation info.relation :: numberTokens info.rhs

/-- The tokens of the bounds of a column that are not those of a new one. -/
def boundTokens (name : String) (column : Column) : List Token :=
  if column.lower == column.upper then
    .name name :: .relation .equal :: numberTokens column.lower
  else if column.upper == infinity then
    .name name :: .relation .atLeast :: numberTokens column.lower
  else if column.lower == 0 then
    .name name :: .relation .atMost :: numberTokens column.upper
  else
    numberTokens column.lower
      ++ .relation .atMost :: .name name :: .relation .atMost :: numberTokens column.upper

/-- The tokens of the integer section. -/
def integerTokens (names : List String) : List Token :=
  .name "int" :: [Token.comma].intercalate (names.map fun name => [.name name])

/-! ### Problems -/

/-- The statements of a row: the row itself, and the limit that its range adds. -/
def rowStatements (problem : Problem) (index : Nat) : List (List Token) :=
  rowTokens problem index ::
    if (problem.rowInfo index).range.isSome then
      [rangeTokens (problem.rowName index) (problem.rowInfo index)]
    else []

/-- The statement of a column's bounds, if they are not those of a new one. -/
def boundStatements (problem : Problem) (index : Nat) : List (List Token) :=
  if (problem.column index).hasDefaultBounds then []
  else [boundTokens (problem.columnName index) (problem.column index)]

/-- The names of the integer columns. -/
def integerNames (problem : Problem) : List String :=
  (problem.columnIndices.filter fun index => (problem.column index).integer).map problem.columnName

/-- The statement of the integer columns, if there are any. -/
def integerStatements (problem : Problem) : List (List Token) :=
  if (integerNames problem).isEmpty then [] else [integerTokens (integerNames problem)]

/-- **The statements of a written problem.** -/
def statementsOf (problem : Problem) : List (List Token) :=
  objectiveTokens problem :: problem.rowIndices.flatMap (rowStatements problem)
    ++ problem.columnIndices.flatMap (boundStatements problem) ++ integerStatements problem

/-- Statements, each closed by a semicolon. -/
def closed (statements : List (List Token)) : List Token :=
  statements.flatMap (· ++ [.semicolon])

/-! ### Names that rows and columns have anyway -/

/-- A letter and a number are a name. -/
theorem isName_default {letter : Char} (start : isNameStart letter = true) (index : Nat)
    {name : String} (text : name.toList = letter :: digits index) : isName name = true := by
  have inside : (digits index).all isNameCharacter = true := by
    refine List.all_eq_true.mpr fun character member => ?_
    rw [isNameCharacter, allDigits_digits index character member, Bool.or_true, Bool.true_or]
  rw [isName, text]
  dsimp only
  rw [start, inside]
  rfl

theorem toList_default (letter : String) (index : Nat) :
    (letter ++ toString index).toList = letter.toList ++ digits index := by
  rw [String.toList_append, Nat.toString_eq_repr, Nat.repr, String.toList_ofList]
  rfl

/-- The name that a column has anyway can name a column. -/
theorem isName_columnDefault (index : Nat) : isName ("C" ++ toString index) = true :=
  isName_default (by decide) index (toList_default "C" index)

theorem objectiveSense?_of_head {word : String} {first : Char} {rest : List Char}
    (same : word.toList = first :: rest) (other : first.toLower ≠ 'm') :
    objectiveSense? word = none := by
  have head : ∀ text : String, text.toList.head? = some 'm' →
      String.ofList (word.toList.map Char.toLower) ≠ text := by
    intro text begins equal
    rw [← equal, String.toList_ofList, same] at begins
    exact other (Option.some.inj begins)
  unfold objectiveSense?
  split <;> first | rfl | exact absurd ‹_› (head _ rfl)

/-- The name that a row has anyway can name a row. -/
theorem isRowName_default (index : Nat) : isRowName ("R" ++ toString index) = true := by
  have text := toList_default "R" index
  exact isRowName_iff.mpr
    ⟨isName_default (by decide) index text, objectiveSense?_of_head text (by decide)⟩

/-- **What can be told apart from everything around it**: names are names, numbers are numbers, and
the name of the problem stays within its comment. -/
structure Printable (problem : Problem) : Prop where
  name : ¬ ['*', '/'] <:+: problem.name.toList
  columnNames : ∀ index ∈ problem.columnIndices, isName (problem.columnName index) = true
  rowNames : ∀ index ∈ problem.rowIndices, isRowName (problem.rowName index) = true
  objective : ∀ index ∈ problem.columnIndices, (problem.column index).objective.isNaN = false
  constant : problem.constant.isNaN = false
  coefficients : ∀ index ∈ problem.rowIndices, ∀ entry ∈ writtenEntries problem index,
    entry.column ∈ problem.columnIndices ∧ entry.coefficient.isNaN = false
  rhs : ∀ index ∈ problem.rowIndices, (problem.rowInfo index).rhs.isNaN = false
  limits : ∀ index ∈ problem.rowIndices, (problem.rowInfo index).range.isSome →
    (problem.rowInfo index).bounds.1.isNaN = false ∧ (problem.rowInfo index).bounds.2.isNaN = false
  bounds : ∀ index ∈ problem.columnIndices,
    (problem.column index).lower.isNaN = false ∧ (problem.column index).upper.isNaN = false

section Printing

variable {problem : Problem}

theorem isName_of_isRowName {name : String} (isRowName : isRowName name = true) :
    isName name = true :=
  (isRowName_iff.mp isRowName).1

/-- The text of the constant, behind terms or not. -/
theorem lexesBefore_constant {constant : Float} (number : constant.isNaN = false)
    (hasTerms : Bool) :
    LexesBefore (constantText hasTerms constant).toList (constantTokens constant) := by
  have blank : Lexes (if hasTerms then " " else "").toList [] := by
    cases hasTerms with
    | true => exact lexes_blank
    | false => exact lexes_nil
  have sign : Lexes (if 0 < constant then "+" else "-").toList
      [if 0 < constant then .plus else .minus] := by
    split
    · exact lexes_plus
    · exact lexes_minus
  unfold constantText constantTokens
  split
  · exact lexes_nil.before
  · rw [String.toList_append, String.toList_append]
    exact (blank.append sign).appendBefore (lexesBefore_number ((isNaN_abs constant).trans number))

/-- Terms and a constant, either of which may be missing. -/
theorem LexesBefore.constant {text : List Char} {tokens : List Token}
    (terms : LexesBefore text tokens) {constant : Float} (number : constant.isNaN = false) :
    LexesBefore (text ++ (constantText true constant).toList)
      (tokens ++ constantTokens constant) := by
  have open_ := lexesBefore_constant number true
  intro rest more ends scans
  rw [List.append_assoc, List.append_assoc]
  refine terms _ _ ?_ (open_ rest more ends scans)
  unfold constantText
  split
  · exact ends
  · rw [String.toList_append, String.toList_append, List.append_assoc, List.append_assoc]
    show Ends (' ' :: _)
    exact ends_of_strange (by decide) _

theorem lexes_objectiveHeading : Lexes "/* Objective function */\n".toList [] := by
  intro rest more scans
  refine scans_of_skip (fun line => ⟨line, rfl⟩) (lexes_newline rest more scans)

theorem objectiveEntries_printable (printable : Printable problem) :
    ∀ entry ∈ objectiveEntries problem, isName (problem.columnName entry.column) = true
      ∧ entry.coefficient.isNaN = false := by
  intro entry member
  obtain ⟨index, listed, rfl⟩ := List.mem_map.mp member
  have inside := mem_columnIndices.mpr (hasColumn_of_declared listed)
  exact ⟨printable.columnNames index inside, printable.objective index inside⟩

theorem lexes_objective (printable : Printable problem) :
    Lexes (objectiveText problem).toList (objectiveTokens problem ++ [.semicolon]) := by
  have terms := lexesBefore_terms (objectiveEntries_printable printable)
  have sense : Lexes (if problem.maximize then "max: " else "min: ").toList
      [.name (if problem.maximize then "max" else "min"), .colon] := by
    cases problem.maximize with
    | true => exact lexes_label (by decide : isName "max" = true)
    | false => exact lexes_label (by decide : isName "min" = true)
  unfold objectiveText objectiveSection
  rw [String.toList_append, String.toList_append, String.toList_append, String.toList_append]
  have opened := lexes_objectiveHeading.append sense
  unfold objectiveTokens
  cases entries : objectiveEntries problem with
  | nil =>
    have none : Lexes (joinTerms (termTexts problem [])).toList [] := lexes_nil
    exact ((opened.append none).appendBefore
      (lexesBefore_constant printable.constant false)).statement
  | cons first others =>
    rw [entries] at terms
    exact ((opened.appendBefore terms).constant printable.constant).statement

theorem closed_cons (statement : List Token) (rest : List (List Token)) :
    closed (statement :: rest) = statement ++ [.semicolon] ++ closed rest :=
  List.flatMap_cons

theorem closed_singleton (statement : List Token) :
    closed [statement] = statement ++ [.semicolon] :=
  List.flatMap_singleton ..

theorem closed_append (first second : List (List Token)) :
    closed (first ++ second) = closed first ++ closed second :=
  List.flatMap_append

theorem lexes_range {name : String} (isName : isName name = true) {info : Row}
    (low : info.bounds.1.isNaN = false) (high : info.bounds.2.isNaN = false) :
    Lexes (name.toList ++ ": ".toList
        ++ (match info.relation with
          | .atMost => ">= " ++ numberText info.bounds.1
          | _ => "<= " ++ numberText info.bounds.2).toList ++ ";\n".toList)
      (rangeTokens name info ++ [.semicolon]) := by
  have label := lexes_label isName
  have least := (lexes_relation .atLeast).appendBefore (lexesBefore_number low)
  have most := (lexes_relation .atMost).appendBefore (lexesBefore_number high)
  unfold rangeTokens
  cases info.relation with
  | atMost =>
    rw [String.toList_append]
    exact (label.appendBefore least).statement
  | atLeast | equal =>
    rw [String.toList_append]
    exact (label.appendBefore most).statement

theorem lexes_row (printable : Printable problem) {index : Nat}
    (member : index ∈ problem.rowIndices) :
    Lexes (rowLines (problem.rowName index) (problem.rowInfo index)
      (termTexts problem (writtenEntries problem index))).toList
      (closed (rowStatements problem index)) := by
  have isName := isName_of_isRowName (printable.rowNames index member)
  have terms := lexesBefore_terms fun entry written =>
    ⟨printable.columnNames _ (printable.coefficients index member entry written).1,
      (printable.coefficients index member entry written).2⟩
  have label : Lexes
      (if isLabelled (problem.rowInfo index)
          (termTexts problem (writtenEntries problem index)).length
        then problem.rowName index ++ ": " else "").toList
      (if isLabelled (problem.rowInfo index) (writtenEntries problem index).length
        then [.name (problem.rowName index), .colon] else []) := by
    rw [termTexts, List.length_map]
    split
    · rw [String.toList_append]
      exact lexes_label isName
    · exact lexes_nil
  have number := lexesBefore_number (printable.rhs index member)
  have body : LexesBefore
      (if (termTexts problem (writtenEntries problem index)).isEmpty then "0"
        else joinTerms (termTexts problem (writtenEntries problem index))).toList
      (if (writtenEntries problem index).isEmpty then [.number 0]
        else (writtenEntries problem index).flatMap fun entry =>
          termTokens (problem.columnName entry.column) entry.coefficient) := by
    cases entries : writtenEntries problem index with
    | nil =>
      have zero : LexesBefore ['0'] [.number 0] := lexesBefore_decimal isDecimal_zero (by decide)
      show LexesBefore (if true = true then "0" else _).toList (if true = true then _ else _)
      rw [if_pos rfl, if_pos rfl]
      exact zero
    | cons first others =>
      rw [entries] at terms
      exact terms
  have row := (((label.appendBefore body).related (problem.rowInfo index).relation).appendBefore
    number).statement
  have limit : Lexes (rangeLine (problem.rowName index) (problem.rowInfo index)).toList
      (closed (if (problem.rowInfo index).range.isSome then
        [rangeTokens (problem.rowName index) (problem.rowInfo index)] else [])) := by
    unfold rangeLine
    split
    next ranged =>
      obtain ⟨low, high⟩ := printable.limits index member ranged
      rw [closed_singleton, String.toList_append, String.toList_append, String.toList_append]
      exact lexes_range isName low high
    next => exact lexes_nil
  have all := row.append limit
  rw [rowLines, rowStatements, closed_cons, rowTokens]
  simp only [String.toList_append, List.append_assoc, List.cons_append, List.nil_append] at all ⊢
  exact all

/-- The bounds of a new column are not equal. -/
theorem hasDefaultBounds_of_beq {column : Column} (equal : (column.lower == column.upper) = true) :
    column.hasDefaultBounds = false := by
  rw [← Bool.not_eq_true, Column.hasDefaultBounds, Bool.and_eq_true]
  rintro ⟨zero, infinite⟩
  obtain ⟨-, -, equal⟩ := beq_iff.mp equal
  obtain ⟨-, -, zero⟩ := beq_iff.mp zero
  obtain ⟨-, -, infinite⟩ := beq_iff.mp infinite
  have far : (0 : Int) < unitsOf infinity := Int.natCast_pos.mpr (beyond_pos 2100)
  have none : unitsOf 0 = 0 := rfl
  omega

/-- A column has no line of bounds exactly if it has the bounds of a new one. -/
theorem boundsLine_eq_empty_iff (name : String) (column : Column) :
    boundsLine name column = "" ↔ column.hasDefaultBounds = true := by
  constructor
  · intro none
    by_contra changed
    have letters := congrArg String.toList none
    unfold boundsLine at letters
    rw [if_neg changed] at letters
    split_ifs at letters <;> simp [String.toList_append] at letters
  · intro default
    have differ : ¬ (column.lower == column.upper) = true := fun equal => by
      rw [hasDefaultBounds_of_beq equal] at default
      cases default
    rw [boundsLine, if_neg differ, if_pos default]

theorem lexes_bound (printable : Printable problem) {index : Nat}
    (member : index ∈ problem.columnIndices) :
    Lexes (boundsLine (problem.columnName index) (problem.column index)).toList
      (closed (boundStatements problem index)) := by
  have named := lexesBefore_name (printable.columnNames index member)
  obtain ⟨lower, upper⟩ := printable.bounds index member
  have lower := lexesBefore_number lower
  have upper := lexesBefore_number upper
  unfold boundsLine boundStatements boundTokens
  split
  next equal =>
    rw [hasDefaultBounds_of_beq equal, if_neg Bool.false_ne_true, closed_singleton]
    simp only [String.toList_append]
    exact ((named.related .equal).appendBefore lower).statement
  split
  · exact lexes_nil
  rw [closed_singleton]
  split
  · simp only [String.toList_append]
    exact ((named.related .atLeast).appendBefore lower).statement
  split
  · simp only [String.toList_append]
    exact ((named.related .atMost).appendBefore upper).statement
  · have both := ((((lower.related .atMost).appendBefore named).related .atMost).appendBefore
      upper).statement
    simp only [String.toList_append, List.append_assoc, List.cons_append, List.nil_append] at both ⊢
    exact both

theorem lexes_integers (printable : Printable problem) :
    Lexes (integersText problem).toList (closed (integerStatements problem)) := by
  have heading : Lexes "\n/* Integer definitions */\n".toList [] := by
    intro rest more scans
    refine lexes_newline _ _ (scans_of_skip (fun line => ⟨line, rfl⟩) ?_)
    exact lexes_newline rest more scans
  have names : LexesBefore ([','].intercalate ((integerNames problem).map String.toList))
      ([Token.comma].intercalate ((integerNames problem).map fun name => [Token.name name])) := by
    refine lexesBefore_intercalate (lexes_operator (by decide) fun _ => rfl) (List.cons_ne_nil _ _)
      (ends_of_strange (by decide) []) fun name member => ?_
    obtain ⟨index, chosen, rfl⟩ := List.mem_map.mp member
    exact lexesBefore_name (printable.columnNames index (List.mem_filter.mp chosen).1)
  have word : Lexes ("int".toList ++ [' ']) [.name "int"] :=
    (lexesBefore_name (by decide)).closeBlank
  show Lexes (integersSection (integerNames problem)).toList _
  unfold integersSection integerStatements
  split
  · exact lexes_nil
  rw [closed_singleton, String.toList_append, String.toList_append, String.toList_intercalate]
  exact ((heading.append word).appendBefore names).statement

/-- Lines under a heading have the tokens of the lines. -/
theorem lexes_headed {heading : String} (skipped : Lexes heading.toList []) {indices : List Nat}
    {line : Nat → String} {tokens : Nat → List (List Token)}
    (each : ∀ index ∈ indices, Lexes (line index).toList (closed (tokens index))) :
    Lexes (headed heading (indices.map line)).toList (closed (indices.flatMap tokens)) := by
  have all := lexes_flatMap each
  have same : closed (indices.flatMap tokens)
      = indices.flatMap fun index => closed (tokens index) :=
    List.flatMap_assoc
  have text : (String.join (indices.map line)).toList
      = indices.flatMap fun index => (line index).toList := by
    rw [String.toList_join, List.flatMap_map]
  rw [same]
  unfold headed
  split
  next empty =>
    rw [String.isEmpty_iff.mp empty] at text
    rw [← text] at all
    exact all
  next =>
    rw [String.toList_append, text]
    exact skipped.append all

/-- **The text of a printable problem has the tokens of its statements.** -/
theorem lexes_render (printable : Printable problem) :
    Lexes (render problem).toList (closed (statementsOf problem)) := by
  have name : Lexes (nameText problem.name).toList [] := by
    unfold nameText
    split
    · exact lexes_nil
    · have inside : ¬ ['*', '/'] <:+: ' ' :: problem.name.toList ++ [' '] := by
        rw [List.infix_concat_iff, List.suffix_concat_iff, List.infix_cons_iff]
        rintro ((none | ⟨front, same, -⟩) | start | found)
        · cases none
        · have last := congrArg List.getLast? same
          rw [List.getLast?_concat] at last
          cases last
        · cases (List.cons_prefix_cons.mp start).1
        · exact printable.name found
      have comment := ((lexes_comment inside).append lexes_newline).append lexes_newline
      simp only [String.toList_append, List.append_assoc, List.cons_append, List.nil_append]
        at comment ⊢
      exact comment
  have rowsHeading : Lexes "\n/* Constraints */\n".toList [] := by
    intro rest more scans
    refine lexes_newline _ _ (scans_of_skip (fun line => ⟨line, rfl⟩) ?_)
    exact lexes_newline rest more scans
  have boundsHeading : Lexes "\n/* Variable bounds */\n".toList [] := by
    intro rest more scans
    refine lexes_newline _ _ (scans_of_skip (fun line => ⟨line, rfl⟩) ?_)
    exact lexes_newline rest more scans
  have rows := lexes_headed rowsHeading fun index member => lexes_row printable member
  have bounds := lexes_headed boundsHeading fun index member => lexes_bound printable member
  rw [statementsOf, closed_append, closed_append, closed_cons]
  unfold render
  rw [String.toList_append, String.toList_append, String.toList_append, String.toList_append]
  exact (((name.append (lexes_objective printable)).append rows).append bounds).append
    (lexes_integers printable)

end Printing

end LinearProgram.Lp
