/-
**Scanning text that is put together from pieces.**

A piece of text stands for some tokens if it does so in front of whatever may follow it. A name or a
number may only be followed by what ends it; a sign, a blank or a whole line by anything. Pieces
next to each other stand for their tokens next to each other.

* `Scans`: the tokens of a text, apart from their lines.
* `Lexes`: a piece in front of anything. `LexesBefore`: a piece in front of what ends it.
* `scan_eq`: scanning, step by step. `step_operator`, `step_name`: a step over an operator or a name.
* `Lexes.append`, `Lexes.appendBefore`, `LexesBefore.close`: pieces next to each other.
* `lexes_blank`, `lexes_comment`, `lexes_operator`, `lexesBefore_name`, `lexesBefore_decimal`: the
  pieces that there are.
-/

import LinearProgram.Proofs.Lp.NumberText

namespace LinearProgram.Lp

open Decimal Text

/-- **The text has the tokens**, apart from the lines that they start on. -/
def Scans (text : List Char) (tokens : List Token) : Prop :=
  ∀ line, ∃ located, scan line text = .ok located ∧ located.map (·.token) = tokens

/-- **The piece stands for the tokens**, whatever follows it. -/
def Lexes (text : List Char) (tokens : List Token) : Prop :=
  ∀ rest more, Scans rest more → Scans (text ++ rest) (tokens ++ more)

/-- **The piece stands for the tokens** in front of what ends it. -/
def LexesBefore (text : List Char) (tokens : List Token) : Prop :=
  ∀ rest more, Ends rest → Scans rest more → Scans (text ++ rest) (tokens ++ more)

/-! ### Pieces next to each other -/

theorem lexes_nil : Lexes [] [] :=
  fun _ _ scans => scans

theorem Lexes.append {first second : List Char} {tokens more : List Token}
    (left : Lexes first tokens) (right : Lexes second more) :
    Lexes (first ++ second) (tokens ++ more) := by
  intro rest others scans
  rw [List.append_assoc, List.append_assoc]
  exact left _ _ (right _ _ scans)

theorem Lexes.before {text : List Char} {tokens : List Token} (lexes : Lexes text tokens) :
    LexesBefore text tokens :=
  fun rest more _ scans => lexes rest more scans

/-- Something closed, then something open. -/
theorem Lexes.appendBefore {first second : List Char} {tokens more : List Token}
    (left : Lexes first tokens) (right : LexesBefore second more) :
    LexesBefore (first ++ second) (tokens ++ more) := by
  intro rest others ends scans
  rw [List.append_assoc, List.append_assoc]
  exact left _ _ (right _ _ ends scans)

/-- Something open, closed by what follows it. -/
theorem LexesBefore.close {first second : List Char} {tokens more : List Token}
    (left : LexesBefore first tokens) (right : Lexes second more) (some : second ≠ [])
    (ends : Ends second) : Lexes (first ++ second) (tokens ++ more) := by
  intro rest others scans
  rw [List.append_assoc, List.append_assoc]
  refine left _ _ ?_ (right _ _ scans)
  cases second with
  | nil => exact absurd rfl some
  | cons character tail => exact ends

theorem lexes_flatMap {α : Type} {items : List α} {text : α → List Char} {tokens : α → List Token}
    (each : ∀ item ∈ items, Lexes (text item) (tokens item)) :
    Lexes (items.flatMap text) (items.flatMap tokens) := by
  induction items with
  | nil => exact lexes_nil
  | cons item rest hyp =>
    rw [List.flatMap_cons, List.flatMap_cons]
    exact (each item List.mem_cons_self).append
      (hyp fun other member => each other (List.mem_cons_of_mem _ member))

/-! ### Steps -/

/-- **A text is scanned step by step.** -/
theorem scan_eq (line : Nat) (text : List Char) :
    scan line text =
      match step line text with
      | .stop => .ok []
      | .skip next rest => scan next rest
      | .take token rest => (scan line rest).map (⟨token, line⟩ :: ·)
      | .fail fault => .error ⟨line, fault⟩ := by
  rw [scan]
  split
  next found => rw [found]
  next found =>
    dsimp only
    rw [found]
  next found =>
    dsimp only
    rw [found]
  next found => rw [found]

theorem scans_nil : Scans [] [] :=
  fun line => ⟨[], scan_eq line [], rfl⟩

theorem scans_of_skip {text rest : List Char} {tokens : List Token}
    (skips : ∀ line, ∃ next, step line text = .skip next rest) (scans : Scans rest tokens) :
    Scans text tokens := by
  intro line
  obtain ⟨next, skipped⟩ := skips line
  obtain ⟨located, scanned, same⟩ := scans next
  refine ⟨located, ?_, same⟩
  rw [scan_eq, skipped]
  exact scanned

theorem scans_of_take {text rest : List Char} {token : Token} {tokens : List Token}
    (takes : ∀ line, step line text = .take token rest) (scans : Scans rest tokens) :
    Scans text (token :: tokens) := by
  intro line
  obtain ⟨located, scanned, same⟩ := scans line
  refine ⟨⟨token, line⟩ :: located, ?_, congrArg (token :: ·) same⟩
  rw [scan_eq, takes line]
  exact congrArg (Except.map _) scanned

/-- The characters that separate tokens or belong to operators and numbers. -/
def strangeCodes : List Nat :=
  [0x9, 0xA, 0xB, 0xC, 0xD, 0x20, 0x85, 0xA0, 0x1680, 0x2028, 0x2029, 0x202F, 0x205F, 0x3000]
    ++ List.range' 0x2000 0xB ++ List.range' 0x2E 12

/-- None of them starts a name. -/
theorem not_isNameStart_of_strange {character : Char} (strange : character.toNat ∈ strangeCodes) :
    isNameStart character = false := by
  have none : ∀ code ∈ strangeCodes, isNameStart (Char.ofNat code) = false := by decide +kernel
  have here := none _ strange
  rw [Char.ofNat_toNat] at here
  exact here

theorem not_isBlank_of_isNameStart {character : Char} (start : isNameStart character = true) :
    isBlank character = false := by
  rw [← Bool.not_eq_true]
  intro blank
  have strange : character.toNat ∈ strangeCodes := by
    simp only [isBlank, Bool.or_eq_true, Bool.and_eq_true, decide_eq_true_eq, beq_iff_eq] at blank
    simp only [strangeCodes, List.mem_append, List.mem_range'_1, List.mem_cons, List.not_mem_nil]
    omega
  rw [not_isNameStart_of_strange strange] at start
  cases start

theorem not_isDigit_of_isNameStart {character : Char} (start : isNameStart character = true) :
    character.isDigit = false := by
  rw [← Bool.not_eq_true]
  intro digit
  have strange : character.toNat ∈ strangeCodes := by
    rw [Char.isDigit, Bool.and_eq_true, decide_eq_true_eq, decide_eq_true_eq] at digit
    have low : 48 ≤ character.toNat := digit.1
    have high : character.toNat ≤ 57 := digit.2
    simp only [strangeCodes, List.mem_append, List.mem_range'_1, List.mem_cons, List.not_mem_nil]
    omega
  rw [not_isNameStart_of_strange strange] at start
  cases start

theorem not_isBlank_of_isDigit {character : Char} (digit : character.isDigit = true) :
    isBlank character = false := by
  rw [Char.isDigit, Bool.and_eq_true, decide_eq_true_eq, decide_eq_true_eq] at digit
  have low : 48 ≤ character.toNat := digit.1
  have high : character.toNat ≤ 57 := digit.2
  rw [← Bool.not_eq_true]
  intro blank
  simp only [isBlank, Bool.or_eq_true, Bool.and_eq_true, decide_eq_true_eq, beq_iff_eq] at blank
  omega

/-- A step over what begins neither a line nor a comment. -/
theorem step_eq (line : Nat) {first : Char} (rest : List Char) (newline : first ≠ '\n')
    (slash : first ≠ '/') :
    step line (first :: rest) =
      if isBlank first then .skip line rest
      else if startsNumber (first :: rest) then
        match decimal? (spanNumber (first :: rest)).1 with
        | some value => .take (.number value) (spanNumber (first :: rest)).2
        | none => .fail (.invalidNumber (String.ofList (spanNumber (first :: rest)).1))
      else if isNameStart first then
        .take (.name (String.ofList ((first :: rest).takeWhile isNameCharacter)))
          ((first :: rest).dropWhile isNameCharacter)
      else
        match operator? (first :: rest) with
        | some (token, rest) => .take token rest
        | none => .fail (.unexpectedCharacter first) := by
  unfold step
  split
  next same => cases same
  next same => exact absurd (List.cons.inj same).1 newline
  next same => exact absurd (List.cons.inj same).1 slash
  next same => exact absurd (List.cons.inj same).1 slash
  next same =>
    obtain ⟨rfl, rfl⟩ := List.cons.inj same
    rfl

/-- A step over a slash and a star goes behind the comment. -/
theorem step_block (line : Nat) (rest : List Char) :
    step line ('/' :: '*' :: rest) =
      match skipBlock line rest with
      | some (line, rest) => .skip line rest
      | none => .fail .unterminatedComment :=
  rfl

/-- A step over two slashes goes to the end of the line. -/
theorem step_slashes (line : Nat) (rest : List Char) :
    step line ('/' :: '/' :: rest) = .skip line (rest.dropWhile (· != '\n')) :=
  rfl

/-! ### Blanks and comments -/

theorem lexes_blank : Lexes [' '] [] := by
  intro rest more scans
  refine scans_of_skip (fun line => ⟨line, ?_⟩) scans
  rfl

theorem lexes_newline : Lexes ['\n'] [] := by
  intro rest more scans
  exact scans_of_skip (fun line => ⟨line + 1, rfl⟩) scans

theorem exists_skipBlock (line : Nat) {body : List Char} (rest : List Char)
    (inside : ¬ ['*', '/'] <:+: body) :
    ∃ next, skipBlock line (body ++ '*' :: '/' :: rest) = some (next, rest) := by
  induction body generalizing line with
  | nil => exact ⟨line, rfl⟩
  | cons first tail hyp =>
    have later : ¬ ['*', '/'] <:+: tail := fun found => inside (List.infix_cons found)
    rw [List.cons_append]
    unfold skipBlock
    split
    next same => cases same
    next same =>
      obtain ⟨star, same⟩ := List.cons.inj same
      cases tail with
      | nil => cases same
      | cons second others =>
        have slash : second = '/' := (List.cons.inj same).1
        exact absurd ⟨[], others, by rw [star, slash]; rfl⟩ inside
    next same =>
      obtain ⟨rfl, rfl⟩ := List.cons.inj same
      exact hyp (line + 1) later
    next same =>
      obtain ⟨rfl, rfl⟩ := List.cons.inj same
      exact hyp line later

/-- A comment goes as far as the first end in it. -/
theorem lexes_comment {body : List Char} (inside : ¬ ['*', '/'] <:+: body) :
    Lexes ('/' :: '*' :: body ++ ['*', '/']) [] := by
  intro rest more scans
  refine scans_of_skip (fun line => ?_) scans
  obtain ⟨next, skipped⟩ := exists_skipBlock line rest inside
  refine ⟨next, ?_⟩
  have whole : '/' :: '*' :: body ++ ['*', '/'] ++ rest
      = '/' :: '*' :: (body ++ '*' :: '/' :: rest) := by simp
  rw [whole, step_block, skipped]

/-! ### Operators, names and numbers -/

/-- The first characters of operators. -/
def operatorStarts : List Char :=
  ['<', '>', '=', '+', '-', ':', ',', ';']

/-- What begins an operator begins nothing else. -/
theorem step_operator (line : Nat) {first : Char} {rest after : List Char} {token : Token}
    (start : first ∈ operatorStarts) (operator : operator? (first :: rest) = some (token, after)) :
    step line (first :: rest) = .take token after := by
  have others : ∀ first ∈ operatorStarts, first ≠ '\n' ∧ first ≠ '/' ∧ isBlank first = false
      ∧ isNameStart first = false ∧ first ≠ '.' ∧ first.isDigit = false := by
    simp only [operatorStarts, List.forall_mem_cons, List.not_mem_nil, false_implies, implies_true]
    decide
  obtain ⟨newline, slash, blank, name, point, digit⟩ := others first start
  have number : startsNumber (first :: rest) = false := by
    unfold startsNumber
    split
    next same => exact absurd (List.cons.inj same).1 point
    next same =>
      obtain ⟨rfl, -⟩ := List.cons.inj same
      exact digit
    next same => cases same
  rw [step_eq line _ newline slash, blank, number, name, operator]
  rfl

theorem lexes_operator {first : Char} {tail : List Char} {token : Token}
    (start : first ∈ operatorStarts)
    (operator : ∀ rest, operator? (first :: (tail ++ rest)) = some (token, rest)) :
    Lexes (first :: tail) [token] :=
  fun rest _ scans => scans_of_take (fun line => step_operator line start (operator rest)) scans

theorem lexes_relation (relation : Relation) :
    Lexes (relation.symbol.toList ++ [' ']) [.relation relation] := by
  cases relation with
  | atMost => exact (lexes_operator (by decide) fun _ => rfl).append lexes_blank
  | atLeast => exact (lexes_operator (by decide) fun _ => rfl).append lexes_blank
  | equal =>
    -- The blank belongs to the piece: behind the sign alone an arrow could go on.
    intro rest more scans
    refine scans_of_take (fun line => ?_) (lexes_blank rest more scans)
    rw [show Relation.symbol .equal = "=" from rfl]
    exact step_eq line _ (by decide) (by decide)

/-- A name is taken whole if what follows ends it. -/
theorem step_name (line : Nat) {name : String} {rest : List Char} (isName : isName name = true)
    (ends : Ends rest) : step line (name.toList ++ rest) = .take (.name name) rest := by
  unfold Lp.isName at isName
  split at isName
  next => cases isName
  next first tail text =>
    obtain ⟨start, inside⟩ := Bool.and_eq_true_iff.mp isName
    have newline : first ≠ '\n' := by
      rintro rfl
      exact absurd start (by decide)
    have slash : first ≠ '/' := by
      rintro rfl
      exact absurd start (by decide)
    have number : startsNumber (first :: (tail ++ rest)) = false := by
      have digit := not_isDigit_of_isNameStart start
      unfold startsNumber
      split
      next same =>
        obtain ⟨rfl, -⟩ := List.cons.inj same
        exact absurd start (by decide)
      next same =>
        obtain ⟨rfl, -⟩ := List.cons.inj same
        exact digit
      next same => cases same
    have all : ∀ character ∈ first :: tail, isNameCharacter character = true := by
      refine List.forall_mem_cons.mpr ⟨?_, List.all_eq_true.mp inside⟩
      rw [isNameCharacter, start]
      rfl
    obtain ⟨front, back⟩ := span_append all ends
    rw [text, List.cons_append, step_eq line _ newline slash, not_isBlank_of_isNameStart start,
      number, start, ← List.cons_append, front, back, ← text, String.ofList_toList]
    rfl

theorem lexesBefore_name {name : String} (isName : isName name = true) :
    LexesBefore name.toList [.name name] :=
  fun _ _ ends scans => scans_of_take (fun line => step_name line isName ends) scans

theorem lexesBefore_decimal {text : List Char} {value : Float} (decimal : IsDecimal text)
    (found : decimal? text = some value) : LexesBefore text [.number value] := by
  intro rest more ends scans
  refine scans_of_take (fun line => ?_) scans
  have starts := decimal.startsNumber rest
  have span := decimal.spanNumber_append ends
  obtain ⟨first, tail, rfl, digit⟩ := decimal.exists_cons
  have newline : first ≠ '\n' := by
    rintro rfl
    exact absurd digit (by decide)
  have slash : first ≠ '/' := by
    rintro rfl
    exact absurd digit (by decide)
  have blank : isBlank first = false := not_isBlank_of_isDigit digit
  rw [List.cons_append] at starts span ⊢
  rw [step_eq line _ newline slash, blank, starts, span, found]
  rfl

end LinearProgram.Lp
