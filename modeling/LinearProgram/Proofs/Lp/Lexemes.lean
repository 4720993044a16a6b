/-
**How far a step of the scanner looks.**

A step goes over a piece at the front of the text. The line behind it is the line in front of it,
with the line ends of the piece counted. What the step finds does not depend on the line, and not on
what follows the piece either, as long as that begins with something that goes on no token: a blank
or the slash of a comment cuts a text off just as its end does.

* `step_shift`: a step does not look at the line.
* `exists_gap`, `exists_lexeme`, `exists_offence`: the piece that a step goes over.
* `IsComment`: the comments. `IsComment.step_eq`: they are skipped.
* `step_append`: a step over a text that is cut off, unless the text ends inside a comment.
* **`step_recut`**: where the slash of a comment cuts a text off, a blank does.
-/

import LinearProgram.Proofs.Lp.Scanning

namespace LinearProgram.Lp

open Decimal Text

/-- The number of line ends in a text. -/
def lineEnds (text : List Char) : Nat :=
  text.count '\n'

theorem lineEnds_append (first second : List Char) :
    lineEnds (first ++ second) = lineEnds first + lineEnds second :=
  List.count_append

theorem lineEnds_eq_zero {text : List Char} (none : ∀ character ∈ text, character ≠ '\n') :
    lineEnds text = 0 :=
  List.count_eq_zero.mpr fun member => none '\n' member rfl

/-! ### A step does not look at the line -/

/-- The step some lines further down. -/
def Step.shift (lines : Nat) : Step → Step
  | .skip line rest => .skip (line + lines) rest
  | other => other

theorem skipBlock_shift (line lines : Nat) (text : List Char) :
    skipBlock (line + lines) text
      = (skipBlock line text).map fun found => (found.1 + lines, found.2) := by
  fun_induction skipBlock line text with
  | case1 => rfl
  | case2 => rfl
  | case3 line rest hyp =>
    rw [Nat.add_right_comm] at hyp
    rw [skipBlock, hyp]
  | case4 line first rest star newline hyp =>
    rw [skipBlock, hyp]
    · exact star
    · exact newline

/-- **A step finds the same on every line.** -/
theorem step_shift (line lines : Nat) (text : List Char) :
    step (line + lines) text = (step line text).shift lines := by
  unfold step
  split
  next => rfl
  next => exact congrArg (Step.skip · _) (Nat.add_right_comm ..)
  next rest =>
    rw [skipBlock_shift]
    cases skipBlock line rest with
    | none => rfl
    | some found => rfl
  next => rfl
  next first rest _ _ _ =>
    dsimp only
    split
    · rfl
    split
    · cases decimal? (spanNumber (first :: rest)).1 with
      | none => rfl
      | some value => rfl
    split
    · rfl
    · cases operator? (first :: rest) with
      | none => rfl
      | some found => rfl

/-! ### The piece that a step goes over -/

/-- **A comment**, in front of what follows it: from a slash and a star to the first star and slash
behind them, or from two slashes to the end of the line. -/
inductive IsComment : List Char → List Char → Prop where
  | block {body : List Char} (after : List Char) (inside : ¬ ['*', '/'] <:+: body) :
    IsComment ('/' :: '*' :: body ++ ['*', '/']) after
  | line {body after : List Char} (single : ∀ character ∈ body, character ≠ '\n')
    (ends : ∀ character ∈ after.head?, character = '\n') : IsComment ('/' :: '/' :: body) after

/-- **The piece that a fault is about**, in front of what follows it: a character, a number, or a
comment that takes up all the rest. -/
inductive Offends : Fault → List Char → List Char → Prop where
  | character (character : Char) (rest : List Char) :
    Offends (.unexpectedCharacter character) [character] rest
  | number {number : List Char} (rest : List Char) (some : number ≠ [])
    (none : decimal? number = none) : Offends (.invalidNumber (String.ofList number)) number rest
  | comment {body : List Char} (inside : ¬ ['*', '/'] <:+: body) :
    Offends .unterminatedComment ('/' :: '*' :: body) []

theorem Offends.ne_nil {fault : Fault} {piece rest : List Char}
    (offends : Offends fault piece rest) : piece ≠ [] := by
  cases offends with
  | character => exact List.cons_ne_nil _ _
  | number _ some => exact some
  | comment => exact List.cons_ne_nil _ _

/-- A fault that leaves something of the text is not one of a comment, and does not look at what is
left. -/
theorem Offends.change {fault : Fault} {piece rest : List Char} (offends : Offends fault piece rest)
    (some : rest ≠ []) (rest' : List Char) :
    fault ≠ .unterminatedComment ∧ Offends fault piece rest' := by
  cases offends with
  | character character => exact ⟨nofun, .character character rest'⟩
  | number _ some none => exact ⟨nofun, .number rest' some none⟩
  | comment => exact absurd rfl some

/-- No end of a comment starts at the first character. -/
theorem not_infix_cons {first : Char} {body : List Char} (later : ¬ ['*', '/'] <:+: body)
    (here : ∀ rest, first = '*' → body ≠ '/' :: rest) : ¬ ['*', '/'] <:+: first :: body := by
  intro found
  rcases List.infix_cons_iff.mp found with ⟨rest, same⟩ | found
  · obtain ⟨star, tail⟩ := List.cons.inj same
    exact here rest star.symm tail.symm
  · exact later found

theorem skipBlock_eq_some {line next : Nat} {text rest : List Char}
    (found : skipBlock line text = some (next, rest)) :
    ∃ body, ¬ ['*', '/'] <:+: body ∧ text = body ++ '*' :: '/' :: rest
      ∧ next = line + lineEnds body := by
  fun_induction skipBlock line text with
  | case1 => cases found
  | case2 line rest =>
    cases found
    exact ⟨[], by simp, rfl, rfl⟩
  | case3 line tail hyp =>
    obtain ⟨body, inside, rfl, rfl⟩ := hyp found
    refine ⟨'\n' :: body, not_infix_cons inside fun _ star => absurd star (by decide), rfl, ?_⟩
    rw [lineEnds, lineEnds, List.count_cons_self]
    omega
  | case4 line first tail star newline hyp =>
    obtain ⟨body, inside, rfl, rfl⟩ := hyp found
    refine ⟨first :: body, not_infix_cons inside fun others same slash => ?_, rfl, ?_⟩
    · exact star (others ++ '*' :: '/' :: rest) same (by rw [slash]; rfl)
    · have other : first ≠ '\n' := fun same => newline same
      rw [lineEnds, lineEnds, List.count_cons_of_ne other]

theorem skipBlock_eq_none {line : Nat} {text : List Char} (endless : skipBlock line text = none) :
    ¬ ['*', '/'] <:+: text := by
  fun_induction skipBlock line text with
  | case1 => simp
  | case2 => cases endless
  | case3 line tail hyp =>
    exact not_infix_cons (hyp endless) fun _ star => absurd star (by decide)
  | case4 line first tail star newline hyp =>
    exact not_infix_cons (hyp endless) fun others same slash => star others same slash

/-- An exponent is a piece at the front, and within a line. -/
theorem spanExponent_spec (text : List Char) :
    (spanExponent text).1 ++ (spanExponent text).2 = text
      ∧ ∀ character ∈ (spanExponent text).1, character ≠ '\n' := by
  unfold spanExponent
  split
  · exact ⟨rfl, nofun⟩
  next mark body =>
    split
    next isMark =>
      split
      next sign unsigned found =>
      have parts : sign ++ unsigned = body ∧ ∀ character ∈ sign, character ≠ '\n' := by
        split at found <;> cases found <;> exact ⟨rfl, by simp⟩
      have digits : ∀ character ∈ (spanDigits unsigned).1, character ≠ '\n' := by
        rintro character member rfl
        exact absurd (List.mem_takeWhile_imp member) (by decide)
      dsimp only
      split
      · exact ⟨rfl, nofun⟩
      · constructor
        · rw [spanDigits, List.cons_append, List.append_assoc, List.takeWhile_append_dropWhile,
            parts.1]
        · refine List.forall_mem_cons.mpr ⟨?_, List.forall_mem_append.mpr ⟨parts.2, digits⟩⟩
          rintro rfl
          exact absurd isMark (by decide)
    · exact ⟨rfl, nofun⟩

/-- A number is a piece at the front, and within a line. -/
theorem spanNumber_spec (text : List Char) :
    (spanNumber text).1 ++ (spanNumber text).2 = text
      ∧ ∀ character ∈ (spanNumber text).1, character ≠ '\n' := by
  obtain ⟨same, within⟩ := spanExponent_spec (text.dropWhile isMantissa)
  constructor
  · rw [spanNumber, List.append_assoc, same, List.takeWhile_append_dropWhile]
  · refine List.forall_mem_append.mpr ⟨?_, within⟩
    rintro character member rfl
    exact absurd (List.mem_takeWhile_imp member) (by decide)

theorem spanNumber_ne_nil {text : List Char} (starts : startsNumber text = true) :
    (spanNumber text).1 ≠ [] := by
  intro none
  have whole := (spanNumber_spec text).1
  rw [none, List.nil_append] at whole
  exact absurd (congrArg List.length whole) (spanNumber_length starts).ne

theorem operator?_spec {text rest : List Char} {token : Token}
    (found : operator? text = some (token, rest)) :
    ∃ lexeme, text = lexeme ++ rest ∧ ∀ character ∈ lexeme, character ≠ '\n' := by
  unfold operator? at found
  split at found <;> cases found <;>
    first
    | exact ⟨[_, _], rfl, by simp⟩
    | exact ⟨[_], rfl, by simp⟩

/-- **What a token is read from** stands at the front of the text, and within a line. -/
theorem exists_lexeme {line : Nat} {text rest : List Char} {token : Token}
    (takes : step line text = .take token rest) :
    ∃ lexeme, text = lexeme ++ rest ∧ lineEnds lexeme = 0 := by
  suffices ∃ lexeme, text = lexeme ++ rest ∧ ∀ character ∈ lexeme, character ≠ '\n' by
    obtain ⟨lexeme, same, within⟩ := this
    exact ⟨lexeme, same, lineEnds_eq_zero within⟩
  unfold step at takes
  split at takes
  next => cases takes
  next => cases takes
  next => split at takes <;> cases takes
  next => cases takes
  next first tail _ _ _ =>
    dsimp only at takes
    split at takes
    · cases takes
    split at takes
    · obtain ⟨same, within⟩ := spanNumber_spec (first :: tail)
      split at takes <;> cases takes
      exact ⟨_, same.symm, within⟩
    split at takes
    · cases takes
      refine ⟨_, List.takeWhile_append_dropWhile.symm, ?_⟩
      rintro character member rfl
      exact absurd (List.mem_takeWhile_imp member) (by decide)
    · split at takes
      next operator =>
        cases takes
        exact operator?_spec operator
      next => cases takes

/-- **What a fault is about** stands at the front of the text. -/
theorem exists_offence {line : Nat} {text : List Char} {fault : Fault}
    (fails : step line text = .fail fault) :
    ∃ piece rest, text = piece ++ rest ∧ Offends fault piece rest := by
  unfold step at fails
  split at fails
  next => cases fails
  next => cases fails
  next rest =>
    split at fails
    · cases fails
    next endless =>
      cases fails
      exact ⟨_, [], (List.append_nil _).symm, .comment (skipBlock_eq_none endless)⟩
  next => cases fails
  next first tail _ _ _ =>
    dsimp only at fails
    split at fails
    · cases fails
    split at fails
    next starts =>
      split at fails
      · cases fails
      next none =>
        cases fails
        exact ⟨_, _, (spanNumber_spec (first :: tail)).1.symm,
          .number _ (spanNumber_ne_nil starts) none⟩
    split at fails
    · cases fails
    · split at fails
      next => cases fails
      next =>
        cases fails
        exact ⟨[first], tail, rfl, .character first tail⟩

/-- **What separates tokens** is a line end, another blank, or a comment. -/
theorem exists_gap {line next : Nat} {text rest : List Char}
    (skips : step line text = .skip next rest) :
    ∃ gap, text = gap ++ rest ∧ next = line + lineEnds gap
      ∧ (gap = ['\n'] ∨ (∃ blank, gap = [blank] ∧ isBlank blank = true) ∨ IsComment gap rest) := by
  unfold step at skips
  split at skips
  next => cases skips
  next =>
    cases skips
    exact ⟨['\n'], rfl, rfl, .inl rfl⟩
  next text =>
    split at skips
    next found =>
      cases skips
      obtain ⟨body, inside, rfl, rfl⟩ := skipBlock_eq_some found
      refine ⟨'/' :: '*' :: body ++ ['*', '/'], ?_, ?_, .inr (.inr (.block _ inside))⟩
      · simp
      · simp [lineEnds]
    next => cases skips
  next text =>
    cases skips
    have single : ∀ character ∈ text.takeWhile (· != '\n'), character ≠ '\n' := by
      rintro character member rfl
      exact absurd (List.mem_takeWhile_imp member) (by decide)
    refine ⟨'/' :: '/' :: text.takeWhile (· != '\n'), ?_, ?_, .inr (.inr (.line single ?_))⟩
    · simp
    · have none := lineEnds_eq_zero single
      simpa [lineEnds] using none
    · intro character member
      have stop := List.head?_dropWhile_not (· != '\n') text
      rw [Option.mem_def.mp member] at stop
      exact bne_eq_false_iff_eq.mp stop
  next first tail newline _ _ =>
    dsimp only at skips
    split at skips
    next blank =>
      cases skips
      refine ⟨[first], rfl, ?_, .inr (.inl ⟨first, rfl, blank⟩)⟩
      rw [lineEnds_eq_zero (List.forall_mem_singleton.mpr fun same => newline same)]
      rfl
    split at skips
    · split at skips <;> cases skips
    split at skips
    · cases skips
    · split at skips <;> cases skips

/-- A comment is skipped. -/
theorem IsComment.step_eq {comment after : List Char} (isComment : IsComment comment after)
    (line : Nat) : step line (comment ++ after) = .skip (line + lineEnds comment) after := by
  cases isComment with
  | @block body after inside =>
    obtain ⟨next, found⟩ := exists_skipBlock line after inside
    obtain ⟨body', -, same, rfl⟩ := skipBlock_eq_some found
    obtain rfl : body = body' := List.append_cancel_right same
    have whole : '/' :: '*' :: body ++ ['*', '/'] ++ after
        = '/' :: '*' :: (body ++ '*' :: '/' :: after) := by simp
    rw [whole, step_block, found]
    simp [lineEnds]
  | @line body _ single ends =>
    have stop : ∀ character ∈ after.head?, (character != '\n') = false := fun character member =>
      bne_eq_false_iff_eq.mpr (ends character member)
    obtain ⟨-, behind⟩ := span_append
      (fun character member => bne_iff_ne.mpr (single character member)) stop
    have none := lineEnds_eq_zero single
    rw [List.cons_append, List.cons_append, step_slashes, behind]
    simpa [lineEnds] using none

/-! ### What cuts a text off -/

/-- The step in front of more text. -/
def Step.append (more : List Char) : Step → Step
  | .skip line rest => .skip line (rest ++ more)
  | .take token rest => .take token (rest ++ more)
  | other => other

/-- What goes on no token: a blank, or the slash of a comment. -/
def Cuts (character : Char) : Prop :=
  character = ' ' ∨ character = '/'

/-- An exponent without a sign. -/
theorem spanExponent_unsigned {mark : Char} {body : List Char}
    (isMark : (mark == 'e' || mark == 'E') = true)
    (unsigned : ∀ character ∈ body.head?, character ≠ '+' ∧ character ≠ '-') :
    spanExponent (mark :: body)
      = if (spanDigits body).1.isEmpty then ([], mark :: body)
        else (mark :: (spanDigits body).1, (spanDigits body).2) := by
  refine (if_pos isMark).trans ?_
  split
  next => exact absurd rfl (unsigned '+' rfl).1
  next => exact absurd rfl (unsigned '-' rfl).2
  next => rfl

/-- A number that does not start with a point starts with a digit. -/
theorem startsNumber_of_ne {first : Char} (rest : List Char) (point : first ≠ '.') :
    startsNumber (first :: rest) = first.isDigit := by
  unfold startsNumber
  split
  next same => exact absurd (List.cons.inj same).1 point
  next same =>
    obtain ⟨rfl, -⟩ := List.cons.inj same
    rfl
  next same => cases same

/-- What begins no operator is none. -/
theorem operator?_of_notMem {first : Char} (rest : List Char) (other : first ∉ operatorStarts) :
    operator? (first :: rest) = none := by
  have none : ∀ start ∈ operatorStarts, ∀ tail, first :: rest = start :: tail → False :=
    fun start member tail same => other ((List.cons.inj same).1 ▸ member)
  unfold operator?
  split
  case h_14 => rfl
  all_goals
    next same => exact (none _ (by decide) _ same).elim

/-- An end of a comment is found in front of more text. -/
theorem skipBlock_append {line next : Nat} {text rest : List Char}
    (found : skipBlock line text = some (next, rest)) (more : List Char) :
    skipBlock line (text ++ more) = some (next, rest ++ more) := by
  fun_induction skipBlock line text with
  | case1 => cases found
  | case2 =>
    cases found
    rfl
  | case3 line tail hyp => exact hyp found
  | case4 line first tail star newline hyp =>
    rw [List.cons_append, skipBlock]
    · exact hyp found
    · intro others same slash
      cases tail with
      | nil => cases found
      | cons second tail =>
        obtain ⟨rfl, -⟩ := List.cons.inj slash
        exact star tail same rfl
    · exact newline

/-- A slash that begins no comment begins nothing. -/
theorem step_slash (line : Nat) {rest : List Char}
    (alone : ∀ character ∈ rest.head?, character ≠ '*' ∧ character ≠ '/') :
    step line ('/' :: rest) = .fail (.unexpectedCharacter '/') := by
  unfold step
  split
  next same => cases same
  next same => exact absurd (List.cons.inj same).1 (by decide)
  next same =>
    obtain ⟨-, rfl⟩ := List.cons.inj same
    exact absurd rfl (alone '*' rfl).1
  next same =>
    obtain ⟨-, rfl⟩ := List.cons.inj same
    exact absurd rfl (alone '/' rfl).2
  next same =>
    obtain ⟨rfl, rfl⟩ := List.cons.inj same
    have nothing : operator? ('/' :: rest) = none := operator?_of_notMem rest (by decide)
    have starts : startsNumber ('/' :: rest) = false := startsNumber_of_ne rest (by decide)
    have name : isNameStart '/' = false := by decide +kernel
    have blank : isBlank '/' = false := rfl
    simp [nothing, starts, name, blank]

/-- The signs that can be the second one of an operator. -/
def operatorEnds : List Char :=
  ['=', '<', '>']

/-- In front of anything else an operator is one sign. -/
theorem operator?_apart {first : Char} {rest : List Char} (start : first ∈ operatorStarts)
    (apart : ∀ character ∈ rest.head?, character ∉ operatorEnds) :
    operator? (first :: rest) = (operator? [first]).map fun found => (found.1, rest) := by
  simp only [operatorStarts, List.mem_cons, List.not_mem_nil, or_false] at start
  cases rest with
  | nil => rcases start with rfl | rfl | rfl | rfl | rfl | rfl | rfl | rfl <;> rfl
  | cons second tail =>
    have other := apart second rfl
    simp only [operatorEnds, List.mem_cons, List.not_mem_nil, or_false, not_or] at other
    rcases start with rfl | rfl | rfl | rfl | rfl | rfl | rfl | rfl <;> simp [operator?, other]

section Cut

variable {cut : Char} (cuts : Cuts cut) (more : List Char)

/-- A run of characters does not go beyond what cuts it off. -/
theorem span_cut {belongs : Char → Bool} (stop : belongs cut = false) (text : List Char) :
    (text ++ cut :: more).takeWhile belongs = text.takeWhile belongs
      ∧ (text ++ cut :: more).dropWhile belongs = text.dropWhile belongs ++ cut :: more := by
  induction text with
  | nil => simp [stop]
  | cons first rest hyp =>
    rw [List.cons_append]
    by_cases inside : belongs first = true
    · rw [List.takeWhile_cons_of_pos inside, List.dropWhile_cons_of_pos inside, hyp.1, hyp.2,
        List.takeWhile_cons_of_pos inside, List.dropWhile_cons_of_pos inside]
      exact ⟨rfl, rfl⟩
    · rw [List.takeWhile_cons_of_neg inside, List.dropWhile_cons_of_neg inside,
        List.takeWhile_cons_of_neg inside, List.dropWhile_cons_of_neg inside]
      exact ⟨rfl, rfl⟩

include cuts

theorem Cuts.isNameCharacter : isNameCharacter cut = false := by
  rcases cuts with rfl | rfl <;> decide +kernel

theorem Cuts.isMantissa : isMantissa cut = false := by
  rcases cuts with rfl | rfl <;> rfl

theorem Cuts.ends : Ends (cut :: more) := by
  intro character member
  obtain rfl := Option.some.inj member
  exact cuts.isNameCharacter

/-- Whether an exponent has digits is found out in front of the cut. -/
theorem spanExponent_cut (text : List Char) :
    spanExponent (text ++ cut :: more)
      = ((spanExponent text).1, (spanExponent text).2 ++ cut :: more) := by
  have digit : cut.isDigit = false := by rcases cuts with rfl | rfl <;> rfl
  have spanned (unsigned : List Char) : spanDigits (unsigned ++ cut :: more)
      = ((spanDigits unsigned).1, (spanDigits unsigned).2 ++ cut :: more) := by
    obtain ⟨front, back⟩ := span_cut more digit unsigned
    rw [spanDigits, spanDigits, front, back]
  cases text with
  | nil => exact spanExponent_of_ends (cuts.ends more)
  | cons mark body =>
    by_cases isMark : (mark == 'e' || mark == 'E') = true
    · by_cases signed : ∃ rest, body = '+' :: rest ∨ body = '-' :: rest
      · obtain ⟨rest, rfl | rfl⟩ := signed
        all_goals
          simp only [spanExponent, List.cons_append, if_pos isMark, spanned]
          split <;> rfl
      · have unsigned : ∀ character ∈ body.head?, character ≠ '+' ∧ character ≠ '-' := by
          cases body with
          | nil => exact fun _ member => absurd member (Option.not_mem_none _)
          | cons first rest =>
            intro character member
            obtain rfl := Option.some.inj member
            exact ⟨fun same => signed ⟨rest, .inl (by rw [same])⟩,
              fun same => signed ⟨rest, .inr (by rw [same])⟩⟩
        have unsigned' : ∀ character ∈ (body ++ cut :: more).head?,
            character ≠ '+' ∧ character ≠ '-' := by
          cases body with
          | nil =>
            intro character member
            obtain rfl := Option.some.inj member
            rcases cuts with rfl | rfl <;> decide
          | cons first rest => exact unsigned
        rw [List.cons_append, spanExponent_unsigned isMark unsigned',
          spanExponent_unsigned isMark unsigned, spanned]
        split <;> rfl
    · unfold spanExponent
      simp only [List.cons_append, if_neg isMark]

theorem spanNumber_cut (text : List Char) :
    spanNumber (text ++ cut :: more)
      = ((spanNumber text).1, (spanNumber text).2 ++ cut :: more) := by
  obtain ⟨front, back⟩ := span_cut more cuts.isMantissa text
  rw [spanNumber, spanNumber, front, back, spanExponent_cut cuts]

theorem startsNumber_cut (first : Char) (rest : List Char) :
    startsNumber (first :: rest ++ cut :: more) = startsNumber (first :: rest) := by
  by_cases point : first = '.'
  · subst point
    cases rest with
    | nil => rcases cuts with rfl | rfl <;> rfl
    | cons second rest => rfl
  · rw [List.cons_append, startsNumber_of_ne _ point, startsNumber_of_ne _ point]

theorem operator?_cut (first : Char) (rest : List Char) :
    operator? (first :: rest ++ cut :: more)
      = (operator? (first :: rest)).map fun found => (found.1, found.2 ++ cut :: more) := by
  rw [List.cons_append]
  by_cases start : first ∈ operatorStarts
  · by_cases pair : ∃ second ∈ operatorEnds, ∃ tail, rest = second :: tail
    · obtain ⟨second, arrow, tail, rfl⟩ := pair
      simp only [operatorStarts, List.mem_cons, List.not_mem_nil, or_false] at start
      simp only [operatorEnds, List.mem_cons, List.not_mem_nil, or_false] at arrow
      rcases arrow with rfl | rfl | rfl <;>
        rcases start with rfl | rfl | rfl | rfl | rfl | rfl | rfl | rfl <;> rfl
    · have apart : ∀ character ∈ rest.head?, character ∉ operatorEnds := by
        intro character member arrow
        exact pair ⟨character, arrow, rest.tail, (List.eq_cons_of_mem_head? member)⟩
      have apart' : ∀ character ∈ (rest ++ cut :: more).head?, character ∉ operatorEnds := by
        cases rest with
        | nil =>
          intro character member
          obtain rfl := Option.some.inj member
          rcases cuts with rfl | rfl <;> decide
        | cons second tail => exact apart
      rw [operator?_apart start apart, operator?_apart start apart', Option.map_map]
      rfl
  · rw [operator?_of_notMem _ start, operator?_of_notMem _ start]
    rfl

/-- **A text that ends inside a comment**, or with a slash that may begin one. -/
inductive Open : List Char → Prop where
  | slash : Open ['/']
  | block {body : List Char} (inside : ¬ ['*', '/'] <:+: body) : Open ('/' :: '*' :: body)
  | line {body : List Char} (single : ∀ character ∈ body, character ≠ '\n') :
    Open ('/' :: '/' :: body)

/-- **A step in front of a cut** is the step at the end of the text. -/
theorem step_append (line : Nat) {first : Char} {rest : List Char}
    (closed : ¬ Open (first :: rest)) :
    step line (first :: rest ++ cut :: more)
      = (step line (first :: rest)).append (cut :: more) := by
  by_cases newline : first = '\n'
  · subst newline
    rfl
  by_cases slash : first = '/'
  · subst slash
    cases rest with
    | nil => exact absurd .slash closed
    | cons second body =>
      -- A slash begins a comment or is a fault, by the character that follows it.
      by_cases block : second = '*'
      · subst block
        cases found : skipBlock line body with
        | none => exact absurd (.block (skipBlock_eq_none found)) closed
        | some behind =>
          rw [List.cons_append, List.cons_append, step_block, step_block, skipBlock_append found,
            found]
          rfl
      by_cases single : second = '/'
      · subst single
        have some : body.dropWhile (· != '\n') ≠ [] := by
          intro none
          refine closed (.line fun character member => ?_)
          exact bne_iff_ne.mp (List.dropWhile_eq_nil_iff.mp none character member)
        rw [List.cons_append, List.cons_append, step_slashes, step_slashes, List.dropWhile_append,
          List.isEmpty_eq_false_iff.mpr some]
        rfl
      · have alone (tail : List Char) : ∀ character ∈ (second :: tail).head?,
            character ≠ '*' ∧ character ≠ '/' := by
          intro character member
          obtain rfl := Option.some.inj member
          exact ⟨block, single⟩
        rw [List.cons_append, List.cons_append, step_slash line (alone _),
          step_slash line (alone _)]
        rfl
  · rw [List.cons_append, step_eq line _ newline slash, step_eq line _ newline slash,
      ← List.cons_append, startsNumber_cut cuts, spanNumber_cut cuts, operator?_cut cuts]
    obtain ⟨front, back⟩ := span_cut more cuts.isNameCharacter (first :: rest)
    rw [front, back]
    split
    · rfl
    split
    · cases decimal? (spanNumber (first :: rest)).1 with
      | none => rfl
      | some value => rfl
    split
    · rfl
    · cases operator? (first :: rest) with
      | none => rfl
      | some found => rfl

end Cut

/-- **A slash does not cut off a comment**, which goes on behind it. -/
theorem Open.step_spec {text : List Char} (opens : Open text) (line : Nat) (more : List Char) :
    (∃ next rest, step line (text ++ '/' :: more) = .skip next rest ∧ rest.length ≤ more.length)
      ∨ step line (text ++ '/' :: more) = .fail .unterminatedComment := by
  cases opens with
  | slash =>
    exact .inl ⟨line, more.dropWhile (· != '\n'), rfl, (List.dropWhile_suffix _).length_le⟩
  | @line body single =>
    have all : ∀ character ∈ body ++ ['/'], (character != '\n') = true :=
      List.forall_mem_append.mpr ⟨fun character member => bne_iff_ne.mpr (single character member),
        by simp⟩
    refine .inl ⟨line, more.dropWhile (· != '\n'), ?_, (List.dropWhile_suffix _).length_le⟩
    rw [List.cons_append, List.cons_append, step_slashes, List.append_cons,
      List.dropWhile_append_of_pos all]
  | @block body inside =>
    rw [List.cons_append, List.cons_append, step_block]
    cases found : skipBlock line (body ++ '/' :: more) with
    | none => exact .inr rfl
    | some behind =>
      refine .inl ⟨behind.1, behind.2, rfl, ?_⟩
      -- The end lies behind the text, its slash at the soonest at the one that is added.
      obtain ⟨body', -, same, -⟩ := skipBlock_eq_some found
      by_contra long
      have lengths := congrArg List.length same
      simp only [List.length_append, List.length_cons] at lengths
      have front : body' ++ ['*', '/'] <+: body := by
        refine List.prefix_of_prefix_length_le ⟨behind.2, ?_⟩ ⟨'/' :: more, same⟩ ?_
        · simp
        · simp only [List.length_append, List.length_cons, List.length_nil]
          omega
      exact inside ((List.suffix_append body' _).isInfix.trans front.isInfix)

theorem Step.append_injective (more : List Char) : Function.Injective (Step.append more) := by
  intro first second same
  cases first <;> cases second <;> simp_all [Step.append]

/-- **Where the slash of a comment cuts a text off, a blank does**: the step finds the same. -/
theorem step_recut {line : Nat} {text more : List Char} (found : Step) (nonempty : text ≠ [])
    (finds : step line (text ++ '/' :: more) = found.append ('/' :: more))
    (ended : found ≠ .fail .unterminatedComment) (more' : List Char) :
    step line (text ++ ' ' :: more') = found.append (' ' :: more') := by
  cases text with
  | nil => exact absurd rfl nonempty
  | cons first rest =>
    have closed : ¬ Open (first :: rest) := by
      intro opens
      -- The comment would swallow the slash, or all the rest.
      obtain ⟨next, behind, skips, short⟩ | fails := opens.step_spec line more
      · have same : (found.append ('/' :: more)).rest? = some behind := by
          rw [← finds, skips]
          rfl
        have long : more.length < behind.length := by
          cases found with
          | skip line kept =>
            obtain rfl := Option.some.inj same
            simp only [List.length_append, List.length_cons]
            omega
          | take token kept =>
            obtain rfl := Option.some.inj same
            simp only [List.length_append, List.length_cons]
            omega
          | stop => cases same
          | fail fault => cases same
        omega
      · refine ended (Step.append_injective ('/' :: more) ?_)
        rw [← finds, fails]
        rfl
    rw [step_append (.inr rfl) more line closed] at finds
    rw [step_append (.inl rfl) more' line closed, Step.append_injective _ finds]

/-- A step goes over a piece that is not empty. -/
theorem ne_nil_of_rest? {line : Nat} {piece rest : List Char}
    (goes : (step line (piece ++ rest)).rest? = some rest) : piece ≠ [] := by
  rintro rfl
  exact absurd (step_length goes) (Nat.lt_irrefl _)

end LinearProgram.Lp
