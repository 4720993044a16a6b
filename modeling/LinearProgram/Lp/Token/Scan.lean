/-
**From text to tokens.**

Scanning looks at the front of the text and takes one step: over a line end, a blank or a comment,
or over the longest token that starts there. Two characters of look-ahead decide which; an exponent
belongs to a number only if it has digits.

* `step`: one step, with the text behind it. `step_length`: that text is shorter.
* `scan`: all tokens with their lines, or the first character that starts none.
-/

import LinearProgram.Decimal.Literal
import LinearProgram.Lp.Fault
import LinearProgram.Text.Blank

namespace LinearProgram.Lp

open Decimal Text

/-! ### What stands at the front of a text -/

/-- The rest of a text behind the end of a block comment, and the line there. -/
def skipBlock (line : Nat) : List Char → Option (Nat × List Char)
  | [] => none
  | '*' :: '/' :: rest => some (line, rest)
  | '\n' :: rest => skipBlock (line + 1) rest
  | _ :: rest => skipBlock line rest

/-- The exponent at the front of a text, and the rest; empty unless it has digits. -/
def spanExponent (text : List Char) : List Char × List Char :=
  match text with
  | [] => ([], [])
  | mark :: body =>
    if mark == 'e' || mark == 'E' then
      let (sign, unsigned) : List Char × List Char :=
        match body with
        | '+' :: rest => (['+'], rest)
        | '-' :: rest => (['-'], rest)
        | rest => ([], rest)
      let (digits, rest) := spanDigits unsigned
      if digits.isEmpty then ([], text) else (mark :: (sign ++ digits), rest)
    else ([], text)

/-- Whether the character may stand in a number before its exponent. -/
def isMantissa (character : Char) : Bool :=
  character.isDigit || character == '.'

/-- The number at the front of a text, and the rest. -/
def spanNumber (text : List Char) : List Char × List Char :=
  let (exponent, rest) := spanExponent (text.dropWhile isMantissa)
  (text.takeWhile isMantissa ++ exponent, rest)

/-- The operator or separator at the front of a text, and the rest. -/
def operator? : List Char → Option (Token × List Char)
  | '<' :: '=' :: rest => some (.relation .atMost, rest)
  | '<' :: rest => some (.relation .atMost, rest)
  | '>' :: '=' :: rest => some (.relation .atLeast, rest)
  | '>' :: rest => some (.relation .atLeast, rest)
  | '=' :: '<' :: rest => some (.relation .atMost, rest)
  | '=' :: '>' :: rest => some (.relation .atLeast, rest)
  | '=' :: '=' :: rest => some (.relation .equal, rest)
  | '=' :: rest => some (.relation .equal, rest)
  | '+' :: rest => some (.plus, rest)
  | '-' :: rest => some (.minus, rest)
  | ':' :: rest => some (.colon, rest)
  | ',' :: rest => some (.comma, rest)
  | ';' :: rest => some (.semicolon, rest)
  | _ => none

/-- Whether a number starts at the front of a text: with a digit, or with a point before one. -/
def startsNumber : List Char → Bool
  | '.' :: next :: _ => next.isDigit
  | first :: _ => first.isDigit
  | [] => false

/-! ### One step -/

/-- What a step over the front of a text finds. -/
inductive Step where
  /-- The text is empty. -/
  | stop
  /-- Something that separates tokens; `line` is the line behind it. -/
  | skip (line : Nat) (rest : List Char)
  | take (token : Token) (rest : List Char)
  | fail (fault : Fault)

/-- One step over a text that goes on at a line. -/
def step (line : Nat) : List Char → Step
  | [] => .stop
  | '\n' :: rest => .skip (line + 1) rest
  | '/' :: '*' :: rest =>
    match skipBlock line rest with
    | some (line, rest) => .skip line rest
    | none => .fail .unterminatedComment
  | '/' :: '/' :: rest => .skip line (rest.dropWhile (· != '\n'))
  | first :: rest =>
    let text := first :: rest
    if isBlank first then .skip line rest
    else if startsNumber text then
      let (number, rest) := spanNumber text
      match decimal? number with
      | some value => .take (.number value) rest
      | none => .fail (.invalidNumber (String.ofList number))
    else if isNameStart first then
      .take (.name (String.ofList (text.takeWhile isNameCharacter)))
        (text.dropWhile isNameCharacter)
    else
      match operator? text with
      | some (token, rest) => .take token rest
      | none => .fail (.unexpectedCharacter first)

/-! ### The text behind a step is shorter -/

theorem skipBlock_length {line line' : Nat} {text rest : List Char}
    (found : skipBlock line text = some (line', rest)) : rest.length < text.length := by
  fun_induction skipBlock line text with
  | case1 => cases found
  | case2 =>
    cases found
    simp only [List.length_cons]
    omega
  | case3 line tail hyp => exact Nat.lt_succ_of_lt (hyp found)
  | case4 line first tail _ _ hyp => exact Nat.lt_succ_of_lt (hyp found)

theorem spanDigits_length (text : List Char) : (spanDigits text).2.length ≤ text.length :=
  List.IsSuffix.length_le (List.dropWhile_suffix _)

theorem spanExponent_length (text : List Char) : (spanExponent text).2.length ≤ text.length := by
  unfold spanExponent
  split
  · exact Nat.le_refl _
  · rename_i mark body
    split
    · split
      rename_i sign unsigned found
      have unsignedLength : unsigned.length ≤ body.length := by
        split at found <;> cases found <;> simp
      have bound := spanDigits_length unsigned
      dsimp only
      split
      · exact Nat.le_refl _
      · exact Nat.le_succ_of_le (Nat.le_trans bound unsignedLength)
    · exact Nat.le_refl _

theorem spanNumber_length {text : List Char} (starts : startsNumber text = true) :
    (spanNumber text).2.length < text.length := by
  have exponentLength := spanExponent_length (text.dropWhile isMantissa)
  have mantissaLength : (text.dropWhile isMantissa).length < text.length := by
    match text, starts with
    | first :: rest, starts =>
      have mantissa : isMantissa first = true := by
        unfold startsNumber at starts
        split at starts <;> simp_all [isMantissa]
      rw [List.dropWhile_cons_of_pos mantissa]
      exact Nat.lt_succ_of_le (List.IsSuffix.length_le (List.dropWhile_suffix _))
  exact Nat.lt_of_le_of_lt exponentLength mantissaLength

theorem operator?_length {text rest : List Char} {token : Token}
    (found : operator? text = some (token, rest)) : rest.length < text.length := by
  unfold operator? at found
  split at found <;> cases found <;> simp only [List.length_cons] <;> omega

/-- What remains of the text behind a step. -/
def Step.rest? : Step → Option (List Char)
  | .skip _ rest | .take _ rest => some rest
  | .stop | .fail _ => none

/-- **Every step makes progress.** -/
theorem step_length {line : Nat} {text rest : List Char}
    (found : (step line text).rest? = some rest) : rest.length < text.length := by
  unfold step at found
  split at found
  · cases found
  · cases found
    exact Nat.lt_succ_self _
  · rename_i tail
    split at found
    · rename_i skipped
      cases found
      have bound := skipBlock_length skipped
      simp only [List.length_cons]
      omega
    · cases found
  · cases found
    have bound : ∀ tail : List Char, (tail.dropWhile (· != '\n')).length ≤ tail.length :=
      fun tail => List.IsSuffix.length_le (List.dropWhile_suffix _)
    simp only [List.length_cons]
    exact Nat.lt_succ_of_le (Nat.le_succ_of_le (bound _))
  · rename_i first tail _ _ _
    dsimp only at found
    split at found
    · cases found
      exact Nat.lt_succ_self _
    · split at found
      · rename_i starts
        have bound := spanNumber_length starts
        split at found <;> cases found
        exact bound
      · split at found
        · rename_i start
          cases found
          have inside : isNameCharacter first = true := by simp [isNameCharacter, start]
          rw [List.dropWhile_cons_of_pos inside]
          exact Nat.lt_succ_of_le (List.IsSuffix.length_le (List.dropWhile_suffix _))
        · split at found
          · rename_i operator
            cases found
            exact operator?_length operator
          · cases found

/-! ### All tokens -/

/-- **The tokens of a text that starts at a line**, or the first fault. -/
def scan (line : Nat) (text : List Char) : Except Failure (List Located) :=
  match found : step line text with
  | .stop => .ok []
  | .skip next rest =>
    have : rest.length < text.length := step_length (by rw [found]; rfl)
    scan next rest
  | .take token rest =>
    have : rest.length < text.length := step_length (by rw [found]; rfl)
    (scan line rest).map (⟨token, line⟩ :: ·)
  | .fail fault => .error ⟨line, fault⟩
termination_by text.length

end LinearProgram.Lp
