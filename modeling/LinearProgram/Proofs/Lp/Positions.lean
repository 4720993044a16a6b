/-
**Where tokens stand in a text.**

The scanner goes over a text piece by piece, and each piece is a gap between tokens, a token, or the
subject of a fault. What is told is the first fault, or else all tokens, and each of them is told
with the line that its first character is on. Only the line ends of a comment matter to that.

* `Reached`: how far the scanner gets, with what it has found. It is followed behind a fault too,
  though nothing more is told.
* `Reached.scan_reached`: what is told, from what was found and from the rest of the text.
* `Reached.exists_end`: the scanner gets to the end of every text.
* `Reached.recut`: what was found in front of a comment does not depend on the comment.
* **`scan_places`**: the lines that are told, and what a comment may be replaced by.
-/

import LinearProgram.Proofs.Lp.Lexemes

namespace LinearProgram.Lp

/-- Something found in a text: a token, or a fault, with the text in front of its first character.
-/
structure Found where
  item : Except Fault Token
  before : List Char

/-- What is told about it: it is on the line that its first character is on. -/
def Found.told (found : Found) : Except Failure Located :=
  match found.item with
  | .ok token => .ok ⟨token, 1 + lineEnds found.before⟩
  | .error fault => .error ⟨1 + lineEnds found.before, fault⟩

/-- What is told about one thing more. -/
theorem mapM_told_append (found : List Found) (last : Found) :
    (found ++ [last]).mapM Found.told
      = (found.mapM Found.told).bind fun front => last.told.map (front ++ [·]) := by
  rw [List.mapM_append]
  refine congrArg _ (funext fun front => ?_)
  rw [List.mapM_cons, List.mapM_nil]
  cases last.told with
  | error failure => rfl
  | ok located => rfl

/-- **How far the scanner gets in a text**: what lies behind it, what it has found there, and what
is in front of it. -/
inductive Reached (text : List Char) : List Char → List Found → List Char → Prop where
  | start : Reached text [] [] text
  | gap {before : List Char} (piece : List Char) {rest : List Char} {found : List Found}
    (reached : Reached text before found (piece ++ rest))
    (skips : ∀ line, ∃ next, step line (piece ++ rest) = .skip next rest) :
    Reached text (before ++ piece) found rest
  | token {before : List Char} (piece : List Char) {rest : List Char} {found : List Found}
    {token : Token} (reached : Reached text before found (piece ++ rest))
    (takes : ∀ line, step line (piece ++ rest) = .take token rest) :
    Reached text (before ++ piece) (found ++ [⟨.ok token, before⟩]) rest
  | fault {before piece rest : List Char} {found : List Found} {fault : Fault}
    (reached : Reached text before found (piece ++ rest))
    (fails : ∀ line, step line (piece ++ rest) = .fail fault) (offends : Offends fault piece rest) :
    Reached text (before ++ piece) (found ++ [⟨.error fault, before⟩]) rest

/-- The scanner stops at the end only. -/
theorem eq_nil_of_step {line : Nat} {text : List Char} (stops : step line text = .stop) :
    text = [] := by
  unfold step at stops
  split at stops
  next => rfl
  next => cases stops
  next => split at stops <;> cases stops
  next => cases stops
  next =>
    dsimp only at stops
    split at stops
    · cases stops
    split at stops
    · split at stops <;> cases stops
    split at stops
    · cases stops
    · split at stops <;> cases stops

namespace Reached

variable {text before after : List Char} {found : List Found}

/-- The scanner leaves nothing out. -/
theorem text_eq (reached : Reached text before found after) : text = before ++ after := by
  induction reached with
  | start => rfl
  | gap _ _ _ hyp => rw [hyp, List.append_assoc]
  | token _ _ _ hyp => rw [hyp, List.append_assoc]
  | fault _ _ _ hyp => rw [hyp, List.append_assoc]

/-! ### What is told -/

/-- **What is told about a text**, from what was found and from the rest. -/
theorem scan_reached (reached : Reached text before found after) :
    scan 1 text = (found.mapM Found.told).bind fun front =>
      (scan (1 + lineEnds before) after).map (front ++ ·) := by
  induction reached with
  | start =>
    show scan 1 text = (scan (1 + 0) text).map ([] ++ ·)
    cases scan 1 text with
    | error failure => rfl
    | ok located => rfl
  | @gap before piece rest found _ skips hyp =>
    obtain ⟨next, skipped⟩ := skips (1 + lineEnds before)
    obtain ⟨gap, same, rfl, -⟩ := exists_gap skipped
    obtain rfl := List.append_cancel_right same
    rw [hyp, scan_eq, skipped, lineEnds_append, Nat.add_assoc]
  | @token before piece rest found token _ takes hyp =>
    obtain ⟨lexeme, same, within⟩ := exists_lexeme (takes 1)
    obtain rfl := List.append_cancel_right same
    rw [hyp, scan_eq, takes, lineEnds_append, within, mapM_told_append]
    cases found.mapM Found.told with
    | error failure => rfl
    | ok front =>
      show ((scan (1 + lineEnds before) rest).map _).map _
        = (scan (1 + lineEnds before) rest).map _
      cases scan (1 + lineEnds before) rest with
      | error failure => rfl
      | ok located => exact congrArg Except.ok (List.append_cons front _ located)
  | @fault before piece rest found fault _ fails _ hyp =>
    rw [hyp, scan_eq, fails, mapM_told_append]
    cases found.mapM Found.told with
    | error failure => rfl
    | ok front => rfl

/-! ### How far the scanner gets -/

/-- **The scanner gets to the end**, since each piece has a character. -/
theorem exists_end {before after : List Char} {found : List Found}
    (reached : Reached text before found after) :
    ∃ found', Reached text text found' [] := by
  have everywhere (line : Nat) : step line after = (step 0 after).shift line := by
    rw [← step_shift, Nat.zero_add]
  cases here : step 0 after with
  | stop =>
    obtain rfl := eq_nil_of_step here
    have whole := reached.text_eq
    rw [List.append_nil] at whole
    exact ⟨found, whole ▸ reached⟩
  | skip next rest =>
    have shorter := step_length (show (step 0 after).rest? = some rest by rw [here]; rfl)
    obtain ⟨gap, rfl, -, -⟩ := exists_gap here
    exact exists_end (reached.gap gap fun line => ⟨next + line, by rw [everywhere, here]; rfl⟩)
  | take token rest =>
    have shorter := step_length (show (step 0 after).rest? = some rest by rw [here]; rfl)
    obtain ⟨lexeme, rfl, -⟩ := exists_lexeme here
    exact exists_end (reached.token lexeme fun line => by rw [everywhere, here]; rfl)
  | fail fault =>
    obtain ⟨piece, rest, rfl, offends⟩ := exists_offence here
    have shorter : rest.length < (piece ++ rest).length := by
      have some := List.length_pos_of_ne_nil offends.ne_nil
      rw [List.length_append]
      omega
    exact exists_end (reached.fault (fun line => by rw [everywhere, here]; rfl) offends)
termination_by after.length

/-- **What was found in front of a comment** is found in front of a blank in its place. -/
theorem recut {middle more : List Char} (reached : Reached text before found after)
    (same : after = middle ++ '/' :: more) (more' : List Char) :
    Reached (before ++ middle ++ ' ' :: more') before found (middle ++ ' ' :: more') := by
  induction reached generalizing middle with
  | start => exact .start
  | @gap before piece rest found _ skips hyp =>
    subst same
    have cut := hyp (List.append_assoc piece middle _).symm
    rw [List.append_assoc piece, ← List.append_assoc before] at cut
    refine cut.gap piece fun line => ?_
    obtain ⟨next, skipped⟩ := skips line
    have nonempty := ne_nil_of_rest? (congrArg Step.rest? skipped)
    rw [← List.append_assoc] at skipped ⊢
    exact ⟨next, step_recut (.skip next middle)
      (List.append_ne_nil_of_left_ne_nil nonempty _) skipped nofun more'⟩
  | @token before piece rest found token _ takes hyp =>
    subst same
    have cut := hyp (List.append_assoc piece middle _).symm
    rw [List.append_assoc piece, ← List.append_assoc before] at cut
    refine cut.token piece fun line => ?_
    have taken := takes line
    have nonempty := ne_nil_of_rest? (congrArg Step.rest? taken)
    rw [← List.append_assoc] at taken ⊢
    exact step_recut (.take token middle) (List.append_ne_nil_of_left_ne_nil nonempty _)
      taken nofun more'
  | @fault before piece rest found fault _ fails offends hyp =>
    subst same
    have cut := hyp (List.append_assoc piece middle _).symm
    rw [List.append_assoc piece, ← List.append_assoc before] at cut
    obtain ⟨ended, offends'⟩ := offends.change (List.append_ne_nil_of_right_ne_nil _
      (List.cons_ne_nil _ _)) (middle ++ ' ' :: more')
    refine cut.fault (fun line => ?_) offends'
    have failed := fails line
    rw [← List.append_assoc] at failed ⊢
    exact step_recut (.fail fault)
      (List.append_ne_nil_of_left_ne_nil offends.ne_nil _) failed
      (fun same => ended (Step.fail.inj same)) more'

end Reached

/-! ### Comments -/

/-- What a comment may be replaced by: a blank, and the line ends of the comment. -/
def blanked (comment : List Char) : List Char :=
  ' ' :: List.replicate (lineEnds comment) '\n'

theorem scan_blanked (line : Nat) (comment after : List Char) :
    scan line (blanked comment ++ after) = scan (line + lineEnds comment) after := by
  have newlines (count line : Nat) : scan line (List.replicate count '\n' ++ after)
      = scan (line + count) after := by
    induction count generalizing line with
    | zero => rfl
    | succ count hyp =>
      rw [List.replicate_succ, List.cons_append, scan_eq]
      exact (hyp (line + 1)).trans (congrArg (scan · after) (by omega))
  rw [blanked, List.cons_append, scan_eq]
  exact newlines _ line

/-- **A comment is what separates tokens and begins with a slash.** -/
theorem isComment_iff {comment after : List Char} :
    IsComment comment after ↔ comment.head? = some '/'
      ∧ ∀ line, ∃ next, step line (comment ++ after) = .skip next after := by
  constructor
  · intro isComment
    refine ⟨?_, fun line => ⟨_, isComment.step_eq line⟩⟩
    cases isComment <;> rfl
  · rintro ⟨slash, skips⟩
    obtain ⟨next, skipped⟩ := skips 0
    obtain ⟨gap, same, -, shape⟩ := exists_gap skipped
    obtain rfl := List.append_cancel_right same
    rcases shape with rfl | ⟨blank, rfl, isBlank⟩ | isComment
    · cases slash
    · obtain rfl := Option.some.inj slash
      cases isBlank
    · exact isComment

/-- **A comment may be replaced by a blank and its line ends**, wherever the scanner meets it. -/
theorem scan_uncommented {text before comment after : List Char} {found : List Found}
    (reached : Reached text before found (comment ++ after)) (isComment : IsComment comment after) :
    scan 1 (before ++ blanked comment ++ after) = scan 1 text := by
  obtain ⟨slash, -⟩ := isComment_iff.mp isComment
  obtain ⟨body, rfl⟩ : ∃ body, comment = '/' :: body :=
    ⟨comment.tail, List.eq_cons_of_mem_head? slash⟩
  have cut : Reached (before ++ blanked ('/' :: body) ++ after) before found
      (blanked ('/' :: body) ++ after) := by
    have cut := reached.recut (List.nil_append _).symm
      (List.replicate (lineEnds ('/' :: body)) '\n' ++ after)
    rw [List.append_nil] at cut
    rw [List.append_assoc]
    exact cut
  rw [cut.scan_reached, reached.scan_reached, scan_blanked, scan_eq _ ('/' :: body ++ after),
    isComment.step_eq]

/-! ### Lines and comments -/

/-- **What is told about a text.** The scanner gets to its end. What is told is the first fault, or
else all tokens, with the lines of their first characters; a fault is about a character, a number,
or a comment without an end. A comment that the scanner meets may be replaced by a blank and by its
line ends, and then just the same is told. -/
theorem scan_places (text : List Char) :
    (∃ found, Reached text text found [])
      ∧ (∀ found, Reached text text found [] → scan 1 text = found.mapM Found.told)
      ∧ (∀ comment after, IsComment comment after ↔ comment.head? = some '/'
        ∧ ∀ line, ∃ next, step line (comment ++ after) = .skip next after)
      ∧ ∀ before comment after found, Reached text before found (comment ++ after) →
        IsComment comment after →
          scan 1 (before ++ blanked comment ++ after) = scan 1 text := by
  refine ⟨Reached.start.exists_end, fun found reached => ?_, fun _ _ => isComment_iff,
    fun _ _ _ _ reached isComment => scan_uncommented reached isComment⟩
  rw [reached.scan_reached, scan_eq]
  show ((found.mapM Found.told).bind fun front => .ok (front ++ [])) = _
  cases found.mapM Found.told with
  | error failure => rfl
  | ok located => exact congrArg Except.ok (List.append_nil located)

/-- A comment between the two signs of a relation keeps them apart, and has a line end. -/
def parted : List Char :=
  "a </* b\n*/= // c\nd".toList

/-- The tokens of the text, with what stands in front of each. -/
def partedTokens : List Found :=
  [⟨.ok (.name "a"), []⟩, ⟨.ok (.relation .atMost), "a ".toList⟩,
    ⟨.ok (.relation .equal), "a </* b\n*/".toList⟩, ⟨.ok (.name "d"), "a </* b\n*/= // c\n".toList⟩]

/-- The scanner meets the first comment behind two tokens. -/
theorem reached_comment :
    Reached parted "a <".toList (partedTokens.take 2)
      ("/* b\n*/".toList ++ "= // c\nd".toList) := by
  have first : Reached parted ['a'] (partedTokens.take 1) " </* b\n*/= // c\nd".toList :=
    Reached.start.token ['a'] fun _ => rfl
  have blank : Reached parted "a ".toList (partedTokens.take 1) "</* b\n*/= // c\nd".toList :=
    first.gap [' '] fun line => ⟨line, rfl⟩
  exact blank.token ['<'] fun _ => rfl

theorem reached_parted : Reached parted parted partedTokens [] := by
  have comment : Reached parted "a </* b\n*/".toList (partedTokens.take 2) "= // c\nd".toList :=
    reached_comment.gap "/* b\n*/".toList fun line => ⟨line + 1, rfl⟩
  have equal : Reached parted "a </* b\n*/=".toList (partedTokens.take 3) " // c\nd".toList :=
    comment.token ['='] fun _ => rfl
  have blank : Reached parted "a </* b\n*/= ".toList (partedTokens.take 3) "// c\nd".toList :=
    equal.gap [' '] fun line => ⟨line, rfl⟩
  have other : Reached parted "a </* b\n*/= // c".toList (partedTokens.take 3) "\nd".toList :=
    blank.gap "// c".toList fun line => ⟨line, rfl⟩
  have newline : Reached parted "a </* b\n*/= // c\n".toList (partedTokens.take 3) ['d'] :=
    other.gap ['\n'] fun line => ⟨line + 1, rfl⟩
  exact newline.token ['d'] fun _ => rfl

theorem scan_places_parted :
    scan 1 parted
        = .ok [⟨.name "a", 1⟩, ⟨.relation .atMost, 1⟩, ⟨.relation .equal, 2⟩, ⟨.name "d", 3⟩]
      ∧ scan 1 "a < \n= // c\nd".toList = scan 1 parted := by
  obtain ⟨-, told, comments, uncommented⟩ := scan_places parted
  refine ⟨told partedTokens reached_parted, uncommented _ _ _ _ reached_comment ?_⟩
  exact (comments _ _).mpr ⟨rfl, fun line => ⟨line + 1, rfl⟩⟩

end LinearProgram.Lp
