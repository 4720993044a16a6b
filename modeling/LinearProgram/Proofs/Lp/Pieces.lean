/-
**A text as statements that are taken one after the other.**

The semicolons cut a text into pieces. A reader takes the pieces from left to right, starting with
nothing, and what the text describes is what the reader has in the end. So what every action keeps holds
of each text, and also after each of its statements.

* `pieces`: the parts between semicolons. `Reader.run`: taking pieces one after the other.
* **`exists_run_of_parse`**: a text is read by taking its pieces.
* `Reader.exists_run_of_prefix`: the pieces in front are taken before the others.
* `Reader.Sound.run`: what the actions of all statements keep.
-/

import LinearProgram.Proofs.Lp.Reading

namespace LinearProgram.Lp

/-- Whether a token ends a statement. -/
def Located.endsStatement : Located → Bool
  | ⟨.semicolon, _⟩ => true
  | _ => false

/-- **The pieces of a text**: what stands before, between and behind its semicolons. -/
def pieces (tokens : List Located) : List (List Located) :=
  tokens.splitOnP Located.endsStatement

namespace Reader

/-- Takes pieces of a text one after the other. -/
def run (reader : Reader) (pieces : List (List Located)) : Except Failure Reader :=
  pieces.foldlM Reader.statement reader

variable {reader after : Reader}

theorem run_append {first second : List (List Located)} :
    reader.run (first ++ second) = (reader.run first).bind (·.run second) :=
  List.foldlM_append

/-- **The pieces in front are taken before the others.** -/
theorem exists_run_of_prefix {front all : List (List Located)} (inFront : front <+: all)
    (done : reader.run all = .ok after) :
    ∃ middle, reader.run front = .ok middle := by
  obtain ⟨rest, rfl⟩ := inFront
  rw [run_append] at done
  obtain ⟨middle, first, -⟩ := exists_of_bind_ok done
  exact ⟨middle, first⟩

/-- **What the actions of all statements keep is kept**, and so is the reader sound. -/
theorem Sound.run {good : Reader → Prop} {pieces : List (List Located)} (sound : reader.Sound)
    (keeps : ∀ first rest, first :: rest ∈ pieces →
      ∀ action, (Statement.ofTokens (first :: rest)).action first.line = .ok action →
      ∀ before later : Reader, before.Sound → before.act first.line action = .ok later →
      good before → good later)
    (done : reader.run pieces = .ok after) (start : good reader) : after.Sound ∧ good after := by
  induction pieces generalizing reader with
  | nil =>
    obtain rfl := Except.ok.inj done
    exact ⟨sound, start⟩
  | cons tokens others hyp =>
    obtain ⟨middle, accepted, later⟩ := exists_of_bind_ok done
    refine hyp (sound.statement accepted)
      (fun first rest member => keeps first rest (List.mem_cons_of_mem _ member)) later ?_
    cases tokens with
    | nil =>
      obtain rfl := Except.ok.inj accepted
      exact start
    | cons first rest =>
      obtain ⟨action, asks, acts⟩ := exists_of_bind_ok accepted
      exact keeps first rest List.mem_cons_self action asks reader middle sound acts start

/-- What was read since the last semicolon belongs to the first piece. -/
theorem run_of_statements {pending tokens : List Located}
    (done : reader.statements pending tokens = .ok after) :
    reader.run (tokens.splitOnPPrepend Located.endsStatement pending) = .ok after := by
  fun_induction Reader.statements reader pending tokens with
  | case1 reader pending none =>
    obtain rfl := Except.ok.inj done
    rw [List.splitOnPPrepend_nil, none]
    rfl
  | case2 => cases done
  | case3 reader pending line rest hyp =>
    obtain ⟨middle, first, later⟩ := exists_of_bind_ok done
    rw [List.splitOnPPrepend_cons_pos rfl, run, List.foldlM_cons, first]
    exact hyp middle later
  | case4 reader pending token rest other hyp =>
    have inside : token.endsStatement = false := by
      obtain ⟨token, line⟩ := token
      cases token with
      | semicolon => exact absurd rfl (other line)
      | number | name | relation | plus | minus | colon | comma => rfl
    rw [List.splitOnPPrepend_cons_neg inside]
    exact hyp done

end Reader

/-- **A text is read by taking its pieces**, one after the other. -/
theorem exists_run_of_parse {text : String} {problem : Problem} (read : parse text = .ok problem) :
    ∃ tokens reader, scan 1 text.toList = .ok tokens ∧ Reader.run {} (pieces tokens) = .ok reader
      ∧ reader.problem = problem := by
  obtain ⟨tokens, scanned, read⟩ := exists_of_bind_ok read
  obtain ⟨reader, done, read⟩ := exists_of_bind_ok read
  exact ⟨tokens, reader, scanned, Reader.run_of_statements done, Except.ok.inj read⟩

end LinearProgram.Lp
