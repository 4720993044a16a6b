/-
**Names are what is read back as names.**

Whether a text is a name is decided by its characters, and whether it can name a row by its letters
in lower case. Both agree with what scanning and reading make of the text: a name is what is scanned
as one token of that name, and a name can name a row if it does so in front of a colon, whatever
follows. The words that open a declaration can, for a declaration has no colon behind its first word.

* `isName_of_scan`: a token that is a name has one.
* `scan_heading`: a name and a colon in front of any text.
* `ofTokens_heading`: what a statement is that begins with a name and a colon.
* **`names_readBack`**: the two kinds of names and what they are read back as.
-/

import LinearProgram.Lp.Reader
import LinearProgram.Proofs.Lp.Names
import LinearProgram.Proofs.Lp.Scanning

namespace LinearProgram.Lp

/-! ### Names as tokens -/

theorem isName_of_scan {line : Nat} {text : List Char} {name : String} {tokens : List Located}
    (scanned : scan line text = .ok tokens) (member : .name name ∈ tokens.map (·.token)) :
    isName name = true := by
  obtain ⟨located, here, same⟩ := List.mem_map.mp member
  exact scan_named scanned located here name same

/-- A name in front of what ends it. -/
theorem scan_name (line : Nat) {name : String} {rest : List Char} (isName : isName name = true)
    (ends : Ends rest) :
    scan line (name.toList ++ rest) = (scan line rest).map (⟨.name name, line⟩ :: ·) := by
  rw [scan_eq, step_name line isName ends]

theorem scan_colon (line : Nat) (rest : List Char) :
    scan line (':' :: rest) = (scan line rest).map (⟨.colon, line⟩ :: ·) := by
  rw [scan_eq, step_operator line (by decide) rfl]

/-- **A name and a colon in front of any text**, be it scanned or at fault. -/
theorem scan_heading (line : Nat) {name : String} (isName : isName name = true)
    (rest : List Char) :
    scan line (name.toList ++ ':' :: rest)
      = (scan line rest).map fun body => ⟨.name name, line⟩ :: ⟨.colon, line⟩ :: body := by
  have ends : Ends (':' :: rest) := by
    rintro character ⟨⟩
    decide
  rw [scan_name line isName ends, scan_colon]
  cases scan line rest with
  | error failure => rfl
  | ok body => rfl

/-! ### Names in front of a colon -/

/-- **What a statement is that begins with a name and a colon**, by the name alone. -/
theorem ofTokens_heading (name : String) (line colonLine : Nat) (body : List Located) :
    Statement.ofTokens (⟨.name name, line⟩ :: ⟨.colon, colonLine⟩ :: body)
      = match objectiveSense? name with
        | some maximize => .objective maximize body
        | none => .constraint (some name) body :=
  rfl

section Headings

variable {name : String}

/-- The names of rows make a constraint of whatever follows the colon, -/
theorem isRowName_iff_constraint (isName : isName name = true) :
    isRowName name = true ↔ ∀ line colonLine body,
      Statement.ofTokens (⟨.name name, line⟩ :: ⟨.colon, colonLine⟩ :: body)
        = .constraint (some name) body := by
  simp only [isRowName_iff, isName, true_and, ofTokens_heading]
  constructor
  · intro none line colonLine body
    rw [none]
  · intro same
    have single := same 1 1 []
    cases sense : objectiveSense? name with
    | none => rfl
    | some maximize =>
      rw [sense] at single
      cases single

/-- and the others an objective. -/
theorem isRowName_eq_false_iff_objective (isName : isName name = true) :
    isRowName name = false ↔ ∃ maximize, ∀ line colonLine body,
      Statement.ofTokens (⟨.name name, line⟩ :: ⟨.colon, colonLine⟩ :: body)
        = .objective maximize body := by
  simp only [← Bool.not_eq_true, isRowName_iff, isName, true_and, ofTokens_heading]
  constructor
  · intro some
    obtain ⟨maximize, sense⟩ := Option.ne_none_iff_exists'.mp some
    refine ⟨maximize, fun line colonLine body => ?_⟩
    rw [sense]
  · rintro ⟨maximize, same⟩ none
    have single := same 1 1 []
    rw [none] at single
    cases single

end Headings

/-- **Names are what is read back as names.** A text is a name exactly if it is scanned as the one
token of that name, and also exactly if it stands for that token in front of a colon and any text. It
can name a row exactly if it is a name and every statement that begins with it and a colon is a
constraint on the row of that name. The other names make each such statement an objective. -/
theorem names_readBack (text : String) :
    (∀ line, isName text = true
        ↔ (scan line text.toList).map (·.map (·.token)) = .ok [.name text])
      ∧ (isName text = true ↔ ∀ line rest, scan line (text.toList ++ ':' :: rest)
        = (scan line rest).map fun body => ⟨.name text, line⟩ :: ⟨.colon, line⟩ :: body)
      ∧ (isRowName text = true ↔ isName text = true ∧ ∀ line colonLine body,
        Statement.ofTokens (⟨.name text, line⟩ :: ⟨.colon, colonLine⟩ :: body)
          = .constraint (some text) body)
      ∧ (isName text = true ∧ isRowName text = false ↔ isName text = true
        ∧ ∃ maximize, ∀ line colonLine body,
          Statement.ofTokens (⟨.name text, line⟩ :: ⟨.colon, colonLine⟩ :: body)
            = .objective maximize body) := by
  refine ⟨fun line => ⟨fun name => ?_, fun single => ?_⟩,
    ⟨fun name line rest => scan_heading line name rest, fun heading => ?_⟩, ?_,
    and_congr_right isRowName_eq_false_iff_objective⟩
  · have scanned : scan line (text.toList ++ []) = _ := scan_name line name nofun
    rw [List.append_nil, scan_eq line []] at scanned
    rw [scanned]
    rfl
  · cases scanned : scan line text.toList with
    | error failure =>
      rw [scanned] at single
      cases single
    | ok tokens =>
      rw [scanned] at single
      have same : tokens.map (·.token) = [.name text] := Except.ok.inj single
      exact isName_of_scan scanned (same ▸ List.mem_singleton_self _)
  · have scanned : scan 1 (text.toList ++ [':']) = .ok [⟨.name text, 1⟩, ⟨.colon, 1⟩] := by
      rw [heading 1 [], scan_eq]
      rfl
    exact isName_of_scan scanned List.mem_cons_self
  · constructor
    · intro rowName
      have name := (isRowName_iff.mp rowName).1
      exact ⟨name, (isRowName_iff_constraint name).mp rowName⟩
    · rintro ⟨name, same⟩
      exact (isRowName_iff_constraint name).mpr same

/-- A word that opens a declaration can name a row. -/
example : isRowName "free" = true ∧ isRowName "MAXIMUM" = false := by decide

end LinearProgram.Lp
