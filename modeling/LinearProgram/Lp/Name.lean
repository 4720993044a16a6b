/-
**Names in the LP format.**

A name starts with a letter of any script or with one of a dozen signs, and goes on with these,
with ASCII digits and with points. A word that opens an objective cannot name a row, because a row
name stands before a colon just as such a word does.

* `isName`: the names of columns.
* `isRowName`: the names of rows.
* `objectiveSense?`: the words that open an objective, and whether they ask for the maximum.
  `objectiveWords`: these words. `isRowName_iff`: no row can have one as its name.
* `Section`: the words that open a declaration.
-/

import LinearProgram.Text.Alphabetic

namespace LinearProgram.Lp

/-- The signs that a name may contain anywhere. -/
def nameSigns : List Char :=
  ['_', '[', ']', '\x7b', '\x7d', '&', '#', '$', '%', '~', '\x27', '@', '^']

/-- Whether a name may start with the character. -/
def isNameStart (character : Char) : Bool :=
  Text.isAlphabetic character || nameSigns.contains character

/-- Whether the character may stand inside a name. -/
def isNameCharacter (character : Char) : Bool :=
  isNameStart character || character.isDigit || character == '.'

/-- Whether the text is a name. -/
def isName (text : String) : Bool :=
  match text.toList with
  | [] => false
  | first :: rest => isNameStart first && rest.all isNameCharacter

/-- Whether the word opens an objective, in any letter case, and then whether the objective is to
be maximized. -/
def objectiveSense? (word : String) : Option Bool :=
  match String.ofList (word.toList.map Char.toLower) with
  | "max" | "maximize" | "maximise" | "maximum" => some true
  | "min" | "minimize" | "minimise" | "minimum" => some false
  | _ => none

/-- The words that open an objective, in lower case. -/
def objectiveWords : List String :=
  ["max", "maximize", "maximise", "maximum", "min", "minimize", "minimise", "minimum"]

/-- Whether the text can name a row. -/
def isRowName (text : String) : Bool :=
  isName text && !objectiveWords.contains (String.ofList (text.toList.map Char.toLower))

theorem objectiveSense?_eq_none_iff {word : String} :
    objectiveSense? word = none
      ↔ String.ofList (word.toList.map Char.toLower) ∉ objectiveWords := by
  unfold objectiveSense?
  generalize String.ofList (word.toList.map Char.toLower) = lower
  split
  case h_9 => exact iff_of_true rfl (by simp_all [objectiveWords])
  -- The other cases are the words, one by one.
  all_goals exact iff_of_false nofun (not_not_intro (by decide))

/-- **The names of rows** are the names that open no objective. -/
theorem isRowName_iff {name : String} :
    isRowName name = true ↔ isName name = true ∧ objectiveSense? name = none := by
  rw [objectiveSense?_eq_none_iff, isRowName, Bool.and_eq_true, Bool.not_eq_true',
    List.contains_eq_mem, decide_eq_false_iff_not]

/-- What a declaration says about its columns. -/
inductive Section where
  | integer
  | binary
  | free
  deriving DecidableEq, Repr

/-- The word that opens the declaration. -/
def Section.word : Section → String
  | integer => "int"
  | binary => "bin"
  | free => "free"

/-- The declaration that a word opens, in any letter case. -/
def section? (word : String) : Option Section :=
  match String.ofList (word.toList.map Char.toLower) with
  | "int" => some .integer
  | "bin" => some .binary
  | "free" => some .free
  | _ => none

end LinearProgram.Lp
