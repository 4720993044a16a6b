/-
**Blanks and words.**

A character is blank when the Unicode property of white space holds of it: the controls from tab to
carriage return, the spaces of every width, and the separators of lines and paragraphs. The
zero-width characters are not blank. A word is a longest run of characters that are not blank.

* `isBlank`: the property.
* `words`: the words of a text in order.
-/

namespace LinearProgram.Text

/-- Whether the character is white space in the sense of Unicode. -/
def isBlank (character : Char) : Bool :=
  let code := character.toNat
  (0x9 ≤ code && code ≤ 0xD) || code == 0x20 || code == 0x85 || code == 0xA0 || code == 0x1680 ||
    (0x2000 ≤ code && code ≤ 0x200A) || code == 0x2028 || code == 0x2029 || code == 0x202F ||
    code == 0x205F || code == 0x3000

/-- Every blank that core knows is blank. -/
theorem isBlank_of_isWhitespace {character : Char} (space : character.isWhitespace = true) :
    isBlank character = true := by
  simp only [Char.isWhitespace, Bool.or_eq_true, decide_eq_true_eq] at space
  rcases space with ((rfl | rfl) | rfl) | rfl <;> rfl

/-- **The words of a text**: its longest runs of characters that are not blank, in order. -/
def words : List Char → List (List Char)
  | [] => []
  | character :: rest =>
    if isBlank character then words rest
    else
      match rest, words rest with
      | next :: _, word :: others =>
        if isBlank next then [character] :: word :: others else (character :: word) :: others
      | _, others => [character] :: others

end LinearProgram.Text
