/-
**Text from bytes.**

A UTF-8 character takes one to four bytes. The first byte fixes their number and the range of the
second byte, which shuts out overlong forms, surrogates and everything above `0x10FFFF`; the bytes
after it are continuation bytes.

* `firstCharacter?`: the character at the front of a row of bytes.
* `decode`: the text of all bytes, or the text before the first byte that no text can hold.
-/

namespace LinearProgram.Text

/-- Whether the byte continues a character. -/
def isContinuation (byte : UInt8) : Bool :=
  0x80 ≤ byte && byte ≤ 0xBF

/-- The six bits that a continuation byte carries. -/
def payload (byte : UInt8) : Nat :=
  byte.toNat % 0x40

/-- The bytes that may follow a first byte of a character of three or four bytes. -/
def admitsSecond (first second : UInt8) : Bool :=
  if first == 0xE0 then 0xA0 ≤ second && second ≤ 0xBF
  else if first == 0xED then 0x80 ≤ second && second ≤ 0x9F
  else if first == 0xF0 then 0x90 ≤ second && second ≤ 0xBF
  else if first == 0xF4 then 0x80 ≤ second && second ≤ 0x8F
  else isContinuation second

/-- **The character at the front of the bytes**, with the bytes behind it. -/
def firstCharacter? : List UInt8 → Option (Char × List UInt8)
  | [] => none
  | first :: rest =>
    if first ≤ 0x7F then
      some (Char.ofNat first.toNat, rest)
    else if 0xC2 ≤ first && first ≤ 0xDF then
      match rest with
      | second :: rest =>
        if isContinuation second then
          some (Char.ofNat (first.toNat % 0x20 * 0x40 + payload second), rest)
        else none
      | _ => none
    else if 0xE0 ≤ first && first ≤ 0xEF then
      match rest with
      | second :: third :: rest =>
        if admitsSecond first second && isContinuation third then
          some (Char.ofNat
            (first.toNat % 0x10 * 0x1000 + payload second * 0x40 + payload third), rest)
        else none
      | _ => none
    else if 0xF0 ≤ first && first ≤ 0xF4 then
      match rest with
      | second :: third :: fourth :: rest =>
        if admitsSecond first second && isContinuation third && isContinuation fourth then
          some (Char.ofNat (first.toNat % 0x8 * 0x40000 + payload second * 0x1000
            + payload third * 0x40 + payload fourth), rest)
        else none
      | _ => none
    else none

theorem firstCharacter?_length {bytes rest : List UInt8} {character : Char}
    (found : firstCharacter? bytes = some (character, rest)) : rest.length < bytes.length := by
  unfold firstCharacter? at found
  split at found
  · cases found
  · repeat' split at found
    all_goals cases found
    all_goals
      simp only [List.length_cons]
      omega

/-- **The text of the bytes.** Fails with the text before the first byte that cannot be read. -/
def decode (bytes : List UInt8) : Except (List Char) (List Char) :=
  match found : firstCharacter? bytes with
  | some (character, rest) =>
    have := firstCharacter?_length found
    match decode rest with
    | .ok text => .ok (character :: text)
    | .error valid => .error (character :: valid)
  | none => if bytes.isEmpty then .ok [] else .error []
termination_by bytes.length

end LinearProgram.Text
