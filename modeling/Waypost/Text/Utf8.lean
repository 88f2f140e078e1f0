import Waypost.Text.Point

/-!
# Characters as bytes

A character is written in one to four bytes.

* `utf8Bytes` and `textBytes` -- the bytes of a character, and of a text each character of which
  stands for itself;
* `decodeUtf8` -- the text of some bytes; bytes that are no character become the replacement
  character, one for each longest beginning of a character.
-/

namespace Waypost.Text

/-- The bytes of a character. -/
def utf8Bytes (c : Char) : List Nat :=
  let n := c.toNat
  if n < 0x80 then [n]
  else if n < 0x800 then [0xC0 + n / 0x40, 0x80 + n % 0x40]
  else if n < 0x10000 then [0xE0 + n / 0x1000, 0x80 + n / 0x40 % 0x40, 0x80 + n % 0x40]
  else [0xF0 + n / 0x40000, 0x80 + n / 0x1000 % 0x40, 0x80 + n / 0x40 % 0x40, 0x80 + n % 0x40]

/-- The bytes of a text each character of which stands for itself. -/
def textBytes (s : String) : List Nat := s.toList.flatMap utf8Bytes

/-- The character that stands for bytes that are none. -/
def replacement : Char := Char.ofNat 0xFFFD

/-- How many bytes follow a first byte, the range the second one must lie in, and the bits the
    first one contributes; nothing for a byte that begins no character. -/
def leadByte? (b : Nat) : Option (Nat × Nat × Nat × Nat) :=
  if 0xC2 ≤ b && b ≤ 0xDF then some (1, 0x80, 0xBF, b - 0xC0)
  else if b = 0xE0 then some (2, 0xA0, 0xBF, 0)
  else if b = 0xED then some (2, 0x80, 0x9F, 0xD)
  else if 0xE1 ≤ b && b ≤ 0xEF then some (2, 0x80, 0xBF, b - 0xE0)
  else if b = 0xF0 then some (3, 0x90, 0xBF, 0)
  else if 0xF1 ≤ b && b ≤ 0xF3 then some (3, 0x80, 0xBF, b - 0xF0)
  else if b = 0xF4 then some (3, 0x80, 0x8F, 4)
  else none

/-- Decodes bytes. The first three arguments describe a character that has begun: how many bytes it
    still needs, the range of the next one, and its bits so far. -/
def decodeFrom (missing low high bits : Nat) : List Nat → List Char
  | [] => if missing = 0 then [] else [replacement]
  | b :: rest =>
    if missing != 0 && low ≤ b && b ≤ high then
      let bits := bits * 0x40 + (b - 0x80)
      if missing = 1 then heldPoint bits ++ decodeFrom 0 0 0 0 rest
      else decodeFrom (missing - 1) 0x80 0xBF bits rest
    else
      let broken := if missing = 0 then [] else [replacement]
      if b < 0x80 then broken ++ Char.ofNat b :: decodeFrom 0 0 0 0 rest
      else
        match leadByte? b with
        | some (more, low, high, bits) => broken ++ decodeFrom more low high bits rest
        | none => broken ++ replacement :: decodeFrom 0 0 0 0 rest

/-- The characters that hold the text of some bytes. -/
def decodeUtf8 (bytes : List Nat) : List Char := decodeFrom 0 0 0 0 bytes

end Waypost.Text
