import Waypost.Text.Hex
import Waypost.Text.Utf8

/-!
# Encodings of documents

A document comes as bytes. Its encoding shows in the first of them: by a mark, or by where the zero
bytes of its first characters stand.

* `Encoding` and `Encoding.detect` -- the encodings, and the one of some bytes;
* `DecodeFault` -- bytes that are no text, with their place;
* `decodeText` -- the text of some bytes. Half of a surrogate pair may stand alone in it.
-/

namespace Waypost.Text

/-! ## 1. Encodings -/

/-- The encodings of documents; all but the first come with the less or the more significant byte
    in front. -/
inductive Encoding where
  | utf8
  | utf16 (lessFirst : Bool)
  | utf32 (lessFirst : Bool)
  deriving DecidableEq, Repr

/-- The name of an encoding. -/
def Encoding.name : Encoding → String
  | .utf8 => "utf-8"
  | .utf16 lessFirst => if lessFirst then "utf-16-le" else "utf-16-be"
  | .utf32 lessFirst => if lessFirst then "utf-32-le" else "utf-32-be"

/-- The encoding of some bytes, and how many bytes its mark takes. -/
def Encoding.detect : List Nat → Encoding × Nat
  | 0 :: 0 :: 0xFE :: 0xFF :: _ => (.utf32 false, 4)
  | 0xFF :: 0xFE :: 0 :: 0 :: _ => (.utf32 true, 4)
  | 0xFE :: 0xFF :: _ => (.utf16 false, 2)
  | 0xFF :: 0xFE :: _ => (.utf16 true, 2)
  | 0xEF :: 0xBB :: 0xBF :: _ => (.utf8, 3)
  | 0 :: b :: _ :: _ :: _ => (if b = 0 then .utf32 false else .utf16 false, 0)
  | _ :: 0 :: c :: d :: _ => (if c = 0 && d = 0 then .utf32 true else .utf16 true, 0)
  | [0, _] => (.utf16 false, 0)
  | [_, 0] => (.utf16 true, 0)
  | _ => (.utf8, 0)

/-! ## 2. Faults -/

/-- Why bytes are no text. -/
inductive DecodeReason where
  | truncated
  | outOfRange
  | startByte
  | continuationByte
  | endOfData
  deriving DecidableEq, Repr

/-- The wording of a reason. -/
def DecodeReason.message : DecodeReason → String
  | .truncated => "truncated data"
  | .outOfRange => "code point not in range(0x110000)"
  | .startByte => "invalid start byte"
  | .continuationByte => "invalid continuation byte"
  | .endOfData => "unexpected end of data"

/-- Bytes that are no text: how many there are, the first of them, and where it stands. -/
structure DecodeFault where
  encoding : Encoding
  reason : DecodeReason
  first : Nat
  start : Nat
  count : Nat
  deriving DecidableEq, Repr

/-- The wording of a fault. -/
def DecodeFault.message (fault : DecodeFault) : String :=
  let place :=
    if fault.count = 1 then
      "byte 0x" ++ String.ofList (hexDigits 2 fault.first) ++ s!" in position {fault.start}"
    else s!"bytes in position {fault.start}-{fault.start + fault.count - 1}"
  "'" ++ fault.encoding.name ++ "' codec can't decode " ++ place ++ ": " ++ fault.reason.message

/-! ## 3. Code units -/

/-- The number of some bytes. -/
def bytesNumber (lessFirst : Bool) (bytes : List Nat) : Nat :=
  (if lessFirst then bytes.reverse else bytes).foldl (fun n b => n * 256 + b) 0

/-- The code points of code units: two that form a surrogate pair are one code point. -/
def unitPoints : List Nat → List Nat
  | [] => []
  | high :: low :: rest =>
    match pairPoint? high low with
    | some n => n :: unitPoints rest
    | none => high :: unitPoints (low :: rest)
  | [unit] => [unit]

/-- The code units of two bytes each. The bytes begin at an index. -/
def units16 (lessFirst : Bool) (index : Nat) : List Nat → Except DecodeFault (List Nat)
  | [] => .ok []
  | [b] => .error ⟨.utf16 lessFirst, .truncated, b, index, 1⟩
  | a :: b :: rest => do
    return bytesNumber lessFirst [a, b] :: (← units16 lessFirst (index + 2) rest)

/-- The code points of four bytes each. The bytes begin at an index. -/
def points32 (lessFirst : Bool) (index : Nat) : List Nat → Except DecodeFault (List Nat)
  | a :: b :: c :: d :: rest =>
    let point := bytesNumber lessFirst [a, b, c, d]
    if 0x110000 ≤ point then .error ⟨.utf32 lessFirst, .outOfRange, a, index, 4⟩
    else do return point :: (← points32 lessFirst (index + 4) rest)
  | [] => .ok []
  | a :: rest => .error ⟨.utf32 lessFirst, .truncated, a, index, rest.length + 1⟩

/-! ## 4. Bytes -/

/-- A character that has begun: where, its first byte, its bits so far, and how many bytes were
    read and are still needed. -/
structure Begun where
  start : Nat
  first : Nat
  bits : Nat
  seen : Nat
  missing : Nat

/-- The fault of a character that does not go on. Behind the first byte of a surrogate only that
    byte is blamed. -/
def Begun.broken (p : Begun) (reason : DecodeReason) : DecodeFault :=
  if p.first = 0xED && 2 ≤ p.seen && 0x20 ≤ p.bits % 0x40 && p.missing = 1 then
    ⟨.utf8, .continuationByte, p.first, p.start, 1⟩
  else ⟨.utf8, reason, p.first, p.start, p.seen⟩

/-- Whether a byte may stand behind the beginning of a character. -/
def Begun.allows (p : Begun) (b : Nat) : Bool :=
  let (low, high) :=
    if p.seen != 1 || p.first = 0xED then (0x80, 0xBF)
    else
      match leadByte? p.first with
      | some (_, low, high, _) => (low, high)
      | none => (0x80, 0xBF)
  low ≤ b && b ≤ high

/-- The code points of bytes from an index on, behind the beginning of a character if there is
    one. -/
def points8 (begun : Option Begun) (index : Nat) : List Nat → Except DecodeFault (List Nat)
  | [] =>
    match begun with
    | some p => .error (p.broken .endOfData)
    | none => .ok []
  | b :: rest =>
    match begun with
    | some p =>
      if !p.allows b then .error (p.broken .continuationByte)
      else
        let bits := p.bits * 0x40 + (b - 0x80)
        if p.missing = 1 then do return bits :: (← points8 none (index + 1) rest)
        else
          points8 (some { p with bits, seen := p.seen + 1, missing := p.missing - 1 }) (index + 1)
            rest
    | none =>
      if b < 0x80 then do return b :: (← points8 none (index + 1) rest)
      else
        match leadByte? b with
        | some (missing, _, _, bits) => points8 (some ⟨index, b, bits, 1, missing⟩) (index + 1) rest
        | none => .error ⟨.utf8, .startByte, b, index, 1⟩

/-- The code points of some bytes. A mark in front is no part of the text. -/
def decodePoints (bytes : List Nat) : Except DecodeFault (List Nat) :=
  match Encoding.detect bytes with
  | (.utf8, mark) => points8 none 0 (bytes.drop mark)
  | (.utf16 lessFirst, mark) => do return unitPoints (← units16 lessFirst mark (bytes.drop mark))
  | (.utf32 lessFirst, mark) => points32 lessFirst mark (bytes.drop mark)

/-- The characters that hold the text of some bytes. -/
def decodeText (bytes : List Nat) : Except DecodeFault (List Char) := do
  return (← decodePoints bytes).flatMap heldPoint

end Waypost.Text
