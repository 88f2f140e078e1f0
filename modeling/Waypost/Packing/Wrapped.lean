import Waypost.Packing.Inflate

/-!
# Packed data in a wrapper

A wrapper is a header in front of packed data and a check behind it. There are two kinds: a short
one whose check is a pair of sums, and that of a packed file, with a remainder and a length. A check
that is cut off is not looked at.

* `pairedSums` and `remainder` -- the two checks of bytes;
* `unpackShort`, `unpackFile` and `unpackBare` -- the bytes of packed data with the short wrapper,
  with the one of a file, and without any.
-/

namespace Waypost.Packing

/-! ## 1. Checks of bytes -/

/-- The modulus of the pair of sums. -/
def sumModulus : Nat := 65521

/-- The sum of some bytes, and the sum of those sums on the way, as one number. -/
def pairedSums (bytes : Array Nat) : Nat :=
  let (low, high) := bytes.foldl (fun (low, high) b =>
    let low := (low + b) % sumModulus
    (low, (high + low) % sumModulus)) (1, 0)
  high * 0x10000 + low

/-- One step of the division of bits. -/
def remainderStep (n : Nat) : Nat :=
  if n % 2 = 0 then n / 2 else (n / 2) ^^^ 0xEDB88320

/-- The remainder of some bytes, as a row of bits, by the customary polynomial of degree 32. -/
def remainder (bytes : List Nat) : Nat :=
  bytes.foldl (fun n b => (List.range 8).foldl (fun n _ => remainderStep n) (n ^^^ b)) 0xFFFFFFFF
    ^^^ 0xFFFFFFFF

/-! ## 2. Headers -/

/-- The number of some bytes, of which the most significant comes first. -/
def readBigNumber (count : Nat) : Reading Nat :=
  (List.range count).foldlM (fun n _ => do return n * 256 + (← readNumber 8)) 0

/-- Reads the short header: its check, the method, the size of the window, and whether the data
    needs a dictionary, which there never is. -/
def readShortHeader : Reading Unit := do
  let first ← readNumber 8
  let second ← readNumber 8
  if (first * 256 + second) % 31 != 0 then broken .header
  if first % 16 != 8 then broken .method
  if 7 < first / 16 then broken .window
  if second.testBit 5 then do
    let _ ← readNumber 32
    broken .dictionary

/-- Skips a text in a header, up to the zero at its end. Each step reads a byte. -/
def skipText : Nat → Reading Unit
  | 0 => throw .ended
  | steps + 1 => do
    if (← readNumber 8) != 0 then skipText steps

/-- Skips a text that a header may hold. -/
def skipOptionalText (present : Bool) : Reading Unit := do
  if present then skipText (← get).length

/-- Reads the header of a file: its mark, the method, flags, and the parts that the flags announce.
    With one of them the header has a check of its own. -/
def readFileHeader : Reading Unit := do
  let start ← get
  if (← readNumber 16) != 0x8B1F then broken .header
  let method ← readNumber 8
  let flags ← readNumber 8
  if method != 8 then broken .method
  if 0x20 ≤ flags then broken .headerFlags
  let _ ← readNumber 48
  if flags.testBit 2 then do
    let size ← readNumber 16
    let _ ← readNumber (8 * size)
  skipOptionalText (flags.testBit 3)
  skipOptionalText (flags.testBit 4)
  if flags.testBit 1 then do
    let read := start.take (start.length - (← get).length)
    let bytes := (List.range (read.length / 8)).map fun i =>
      ((read.drop (8 * i)).take 8).foldr (fun bit n => bit.toNat + 2 * n) 0
    if (← readNumber 16) != remainder bytes % 0x10000 then broken .headerCheck

/-! ## 3. Data -/

/-- Reads the check behind bytes of the short wrapper. -/
def readShortCheck (bytes : Array Nat) : Reading Unit := do
  skipToByte
  if (← readBigNumber 4) != pairedSums bytes then broken .dataCheck

/-- Reads the checks behind the bytes of a file. -/
def readFileCheck (bytes : Array Nat) : Reading Unit := do
  skipToByte
  if (← readNumber 32) != remainder bytes.toList then broken .dataCheck
  if (← readNumber 32) != bytes.size % 0x100000000 then broken .lengthCheck

/-- The bytes of what was unpacked, with what is checked behind it. Data that is cut off is no
    fault. -/
def Unpacked.checked (unpacked : Unpacked) (check : Array Nat → Reading Unit) :
    Except UnpackFault (List Nat) :=
  let stop :=
    match unpacked.rest with
    | .error stop => some stop
    | .ok rest =>
      match check unpacked.bytes rest with
      | .error stop => some stop
      | .ok _ => none
  match stop with
  | some (.broken why) => .error why
  | _ => .ok unpacked.bytes.toList

/-- Unpacks data behind a header. -/
def unpackBehind (header : Reading Unit) (check : Array Nat → Reading Unit) (bytes : List Nat) :
    Except UnpackFault (List Nat) :=
  match header (bytesBits bytes) with
  | .error .ended => .ok []
  | .error (.broken why) => .error why
  | .ok (_, rest) => (inflate rest).checked check

/-- The bytes of packed data with the short wrapper. -/
def unpackShort (bytes : List Nat) : Except UnpackFault (List Nat) :=
  unpackBehind readShortHeader readShortCheck bytes

/-- The bytes of a packed file. -/
def unpackFile (bytes : List Nat) : Except UnpackFault (List Nat) :=
  unpackBehind readFileHeader readFileCheck bytes

/-- The bytes of packed data without a wrapper. -/
def unpackBare (bytes : List Nat) : Except UnpackFault (List Nat) :=
  unpackBehind (pure ()) (fun _ => pure ()) bytes

end Waypost.Packing
