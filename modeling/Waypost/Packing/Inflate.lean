import Waypost.Packing.Code

/-!
# Unpacking

Packed data is a row of blocks. A block holds its bytes as they are, or as symbols of two codes: one
for bytes, lengths and the end of the block, one for distances. A length and a distance repeat
bytes that were unpacked before. The codes are fixed ones, or stand in front of the block.

* `Item` and `readItem` -- what the symbols of a block mean;
* `readCodes` -- the codes in front of a block;
* `inflate` -- unpacks all blocks. What was unpacked before the data ended is kept.
-/

namespace Waypost.Packing

/-! ## 1. Items -/

/-- What a block consists of. -/
inductive Item where
  | byte (value : Nat)
  | again (length distance : Nat)
  | finish
  deriving DecidableEq, Repr

/-- Numbers from a first one on, each with the bits that say how far away the next one is. -/
def spaced (first : Nat) : List Nat → List (Nat × Nat)
  | [] => []
  | bits :: rest => (first, bits) :: spaced (first + Nat.pow 2 bits) rest

/-- Least length and number of further bits of each symbol of a length. -/
def lengthBases : List (Nat × Nat) :=
  spaced 3 [0, 0, 0, 0, 0, 0, 0, 0, 1, 1, 1, 1, 2, 2, 2, 2, 3, 3, 3, 3, 4, 4, 4, 4, 5, 5, 5, 5]
    ++ [(258, 0)]

/-- Least distance and number of further bits of each symbol of a distance. -/
def distanceBases : List (Nat × Nat) :=
  spaced 1 [0, 0, 0, 0, 1, 1, 2, 2, 3, 3, 4, 4, 5, 5, 6, 6, 7, 7, 8, 8, 9, 9, 10, 10, 11, 11, 12,
    12, 13, 13]

/-- The number that a base and its further bits make. -/
def readFrom (base : Nat × Nat) : Reading Nat := do return base.1 + (← readNumber base.2)

/-- The two codes of a block. -/
structure Codes where
  literals : Code
  distances : Code

/-- The next item of a block. -/
def readItem (codes : Codes) : Reading Item := do
  let some symbol ← readSymbol codes.literals | broken .literalCode
  if symbol < 256 then return .byte symbol
  if symbol = 256 then return .finish
  let some base := lengthBases[symbol - 257]? | broken .literalCode
  let length ← readFrom base
  let some base := (← readSymbol codes.distances).bind (distanceBases[·]?) | broken .distanceCode
  return .again length (← readFrom base)

/-! ## 2. Codes -/

/-- The fixed codes. -/
def fixedCodes : Codes where
  literals := .of (List.replicate 144 8 ++ List.replicate 112 9 ++ List.replicate 24 7
    ++ List.replicate 8 8)
  distances := .of (List.replicate 32 5)

/-- The order in which the lengths of the code of lengths are written. -/
def lengthOrder : List Nat := [16, 17, 18, 0, 8, 7, 9, 6, 10, 5, 11, 4, 12, 3, 13, 2, 14, 1, 15]

/-- The lengths that one symbol of the code of lengths stands for, behind those that are known, the
    last of them in front. A code without symbols reads as zeros. -/
def readLength (code : Code) (known : List Nat) : Reading (List Nat) := do
  match (← readSymbol code).getD 0 with
  | 16 =>
    let extra ← readNumber 2
    match known with
    | [] => broken .repeatedLength
    | last :: _ => return List.replicate (3 + extra) last
  | 17 => return List.replicate (3 + (← readNumber 3)) 0
  | 18 => return List.replicate (11 + (← readNumber 7)) 0
  | length => return [length]

/-- So many lengths with those that are known, the last of them in front. Each step adds one at
    least, so as many steps as there are lengths are enough. -/
def readLengths (code : Code) (total : Nat) : Nat → List Nat → Reading (List Nat)
  | 0, known => return known
  | steps + 1, known => do
    if total ≤ known.length then return known
    let known := (← readLength code known) ++ known
    if total < known.length then broken .repeatedLength
    readLengths code total steps known

/-- The lengths of the code of lengths, of which some are written. -/
def readLengthCode (count : Nat) : Reading (List Nat) := do
  let written ← (List.range count).mapM fun _ => readNumber 3
  return (List.range 19).map fun symbol =>
    ((lengthOrder.zip written).lookup symbol).getD 0

/-- The codes in front of a block. -/
def readCodes : Reading Codes := do
  let literals := 257 + (← readNumber 5)
  let distances := 1 + (← readNumber 5)
  let count := 4 + (← readNumber 4)
  if 286 < literals || 30 < distances then broken .tooManySymbols
  let lengths ← readLengthCode count
  if !isCode false lengths then broken .codeLengths
  let total := literals + distances
  let lengths := (← readLengths (.of lengths) total total []).reverse
  if lengths[256]? = some 0 then broken .missingEnd
  if !isCode true (lengths.take literals) then broken .literalLengths
  if !isCode true (lengths.drop literals) then broken .distanceLengths
  return ⟨.of (lengths.take literals), .of (lengths.drop literals)⟩

/-! ## 3. Blocks -/

/-- What was unpacked, and the bits behind it or the reason why there are none. -/
structure Unpacked where
  bytes : Array Nat
  rest : Except Stop Bits

/-- Repeats bytes from a distance. -/
def again (distance : Nat) : Nat → Array Nat → Array Nat
  | 0, bytes => bytes
  | length + 1, bytes =>
    again distance length (bytes.push (bytes.getD (bytes.size - distance) 0))

/-- Unpacks the items of a block. Each of them takes a bit at least, so as many steps as there are
    bits are enough. -/
def inflateItems (codes : Codes) : Nat → Array Nat → Bits → Unpacked
  | 0, bytes, _ => ⟨bytes, .error .ended⟩
  | steps + 1, bytes, bits =>
    match readItem codes bits with
    | .error stop => ⟨bytes, .error stop⟩
    | .ok (.finish, rest) => ⟨bytes, .ok rest⟩
    | .ok (.byte b, rest) => inflateItems codes steps (bytes.push b) rest
    | .ok (.again length distance, rest) =>
      if bytes.size < distance then ⟨bytes, .error (.broken .distance)⟩
      else inflateItems codes steps (again distance length bytes) rest

/-- Takes bytes as they are. -/
def takeBytes : Nat → Array Nat → Bits → Unpacked
  | 0, bytes, bits => ⟨bytes, .ok bits⟩
  | count + 1, bytes, bits =>
    match readNumber 8 bits with
    | .error stop => ⟨bytes, .error stop⟩
    | .ok (b, rest) => takeBytes count (bytes.push b) rest

/-- How many bytes a block holds as they are. The number is written twice, once with each bit
    turned. -/
def readStoredLength : Reading Nat := do
  skipToByte
  let length ← readNumber 16
  let turned ← readNumber 16
  if length + turned != 0xFFFF then broken .storedLength
  return length

/-- Unpacks one block of a type. -/
def inflateBlock (type : Nat) (bytes : Array Nat) (bits : Bits) : Unpacked :=
  let items (codes : Codes) (bits : Bits) : Unpacked :=
    inflateItems codes bits.length bytes bits
  match type with
  | 0 =>
    match readStoredLength bits with
    | .ok (length, rest) => takeBytes length bytes rest
    | .error stop => ⟨bytes, .error stop⟩
  | 1 => items fixedCodes bits
  | 2 =>
    match readCodes bits with
    | .ok (codes, rest) => items codes rest
    | .error stop => ⟨bytes, .error stop⟩
  | _ => ⟨bytes, .error (.broken .blockType)⟩

/-- Whether a block is the last one, and its type. -/
def readBlockHead : Reading (Bool × Nat) := do
  let final ← readBit
  return (final, ← readNumber 2)

/-- Unpacks blocks up to the last one. Each of them takes a bit at least, so as many steps as there
    are bits are enough. -/
def inflateBlocks : Nat → Array Nat → Bits → Unpacked
  | 0, bytes, _ => ⟨bytes, .error .ended⟩
  | steps + 1, bytes, bits =>
    match readBlockHead bits with
    | .error stop => ⟨bytes, .error stop⟩
    | .ok ((final, type), rest) =>
      match inflateBlock type bytes rest with
      | ⟨bytes, .ok rest⟩ => if final then ⟨bytes, .ok rest⟩ else inflateBlocks steps bytes rest
      | stopped => stopped

/-- Unpacks blocks. -/
def inflate (bits : Bits) : Unpacked := inflateBlocks bits.length #[] bits

end Waypost.Packing
