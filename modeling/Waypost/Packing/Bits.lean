/-!
# Packed data as bits

Packed data is read bit by bit, from the least significant bit of each byte on. Reading stops where
the data ends or where it is broken.

* `UnpackFault` -- the ways in which packed data is broken, each with its wording;
* `Stop` -- why reading stopped;
* `Reading` -- a computation that reads bits;
* `readNumber` -- the number of some bits.
-/

namespace Waypost.Packing

/-- How packed data is broken. -/
inductive UnpackFault where
  | header
  | method
  | window
  | headerFlags
  | headerCheck
  | dictionary
  | blockType
  | storedLength
  | tooManySymbols
  | codeLengths
  | repeatedLength
  | missingEnd
  | literalLengths
  | distanceLengths
  | literalCode
  | distanceCode
  | distance
  | dataCheck
  | lengthCheck
  deriving DecidableEq, Repr

/-- What is wrong with broken data. A dictionary that is not at hand is no fault of the data. -/
def UnpackFault.reason? : UnpackFault → Option String
  | .dictionary => none
  | .header => some "incorrect header check"
  | .method => some "unknown compression method"
  | .window => some "invalid window size"
  | .headerFlags => some "unknown header flags set"
  | .headerCheck => some "header crc mismatch"
  | .blockType => some "invalid block type"
  | .storedLength => some "invalid stored block lengths"
  | .tooManySymbols => some "too many length or distance symbols"
  | .codeLengths => some "invalid code lengths set"
  | .repeatedLength => some "invalid bit length repeat"
  | .missingEnd => some "invalid code -- missing end-of-block"
  | .literalLengths => some "invalid literal/lengths set"
  | .distanceLengths => some "invalid distances set"
  | .literalCode => some "invalid literal/length code"
  | .distanceCode => some "invalid distance code"
  | .distance => some "invalid distance too far back"
  | .dataCheck => some "incorrect data check"
  | .lengthCheck => some "incorrect length check"

/-- The wording of a fault. -/
def UnpackFault.message (fault : UnpackFault) : String :=
  match fault.reason? with
  | some reason => "Error -3 while decompressing data: " ++ reason
  | none => "Error 2 while decompressing data"

/-- Why reading stopped. -/
inductive Stop where
  | ended
  | broken (why : UnpackFault)
  deriving DecidableEq, Repr

/-- Bits that are still to be read. -/
abbrev Bits := List Bool

/-- The bits of a byte. -/
def byteBits (b : Nat) : Bits := (List.range 8).map b.testBit

/-- The bits of some bytes. -/
def bytesBits (bytes : List Nat) : Bits := bytes.flatMap byteBits

/-- A computation that reads bits. -/
abbrev Reading := StateT Bits (Except Stop)

/-- One bit. -/
def readBit : Reading Bool := do
  match ← get with
  | [] => throw .ended
  | b :: rest =>
    set rest
    return b

/-- The number of some bits, of which the least significant comes first. -/
def readNumber : Nat → Reading Nat
  | 0 => return 0
  | count + 1 => do
    let bit ← readBit
    return bit.toNat + 2 * (← readNumber count)

/-- Skips the bits up to the next byte. -/
def skipToByte : Reading Unit := modify fun bits => bits.drop (bits.length % 8)

/-- A broken place. -/
def broken (why : UnpackFault) : Reading α := throw (.broken why)

end Waypost.Packing
