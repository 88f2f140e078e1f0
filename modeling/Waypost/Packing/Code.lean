import Waypost.Packing.Bits

/-!
# Prefix codes

A prefix code gives each symbol a row of bits. The lengths of the rows settle them: shorter rows
come before longer ones, and rows of one length are in the order of their symbols.

* `Code` and `Code.of` -- a code, and the one of some lengths;
* `Coverage` -- whether lengths leave rows unused, use each exactly once, or too many of them;
* `readSymbol` -- the next symbol, if its row belongs to one.
-/

namespace Waypost.Packing

/-- A code: the symbols of each length, from one on. -/
abbrev Code := List (List Nat)

/-- The greatest of some lengths. -/
def longest (lengths : List Nat) : Nat := lengths.foldl max 0

/-- The symbols of one length. Symbols count the lengths from zero on. -/
def symbolsOf (lengths : List Nat) (length : Nat) : List Nat :=
  (lengths.zipIdx.filter fun entry => entry.1 = length).map (·.2)

/-- The code of some lengths; a symbol of length zero has no row. -/
def Code.of (lengths : List Nat) : Code :=
  (List.range (max 1 (longest lengths))).map fun i => symbolsOf lengths (i + 1)

/-- How lengths cover the rows of bits. -/
inductive Coverage where
  | incomplete
  | complete
  | excessive
  deriving DecidableEq, Repr

/-- The coverage of a code, where some rows of the present length are free. -/
def coverageFrom (free : Nat) : Code → Coverage
  | [] => if free = 0 then .complete else .incomplete
  | symbols :: longer =>
    if 2 * free < symbols.length then .excessive
    else coverageFrom (2 * free - symbols.length) longer

/-- The coverage of some lengths. -/
def coverage (lengths : List Nat) : Coverage := coverageFrom 1 (Code.of lengths)

/-- Whether lengths are those of a code: they cover each row exactly once, or there are none at all,
    or, where that is allowed, only one row of one bit is used. -/
def isCode (oneAllowed : Bool) (lengths : List Nat) : Bool :=
  match coverage lengths with
  | .complete => true
  | .excessive => false
  | .incomplete => longest lengths = 0 || (oneAllowed && longest lengths = 1)

/-- The next symbol. The first two arguments are the row so far as a number, and the first row of
    its length that is not used by shorter ones. -/
def readSymbolFrom (row first : Nat) : Code → Reading (Option Nat)
  | [] => return none
  | symbols :: longer => do
    let row := 2 * row + (← readBit).toNat
    let first := 2 * first
    if row < first + symbols.length then return symbols[row - first]?
    else readSymbolFrom row (first + symbols.length) longer

/-- The next symbol; nothing for a row that no symbol has. -/
def readSymbol (code : Code) : Reading (Option Nat) := readSymbolFrom 0 0 code

end Waypost.Packing
