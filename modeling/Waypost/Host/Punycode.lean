/-!
# Host names in ASCII

A label with letters beyond ASCII is written with the ASCII characters it holds, followed by
instructions that insert the others: each instruction is a number in digits of a variable base, and
counts the places and code points to be passed over.

* `Punycode.encode` -- the ASCII form of a label;
* `Punycode.decode?` -- the label of an ASCII form, in either letter case.
-/

namespace Waypost.Punycode

/-! ## 1. Digits -/

/-- The base of the digits. -/
def base : Nat := 36

/-- The digit of a value below the base: letters first. -/
def digit (value : Nat) : Char :=
  if value < 26 then Char.ofNat (97 + value) else Char.ofNat (22 + value)

/-- The value of a digit. -/
def digitValue? (c : Char) : Option Nat :=
  if 'a' ≤ c && c ≤ 'z' then some (c.toNat - 97)
  else if 'A' ≤ c && c ≤ 'Z' then some (c.toNat - 65)
  else if c.isDigit then some (c.toNat - 22)
  else none

/-- The least value of the digit at an index that does not end its number. -/
def threshold (bias index : Nat) : Nat := max 1 (min 26 (base * (index + 1) - bias))

/-- How often a number is divided by 35 until it is at most 455, and what is left of it. -/
def shrink (n : Nat) : Nat × Nat :=
  if 455 < n then
    let (times, rest) := shrink (n / 35)
    (times + 1, rest)
  else (0, n)
termination_by n
decreasing_by omega

/-- The bias after a number, when so many characters are there now. -/
def nextBias (number count : Nat) (first : Bool) : Nat :=
  let damped := if first then number / 700 else number / 2
  let (times, rest) := shrink (damped + damped / count)
  base * times + base * rest / (rest + 38)

/-- The digits of a number from an index on. -/
def numberDigits (bias index number : Nat) : List Char :=
  let least := threshold bias index
  if number < least then [digit number]
  else
    digit (least + (number - least) % (base - least))
      :: numberDigits bias (index + 1) ((number - least) / (base - least))
termination_by number
decreasing_by
  have : 1 ≤ least := Nat.le_max_left _ _
  calc (number - least) / (base - least) ≤ number - least := Nat.div_le_self _ _
    _ < number := by omega

/-! ## 2. Writing -/

/-- What a writer knows: the number to be written next, the bias, how many characters are there
    already, and the digits so far in reverse. -/
structure Writer where
  number : Nat
  bias : Nat
  count : Nat
  digits : List Char

/-- Passes one character of the label while code points below the given one are there already. -/
def Writer.pass (ascii point : Nat) (w : Writer) (c : Char) : Writer :=
  if c.toNat < point then { w with number := w.number + 1 }
  else if c.toNat = point then
    { number := 0
      bias := nextBias w.number (w.count + 1) (w.count == ascii)
      count := w.count + 1
      digits := (numberDigits w.bias 0 w.number).reverse ++ w.digits }
  else w

/-- Inserts every copy of one code point; the other argument is the one behind the last inserted. -/
def Writer.insert (label : List Char) (ascii : Nat) (state : Writer × Nat) (point : Nat) :
    Writer × Nat :=
  let (w, next) := state
  let w := { w with number := w.number + (point - next) * (w.count + 1) }
  let w := label.foldl (Writer.pass ascii point) w
  ({ w with number := w.number + 1 }, point + 1)

/-- The ASCII form of a label. -/
def encode (label : List Char) : List Char :=
  let ascii := label.filter fun c => c.toNat < 128
  let points := ((label.map (·.toNat)).filter (128 ≤ ·)).mergeSort.eraseDups
  let start : Writer := ⟨0, 72, ascii.length, []⟩
  let written := (points.foldl (Writer.insert label ascii.length) (start, 128)).1.digits.reverse
  ascii ++ (if ascii.isEmpty then [] else ['-']) ++ written

/-! ## 3. Reading -/

/-- What a reader knows: the characters so far, the code point of the last insertion and the place
    behind it, the bias, whether nothing was inserted yet, and of the number that is being read its
    value and the weight and the index of its next digit. -/
structure Reader where
  label : List Char
  point : Nat
  place : Nat
  bias : Nat
  first : Bool := true
  number : Nat := 0
  weight : Nat := 1
  index : Nat := 0

/-- Inserts the character that a complete number stands for. -/
def Reader.insert? (r : Reader) (number : Nat) : Option Reader :=
  let count := r.label.length + 1
  let total := r.place + number
  let point := r.point + total / count
  if point.isValidChar then
    some {
      label := r.label.insertIdx (total % count) (Char.ofNat point)
      point, place := total % count + 1
      bias := nextBias number count r.first, first := false }
  else none

/-- Reads one digit. -/
def Reader.step? (r : Reader) (c : Char) : Option Reader := do
  let value ← digitValue? c
  let number := r.number + value * r.weight
  let least := threshold r.bias r.index
  if value < least then r.insert? number
  else
    return { r with number, weight := r.weight * (base - least), index := r.index + 1 }

/-- The characters in front of the last hyphen, and those behind it. -/
def cut (cs : List Char) : List Char × List Char :=
  match cs.reverse.span (· != '-') with
  | (behind, _ :: front) => (front.reverse, behind.reverse)
  | _ => ([], cs)

/-- The label of an ASCII form. The last number has to be complete. -/
def decode? (cs : List Char) : Option (List Char) := do
  let (ascii, digits) := cut cs
  let r ← digits.foldlM Reader.step? { label := ascii, point := 128, place := 0, bias := 72 }
  if r.index = 0 then some r.label else none

end Waypost.Punycode
