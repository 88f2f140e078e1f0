import Waypost.Decimal.Rounding

/-!
# The shortest decimal text of a double

A double is written with the fewest significant digits that still read back as the same double;
of the numbers with that many digits the nearest one is taken, and an exact tie goes to the even
last digit.

* `Interval` -- the reals that round to a given double;
* `shortestDigits` -- the digits and the power of ten they are multiplied by;
* `floatText` -- the text: positional from `10 ^ -4` up to, not including, `10 ^ 16`, and with an
  exponent of at least two digits elsewhere.
-/

namespace Waypost.Decimal

/-! ## 1. The numbers that read back -/

/-- The reals that round to `mantissa * 2 ^ exponent`, as numerators over one denominator: the
    value itself, the two ends, and whether the ends belong to the interval. -/
structure Interval where
  value : Nat
  low : Nat
  high : Nat
  den : Nat
  closed : Bool

/-- The interval of a positive double. Below a power of two the neighbour is only half as far. -/
def Interval.of (mantissa : Nat) (exponent : Int) : Interval :=
  let (num, den) := fraction (4 * mantissa) exponent 0
  let (unit, _) := fraction 1 exponent 0
  let below := if mantissa = 0x10000000000000 && exponent != -1074 then unit else 2 * unit
  ⟨num, num - below, num + 2 * unit, 4 * den, mantissa % 2 == 0⟩

/-- Whether `n * 10 ^ scale` lies in the interval. -/
def Interval.holds (i : Interval) (n : Nat) (scale : Int) : Bool :=
  let (num, den) :=
    match scale with
    | .ofNat s => (n * Nat.pow 10 s * i.den, 1)
    | .negSucc s => (n * i.den, Nat.pow 10 (s + 1))
  if i.closed then i.low * den ≤ num && num ≤ i.high * den
  else i.low * den < num && num < i.high * den

/-! ## 2. The grid with the fewest digits -/

/-- The number of decimal digits of a number. -/
def digitCount (n : Nat) : Nat := (Nat.repr n).length

/-- The power of ten of the leading digit of a positive quotient. -/
def leadingExponent (num den : Nat) : Int :=
  let a := digitCount num
  let b := digitCount den
  if den * Nat.pow 10 (a - b) ≤ num * Nat.pow 10 (b - a) then (a : Int) - b else (a : Int) - b - 1

/-- The two neighbours of a value on the grid of the multiples of `10 ^ scale`: the lower one, and
    the order of the value and the middle between them. -/
def gridBelow (num den : Nat) (scale : Int) : Nat × Ordering :=
  let (n, d) :=
    match scale with
    | .ofNat s => (num, den * Nat.pow 10 s)
    | .negSucc s => (num * Nat.pow 10 (s + 1), den)
  (n / d, compare (2 * (n % d)) d)

/-- The number on a grid that reads back and is nearest to the value, when there is one. -/
def onGrid? (i : Interval) (scale : Int) : Option Nat :=
  let (n, middle) := gridBelow i.value i.den scale
  match i.holds n scale, i.holds (n + 1) scale with
  | true, true =>
    match middle with
    | .lt => some n
    | .gt => some (n + 1)
    | .eq => some (if n % 2 = 0 then n else n + 1)
  | true, false => some n
  | false, true => some (n + 1)
  | false, false => none

/-- Tries the grids from the coarsest on; the second argument counts the grids left. -/
def firstGrid (i : Interval) (scale : Int) : Nat → Nat × Int
  | 0 => ((gridBelow i.value i.den scale).1, scale)
  | left + 1 =>
    match onGrid? i scale with
    | some n => (n, scale)
    | none => firstGrid i (scale - 1) left

/-- The fewest digits of a positive double, and the power of ten they are multiplied by. Seventeen
    digits always read back. -/
def shortestDigits (mantissa : Nat) (exponent : Int) : Nat × Int :=
  let i := Interval.of mantissa exponent
  firstGrid i (leadingExponent i.value i.den) 17

/-! ## 3. The text -/

/-- Digits without the zeros at their end. -/
def dropZeros (digits : List Char) : List Char := (digits.reverse.dropWhile (· == '0')).reverse

/-- Positional text of digits whose point stands after so many of them. -/
def positional (digits : List Char) (point : Int) : List Char :=
  match point with
  | .ofNat p =>
    if p = 0 then '0' :: '.' :: digits
    else if digits.length ≤ p then
      digits ++ List.replicate (p - digits.length) '0' ++ ['.', '0']
    else digits.take p ++ '.' :: digits.drop p
  | .negSucc p => '0' :: '.' :: List.replicate (p + 1) '0' ++ digits

/-- Text with one digit before the point and a power of ten. -/
def scientific (digits : List Char) (exponent : Int) : List Char :=
  let sign := if exponent < 0 then '-' else '+'
  let power := (zeroPadded 2 exponent.natAbs).toList
  match digits with
  | [] => []
  | [d] => d :: 'e' :: sign :: power
  | d :: more => d :: '.' :: more ++ 'e' :: sign :: power

/-- The text of the digits of a positive double. -/
def digitsText (n : Nat) (scale : Int) : List Char :=
  let digits := (Nat.repr n).toList
  let point := (digits.length : Int) + scale
  let kept := dropZeros digits
  if -4 < point && point ≤ 16 then positional kept point else scientific kept (point - 1)

/-- The shortest text that reads back as the double. -/
def floatText (x : Float) : String :=
  match Exact.ofFloat x with
  | .nan => "nan"
  | .infinite negative => if negative then "-inf" else "inf"
  | .finite negative m q =>
    let sign := if negative then "-" else ""
    if m = 0 then sign ++ "0.0"
    else
      let (n, scale) := shortestDigits m q
      sign ++ String.ofList (digitsText n scale)

end Waypost.Decimal
