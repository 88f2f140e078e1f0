import Waypost.Decimal.Exact

/-!
# Rounding doubles exactly

Every function here works on the exact binary value, never on an intermediate double.

* `roundQuotient` -- a quotient of whole numbers to the nearest one, a half to the even neighbour;
* `floor?`, `truncate?`, `nearest?` -- a double to a whole number, which a NaN and the infinities
  do not have;
* `roundPlaces` -- a double to the nearest one with so many decimal places;
* `fixed` -- the text of a double with so many decimal places.
-/

namespace Waypost.Decimal

/-! ## 1. Quotients -/

/-- The nearest whole number to a quotient; a half goes to the even neighbour. -/
def roundQuotient (num den : Nat) : Nat :=
  let q := num / den
  let r := num % den
  if den < 2 * r || (2 * r == den && q % 2 == 1) then q + 1 else q

/-! ## 2. Doubles to whole numbers -/

/-- Why a double has no whole number next to it. -/
inductive NoInteger where
  | nan
  | infinite
  deriving DecidableEq, Repr

/-- A sign put in front of a magnitude. -/
def signed (negative : Bool) (n : Nat) : Int := if negative then -(n : Int) else n

/-- The largest whole number not above a double. -/
def floor? (x : Float) : Except NoInteger Int :=
  match Exact.ofFloat x with
  | .nan => .error .nan
  | .infinite _ => .error .infinite
  | .finite negative m q =>
    let (num, den) := fraction m q 0
    .ok (if negative then -(((num + den - 1) / den : Nat) : Int) else ((num / den : Nat) : Int))

/-- The whole part of a double. -/
def truncate? (x : Float) : Except NoInteger Int :=
  match Exact.ofFloat x with
  | .nan => .error .nan
  | .infinite _ => .error .infinite
  | .finite negative m q =>
    let (num, den) := fraction m q 0
    .ok (signed negative (num / den))

/-- The nearest whole number to a double; a half goes to the even neighbour. -/
def nearest? (x : Float) : Except NoInteger Int :=
  match Exact.ofFloat x with
  | .nan => .error .nan
  | .infinite _ => .error .infinite
  | .finite negative m q =>
    let (num, den) := fraction m q 0
    .ok (signed negative (roundQuotient num den))

/-! ## 3. Decimal places -/

/-- The nearest double to the value rounded to so many decimal places. What is no number, and
    what is infinite, stays as it is, and so does the sign of a zero. -/
def roundPlaces (places : Nat) (x : Float) : Float :=
  match Exact.ofFloat x with
  | .finite negative m q =>
    let (num, den) := fraction m q places
    let y := Float.ofScientific (roundQuotient num den) true places
    if negative then -y else y
  | _ => x

/-- The digits of a number, filled with zeros on the left to a width. -/
def zeroPadded (width n : Nat) : String :=
  let digits := Nat.repr n
  String.ofList (List.replicate (width - digits.length) '0') ++ digits

/-- The text of a double with a fixed number of decimal places. -/
def fixed (places : Nat) (x : Float) : String :=
  match Exact.ofFloat x with
  | .nan => "nan"
  | .infinite negative => if negative then "-inf" else "inf"
  | .finite negative m q =>
    let (num, den) := fraction m q places
    let n := roundQuotient num den
    let sign := if negative then "-" else ""
    let whole := Nat.repr (n / Nat.pow 10 places)
    if places = 0 then sign ++ whole
    else sign ++ whole ++ "." ++ zeroPadded places (n % Nat.pow 10 places)

end Waypost.Decimal
