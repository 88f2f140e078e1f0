import Waypost.Fault.Basic

/-!
# Numbers that keep the form they were given in

A coordinate is echoed in the form in which it came in, so a number remembers whether it was a
truth value, a whole number or a double.

* `Number.toFloat` -- the number to calculate with;
* `Number.toJson` and `Number.text` -- the two ways it goes out;
* `Number.within` -- whether it lies between a limit and its negative;
* `Number.equal` -- whether two numbers have the same value, whatever their forms.
-/

namespace Waypost

open Decimal

/-- A number together with the form it was given in; a truth value counts as one or zero. -/
inductive Number where
  | flag (b : Bool)
  | int (n : Int)
  | float (x : Float)
  deriving Repr

namespace Number

/-- The nearest double. -/
def toFloat : Number → Float
  | .flag b => if b then 1.0 else 0.0
  | .int n => Float.ofInt n
  | .float x => x

/-- The number as a JSON value. -/
def toJson : Number → Json
  | .flag b => .bool b
  | .int n => .int n
  | .float x => .float x

/-- The number behind a JSON value. -/
def ofJson? : Json → Option Number
  | .bool b => some (.flag b)
  | .int n => some (.int n)
  | .float x => some (.float x)
  | _ => none

/-- The text of a number with few digits, as all have that lie between limits of degrees. -/
def text : Number → String
  | .flag b => if b then "True" else "False"
  | .int n => toString n
  | .float x => floatText x

/-- Whether a number lies between `-limit` and `limit`. -/
def within (limit : Nat) : Number → Bool
  | .flag b => b.toNat ≤ limit
  | .int n => -(limit : Int) ≤ n && n ≤ limit
  | .float x => -(Float.ofNat limit) ≤ x && x ≤ Float.ofNat limit

/-- Whether a whole number and a double have the same value. -/
def equalsFloat (n : Int) (x : Float) : Bool :=
  match Exact.ofFloat x with
  | .finite negative m q =>
    let (num, den) := fraction m q 0
    signed negative num == n * den
  | _ => false

/-- The whole number behind a truth value or whole number. -/
def whole? : Number → Option Int
  | .flag b => some b.toNat
  | .int n => some n
  | .float _ => none

/-- Whether two numbers have the same value. A NaN equals nothing. -/
def equal (a b : Number) : Bool :=
  match a.whole?, b.whole? with
  | some m, some n => m == n
  | some m, none => equalsFloat m b.toFloat
  | none, some n => equalsFloat n a.toFloat
  | none, none => a.toFloat == b.toFloat

@[simp] theorem ofJson?_toJson (n : Number) : ofJson? n.toJson = some n := by cases n <;> rfl

end Number

end Waypost
