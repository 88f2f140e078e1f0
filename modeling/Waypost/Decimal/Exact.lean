/-!
# The exact value of a double

* `Exact` -- what a double stands for: a signed multiple of a power of two, an infinity, or no
  number at all;
* `Exact.ofFloat` -- reads it off the bit pattern, so that every rounding of this folder can work
  in whole numbers;
* `Exact.fraction` -- a finite value scaled by a power of ten, as a quotient.
-/

namespace Waypost.Decimal

/-- What a double stands for. A finite one is `± mantissa * 2 ^ exponent`. -/
inductive Exact where
  | nan
  | infinite (negative : Bool)
  | finite (negative : Bool) (mantissa : Nat) (exponent : Int)
  deriving DecidableEq, Repr

/-- The exact value behind the bits of a double. -/
def Exact.ofFloat (x : Float) : Exact :=
  let bits : Nat := x.toBits.toNat
  let negative := bits / 0x8000000000000000 == 1
  let biased : Nat := bits / 0x10000000000000 % 0x800
  let field : Nat := bits % 0x10000000000000
  if biased = 2047 then
    if field = 0 then .infinite negative else .nan
  else if biased = 0 then .finite negative field (-1074)
  else .finite negative (field + 0x10000000000000) ((biased : Int) - 1075)

/-- Numerator and denominator of `mantissa * 2 ^ exponent * 10 ^ places`. -/
def fraction (mantissa : Nat) (exponent : Int) (places : Nat) : Nat × Nat :=
  match exponent with
  | .ofNat e => (mantissa * Nat.pow 2 e * Nat.pow 10 places, 1)
  | .negSucc e => (mantissa * Nat.pow 10 places, Nat.pow 2 (e + 1))

theorem fraction_den_pos (mantissa : Nat) (exponent : Int) (places : Nat) :
    0 < (fraction mantissa exponent places).2 := by
  unfold fraction
  split
  · exact Nat.one_pos
  · exact Nat.two_pow_pos _

end Waypost.Decimal
