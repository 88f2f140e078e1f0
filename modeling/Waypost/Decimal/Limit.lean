/-!
# The limit of digits

A whole number is neither read from a text with more than `digitLimit` digits nor written as one.
A sign does not count.

* `fewDigits` -- whether a whole number can be written;
* `integerText?` -- its text.
-/

namespace Waypost.Decimal

/-- The most digits a text of a whole number may have. -/
def digitLimit : Nat := 4300

/-- Whether a whole number has few enough digits to be written. -/
def fewDigits (n : Int) : Bool := (Nat.toDigits 10 n.natAbs).length ≤ digitLimit

/-- The text of a whole number, if it has few enough digits. -/
def integerText? (n : Int) : Option String := if fewDigits n then some (toString n) else none

theorem integerText?_eq_some {n : Int} {s : String} :
    integerText? n = some s ↔ fewDigits n = true ∧ s = toString n := by
  unfold integerText?
  split
  · simp [*, eq_comm]
  · simp [*]

end Waypost.Decimal
