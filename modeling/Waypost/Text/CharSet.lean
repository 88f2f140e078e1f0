/-!
# Sets of characters as ranges of code points

* `CharSet` -- a list of closed ranges of code points;
* `CharSet.contains` -- membership of a character, by its code point.

The property tables of this folder are values of this type.
-/

namespace Waypost.Text

/-- A set of characters, given by closed ranges of code points. -/
abbrev CharSet := List (Nat × Nat)

/-- A character belongs to a set when one of the ranges holds its code point. -/
def CharSet.contains (set : CharSet) (c : Char) : Bool :=
  set.any fun range => range.1 ≤ c.toNat && c.toNat ≤ range.2

end Waypost.Text
