/-!
# Blank characters and stripping

* `isBlank` -- the white space of every script, together with the four information separators;
* `isSpace` -- the same without the separators, as number texts know it;
* `strip` -- a text without the blanks at its two ends.
-/

namespace Waypost.Text

/-- White space that a number text may carry at its ends. -/
def isSpace (c : Char) : Bool :=
  let n := c.toNat
  (9 ≤ n && n ≤ 13) || n == 32 || n == 133 || n == 160 || n == 5760 || (8192 ≤ n && n ≤ 8202)
    || n == 8232 || n == 8233 || n == 8239 || n == 8287 || n == 12288

/-- White space and the separators of files, groups, records and units. -/
def isBlank (c : Char) : Bool :=
  isSpace c || (28 ≤ c.toNat && c.toNat ≤ 31)

/-- Drops the characters of a class from both ends. -/
def trimBoth (inClass : Char → Bool) (cs : List Char) : List Char :=
  ((cs.dropWhile inClass).reverse.dropWhile inClass).reverse

/-- A text without the blanks at its ends. -/
def strip (s : String) : String := String.ofList (trimBoth isBlank s.toList)

end Waypost.Text
