import Waypost.Text.Hex
import Waypost.Text.Point
import Waypost.Text.PrintableTable

/-!
# Quoted texts

A text shown inside a message stands between quotes. Single quotes are the rule; a text that holds
single quotes and no double ones stands between double quotes. The quote in use, the backslash and
every code point without a printed form are written by an escape.

* `escapedPoint` -- a code point as an escape;
* `quote` -- the quoted form;
* `quoteList` -- several quoted texts between square brackets.
-/

namespace Waypost.Text

/-- Whether a character is shown as it is. -/
def isPrintable (c : Char) : Bool :=
  if c.toNat < 127 then 32 ≤ c.toNat else !unprintable.contains c

/-- A code point as an escape, with as many digits as its size asks for. -/
def escapedPoint (n : Nat) : List Char :=
  if n < 0x100 then '\\' :: 'x' :: hexDigits 2 n
  else if n < 0x10000 then '\\' :: 'u' :: hexDigits 4 n
  else '\\' :: 'U' :: hexDigits 8 n

/-- One character between quotes of the given kind. -/
def quoteChar (mark c : Char) : List Char :=
  if c = mark || c = '\\' then ['\\', c]
  else if c = '\t' then ['\\', 't']
  else if c = '\n' then ['\\', 'n']
  else if c = '\r' then ['\\', 'r']
  else if isPrintable c then [c]
  else escapedPoint c.toNat

/-- One code point between quotes of the given kind. -/
def quotePoint (mark : Char) (n : Nat) : List Char :=
  if isSurrogate n then escapedPoint n else quoteChar mark (Char.ofNat n)

/-- The quotes a text stands between. -/
def quoteMark (cs : List Char) : Char :=
  if cs.contains '\x27' && !cs.contains '"' then '"' else '\x27'

/-- A text between quotes. -/
def quote (s : String) : String :=
  let mark := quoteMark s.toList
  String.ofList (mark :: (pointsOf s.toList).flatMap (quotePoint mark) ++ [mark])

/-- Quoted texts between square brackets, separated by comma and space. -/
def quoteList (texts : List String) : String :=
  "[" ++ ", ".intercalate (texts.map quote) ++ "]"

end Waypost.Text
