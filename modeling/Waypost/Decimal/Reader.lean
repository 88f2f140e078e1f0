import Waypost.Decimal.Limit
import Waypost.Text.Blank
import Waypost.Text.Digit

/-!
# Reading numbers from texts

Three grammars share one scanner of digits:

* `plainInteger?` and `plainFloat?` -- plain decimal notation, as a hint must have it to count as a
  number: a sign, digits of any script, a point, an exponent, and nothing else;
* `looseInteger?` and `looseFloat?` -- the generous form: spaces at the ends, single underscores
  between digits and, for doubles, the names of infinity and of what is no number;
* `fieldInteger` and `fieldFloat?` -- the form of typed fields: ASCII digits, single underscores
  inside, and for whole numbers a fraction of zeros.

A whole number may have at most `digitLimit` digits; leading zeros count.
-/

namespace Waypost.Decimal

open Waypost.Text

/-! ## 1. Scanning -/

/-- The value of a row of ASCII digits. -/
def digitsValue (digits : List Char) : Nat :=
  digits.foldl (fun n c => n * 10 + (c.toNat - 48)) 0

/-- Digits of every script as ASCII digits; all other characters stay. -/
def asciiDigits (cs : List Char) : List Char :=
  cs.map fun c =>
    match digitValue? c with
    | some d => Char.ofNat (48 + d)
    | none => c

/-- Takes a sign off the front: whether it is a minus, and the rest. -/
def takeSign : List Char → Bool × List Char
  | '-' :: rest => (true, rest)
  | '+' :: rest => (false, rest)
  | cs => (false, cs)

/-- The digits at the front, and the rest. -/
def takeDigits (cs : List Char) : List Char × List Char := cs.span (·.isDigit)

/-- Removes underscores, each of which has to stand between two digits. The first argument says
    whether the character before is a digit. -/
def dropUnderscores? (afterDigit : Bool) : List Char → Option (List Char)
  | [] => some []
  | '_' :: c :: rest =>
    if afterDigit && c.isDigit then (dropUnderscores? true rest).map (c :: ·) else none
  | '_' :: [] => none
  | c :: rest => (dropUnderscores? c.isDigit rest).map (c :: ·)

/-! ## 2. Doubles from digits -/

/-- The nearest double to `± digits * 10 ^ exponent`. Powers far beyond the range of doubles are
    settled by the number of digits alone. -/
def nearestFloat (negative : Bool) (digits : List Char) (exponent : Int) : Float :=
  let significant := digits.dropWhile (· == '0')
  let size := (significant.length : Int) + exponent
  let magnitude : Float :=
    if significant.isEmpty then 0.0
    else if 400 < size then 1.0 / 0.0
    else if size < -400 then 0.0
    else
      match exponent with
      | .ofNat e => Float.ofScientific (digitsValue significant) false e
      | .negSucc e => Float.ofScientific (digitsValue significant) true (e + 1)
  if negative then -magnitude else magnitude

/-- The exponent part of a decimal text: the mark, an optional sign and at least one digit, with
    nothing after them. No mark at all is the exponent zero. -/
def exponentPart? : List Char → Option Int
  | [] => some 0
  | mark :: rest =>
    if mark == 'e' || mark == 'E' then
      let (negative, rest) := takeSign rest
      let (digits, rest) := takeDigits rest
      if digits.isEmpty || !rest.isEmpty then none
      else some (if negative then -(digitsValue digits : Int) else digitsValue digits)
    else none

/-- Digits, an optional point with digits, an optional exponent; at least one digit before or
    after the point. -/
def unsignedFloat? (negative : Bool) (cs : List Char) : Option Float :=
  let (whole, rest) := takeDigits cs
  let (fraction, rest) :=
    match rest with
    | '.' :: more => takeDigits more
    | _ => ([], rest)
  if whole.isEmpty && fraction.isEmpty then none
  else (exponentPart? rest).map fun e =>
    nearestFloat negative (whole ++ fraction) (e - fraction.length)

/-! ## 3. Plain notation -/

/-- Sign and digits of a whole number in plain notation. -/
def plainInteger? (cs : List Char) : Option (Bool × List Char) :=
  let (negative, rest) := takeSign (asciiDigits cs)
  if !rest.isEmpty && rest.all (·.isDigit) then some (negative, rest) else none

/-- The double of a text in plain decimal notation. -/
def plainFloat? (cs : List Char) : Option Float :=
  let (negative, rest) := takeSign (asciiDigits cs)
  unsignedFloat? negative rest

/-- A whole number from its sign and digits, or the count of digits when there are too many. -/
def boundedInteger (negative : Bool) (digits : List Char) : Except Nat Int :=
  if digitLimit < digits.length then .error digits.length
  else .ok (if negative then -(digitsValue digits : Int) else digitsValue digits)

/-! ## 4. Generous notation -/

/-- The names of the doubles that are no decimal number, in small letters. -/
def namedFloat? (negative : Bool) (cs : List Char) : Option Float :=
  let name := String.ofList (cs.map (·.toLower))
  let magnitude? : Option Float :=
    if name = "inf" || name = "infinity" then some (1.0 / 0.0)
    else if name = "nan" then some (0.0 / 0.0)
    else none
  magnitude?.map fun x => if negative then -x else x

/-- A double from characters that are all part of it. -/
def signedFloat? (cs : List Char) : Option Float :=
  let (negative, rest) := takeSign cs
  (namedFloat? negative rest).orElse fun _ => unsignedFloat? negative rest

/-- The double of a text in generous notation. -/
def looseFloat? (s : String) : Option Float :=
  (dropUnderscores? false (asciiDigits (trimBoth isSpace s.toList))).bind signedFloat?

/-- The whole number of a text in generous notation; too many digits make it unreadable. -/
def looseInteger? (s : String) : Option Int := do
  let cs ← dropUnderscores? false (takeSign (asciiDigits (trimBoth isSpace s.toList))).2
  let negative := (takeSign (trimBoth isSpace s.toList)).1
  if cs.isEmpty || !cs.all (·.isDigit) then none
  else (boundedInteger negative cs).toOption

/-! ## 5. Typed fields -/

/-- Whether two underscores stand side by side. -/
def doubledUnderscore : List Char → Bool
  | '_' :: '_' :: _ => true
  | _ :: rest => doubledUnderscore rest
  | [] => false

/-- Removes underscores, which may stand neither at an end nor side by side. -/
def innerUnderscores? (cs : List Char) : Option (List Char) :=
  if cs.head? = some '_' || cs.getLast? = some '_' || doubledUnderscore cs then none
  else some (cs.filter (· != '_'))

/-- The double of a text as a typed field takes it: blanks at the ends are dropped, or underscores
    inside, but not both. -/
def fieldFloat? (s : String) : Option Float :=
  (signedFloat? (trimBoth isSpace s.toList)).orElse fun _ =>
    (innerUnderscores? s.toList).bind signedFloat?

/-- Why a text is no whole number. -/
inductive FieldFault where
  | unreadable
  | tooLong
  deriving DecidableEq, Repr

/-- Drops zeros and underscores behind a zero, up to the next digit or minus. The zero in front of a
    point stays, and so does the last character. The first argument is the character before. -/
def skipZeros? (previous : Char) : List Char → Option (List Char)
  | [] => some [previous]
  | c :: rest =>
    if c == '0' || c == '_' then skipZeros? c rest
    else if c.isDigit || c == '-' then some (c :: rest)
    else if c == '.' then some (previous :: c :: rest)
    else none

/-- Drops the zeros in front of a whole number. -/
def dropLeadingZeros? : List Char → Option (List Char)
  | [] => none
  | c :: rest =>
    if c == '0' then skipZeros? c rest
    else if c.isDigit || c == '-' then some (c :: rest)
    else none

/-- Drops a fraction that consists of zeros; there is none with other digits or without digits. -/
def dropZeroFraction? (cs : List Char) : Option (List Char) :=
  match cs.span (· != '.') with
  | (whole, _ :: zeros) =>
    if !zeros.isEmpty && zeros.all (· == '0') then some whole else none
  | (whole, []) => some whole

/-- The digits of a whole number with a minus in front where there was one. Neither leading zeros
    nor a fraction of zeros nor single underscores inside belong to them. -/
def fieldDigits? (cs : List Char) : Option (List Char) := do
  let digits (cs : List Char) : Option (List Char) := do
    innerUnderscores? (← dropZeroFraction? (← dropLeadingZeros? cs))
  match cs with
  | '+' :: '-' :: _ => none
  | '+' :: rest => digits rest
  | '-' :: rest => return '-' :: (← digits rest)
  | _ => digits cs

/-- The whole number of a text as a typed field takes it. The limit counts bytes. -/
def fieldInteger (s : String) : Except FieldFault Int :=
  match fieldDigits? (trimBoth isSpace s.toList) with
  | none => .error .unreadable
  | some cs =>
    if digitLimit < (String.ofList cs).utf8ByteSize then .error .tooLong
    else
      let (negative, digits) := takeSign cs
      if digits.isEmpty || !digits.all (·.isDigit) then .error .unreadable
      else .ok (if negative then -(digitsValue digits : Int) else digitsValue digits)

end Waypost.Decimal
