import Waypost.Decimal.Reader
import Waypost.Schema.Check

/-!
# Checks of single values

Typed fields are generous about the form of what was sent: numbers and truth values may be written
as texts.

* `Check.flag`, `Check.real`, `Check.whole`, `Check.text` -- the four scalar types;
* `Check.list` and `Check.dictionary` -- the two containers;
* `Check.between` and `Check.above` -- limits of doubles. A NaN is within no limit, and the upper
  limit is looked at first.
-/

namespace Waypost.Check

open Decimal Text

/-- A check that reads a text. One in which half of a surrogate pair stands alone is not read. -/
def readable (check : String → Check α) (s : String) : Check α :=
  if encodable s then check s else .violated .notUnicode

/-! ## 1. Truth values -/

/-- The words for true. -/
def trueWords : List String := ["1", "true", "on", "t", "y", "yes"]

/-- The words for false. -/
def falseWords : List String := ["0", "false", "off", "f", "n", "no"]

/-- The truth value that a word names in any letter case, without blanks around it. -/
def flagOfWord (s : String) : Check Bool :=
  let word := String.ofList (s.toList.map (·.toLower))
  if trueWords.contains word then .passed true
  else if falseWords.contains word then .passed false
  else .violated .unreadableFlag

/-- Whether a whole number fits into a signed machine word. -/
def fitsWord (n : Int) : Bool := -0x8000000000000000 ≤ n && n < 0x8000000000000000

/-- Zero and one as truth values. -/
def flagOfWhole (n : Int) : Check Bool :=
  if n = 0 then .passed false
  else if n = 1 then .passed true
  else if fitsWord n then .violated .unreadableFlag
  else .violated .notFlag

/-- The whole number that a double is, if it fits into a signed machine word. -/
def wholeOfReal (x : Float) : Check Int :=
  match truncate? x with
  | .error _ => .violated .notFinite
  | .ok n =>
    if Float.ofInt n != x then .violated .fractional
    else if -0x8000000000000000 < n && n < 0x8000000000000000 then .passed n
    else .violated .tooLongWhole

/-- A truth value. -/
def flag : Json → Check Bool
  | .bool b => .passed b
  | .str s => readable flagOfWord s
  | .int n => flagOfWhole n
  | .float x =>
    match wholeOfReal x with
    | .passed n => flagOfWhole n
    | _ => .violated .notFlag
  | _ => .violated .notFlag

/-! ## 2. Numbers -/

/-- The double of a text. -/
def realOfText (s : String) : Check Float :=
  match fieldFloat? s with
  | some x => .passed x
  | none => .violated .unreadableReal

/-- A double. -/
def real : Json → Check Float
  | .bool b => .passed (if b then 1.0 else 0.0)
  | .int n => if (Float.ofInt n).isFinite then .passed (Float.ofInt n) else .violated .notReal
  | .float x => .passed x
  | .str s => readable realOfText s
  | _ => .violated .notReal

/-- The whole number of a text. -/
def wholeOfText (s : String) : Check Int :=
  match fieldInteger s with
  | .ok n => .passed n
  | .error .tooLong => .violated .tooLongWhole
  | .error .unreadable => .violated .unreadableWhole

/-- A whole number. -/
def whole : Json → Check Int
  | .bool b => .passed b.toNat
  | .int n => .passed n
  | .float x => wholeOfReal x
  | .str s => readable wholeOfText s
  | _ => .violated .notWhole

/-- A double between a limit and its negative. -/
def between (limit : Nat) (x : Float) : Check Float :=
  if !(x ≤ Float.ofNat limit) then .violated (.aboveMost limit)
  else if !(-(Float.ofNat limit) ≤ x) then .violated (.belowLeast (-limit))
  else .passed x

/-- A double above a limit. -/
def above (limit : Nat) (x : Float) : Check Float :=
  if Float.ofNat limit < x then .passed x else .violated (.notAbove limit)

/-- A whole number that is not below a limit. -/
def atLeast (limit : Int) (n : Int) : Check Int :=
  if limit ≤ n then .passed n else .violated (.belowLeast limit)

/-! ## 3. Texts and containers -/

/-- A text. -/
def text : Json → Check String
  | .str s => .passed s
  | _ => .violated .notText

/-- A list of values that each pass a check. -/
def list (check : Json → Check α) : Json → Check (List α)
  | .arr items => each check items
  | _ => .violated .notList

/-- An object with members of any kind. -/
def dictionary : Json → Check Members
  | .obj members => .passed members
  | _ => .violated .notDictionary

/-- A value or null. -/
def optional (check : Json → Check α) : Json → Check (Option α)
  | .null => .passed none
  | value => some <$> check value

end Waypost.Check
