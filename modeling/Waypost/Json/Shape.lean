import Waypost.Fault.Basic

/-!
# Operations on values of unknown shape

Each operation here works on the kinds of value that support it and breaks down on all others.

* `members`, `items`, `itemAtIndex`, `count` -- the parts of a value;
* `holds` -- whether a text is part of it;
* `toReal` -- its number.
-/

namespace Waypost.Json

open Decimal Text

/-- The members of an object. -/
def members : Json → Except Fault Members
  | .obj members => .ok members
  | other => .error (.mismatch (.noMembers other.kindName))

/-- What one meets when going through a value: the items of a list, the characters of a text, the
    keys of an object. -/
def items : Json → Except Fault (List Json)
  | .arr items => .ok items
  | .str s => .ok ((singlePoints s).map .str)
  | .obj members => .ok (members.map fun member => .str member.1)
  | other => .error (.mismatch (.notIterable other.kindName))

/-- The item of a list, or the character of a text, at an index. -/
def itemAtIndex (value : Json) (index : Nat) : Except Fault Json :=
  match value with
  | .arr items =>
    match items[index]? with
    | some item => .ok item
    | none => .error (.mismatch (.indexOutOfRange "list"))
  | .str s =>
    match (singlePoints s)[index]? with
    | some point => .ok (.str point)
    | none => .error (.mismatch (.indexOutOfRange "string"))
  | .obj _ => .error (.mismatch (.missingIndex index))
  | other => .error (.mismatch (.notIndexable other.kindName))

/-- How many parts a value has. -/
def count : Json → Except Fault Nat
  | .arr items => .ok items.length
  | .str s => .ok (pointCount s)
  | .obj members => .ok members.length
  | other => .error (.mismatch (.noLength other.kindName))

/-- Whether two values are the same text. -/
def isText (value : Json) (text : String) : Bool :=
  match value with
  | .str s => s == text
  | _ => false

/-- The number of a value: a number, or a text that spells one in generous notation. -/
def toReal : Json → Except Fault Float
  | .bool b => .ok (if b then 1.0 else 0.0)
  | .int n => floatOfInt n
  | .float x => .ok x
  | .str s =>
    match looseFloat? s with
    | some x => .ok x
    | none => .error (.mismatch (.notANumber s))
  | other => .error (.mismatch (.notNumeric other.kindName))

/-- A value when it is truthy, and something else otherwise. -/
def orElse (value other : Json) : Json := if value.truthy then value else other

end Waypost.Json

namespace Waypost

/-- The value under a key, or something else where there is none. -/
def Members.getD (members : Members) (key : String) (other : Json) : Json :=
  (members.get? key).getD other

end Waypost
