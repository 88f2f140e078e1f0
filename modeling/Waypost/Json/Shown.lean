import Waypost.Decimal.Limit
import Waypost.Decimal.Shortest
import Waypost.Json.Basic
import Waypost.Text.Quoted

/-!
# Values shown inside messages

* `Json.shown?` -- a value as part of a larger one: texts are quoted, lists stand in square
  brackets and objects in braces, and the constants are `None`, `True` and `False`;
* `Json.text?` -- the same for a value on its own, where a text stands as it is.

Neither is there when a whole number in the value has too many digits.
-/

namespace Waypost

open Text Decimal

mutual

/-- A value as part of a larger one. -/
def Json.shown? : Json → Option String
  | .null => some "None"
  | .bool b => some (if b then "True" else "False")
  | .int n => integerText? n
  | .float x => some (floatText x)
  | .str s => some (quote s)
  | .arr items => do return "[" ++ ", ".intercalate (← itemsShown? items) ++ "]"
  | .obj members => do return "\x7b" ++ ", ".intercalate (← membersShown? members) ++ "\x7d"

/-- The items of a list, each as part of it. -/
def itemsShown? : List Json → Option (List String)
  | [] => some []
  | item :: rest => do return (← item.shown?) :: (← itemsShown? rest)

/-- The members of an object, each as key and value with a colon between them. -/
def membersShown? : List (String × Json) → Option (List String)
  | [] => some []
  | (key, value) :: rest => do
    return (quote key ++ ": " ++ (← value.shown?)) :: (← membersShown? rest)

end

/-- A value on its own. -/
def Json.text? : Json → Option String
  | .str s => some s
  | value => value.shown?

@[simp] theorem Json.text?_str (s : String) : (Json.str s).text? = some s := rfl

end Waypost
