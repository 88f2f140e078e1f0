import Waypost.Json.Shown

/-!
# Values of the wrong shape

An answer of an engine is read as it comes, so a member of an unexpected kind stops the reading at
the first operation it does not support.

* `Json.kindName` -- the name of the kind of a value in messages;
* `Mismatch` -- an operation together with the kind of value that does not support it;
* `Mismatch.text` -- the wording of each.
-/

namespace Waypost

open Text

/-- The name of the kind of a value. -/
def Json.kindName : Json → String
  | .null => "NoneType"
  | .bool _ => "bool"
  | .int _ => "int"
  | .float _ => "float"
  | .str _ => "str"
  | .arr _ => "list"
  | .obj _ => "dict"

/-- An operation on a value that does not support it. Values are named by their kind. -/
inductive Mismatch where
  | noMembers (kind : String)
  | notIndexable (kind : String)
  | indexOutOfRange (container : String)
  | missingIndex (index : Nat)
  | missingKey (key : String)
  | notIterable (kind : String)
  | notSearchable (kind : String)
  | noLength (kind : String)
  | notReal (kind : String)
  | notNumeric (kind : String)
  | notANumber (text : String)
  | notHashable (kind : String)
  | notRoundable (kind : String)
  | noProduct (kind factor : String)
  | noRepetition
  | notText (kind : String)
  | messageNotText (kind : String)
  | partNotText (index : Nat) (kind : String)
  | notWritable (shown kind : String)
  deriving DecidableEq, Repr

/-- The wording of a mismatch. -/
def Mismatch.text : Mismatch → String
  | .noMembers kind => s!"'{kind}' object has no attribute 'get'"
  | .notIndexable kind => s!"'{kind}' object is not subscriptable"
  | .indexOutOfRange container => s!"{container} index out of range"
  | .missingIndex index => toString index
  | .missingKey key => quote key
  | .notIterable kind => s!"'{kind}' object is not iterable"
  | .notSearchable kind => s!"argument of type '{kind}' is not iterable"
  | .noLength kind => s!"object of type '{kind}' has no len()"
  | .notReal kind => s!"must be real number, not {kind}"
  | .notNumeric kind => s!"float() argument must be a string or a real number, not '{kind}'"
  | .notANumber text => "could not convert string to float: " ++ quote text
  | .notHashable kind => s!"unhashable type: '{kind}'"
  | .notRoundable kind => s!"type {kind} doesn't define __round__ method"
  | .noProduct kind factor => s!"unsupported operand type(s) for *: '{kind}' and '{factor}'"
  | .noRepetition => "can't multiply sequence by non-int of type 'float'"
  | .notText kind => s!"expected string or bytes-like object, got '{kind}'"
  | .messageNotText kind => s!"__str__ returned non-string (type {kind})"
  | .partNotText index kind => s!"sequence item {index}: expected str instance, {kind} found"
  | .notWritable shown kind => s!"cannot serialize {shown} (type {kind})"

end Waypost
