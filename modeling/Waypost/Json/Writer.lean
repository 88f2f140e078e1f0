import Waypost.Fault.Basic

/-!
# Writing JSON texts

* `Json.written` -- the text of a value without blanks. Doubles have the fewest digits that read
  back. An infinity, a NaN and a whole number with too many digits have no text, and the first of
  them breaks the writing down.
-/

namespace Waypost

open Text Decimal

/-- One character of a JSON text. -/
def escapeJson (c : Char) : List Char :=
  if c = '"' || c = '\\' then ['\\', c]
  else if c = '\x08' then ['\\', 'b']
  else if c = '\x0c' then ['\\', 'f']
  else if c = '\n' then ['\\', 'n']
  else if c = '\r' then ['\\', 'r']
  else if c = '\t' then ['\\', 't']
  else if c.toNat < 32 then '\\' :: 'u' :: hexDigits 4 c.toNat
  else [c]

/-- A text between double quotes. -/
def jsonText (s : String) : String :=
  String.ofList ('"' :: s.toList.flatMap escapeJson ++ ['"'])

/-- A double as a JSON number. -/
def jsonNumber (x : Float) : Except Fault String :=
  if x.isFinite then .ok (floatText x) else .error (.unexpected .notFiniteJson)

mutual

/-- The text of a value. -/
def Json.written : Json → Except Fault String
  | .null => .ok "null"
  | .bool b => .ok (if b then "true" else "false")
  | .int n => integerText n
  | .float x => jsonNumber x
  | .str s => .ok (jsonText s)
  | .arr items => do return "[" ++ ",".intercalate (← itemsWritten items) ++ "]"
  | .obj members => do return "\x7b" ++ ",".intercalate (← membersWritten members) ++ "\x7d"

/-- The texts of the items of a list. -/
def itemsWritten : List Json → Except Fault (List String)
  | [] => .ok []
  | item :: rest => do return (← item.written) :: (← itemsWritten rest)

/-- The texts of the members of an object. -/
def membersWritten : List (String × Json) → Except Fault (List String)
  | [] => .ok []
  | (key, value) :: rest => do
    return (jsonText key ++ ":" ++ (← value.written)) :: (← membersWritten rest)

end

end Waypost
