import Waypost.Number
import Waypost.Text.Case

/-!
# Values of hints

* `HintValue` -- a truth value, a whole number, a double, or a text;
* `HintValue.ofText` -- the most specific value of a text: `true` and `false` in any letter case,
  whole numbers and doubles in plain decimal notation, and otherwise the text as it stands;
* `HintValue.ofJson` -- the same for a JSON value; the items of a list are joined with commas.

Reading a text fails in one case only: a whole number with too many digits. A value that has to be
written first fails in that case as well.
-/

namespace Waypost

open Text Decimal

/-- The value of a hint. -/
inductive HintValue where
  | flag (b : Bool)
  | int (n : Int)
  | float (x : Float)
  | text (s : String)
  deriving Repr

namespace HintValue

/-- The value as JSON. -/
def toJson : HintValue → Json
  | .flag b => .bool b
  | .int n => .int n
  | .float x => .float x
  | .text s => .str s

/-- The text of a value, which a whole number with too many digits does not have. -/
def shown (v : HintValue) : Except Fault String := v.toJson.text

/-- The number behind a value that is no text. -/
def number? : HintValue → Option Number
  | .flag b => some (.flag b)
  | .int n => some (.int n)
  | .float x => some (.float x)
  | .text _ => none

/-- The truth value that a text names, in any letter case and with blanks around it. -/
def flagOfText? (s : String) : Option Bool :=
  let word := lower (strip s)
  if word = "true" then some true
  else if word = "false" then some false
  else none

/-- The most specific value of a text. -/
def ofText (s : String) : Except Fault HintValue :=
  match flagOfText? s with
  | some b => .ok (.flag b)
  | none =>
    let cs := (strip s).toList
    match plainInteger? cs with
    | some (negative, digits) =>
      match boundedInteger negative digits with
      | .ok n => .ok (.int n)
      | .error count => .error (.unexpected (.digitLimit count))
    | none =>
      match plainFloat? cs with
      | some x => .ok (.float x)
      | none => .ok (.text s)

/-- An item of a list inside the joined text. -/
def itemText : Json → Except Fault String
  | .bool b => .ok (if b then "true" else "false")
  | item => item.text

/-- The value of a JSON value. -/
def ofJson : Json → Except Fault HintValue
  | .bool b => .ok (.flag b)
  | .int n => .ok (.int n)
  | .float x => .ok (.float x)
  | .arr items => do ofText (",".intercalate (← items.mapM itemText))
  | value => do ofText (← value.text)

/-- Whether a value equals a JSON value: texts as texts, numbers and truth values by their value,
    and a NaN equals a NaN. -/
def sameAs (v : HintValue) (other : Json) : Bool :=
  match v, other with
  | .text s, .str t => s == t
  | .float x, .float y => x == y || (x.isNaN && y.isNaN)
  | v, other =>
    match v.number?, Number.ofJson? other with
    | some a, some b => a.equal b
    | _, _ => false

@[simp] theorem shown_flag (b : Bool) :
    (HintValue.flag b).shown = .ok (if b then "True" else "False") := rfl

@[simp] theorem shown_int (n : Int) : (HintValue.int n).shown = integerText n := rfl

@[simp] theorem shown_float (x : Float) : (HintValue.float x).shown = .ok (floatText x) := rfl

@[simp] theorem shown_text (s : String) : (HintValue.text s).shown = .ok s := rfl

/-- A value has no text exactly when it is a whole number with too many digits. -/
theorem shown_eq_error {v : HintValue} {fault : Fault} :
    v.shown = .error fault ↔
      (∃ n, v = .int n ∧ fewDigits n = false) ∧ fault = .unexpected .longInteger := by
  cases v with
  | int n => simp [integerText, writtenText_eq_error, integerText?]
  | flag | float | text => simp

@[simp] theorem ofJson_str (s : String) : ofJson (.str s) = ofText s := by
  simp only [ofJson, Json.text_str]
  exact pure_bind s ofText

@[simp] theorem ofJson_toJson_flag (b : Bool) :
    ofJson (HintValue.flag b).toJson = .ok (.flag b) := rfl

@[simp] theorem ofJson_toJson_int (n : Int) : ofJson (HintValue.int n).toJson = .ok (.int n) := rfl

@[simp] theorem ofJson_toJson_float (x : Float) :
    ofJson (HintValue.float x).toJson = .ok (.float x) := rfl

end HintValue

end Waypost
