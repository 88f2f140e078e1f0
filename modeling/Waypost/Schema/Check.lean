import Waypost.Fault.Basic

/-!
# Checks

A check turns what was sent into a value of a known type, or lists everything that is wrong with
it, each with its place.

* `Step` and `Violation` -- a place is a list of steps, and what is wrong there;
* `Issue` -- a violation at a place;
* `Check` -- a value, the issues, or a breakdown; checks that are put together collect the issues
  of all of them, in order.
-/

namespace Waypost

/-! ## 1. Issues -/

/-- One step on the way to a place inside a value. -/
inductive Step where
  | name (key : String)
  | index (n : Nat)
  deriving DecidableEq, Repr

/-- What can be wrong with a value. -/
inductive Violation where
  | missing
  | notFlag
  | unreadableFlag
  | notReal
  | unreadableReal
  | notWhole
  | unreadableWhole
  | tooLongWhole
  | fractional
  | notFinite
  | notText
  | notUnicode
  | notList
  | notDictionary
  | notModel (model : String)
  | notObject
  | notAbove (limit : Nat)
  | belowLeast (limit : Int)
  | aboveMost (limit : Int)
  | notPermitted
  | badValue (reason : String)
  | unreadableJson
  deriving DecidableEq, Repr

/-- The stable name of a violation. -/
def Violation.name : Violation → String
  | .missing => "missing"
  | .notFlag => "bool_type"
  | .unreadableFlag => "bool_parsing"
  | .notReal => "float_type"
  | .unreadableReal => "float_parsing"
  | .notWhole => "int_type"
  | .unreadableWhole => "int_parsing"
  | .tooLongWhole => "int_parsing_size"
  | .fractional => "int_from_float"
  | .notFinite => "finite_number"
  | .notText => "string_type"
  | .notUnicode => "string_unicode"
  | .notList => "list_type"
  | .notDictionary => "dict_type"
  | .notModel _ => "model_type"
  | .notObject => "model_attributes_type"
  | .notAbove _ => "greater_than"
  | .belowLeast _ => "greater_than_equal"
  | .aboveMost _ => "less_than_equal"
  | .notPermitted => "extra_forbidden"
  | .badValue _ => "value_error"
  | .unreadableJson => "json_invalid"

/-- The wording of a violation. -/
def Violation.text : Violation → String
  | .missing => "Field required"
  | .notFlag => "Input should be a valid boolean"
  | .unreadableFlag => "Input should be a valid boolean, unable to interpret input"
  | .notReal => "Input should be a valid number"
  | .unreadableReal => "Input should be a valid number, unable to parse string as a number"
  | .notWhole => "Input should be a valid integer"
  | .unreadableWhole => "Input should be a valid integer, unable to parse string as an integer"
  | .tooLongWhole => "Unable to parse input string as an integer, exceeded maximum size"
  | .fractional => "Input should be a valid integer, got a number with a fractional part"
  | .notFinite => "Input should be a finite number"
  | .notText => "Input should be a valid string"
  | .notUnicode =>
    "Input should be a valid string, unable to parse raw data as a unicode string"
  | .notList => "Input should be a valid list"
  | .notDictionary => "Input should be a valid dictionary"
  | .notModel model => "Input should be a valid dictionary or instance of " ++ model
  | .notObject => "Input should be a valid dictionary or object to extract fields from"
  | .notAbove limit => "Input should be greater than " ++ toString limit
  | .belowLeast limit => "Input should be greater than or equal to " ++ toString limit
  | .aboveMost limit => "Input should be less than or equal to " ++ toString limit
  | .notPermitted => "Extra inputs are not permitted"
  | .badValue reason => "Value error, " ++ reason
  | .unreadableJson => "JSON decode error"

/-- A violation at a place. -/
structure Issue where
  place : List Step
  violation : Violation
  deriving DecidableEq, Repr

/-- The text of a step. -/
def Step.text : Step → String
  | .name key => key
  | .index n => toString n

/-- The text of an issue: its place, if it has one, and its wording. -/
def Issue.text (issue : Issue) : String :=
  if issue.place.isEmpty then issue.violation.text
  else ".".intercalate (issue.place.map Step.text) ++ ": " ++ issue.violation.text

/-- The text of several issues. -/
def issuesText (issues : List Issue) : String := "; ".intercalate (issues.map Issue.text)

/-! ## 2. Checks -/

/-- The end of a check. A breakdown says nothing about the value. -/
inductive Check (α : Type) where
  | passed (value : α)
  | failed (issues : List Issue)
  | broken (cause : Breakdown)

namespace Check

/-- A single violation at the place of the check. -/
def violated (violation : Violation) : Check α := .failed [⟨[], violation⟩]

/-- Both checks at once; the issues of both count. -/
def both (combine : α → β → γ) : Check α → Check β → Check γ
  | .passed a, .passed b => .passed (combine a b)
  | .failed first, .failed second => .failed (first ++ second)
  | .broken cause, _ => .broken cause
  | _, .broken cause => .broken cause
  | .failed issues, .passed _ => .failed issues
  | .passed _, .failed issues => .failed issues

instance : Applicative Check where
  pure := .passed
  seq f a := both (fun g x => g x) f (a ())

/-- A further check of the value of a check. -/
def andThen (check : Check α) (next : α → Check β) : Check β :=
  match check with
  | .passed value => next value
  | .failed issues => .failed issues
  | .broken cause => .broken cause

/-- The same check one step further inside. -/
def inside (step : Step) : Check α → Check α
  | .failed issues => .failed (issues.map fun issue => { issue with place := step :: issue.place })
  | check => check

/-- A check of a value under a name. -/
def under (key : String) (check : Check α) : Check α := check.inside (.name key)

/-- Checks each item of a list at its index. -/
def eachFrom (index : Nat) (check : α → Check β) : List α → Check (List β)
  | [] => .passed []
  | item :: rest =>
    both (· :: ·) ((check item).inside (.index index)) (eachFrom (index + 1) check rest)

/-- Checks each item of a list. -/
def each (check : α → Check β) (items : List α) : Check (List β) := eachFrom 0 check items

@[simp] theorem both_passed (combine : α → β → γ) (a : α) (b : β) :
    both combine (.passed a) (.passed b) = .passed (combine a b) := rfl

@[simp] theorem both_failed (combine : α → β → γ) (first second : List Issue) :
    both combine (.failed first) (.failed second) = .failed (first ++ second) := rfl

@[simp] theorem andThen_passed (value : α) (next : α → Check β) :
    (Check.passed value).andThen next = next value := rfl

end Check

end Waypost
