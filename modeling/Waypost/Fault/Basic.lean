import Waypost.Decimal.Rounding
import Waypost.Fault.Mismatch
import Waypost.Fault.Refusal
import Waypost.Http.Address
import Waypost.Http.Pattern
import Waypost.Json.Reader
import Waypost.Text.Codec

/-!
# Faults

Everything that can go wrong while a request is answered is a value of `Fault`:

* `refused` -- the input is turned down, for a stated reason;
* `reported` -- a collaborator states a failure of one of four kinds, with a message and details;
* `unexpected` -- a computation broke down.

Three views of a fault go into answers and logs: `message` (never empty), `typeId` (the
classification that callers rely on) and `details`. `className` names the kind of failure and
stands in for a message that is missing.
-/

namespace Waypost

open Text Decimal

/-! ## 1. Kinds -/

/-- The kinds of failure a collaborator can report. -/
inductive ReportKind where
  | invalidArgument
  | pointNotFound
  | engineFailure
  | unclassified
  deriving DecidableEq, Repr

/-- The kinds of breakdown of a computation. -/
inductive BreakdownKind where
  | value
  | writing
  | hostForm
  | hostLetter
  | hostNeighbours
  | hostDirection
  | overflow
  | shape
  | member
  | index
  | key
  | depth
  | system
  | address
  | assertion
  | runtime
  | general
  deriving DecidableEq, Repr

/-- The name of a kind of breakdown. -/
def BreakdownKind.name : BreakdownKind → String
  | .value => "ValueError"
  | .writing => "UnicodeEncodeError"
  | .hostForm => "IDNAError"
  | .hostLetter => "InvalidCodepoint"
  | .hostNeighbours => "InvalidCodepointContext"
  | .hostDirection => "IDNABidiError"
  | .overflow => "OverflowError"
  | .shape => "TypeError"
  | .member => "AttributeError"
  | .index => "IndexError"
  | .key => "KeyError"
  | .depth => "RecursionError"
  | .system => "OSError"
  | .address => "InvalidURL"
  | .assertion => "AssertionError"
  | .runtime => "RuntimeError"
  | .general => "Exception"

/-- Whether a kind of breakdown is one over a value: a text that cannot be written or a host name
    that is none is a bad value as well. -/
def BreakdownKind.isValue : BreakdownKind → Bool
  | .value | .writing | .hostForm | .hostLetter | .hostNeighbours | .hostDirection => true
  | _ => false

/-- The three classes of failure that callers tell apart. -/
inductive TypeId where
  | invalidArgument
  | pointNotFound
  | engineFailure
  deriving DecidableEq, Repr

/-- The stable name of a class of failure. -/
def TypeId.name : TypeId → String
  | .invalidArgument => "InvalidArgument"
  | .pointNotFound => "PointNotFound"
  | .engineFailure => "EngineFailure"

/-! ## 2. Breakdowns -/

/-- A document or list that has to name at least one fault. -/
inductive ErrorDocument where
  | json
  | xml
  deriving DecidableEq, Repr

/-- How a computation broke down. -/
inductive Breakdown where
  | raised (kind : BreakdownKind) (text : String)
  | mismatch (what : Mismatch)
  | digitLimit (digits : Nat)
  | tooDeep (object : Bool)
  | noInteger (why : NoInteger)
  | integerTooLarge
  | outsideDomain
  | multiplierBelowOne
  | noPaths
  | noErrors (document : ErrorDocument)
  | engineNotConfigured
  | address (why : AddressFault)
  | hostName (why : Host.LabelFault)
  | withoutScheme (url : String)
  | unwritable (why : EncodeFault)
  | longInteger
  | notFiniteJson
  | pathPattern (why : PatternFault)
  | momentNotANumber
  | momentOutOfRange
  | momentBeyondCalendar
  | yearOutOfRange (year : Int)
  deriving Repr

/-- The wording of a breakdown, which may be empty. -/
def Breakdown.text : Breakdown → String
  | .raised _ text => text
  | .mismatch what => what.text
  | .digitLimit digits => digitLimitMessage digits
  | .tooDeep object => (ReadFault.tooDeep object).message ""
  | .noInteger .nan => "cannot convert float NaN to integer"
  | .noInteger .infinite => "cannot convert float infinity to integer"
  | .integerTooLarge => "int too large to convert to float"
  | .outsideDomain => "math domain error"
  | .multiplierBelowOne => "points_encoded_multiplier must be at least 1"
  | .noPaths => "Outcome has no paths"
  | .noErrors .json => "errors_to_json needs at least one error"
  | .noErrors .xml => "errors_to_xml needs at least one error"
  | .engineNotConfigured => "Routing engine base URL is not configured."
  | .address why => why.message
  | .hostName why => why.message
  | .withoutScheme url => "unknown url type: " ++ quote url
  | .unwritable why => why.message
  | .longInteger =>
    "Exceeds the limit (4300 digits) for integer string conversion; "
      ++ "use sys.set_int_max_str_digits() to increase the limit"
  | .notFiniteJson => "Out of range float values are not JSON compliant"
  | .pathPattern why => why.message
  | .momentNotANumber => "Invalid value NaN (not a number)"
  | .momentOutOfRange => "timestamp out of range for platform time_t"
  | .momentBeyondCalendar => "[Errno 75] Value too large for defined data type"
  | .yearOutOfRange year => s!"year {year} is out of range"

/-- The kind of a mismatch. -/
def Mismatch.breakdownKind : Mismatch → BreakdownKind
  | .noMembers _ => .member
  | .indexOutOfRange _ => .index
  | .missingIndex _ | .missingKey _ => .key
  | .notANumber _ => .value
  | _ => .shape

/-- The kind of breakdown over a host name. -/
def hostNameKind : Host.LabelFaultKind → BreakdownKind
  | .form => .hostForm
  | .letter => .hostLetter
  | .neighbours => .hostNeighbours
  | .direction => .hostDirection

/-- The kind of a breakdown. -/
def Breakdown.kind : Breakdown → BreakdownKind
  | .raised kind _ => kind
  | .mismatch what => what.breakdownKind
  | .tooDeep _ => .depth
  | .noInteger .infinite | .integerTooLarge | .momentOutOfRange => .overflow
  | .momentBeyondCalendar => .system
  | .address (.unwritable _) => .writing
  | .address _ => .address
  | .hostName why => hostNameKind why.kind
  | .unwritable _ => .writing
  | .pathPattern (.repeated _ _) => .value
  | .pathPattern _ => .assertion
  | _ => .value

/-! ## 3. Faults -/

/-- A failure on the way to an answer. -/
inductive Fault where
  | refused (reason : Refusal)
  | reported (kind : ReportKind) (message : Json) (details : Members)
  | unexpected (cause : Breakdown)
  deriving Repr

namespace Fault

/-- A failure of the engine with a message of its own. -/
def engineFailure (message : String) : Fault := .reported .engineFailure (.str message) []

/-- A computation that met a value of the wrong shape. -/
def mismatch (what : Mismatch) : Fault := .unexpected (.mismatch what)

/-- The name of the kind of a fault. -/
def className : Fault → String
  | .refused _ => "InvalidArgumentError"
  | .reported .invalidArgument _ _ => "InvalidArgumentError"
  | .reported .pointNotFound _ _ => "PointNotFoundError"
  | .reported .engineFailure _ _ => "EngineFailureError"
  | .reported .unclassified _ _ => "RoutingError"
  | .unexpected cause => cause.kind.name

/-- Whether a fault has a classification of its own, as refusals and reports have. -/
def isClassified : Fault → Bool
  | .unexpected _ => false
  | _ => true

/-- Whether a fault is one of bad values: a refused input, a reported invalid argument, or a
    breakdown over a value. Such faults are answered where other breakdowns are passed on. -/
def isValueFault : Fault → Bool
  | .refused _ => true
  | .reported kind _ _ => kind == .invalidArgument
  | .unexpected cause => cause.kind.isValue

/-- The message of a fault. A report without one, and a breakdown with an empty text, go by the
    name of their kind. -/
def message : Fault → Json
  | .refused reason => .str reason.message
  | .reported kind message details =>
    if message.truthy then message else .str (className (.reported kind message details))
  | .unexpected cause =>
    if cause.text.isEmpty then .str cause.kind.name else .str cause.text

/-- The text of a fault in a log line: its message, or the bare text of a breakdown. A report whose
    message is no text has none. -/
def text (fault : Fault) : Except Fault String :=
  match fault with
  | .unexpected cause => .ok cause.text
  | _ =>
    match fault.message with
    | .str s => .ok s
    | other => .error (.mismatch (.messageNotText other.kindName))

/-- The classification of a fault. -/
def typeId : Fault → TypeId
  | .refused _ => .invalidArgument
  | .reported .invalidArgument _ _ => .invalidArgument
  | .reported .pointNotFound _ _ => .pointNotFound
  | .reported .engineFailure _ _ => .engineFailure
  | .reported .unclassified _ _ => .engineFailure
  | .unexpected cause => if cause.kind.isValue then .invalidArgument else .engineFailure

/-- The further members of the entry of a fault in an answer. -/
def details : Fault → Members
  | .reported _ _ details => details
  | _ => []

@[simp] theorem message_refused (reason : Refusal) :
    (Fault.refused reason).message = .str reason.message := rfl

@[simp] theorem typeId_refused (reason : Refusal) :
    (Fault.refused reason).typeId = .invalidArgument := rfl

@[simp] theorem details_refused (reason : Refusal) : (Fault.refused reason).details = [] := rfl

@[simp] theorem details_unexpected (cause : Breakdown) :
    (Fault.unexpected cause).details = [] := rfl

end Fault

/-! ## 4. Conversions that break down -/

/-- A whole number as the nearest double, which numbers beyond the range of doubles do not have. -/
def floatOfInt (n : Int) : Except Fault Float :=
  let x := Float.ofInt n
  if x.isFinite then .ok x else .error (.unexpected .integerTooLarge)

/-- The whole number of a rounding, or the breakdown of a double without one. -/
def wholeNumber : Except NoInteger Int → Except Fault Int
  | .ok n => .ok n
  | .error why => .error (.unexpected (.noInteger why))

/-- A text, or the breakdown over a whole number with too many digits to be written. -/
def writtenText : Option String → Except Fault String
  | some s => .ok s
  | none => .error (.unexpected .longInteger)

theorem writtenText_eq_ok {text? : Option String} {s : String} :
    writtenText text? = .ok s ↔ text? = some s := by
  cases text? <;> simp [writtenText]

theorem writtenText_eq_error {text? : Option String} {fault : Fault} :
    writtenText text? = .error fault ↔ text? = none ∧ fault = .unexpected .longInteger := by
  cases text? <;> simp [writtenText, eq_comm]

/-- The text of a whole number. -/
def integerText (n : Int) : Except Fault String := writtenText (integerText? n)

theorem integerText_eq_ok {n : Int} {s : String} :
    integerText n = .ok s ↔ fewDigits n = true ∧ s = toString n := by
  rw [integerText, writtenText_eq_ok, integerText?_eq_some]

/-- A value as part of a larger one. -/
def Json.shown (value : Json) : Except Fault String := writtenText value.shown?

/-- A value on its own. -/
def Json.text (value : Json) : Except Fault String := writtenText value.text?

@[simp] theorem Json.text_str (s : String) : (Json.str s).text = .ok s := rfl

/-- Refuses a text that cannot be encoded. -/
def checkEncoded (s : String) : Except Fault Unit :=
  (checkWritten .utf8 s).mapError fun why => .unexpected (.unwritable why)

/-- The breakdown behind an unreadable number text or document. -/
def ReadFault.toFault (s : String) : ReadFault → Fault
  | .digitLimit digits => .unexpected (.digitLimit digits)
  | .tooDeep object => .unexpected (.tooDeep object)
  | fault => .unexpected (.raised .value (fault.message s))

end Waypost
