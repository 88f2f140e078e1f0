import Waypost.Http.Coding
import Waypost.Http.Redirect
import Waypost.Http.Status

/-!
# Exchanges over the network

* `Reply` and `Transport` -- what the network gives back for a call;
* `Answer` -- what arrived, with its content unpacked;
* `receive` -- the answer in a reply;
* `exchange` -- sends a call, visibly, and receives its answer.

Headers have to be written in ASCII, content must be unpacked without a fault, the call must have a
scheme, and a redirect must lead to an address.
-/

namespace Waypost

open Text

/-! ## 1. Replies -/

/-- What the network gives back: an answer with a status, headers and a text, or the text of a
    failure. -/
inductive Reply where
  | answered (status : Nat) (headers : List (String × String)) (text : String)
  | failed (message : String)
  deriving Repr

/-- Gives the reply to a call. -/
abbrev Transport := Call → Reply

/-- What arrived: the status, the location that it leads to if any, and the bytes of the content. -/
structure Answer where
  status : Nat
  location : Option String
  bytes : List Nat

/-- The value of a header in any letter case; several values of one name are joined. -/
def headerValue? (headers : List (String × String)) (name : String) : Option String :=
  match (headers.filter fun header => lower header.1 == name).map (·.2) with
  | [] => none
  | values => some (", ".intercalate values)

/-! ## 2. Answers -/

/-- Refuses headers that are not written in ASCII. -/
def checkHeaders (headers : List (String × String)) : Except CallFault Unit :=
  headers.forM fun (name, value) =>
    ((do checkWritten .ascii name; checkWritten .ascii value) : Except EncodeFault Unit).mapError
      fun why => .broken (.unwritable why)

/-- The location that an answer leads to. -/
def locationOf (status : Nat) (headers : List (String × String)) : Option String :=
  if isRedirect status then headerValue? headers "location" else none

/-- The answer in a reply to a call. -/
def receive (call : Call) : Reply → Except CallFault Answer
  | .failed message => .error (.failed message)
  | .answered status headers text => do
    checkHeaders headers
    let codings := (headerValue? headers "content-encoding").getD ""
    let bytes ← (decodeContent codings (textBytes text)).mapError fun why => .failed why.message
    if call.address.scheme.isEmpty then throw (.broken (.withoutScheme call.url))
    let location := locationOf status headers
    location.forM (checkRedirect call)
    return { status, location, bytes }

/-- Whether an answer is a success. -/
def Answer.isSuccess (answer : Answer) : Bool := 200 ≤ answer.status && answer.status < 300

/-- The page that explains a status code. -/
def statusPage (status : Nat) : String :=
  "https" ++ "://developer.mozilla.org/en-US/docs/Web/HTTP/Status/" ++ toString status

/-- The text about an answer that is no success. -/
def Answer.failure (answer : Answer) (call : Call) : String :=
  let redirect := (answer.location.map fun target => s!"\nRedirect location: '{target}'").getD ""
  statusKind answer.status ++ " '" ++ toString answer.status ++ " " ++ reasonPhrase answer.status
    ++ "' for url '" ++ call.url ++ "'" ++ redirect ++ "\nFor more information check: "
    ++ statusPage answer.status

/-- Sends a call and receives its answer, or the reason why it failed. -/
def exchange (transport : Transport) (call : Call) : Run (Except String Answer) := do
  Run.emit (.sent call)
  match receive call (transport call) with
  | .ok answer => return .ok answer
  | .error (.failed reason) => return .error reason
  | .error (.broken cause) => Run.fail (.unexpected cause)

end Waypost
