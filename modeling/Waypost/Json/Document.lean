import Waypost.Json.Reader
import Waypost.Text.Encoding

/-!
# Documents of values

A document that comes over the network holds one value. It is read from its bytes, whose encoding
shows in them.

* `DocumentFault` -- why a document holds no value, with its wording;
* `Json.ofBytes` -- the value of a document.
-/

namespace Waypost

open Text

/-- Why a document holds no value: its bytes are no text, or the text is no value. -/
inductive DocumentFault where
  | noText (why : DecodeFault)
  | noValue (why : ReadFault) (text : String)

/-- The wording of a fault. Places in the text do not count a mark of the encoding. -/
def DocumentFault.message : DocumentFault → String
  | .noText why => why.message
  | .noValue why text => why.message text

/-- The value of a document. -/
def Json.ofBytes (bytes : List Nat) : Except DocumentFault Json :=
  match decodeText bytes with
  | .error why => .error (.noText why)
  | .ok cs =>
    (readLexemes [] .value (lexemes cs)).mapError fun why => .noValue why (String.ofList cs)

end Waypost
