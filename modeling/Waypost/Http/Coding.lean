import Waypost.Packing.Wrapped
import Waypost.Text.Blank
import Waypost.Text.Case
import Waypost.Text.Split

/-!
# Codings of content

The bytes of an answer may be packed. A header names the codings in the order in which they were
applied, separated by commas; unknown names are passed over.

* `Coding` -- the known codings;
* `Coding.undo` -- content without a coding;
* `decodeContent` -- content without all the codings that a header names.
-/

namespace Waypost

open Packing Text

/-- The known codings. -/
inductive Coding where
  | plain
  | file
  | deflated
  deriving DecidableEq, Repr

/-- The coding of a name. -/
def Coding.named? : String → Option Coding
  | "identity" => some .plain
  | "gzip" => some .file
  | "deflate" => some .deflated
  | _ => none

/-- Content without a coding. Deflated content should have a wrapper; where it cannot be read with
    one it is taken to have none. -/
def Coding.undo : Coding → List Nat → Except UnpackFault (List Nat)
  | .plain, bytes => .ok bytes
  | .file, bytes => unpackFile bytes
  | .deflated, bytes =>
    match unpackShort bytes with
    | .ok unpacked => .ok unpacked
    | .error _ => unpackBare bytes

/-- The codings that a header names. -/
def codingsOf (header : String) : List Coding :=
  (splitText ',' header).filterMap fun name => Coding.named? (lower (strip name))

/-- Content without the codings that a header names; the last one that was applied is undone
    first. -/
def decodeContent (header : String) (bytes : List Nat) : Except UnpackFault (List Nat) :=
  (codingsOf header).foldrM Coding.undo bytes

end Waypost
