import Waypost.Document.Xml
import Waypost.Fault.Basic

/-!
# Error documents

A failed request is answered with all faults of the stage that failed, in order.

* `errorsJson` -- the first message, and an entry with message and classification for each fault;
  the details of a fault are further members of its entry;
* `errorsXml` -- the same for callers that asked for XML, as a minimal GPX document.
-/

namespace Waypost

/-- The entry of a fault. Its details may replace the two members that every entry has. -/
def errorEntry (fault : Fault) : Members :=
  Members.update [("message", fault.message), ("details", .str fault.typeId.name)] fault.details

/-- The JSON document of one fault and those after it. -/
def errorsJsonFrom (first : Fault) (rest : List Fault) : Json :=
  .obj [("message", first.message),
    ("hints", .arr ((first :: rest).map fun fault => .obj (errorEntry fault)))]

/-- The JSON document of some faults, of which there has to be one. -/
def errorsJson (faults : List Fault) : Except Fault Json :=
  match faults with
  | [] => .error (.unexpected (.noErrors .json))
  | first :: rest => .ok (errorsJsonFrom first rest)

/-- The message of a fault where only a text can stand. -/
def messageText (fault : Fault) : Except Fault String :=
  match fault.message with
  | .str s => .ok s
  | other => do throw (.mismatch (.notWritable (← other.shown) other.kindName))

/-- The element of a fault. -/
def errorElement (fault : Fault) : Except Fault Xml := do
  return .leaf "error" [("message", ← messageText fault), ("details", fault.typeId.name)] ""

/-- The XML document of some faults, of which there has to be one. -/
def errorsXml (faults : List Fault) (creator version : String) : Except Fault String := do
  match faults with
  | [] => throw (.unexpected (.noErrors .xml))
  | first :: _ =>
    let message := Xml.leaf "message" [] (← messageText first)
    let entries := Xml.node "hints" [] (← faults.mapM errorElement)
    return xmlDocument (.node "gpx" [("creator", creator), ("version", version)]
      [.node "metadata" [] [.node "extensions" [] [message, entries]]])

end Waypost
