import Waypost.Document.Errors
import Waypost.Request.Build

/-!
# Responses

* `Content` and `Response` -- what is sent back, whatever carries it;
* `errorResponse` -- the error document of some faults, in the form an output type asks for.
-/

namespace Waypost

open Text

/-- What a response carries. -/
inductive Content where
  | document (json : Json)
  | text (s : String)

/-- What is sent back: a status, the content with its type, and further headers. -/
structure Response where
  status : Nat
  content : Content
  mediaType : Option String
  headers : List (String × String) := []

/-! ## 1. Types and headers -/

def jsonMediaType : String := "application/json"

def gpxMediaType : String := "application/gpx+xml"

def xmlMediaType : String := "application/xml"

/-- The header that tells how long an answer took, in whole milliseconds. -/
def tookHeader : String := "X-GH-Took"

/-- The header that makes a track document a file. -/
def attachmentHeader : String × String :=
  ("Content-Disposition", "attachment;filename=GraphHopper.gpx")

/-- Who creates documents when nobody is named. -/
def defaultCreator : String := "GraphHopper"

/-- The version of the format of XML error documents. -/
def errorXmlVersion : String := "1.1"

/-- A response with a JSON document. -/
def Response.ofJson (status : Nat) (json : Json) (headers : List (String × String) := []) :
    Response :=
  ⟨status, .document json, some jsonMediaType, headers⟩

/-! ## 2. Errors -/

/-- The type of an XML error document. -/
def errorMediaType (outputType : String) : String :=
  if lower outputType == "gpx" then gpxMediaType else xmlMediaType

/-- The response about some faults: XML when the output type is one of XML, else JSON. -/
def errorResponse (faults : List Fault) (outputType : Option String := none)
    (creator : String := defaultCreator) (status : Nat := 400) : Except Fault Response := do
  match outputType.filter isXmlType with
  | some kind =>
    return ⟨status, .text (← errorsXml faults creator errorXmlVersion),
      some (errorMediaType kind), []⟩
  | none => return .ofJson status (← errorsJson faults)

end Waypost
