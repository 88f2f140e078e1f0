/-!
# XML documents

* `Xml` -- an element with its attributes in order and either a text or child elements;
* `escapeText` and `escapeAttribute` -- the characters that cannot stand for themselves;
* `Xml.render` -- the text of an element: no blanks between elements, and the short form for an
  element with nothing inside;
* `xmlDocument` -- an element behind the declaration.
-/

namespace Waypost

/-- An XML element. -/
inductive Xml where
  | leaf (name : String) (attributes : List (String × String)) (text : String)
  | node (name : String) (attributes : List (String × String)) (children : List Xml)

/-- One character inside a text. -/
def escapeTextChar (c : Char) : List Char :=
  match c with
  | '&' => "&amp;".toList
  | '<' => "&lt;".toList
  | '>' => "&gt;".toList
  | _ => [c]

/-- One character inside an attribute. -/
def escapeAttributeChar (c : Char) : List Char :=
  match c with
  | '"' => "&quot;".toList
  | '\r' => "&#13;".toList
  | '\n' => "&#10;".toList
  | '\t' => "&#09;".toList
  | _ => escapeTextChar c

/-- A text between tags. -/
def escapeText (s : String) : String := String.ofList (s.toList.flatMap escapeTextChar)

/-- A text between the quotes of an attribute. -/
def escapeAttribute (s : String) : String := String.ofList (s.toList.flatMap escapeAttributeChar)

/-- Attributes as they stand behind the name of an element. -/
def renderAttributes (attributes : List (String × String)) : String :=
  String.join (attributes.map fun (name, value) => s!" {name}=\"" ++ escapeAttribute value ++ "\"")

/-- An element with the given text of its inside. -/
def renderElement (name : String) (attributes : List (String × String)) (inside : String) :
    String :=
  let opening := "<" ++ name ++ renderAttributes attributes
  if inside.isEmpty then opening ++ " />" else opening ++ ">" ++ inside ++ "</" ++ name ++ ">"

mutual

/-- The text of an element. -/
def Xml.render : Xml → String
  | .leaf name attributes text => renderElement name attributes (escapeText text)
  | .node name attributes children => renderElement name attributes (renderAll children)

/-- The texts of several elements one after another. -/
def renderAll : List Xml → String
  | [] => ""
  | child :: rest => child.render ++ renderAll rest

end

/-- The declaration in front of every document. -/
def xmlDeclaration : String := "<?xml version=\"1.0\" encoding=\"UTF-8\" standalone=\"no\" ?>"

/-- The text of a whole document. -/
def xmlDocument (root : Xml) : String := xmlDeclaration ++ root.render

end Waypost
