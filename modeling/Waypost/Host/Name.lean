import Waypost.Host.Label
import Waypost.Text.Split

/-!
# Host names

A host name is a row of labels with dots between them; dots of four forms count. A dot may also
stand at the end.

* `asciiName` -- the ASCII form of a name;
* `plainName` -- the name of an ASCII form.
-/

namespace Waypost.Host

open Text

/-- The dots that may stand between labels. -/
def isDot (c : Char) : Bool :=
  c == '.' || c.toNat = 0x3002 || c.toNat = 0xFF0E || c.toNat = 0xFF61

/-- The labels of a name, and whether a dot stands at its end. -/
def labels (name : List Char) : List (List Char) × Bool :=
  let pieces := splitOn '.' (name.map fun c => if isDot c then '.' else c)
  if pieces.getLast? == some [] then (pieces.dropLast, true) else (pieces, false)

/-- A name with a function applied to each of its labels. -/
def mapLabels (f : List Char → Except LabelFault (List Char)) (name : List Char) :
    Except LabelFault (List Char) := do
  if nameLimit < name.length then throw .nameTooLong
  if name.isEmpty then throw .emptyName
  let (pieces, dotted) := labels name
  let formed ← pieces.mapM f
  return ['.'].intercalate (if dotted then formed ++ [[]] else formed)

/-- The ASCII form of a name. -/
def asciiName (name : List Char) : Except LabelFault (List Char) := do
  let form ← mapLabels asciiLabel name
  let limit := if form.getLast? == some '.' then nameLimit else nameLimit - 1
  if limit < form.length then throw .nameTooLong
  return form

/-- The name of an ASCII form. -/
def plainName (form : List Char) : Except LabelFault (List Char) := mapLabels plainLabel form

end Waypost.Host
