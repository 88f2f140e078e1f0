import Waypost.Hints.Basic

/-!
# Hints from query strings

* `groupPairs` -- the pairs of a query string by key, keys in order of first appearance;
* `singleValues` -- the keys that came exactly once and are not among the skipped ones;
* `Hints.ofQuery` -- the hints of a query string.

A key that came more than once is dropped here: repeated keys are typed fields of a request.
-/

namespace Waypost

/-- Values of a query string by key. -/
abbrev Grouped := List (String × List String)

/-- Adds a value to those of its key. -/
def Grouped.add (key value : String) : Grouped → Grouped
  | [] => [(key, [value])]
  | (k, values) :: rest =>
    if k == key then (k, values ++ [value]) :: rest else (k, values) :: Grouped.add key value rest

/-- The pairs of a query string by key. -/
def groupPairs (pairs : List (String × String)) : Grouped :=
  pairs.foldl (fun grouped pair => grouped.add pair.1 pair.2) []

/-- Whether a key was sent. -/
def Grouped.has (grouped : Grouped) (key : String) : Bool := grouped.any (·.1 == key)

/-- The normal forms and values of the keys that came exactly once, less the skipped keys. -/
def singleValues (grouped : Grouped) (skip : List String) : List (String × String) :=
  let skipped := skip.map normalizeKey
  grouped.filterMap fun (key, values) =>
    match values with
    | [value] =>
      let normal := normalizeKey key
      if skipped.contains normal then none else some (normal, value)
    | _ => none

/-- The values to put for a query string. -/
def hintPairs (grouped : Grouped) (skip : List String) : List (String × Json) :=
  (singleValues grouped skip).map fun (key, value) => (key, .str value)

/-- The hints of a query string. -/
def Hints.ofQuery (grouped : Grouped) (skip : List String) : Except Fault Hints :=
  Hints.empty.putAll (hintPairs grouped skip)

end Waypost
