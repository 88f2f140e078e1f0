import Waypost.Host.CompositionTable
import Waypost.Host.MarkTable

/-!
# Composed form

A letter with marks can be written in more than one way. In composed form each letter is composed
with as many of its marks as there are composed letters for, and the marks that are left stand in
the order of their places.

* `decomposed` -- every letter taken apart, with its marks in order;
* `composed` -- every mark joined to its letter where nothing stands between them;
* `isComposed` -- whether a text has the composed form.

Only letters of host names are taken apart and joined.
-/

namespace Waypost.Host

/-- The place of a mark among several marks on one letter; zero for what is no mark. -/
def markOrder (c : Char) : Nat :=
  match markOrders.find? fun entry => entry.1 ≤ c.toNat && c.toNat ≤ entry.2.1 with
  | some entry => entry.2.2
  | none => 0

/-- A letter and the mark that a composed letter stands for. -/
def parts? (c : Char) : Option (Char × Char) :=
  (compositions.find? fun entry => entry.1 == c.toNat).map fun entry =>
    (Char.ofNat entry.2.1, Char.ofNat entry.2.2)

/-- The composed letter of a letter and a mark. -/
def joined? (letter mark : Char) : Option Char :=
  (compositions.find? fun entry => entry.2.1 == letter.toNat && entry.2.2 == mark.toNat).map
    fun entry => Char.ofNat entry.1

/-- How many marks a composed letter has at most. -/
def markDepth : Nat := 3

/-- A letter with up to the given number of marks taken off, innermost first. -/
def takenApart : Nat → Char → List Char
  | 0, c => [c]
  | depth + 1, c =>
    match parts? c with
    | some (letter, mark) => takenApart depth letter ++ [mark]
    | none => [c]

/-- Inserts a mark in front of the marks with a greater place. The list is a text in reverse. -/
def insertMark (mark : Char) : List Char → List Char
  | [] => [mark]
  | c :: before =>
    if markOrder mark != 0 && markOrder mark < markOrder c then c :: insertMark mark before
    else mark :: c :: before

/-- A text with every letter taken apart and the marks in order. -/
def decomposed (cs : List Char) : List Char :=
  ((cs.flatMap (takenApart markDepth)).foldl (fun before c => insertMark c before) []).reverse

/-- Joins marks to a letter. The marks that were not joined so far are given in reverse; one of
    them stands in the way of a mark unless its place is smaller. -/
def joinMarks (letter : Char) (kept : List Char) : List Char → List Char
  | [] => letter :: kept.reverse
  | c :: rest =>
    let free := kept.head?.all fun last => markOrder last < markOrder c
    match if free then joined? letter c else none with
    | some whole => joinMarks whole kept rest
    | none =>
      if markOrder c = 0 then letter :: kept.reverse ++ joinMarks c [] rest
      else joinMarks letter (c :: kept) rest

/-- A text with marks in order, each joined to its letter where possible. -/
def composed : List Char → List Char
  | [] => []
  | c :: rest => joinMarks c [] rest

/-- Whether a text has the composed form. -/
def isComposed (cs : List Char) : Bool := composed (decomposed cs) == cs

end Waypost.Host
