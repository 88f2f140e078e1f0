import Waypost.Text.Hex
import Waypost.Text.Split

/-!
# Numeric hosts

A host may be given by its number instead of a name.

* `looksLikeFourNumbers` and `isFourNumbers` -- four numbers below 256 with dots between them; what
  only looks like that is no host at all;
* `isEightGroups` -- up to eight groups of hexadecimal digits with colons between them. One run of
  groups that are zero may be left out, and four numbers may stand for the last two groups.
-/

namespace Waypost.Host

open Text

/-! ## 1. Four numbers -/

/-- The stages of a text of four rows of digits with any one character between two rows: an even
    stage waits for the first digit of a row, an odd one is inside a row. -/
def nextStages (c : Char) (stage : Nat) : List Nat :=
  let more := if c.isDigit then [stage / 2 * 2 + 1] else []
  if stage % 2 == 1 && stage < 7 then (stage + 1) :: more else more

/-- Whether a text consists of four rows of digits with one character of any kind between them. -/
def looksLikeFourNumbers (cs : List Char) : Bool :=
  (cs.foldl (fun stages c => (stages.flatMap (nextStages c)).eraseDups) [0]).contains 7

/-- Whether digits are a number below 256 without a zero in front. -/
def isByte (digits : List Char) : Bool :=
  !digits.isEmpty && digits.length ≤ 3 && digits.all (·.isDigit)
    && (digits == ['0'] || digits.head? != some '0')
    && digits.foldl (fun n c => n * 10 + (c.toNat - 48)) 0 < 256

/-- Whether a text is four numbers below 256 with dots between them. -/
def isFourNumbers (cs : List Char) : Bool :=
  let rows := splitOn '.' cs
  rows.length == 4 && rows.all isByte

/-! ## 2. Eight groups -/

/-- Whether digits are one group. -/
def isGroup (digits : List Char) : Bool :=
  !digits.isEmpty && digits.length ≤ 4 && digits.all fun c => (hexValue? c).isSome

/-- Four numbers at the end as the two groups they stand for; nothing if they are not four. -/
def groupsOfEnd? (groups : List (List Char)) : Option (List (List Char)) :=
  match groups.getLast? with
  | some last =>
    if !last.contains '.' then some groups
    else if isFourNumbers last then some (groups.dropLast ++ [['0'], ['0']])
    else none
  | none => none

/-- Whether groups with one run left out are at most seven. An empty group stands at each end that
    the run reaches. -/
def isShortened (front back : List (List Char)) : Bool :=
  let front := if front == [[]] then [] else front
  let back := if back == [[]] then [] else back
  front.all isGroup && back.all isGroup && front.length + back.length < 8

/-- Whether groups, of which a run may be left out, are an address. -/
def areGroups (groups : List (List Char)) : Bool :=
  let inner := groups.dropLast.drop 1
  match inner.findIdx? (·.isEmpty) with
  | none => groups.length == 8 && groups.all isGroup
  | some index => isShortened (groups.take (index + 1)) (groups.drop (index + 2))

/-- Whether what stands behind a percent sign may name a network. -/
def isZone (zone : List Char) : Bool := !zone.isEmpty && !zone.contains '%'

/-- Whether a text is an address in groups. The network it belongs to may follow a percent sign. -/
def isEightGroups (cs : List Char) : Bool :=
  let (address, zone) := cs.span (· != '%')
  let groups := splitOn ':' address
  (zone.isEmpty || isZone (zone.drop 1)) && !cs.contains '/' && 3 ≤ groups.length
    && (groupsOfEnd? groups).any areGroups

end Waypost.Host
