import Waypost.Host.Composition
import Waypost.Host.DirectionTable
import Waypost.Host.LetterTable
import Waypost.Host.Punycode
import Waypost.Text.Quoted

/-!
# Labels of host names

A label is one part of a host name. Letters of every script are allowed, under rules about the form
of the label, about characters that need certain neighbours, and about the direction of writing.

* `LabelFault` -- what is wrong with a label or a name, each with its wording;
* `checkLabel` -- all rules for a label;
* `asciiLabel` and `plainLabel` -- the ASCII form of a label, and the label of an ASCII form.
-/

namespace Waypost.Host

open Text

/-! ## 1. Faults -/

/-- What is wrong with the directions in a label. -/
inductive DirectionFault where
  | first
  | mixed (rightToLeft : Bool) (position : Nat)
  | digits
  | last
  deriving DecidableEq, Repr

/-- What is wrong with a label or a name. Positions are counted from one. -/
inductive LabelFault where
  | emptyLabel
  | emptyName
  | labelTooLong
  | nameTooLong
  | notComposed
  | innerHyphens
  | outerHyphen
  | leadingMark
  | forbidden (c : Char) (position : Nat) (label : String)
  | joiner (c : Char) (position : Nat) (label : String)
  | neighbours (c : Char) (position : Nat) (label : String)
  | direction (what : DirectionFault) (label : String)
  | noContent
  | hyphenAtEnd
  | unreadable
  deriving DecidableEq, Repr

/-- The classes of faults that callers tell apart. -/
inductive LabelFaultKind where
  | form
  | letter
  | neighbours
  | direction
  deriving DecidableEq, Repr

/-- The class of a fault. -/
def LabelFault.kind : LabelFault → LabelFaultKind
  | .forbidden .. => .letter
  | .neighbours .. => .neighbours
  | .direction .. => .direction
  | _ => .form

/-- A code point as it is written in messages. -/
def pointText (c : Char) : String :=
  "U+" ++ String.ofList ((hexDigits 4 c.toNat).map (·.toUpper))

/-- The wording of a fault of directions. -/
def DirectionFault.message (label : String) : DirectionFault → String
  | .first => "First codepoint in label " ++ quote label ++ " must be directionality L, R or AL"
  | .mixed rightToLeft position =>
    s!"Invalid direction for codepoint at position {position} in a "
      ++ (if rightToLeft then "right-to-left label" else "left-to-right label")
  | .digits => "Can not mix numeral types in a right-to-left label"
  | .last => "Label ends with illegal codepoint directionality"

/-- The wording of a fault. -/
def LabelFault.message : LabelFault → String
  | .emptyLabel => "Empty Label"
  | .emptyName => "Empty domain"
  | .labelTooLong => "Label too long"
  | .nameTooLong => "Domain too long"
  | .notComposed => "Label must be in Normalization Form C"
  | .innerHyphens => "Label has disallowed hyphens in 3rd and 4th position"
  | .outerHyphen => "Label must not start or end with a hyphen"
  | .leadingMark => "Label begins with an illegal combining character"
  | .forbidden c position label =>
    "Codepoint " ++ pointText c ++ s!" at position {position} of " ++ quote label ++ " not allowed"
  | .joiner c position label =>
    "Unknown codepoint adjacent to joiner " ++ pointText c ++ s!" at position {position} in "
      ++ quote label
  | .neighbours c position label =>
    "Codepoint " ++ pointText c ++ s!" not allowed at position {position} in " ++ quote label
  | .direction what label => what.message label
  | .noContent => "Malformed A-label, no Punycode eligible content found"
  | .hyphenAtEnd => "A-label must not end with a hyphen"
  | .unreadable => "Invalid A-label"

/-! ## 2. Letters and their neighbours -/

/-- Whether a character is a letter of host names, whatever its neighbours are. -/
def isLetter (c : Char) : Bool :=
  letterRanges.contains c || alternatingLetters.any fun row =>
    row.1 ≤ c.toNat && c.toNat ≤ row.2 && (c.toNat - row.1) % 2 == 0

/-- Whether a character is a mark. -/
def isMark (c : Char) : Bool := nonspacingMarks.contains c || spacingMarks.contains c

/-- Marks with a width of their own that joining letters look through all the same. -/
def widePassed : CharSet := [(0xCBF, 0xCBF), (0xCC6, 0xCC6), (0x11A07, 0x11A08),
  (0x11C3F, 0x11C3F), (0x1E94B, 0x1E94B)]

/-- Whether joining letters look through a character to the next one. -/
def isPassed (c : Char) : Bool :=
  (nonspacingMarks.contains c && c.toNat != 0x1171E) || widePassed.contains c

/-- Whether the character behind others, which are given in reverse, follows a mark that silences
    a vowel. -/
def followsSilencer (before : List Char) : Bool := before.head?.any fun c => markOrder c = 9

/-- Whether letters on both sides would join if nothing stood between them. -/
def joins (before after : List Char) : Bool :=
  let reaches (letters : List CharSet) (side : List Char) : Bool :=
    (side.find? fun c => !isPassed c).any fun c => letters.any fun set => set.contains c
  reaches [joiningBoth, joiningNext] before && reaches [joiningBoth, joiningPrevious] after

/-- The letters of three scripts that stand beside the middle dot of one of them. -/
def eastAsian : CharSet :=
  [(12293, 12293), (12295, 12295), (12353, 12438), (12445, 12446), (12449, 12538), (12541, 12542),
   (12784, 12799), (13312, 40959), (64014, 64041), (94179, 94179), (94192, 94193),
   (110576, 110879), (110880, 110882), (110928, 110930), (110948, 110951), (131072, 201546)]

/-- Greek letters. -/
def greek : CharSet := [(881, 993), (1011, 1020), (7462, 7466), (7936, 8182), (43877, 43877)]

/-- Hebrew letters and marks. -/
def hebrew : CharSet := [(1425, 1524), (64286, 64286)]

/-- One row of ten digits. -/
def digitRow (start : Nat) : CharSet := [(start, start + 9)]

/-- Whether a character that needs certain neighbours has them; the characters in front of it are
    given in reverse. Every other character that is no letter is allowed nowhere. -/
def allowedBetween? (c : Char) (before after : List Char) : Option Bool :=
  match c.toNat with
  | 0x200C => some (followsSilencer before || joins before after)
  | 0x200D => some (followsSilencer before)
  | 0xB7 => some (before.head? == some 'l' && after.head? == some 'l')
  | 0x375 => some (after.head?.any greek.contains)
  | 0x5F3 | 0x5F4 => some (before.head?.any hebrew.contains)
  | 0x30FB => some ((before ++ after).any fun d => d != c && eastAsian.contains d)
  | _ =>
    if (digitRow 0x660).contains c then some (!(before ++ after).any (digitRow 0x6F0).contains)
    else if (digitRow 0x6F0).contains c then
      some (!(before ++ after).any (digitRow 0x660).contains)
    else none

/-- Checks the characters of a label one by one. -/
def checkLetters (label : String) (before : List Char) : List Char → Except LabelFault Unit
  | [] => .ok ()
  | c :: after =>
    let position := before.length + 1
    match if isLetter c then some true else allowedBetween? c before after with
    | some true => checkLetters label (c :: before) after
    | some false =>
      if c.toNat = 0x200C || c.toNat = 0x200D then .error (.joiner c position label)
      else .error (.neighbours c position label)
    | none => .error (.forbidden c position label)

/-! ## 3. Directions -/

/-- The direction of a letter, as far as labels tell it apart. -/
inductive Direction where
  | leftToRight
  | rightToLeft
  | eastNumber
  | westNumber
  | mark
  | neutral
  deriving DecidableEq, Repr

/-- The direction of a letter of host names. -/
def Direction.of (c : Char) : Direction :=
  if nonspacingMarks.contains c then .mark
  else if Host.rightToLeft.contains c then .rightToLeft
  else if eastNumbers.contains c then .eastNumber
  else if westNumbers.contains c then .westNumber
  else if c == '-' || otherNeutrals.contains c || c.toNat = 0x200C || c.toNat = 0x200D then
    .neutral
  else .leftToRight

/-- The last direction that does not belong to a mark. -/
def lastDirection? (directions : List Direction) : Option Direction :=
  directions.reverse.find? (· != .mark)

/-- Checks the directions of a label that begins from right to left. -/
def checkReversed (directions : List Direction) : Except DirectionFault Unit :=
  match directions.findIdx? (· == .leftToRight) with
  | some index => .error (.mixed true (index + 1))
  | none =>
    if directions.contains .eastNumber && directions.contains .westNumber then .error .digits
    else if (lastDirection? directions).any (· != .neutral) then .ok ()
    else .error .last

/-- Checks the directions of a label. A label without anything written from right to left passes. -/
def checkDirections (directions : List Direction) : Except DirectionFault Unit :=
  if !directions.any (fun d => d == .rightToLeft || d == .eastNumber) then .ok ()
  else
    match directions.head? with
    | some .rightToLeft => checkReversed directions
    | some .leftToRight =>
      match directions.findIdx? fun d => d == .rightToLeft || d == .eastNumber with
      | some index => .error (.mixed false (index + 1))
      | none => .ok ()
    | _ => .error .first

/-! ## 4. Labels -/

/-- The most characters of a name, with a dot at its end. -/
def nameLimit : Nat := 254

/-- The most characters of the ASCII form of a label. -/
def labelLimit : Nat := 63

/-- Checks a label. -/
def checkLabel (cs : List Char) : Except LabelFault Unit := do
  let label := String.ofList cs
  if cs.isEmpty then throw .emptyLabel
  if nameLimit < cs.length then throw .labelTooLong
  if !isComposed cs then throw .notComposed
  if (cs.drop 2).take 2 == ['-', '-'] then throw .innerHyphens
  if cs.head? == some '-' || cs.getLast? == some '-' then throw .outerHyphen
  if cs.head?.any isMark then throw .leadingMark
  checkLetters label [] cs
  (checkDirections (cs.map Direction.of)).mapError fun what => .direction what label

/-- What the ASCII form of a label begins with. -/
def asciiStart : List Char := "xn--".toList

/-- The label of an ASCII form. A label that is no such form stands for itself. -/
def plainLabel (cs : List Char) : Except LabelFault (List Char) := do
  let small := cs.map (·.toLower)
  if !asciiStart.isPrefixOf small then
    checkLabel small
    return small
  let form := small.drop asciiStart.length
  if form.isEmpty then throw .noContent
  if form.getLast? == some '-' then throw .hyphenAtEnd
  match Punycode.decode? form with
  | none => throw .unreadable
  | some label => do
    checkLabel label
    return label

/-- The ASCII form of a label. -/
def asciiLabel (cs : List Char) : Except LabelFault (List Char) := do
  let form ←
    if cs.all fun c => c.toNat < 128 then do
      let _ ← plainLabel cs
      pure cs
    else do
      checkLabel cs
      pure (asciiStart ++ Punycode.encode cs)
  if labelLimit < form.length then throw .labelTooLong
  return form

end Waypost.Host
