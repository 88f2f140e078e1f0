import Waypost.Decimal.Reader
import Waypost.Json.Basic
import Waypost.Text.Hex
import Waypost.Text.Point

/-!
# Reading JSON texts

A text is first cut into lexemes and the lexemes are then read with a stack of open containers.

* `Malformed` -- the ways in which a text is no JSON value, each with its wording;
* `ReadFault` -- why a text has no value, with the place where reading stopped;
* `lexemes` -- the lexemes of a text, each with the index of its first code point;
* `Json.read` -- the value of a text.

Beyond the grammar, `NaN`, `Infinity` and `-Infinity` are numbers. A number with a point or an
exponent is a double, every other one a whole number. For a repeated key the last value wins, at
the place of the first.
-/

namespace Waypost

open Decimal Text

/-! ## 1. Faults -/

/-- What a reader found or missed. -/
inductive Malformed where
  | value
  | propertyName
  | colon
  | comma
  | openText
  | controlCharacter
  | escape
  | unicodeEscape
  | extraData
  | byteOrderMark
  deriving DecidableEq, Repr

/-- The wording of a malformed place. -/
def Malformed.message : Malformed → String
  | .value => "Expecting value"
  | .propertyName => "Expecting property name enclosed in double quotes"
  | .colon => "Expecting ':' delimiter"
  | .comma => "Expecting ',' delimiter"
  | .openText => "Unterminated string starting at"
  | .controlCharacter => "Invalid control character at"
  | .escape => "Invalid \\escape"
  | .unicodeEscape => "Invalid \\uXXXX escape"
  | .extraData => "Extra data"
  | .byteOrderMark => "Unexpected UTF-8 BOM (decode using utf-8-sig)"

/-- Why a text has no value: it is malformed at an index, a whole number has too many digits, or
    containers are nested too deeply. -/
inductive ReadFault where
  | malformed (what : Malformed) (index : Nat)
  | digitLimit (digits : Nat)
  | tooDeep (object : Bool)
  deriving DecidableEq, Repr

/-! ## 2. Lexemes -/

/-- A lexeme: a mark, a text, another scalar, or a character that starts nothing. Texts and
    scalars may carry the fault that reading them ends with. -/
inductive Lexeme where
  | beginObject
  | endObject
  | beginArray
  | endArray
  | comma
  | colon
  | text (content : Except ReadFault String)
  | scalar (value : Except ReadFault Json)
  | stray
  | finish

/-- The value of four hexadecimal digits. -/
def hexUnit? (a b c d : Char) : Option Nat := do
  let a ← hexValue? a
  let b ← hexValue? b
  let c ← hexValue? c
  let d ← hexValue? d
  return ((a * 16 + b) * 16 + c) * 16 + d

/-- The character that a letter stands for after a backslash. -/
def simpleEscape? (c : Char) : Option Char :=
  match c with
  | '"' => some '"'
  | '\\' => some '\\'
  | '/' => some '/'
  | 'b' => some '\x08'
  | 'f' => some '\x0c'
  | 'n' => some '\n'
  | 'r' => some '\r'
  | 't' => some '\t'
  | _ => none

/-- The content of a text whose opening quote stands at `start`, and the index behind its closing
    quote. The list begins at `index`; the characters read so far are given in reverse. An escape
    of a code unit needs a character behind it, and so does the second half of a pair. A half that
    stands alone stays one. -/
def scanText (start index : Nat) (acc : List Char) :
    List Char → Except ReadFault String × Nat
  | [] => (.error (.malformed .openText start), index)
  | '"' :: _ => (.ok (String.ofList acc.reverse), index + 1)
  | '\\' :: 'u' :: a :: b :: c :: d :: '\\' :: 'u' :: e :: f :: g :: h :: next :: rest =>
    match hexUnit? a b c d with
    | none => (.error (.malformed .unicodeEscape (index + 1)), index)
    | some high =>
      if 0xD800 ≤ high && high ≤ 0xDBFF then
        match hexUnit? e f g h with
        | none => (.error (.malformed .unicodeEscape (index + 7)), index)
        | some low =>
          match pairPoint? high low with
          | some n => scanText start (index + 12) ((heldPoint n).reverse ++ acc) (next :: rest)
          | none =>
            scanText start (index + 6) ((heldPoint high).reverse ++ acc)
              ('\\' :: 'u' :: e :: f :: g :: h :: next :: rest)
      else
        scanText start (index + 6) ((heldPoint high).reverse ++ acc)
          ('\\' :: 'u' :: e :: f :: g :: h :: next :: rest)
  | '\\' :: 'u' :: a :: b :: c :: d :: next :: rest =>
    match hexUnit? a b c d with
    | none => (.error (.malformed .unicodeEscape (index + 1)), index)
    | some unit =>
      scanText start (index + 6) ((heldPoint unit).reverse ++ acc) (next :: rest)
  | '\\' :: 'u' :: _ => (.error (.malformed .unicodeEscape (index + 1)), index)
  | '\\' :: c :: rest =>
    match simpleEscape? c with
    | some plain => scanText start (index + 2) (plain :: acc) rest
    | none => (.error (.malformed .escape index), index)
  | '\\' :: [] => (.error (.malformed .openText start), index)
  | c :: rest =>
    if c.toNat < 32 then (.error (.malformed .controlCharacter index), index)
    else scanText start (index + pointWidth c) (c :: acc) rest

/-- The whole part of a number: a zero, or digits that do not begin with one. -/
def wholePart : List Char → List Char × List Char
  | '0' :: rest => (['0'], rest)
  | cs => takeDigits cs

/-- The point of a number with at least one digit behind it. -/
def fractionPart (cs : List Char) : List Char × List Char :=
  match cs with
  | '.' :: more =>
    let (digits, rest) := takeDigits more
    if digits.isEmpty then ([], cs) else (digits, rest)
  | _ => ([], cs)

/-- How many characters a sign takes. -/
def signSize : List Char → Nat
  | '-' :: _ | '+' :: _ => 1
  | _ => 0

/-- The exponent of a number, if there is one, and how many characters it takes. -/
def powerPart : List Char → Option (Int × Nat)
  | [] => none
  | mark :: more =>
    if mark == 'e' || mark == 'E' then
      let (negative, unsigned) := takeSign more
      let digits := (takeDigits unsigned).1
      if digits.isEmpty then none
      else
        let n : Int := digitsValue digits
        some (if negative then -n else n, 1 + signSize more + digits.length)
    else none

/-- The number at the front of a list, and how many characters it takes. -/
def scanNumber? (cs : List Char) : Option (Except ReadFault Json × Nat) :=
  let (negative, body) :=
    match cs with
    | '-' :: rest => (true, rest)
    | _ => (false, cs)
  let (whole, rest) := wholePart body
  if whole.isEmpty then none
  else
    let (fraction, rest) := fractionPart rest
    let power? := powerPart rest
    let value : Except ReadFault Json :=
      if fraction.isEmpty && power?.isNone then
        match boundedInteger negative whole with
        | .ok n => .ok (.int n)
        | .error digits => .error (.digitLimit digits)
      else
        let power := (power?.map (·.1)).getD 0
        .ok (.float (nearestFloat negative (whole ++ fraction) (power - fraction.length)))
    let size := negative.toNat + whole.length
      + (if fraction.isEmpty then 0 else 1 + fraction.length) + (power?.map (·.2)).getD 0
    some (value, size)

/-- The words that stand for a value. -/
def words : List (String × Json) :=
  [("null", .null), ("true", .bool true), ("false", .bool false), ("NaN", .float (0.0 / 0.0)),
    ("Infinity", .float (1.0 / 0.0)), ("-Infinity", .float (-1.0 / 0.0))]

/-- The lexeme at the front of a list that stands at an index, and how many characters it takes. -/
def lexeme (index : Nat) (cs : List Char) : Lexeme × Nat :=
  match cs with
  | '\x7b' :: _ => (.beginObject, 1)
  | '\x7d' :: _ => (.endObject, 1)
  | '[' :: _ => (.beginArray, 1)
  | ']' :: _ => (.endArray, 1)
  | ',' :: _ => (.comma, 1)
  | ':' :: _ => (.colon, 1)
  | '"' :: rest =>
    let (content, stop) := scanText index (index + 1) [] rest
    (.text content, stop - index)
  | _ =>
    match words.find? fun word => word.1.toList.isPrefixOf cs with
    | some word => (.scalar (.ok word.2), word.1.length)
    | none =>
      match scanNumber? cs with
      | some (value, size) => (.scalar value, size)
      | none => (.stray, 1)

/-- The characters that may stand between lexemes. -/
def isFiller (c : Char) : Bool := c == ' ' || c == '\t' || c == '\n' || c == '\r'

/-- The lexemes from an index on. The first argument counts the code points that still belong to
    the lexeme before. -/
def lexemesFrom (covered index : Nat) : List Char → List (Nat × Lexeme)
  | [] => [(index, .finish)]
  | c :: rest =>
    match covered with
    | more + 1 => lexemesFrom (more + 1 - pointWidth c) (index + pointWidth c) rest
    | 0 =>
      if isFiller c then lexemesFrom 0 (index + 1) rest
      else
        let (found, size) := lexeme index (c :: rest)
        (index, found) :: lexemesFrom (size - 1) (index + 1) rest

/-- The lexemes of a text, each with the index of its first code point, and a last one that marks
    the end. -/
def lexemes (cs : List Char) : List (Nat × Lexeme) := lexemesFrom 0 0 cs

/-! ## 3. Values -/

/-- A container that is still open, with what it holds so far in reverse. -/
inductive Frame where
  | array (items : List Json)
  | object (members : Members) (key : String)

/-- What the next lexeme has to be. -/
inductive Expected where
  | value
  | valueOrEnd
  | key (members : Members)
  | keyOrEnd
  | colon (members : Members) (key : String)
  | afterValue (value : Json)

/-- How many containers may be open at once. The bound on the depth of recursion is one of the
    interpreter, 1000 calls unless it is told otherwise, and a container takes one of them. This
    is what is left of them where a body or an answer is read: the calls that lead there count too,
    so the number is one of how the server is run and stands for any other of that size. -/
def depthLimit : Nat := 950

/-- Opens a container, unless too many are open. -/
def pushFrame (object : Bool) (stack : List Frame) (frame : Frame) :
    Except ReadFault (List Frame) :=
  if stack.length < depthLimit then .ok (frame :: stack) else .error (.tooDeep object)

/-- Reads lexemes with the stack of open containers. -/
def readLexemes (stack : List Frame) (expected : Expected) :
    List (Nat × Lexeme) → Except ReadFault Json
  | [] => .error (.malformed .value 0)
  | (index, found) :: rest =>
    let readValue : Except ReadFault Json :=
      match found with
      | .scalar value => do readLexemes stack (.afterValue (← value)) rest
      | .text content => do readLexemes stack (.afterValue (.str (← content))) rest
      | .beginArray => do readLexemes (← pushFrame false stack (.array [])) .valueOrEnd rest
      | .beginObject => do readLexemes (← pushFrame true stack (.object [] "")) .keyOrEnd rest
      | _ => .error (.malformed .value index)
    let readKey (members : Members) : Except ReadFault Json :=
      match found with
      | .text content => do readLexemes stack (.colon members (← content)) rest
      | _ => .error (.malformed .propertyName index)
    match expected with
    | .value => readValue
    | .valueOrEnd =>
      match found, stack with
      | .endArray, _ :: outer => readLexemes outer (.afterValue (.arr [])) rest
      | _, _ => readValue
    | .key members => readKey members
    | .keyOrEnd =>
      match found, stack with
      | .endObject, _ :: outer => readLexemes outer (.afterValue (.obj [])) rest
      | _, _ => readKey []
    | .colon members key =>
      match found, stack with
      | .colon, _ :: outer => readLexemes (.object members key :: outer) .value rest
      | _, _ => .error (.malformed .colon index)
    | .afterValue value =>
      match stack with
      | [] =>
        match found with
        | .finish => .ok value
        | _ => .error (.malformed .extraData index)
      | .array items :: outer =>
        match found with
        | .endArray => readLexemes outer (.afterValue (.arr (value :: items).reverse)) rest
        | .comma => readLexemes (.array (value :: items) :: outer) .value rest
        | _ => .error (.malformed .comma index)
      | .object members key :: outer =>
        match found with
        | .endObject => readLexemes outer (.afterValue (.obj (members.set key value))) rest
        | .comma => readLexemes (.object [] "" :: outer) (.key (members.set key value)) rest
        | _ => .error (.malformed .comma index)

/-- The value of a text. -/
def Json.read (s : String) : Except ReadFault Json :=
  match s.toList with
  | c :: rest =>
    if c.toNat = 0xFEFF then .error (.malformed .byteOrderMark 0)
    else readLexemes [] .value (lexemes (c :: rest))
  | [] => .error (.malformed .value 0)

/-! ## 4. Wording -/

/-- Line and column of an index, both counted from one. -/
def lineColumn (s : String) (index : Nat) : Nat × Nat :=
  let before := (pointsOf s.toList).take index
  let lineBreak := '\n'.toNat
  ((before.filter (· == lineBreak)).length + 1,
    (before.reverse.takeWhile (· != lineBreak)).length + 1)

/-- The message about a whole number with too many digits. -/
def digitLimitMessage (digits : Nat) : String :=
  s!"Exceeds the limit (4300 digits) for integer string conversion: value has {digits} digits; "
    ++ "use sys.set_int_max_str_digits() to increase the limit"

/-- The wording of a fault in a text. -/
def ReadFault.message (s : String) : ReadFault → String
  | .malformed what index =>
    let (line, column) := lineColumn s index
    s!"{what.message}: line {line} column {column} (char {index})"
  | .digitLimit digits => digitLimitMessage digits
  | .tooDeep object =>
    let container := if object then "object" else "array"
    s!"maximum recursion depth exceeded while decoding a JSON {container} from a unicode string"

end Waypost
