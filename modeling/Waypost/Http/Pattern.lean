import Waypost.Decimal.Reader
import Waypost.Json.Basic
import Waypost.Text.Hex
import Waypost.Text.Split

/-!
# Patterns of paths

A path can be given with open pieces: a name between curly brackets, or a name and a kind with a
colon between them. An open piece binds its name to a value of its kind.

* `PieceKind` -- the kinds of open pieces;
* `PatternFault` -- why a text is no pattern for the start of paths, with its wording;
* `PathPattern.of` -- the pattern of a text;
* `PathPattern.bind?` -- what a path binds, if the pattern fits it.

Pieces take as much of a path as they can, the first one before the others. A line break at the end
of a path does not count.
-/

namespace Waypost

open Decimal Text

/-! ## 1. Kinds -/

/-- What an open piece stands for: characters up to a slash, characters on one line, digits, digits
    with a fraction, or an identifier of 32 hexadecimal digits. -/
inductive PieceKind where
  | word
  | line
  | whole
  | real
  | identifier
  deriving DecidableEq, Repr

/-- The kind of a name. -/
def PieceKind.named? : String → Option PieceKind
  | "str" => some .word
  | "path" => some .line
  | "int" => some .whole
  | "float" => some .real
  | "uuid" => some .identifier
  | _ => none

/-- The beginnings of a list with so many characters of a class at least, the longest first, each
    with what stands behind it. -/
def beginnings (inClass : Char → Bool) (least : Nat) (cs : List Char) :
    List (List Char × List Char) :=
  let most := (cs.takeWhile inClass).length
  ((List.range (most + 1)).reverse.filter (least ≤ ·)).map cs.splitAt

/-- The beginnings that are digits with a fraction or without. -/
def realBeginnings (cs : List Char) : List (List Char × List Char) :=
  (beginnings (·.isDigit) 1 cs).flatMap fun (whole, rest) =>
    match rest with
    | '.' :: more =>
      (beginnings (·.isDigit) 1 more).map (fun (part, rest) => (whole ++ '.' :: part, rest))
        ++ [(whole, rest)]
    | _ => [(whole, rest)]

/-- The beginning that is a row of groups of hexadecimal digits of the given sizes. A hyphen may
    stand between two groups. -/
def groupsBeginning? : List Nat → List Char → Option (List Char × List Char)
  | [], cs => some ([], cs)
  | size :: sizes, cs =>
    let (digits, rest) := cs.splitAt size
    if digits.length = size && digits.all fun c => (hexValue? c).isSome then
      let (hyphen, rest) :=
        match rest with
        | '-' :: more => if sizes.isEmpty then ([], rest) else (['-'], more)
        | _ => ([], rest)
      (groupsBeginning? sizes rest).map fun (taken, rest) => (digits ++ hyphen ++ taken, rest)
    else none

/-- What an open piece may take from the front of a path, in the order of preference. -/
def PieceKind.candidates : PieceKind → List Char → List (List Char × List Char)
  | .word => beginnings (· != '/') 1
  | .line => beginnings (· != '\n') 0
  | .whole => beginnings (·.isDigit) 1
  | .real => realBeginnings
  | .identifier => fun cs => (groupsBeginning? [8, 4, 4, 4, 12] cs).toList

/-- The value of what an open piece took, or the number of its digits when there are too many. An
    identifier is no scalar of JSON; a list that holds its text stands for it. -/
def PieceKind.value (taken : List Char) : PieceKind → Except Nat Json
  | .word | .line => .ok (.str (String.ofList taken))
  | .whole => (boundedInteger false taken).map .int
  | .real => .ok (.float ((unsignedFloat? false taken).getD 0.0))
  | .identifier => .ok (.arr [.str (String.ofList taken)])

/-! ## 2. Patterns -/

/-- Why a text is no pattern for the start of paths, or none for paths with the given parameters. -/
inductive PatternFault where
  | withoutSlash
  | slashAtEnd
  | unknownKind (kind : String)
  | repeated (names : List String) (path : String)
  | queryParameter (name : String)
  | bodyParameter
  deriving DecidableEq, Repr

/-- The wording of a fault. -/
def PatternFault.message : PatternFault → String
  | .withoutSlash => "A path prefix must start with '/'"
  | .slashAtEnd => "A path prefix must not end with '/', as the routes will start with a path"
  | .unknownKind kind => "Unknown path convertor '" ++ kind ++ "'"
  | .repeated names path =>
    "Duplicated param name" ++ (if 1 < names.length then "s " else " ") ++ ", ".intercalate names
      ++ " at path " ++ path
  | .queryParameter name => "Cannot use \x60Query\x60 for path param '" ++ name ++ "'"
  | .bodyParameter => "Path params must be of one of the supported types"

/-- A piece of a pattern: a character, or an open piece that binds a name. -/
inductive Piece where
  | fixed (c : Char)
  | bound (name : String) (kind : PieceKind)
  deriving DecidableEq, Repr

/-- The pieces of a pattern. -/
abbrev PathPattern := List Piece

/-- A name at the front, and the rest. -/
def takeName? (cs : List Char) : Option (String × List Char) :=
  match cs with
  | c :: _ =>
    if c.isAlpha || c == '_' then
      let (name, rest) := cs.span fun c => c.isAlphanum || c == '_'
      some (String.ofList name, rest)
    else none
  | [] => none

/-- Name and kind of the open piece behind an opening bracket, and how many characters both take
    together with the closing bracket. -/
def openPiece? (cs : List Char) : Option (String × String × Nat) := do
  let (name, rest) ← takeName? cs
  match rest with
  | '\x7d' :: rest => return (name, "str", cs.length - rest.length)
  | ':' :: rest => do
    let (kind, rest) ← takeName? rest
    match rest with
    | '\x7d' :: rest => return (name, kind, cs.length - rest.length)
    | _ => none
  | _ => none

/-- The pieces of a text, of which the first characters are skipped. A bracket that opens no piece
    stands for itself. -/
def piecesFrom (skipped : Nat) : List Char → Except PatternFault PathPattern
  | [] => .ok []
  | c :: rest =>
    match skipped with
    | n + 1 => piecesFrom n rest
    | 0 =>
      match if c == '\x7b' then openPiece? rest else none with
      | some (name, kind, size) =>
        match PieceKind.named? kind with
        | some known => do return .bound name known :: (← piecesFrom size rest)
        | none => .error (.unknownKind kind)
      | none => do return .fixed c :: (← piecesFrom 0 rest)

namespace PathPattern

/-- The names that a pattern binds. -/
def names (pattern : PathPattern) : List String :=
  pattern.filterMap fun
    | .bound name _ => some name
    | .fixed _ => none

/-- The pattern of a text. Faults name the first path behind it. -/
def of (text firstPath : String) : Except PatternFault PathPattern := do
  let pattern ← piecesFrom 0 text.toList
  let repeated := (pattern.names.filter fun name => 1 < pattern.names.count name).eraseDups
  if repeated.isEmpty then return pattern else throw (.repeated repeated.mergeSort firstPath)

/-- A pattern with a fixed text behind it. -/
def followedBy (pattern : PathPattern) (text : String) : PathPattern :=
  pattern ++ text.toList.map .fixed

/-- What each open piece takes from a path that fits. -/
def taken? : PathPattern → List Char → Option (List (String × PieceKind × List Char))
  | [], rest => if rest == [] || rest == ['\n'] then some [] else none
  | .fixed _ :: _, [] => none
  | .fixed c :: more, d :: rest => if c == d then taken? more rest else none
  | .bound name kind :: more, cs =>
    (kind.candidates cs).findSome? fun (taken, rest) =>
      (taken? more rest).map ((name, kind, taken) :: ·)

/-- What a path binds, if the pattern fits it: each name with its value. -/
def bind? (pattern : PathPattern) (path : String) : Option (Except Nat Members) :=
  (pattern.taken? path.toList).map fun entries =>
    entries.mapM fun (name, kind, taken) => do return (name, ← kind.value taken)

end PathPattern

end Waypost
