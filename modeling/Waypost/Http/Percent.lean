import Waypost.Text.Codec
import Waypost.Text.Split
import Waypost.Text.Utf8

/-!
# Percent encoding

* `escapeOutside` and `encodeQueryText` -- texts inside a part of an address;
* `decodePercent` -- escapes of two hexadecimal digits undone; what is no escape stays;
* `queryPairs` -- the pairs of a query string.

What is decoded are the characters of an address as they are sent, each of which stands for itself.
-/

namespace Waypost

open Text

/-! ## 1. Escapes -/

/-- A character as escapes of its bytes. -/
def escapeBytes (c : Char) : List Char :=
  (utf8Bytes c).flatMap fun b => ['%', hexCapital (b / 16), hexCapital (b % 16)]

/-- The characters that stand for themselves everywhere in an address. -/
def isUnreserved (c : Char) : Bool :=
  c.isAlphanum || c == '-' || c == '.' || c == '_' || c == '~'

/-- A code point as it stands in an address: itself inside a class, and escapes outside of it. It is
    encoded on its own, which half of a surrogate pair cannot be. -/
def escapePoint (safe : Char → Bool) (n : Nat) : Except EncodeFault (List Char) := do
  Codec.utf8.check [n]
  let c := Char.ofNat n
  return if safe c then [c] else escapeBytes c

/-- Replaces the code points outside a class by escapes. -/
def escapeOutside (safe : Char → Bool) (s : String) : Except EncodeFault String := do
  return String.ofList (← (pointsOf s.toList).mapM (escapePoint safe)).flatten

/-- A key or value inside a query. -/
def encodeQueryText (s : String) : Except EncodeFault String := do
  let pieces ← (pointsOf s.toList).mapM fun n =>
    if n = ' '.toNat then .ok ['+'] else escapePoint isUnreserved n
  return String.ofList pieces.flatten

/-- A piece of text in which escapes have become bytes. -/
def percentBytes : List Char → List Nat
  | [] => []
  | '%' :: a :: b :: rest =>
    match hexValue? a, hexValue? b with
    | some high, some low => (16 * high + low) :: percentBytes rest
    | _, _ => 37 :: percentBytes (a :: b :: rest)
  | c :: rest => utf8Bytes c ++ percentBytes rest

/-- A text with its escapes undone. -/
def decodePercent (s : String) : String := String.ofList (decodeUtf8 (percentBytes s.toList))

/-! ## 2. Query strings -/

/-- Key and value of one piece of a query string. -/
def queryPair (piece : List Char) : String × String :=
  let plain (cs : List Char) : String :=
    decodePercent (String.ofList (cs.map fun c => if c == '+' then ' ' else c))
  match piece.span (· != '=') with
  | (key, _ :: value) => (plain key, plain value)
  | (key, []) => (plain key, "")

/-- The pairs of a query string in order. Empty pieces are skipped. -/
def queryPairs (query : String) : List (String × String) :=
  ((splitOn '&' query.toList).filter fun piece => !piece.isEmpty).map queryPair

/-- Pairs as a query string. -/
def encodeQuery (pairs : List (String × String)) : Except EncodeFault String := do
  return "&".intercalate (← pairs.mapM fun (key, value) => do
    return (← encodeQueryText key) ++ "=" ++ (← encodeQueryText value))

end Waypost
