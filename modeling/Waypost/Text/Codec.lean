import Waypost.Text.Quoted

/-!
# Texts that have to be written

A text is written with a codec, and not every codec takes every code point.

* `Codec` -- the codecs: one for the first 128 code points alone, and one for all of them but halves
  of surrogate pairs;
* `EncodeFault` -- code points that a codec does not take, with their place;
* `checkWritten` -- refuses a text that a codec does not take.
-/

namespace Waypost.Text

/-- The codecs that texts are written with. -/
inductive Codec where
  | ascii
  | utf8
  deriving DecidableEq, Repr

/-- The name of a codec. -/
def Codec.name : Codec → String
  | .ascii => "ascii"
  | .utf8 => "utf-8"

/-- Whether a codec takes a code point. -/
def Codec.takes : Codec → Nat → Bool
  | .ascii, n => n < 128
  | .utf8, n => !isSurrogate n

/-- What a codec has against the code points that it does not take. -/
def Codec.reason : Codec → String
  | .ascii => "ordinal not in range(128)"
  | .utf8 => "surrogates not allowed"

/-- A row of code points that a codec does not take: the first of them, where it stands, and how
    many there are. -/
structure EncodeFault where
  codec : Codec
  first : Nat
  start : Nat
  count : Nat
  deriving DecidableEq, Repr

/-- The wording of a fault. -/
def EncodeFault.message (fault : EncodeFault) : String :=
  let place :=
    if fault.count = 1 then
      "character '" ++ String.ofList (escapedPoint fault.first) ++ s!"' in position {fault.start}"
    else s!"characters in position {fault.start}-{fault.start + fault.count - 1}"
  "'" ++ fault.codec.name ++ "' codec can't encode " ++ place ++ ": " ++ fault.codec.reason

/-- Refuses code points that a codec does not take; the first row of them is named. -/
def Codec.check (codec : Codec) (points : List Nat) : Except EncodeFault Unit :=
  let (front, rest) := points.span codec.takes
  match rest with
  | [] => .ok ()
  | n :: _ =>
    .error ⟨codec, n, front.length, (rest.takeWhile fun n => !codec.takes n).length⟩

/-- Refuses a text that a codec does not take. -/
def checkWritten (codec : Codec) (s : String) : Except EncodeFault Unit :=
  codec.check (pointsOf s.toList)

end Waypost.Text
