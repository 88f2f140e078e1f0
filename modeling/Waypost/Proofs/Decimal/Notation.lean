import Mathlib.Data.List.Basic
import Mathlib.Data.List.TakeDrop
import Mathlib.Data.List.TakeWhile
import Waypost.Decimal.Reader
import Waypost.Decimal.Rounding

/-!
# Decimal notation

How a number is written, told without the reader: a sign, digits of any script, a point, an
exponent, and in the generous form blanks, underscores and names as well. The reader takes exactly
what is written so.

* `SignMark`, `WholeText`, `ExponentText`, `FloatText` -- the parts of a written number, each with
  its characters and its value;
* `rowValue` -- the value of a row of digits, whatever scripts they belong to;
* `plainInteger?_eq_some` -- **the whole numbers in plain notation**;
* `unsignedFloat?_eq_some`, `plainFloat?_eq_some` -- **the doubles in plain notation**;
* `NumberText`, `looseFloat?_eq_some` -- **the doubles in generous notation**.
-/

namespace Waypost.Decimal

open Waypost.Text

/-! ## 1. Digits -/

/-- A digit of any script as the one of ASCII; every other character stays. -/
def asciiDigit (c : Char) : Char :=
  match digitValue? c with
  | some d => Char.ofNat (48 + d)
  | none => c

theorem asciiDigits_eq_map (cs : List Char) : asciiDigits cs = cs.map asciiDigit := rfl

theorem digitValue?_lt {c : Char} {d : Nat} (h : digitValue? c = some d) : d < 10 := by
  unfold digitValue? at h
  split at h
  · rename_i hdigit
    cases h
    unfold Char.isDigit at hdigit
    rw [Bool.and_eq_true, decide_eq_true_eq, decide_eq_true_eq] at hdigit
    have hlast : c.toNat ≤ 57 := UInt32.le_iff_toNat_le.mp hdigit.2
    omega
  · split at h
    · cases h
    · obtain ⟨start, hfind, rfl⟩ := Option.map_eq_some_iff.mp h
      have hrow := List.find?_some hfind
      rw [Bool.and_eq_true, decide_eq_true_eq, decide_eq_true_eq] at hrow
      omega

theorem isDigit_of_ascii {c : Char} (h : c.isDigit = true) : isDigit c = true := by
  unfold isDigit digitValue?
  rw [if_pos h]
  rfl

theorem isDigit_ofNat : ∀ d < 10, (Char.ofNat (48 + d)).isDigit = true ∧
    (Char.ofNat (48 + d)).toNat - 48 = d := by decide +kernel

theorem asciiDigit_of_not_isDigit {c : Char} (h : isDigit c = false) : asciiDigit c = c := by
  unfold isDigit at h
  unfold asciiDigit
  rw [Option.isSome_eq_false_iff, Option.isNone_iff_eq_none] at h
  rw [h]

/-- The digits of all scripts become digits, and nothing else does. -/
theorem isDigit_asciiDigit (c : Char) : (asciiDigit c).isDigit = isDigit c := by
  cases h : digitValue? c with
  | some d =>
    unfold asciiDigit isDigit
    rw [h]
    exact (isDigit_ofNat d (digitValue?_lt h)).1
  | none =>
    have hc : isDigit c = false := by
      unfold isDigit
      rw [h]
      rfl
    rw [asciiDigit_of_not_isDigit hc, hc]
    by_contra hdigit
    rw [Bool.not_eq_false] at hdigit
    unfold digitValue? at h
    rw [if_pos hdigit] at h
    cases h

/-- What becomes a mark was that mark. -/
theorem eq_of_asciiDigit_eq {c mark : Char} (hmark : mark.isDigit = false)
    (h : asciiDigit c = mark) : c = mark := by
  rw [← h, isDigit_asciiDigit] at hmark
  rw [← h, asciiDigit_of_not_isDigit hmark]

theorem toNat_of_isDigit {c : Char} (h : isDigit c = true) : c.toNat ≤ 57 ∨ 128 ≤ c.toNat := by
  by_cases hdigit : c.isDigit = true
  · unfold Char.isDigit at hdigit
    rw [Bool.and_eq_true, decide_eq_true_eq, decide_eq_true_eq] at hdigit
    exact Or.inl (UInt32.le_iff_toNat_le.mp hdigit.2)
  · refine Or.inr (Nat.not_lt.mp fun hascii => ?_)
    unfold isDigit digitValue? at h
    rw [if_neg hdigit, if_pos hascii] at h
    cases h

/-- Digits have no letter case. -/
theorem toLower_of_isDigit {c : Char} (h : isDigit c = true) : c.toLower = c := by
  unfold Char.toLower
  refine dif_neg fun hcapital => ?_
  have hfirst : 65 ≤ c.toNat := UInt32.le_iff_toNat_le.mp hcapital.1
  have hlast : c.toNat ≤ 90 := UInt32.le_iff_toNat_le.mp hcapital.2
  have := toNat_of_isDigit h
  omega

theorem isLower_of_isDigit {c : Char} (h : isDigit c = true) : c.isLower = false := by
  rw [← Bool.not_eq_true]
  intro hlower
  unfold Char.isLower at hlower
  rw [Bool.and_eq_true, decide_eq_true_eq, decide_eq_true_eq] at hlower
  have hfirst : 97 ≤ c.toNat := UInt32.le_iff_toNat_le.mp hlower.1
  have hlast : c.toNat ≤ 122 := UInt32.le_iff_toNat_le.mp hlower.2
  have := toNat_of_isDigit h
  omega

/-- What becomes a small letter is no digit. -/
theorem isDigit_of_isLower {c : Char} (h : c.toLower.isLower = true) : isDigit c = false := by
  rw [← Bool.not_eq_true]
  intro hdigit
  rw [toLower_of_isDigit hdigit, isLower_of_isDigit hdigit] at h
  cases h

/-- The value of a row of digits of any script. -/
def rowValue (digits : List Char) : Nat :=
  digits.foldl (fun n c => n * 10 + (digitValue? c).getD 0) 0

theorem digitsValue_asciiDigits {digits : List Char} (h : ∀ c ∈ digits, isDigit c = true) :
    digitsValue (asciiDigits digits) = rowValue digits := by
  unfold digitsValue rowValue
  rw [asciiDigits_eq_map, List.foldl_map]
  refine List.foldl_ext _ _ _ fun n c hc => ?_
  obtain ⟨d, hd⟩ := isDigit_eq_true.mp (h c hc)
  unfold asciiDigit
  rw [hd]
  dsimp only
  rw [(isDigit_ofNat d (digitValue?_lt hd)).2, Option.getD_some]

/-- The digits in front of a text and its rest, in any script. -/
theorem takeDigits_asciiDigits (cs : List Char) : takeDigits (asciiDigits cs) =
    (asciiDigits (cs.takeWhile isDigit), asciiDigits (cs.dropWhile isDigit)) := by
  have hclass : Char.isDigit ∘ asciiDigit = isDigit := funext isDigit_asciiDigit
  unfold takeDigits
  rw [List.span_eq_takeWhile_dropWhile, asciiDigits_eq_map, List.takeWhile_map, List.dropWhile_map,
    hclass]
  rfl

/-! ## 2. What is written -/

/-- The sign in front of a number, which may be left out. -/
inductive SignMark where
  | none
  | plus
  | minus

/-- The characters of a sign. -/
def SignMark.chars : SignMark → List Char
  | .none => []
  | .plus => ['+']
  | .minus => ['-']

/-- Whether a sign is a minus. -/
def SignMark.isMinus : SignMark → Bool
  | .minus => true
  | _ => false

/-- A written whole number: a sign and at least one digit. -/
structure WholeText where
  sign : SignMark
  digits : List Char
  digits_ne_nil : digits ≠ []
  isDigit_digits : ∀ c ∈ digits, isDigit c = true

/-- The characters of a whole number. -/
def WholeText.chars (t : WholeText) : List Char := t.sign.chars ++ t.digits

/-- The value of a whole number. -/
def WholeText.value (t : WholeText) : Int := signed t.sign.isMinus (rowValue t.digits)

/-- A written power of ten: a mark and a whole number. -/
structure ExponentText where
  mark : Char
  power : WholeText
  isMark : mark = 'e' ∨ mark = 'E'

/-- The characters of a power of ten. -/
def ExponentText.chars (t : ExponentText) : List Char := t.mark :: t.power.chars

/-- A written number without sign: digits, a point with further digits, a power of ten. The point
    and the power may be left out, and one side of the point may be empty. -/
structure FloatText where
  whole : List Char
  fraction : Option (List Char)
  exponent : Option ExponentText
  isDigit_whole : ∀ c ∈ whole, isDigit c = true
  isDigit_fraction : ∀ c ∈ fraction.getD [], isDigit c = true
  digits_ne_nil : whole ≠ [] ∨ fraction.getD [] ≠ []

/-- The characters of a fraction, with the point in front of it. -/
def fractionChars : Option (List Char) → List Char
  | none => []
  | some digits => '.' :: digits

/-- The characters of a power of ten that may be left out. -/
def exponentChars : Option ExponentText → List Char
  | none => []
  | some t => t.chars

/-- The characters of a number without sign. -/
def FloatText.chars (t : FloatText) : List Char :=
  t.whole ++ (fractionChars t.fraction ++ exponentChars t.exponent)

/-- The power of ten by which the digits of a number are multiplied. -/
def FloatText.scale (t : FloatText) : Int :=
  (t.exponent.map fun e => e.power.value).getD 0 - (t.fraction.getD []).length

/-- The double next to a number. -/
def FloatText.double (t : FloatText) (negative : Bool) : Float :=
  nearestFloat negative (asciiDigits (t.whole ++ t.fraction.getD [])) t.scale

theorem WholeText.exists_digit (t : WholeText) : ∃ c ∈ t.chars, isDigit c = true := by
  obtain ⟨c, hc⟩ := List.exists_mem_of_ne_nil _ t.digits_ne_nil
  exact ⟨c, List.mem_append_right _ hc, t.isDigit_digits c hc⟩

theorem FloatText.exists_digit (t : FloatText) : ∃ c ∈ t.chars, isDigit c = true := by
  unfold chars
  rcases t.digits_ne_nil with hwhole | hfraction
  · obtain ⟨c, hc⟩ := List.exists_mem_of_ne_nil _ hwhole
    exact ⟨c, List.mem_append_left _ hc, t.isDigit_whole c hc⟩
  · obtain ⟨c, hc⟩ := List.exists_mem_of_ne_nil _ hfraction
    refine ⟨c, List.mem_append_right _ (List.mem_append_left _ ?_), t.isDigit_fraction c hc⟩
    cases h : t.fraction with
    | none =>
      rw [h] at hc
      exact absurd hc List.not_mem_nil
    | some digits =>
      rw [h] at hc
      exact List.mem_cons_of_mem _ hc

/-! ## 3. Signs and whole numbers -/

/-- A sign is taken off, in any script. -/
theorem exists_takeSign (cs : List Char) :
    ∃ (sign : SignMark) (rest : List Char), cs = sign.chars ++ rest ∧
      takeSign (asciiDigits cs) = (sign.isMinus, asciiDigits rest) := by
  unfold takeSign
  split
  · rename_i rest h
    obtain ⟨c, more, rfl, hc, rfl⟩ := List.map_eq_cons_iff.mp h
    exact ⟨.minus, more, by rw [eq_of_asciiDigit_eq (by decide) hc]; rfl, rfl⟩
  · rename_i rest h
    obtain ⟨c, more, rfl, hc, rfl⟩ := List.map_eq_cons_iff.mp h
    exact ⟨.plus, more, by rw [eq_of_asciiDigit_eq (by decide) hc]; rfl, rfl⟩
  · exact ⟨.none, cs, rfl, rfl⟩

/-- A text in front of which no sign can be taken off. -/
def Unsigned (cs : List Char) : Prop := ∀ c ∈ cs.head?, c ≠ '-' ∧ c ≠ '+'

theorem takeSign_of_unsigned {cs : List Char} (h : Unsigned cs) : takeSign cs = (false, cs) := by
  unfold takeSign
  split
  · exact absurd rfl (h '-' rfl).1
  · exact absurd rfl (h '+' rfl).2
  · rfl

theorem takeSign_chars (sign : SignMark) {rest : List Char} (h : Unsigned (asciiDigits rest)) :
    takeSign (asciiDigits (sign.chars ++ rest)) = (sign.isMinus, asciiDigits rest) := by
  cases sign with
  | none => exact takeSign_of_unsigned h
  | plus => rfl
  | minus => rfl

theorem unsigned_of_isDigit {c : Char} {rest : List Char} (h : isDigit c = true) :
    Unsigned (asciiDigits (c :: rest)) := by
  rintro _ ⟨⟩
  have hdigit : (asciiDigit c).isDigit = true := (isDigit_asciiDigit c).trans h
  show asciiDigit c ≠ '-' ∧ asciiDigit c ≠ '+'
  constructor
  · intro hminus
    rw [hminus] at hdigit
    exact absurd hdigit (by decide)
  · intro hplus
    rw [hplus] at hdigit
    exact absurd hdigit (by decide)

theorem unsigned_digits {digits : List Char} (h : ∀ c ∈ digits, isDigit c = true)
    (hne : digits ≠ []) (rest : List Char) : Unsigned (asciiDigits (digits ++ rest)) := by
  cases digits with
  | nil => exact absurd rfl hne
  | cons c more => exact unsigned_of_isDigit (h c List.mem_cons_self)

theorem all_isDigit_asciiDigits {cs : List Char} :
    (asciiDigits cs).all (·.isDigit) = true ↔ ∀ c ∈ cs, isDigit c = true := by
  rw [asciiDigits_eq_map, List.all_map, List.all_eq_true]
  refine forall_congr' fun c => imp_congr_right fun _ => ?_
  rw [← isDigit_asciiDigit]
  rfl

theorem asciiDigits_eq_nil {cs : List Char} : asciiDigits cs = [] ↔ cs = [] := List.map_eq_nil_iff

/-- **The whole numbers in plain notation**: a sign, and digits of any script. -/
theorem plainInteger?_eq_some {cs : List Char} {negative : Bool} {digits : List Char} :
    plainInteger? cs = some (negative, digits) ↔
      ∃ t : WholeText, t.chars = cs ∧ t.sign.isMinus = negative ∧ asciiDigits t.digits = digits
      := by
  unfold plainInteger?
  constructor
  · intro h
    obtain ⟨sign, rest, rfl, htake⟩ := exists_takeSign cs
    rw [htake] at h
    dsimp only at h
    split at h
    · rename_i hdigits
      cases h
      rw [Bool.and_eq_true, Bool.not_eq_true', List.isEmpty_eq_false_iff, ne_eq,
        asciiDigits_eq_nil, all_isDigit_asciiDigits] at hdigits
      exact ⟨⟨sign, rest, hdigits.1, hdigits.2⟩, rfl, rfl, rfl⟩
    · cases h
  · rintro ⟨t, rfl, rfl, rfl⟩
    have hunsigned := unsigned_digits t.isDigit_digits t.digits_ne_nil []
    rw [List.append_nil] at hunsigned
    unfold WholeText.chars
    rw [takeSign_chars _ hunsigned]
    dsimp only
    rw [if_pos]
    rw [Bool.and_eq_true, Bool.not_eq_true', List.isEmpty_eq_false_iff, ne_eq,
      asciiDigits_eq_nil, all_isDigit_asciiDigits]
    exact ⟨t.digits_ne_nil, t.isDigit_digits⟩

/-! ## 4. Doubles -/

/-- A text in front of which no digit stands. -/
def Undigited (cs : List Char) : Prop := ∀ c ∈ cs.head?, isDigit c = false

theorem takeWhile_of_undigited {digits rest : List Char} (h : ∀ c ∈ digits, isDigit c = true)
    (hrest : Undigited rest) :
    (digits ++ rest).takeWhile isDigit = digits ∧ (digits ++ rest).dropWhile isDigit = rest := by
  have hstop : rest.takeWhile isDigit = [] ∧ rest.dropWhile isDigit = rest := by
    cases rest with
    | nil => exact ⟨rfl, rfl⟩
    | cons c more =>
      have hc := hrest c rfl
      exact ⟨List.takeWhile_cons_of_neg (by simp [hc]), List.dropWhile_cons_of_neg (by simp [hc])⟩
  rw [List.takeWhile_append_of_pos h, List.dropWhile_append_of_pos h, hstop.1, hstop.2,
    List.append_nil]
  exact ⟨rfl, rfl⟩

/-- A row of digits without anything behind it. -/
theorem takeDigits_of_digits {digits : List Char} (h : ∀ c ∈ digits, isDigit c = true) :
    takeDigits (asciiDigits digits) = (asciiDigits digits, []) := by
  have hspan := takeWhile_of_undigited h (show Undigited [] from nofun)
  rw [List.append_nil] at hspan
  rw [takeDigits_asciiDigits, hspan.1, hspan.2]
  rfl

theorem exponentPart?_cons (mark : Char) (rest : List Char) :
    exponentPart? (mark :: rest) =
      if mark == 'e' || mark == 'E' then
        if (takeDigits (takeSign rest).2).1.isEmpty || !(takeDigits (takeSign rest).2).2.isEmpty
        then none
        else some (signed (takeSign rest).1 (digitsValue (takeDigits (takeSign rest).2).1))
      else none := rfl

/-- **The powers of ten behind a number.** -/
theorem exponentPart?_eq_some {cs : List Char} {e : Int} :
    exponentPart? (asciiDigits cs) = some e ↔
      ∃ t : Option ExponentText, exponentChars t = cs ∧
        (t.map fun e => e.power.value).getD 0 = e := by
  constructor
  · intro h
    cases cs with
    | nil =>
      cases h
      exact ⟨none, rfl, rfl⟩
    | cons mark more =>
      obtain ⟨sign, rest, rfl, htake⟩ := exists_takeSign more
      rw [asciiDigits_eq_map, List.map_cons, ← asciiDigits_eq_map, exponentPart?_cons, htake] at h
      dsimp only at h
      rw [takeDigits_asciiDigits] at h
      dsimp only at h
      split at h
      · rename_i hmark
        split at h
        · cases h
        · rename_i hall
          rw [Bool.or_eq_true, not_or, Bool.not_eq_true, Bool.not_eq_true, Bool.not_eq_false',
            List.isEmpty_eq_false_iff, List.isEmpty_iff, ne_eq, asciiDigits_eq_nil,
            asciiDigits_eq_nil] at hall
          have hdigits : ∀ c ∈ rest, isDigit c = true := List.dropWhile_eq_nil_iff.mp hall.2
          rw [List.takeWhile_eq_self_iff.mpr hdigits] at h hall
          rw [Bool.or_eq_true, beq_iff_eq, beq_iff_eq] at hmark
          have hmark : mark = 'e' ∨ mark = 'E' :=
            hmark.imp (eq_of_asciiDigit_eq (by decide)) (eq_of_asciiDigit_eq (by decide))
          refine ⟨some ⟨mark, ⟨sign, rest, hall.1, hdigits⟩, hmark⟩, rfl, ?_⟩
          rw [digitsValue_asciiDigits hdigits] at h
          exact Option.some.inj h
      · cases h
  · rintro ⟨t, rfl, rfl⟩
    cases t with
    | none => rfl
    | some t =>
      have hunsigned := unsigned_digits t.power.isDigit_digits t.power.digits_ne_nil []
      rw [List.append_nil] at hunsigned
      have hmark : (asciiDigit t.mark == 'e' || asciiDigit t.mark == 'E') = true := by
        rcases t.isMark with hmark | hmark
        · rw [hmark]
          rfl
        · rw [hmark]
          rfl
      have hsome : (asciiDigits t.power.digits).isEmpty = false := by
        rw [List.isEmpty_eq_false_iff, ne_eq, asciiDigits_eq_nil]
        exact t.power.digits_ne_nil
      show exponentPart? (asciiDigit t.mark :: asciiDigits t.power.chars) = some t.power.value
      unfold WholeText.chars
      rw [exponentPart?_cons, if_pos hmark, takeSign_chars _ hunsigned]
      dsimp only
      rw [takeDigits_of_digits t.power.isDigit_digits, hsome,
        digitsValue_asciiDigits t.power.isDigit_digits]
      rfl

/-- What stands behind the digits of a number does not begin with a digit. -/
theorem undigited_exponentChars (t : Option ExponentText) : Undigited (exponentChars t) := by
  cases t with
  | none => exact nofun
  | some t =>
    rintro _ ⟨⟩
    rcases t.isMark with hmark | hmark
    · rw [hmark]
      decide
    · rw [hmark]
      decide

theorem undigited_fraction (fraction : Option (List Char)) (exponent : Option ExponentText) :
    Undigited (fractionChars fraction ++ exponentChars exponent) := by
  cases fraction with
  | none => exact undigited_exponentChars exponent
  | some digits =>
    rintro _ ⟨⟩
    decide

/-- The fraction in front of a text and its rest: without a point there is none. -/
def takeFraction (cs : List Char) : List Char × List Char :=
  match cs with
  | '.' :: more => takeDigits more
  | _ => ([], cs)

theorem takeFraction_of_ne {c : Char} {rest : List Char} (h : c ≠ '.') :
    takeFraction (c :: rest) = ([], c :: rest) := by
  unfold takeFraction
  split
  · rename_i he
    exact absurd (List.cons.inj he).1 h
  · rfl

/-- A fraction is taken off, in any script. -/
theorem exists_takeFraction (cs : List Char) :
    ∃ (fraction : Option (List Char)) (rest : List Char), cs = fractionChars fraction ++ rest ∧
      (∀ c ∈ fraction.getD [], isDigit c = true) ∧
      takeFraction (asciiDigits cs) = (asciiDigits (fraction.getD []), asciiDigits rest) := by
  cases cs with
  | nil => exact ⟨none, [], rfl, nofun, rfl⟩
  | cons c more =>
    by_cases hpoint : c = '.'
    · refine ⟨some (more.takeWhile isDigit), more.dropWhile isDigit, ?_, ?_, ?_⟩
      · show c :: more = '.' :: (_ ++ _)
        rw [List.takeWhile_append_dropWhile, hpoint]
      · exact fun _ => List.mem_takeWhile_imp
      · rw [hpoint]
        exact takeDigits_asciiDigits more
    · refine ⟨none, c :: more, rfl, nofun, ?_⟩
      exact takeFraction_of_ne fun h => hpoint (eq_of_asciiDigit_eq (by decide) h)

theorem takeFraction_chars {fraction : Option (List Char)} {exponent : Option ExponentText}
    (h : ∀ c ∈ fraction.getD [], isDigit c = true) :
    takeFraction (asciiDigits (fractionChars fraction ++ exponentChars exponent)) =
      (asciiDigits (fraction.getD []), asciiDigits (exponentChars exponent)) := by
  cases fraction with
  | none =>
    cases exponent with
    | none => rfl
    | some t =>
      refine takeFraction_of_ne fun hpoint => ?_
      have hmark := eq_of_asciiDigit_eq (by decide) hpoint
      rcases t.isMark with he | he
      · rw [he] at hmark
        exact absurd hmark (by decide)
      · rw [he] at hmark
        exact absurd hmark (by decide)
  | some digits =>
    obtain ⟨htake, hdrop⟩ := takeWhile_of_undigited h (undigited_exponentChars exponent)
    show takeDigits (asciiDigits (digits ++ exponentChars exponent)) = _
    rw [takeDigits_asciiDigits]
    rw [Option.getD_some] at htake hdrop
    rw [htake, hdrop]
    rfl

theorem unsignedFloat?_eq (negative : Bool) (cs : List Char) :
    unsignedFloat? negative cs =
      if (takeDigits cs).1.isEmpty && (takeFraction (takeDigits cs).2).1.isEmpty then none
      else (exponentPart? (takeFraction (takeDigits cs).2).2).map fun e =>
        nearestFloat negative ((takeDigits cs).1 ++ (takeFraction (takeDigits cs).2).1)
          (e - (takeFraction (takeDigits cs).2).1.length) := by
  unfold unsignedFloat? takeFraction
  rfl

/-- **The doubles in plain notation, without their sign.** -/
theorem unsignedFloat?_eq_some {cs : List Char} {negative : Bool} {x : Float} :
    unsignedFloat? negative (asciiDigits cs) = some x ↔
      ∃ t : FloatText, t.chars = cs ∧ t.double negative = x := by
  rw [unsignedFloat?_eq]
  constructor
  · intro h
    obtain ⟨fraction, rest, hrest, hfraction, htake⟩ := exists_takeFraction (cs.dropWhile isDigit)
    rw [takeDigits_asciiDigits] at h
    dsimp only at h
    rw [htake] at h
    dsimp only at h
    split at h
    · cases h
    · rename_i hsome
      obtain ⟨e, he, rfl⟩ := Option.map_eq_some_iff.mp h
      obtain ⟨exponent, rfl, rfl⟩ := exponentPart?_eq_some.mp he
      rw [Bool.and_eq_true, not_and_or, List.isEmpty_iff, List.isEmpty_iff, asciiDigits_eq_nil,
        asciiDigits_eq_nil] at hsome
      refine ⟨⟨cs.takeWhile isDigit, fraction, exponent, fun _ => List.mem_takeWhile_imp,
        hfraction, hsome⟩, ?_, ?_⟩
      · unfold FloatText.chars
        rw [← hrest, List.takeWhile_append_dropWhile]
      · unfold FloatText.double FloatText.scale
        rw [asciiDigits_eq_map, asciiDigits_eq_map, asciiDigits_eq_map, List.map_append,
          List.length_map]
  · rintro ⟨t, rfl, rfl⟩
    obtain ⟨hwhole, hbehind⟩ := takeWhile_of_undigited t.isDigit_whole
      (undigited_fraction t.fraction t.exponent)
    unfold FloatText.chars
    rw [takeDigits_asciiDigits, hwhole, hbehind]
    dsimp only
    rw [takeFraction_chars t.isDigit_fraction]
    dsimp only
    rw [if_neg, exponentPart?_eq_some.mpr ⟨t.exponent, rfl, rfl⟩]
    · unfold FloatText.double FloatText.scale
      rw [asciiDigits_eq_map, asciiDigits_eq_map, asciiDigits_eq_map, List.map_append,
        List.length_map]
      rfl
    · rw [Bool.and_eq_true, not_and_or, List.isEmpty_iff, List.isEmpty_iff, asciiDigits_eq_nil,
        asciiDigits_eq_nil]
      exact t.digits_ne_nil

/-- A number without sign begins with none. -/
theorem FloatText.unsigned (t : FloatText) : Unsigned (asciiDigits t.chars) := by
  unfold chars
  by_cases hwhole : t.whole = []
  · have hfraction := t.digits_ne_nil.resolve_left (not_not.mpr hwhole)
    rw [hwhole, List.nil_append]
    cases h : t.fraction with
    | none =>
      rw [h] at hfraction
      exact absurd rfl hfraction
    | some digits =>
      rintro _ ⟨⟩
      decide
  · exact unsigned_digits t.isDigit_whole hwhole _

/-- **The doubles in plain notation**: a sign, and a number without one. -/
theorem plainFloat?_eq_some {cs : List Char} {x : Float} :
    plainFloat? cs = some x ↔ ∃ (sign : SignMark) (t : FloatText),
      sign.chars ++ t.chars = cs ∧ t.double sign.isMinus = x := by
  unfold plainFloat?
  constructor
  · intro h
    obtain ⟨sign, rest, rfl, htake⟩ := exists_takeSign cs
    rw [htake] at h
    obtain ⟨t, rfl, rfl⟩ := unsignedFloat?_eq_some.mp h
    exact ⟨sign, t, rfl, rfl⟩
  · rintro ⟨sign, t, rfl, rfl⟩
    rw [takeSign_chars sign t.unsigned]
    exact unsignedFloat?_eq_some.mpr ⟨t, rfl, rfl⟩

/-! ## 5. Generous notation -/

/-- Two neighbours in a text: beside an underscore stands a digit. -/
def Neighbours (c d : Char) : Prop := (c = '_' → isDigit d = true) ∧ (d = '_' → isDigit c = true)

/-- A text whose underscores stand between two digits each. The blanks stand for its ends. -/
def Spaced (cs : List Char) : Prop := List.IsChain Neighbours (' ' :: (cs ++ [' ']))

theorem neighbours_of_ne {c d : Char} (hc : c ≠ '_') (hd : d ≠ '_') : Neighbours c d :=
  ⟨fun h => absurd h hc, fun h => absurd h hd⟩

theorem neighbours_underscore {c : Char} (hc : c ≠ '_') :
    (Neighbours c '_' ↔ isDigit c = true) ∧ (Neighbours '_' c ↔ isDigit c = true) :=
  ⟨⟨fun h => h.2 rfl, fun h => ⟨fun he => absurd he hc, fun _ => h⟩⟩,
    ⟨fun h => h.1 rfl, fun h => ⟨fun _ => h, fun he => absurd he hc⟩⟩⟩

theorem ne_underscore_of_isDigit {c : Char} (h : isDigit c = true) : c ≠ '_' := by
  rintro rfl
  exact absurd h (by decide)

theorem dropUnderscores?_underscore (afterDigit : Bool) (c : Char) (rest : List Char) :
    dropUnderscores? afterDigit ('_' :: c :: rest) =
      if afterDigit && c.isDigit then (dropUnderscores? true rest).map (c :: ·) else none := rfl

theorem dropUnderscores?_cons (afterDigit : Bool) {c : Char} (hc : c ≠ '_') (rest : List Char) :
    dropUnderscores? afterDigit (c :: rest) = (dropUnderscores? c.isDigit rest).map (c :: ·) := by
  rw [dropUnderscores?]
  · exact fun _ _ he => absurd he hc
  · exact fun he => absurd he hc

/-- Underscores are taken out where each of them stands between two digits. The text goes on behind
    a character that is no underscore. -/
theorem dropUnderscores?_behind : ∀ (cs ds : List Char) {c : Char}, c ≠ '_' →
    (dropUnderscores? (isDigit c) (asciiDigits cs) = some ds ↔
      List.IsChain Neighbours (c :: (cs ++ [' '])) ∧ asciiDigits (cs.filter (· != '_')) = ds)
  | [], ds, c, hc => by
    have hends : List.IsChain Neighbours [c, ' '] :=
      .cons_cons (neighbours_of_ne hc (by decide)) (.singleton _)
    exact ⟨fun h => ⟨hends, Option.some.inj h⟩, fun h => congrArg some h.2⟩
  | d :: rest, ds, c, hc => by
    by_cases hd : d = '_'
    · subst hd
      rw [List.cons_append, List.isChain_cons_cons, (neighbours_underscore hc).1,
        List.filter_cons_of_neg (by decide)]
      match rest with
      | [] =>
        refine iff_of_false nofun fun h => ?_
        exact absurd ((List.isChain_cons_cons.mp h.1.2).1.1 rfl) (by decide)
      | e :: rest =>
        show dropUnderscores? (isDigit c) ('_' :: asciiDigit e :: asciiDigits rest) = some ds ↔ _
        rw [dropUnderscores?_underscore, isDigit_asciiDigit, List.cons_append,
          List.isChain_cons_cons]
        by_cases he : isDigit e = true
        · have hne := ne_underscore_of_isDigit he
          rw [(neighbours_underscore hne).2, List.filter_cons_of_pos (by simpa using hne), he,
            Bool.and_true]
          by_cases hdigit : isDigit c = true
          · rw [if_pos hdigit, Option.map_eq_some_iff]
            have hrest := fun more => dropUnderscores?_behind rest more hne
            rw [he] at hrest
            constructor
            · rintro ⟨more, hmore, rfl⟩
              obtain ⟨hchain, rfl⟩ := (hrest _).mp hmore
              exact ⟨⟨hdigit, rfl, hchain⟩, rfl⟩
            · rintro ⟨⟨-, -, hchain⟩, rfl⟩
              exact ⟨_, (hrest _).mpr ⟨hchain, rfl⟩, rfl⟩
          · rw [if_neg hdigit]
            exact iff_of_false nofun fun h => hdigit h.1.1
        · rw [if_neg (by simp [he])]
          exact iff_of_false nofun fun h => he (h.1.2.1.1 rfl)
    · have hascii : asciiDigit d ≠ '_' := fun he => hd (eq_of_asciiDigit_eq (by decide) he)
      show dropUnderscores? (isDigit c) (asciiDigit d :: asciiDigits rest) = some ds ↔ _
      rw [dropUnderscores?_cons _ hascii, isDigit_asciiDigit, Option.map_eq_some_iff,
        List.cons_append, List.isChain_cons_cons, List.filter_cons_of_pos (by simpa using hd)]
      constructor
      · rintro ⟨more, hmore, rfl⟩
        obtain ⟨hchain, rfl⟩ := (dropUnderscores?_behind rest _ hd).mp hmore
        exact ⟨⟨neighbours_of_ne hc hd, hchain⟩, rfl⟩
      · rintro ⟨⟨-, hchain⟩, rfl⟩
        exact ⟨_, (dropUnderscores?_behind rest _ hd).mpr ⟨hchain, rfl⟩, rfl⟩

/-- **Underscores are taken out exactly where each of them stands between two digits.** -/
theorem dropUnderscores?_eq_some {cs ds : List Char} :
    dropUnderscores? false (asciiDigits cs) = some ds ↔
      Spaced cs ∧ asciiDigits (cs.filter (· != '_')) = ds :=
  dropUnderscores?_behind cs ds (show ' ' ≠ '_' by decide)

/-- The names of the doubles that are no decimal number, in any letter case. -/
inductive NameOf : List Char → Float → Prop
  | infinity {name : List Char} (h : name.map Char.toLower = "inf".toList ∨
      name.map Char.toLower = "infinity".toList) : NameOf name (1.0 / 0.0)
  | notANumber {name : List Char} (h : name.map Char.toLower = "nan".toList) :
      NameOf name (0.0 / 0.0)

/-- What characters spell in generous notation, without blanks and underscores. -/
inductive Spelled : List Char → Float → Prop
  | number (sign : SignMark) (t : FloatText) :
      Spelled (sign.chars ++ t.chars) (t.double sign.isMinus)
  | named (sign : SignMark) {name : List Char} {x : Float} (h : NameOf name x) :
      Spelled (sign.chars ++ name) (if sign.isMinus then -x else x)

/-- **A text that is a number in generous notation**: blanks at its ends, underscores between
    digits, and beside plain notation the names of infinity and of what is no number. -/
def NumberText (s : String) (x : Float) : Prop :=
  Spaced (trimBoth isSpace s.toList) ∧
    Spelled ((trimBoth isSpace s.toList).filter (· != '_')) x

theorem isLower_of_mem {cs word : List Char} (hword : word.all Char.isLower = true)
    (h : cs.map Char.toLower = word) : ∀ c ∈ cs, c.toLower.isLower = true := by
  intro c hc
  exact List.all_eq_true.mp hword _ (h ▸ List.mem_map_of_mem hc)

/-- A word is the same after the digits became those of ASCII: it has none. -/
theorem map_toLower_asciiDigits {cs word : List Char} (hword : word.all Char.isLower = true) :
    (asciiDigits cs).map Char.toLower = word ↔ cs.map Char.toLower = word := by
  have hkept : (∀ c ∈ cs, isDigit c = false) → asciiDigits cs = cs := by
    intro h
    rw [asciiDigits_eq_map]
    exact (List.map_congr_left fun c hc => asciiDigit_of_not_isDigit (h c hc)).trans
      (List.map_id cs)
  constructor
  · intro h
    have hletters := isLower_of_mem hword h
    rw [hkept] at h
    · exact h
    · intro c hc
      have hnone := isDigit_of_isLower (hletters (asciiDigit c) (List.mem_map_of_mem hc))
      rw [← isDigit_asciiDigit, ← Bool.not_eq_true]
      intro hdigit
      rw [isDigit_of_ascii hdigit] at hnone
      cases hnone
  · intro h
    rw [hkept, h]
    exact fun c hc => isDigit_of_isLower (isLower_of_mem hword h c hc)

/-- **The names of doubles.** -/
theorem namedFloat?_eq_some {cs : List Char} {negative : Bool} {x : Float} :
    namedFloat? negative (asciiDigits cs) = some x ↔
      ∃ y, NameOf cs y ∧ (if negative then -y else y) = x := by
  have hname : ∀ word : String, word.toList.all Char.isLower = true →
      (String.ofList ((asciiDigits cs).map Char.toLower) = word ↔
        cs.map Char.toLower = word.toList) := by
    intro word hword
    rw [← String.toList_inj, String.toList_ofList, map_toLower_asciiDigits hword]
  unfold namedFloat?
  dsimp only
  rw [Option.map_eq_some_iff]
  refine exists_congr fun y => and_congr_left fun _ => ?_
  constructor
  · intro h
    split at h
    · rename_i hword
      rw [Bool.or_eq_true, decide_eq_true_eq, decide_eq_true_eq, hname _ (by decide),
        hname _ (by decide)] at hword
      cases h
      exact .infinity hword
    · split at h
      · rename_i hword
        cases h
        exact .notANumber ((hname _ (by decide)).mp hword)
      · cases h
  · intro h
    cases h with
    | infinity h =>
      rw [if_pos]
      rw [Bool.or_eq_true, decide_eq_true_eq, decide_eq_true_eq, hname _ (by decide),
        hname _ (by decide)]
      exact h
    | notANumber h =>
      have hnan := (hname "nan" (by decide)).mpr h
      rw [hnan]
      rfl

/-- A name has small letters and capitals alone. -/
theorem NameOf.isLower {cs : List Char} {x : Float} (h : NameOf cs x) :
    ∀ c ∈ cs, c.toLower.isLower = true := by
  cases h with
  | infinity h =>
    rcases h with h | h
    · exact isLower_of_mem (by decide) h
    · exact isLower_of_mem (by decide) h
  | notANumber h => exact isLower_of_mem (by decide) h

/-- A name begins with no sign. -/
theorem NameOf.unsigned {cs : List Char} {x : Float} (h : NameOf cs x) :
    Unsigned (asciiDigits cs) := by
  intro c hc
  cases cs with
  | nil => cases hc
  | cons d rest =>
    cases hc
    have hd := h.isLower d List.mem_cons_self
    constructor
    · intro he
      rw [eq_of_asciiDigit_eq (by decide) he] at hd
      exact absurd hd (by decide)
    · intro he
      rw [eq_of_asciiDigit_eq (by decide) he] at hd
      exact absurd hd (by decide)

/-- A number is no name, for it has a digit. -/
theorem FloatText.not_name (t : FloatText) (x : Float) : ¬ NameOf t.chars x := by
  intro h
  obtain ⟨c, hc, hdigit⟩ := t.exists_digit
  rw [isDigit_of_isLower (h.isLower c hc)] at hdigit
  cases hdigit

/-- **What characters spell in generous notation.** -/
theorem signedFloat?_eq_some {cs : List Char} {x : Float} :
    signedFloat? (asciiDigits cs) = some x ↔ Spelled cs x := by
  unfold signedFloat?
  constructor
  · intro h
    obtain ⟨sign, rest, rfl, htake⟩ := exists_takeSign cs
    rw [htake] at h
    dsimp only at h
    cases hname : namedFloat? sign.isMinus (asciiDigits rest) with
    | some y =>
      rw [hname] at h
      cases h
      obtain ⟨y, hy, rfl⟩ := namedFloat?_eq_some.mp hname
      exact .named sign hy
    | none =>
      rw [hname] at h
      obtain ⟨t, rfl, rfl⟩ := unsignedFloat?_eq_some.mp h
      exact .number sign t
  · intro h
    cases h with
    | number sign t =>
      have hnone : namedFloat? sign.isMinus (asciiDigits t.chars) = none := by
        rw [Option.eq_none_iff_forall_ne_some]
        intro y hy
        obtain ⟨z, hz, -⟩ := namedFloat?_eq_some.mp hy
        exact t.not_name z hz
      rw [takeSign_chars sign t.unsigned]
      dsimp only
      rw [hnone]
      exact unsignedFloat?_eq_some.mpr ⟨t, rfl, rfl⟩
    | named sign h =>
      rw [takeSign_chars sign h.unsigned]
      dsimp only
      rw [namedFloat?_eq_some.mpr ⟨_, h, rfl⟩]
      rfl

/-- **The doubles in generous notation.** -/
theorem looseFloat?_eq_some {s : String} {x : Float} :
    looseFloat? s = some x ↔ NumberText s x := by
  unfold looseFloat? NumberText
  rw [Option.bind_eq_some_iff]
  constructor
  · rintro ⟨ds, hds, hx⟩
    obtain ⟨hspaced, rfl⟩ := dropUnderscores?_eq_some.mp hds
    exact ⟨hspaced, signedFloat?_eq_some.mp hx⟩
  · rintro ⟨hspaced, hx⟩
    exact ⟨_, dropUnderscores?_eq_some.mpr ⟨hspaced, rfl⟩, signedFloat?_eq_some.mpr hx⟩

end Waypost.Decimal
