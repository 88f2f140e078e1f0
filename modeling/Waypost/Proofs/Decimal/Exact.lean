import Waypost.Decimal.Rounding

/-!
# Exact values beside the logical model of doubles

* `ofFloat_eq` -- **the exact value of a double is that of its unpacked form**;
* `isFinite_iff`, `isInf_iff`, `isNaN_iff` -- which exact values finite doubles, infinities and what
  is no number have;
* `isFinite_eq` -- a double is finite where it is a number and not infinite;
* `WholeOf` -- what all ways from a double to a whole number have in common, and `wholeOf_floor?`,
  `wholeOf_truncate?`, `wholeOf_nearest?` -- **rounding down, towards zero and to the nearest do**.
-/

namespace Waypost.Decimal

open Float.Model (Format)
open Float.Model.UnpackedFloat

/-! ## 1. Unpacked doubles -/

/-- Whether a sign is a minus. -/
def minus : Sign → Bool
  | .negative => true
  | .positive => false

/-- The exact value of an unpacked double. -/
def Exact.ofUnpacked : Float.Model.UnpackedFloat → Exact
  | .notANumber => .nan
  | .infinity s => .infinite (minus s)
  | .zero s => .finite (minus s) 0 (-1074)
  | .finite s m e _ => .finite (minus s) m e

section Parts

variable (b : BitVec Format.binary64.numBits)

theorem toNat_unpackExponent : (unpackExponent b).toNat = b.toNat / 0x10000000000000 % 0x800 := by
  have hparts : unpackExponent b = b.extractLsb' 52 11 := by
    ext
    simp [unpackExponent, BitVec.extractLsb]
  rw [hparts, BitVec.extractLsb'_toNat, Nat.shiftRight_eq_div_pow]
  rfl

theorem toNat_unpackMantissa : (unpackMantissa b).toNat = b.toNat % 0x10000000000000 := by
  have hparts : unpackMantissa b = b.extractLsb' 0 52 := by
    ext
    simp [unpackMantissa, BitVec.extractLsb]
  rw [hparts, BitVec.extractLsb'_toNat, Nat.shiftRight_zero]
  rfl

theorem minus_unpackSign :
    minus (Sign.ofBitVec (unpackSign b)) = (b.toNat / 0x8000000000000000 == 1) := by
  have hsign : (unpackSign b).toNat = b.toNat / 0x8000000000000000 := by
    have hparts : unpackSign b = b.extractLsb' 63 1 := rfl
    have hb : b.toNat < 2 ^ 64 := b.isLt
    rw [hparts, BitVec.extractLsb'_toNat, Nat.shiftRight_eq_div_pow]
    show b.toNat / 2 ^ 63 % 2 ^ 1 = _
    omega
  rw [← hsign]
  generalize unpackSign b = bit
  revert bit
  decide

theorem toNat_implicit (v : BitVec 52) : (1#1 ++ v).toNat = v.toNat + 0x10000000000000 := by
  rw [BitVec.toNat_append, ← Nat.shiftLeft_add_eq_or_of_lt v.isLt, Nat.shiftLeft_eq,
    Nat.add_comm]
  rfl

end Parts

theorem ofUnpacked_unpack (b : BitVec Format.binary64.numBits) :
    Exact.ofUnpacked (Float.Model.UnpackedFloat.unpack Format.binary64 b) =
      if (unpackExponent b).toNat = 2047 then
        if (unpackMantissa b).toNat = 0 then .infinite (minus (Sign.ofBitVec (unpackSign b)))
        else .nan
      else if (unpackExponent b).toNat = 0 then
        .finite (minus (Sign.ofBitVec (unpackSign b))) (unpackMantissa b).toNat (-1074)
      else
        .finite (minus (Sign.ofBitVec (unpackSign b)))
          ((unpackMantissa b).toNat + 0x10000000000000) (((unpackExponent b).toNat : Int) - 1075)
      := by
  unfold Float.Model.UnpackedFloat.unpack
  dsimp only
  by_cases hspecial : unpackExponent b = -1#_
  · have hall : (unpackExponent b).toNat = 2047 := congrArg BitVec.toNat hspecial
    rw [if_pos hspecial, if_pos hall]
    by_cases hfield : unpackMantissa b = 0#_
    · have hzero : (unpackMantissa b).toNat = 0 := congrArg BitVec.toNat hfield
      rw [if_pos hfield, if_pos hzero]
      rfl
    · have hzero : ¬ (unpackMantissa b).toNat = 0 := fun h => hfield (BitVec.eq_of_toNat_eq h)
      rw [if_neg hfield, if_neg hzero]
      rfl
  · have hall : ¬ (unpackExponent b).toNat = 2047 := fun h => hspecial (BitVec.eq_of_toNat_eq h)
    rw [if_neg hspecial, if_neg hall]
    by_cases hsmall : unpackExponent b = 0#_
    · have hnone : (unpackExponent b).toNat = 0 := congrArg BitVec.toNat hsmall
      rw [if_pos hsmall, if_pos hnone]
      by_cases hfield : unpackMantissa b = 0#_
      · rw [dif_pos hfield, hfield]
        rfl
      · rw [dif_neg hfield, hnone]
        rfl
    · have hnone : ¬ (unpackExponent b).toNat = 0 := fun h => hsmall (BitVec.eq_of_toNat_eq h)
      rw [if_neg hsmall, if_neg hnone, ← toNat_implicit]
      rfl

/-- **The exact value of a double is that of its unpacked form.** -/
theorem ofFloat_eq (x : Float) : Exact.ofFloat x = Exact.ofUnpacked x.toModel.unpack := by
  have hbits : x.toBits.toNat = x.toModel.toBits.toBitVec.toNat := rfl
  unfold Exact.ofFloat Float.Model.unpack
  dsimp only
  rw [ofUnpacked_unpack, hbits, ← toNat_unpackExponent, ← toNat_unpackMantissa, ← minus_unpackSign]

/-! ## 2. The status of a double -/

theorem isFinite_iff {x : Float} : x.isFinite = true ↔
    ∃ negative mantissa exponent, Exact.ofFloat x = .finite negative mantissa exponent := by
  show x.toModel.unpack.isFinite = true ↔ _
  rw [ofFloat_eq]
  cases x.toModel.unpack with
  | notANumber => exact iff_of_false Bool.false_ne_true (by rintro ⟨_, _, _, ⟨⟩⟩)
  | infinity s => exact iff_of_false Bool.false_ne_true (by rintro ⟨_, _, _, ⟨⟩⟩)
  | zero s => exact iff_of_true rfl ⟨_, _, _, rfl⟩
  | finite s m e hm => exact iff_of_true rfl ⟨_, _, _, rfl⟩

theorem isInf_iff {x : Float} :
    x.isInf = true ↔ ∃ negative, Exact.ofFloat x = .infinite negative := by
  show x.toModel.unpack.isInf = true ↔ _
  rw [ofFloat_eq]
  cases x.toModel.unpack with
  | notANumber => exact iff_of_false Bool.false_ne_true (by rintro ⟨_, ⟨⟩⟩)
  | infinity s => exact iff_of_true rfl ⟨_, rfl⟩
  | zero s => exact iff_of_false Bool.false_ne_true (by rintro ⟨_, ⟨⟩⟩)
  | finite s m e hm => exact iff_of_false Bool.false_ne_true (by rintro ⟨_, ⟨⟩⟩)

theorem isNaN_iff {x : Float} : x.isNaN = true ↔ Exact.ofFloat x = .nan := by
  show x.toModel.unpack.isNaN = true ↔ _
  rw [ofFloat_eq]
  cases x.toModel.unpack with
  | notANumber => exact iff_of_true rfl rfl
  | infinity s => exact iff_of_false Bool.false_ne_true (by rintro ⟨⟩)
  | zero s => exact iff_of_false Bool.false_ne_true (by rintro ⟨⟩)
  | finite s m e hm => exact iff_of_false Bool.false_ne_true (by rintro ⟨⟩)

/-- A double is finite where it is a number and not infinite. -/
theorem isFinite_eq (x : Float) : x.isFinite = (!x.isNaN && !x.isInf) := by
  show x.toModel.unpack.isFinite = (!x.toModel.unpack.isNaN && !x.toModel.unpack.isInf)
  cases x.toModel.unpack <;> rfl

theorem isNaN_of_isFinite {x : Float} (h : x.isFinite = true) : x.isNaN = false := by
  rw [isFinite_eq, Bool.and_eq_true, Bool.not_eq_true'] at h
  exact h.1

theorem isInf_of_isFinite {x : Float} (h : x.isFinite = true) : x.isInf = false := by
  rw [isFinite_eq, Bool.and_eq_true, Bool.not_eq_true', Bool.not_eq_true'] at h
  exact h.2

/-- A number that is not finite is infinite. -/
theorem isInf_of_not_isFinite {x : Float} (hnan : x.isNaN = false) (h : x.isFinite ≠ true) :
    x.isInf = true := by
  rwa [isFinite_eq, hnan, Bool.not_false, Bool.true_and, ne_eq, Bool.not_eq_true,
    Bool.not_eq_false'] at h

theorem isInf_of_isNaN {x : Float} (h : x.isNaN = true) : x.isInf = false := by
  rw [Bool.eq_false_iff]
  intro hinf
  obtain ⟨_, hinfinite⟩ := isInf_iff.mp hinf
  rw [isNaN_iff.mp h] at hinfinite
  cases hinfinite

/-! ## 3. Whole numbers next to a double -/

/-- Why a double has no whole number next to it. -/
inductive Unwhole (x : Float) : NoInteger → Prop
  | nan (h : x.isNaN = true) : Unwhole x .nan
  | infinite (h : x.isInf = true) : Unwhole x .infinite

/-- What all ways from a double to a whole number have in common: there is one exactly when the
    double is finite, and infinities and what is no number are told apart. -/
structure WholeOf (x : Float) (found : Except NoInteger Int) : Prop where
  ok : (∃ n, found = .ok n) ↔ x.isFinite = true
  error : ∀ why, found = .error why ↔ Unwhole x why

theorem wholeOf_of_exact {x : Float} {found : Except NoInteger Int}
    (hnan : Exact.ofFloat x = .nan → found = .error .nan)
    (hinf : ∀ negative, Exact.ofFloat x = .infinite negative → found = .error .infinite)
    (hfinite : ∀ negative m q, Exact.ofFloat x = .finite negative m q → ∃ n, found = .ok n) :
    WholeOf x found := by
  cases hx : Exact.ofFloat x with
  | nan =>
    rw [hnan hx]
    have hisNaN := isNaN_iff.mpr hx
    refine ⟨iff_of_false nofun fun h => ?_, fun why => ⟨fun h => ?_, fun h => ?_⟩⟩
    · rw [isNaN_of_isFinite h] at hisNaN
      cases hisNaN
    · cases h
      exact .nan hisNaN
    · cases h with
      | nan => rfl
      | infinite h =>
        rw [isInf_of_isNaN hisNaN] at h
        cases h
  | infinite negative =>
    rw [hinf negative hx]
    have hisInf := isInf_iff.mpr ⟨negative, hx⟩
    refine ⟨iff_of_false nofun fun h => ?_, fun why => ⟨fun h => ?_, fun h => ?_⟩⟩
    · rw [isInf_of_isFinite h] at hisInf
      cases hisInf
    · cases h
      exact .infinite hisInf
    · cases h with
      | nan h =>
        rw [isInf_of_isNaN h] at hisInf
        cases hisInf
      | infinite => rfl
  | finite negative m q =>
    obtain ⟨n, rfl⟩ := hfinite negative m q hx
    have hisFinite := isFinite_iff.mpr ⟨negative, m, q, hx⟩
    refine ⟨iff_of_true ⟨n, rfl⟩ hisFinite, fun why => iff_of_false nofun fun h => ?_⟩
    cases h with
    | nan h =>
      rw [isNaN_of_isFinite hisFinite] at h
      cases h
    | infinite h =>
      rw [isInf_of_isFinite hisFinite] at h
      cases h

theorem wholeOf_floor? (x : Float) : WholeOf x (floor? x) := by
  unfold floor?
  refine wholeOf_of_exact (fun h => ?_) (fun _ h => ?_) fun _ _ _ h => ?_
  · rw [h]
  · rw [h]
  · rw [h]
    exact ⟨_, rfl⟩

theorem wholeOf_truncate? (x : Float) : WholeOf x (truncate? x) := by
  unfold truncate?
  refine wholeOf_of_exact (fun h => ?_) (fun _ h => ?_) fun _ _ _ h => ?_
  · rw [h]
  · rw [h]
  · rw [h]
    exact ⟨_, rfl⟩

theorem wholeOf_nearest? (x : Float) : WholeOf x (nearest? x) := by
  unfold nearest?
  refine wholeOf_of_exact (fun h => ?_) (fun _ h => ?_) fun _ _ _ h => ?_
  · rw [h]
  · rw [h]
  · rw [h]
    exact ⟨_, rfl⟩

end Waypost.Decimal
