import Waypost.Proofs.Decimal.Digits
import Waypost.Proofs.Decimal.Order
import Waypost.Proofs.Decimal.Whole

/-!
# The range of doubles

A number has a finite double exactly when it lies below the bound that is half a unit in the last
place behind the largest double; there, and beyond, it is rounded to an infinity.

* `rangeBound`, `InRange` -- the bound, and the decimal numbers below it;
* `within_round_iff` -- rounding stays finite exactly below it;
* `isFinite_ofInt` -- **the whole numbers that have a finite double**;
* `isFinite_nearestFloat`, `isNaN_nearestFloat` -- **the digits that have one**, where all others
  have an infinity.
-/

namespace Waypost.Decimal

open Float.Model (Format)
open Float.Model.UnpackedFloat

/-- The least number that is rounded to an infinity. -/
def rangeBound : Nat := (2 ^ 54 - 1) * 2 ^ 970

/-! ## 1. Rounding at the end of the range -/

/-- The bit behind a mantissa that is shifted decides whether it is rounded up. -/
theorem roundBit_shiftRight (em : ExtendedMantissa) (n : Nat) :
    (em >>> (n + 1)).roundBit = (em.mantissa / 2 ^ n % 2 != 0) := by
  rw [← mantissa_shiftRight]
  rfl

theorem roundedMantissa_of_roundBit (em : ExtendedMantissa) :
    (em.roundBit = false → em.roundedMantissa = em.mantissa) ∧
      (em.roundBit = true → em.mantissa % 2 = 1 → em.roundedMantissa = em.mantissa + 1) := by
  obtain ⟨m, roundBit, stickyBit⟩ := em
  constructor
  · rintro rfl
    cases stickyBit <;> rfl
  · rintro rfl hodd
    cases stickyBit with
    | true => rfl
    | false =>
      show m + m % 2 = m + 1
      rw [hodd]

theorem mantissa_ofMantissaAndAccuracy (m : Nat) (accuracy : Accuracy) :
    (ExtendedMantissa.ofMantissaAndAccuracy m accuracy).mantissa = m := by
  cases accuracy with
  | exact => rfl
  | inexact order => cases order <;> rfl

/-- What is rounded at a level is finite exactly when it is less than the first infinite number of
    units. -/
theorem within_iff_units (s : Sign) {m r : Nat} {e t : Int} {accuracy : Accuracy}
    (ht : t = m.log2 + 1 + e - 53) (hleast : -1074 ≤ t) (hle : e ≤ t)
    (hr : (ExtendedMantissa.ofMantissaAndAccuracy m accuracy >>> (t - e).toNat).roundedMantissa = r)
    (hfull : 2 ^ 52 ≤ r) (hmost : r ≤ 2 ^ 53) :
    Within 971 (roundWithAccuracy Format.binary64 s m e accuracy) ↔ unitsOf r t < beyond := by
  have htarget : Format.binary64.targetExponent (Float.Model.totalExponent m e) = t := by
    rw [targetExponent_eq]
    omega
  unfold roundWithAccuracy
  dsimp only
  rw [show shiftToTargetExponent Format.binary64 m e accuracy = shiftToExponent m e accuracy _
    from rfl, htarget, shifted_eq m e hle]
  dsimp only
  rw [hr]
  obtain ⟨m', e', hm', he', hfits, hunits⟩ :=
    fits_shiftToTargetExponent hmost hleast (Or.inl hfull)
  have hpos : m' ≠ 0 := by
    intro hzero
    have hsome : 0 < unitsOf r t := unitsOf_pos (by omega) t
    rw [← hunits, hzero, unitsOf, Nat.zero_mul] at hsome
    exact absurd hsome (Nat.lt_irrefl 0)
  rw [hm', he', dif_neg hpos, ← hunits, unitsOf_lt_beyond hfits]
  exact ⟨fun h => by cases h; assumption, .finite⟩

theorem unitsOf_lt_beyond_last {r : Nat} {t : Int} (ht : t = 971) :
    unitsOf r t < beyond ↔ r < 2 ^ 53 := by
  have hscale : ∀ g, r * 2 ^ g < 2 ^ 52 * 2 ^ (g + 1) ↔ r < 2 ^ 53 := by
    intro g
    have hdouble : 2 ^ (g + 1) = 2 * 2 ^ g := Nat.pow_succ'
    rw [hdouble, ← Nat.mul_assoc, Nat.mul_lt_mul_right (Nat.two_pow_pos g)]
    omega
  have hnext : (972 + 1074 : Int).toNat = (971 + 1074 : Int).toNat + 1 := rfl
  unfold beyond unitsOf
  rw [ht, hnext]
  exact hscale _

/-- **Rounding stays finite exactly below the bound.** -/
theorem within_round_iff (s : Sign) {m : Nat} {e : Int} (accuracy : Accuracy) (he : e ≤ 970) :
    Within 971 (roundWithAccuracy Format.binary64 s m e accuracy) ↔
      m < (2 ^ 54 - 1) * 2 ^ (970 - e).toNat := by
  generalize hk : (970 - e).toNat = k
  have hup : (971 - e).toNat = k + 1 := by omega
  have hpow := Nat.two_pow_pos k
  by_cases hsmall : m < 2 ^ (53 + k)
  · -- far below the bound
    have hbelow : m < (2 ^ 53 - 1) * 2 ^ (971 - e).toNat := by
      rw [hup, Nat.pow_succ]
      rw [Nat.pow_add] at hsmall
      omega
    refine iff_of_true (within_roundWithAccuracy (by omega) s (by omega) (Or.inl hbelow)) ?_
    rw [Nat.pow_add] at hsmall
    omega
  · have hzero : m ≠ 0 := by
      have := Nat.two_pow_pos (53 + k)
      omega
    have hlog : 53 + k ≤ m.log2 := (Nat.le_log2 hzero).mpr (by omega)
    obtain ⟨n, hn⟩ : ∃ n, m.log2 = 52 + n := ⟨m.log2 - 52, by omega⟩
    generalize hr : (ExtendedMantissa.ofMantissaAndAccuracy m accuracy >>> n).roundedMantissa = r
    have hmantissa : (ExtendedMantissa.ofMantissaAndAccuracy m accuracy >>> n).mantissa =
        m / 2 ^ n := by
      rw [mantissa_shiftRight, mantissa_ofMantissaAndAccuracy]
    have hlow : 2 ^ 52 ≤ m / 2 ^ n := le_div_two_pow hzero (by omega)
    have hhigh : m / 2 ^ n < 2 ^ 53 := div_two_pow_lt (by omega)
    have hr_low : m / 2 ^ n ≤ r := hr ▸ hmantissa ▸ roundedMantissa_ge _
    have hr_high : r ≤ m / 2 ^ n + 1 := hr ▸ hmantissa ▸ roundedMantissa_le _
    have hshift : (e + n - e).toNat = n := by omega
    rw [← hshift] at hr
    rw [within_iff_units s (by omega) (by omega) (by omega) hr (by omega) (by omega)]
    rw [hshift] at hr
    by_cases hlast : n = k + 1
    · -- the last power of two: the bit behind the mantissa decides
      subst hlast
      have hbit := roundBit_shiftRight (ExtendedMantissa.ofMantissaAndAccuracy m accuracy) k
      rw [mantissa_ofMantissaAndAccuracy] at hbit
      have hhalf : m / 2 ^ (k + 1) = m / 2 ^ k / 2 := by
        rw [Nat.pow_succ, Nat.div_div_eq_div_mul]
      have hround := roundedMantissa_of_roundBit
        (ExtendedMantissa.ofMantissaAndAccuracy m accuracy >>> (k + 1))
      rw [hr, hmantissa, hhalf, hbit, bne_iff_ne, bne_eq_false_iff_eq] at hround
      rw [unitsOf_lt_beyond_last (by omega), ← Nat.div_lt_iff_lt_mul hpow]
      rw [hhalf] at hlow hhigh hr_low hr_high
      generalize m / 2 ^ k = p at *
      rcases Nat.mod_two_eq_zero_or_one p with heven | hodd
      · have hkept := hround.1 heven
        omega
      · by_cases hfull : p / 2 = 2 ^ 53 - 1
        · have hup := hround.2 (by omega) (by omega)
          omega
        · omega
    · -- a larger power of two
      have hfar : (2 ^ 54 - 1) * 2 ^ k ≤ m := by
        have hself : 2 ^ m.log2 ≤ m := Nat.log2_self_le hzero
        have hpower : 2 ^ (54 + k) ≤ 2 ^ m.log2 := Nat.pow_le_pow_right (by omega) (by omega)
        rw [Nat.pow_add] at hpower
        omega
      refine iff_of_false (Nat.not_lt.mpr ?_) (Nat.not_lt.mpr hfar)
      exact Nat.mul_le_mul (by omega) (Nat.pow_le_pow_right (by omega) (by omega))

/-! ## 2. Packing -/

theorem isFinite_of_within {E : Int} {u : Float.Model.UnpackedFloat} (h : Within E u) :
    u.isFinite = true := by
  cases h <;> rfl

/-- A double with an exponent that is too large becomes infinite when it is packed. -/
theorem unpack_pack_large (s : Sign) {m : Nat} {e : Int} (hm : 0 < m) (he : 971 < e) :
    Float.Model.UnpackedFloat.unpack Format.binary64
      (Float.Model.UnpackedFloat.pack Format.binary64 (.finite s m e hm)) = .infinity s := by
  rw [pack_finite, if_pos (by omega)]
  exact unpack_pack_infinity s

theorem unpack_pack_notANumber :
    Float.Model.UnpackedFloat.unpack Format.binary64
      (Float.Model.UnpackedFloat.pack Format.binary64 .notANumber) = .notANumber := rfl

/-- **Packing keeps a double finite exactly when its exponent is not too large.** -/
theorem isFinite_unpack_pack (u : Float.Model.UnpackedFloat) :
    (Float.Model.UnpackedFloat.unpack Format.binary64
      (Float.Model.UnpackedFloat.pack Format.binary64 u)).isFinite = true ↔ Within 971 u := by
  refine ⟨fun h => ?_, fun h => isFinite_of_within (within_pack (by omega) (by omega) h)⟩
  cases u with
  | zero s => exact .zero s
  | infinity s =>
    rw [unpack_pack_infinity] at h
    cases h
  | notANumber =>
    rw [unpack_pack_notANumber] at h
    cases h
  | finite s m e hm =>
    refine .finite (Decidable.byContradiction fun hlarge => ?_)
    rw [unpack_pack_large s hm (by omega)] at h
    cases h

/-- Packing makes nothing that is no number. -/
theorem isNaN_unpack_pack {u : Float.Model.UnpackedFloat} (h : u.isNaN = false) :
    (Float.Model.UnpackedFloat.unpack Format.binary64
      (Float.Model.UnpackedFloat.pack Format.binary64 u)).isNaN = false := by
  have hfinite : ∀ {v : Float.Model.UnpackedFloat}, v.isFinite = true → v.isNaN = false := by
    intro v hv
    cases v <;> first | rfl | cases hv
  cases u with
  | zero s => exact hfinite ((isFinite_unpack_pack _).mpr (.zero s))
  | infinity s =>
    rw [unpack_pack_infinity]
    rfl
  | notANumber => cases h
  | finite s m e hm =>
    by_cases he : e ≤ 971
    · exact hfinite ((isFinite_unpack_pack _).mpr (.finite he))
    · rw [unpack_pack_large s hm (by omega)]
      rfl

theorem isNaN_dite (s : Sign) (m : Nat) (e : Int) :
    Float.Model.UnpackedFloat.isNaN
      (if h : m = 0 then .zero s else .finite s m e (Nat.pos_of_ne_zero h)) = false := by
  by_cases h : m = 0
  · rw [dif_pos h]
    rfl
  · rw [dif_neg h]
    rfl

theorem isNaN_roundWithAccuracy (s : Sign) (m : Nat) (e : Int) (accuracy : Accuracy) :
    (roundWithAccuracy Format.binary64 s m e accuracy).isNaN = false := isNaN_dite s _ _

/-! ## 3. Decimal numbers -/

/-- A decimal number below the bound, multiplied out. -/
def InRange (m : Nat) (e : Int) : Prop := m * 10 ^ e.toNat < rangeBound * 10 ^ (-e).toNat

theorem rangeBound_between : 10 ^ 308 ≤ rangeBound ∧ rangeBound ≤ 10 ^ 309 := by decide +kernel

/-- A number with few digits in front of its point is below the bound. -/
theorem inRange_of_lt {m k : Nat} {e : Int} (h : m < 10 ^ k) (hk : k + e ≤ 308) : InRange m e := by
  have hten : 0 < 10 ^ e.toNat := Nat.pow_pos (by omega)
  obtain ⟨hbound, -⟩ := rangeBound_between
  generalize hplaces : 308 = places at hbound
  unfold InRange
  calc m * 10 ^ e.toNat
      < 10 ^ k * 10 ^ e.toNat := Nat.mul_lt_mul_of_pos_right h hten
    _ = 10 ^ (k + e.toNat) := (Nat.pow_add ..).symm
    _ ≤ 10 ^ (places + (-e).toNat) := Nat.pow_le_pow_right (by omega) (by omega)
    _ = 10 ^ places * 10 ^ (-e).toNat := Nat.pow_add ..
    _ ≤ rangeBound * 10 ^ (-e).toNat := Nat.mul_le_mul_right _ hbound

/-- A number with many digits in front of its point is not. -/
theorem not_inRange_of_le {m k : Nat} {e : Int} (h : 10 ^ k ≤ m) (hk : 309 ≤ k + e) :
    ¬ InRange m e := by
  obtain ⟨-, hbound⟩ := rangeBound_between
  generalize hplaces : 309 = places at hbound
  refine Nat.not_lt.mpr ?_
  calc rangeBound * 10 ^ (-e).toNat
      ≤ 10 ^ places * 10 ^ (-e).toNat := Nat.mul_le_mul_right _ hbound
    _ = 10 ^ (places + (-e).toNat) := (Nat.pow_add ..).symm
    _ ≤ 10 ^ (k + e.toNat) := Nat.pow_le_pow_right (by omega) (by omega)
    _ = 10 ^ k * 10 ^ e.toNat := Nat.pow_add ..
    _ ≤ m * 10 ^ e.toNat := Nat.mul_le_mul_right _ h

theorem inRange_zero (e : Int) : InRange 0 e := by
  unfold InRange
  rw [Nat.zero_mul]
  have hbound := Nat.lt_of_lt_of_le (Nat.pow_pos (by omega)) rangeBound_between.1
  exact Nat.mul_pos hbound (Nat.pow_pos (by omega))

theorem scaled_rangeBound (n : Nat) : (2 ^ 54 - 1) * 2 ^ (970 + n) = rangeBound * 2 ^ n := by
  unfold rangeBound
  generalize 970 = b
  rw [Nat.pow_add, Nat.mul_assoc]

/-- A whole number times a power of ten. -/
theorem within_product_iff (m e : Nat) :
    Within 971 (roundWithAccuracy Format.binary64 (.positive * .positive) (m <<< 53 * 10 ^ e)
      (-53 + 0) .exact) ↔ InRange m e := by
  rw [within_round_iff _ _ (by omega)]
  have hsplit : (970 - (-53 + 0 : Int)).toNat = 970 + 53 := rfl
  have hcommuted : m <<< 53 * 10 ^ e = m * 10 ^ e * 2 ^ 53 := by
    rw [Nat.shiftLeft_eq, Nat.mul_right_comm]
  have hneg : (-(e : Int)).toNat = 0 := by omega
  unfold InRange
  rw [hsplit, scaled_rangeBound, hcommuted, Nat.mul_lt_mul_right (by omega), Int.toNat_natCast,
    hneg, Nat.pow_zero, Nat.mul_one]

theorem div_finite (spec : Format) (s₁ s₂ : Sign) (m₁ m₂ : Nat) (e₁ e₂ : Int) (h₁ : 0 < m₁)
    (h₂ : 0 < m₂) : div spec (.finite s₁ m₁ e₁ h₁) (.finite s₂ m₂ e₂ h₂) =
      roundWithAccuracy spec (s₁ / s₂) (divCore spec m₁ e₁ m₂ e₂).1
        (divCore spec m₁ e₁ m₂ e₂).2.1 (divCore spec m₁ e₁ m₂ e₂).2.2 := rfl

/-- A whole number over a power of ten. Where the digits behind the quotient are dropped, it is
    still the same side of the bound. -/
theorem within_quotient_iff (s : Sign) (m k : Nat) {t : Int} (ht : t ≤ 0) (accuracy : Accuracy) :
    Within 971 (roundWithAccuracy Format.binary64 s (m <<< (0 - t).toNat / 10 ^ k) t accuracy) ↔
      InRange m (-(k : Int)) := by
  have hten : 0 < 10 ^ k := Nat.pow_pos (by omega)
  have hsplit : (970 - t).toNat = 970 + (0 - t).toNat := by omega
  have hbound : (2 ^ 54 - 1) * 2 ^ (970 - t).toNat * 10 ^ k =
      rangeBound * 10 ^ k * 2 ^ (0 - t).toNat := by
    rw [hsplit, scaled_rangeBound, Nat.mul_right_comm]
  have hnone : (-(k : Int)).toNat = 0 := by omega
  rw [within_round_iff _ _ (by omega), Nat.div_lt_iff_lt_mul hten, hbound, Nat.shiftLeft_eq,
    Nat.mul_lt_mul_right (Nat.two_pow_pos _)]
  unfold InRange
  rw [hnone, Int.neg_neg, Int.toNat_natCast, Nat.pow_zero, Nat.mul_one]

/-- **Decimal notation stays finite exactly below the bound.** -/
theorem within_ofScientific_iff (m : Nat) (e : Int) :
    Within 971 (ofScientific Format.binary64 m e) ↔ InRange m e := by
  unfold ofScientific
  by_cases hzero : m = 0
  · rw [dif_pos hzero, hzero]
    exact iff_of_true (.zero _) (inRange_zero e)
  · rw [dif_neg hzero]
    by_cases hlarge : e > 2 ^ Format.binary64.exponentBits
    · rw [if_pos hlarge]
      have hfar : 2048 < e := hlarge
      refine iff_of_false (by rintro ⟨⟩) (not_inRange_of_le (k := 0) ?_ (by omega))
      exact Nat.pos_of_ne_zero hzero
    · rw [if_neg hlarge]
      by_cases hsmall : e < -(2 ^ Format.binary64.exponentBits + (m.log2 : Int))
      · rw [if_pos hsmall]
        have hnear : e < -(2048 + (m.log2 : Int)) := hsmall
        refine iff_of_true (.zero _) (inRange_of_lt (k := m.log2 + 1) ?_ (by omega))
        exact Nat.lt_of_lt_of_le Nat.lt_log2_self (Nat.pow_le_pow_left (by omega) _)
      · rw [if_neg hsmall]
        by_cases hwhole : 0 ≤ e
        · obtain ⟨k, rfl⟩ := Int.eq_ofNat_of_zero_le hwhole
          rw [if_pos hwhole, mul_finite]
          exact within_product_iff m k
        · obtain ⟨k, rfl⟩ : ∃ k : Nat, e = -(k : Int) := ⟨(-e).toNat, by omega⟩
          rw [if_neg hwhole, div_finite, Int.neg_neg, Int.toNat_natCast]
          exact within_quotient_iff _ m k (Int.min_le_left _ _) _

theorem isNaN_ofScientific (m : Nat) (e : Int) :
    (ofScientific Format.binary64 m e).isNaN = false := by
  unfold ofScientific
  by_cases hzero : m = 0
  · rw [dif_pos hzero]
    rfl
  · rw [dif_neg hzero]
    by_cases hlarge : e > 2 ^ Format.binary64.exponentBits
    · rw [if_pos hlarge]
      rfl
    · rw [if_neg hlarge]
      by_cases hsmall : e < -(2 ^ Format.binary64.exponentBits + (m.log2 : Int))
      · rw [if_pos hsmall]
        rfl
      · rw [if_neg hsmall]
        by_cases hwhole : 0 ≤ e
        · rw [if_pos hwhole, mul_finite]
          exact isNaN_roundWithAccuracy _ _ _ _
        · rw [if_neg hwhole, div_finite]
          exact isNaN_roundWithAccuracy _ _ _ _

/-! ## 4. Doubles -/

theorem isFinite_neg (x : Float) : (-x).isFinite = x.isFinite := by
  have hneg : ∀ u : Float.Model.UnpackedFloat, Within 971 u.neg ↔ Within 971 u := by
    intro u
    cases u with
    | zero s => exact iff_of_true (.zero _) (.zero _)
    | finite s m e hm => exact ⟨fun h => by cases h; exact .finite ‹_›, Within.neg⟩
    | infinity s => exact iff_of_false (by rintro ⟨⟩) (by rintro ⟨⟩)
    | notANumber => exact iff_of_false (by rintro ⟨⟩) (by rintro ⟨⟩)
  rw [Bool.eq_iff_iff]
  refine (isFinite_unpack_pack x.toModel.unpack.neg).trans ((hneg _).trans ?_)
  exact ⟨isFinite_of_below, below_of_isFinite⟩

theorem isNaN_neg {x : Float} (h : x.isNaN = false) : (-x).isNaN = false := by
  refine isNaN_unpack_pack (u := x.toModel.unpack.neg) ?_
  have hx : x.toModel.unpack.isNaN = false := h
  generalize x.toModel.unpack = u at hx
  cases u <;> first | rfl | cases hx

/-- The power of ten of a number in scientific notation. -/
def scientificPower (negative : Bool) (k : Nat) : Int := if negative then -(k : Int) else k

/-- Short numbers are computed from doubles that are exact. -/
theorem isFinite_short {m k : Nat} (h : m < 2 ^ 53 ∧ k ≤ 22) (negative : Bool) :
    (Float.ofScientific m negative k).isFinite = true := by
  have hpower : ∀ i : Fin 23, AtLeastOne Float.exactlyRepresentablePowersOfTen[i] ∧
      Below 22 Float.exactlyRepresentablePowersOfTen[i] := by
    decide +kernel
  obtain ⟨hone, hbelow⟩ := hpower ⟨k, by omega⟩
  unfold Float.ofScientific
  rw [dif_pos h]
  dsimp only
  split
  · exact isFinite_of_below (below_div (below_toFloat h.1) hone (by omega) (by omega))
  · exact isFinite_of_below
      (below_mul (below_toFloat h.1) hbelow (by omega) (by omega) (Int.le_refl 971))

theorem inRange_short {m k : Nat} (h : m < 2 ^ 53 ∧ k ≤ 22) (negative : Bool) :
    InRange m (scientificPower negative k) := by
  have hten : (2 : Nat) ^ 53 ≤ 10 ^ 16 := by decide
  refine inRange_of_lt (k := 16) (by omega) ?_
  unfold scientificPower
  split <;> omega

theorem ofScientific_long {m k : Nat} (h : ¬ (m < 2 ^ 53 ∧ k ≤ 22)) (negative : Bool) :
    (Float.ofScientific m negative k).toModel.unpack =
      Float.Model.UnpackedFloat.unpack Format.binary64 (Float.Model.UnpackedFloat.pack
        Format.binary64 (ofScientific Format.binary64 m (scientificPower negative k))) := by
  unfold Float.ofScientific scientificPower
  rw [dif_neg h]
  cases negative with
  | true =>
    dsimp only
    rw [if_pos rfl, if_pos rfl, Int.negOfNat_eq]
    rfl
  | false => rfl

/-- **Scientific notation has a finite double exactly below the bound.** -/
theorem isFinite_ofScientific (m : Nat) (negative : Bool) (k : Nat) :
    (Float.ofScientific m negative k).isFinite = true ↔
      InRange m (scientificPower negative k) := by
  by_cases h : m < 2 ^ 53 ∧ k ≤ 22
  · exact iff_of_true (isFinite_short h negative) (inRange_short h negative)
  · show (Float.ofScientific m negative k).toModel.unpack.isFinite = true ↔ _
    rw [ofScientific_long h, isFinite_unpack_pack, within_ofScientific_iff]

theorem isNaN_scientific (m : Nat) (negative : Bool) (k : Nat) :
    (Float.ofScientific m negative k).isNaN = false := by
  by_cases h : m < 2 ^ 53 ∧ k ≤ 22
  · exact isNaN_of_isFinite (isFinite_short h negative)
  · show (Float.ofScientific m negative k).toModel.unpack.isNaN = false
    rw [ofScientific_long h]
    exact isNaN_unpack_pack (isNaN_ofScientific _ _)

/-- **A whole number has a finite double exactly below the bound.** -/
theorem isFinite_ofInt (n : Int) : (Float.ofInt n).isFinite = true ↔ n.natAbs < rangeBound := by
  have hnat : ∀ k : Nat, (Float.ofNat k).isFinite = true ↔ k < rangeBound := by
    intro k
    refine (isFinite_ofScientific k false 0).trans ?_
    have hpower : scientificPower false 0 = 0 := rfl
    unfold InRange
    rw [hpower, Int.neg_zero, Int.toNat_zero, Nat.pow_zero, Nat.mul_one, Nat.mul_one]
  cases n with
  | ofNat k => exact hnat k
  | negSucc k =>
    show (-(Float.ofNat (k + 1))).isFinite = true ↔ k + 1 < rangeBound
    rw [isFinite_neg, hnat]

/-! ## 5. Digits -/

theorem digitsValue_dropZeros (digits : List Char) :
    digitsValue (digits.dropWhile (· == '0')) = digitsValue digits := by
  induction digits with
  | nil => rfl
  | cons c rest ih =>
    by_cases hc : c = '0'
    · rw [hc]
      exact ih
    · rw [List.dropWhile_cons_of_neg (by simpa using hc)]

/-- The doubles of digits that are settled by their number. -/
theorem isFinite_ends : (0.0 : Float).isFinite = true ∧ (1.0 / 0.0 : Float).isFinite = false ∧
    (1.0 / 0.0 : Float).isNaN = false := by decide +kernel

/-- Digits that are far beyond the range are settled by their number. -/
theorem isFinite_nearestFloat_false {digits : List Char} (h : ∀ c ∈ digits, c.isDigit = true)
    (e : Int) : (nearestFloat false digits e).isFinite = true ↔ InRange (digitsValue digits) e := by
  have hkept : ∀ c ∈ digits.dropWhile (· == '0'), c.isDigit = true :=
    fun c hc => h c ((List.dropWhile_sublist _).mem hc)
  unfold nearestFloat
  rw [← digitsValue_dropZeros digits, if_neg Bool.false_ne_true]
  cases hsome : digits.dropWhile (· == '0') with
  | nil =>
    rw [if_pos List.isEmpty_nil]
    exact iff_of_true isFinite_ends.1 (inRange_zero e)
  | cons c rest =>
    rw [hsome] at hkept
    have hc : c ≠ '0' := by
      have hstop := List.head?_dropWhile_not (· == '0') digits
      rw [hsome] at hstop
      simpa using hstop
    have hlength : (c :: rest).length = rest.length + 1 := List.length_cons
    rw [if_neg (by simp)]
    by_cases hlarge : 400 < ((c :: rest).length : Int) + e
    · rw [if_pos hlarge]
      exact iff_of_false (Bool.eq_false_iff.mp isFinite_ends.2.1)
        (not_inRange_of_le (le_digitsValue hkept hc) (by omega))
    · rw [if_neg hlarge]
      by_cases hsmall : ((c :: rest).length : Int) + e < -400
      · rw [if_pos hsmall]
        exact iff_of_true isFinite_ends.1 (inRange_of_lt (digitsValue_lt hkept) (by omega))
      · rw [if_neg hsmall]
        cases e with
        | ofNat k => exact isFinite_ofScientific _ false k
        | negSucc k => exact isFinite_ofScientific _ true (k + 1)

/-- **A number written in digits has a finite double exactly below the bound.** -/
theorem isFinite_nearestFloat (negative : Bool) {digits : List Char}
    (h : ∀ c ∈ digits, c.isDigit = true) (e : Int) :
    (nearestFloat negative digits e).isFinite = true ↔ InRange (digitsValue digits) e := by
  rw [← isFinite_nearestFloat_false h]
  cases negative with
  | false => exact Iff.rfl
  | true =>
    show (-(nearestFloat false digits e)).isFinite = true ↔ _
    rw [isFinite_neg]

/-- What is written in digits is a number. -/
theorem isNaN_nearestFloat (negative : Bool) (digits : List Char) (e : Int) :
    (nearestFloat negative digits e).isNaN = false := by
  have hpositive : (nearestFloat false digits e).isNaN = false := by
    unfold nearestFloat
    rw [if_neg Bool.false_ne_true]
    split
    · exact isNaN_of_isFinite isFinite_ends.1
    · split
      · exact isFinite_ends.2.2
      · split
        · exact isNaN_of_isFinite isFinite_ends.1
        · split
          · exact isNaN_scientific _ _ _
          · exact isNaN_scientific _ _ _
  cases negative with
  | false => exact hpositive
  | true => exact isNaN_neg hpositive

end Waypost.Decimal
