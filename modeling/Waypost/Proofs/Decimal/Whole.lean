import Waypost.Fault.Basic
import Waypost.Proofs.Decimal.Magnitude

/-!
# Doubles near whole numbers

* `below_of_isFinite` -- a finite double is below the largest exponent;
* `below_ofInt` -- **a whole number that fits has a double**;
* `below_ofInt_nearest` -- so has the whole number next to a double;
* `isFinite_roundPlaces` -- **rounding to decimal places keeps finite doubles finite**, the largest
  one included.
-/

namespace Waypost.Decimal

open Float.Model (Format)
open Float.Model.UnpackedFloat

/-! ## 1. Decimal notation -/

theorem mul_finite (spec : Format) (s₁ s₂ : Sign) (m₁ m₂ : Nat) (e₁ e₂ : Int) (h₁ : 0 < m₁)
    (h₂ : 0 < m₂) : mul spec (.finite s₁ m₁ e₁ h₁) (.finite s₂ m₂ e₂ h₂) =
      roundWithAccuracy spec (s₁ * s₂) (m₁ * m₂) (e₁ + e₂) .exact := rfl

/-- A whole number that fits, with bits to spare behind it. -/
theorem within_spare {E : Int} (hE : 0 ≤ E) (s : Sign) {m : Nat}
    (h : m ≤ (2 ^ 53 - 1) * 2 ^ E.toNat) :
    Within E (roundWithAccuracy Format.binary64 s (m <<< 53 * 1) (-53) .exact) := by
  have hscaled : m <<< 53 * 1 ≤ (2 ^ 53 - 1) * 2 ^ (E - -53).toNat := by
    have hexponent : (E - -53).toNat = E.toNat + 53 := by omega
    rw [Nat.mul_one, Nat.shiftLeft_eq, hexponent, Nat.pow_add, ← Nat.mul_assoc]
    exact Nat.mul_le_mul_right _ h
  refine within_roundWithAccuracy (by omega) s (by omega) ?_
  rcases Nat.lt_or_eq_of_le hscaled with hless | hequal
  · exact Or.inl hless
  · exact Or.inr ⟨hequal, rfl⟩

/-- A decimal notation that is at most the largest number with an exponent. -/
theorem within_ofScientific {E : Int} (hE : 0 ≤ E) {m places : Nat}
    (h : m ≤ (2 ^ 53 - 1) * 10 ^ places * 2 ^ E.toNat) :
    Within E (ofScientific Format.binary64 m (-(places : Int))) := by
  unfold ofScientific
  by_cases hzero : m = 0
  · rw [dif_pos hzero]
    exact .zero _
  · have hlarge : ¬ -(places : Int) > 2 ^ Format.binary64.exponentBits := by
      show ¬ -(places : Int) > 2 ^ 11
      omega
    rw [dif_neg hzero, if_neg hlarge]
    by_cases hsmall : -(places : Int) < -(2 ^ Format.binary64.exponentBits + (m.log2 : Int))
    · rw [if_pos hsmall]
      exact .zero _
    · rw [if_neg hsmall]
      by_cases hwhole : 0 ≤ -(places : Int)
      · -- without decimal places the notation is a product by one
        have hplaces : places = 0 := by omega
        subst hplaces
        rw [Nat.pow_zero, Nat.mul_one] at h
        rw [if_pos hwhole, mul_finite]
        exact within_spare hE _ h
      · rw [if_neg hwhole]
        refine within_div (by omega) (i := 0) (j := E.toNat) (by omega) ?_
        rw [Nat.pow_zero, Nat.mul_one, Int.neg_neg, Int.toNat_natCast]
        exact h

theorem below_toFloat {n : Nat} (h : n < 2 ^ 53) : Below 0 n.toUInt64.toFloat := by
  refine within_pack (u := ofNat Format.binary64 n.toUInt64.toNat) (by omega) (by omega) ?_
  refine within_normalize (by omega) (Int.le_refl 0) ?_ _
  have hsmall : n.toUInt64.toNat = n := by
    rw [Nat.toUInt64, UInt64.toNat_ofNat']
    exact Nat.mod_eq_of_lt (by omega)
  rw [hsmall, Int.natAbs_natCast, Int.sub_zero, Int.toNat_zero, Nat.pow_zero, Nat.mul_one]
  omega

theorem below_ofScientific {E : Int} (hE : 0 ≤ E) (hmost : E ≤ 971) {m places : Nat}
    (h : m ≤ (2 ^ 53 - 1) * 10 ^ places * 2 ^ E.toNat) :
    Below E (Float.ofScientific m true places) := by
  unfold Float.ofScientific
  split
  · rename_i hsmall
    have hpower : ∀ i : Fin 23, AtLeastOne Float.exactlyRepresentablePowersOfTen[i] := by
      decide +kernel
    exact (below_div (below_toFloat hsmall.1) (hpower ⟨places, by omega⟩) (by omega)
      (by omega)).mono hE
  · refine within_pack (u := ofScientific Format.binary64 m (Int.negOfNat places)) (by omega)
      hmost ?_
    rw [Int.negOfNat_eq]
    exact within_ofScientific hE h

/-! ## 2. Whole numbers as doubles -/

theorem below_ofNat {E : Int} {n : Nat} (hE : 1 ≤ E) (hmost : E ≤ 971)
    (h : n ≤ (2 ^ 53 - 1) * 2 ^ E.toNat) : Below E (Float.ofNat n) := by
  show Below E (Float.ofScientific n false 0)
  unfold Float.ofScientific
  split
  · rename_i hsmall
    have hone : Below (-52) Float.exactlyRepresentablePowersOfTen[0] := by decide +kernel
    exact below_mul (below_toFloat hsmall.1) hone (by omega) (by omega) hmost
  · refine within_pack (u := ofScientific Format.binary64 n (-((0 : Nat) : Int))) (by omega)
      hmost (within_ofScientific (by omega) ?_)
    rw [Nat.pow_zero, Nat.mul_one]
    exact h

/-- **A whole number that fits has a double.** -/
theorem below_ofInt {E n : Int} (hE : 1 ≤ E) (hmost : E ≤ 971)
    (h : n.natAbs ≤ (2 ^ 53 - 1) * 2 ^ E.toNat) : Below E (Float.ofInt n) := by
  cases n with
  | ofNat k => exact below_ofNat hE hmost h
  | negSucc k => exact below_neg (below_ofNat hE hmost h) (by omega) hmost

/-! ## 3. Doubles to whole numbers and back -/

theorem roundQuotient_le (num den : Nat) : roundQuotient num den ≤ num / den + 1 := by
  unfold roundQuotient
  dsimp only
  split
  · exact Nat.le_refl _
  · exact Nat.le_succ _

/-- Mantissa and exponent of a finite double. -/
theorem bounds_ofFloat {x : Float} {negative : Bool} {m : Nat} {e : Int}
    (h : Exact.ofFloat x = .finite negative m e) : m ≤ 2 ^ 53 - 1 ∧ e ≤ 971 := by
  unfold Exact.ofFloat at h
  dsimp only at h
  split at h
  · split at h <;> cases h
  · split at h
    · cases h
      omega
    · cases h
      omega

/-- A finite double is below the largest exponent. -/
theorem below_of_isFinite {x : Float} (h : x.isFinite = true) : Below 971 x := by
  obtain ⟨negative, m, e, hx⟩ := isFinite_iff.mp h
  rw [ofFloat_eq] at hx
  have hbound : ∀ {m' e'}, Exact.ofFloat x = .finite negative m' e' → e' ≤ 971 :=
    fun hvalue => (bounds_ofFloat hvalue).2
  rw [ofFloat_eq] at hbound
  unfold Below
  generalize x.toModel.unpack = u at *
  cases u with
  | zero s => exact .zero s
  | finite s m' e' hm =>
    cases hx
    exact .finite (hbound rfl)
  | infinity s => cases hx
  | notANumber => cases hx

/-- The value of a double, rounded to decimal places, is at most that of its bounds. -/
theorem roundQuotient_fraction_le {m : Nat} {e E : Int} (hm : m ≤ 2 ^ 53 - 1) (he : e ≤ E)
    (hE : 1 ≤ E) (places : Nat) :
    roundQuotient (fraction m e places).1 (fraction m e places).2 ≤
      (2 ^ 53 - 1) * 10 ^ places * 2 ^ E.toNat := by
  have hten : 0 < 10 ^ places := Nat.pow_pos (by omega)
  unfold fraction
  split
  · rename_i k
    have hexact : roundQuotient (m * Nat.pow 2 k * Nat.pow 10 places) 1 =
        m * 2 ^ k * 10 ^ places := by
      unfold roundQuotient
      dsimp only
      rw [Nat.div_one, Nat.mod_one]
      rfl
    have hk : k ≤ E.toNat := by
      rw [Int.ofNat_eq_natCast] at he
      omega
    dsimp only
    rw [hexact, Nat.mul_right_comm]
    exact Nat.mul_le_mul (Nat.mul_le_mul_right _ hm) (Nat.pow_le_pow_right (by omega) hk)
  · rename_i k
    refine (roundQuotient_le _ _).trans ?_
    have hquotient : m * Nat.pow 10 places / Nat.pow 2 (k + 1) ≤ m * 10 ^ places :=
      Nat.div_le_self _ _
    have hbound : m * 10 ^ places ≤ (2 ^ 53 - 1) * 10 ^ places := Nat.mul_le_mul_right _ hm
    calc m * Nat.pow 10 places / Nat.pow 2 (k + 1) + 1
        ≤ (2 ^ 53 - 1) * 10 ^ places * 2 := by omega
      _ ≤ (2 ^ 53 - 1) * 10 ^ places * 2 ^ E.toNat :=
        Nat.mul_le_mul_left _ (Nat.le_self_pow (by omega) 2)

/-- **Rounding to decimal places keeps finite doubles finite**, and no others become finite. -/
theorem isFinite_roundPlaces (places : Nat) (x : Float) :
    (roundPlaces places x).isFinite = x.isFinite := by
  unfold roundPlaces
  cases hx : Exact.ofFloat x with
  | nan => rfl
  | infinite negative => rfl
  | finite negative m e =>
    obtain ⟨hm, he⟩ := bounds_ofFloat hx
    have hbelow := below_ofScientific (E := 971) (by omega) (by omega)
      (roundQuotient_fraction_le hm he (by omega) places)
    rw [isFinite_iff.mpr ⟨negative, m, e, hx⟩]
    dsimp only
    split
    · exact isFinite_of_below (below_neg hbelow (by omega) (by omega))
    · exact isFinite_of_below hbelow

theorem natAbs_signed (negative : Bool) (n : Nat) : (signed negative n).natAbs = n := by
  unfold signed
  split
  · rw [Int.natAbs_neg, Int.natAbs_natCast]
  · exact Int.natAbs_natCast n

/-- The whole number next to a double is at most the largest double. -/
theorem natAbs_nearest_le {x : Float} {n E : Int} (hE : 971 ≤ E) (h : nearest? x = .ok n) :
    n.natAbs ≤ (2 ^ 53 - 1) * 2 ^ E.toNat := by
  unfold nearest? at h
  cases hx : Exact.ofFloat x with
  | nan =>
    rw [hx] at h
    cases h
  | infinite negative =>
    rw [hx] at h
    cases h
  | finite negative m e =>
    rw [hx] at h
    have hvalue : n = signed negative (roundQuotient (fraction m e 0).1 (fraction m e 0).2) :=
      (Except.ok.inj h).symm
    obtain ⟨hm, he⟩ := bounds_ofFloat hx
    have hle := roundQuotient_fraction_le hm (he.trans hE) (by omega) 0
    rw [Nat.pow_zero, Nat.mul_one] at hle
    rw [hvalue, natAbs_signed]
    exact hle

/-- The whole number next to a double has a double. -/
theorem below_ofInt_nearest {x : Float} {n : Int} (h : nearest? x = .ok n) :
    Below 971 (Float.ofInt n) :=
  below_ofInt (by omega) (by omega) (natAbs_nearest_le (Int.le_refl 971) h)

end Waypost.Decimal
