import Mathlib.Algebra.Order.Ring.Nat
import Mathlib.Tactic.Ring
import Waypost.Proofs.Decimal.Exact

/-!
# How large a double is

A finite double is a whole number of at most 53 bits times a power of two. A bound for that power
bounds the double, and each operation bounds its result by the bounds of its operands.

* `Below` -- a finite double whose power of two is at most the given one;
* `within_roundWithAccuracy` -- what is at most the largest number with that power of two is rounded
  to such a number;
* `below_mul`, `below_add`, `below_div` -- the operations;
* `below_of_between` -- what lies between two bounded doubles is bounded.
-/

namespace Waypost.Decimal

open Float.Model (Format totalExponent)
open Float.Model.UnpackedFloat

/-- An unpacked double that is finite and has at most this exponent. -/
inductive Within (E : Int) : Float.Model.UnpackedFloat → Prop where
  | zero (s : Sign) : Within E (.zero s)
  | finite {s : Sign} {m : Nat} {e : Int} {hm : 0 < m} (h : e ≤ E) : Within E (.finite s m e hm)

instance (E : Int) (u : Float.Model.UnpackedFloat) : Decidable (Within E u) :=
  match u with
  | .zero s => isTrue (.zero s)
  | .finite _ _ e _ => if h : e ≤ E then isTrue (.finite h) else isFalse (by rintro ⟨⟩; exact h ‹_›)
  | .infinity _ => isFalse (by rintro ⟨⟩)
  | .notANumber => isFalse (by rintro ⟨⟩)

/-- A finite double with at most this exponent. -/
def Below (E : Int) (x : Float) : Prop := Within E x.toModel.unpack

instance (E : Int) (x : Float) : Decidable (Below E x) :=
  inferInstanceAs (Decidable (Within E x.toModel.unpack))

theorem isFinite_of_below {E : Int} {x : Float} (h : Below E x) : x.isFinite = true := by
  show x.toModel.unpack.isFinite = true
  unfold Below at h
  generalize x.toModel.unpack = u at *
  cases h <;> rfl

theorem Within.mono {E F : Int} {u : Float.Model.UnpackedFloat} (h : Within E u) (hle : E ≤ F) :
    Within F u := by
  cases h with
  | zero s => exact .zero s
  | finite h => exact .finite (Int.le_trans h hle)

theorem Below.mono {E F : Int} {x : Float} (h : Below E x) (hle : E ≤ F) : Below F x :=
  Within.mono h hle

/-! ## 1. Unpacking -/

/-- The mantissa of an unpacked double has at most 53 bits. -/
theorem mantissa_of_unpack {b : BitVec Format.binary64.numBits} {s : Sign} {m : Nat} {e : Int}
    {hm : 0 < m} (h : Float.Model.UnpackedFloat.unpack Format.binary64 b = .finite s m e hm) :
    m < 2 ^ 53 := by
  have hvalue := ofUnpacked_unpack b
  have hfield : (unpackMantissa b).toNat < 2 ^ 52 := (unpackMantissa b).isLt
  rw [h] at hvalue
  unfold Exact.ofUnpacked at hvalue
  dsimp only at hvalue
  split at hvalue
  · split at hvalue <;> cases hvalue
  · split at hvalue
    · obtain ⟨-, hmantissa, -⟩ := Exact.finite.inj hvalue
      omega
    · obtain ⟨-, hmantissa, -⟩ := Exact.finite.inj hvalue
      omega

/-- An exponent field that is small, and not that of the infinities, bounds the exponent. -/
theorem within_unpack {b : BitVec Format.binary64.numBits} {E : Int} (hE : -1074 ≤ E)
    (hfield : (unpackExponent b).toNat ≠ 2047) (hle : ((unpackExponent b).toNat : Int) - 1075 ≤ E) :
    Within E (Float.Model.UnpackedFloat.unpack Format.binary64 b) := by
  have hvalue := ofUnpacked_unpack b
  rw [if_neg hfield] at hvalue
  cases hu : Float.Model.UnpackedFloat.unpack Format.binary64 b with
  | zero s => exact .zero s
  | finite s m e hm =>
    rw [hu] at hvalue
    unfold Exact.ofUnpacked at hvalue
    dsimp only at hvalue
    refine .finite ?_
    split at hvalue
    · obtain ⟨-, -, hexponent⟩ := Exact.finite.inj hvalue
      omega
    · obtain ⟨-, -, hexponent⟩ := Exact.finite.inj hvalue
      omega
  | infinity s =>
    rw [hu] at hvalue
    split at hvalue <;> cases hvalue
  | notANumber =>
    rw [hu] at hvalue
    split at hvalue <;> cases hvalue

/-- Packing keeps a bound below the largest exponent. -/
theorem within_pack {E : Int} (hE : -1074 ≤ E) (hmost : E ≤ 971) {u : Float.Model.UnpackedFloat}
    (h : Within E u) :
    Within E (Float.Model.UnpackedFloat.unpack Format.binary64
      (Float.Model.UnpackedFloat.pack Format.binary64 u)) := by
  cases h with
  | zero s =>
    refine within_unpack hE ?_ ?_
    all_goals
      unfold pack packedZero
      rw [unpackExponent_packComponents]
      simp
    omega
  | @finite s m e hm he =>
    have hbiased : (e + Format.binary64.exponentBias +
        Format.binary64.mantissaBitsWithoutImplicit).toNat = (e + 1075).toNat := by
      show (e + (1023 : Nat) + (52 : Nat)).toNat = _
      omega
    unfold pack
    dsimp only
    rw [hbiased, if_neg (by show ¬ 2 ^ 11 ≤ _; omega)]
    split
    · refine within_unpack hE ?_ ?_
      all_goals
        rw [unpackExponent_packComponents, BitVec.toNat_ofNat]
        show _
        have hmod : (e + 1075).toNat % 2 ^ 11 = (e + 1075).toNat := Nat.mod_eq_of_lt (by omega)
        rw [hmod]
        omega
    · refine within_unpack hE ?_ ?_
      all_goals
        rw [unpackExponent_packComponents]
        simp
      omega

/-! ## 2. Rounding -/

theorem mantissa_shiftRight (em : ExtendedMantissa) (n : Nat) :
    (em >>> n).mantissa = em.mantissa / 2 ^ n := by
  induction n with
  | zero =>
    rw [Nat.pow_zero, Nat.div_one]
    rfl
  | succ n ih =>
    show (em >>> n).mantissa / 2 = _
    rw [ih, Nat.div_div_eq_div_mul, Nat.pow_succ]

theorem roundedMantissa_le (em : ExtendedMantissa) : em.roundedMantissa ≤ em.mantissa + 1 := by
  unfold ExtendedMantissa.roundedMantissa
  cases em.accuracy with
  | exact => exact Nat.le_succ _
  | inexact order =>
    cases order with
    | lt => exact Nat.le_succ _
    | eq =>
      show em.mantissa + em.mantissa % 2 ≤ _
      omega
    | gt => exact Nat.le_refl _

/-- Shifting out zeros leaves an exact mantissa exact. -/
theorem shiftRight_exact (m n : Nat) :
    (ExtendedMantissa.ofMantissaAndAccuracy (m * 2 ^ n) .exact) >>> n =
      ExtendedMantissa.ofMantissaAndAccuracy m .exact := by
  induction n generalizing m with
  | zero =>
    rw [Nat.pow_zero, Nat.mul_one]
    rfl
  | succ n ih =>
    show ((ExtendedMantissa.ofMantissaAndAccuracy (m * 2 ^ (n + 1)) .exact) >>> n).shiftRightOne = _
    rw [Nat.pow_succ, Nat.mul_comm (2 ^ n) 2, ← Nat.mul_assoc, ih]
    unfold ExtendedMantissa.shiftRightOne ExtendedMantissa.ofMantissaAndAccuracy
    dsimp only
    rw [Nat.mul_div_cancel _ (by omega), Nat.mul_mod_left]
    rfl

theorem targetExponent_eq (m : Nat) (e : Int) :
    Format.binary64.targetExponent (totalExponent m e) = max (m.log2 + 1 + e - 53) (-1074) := rfl

/-- The shift after the rounding moves a mantissa only when the rounding has filled it. -/
theorem exponent_shiftToTargetExponent {r : Nat} {e : Int} (hr : r ≤ 2 ^ 53) (he : -1074 ≤ e) :
    (shiftToTargetExponent Format.binary64 r e .exact).2 ≤ if r = 2 ^ 53 then e + 1 else e := by
  unfold shiftToTargetExponent shiftToExponent
  dsimp only
  rw [targetExponent_eq]
  split
  · rename_i hfull
    have hlog : r.log2 = 53 := by
      rw [hfull]
      exact Nat.log2_two_pow
    omega
  · rename_i hfull
    have hlog : r.log2 ≤ 52 := by
      by_cases hzero : r = 0
      · rw [hzero, Nat.log2_zero]
        omega
      · have := (Nat.log2_lt hzero).mpr (show r < 2 ^ 53 by omega)
        omega
    omega

theorem log2_le_of_lt {m k : Nat} (h : m < 2 ^ (k + 1)) : m.log2 ≤ k := by
  by_cases hzero : m = 0
  · rw [hzero, Nat.log2_zero]
    exact Nat.zero_le k
  · exact Nat.lt_succ_iff.mp ((Nat.log2_lt hzero).mpr h)

/-- A bound on the exponent, also where there is no mantissa. -/
theorem within_dite {E : Int} {s : Sign} {m : Nat} {e : Int} (he : e ≤ E) :
    Within E (if h : m = 0 then .zero s else .finite s m e (Nat.pos_of_ne_zero h)) := by
  by_cases h : m = 0
  · rw [dif_pos h]
    exact .zero s
  · rw [dif_neg h]
    exact .finite he

/-- **What is at most the largest number with an exponent is rounded to a number with at most that
    exponent.** -/
theorem within_roundWithAccuracy {E : Int} (hE : -1074 ≤ E) (s : Sign) {m : Nat} {e : Int}
    {accuracy : Accuracy} (he : e ≤ E)
    (hm : m < (2 ^ 53 - 1) * 2 ^ (E - e).toNat ∨
      m = (2 ^ 53 - 1) * 2 ^ (E - e).toNat ∧ accuracy = .exact) :
    Within E (roundWithAccuracy Format.binary64 s m e accuracy) := by
  have hpow : (2 ^ 53 - 1) * 2 ^ (E - e).toNat < 2 ^ (52 + (E - e).toNat + 1) := by
    have hpos := Nat.two_pow_pos (E - e).toNat
    calc (2 ^ 53 - 1) * 2 ^ (E - e).toNat
        < 2 ^ 53 * 2 ^ (E - e).toNat := Nat.mul_lt_mul_of_pos_right (by omega) hpos
      _ = 2 ^ (52 + (E - e).toNat + 1) := by
        rw [← Nat.pow_add]
        congr 1
        omega
  have hlog : m.log2 ≤ 52 + (E - e).toNat := log2_le_of_lt (by omega)
  unfold roundWithAccuracy shiftToTargetExponent shiftToExponent
  dsimp only
  rw [targetExponent_eq]
  generalize hn : (max ((m.log2 : Int) + 1 + e - 53) (-1074) - e).toNat = n
  have hfirst : -1074 ≤ e + (n : Int) ∧ e + (n : Int) ≤ E := by omega
  generalize hr : (ExtendedMantissa.ofMantissaAndAccuracy m accuracy >>> n).roundedMantissa = r
  have hquotient : m / 2 ^ n < 2 ^ 53 := by
    rw [Nat.div_lt_iff_lt_mul (Nat.two_pow_pos n), ← Nat.pow_add]
    have hself : m < 2 ^ (m.log2 + 1) := Nat.lt_log2_self
    exact Nat.lt_of_lt_of_le hself (Nat.pow_le_pow_right (by omega) (by omega))
  have hmantissa : (ExtendedMantissa.ofMantissaAndAccuracy m accuracy).mantissa = m := by
    cases accuracy with
    | exact => rfl
    | inexact order => cases order <;> rfl
  have hceiling : r ≤ m / 2 ^ n + 1 := by
    rw [← hr]
    refine (roundedMantissa_le _).trans ?_
    rw [mantissa_shiftRight, hmantissa]
  -- at the bound itself the rounding does not fill the mantissa
  have hedge : e + (n : Int) = E → r ≠ 2 ^ 53 := by
    intro hbound
    have hshift : n = (E - e).toNat := by omega
    rcases hm with hless | ⟨hequal, hexact⟩
    · rw [← hshift, ← Nat.div_lt_iff_lt_mul (Nat.two_pow_pos n)] at hless
      omega
    · rw [hequal, hexact, ← hshift, shiftRight_exact] at hr
      rw [← hr]
      decide
  have hlast := exponent_shiftToTargetExponent (r := r) (by omega) hfirst.1
  refine within_dite ?_
  show (shiftToTargetExponent Format.binary64 r (e + (n : Int)) .exact).2 ≤ E
  split at hlast
  · rename_i hfull
    have : e + (n : Int) ≠ E := fun hbound => hedge hbound hfull
    omega
  · omega

/-- The same where the mantissa may have to grow first. -/
theorem within_round {E : Int} (hE : -1074 ≤ E) (s : Sign) {m : Nat} {e : Int} (he : e ≤ E)
    (hm : m ≤ (2 ^ 53 - 1) * 2 ^ (E - e).toNat) :
    Within E (Float.Model.UnpackedFloat.round Format.binary64 s m e) := by
  unfold Float.Model.UnpackedFloat.round decreaseExponent
  dsimp only
  generalize (e - Format.binary64.targetExponent (totalExponent m e)).toNat = n
  refine within_roundWithAccuracy hE s (by omega) ?_
  have hmul : m <<< n ≤ (2 ^ 53 - 1) * 2 ^ (E - (e - (n : Int))).toNat := by
    have hexponent : (E - (e - (n : Int))).toNat = (E - e).toNat + n := by omega
    rw [Nat.shiftLeft_eq, hexponent, Nat.pow_add, ← Nat.mul_assoc]
    exact Nat.mul_le_mul_right _ hm
  rcases Nat.lt_or_eq_of_le hmul with hless | hequal
  · exact Or.inl hless
  · exact Or.inr ⟨hequal, rfl⟩

theorem within_normalize {E : Int} (hE : -1074 ≤ E) {m e : Int} (he : e ≤ E)
    (hm : m.natAbs ≤ (2 ^ 53 - 1) * 2 ^ (E - e).toNat) (zeroSign : Sign) :
    Within E (Float.Model.UnpackedFloat.normalize Format.binary64 m e zeroSign) := by
  unfold Float.Model.UnpackedFloat.normalize
  split
  · exact within_round hE _ he (by omega)
  · exact .zero zeroSign
  · exact within_round hE _ he (by omega)

/-! ## 3. Products and sums -/

theorem within_mul {a b c : Int} (hc : -1074 ≤ c) (habc : a + b + 53 ≤ c)
    {u v : Float.Model.UnpackedFloat} (hu : Within a u) (hv : Within b v)
    (hum : ∀ s m e hm, u = .finite s m e hm → m < 2 ^ 53)
    (hvm : ∀ s m e hm, v = .finite s m e hm → m < 2 ^ 53) : Within c (mul Format.binary64 u v) := by
  cases hu with
  | zero s => cases hv <;> exact .zero _
  | @finite s m e hm he =>
    cases hv with
    | zero s' => exact .zero _
    | @finite s' m' e' hm' he' =>
      have hbound := hum s m e hm rfl
      have hbound' := hvm s' m' e' hm' rfl
      refine within_roundWithAccuracy hc _ (by omega) (Or.inl ?_)
      calc m * m' ≤ (2 ^ 53 - 1) * (2 ^ 53 - 1) := Nat.mul_le_mul (by omega) (by omega)
        _ < (2 ^ 53 - 1) * 2 ^ 53 := by decide
        _ ≤ (2 ^ 53 - 1) * 2 ^ (c - (e + e')).toNat :=
          Nat.mul_le_mul_left _ (Nat.pow_le_pow_right (by omega) (by omega))

theorem natAbs_apply (s : Sign) (n : Nat) : (s.apply (n : Int)).natAbs = n := by
  cases s with
  | negative =>
    show (-(n : Int)).natAbs = n
    omega
  | positive => exact Int.natAbs_natCast n

theorem within_add {a b c : Int} (hc : -1074 ≤ c) (ha : a + 1 ≤ c) (hb : b + 1 ≤ c)
    {u v : Float.Model.UnpackedFloat} (hu : Within a u) (hv : Within b v)
    (hum : ∀ s m e hm, u = .finite s m e hm → m < 2 ^ 53)
    (hvm : ∀ s m e hm, v = .finite s m e hm → m < 2 ^ 53) : Within c (add Format.binary64 u v) := by
  cases hu with
  | zero s =>
    cases hv with
    | zero s' =>
      unfold add
      dsimp only
      split <;> exact .zero _
    | finite he' => exact .finite (by omega)
  | @finite s m e hm he =>
    cases hv with
    | zero s' => exact .finite (by omega)
    | @finite s' m' e' hm' he' =>
      have hbound := hum s m e hm rfl
      have hbound' := hvm s' m' e' hm' rfl
      have hshift : ∀ {k : Nat} {f : Int}, k < 2 ^ 53 → f + 1 ≤ c → min e e' ≤ f →
          k <<< (f - min e e').toNat ≤ (2 ^ 53 - 1) * 2 ^ (c - 1 - min e e').toNat := by
        intro k f hk hf hmin
        rw [Nat.shiftLeft_eq]
        exact Nat.mul_le_mul (by omega) (Nat.pow_le_pow_right (by omega) (by omega))
      have hleft := hshift hbound (by omega) (Int.min_le_left e e')
      have hright := hshift hbound' (by omega) (Int.min_le_right e e')
      have hdouble : 2 ^ (c - min e e').toNat = 2 ^ (c - 1 - min e e').toNat * 2 := by
        rw [← Nat.pow_succ]
        congr 1
        omega
      refine within_normalize hc (by omega) ?_ _
      refine (Int.natAbs_add_le _ _).trans ?_
      rw [natAbs_apply, natAbs_apply, hdouble]
      omega

/-- **A product** has at most the sum of the exponents of its factors and of the bits of one. -/
theorem below_mul {a b c : Int} {x y : Float} (hx : Below a x) (hy : Below b y)
    (habc : a + b + 53 ≤ c) (hc : -1074 ≤ c) (hmost : c ≤ 971) : Below c (x * y) :=
  within_pack hc hmost (within_mul hc habc hx hy (fun _ _ _ _ => mantissa_of_unpack)
    fun _ _ _ _ => mantissa_of_unpack)

/-- **A sum** has at most one more than the exponents of its terms. -/
theorem below_add {a b c : Int} {x y : Float} (hx : Below a x) (hy : Below b y) (ha : a + 1 ≤ c)
    (hb : b + 1 ≤ c) (hc : -1074 ≤ c) (hmost : c ≤ 971) : Below c (x + y) :=
  within_pack hc hmost (within_add hc ha hb hx hy (fun _ _ _ _ => mantissa_of_unpack)
    fun _ _ _ _ => mantissa_of_unpack)

theorem Within.neg {E : Int} {u : Float.Model.UnpackedFloat} (h : Within E u) : Within E u.neg := by
  cases h with
  | zero s => exact .zero _
  | finite h => exact .finite h

theorem below_neg {E : Int} {x : Float} (hx : Below E x) (hE : -1074 ≤ E) (hmost : E ≤ 971) :
    Below E (-x) :=
  within_pack hE hmost (Within.neg hx)

/-! ## 4. Quotients -/

/-- What is at most something else stays so when both are scaled by powers of two. -/
theorem scaled_le {a b i j k l : Nat} (h : a * 2 ^ i ≤ b * 2 ^ j) (hs : i + l = j + k) :
    a * 2 ^ k ≤ b * 2 ^ l := by
  refine Nat.le_of_mul_le_mul_right ?_ (Nat.two_pow_pos j)
  calc a * 2 ^ k * 2 ^ j = a * 2 ^ (i + l) := by rw [Nat.mul_assoc, ← Nat.pow_add, hs, Nat.add_comm]
    _ = a * 2 ^ i * 2 ^ l := by rw [Nat.pow_add, Nat.mul_assoc]
    _ ≤ b * 2 ^ j * 2 ^ l := Nat.mul_le_mul_right _ h
    _ = b * 2 ^ l * 2 ^ j := by rw [Nat.mul_assoc, Nat.mul_comm (2 ^ j), ← Nat.mul_assoc]

/-- A quotient that is at most the largest number with an exponent has at most that exponent. The
    two powers of two bring both sides of the comparison to one exponent. -/
theorem within_div {E : Int} (hE : -1074 ≤ E) {s₁ s₂ : Sign} {m₁ m₂ : Nat} {e₁ e₂ : Int}
    {h₁ : 0 < m₁} {h₂ : 0 < m₂} {i j : Nat} (hij : e₁ + (j : Int) = E + e₂ + (i : Int))
    (hfit : m₁ * 2 ^ i ≤ (2 ^ 53 - 1) * m₂ * 2 ^ j) :
    Within E (div Format.binary64 (.finite s₁ m₁ e₁ h₁) (.finite s₂ m₂ e₂ h₂)) := by
  have hlow : 2 ^ m₁.log2 ≤ m₁ := Nat.log2_self_le (by omega)
  have hhigh : m₂ < 2 ^ (m₂.log2 + 1) := Nat.lt_log2_self
  have hlogs : m₁.log2 + i < 53 + (m₂.log2 + 1) + j := by
    refine (Nat.pow_lt_pow_iff_right (show 1 < 2 by omega)).mp ?_
    calc 2 ^ (m₁.log2 + i) = 2 ^ m₁.log2 * 2 ^ i := Nat.pow_add ..
      _ ≤ m₁ * 2 ^ i := Nat.mul_le_mul_right _ hlow
      _ ≤ (2 ^ 53 - 1) * m₂ * 2 ^ j := hfit
      _ < 2 ^ 53 * 2 ^ (m₂.log2 + 1) * 2 ^ j := by
        refine Nat.mul_lt_mul_of_pos_right ?_ (Nat.two_pow_pos j)
        exact Nat.mul_lt_mul'' (by omega) hhigh
      _ = 2 ^ (53 + (m₂.log2 + 1) + j) := by rw [← Nat.pow_add, ← Nat.pow_add]
  show Within E (roundWithAccuracy _ _ _ _ _)
  generalize ht : min (e₁ - e₂) (Format.binary64.targetExponent
    (totalExponent m₁ e₁ - totalExponent m₂ e₂)) = t
  have htarget : t =
      min (e₁ - e₂) (max ((m₁.log2 : Int) + 1 + e₁ - (m₂.log2 + 1 + e₂) - 53) (-1074)) :=
    ht.symm
  have hbound : t ≤ E := by omega
  have hscaled : m₁ * 2 ^ (e₁ - e₂ - t).toNat ≤ (2 ^ 53 - 1) * m₂ * 2 ^ (E - t).toNat :=
    scaled_le hfit (by omega)
  rw [Nat.shiftLeft_eq]
  refine within_roundWithAccuracy hE _ hbound ?_
  have hcommuted : (2 ^ 53 - 1) * m₂ * 2 ^ (E - t).toNat =
      (2 ^ 53 - 1) * 2 ^ (E - t).toNat * m₂ := by
    rw [Nat.mul_assoc, Nat.mul_comm m₂, ← Nat.mul_assoc]
  rw [hcommuted] at hscaled
  rcases Nat.lt_or_eq_of_le hscaled with hless | hequal
  · exact Or.inl ((Nat.div_lt_iff_lt_mul h₂).mpr hless)
  · refine Or.inr ⟨?_, ?_⟩
    · rw [hequal, Nat.mul_div_cancel _ h₂]
    · rw [hequal, Nat.mul_mod_left]
      rfl

/-- An unpacked double that is finite and at least one, whatever its sign. -/
inductive OneOrMore : Float.Model.UnpackedFloat → Prop where
  | finite {s : Sign} {m : Nat} {e : Int} {hm : 0 < m} (h : 2 ^ (-e).toNat ≤ m) :
    OneOrMore (.finite s m e hm)

instance (u : Float.Model.UnpackedFloat) : Decidable (OneOrMore u) :=
  match u with
  | .finite _ m e _ =>
    if h : 2 ^ (-e).toNat ≤ m then isTrue (.finite h) else isFalse (by rintro ⟨⟩; exact h ‹_›)
  | .zero _ => isFalse (by rintro ⟨⟩)
  | .infinity _ => isFalse (by rintro ⟨⟩)
  | .notANumber => isFalse (by rintro ⟨⟩)

/-- A finite double that is at least one, whatever its sign. -/
def AtLeastOne (x : Float) : Prop := OneOrMore x.toModel.unpack

instance (x : Float) : Decidable (AtLeastOne x) :=
  inferInstanceAs (Decidable (OneOrMore x.toModel.unpack))

theorem within_div_of_one {E : Int} (hE : -1074 ≤ E) {u v : Float.Model.UnpackedFloat}
    (hu : Within E u) (hv : OneOrMore v) (hum : ∀ s m e hm, u = .finite s m e hm → m < 2 ^ 53) :
    Within E (div Format.binary64 u v) := by
  cases hv with
  | @finite s₂ m₂ e₂ h₂ hone =>
    cases hu with
    | zero s => exact .zero _
    | @finite s₁ m₁ e₁ h₁ he =>
      have hm : m₁ < 2 ^ 53 := hum s₁ m₁ e₁ h₁ rfl
      refine within_div hE (i := (e₁ - E - e₂).toNat) (j := (E + e₂ - e₁).toNat) (by omega) ?_
      have hpow : 2 ^ (e₁ - E - e₂).toNat ≤ m₂ :=
        (Nat.pow_le_pow_right (by omega) (by omega)).trans hone
      calc m₁ * 2 ^ (e₁ - E - e₂).toNat ≤ (2 ^ 53 - 1) * m₂ := Nat.mul_le_mul (by omega) hpow
        _ ≤ (2 ^ 53 - 1) * m₂ * 2 ^ (E + e₂ - e₁).toNat :=
          Nat.le_mul_of_pos_right _ (Nat.two_pow_pos _)

/-- **A quotient** by what is at least one has at most the exponent of its dividend. -/
theorem below_div {E : Int} {x y : Float} (hx : Below E x) (hy : AtLeastOne y) (hE : -1074 ≤ E)
    (hmost : E ≤ 971) : Below E (x / y) :=
  within_pack hE hmost (within_div_of_one hE hx hy fun _ _ _ _ => mantissa_of_unpack)

/-! ## 5. Comparison -/

theorem within_of_between {E : Int} {low u high : Float.Model.UnpackedFloat} (hlow : Within E low)
    (hhigh : Within E high) (hge : low.le u = true) (hle : u.le high = true) : Within E u := by
  cases u with
  | notANumber => cases hhigh <;> cases hle
  | zero s => exact .zero s
  | infinity s =>
    cases s with
    | positive => cases hhigh <;> cases hle
    | negative =>
      cases hlow with
      | zero s => cases hge
      | @finite s => cases s <;> cases hge
  | finite s m e hm =>
    refine .finite ?_
    by_contra hgt
    cases s with
    | positive =>
      cases hhigh with
      | zero s => cases hle
      | @finite s' m' e' hm' he' =>
        cases s' with
        | negative => cases hle
        | positive =>
          have hcompare : ((compare e e').then (compare m m')).isLE = true := hle
          rw [Int.compare_eq_gt.mpr (by omega : e' < e)] at hcompare
          cases hcompare
    | negative =>
      cases hlow with
      | zero s => cases hge
      | @finite s' m' e' hm' he' =>
        cases s' with
        | positive => cases hge
        | negative =>
          have hcompare : (((compare e' e).then (compare m' m)).swap).isLE = true := hge
          rw [Int.compare_eq_lt.mpr (by omega : e' < e)] at hcompare
          cases hcompare

/-- **What lies between two bounded doubles is bounded.** -/
theorem below_of_between {E : Int} {low x high : Float} (hlow : Below E low) (hhigh : Below E high)
    (hge : low ≤ x) (hle : x ≤ high) : Below E x :=
  within_of_between hlow hhigh (of_decide_eq_true hge) (of_decide_eq_true hle)

end Waypost.Decimal
