import Waypost.Proofs.Decimal.Sums

/-!
# Doubles that are not negative

Products and quotients of doubles that are not negative are not negative, unless they are no numbers
at all.

* `HasSign` -- the sign of an unpacked double, and `hasSign_pack` -- packing keeps it;
* `NotBelow` -- an unpacked double that is not negative, and `zero_le_iff_notBelow`;
* `zero_le_mul` -- a product of what is not negative;
* `part_of_le` -- **a part is finite and not negative**: a quotient by what is not less;
* `one_le_level_ofNat`, `zero_le_ofInt` -- whole numbers as doubles, and `part_of_count` -- an equal
  part of one;
* `nonneg_of_nearest` -- the whole number next to a double.
-/

namespace Waypost.Decimal

open Float.Model (Format totalExponent)
open Float.Model.UnpackedFloat

/-! ## 1. Signs -/

/-- An unpacked double that is a number with a sign. -/
inductive HasSign (s : Sign) : Float.Model.UnpackedFloat → Prop where
  | zero : HasSign s (.zero s)
  | finite {m : Nat} {e : Int} {hm : 0 < m} : HasSign s (.finite s m e hm)
  | infinity : HasSign s (.infinity s)

theorem hasSign_unpack (s : Sign) {e : BitVec 11} (m : BitVec 52) (hordinary : e ≠ -1#11) :
    HasSign s (Float.Model.UnpackedFloat.unpack Format.binary64
      (packComponents Format.binary64 s e m)) := by
  rw [unpack_packComponents]
  unfold ofFields
  rw [if_neg hordinary]
  by_cases hleast : e = 0#11
  · rw [if_pos hleast]
    by_cases hnone : m = 0#52
    · rw [dif_pos hnone]
      exact .zero
    · rw [dif_neg hnone]
      exact .finite
  · rw [if_neg hleast]
    exact .finite

/-- Packing keeps the sign, whatever mantissa and exponent are. -/
theorem hasSign_pack {s : Sign} {u : Float.Model.UnpackedFloat} (h : HasSign s u) :
    HasSign s (Float.Model.UnpackedFloat.unpack Format.binary64
      (Float.Model.UnpackedFloat.pack Format.binary64 u)) := by
  cases h with
  | zero =>
    rw [unpack_pack_zero]
    exact .zero
  | infinity =>
    rw [unpack_pack_infinity]
    exact .infinity
  | @finite m e hm =>
    rw [pack_finite]
    split
    · rw [show packedInfinity Format.binary64 s = Float.Model.UnpackedFloat.pack Format.binary64
        (.infinity s) from rfl, unpack_pack_infinity]
      exact .infinity
    · split
      · refine hasSign_unpack s _ fun hall => ?_
        have hfield : (e + 1075).toNat % 2 ^ 11 = 2047 := (BitVec.toNat_ofNat ..).symm.trans
          (congrArg BitVec.toNat hall)
        omega
      · exact hasSign_unpack s _ (by decide)

/-- An unpacked double that is not negative: a zero of either sign, or a number without a minus. -/
inductive NotBelow : Float.Model.UnpackedFloat → Prop where
  | zero (s : Sign) : NotBelow (.zero s)
  | positive {u : Float.Model.UnpackedFloat} (h : HasSign .positive u) : NotBelow u

theorem notBelow_pack {u : Float.Model.UnpackedFloat} (h : NotBelow u) :
    NotBelow (Float.Model.UnpackedFloat.unpack Format.binary64
      (Float.Model.UnpackedFloat.pack Format.binary64 u)) := by
  cases h with
  | zero s =>
    rw [unpack_pack_zero]
    exact .zero s
  | positive h => exact .positive (hasSign_pack h)

/-- A number of units that is not negative has no minus. -/
theorem positive_of_units {s : Sign} {m : Nat} {e : Int} {hm : 0 < m}
    (h : 0 ≤ units (.finite s m e hm)) : s = .positive := by
  cases s with
  | positive => rfl
  | negative =>
    have hpos := unitsOf_pos hm e
    have hlow : 0 ≤ -(unitsOf m e : Int) := h
    omega

theorem notBelow_of_units {u : Float.Model.UnpackedFloat} (hu : Numeric u) (h : 0 ≤ units u) :
    NotBelow u := by
  cases hu with
  | infinity s =>
    cases s with
    | positive => exact .positive .infinity
    | negative =>
      have hplace := beyond_pos
      have hlow : 0 ≤ -(beyond : Int) := h
      omega
  | finite hu _ =>
    cases hu with
    | zero s => exact .zero s
    | finite _ =>
      obtain rfl := positive_of_units h
      exact .positive .finite

theorem units_of_notBelow {u : Float.Model.UnpackedFloat} (h : NotBelow u) :
    u ≠ .notANumber ∧ 0 ≤ units u := by
  cases h with
  | zero s => exact ⟨nofun, Int.le_refl 0⟩
  | positive h =>
    cases h with
    | zero => exact ⟨nofun, Int.le_refl 0⟩
    | finite | infinity => exact ⟨nofun, Int.natCast_nonneg _⟩

/-- **What is not negative is a zero of either sign, or has no minus.** -/
theorem zero_le_iff_notBelow {x : Float} : 0.0 ≤ x ↔ NotBelow x.toModel.unpack := by
  rw [zero_le_iff, isNaN_eq_false_iff]
  constructor
  · exact fun h => notBelow_of_units h.1 h.2
  · intro h
    obtain ⟨hnumber, hlow⟩ := units_of_notBelow h
    exact ⟨numeric_of_unpack hnumber, hlow⟩

/-- The sign is kept, also where there is no mantissa. -/
theorem hasSign_dite (s : Sign) (m : Nat) (e : Int) :
    HasSign s (if h : m = 0 then .zero s else .finite s m e (Nat.pos_of_ne_zero h)) := by
  by_cases h : m = 0
  · rw [dif_pos h]
    exact .zero
  · rw [dif_neg h]
    exact .finite

theorem hasSign_roundWithAccuracy (s : Sign) (m : Nat) (e : Int) (accuracy : Accuracy) :
    HasSign s (roundWithAccuracy Format.binary64 s m e accuracy) :=
  hasSign_dite s _ _

/-! ## 2. Products -/

theorem isNaN_of_hasSign {s : Sign} {x : Float} (h : HasSign s x.toModel.unpack) :
    x.isNaN = false := by
  show x.toModel.unpack.isNaN = false
  generalize x.toModel.unpack = u at h
  cases h <;> rfl

/-- A product of finite doubles is a number. -/
theorem isNaN_mul_of_finite {x y : Float} (hx : x.isFinite = true) (hy : y.isFinite = true) :
    (x * y).isNaN = false := by
  have hproduct : ∀ u v : Float.Model.UnpackedFloat, u.isFinite = true → v.isFinite = true →
      ∃ s, HasSign s (mul Format.binary64 u v) := by
    intro u v hu hv
    cases u with
    | notANumber | infinity => cases hu
    | zero s =>
      cases v with
      | notANumber | infinity => cases hv
      | zero s' | finite s' => exact ⟨_, .zero⟩
    | finite s m e hm =>
      cases v with
      | notANumber | infinity => cases hv
      | zero s' => exact ⟨_, .zero⟩
      | finite s' n f hn => exact ⟨_, hasSign_roundWithAccuracy _ _ _ _⟩
  obtain ⟨s, hs⟩ := hproduct _ _ hx hy
  exact isNaN_of_hasSign (x := x * y) (hasSign_pack hs)

theorem mul_notBelow {u v : Float.Model.UnpackedFloat} (hu : NotBelow u) (hv : NotBelow v) :
    mul Format.binary64 u v = .notANumber ∨ NotBelow (mul Format.binary64 u v) := by
  cases hu with
  | zero s =>
    cases hv with
    | zero s' => exact Or.inr (.zero _)
    | positive hv =>
      cases hv with
      | zero | finite => exact Or.inr (.zero _)
      | infinity => exact Or.inl rfl
  | positive hu =>
    cases hv with
    | zero s' =>
      cases hu with
      | zero | finite => exact Or.inr (.zero _)
      | infinity => exact Or.inl rfl
    | positive hv =>
      cases hu with
      | zero =>
        cases hv with
        | zero | finite => exact Or.inr (.zero _)
        | infinity => exact Or.inl rfl
      | finite =>
        cases hv with
        | zero => exact Or.inr (.zero _)
        | finite => exact Or.inr (.positive (hasSign_roundWithAccuracy _ _ _ _))
        | infinity => exact Or.inr (.positive .infinity)
      | infinity =>
        cases hv with
        | zero => exact Or.inl rfl
        | finite | infinity => exact Or.inr (.positive .infinity)

/-- **A product of doubles that are not negative is not negative**, if it is a number. -/
theorem zero_le_mul {x y : Float} (hx : 0.0 ≤ x) (hy : 0.0 ≤ y) (h : (x * y).isNaN = false) :
    0.0 ≤ x * y := by
  have hunpack : (x * y).toModel.unpack = Float.Model.UnpackedFloat.unpack Format.binary64
      (Float.Model.UnpackedFloat.pack Format.binary64
        (mul Format.binary64 x.toModel.unpack y.toModel.unpack)) := rfl
  rcases mul_notBelow (zero_le_iff_notBelow.mp hx) (zero_le_iff_notBelow.mp hy) with hnan | hproduct
  · have hnumber : (x * y).toModel.unpack.isNaN = false := h
    rw [hunpack, hnan] at hnumber
    cases hnumber
  · rw [zero_le_iff_notBelow, hunpack]
    exact notBelow_pack hproduct

/-! ## 3. Parts -/

/-- A double is positive when it is a positive number of units. -/
theorem zero_lt_iff_level {x : Float} : 0.0 < x ↔ x.isNaN = false ∧ 0 < level x := by
  have hlt : 0.0 < x ↔ Float.Model.UnpackedFloat.lt (.zero .positive) x.toModel.unpack = true :=
    ⟨of_decide_eq_true, decide_eq_true⟩
  rw [hlt]
  show _ ↔ x.toModel.unpack.isNaN = false ∧ 0 < units x.toModel.unpack
  have hplace := beyond_pos
  generalize x.toModel.unpack = u
  cases u with
  | notANumber => exact iff_of_false nofun nofun
  | zero s => exact iff_of_false nofun fun h => absurd h.2 (Int.lt_irrefl 0)
  | finite s m e hm =>
    have hpos := unitsOf_pos hm e
    cases s with
    | positive => exact iff_of_true rfl ⟨rfl, Int.natCast_pos.mpr hpos⟩
    | negative =>
      refine iff_of_false nofun fun h => ?_
      have hlow : 0 < -(unitsOf m e : Int) := h.2
      omega
  | infinity s =>
    cases s with
    | positive => exact iff_of_true rfl ⟨rfl, Int.natCast_pos.mpr hplace⟩
    | negative =>
      refine iff_of_false nofun fun h => ?_
      have hlow : 0 < -(beyond : Int) := h.2
      omega

/-- A quotient of mantissas with exponents, the second of which is not less. -/
theorem within_part {m n : Nat} {e f : Int} (hm : 0 < m) (hn : 0 < n) (he : Fits m e)
    (hf : Fits n f) (hle : unitsOf m e ≤ unitsOf n f) :
    Within 0 (div Format.binary64 (.finite .positive m e hm) (.finite .positive n f hn)) := by
  have hleast := he.least
  have hleast' := hf.least
  refine within_div (by omega) (i := (e + 1074).toNat) (j := (f + 1074).toNat) (by omega) ?_
  calc m * 2 ^ (e + 1074).toNat ≤ n * 2 ^ (f + 1074).toNat := hle
    _ ≤ (2 ^ 53 - 1) * n * 2 ^ (f + 1074).toNat :=
      Nat.mul_le_mul_right _ (Nat.le_mul_of_pos_left _ (by decide))

/-- A quotient of what is not negative by what is positive and has not fewer units. -/
theorem div_notBelow {u v : Float.Model.UnpackedFloat} (hu : Finite u) (hv : Numeric v)
    (hlow : 0 ≤ units u) (hpos : 0 < units v) (hle : units u ≤ units v) :
    NotBelow (div Format.binary64 u v) ∧ Within 0 (div Format.binary64 u v) := by
  cases hu with
  | zero s =>
    cases hv with
    | infinity s' => exact ⟨.zero _, .zero _⟩
    | finite hv _ =>
      cases hv with
      | zero s' => exact absurd hpos (Int.lt_irrefl 0)
      | finite hf => exact ⟨.zero _, .zero _⟩
  | finite he =>
    cases hv with
    | infinity s' => exact ⟨.zero _, .zero _⟩
    | finite hv _ =>
      cases hv with
      | zero s' => exact absurd hpos (Int.lt_irrefl 0)
      | finite hf =>
        obtain rfl := positive_of_units hlow
        obtain rfl := positive_of_units (Int.le_of_lt hpos)
        exact ⟨.positive (hasSign_roundWithAccuracy _ _ _ _),
          within_part _ _ he hf (Int.ofNat_le.mp hle)⟩

/-- **A part is finite and not negative**: a quotient by what is positive and not less. -/
theorem part_of_le {x y : Float} (hx : 0.0 ≤ x) (hfinite : x.isFinite = true) (hy : 0.0 < y)
    (hle : level x ≤ level y) : 0.0 ≤ x / y ∧ (x / y).isFinite = true := by
  have hunpack : (x / y).toModel.unpack = Float.Model.UnpackedFloat.unpack Format.binary64
      (Float.Model.UnpackedFloat.pack Format.binary64
        (div Format.binary64 x.toModel.unpack y.toModel.unpack)) := rfl
  obtain ⟨hnumber, hpos⟩ := zero_lt_iff_level.mp hy
  obtain ⟨hnotBelow, hwithin⟩ := div_notBelow (finite_of_isFinite hfinite).1
    (isNaN_eq_false_iff.mp hnumber) (zero_le_iff.mp hx).2 hpos hle
  refine ⟨?_, isFinite_of_below (E := 0) ?_⟩
  · rw [zero_le_iff_notBelow, hunpack]
    exact notBelow_pack hnotBelow
  · unfold Below
    rw [hunpack]
    exact within_pack (by omega) (by omega) hwithin

/-! ## 4. Whole numbers -/

/-- The units of the number one. -/
def one : Nat := unitsOf (2 ^ 52) (-52)

theorem fits_one : Fits (2 ^ 52) (-52) := ⟨by omega, by omega, Or.inl (Nat.le_refl _)⟩

theorem one_le_unitsOf {n : Nat} (hn : 1 ≤ n) : one ≤ unitsOf n 0 := by
  have hone : unitsOf (1 <<< 52) (0 - (52 : Nat)) = unitsOf 1 0 := unitsOf_shiftLeft 1 (by decide)
  show unitsOf (1 <<< 52) (0 - (52 : Nat)) ≤ unitsOf n 0
  rw [hone]
  exact Nat.mul_le_mul_right _ hn

/-- What is at least one stays so when it is multiplied by one. -/
theorem one_le_units_mul {u : Float.Model.UnpackedFloat} (hu : Numeric u)
    (h : (one : Int) ≤ units u) :
    ∃ w, mul Format.binary64 u (.finite .positive (2 ^ 52) (-52) (Nat.two_pow_pos 52)) = w ∧
      (Finite w ∧ (one : Int) ≤ units w ∨ w = .infinity .positive) := by
  have hpos : 0 < one := unitsOf_pos (Nat.two_pow_pos 52) (-52)
  cases hu with
  | infinity s =>
    cases s with
    | positive => exact ⟨_, rfl, Or.inr rfl⟩
    | negative =>
      have h : (one : Int) ≤ -(beyond : Int) := h
      omega
  | finite hu _ =>
    cases hu with
    | zero s =>
      have h : (one : Int) ≤ 0 := h
      omega
    | @finite s m e hm hfits =>
      cases s with
      | negative =>
        have h : (one : Int) ≤ -(unitsOf m e : Int) := h
        omega
      | positive =>
        have h : one ≤ unitsOf m e := Int.ofNat_le.mp h
        have hexponent : -52 ≤ e := by
          by_contra hless
          exact absurd h (Nat.not_le.mpr (unitsOf_lt hfits fits_one (by omega)))
        have hfull : 2 ^ 52 ≤ m := hfits.full.resolve_right (by omega)
        have hlog : 104 ≤ (m * 2 ^ 52).log2 := by
          refine (Nat.le_log2 (by omega)).mpr ?_
          calc 2 ^ 104 = 2 ^ 52 * 2 ^ 52 := by decide
            _ ≤ m * 2 ^ 52 := Nat.mul_le_mul_right _ hfull
        have hunits : unitsOf (m * 2 ^ 52) (e + -52) = unitsOf m e := by
          have hshift := @unitsOf_shiftLeft m e 52 (by omega)
          rw [Nat.shiftLeft_eq] at hshift
          exact hshift
        obtain ⟨hfinite, r, hbeside, hr⟩ := @rounds_roundWithAccuracy .positive (m * 2 ^ 52)
          (e + -52) (by omega) (by rw [targetExponent_eq]; omega)
        refine ⟨_, rfl, Or.inl ⟨hfinite, ?_⟩⟩
        have hlower := hbeside.lower one (representable_unitsOf fits_one) (by rw [hunits]; exact h)
        exact (Int.ofNat_le.mpr hlower).trans_eq hr.symm

/-- What is at least one is so when it is packed. -/
theorem one_le_units_pack {u : Float.Model.UnpackedFloat}
    (h : Finite u ∧ (one : Int) ≤ units u ∨ u = .infinity .positive) :
    Numeric (Float.Model.UnpackedFloat.unpack Format.binary64
      (Float.Model.UnpackedFloat.pack Format.binary64 u)) ∧
    (one : Int) ≤ units (Float.Model.UnpackedFloat.unpack Format.binary64
      (Float.Model.UnpackedFloat.pack Format.binary64 u)) := by
  have hless : one < beyond := unitsOf_lt fits_one fits_beyond (by decide)
  rcases h with ⟨hfinite, hone⟩ | rfl
  · obtain ⟨hnumeric, hle⟩ := numeric_pack hfinite
    exact ⟨hnumeric, hle one (by omega) hone⟩
  · rw [unpack_pack_infinity]
    exact ⟨.infinity _, Int.ofNat_le.mpr (Nat.le_of_lt hless)⟩

theorem representable_one : Representable (one : Int).natAbs := by
  rw [Int.natAbs_natCast]
  exact representable_unitsOf fits_one

theorem one_le_level_toFloat {n : Nat} (hn : 1 ≤ n) (hsmall : n < 2 ^ 53) :
    Numeric n.toUInt64.toFloat.toModel.unpack ∧ (one : Int) ≤ level n.toUInt64.toFloat := by
  have hvalue : n.toUInt64.toNat = n := by
    rw [Nat.toUInt64, UInt64.toNat_ofNat']
    exact Nat.mod_eq_of_lt (by omega)
  obtain ⟨hfinite, hle⟩ := @le_units_normalize n 0 (by decide) .positive
  refine one_le_units_pack (u := ofNat Format.binary64 n.toUInt64.toNat) (Or.inl ?_)
  rw [hvalue]
  refine ⟨hfinite, hle one representable_one ?_⟩
  exact (Int.ofNat_le.mpr (one_le_unitsOf hn)).trans_eq (natCast_unitsOf n 0)

/-- **A whole number from one on has a double from one on.** -/
theorem one_le_level_ofNat {n : Nat} (hn : 1 ≤ n) :
    (Float.ofNat n).isNaN = false ∧ (one : Int) ≤ level (Float.ofNat n) := by
  rw [isNaN_eq_false_iff]
  show Numeric (Float.ofScientific n false 0).toModel.unpack ∧
    (one : Int) ≤ units (Float.ofScientific n false 0).toModel.unpack
  unfold Float.ofScientific
  split
  · rename_i hsmall
    obtain ⟨hnumeric, hone⟩ := one_le_level_toFloat hn hsmall.1
    obtain ⟨w, hw, hresult⟩ := one_le_units_mul hnumeric hone
    have hpower : Float.exactlyRepresentablePowersOfTen[0].toModel.unpack =
        .finite .positive (2 ^ 52) (-52) (Nat.two_pow_pos 52) := rfl
    rw [← hpower] at hw
    exact one_le_units_pack (hw ▸ hresult)
  · rename_i hlarge
    have hpos : ¬ n = 0 := by omega
    have hlog : (n <<< 53).log2 = n.log2 + 53 := log2_shiftLeft (by omega) 53
    have hunits := @unitsOf_shiftLeft n 0 53 (by decide)
    rw [show (0 : Int) - ((53 : Nat) : Int) = -53 from rfl] at hunits
    obtain ⟨hfinite, r, hbeside, hr⟩ := @rounds_roundWithAccuracy .positive (n <<< 53) (-53)
      (by omega) (by rw [targetExponent_eq, hlog]; omega)
    refine one_le_units_pack (u := ofScientific Format.binary64 n (-((0 : Nat) : Int))) (Or.inl ?_)
    have hrounded : ofScientific Format.binary64 n (-((0 : Nat) : Int)) =
        roundWithAccuracy Format.binary64 .positive (n <<< 53) (-53) .exact := by
      unfold ofScientific
      rw [dif_neg hpos, if_neg (by decide), if_neg, if_pos (by decide), mul_finite]
      · show roundWithAccuracy Format.binary64 .positive (n <<< 53 * 1) (-53) .exact = _
        rw [Nat.mul_one]
      · show ¬ -((0 : Nat) : Int) < -(2 ^ 11 + (n.log2 : Int))
        omega
    rw [hrounded]
    have hlower := hbeside.lower one (representable_unitsOf fits_one)
      (by rw [hunits]; exact one_le_unitsOf hn)
    exact ⟨hfinite, (Int.ofNat_le.mpr hlower).trans_eq hr.symm⟩

/-- A whole number that is not negative has a double that is not. -/
theorem zero_le_ofInt {n : Int} (hn : 0 ≤ n) : 0.0 ≤ Float.ofInt n := by
  obtain ⟨k, rfl⟩ := Int.eq_ofNat_of_zero_le hn
  show 0.0 ≤ Float.ofNat k
  rcases Nat.eq_zero_or_pos k with rfl | hk
  · decide +kernel
  · obtain ⟨hnumber, hone⟩ := one_le_level_ofNat hk
    exact zero_le_iff.mpr ⟨hnumber, (Int.natCast_nonneg one).trans hone⟩

/-- An equal part of one is finite and not negative. -/
theorem part_of_count {n : Nat} (hn : 1 ≤ n) :
    0.0 ≤ 1.0 / Float.ofNat n ∧ (1.0 / Float.ofNat n).isFinite = true := by
  obtain ⟨hnumber, hone⟩ := one_le_level_ofNat hn
  have hlevel : level 1.0 = one := rfl
  have hpos : 0 < one := unitsOf_pos (Nat.two_pow_pos 52) (-52)
  have hpositive : 0.0 < Float.ofNat n := zero_lt_iff_level.mpr ⟨hnumber, by omega⟩
  exact part_of_le (by decide +kernel) (by decide +kernel) hpositive (hlevel ▸ hone)

/-- The whole number next to a double that is not negative is not negative. -/
theorem nonneg_of_nearest {x : Float} {n : Int} (hx : 0.0 ≤ x) (h : nearest? x = .ok n) :
    0 ≤ n := by
  have hnotBelow := zero_le_iff_notBelow.mp hx
  unfold nearest? at h
  rw [ofFloat_eq] at h
  generalize x.toModel.unpack = u at *
  cases hnotBelow with
  | zero s =>
    cases h
    cases s <;> decide +kernel
  | positive hs =>
    cases hs with
    | infinity => cases h
    | zero =>
      cases h
      decide +kernel
    | finite =>
      cases h
      exact Int.natCast_nonneg _

end Waypost.Decimal
