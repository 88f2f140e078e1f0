import Waypost.Proofs.Decimal.Whole

/-!
# The order of doubles

The least positive double is a unit, and every finite double is a whole number of units. That
number settles the order of doubles. An operation rounds its exact result, and no rounding leads
past a number that a double can have.

* `Fits` -- mantissa and exponent as the format wants them;
* `unpack_pack_finite` -- packing keeps such a double, or makes it infinite;
* `units` -- the number of units, and `le_iff_units` -- the order of doubles is that of units;
* `Representable`, `Rounds` -- numbers that doubles have, and rounding that does not lead past them;
* `rounds_round` -- rounding does not.
-/

namespace Waypost.Decimal

open Float.Model (Format totalExponent)
open Float.Model.UnpackedFloat

/-! ## 1. Packing -/

/-- A mantissa and an exponent as the format wants them: the mantissa is full unless the exponent is
    the least. -/
structure Fits (m : Nat) (e : Int) : Prop where
  mantissa : m < 2 ^ 53
  least : -1074 ≤ e
  full : 2 ^ 52 ≤ m ∨ e = -1074

/-- What is unpacked fits, and its exponent is not too large. -/
theorem fits_of_unpack {b : BitVec Format.binary64.numBits} {s : Sign} {m : Nat} {e : Int}
    {hm : 0 < m} (h : Float.Model.UnpackedFloat.unpack Format.binary64 b = .finite s m e hm) :
    Fits m e ∧ e ≤ 971 := by
  have hvalue := ofUnpacked_unpack b
  have hmantissa : (unpackMantissa b).toNat < 2 ^ 52 := (unpackMantissa b).isLt
  have hexponent : (unpackExponent b).toNat < 2 ^ 11 := (unpackExponent b).isLt
  rw [h] at hvalue
  unfold Exact.ofUnpacked at hvalue
  dsimp only at hvalue
  split at hvalue
  · split at hvalue <;> cases hvalue
  · split at hvalue
    · obtain ⟨-, hm, he⟩ := Exact.finite.inj hvalue
      exact ⟨⟨by omega, by omega, Or.inr he⟩, by omega⟩
    · obtain ⟨-, hm, he⟩ := Exact.finite.inj hvalue
      exact ⟨⟨by omega, by omega, Or.inl (by omega)⟩, by omega⟩

theorem unpackSign_packComponents (s : Sign) (e : BitVec 11) (m : BitVec 52) :
    Sign.ofBitVec (unpackSign (packComponents Format.binary64 s e m)) = s := by
  have hsign : unpackSign (packComponents Format.binary64 s e m) = s.toBitVec := by
    apply BitVec.eq_of_getLsbD_eq
    intro i hi
    obtain rfl : i = 0 := by omega
    show ((s.toBitVec ++ e ++ m).extractLsb 63 63).getLsbD 0 = s.toBitVec.getLsbD 0
    rw [BitVec.getLsbD_extractLsb, BitVec.getLsbD_append, BitVec.getLsbD_append]
    rfl
  rw [hsign]
  cases s <;> rfl

/-- What the three fields of a double stand for. -/
def ofFields (s : Sign) (e : BitVec 11) (m : BitVec 52) : Float.Model.UnpackedFloat :=
  if e = -1#11 then
    if m = 0#52 then .infinity s else .notANumber
  else if e = 0#11 then
    if h : m = 0#52 then .zero s
    else .finite s m.toNat ((e.toNat : Int) - 1075 + 1)
      (Nat.pos_of_ne_zero fun hnone => h (BitVec.eq_of_toNat_eq hnone))
  else .finite s (1#1 ++ m).toNat ((e.toNat : Int) - 1075) (by rw [toNat_implicit]; omega)

/-- Fields that are packed are unpacked again. -/
theorem unpack_packComponents (s : Sign) (e : BitVec 11) (m : BitVec 52) :
    Float.Model.UnpackedFloat.unpack Format.binary64 (packComponents Format.binary64 s e m) =
      ofFields s e m := by
  have hfields : ∀ b, Float.Model.UnpackedFloat.unpack Format.binary64 b =
      ofFields (Sign.ofBitVec (unpackSign b)) (unpackExponent b) (unpackMantissa b) :=
    fun b => rfl
  rw [hfields, unpackSign_packComponents, unpackExponent_packComponents,
    unpackMantissa_packComponents]

theorem unpack_pack_zero (s : Sign) :
    Float.Model.UnpackedFloat.unpack Format.binary64
      (Float.Model.UnpackedFloat.pack Format.binary64 (.zero s)) = .zero s := by
  cases s <;> rfl

theorem unpack_pack_infinity (s : Sign) :
    Float.Model.UnpackedFloat.unpack Format.binary64
      (Float.Model.UnpackedFloat.pack Format.binary64 (.infinity s)) = .infinity s := by
  cases s <;> rfl

theorem finite_congr {s : Sign} {m n : Nat} {e f : Int} {hm : 0 < m} {hn : 0 < n} (hmn : m = n)
    (hef : e = f) :
    (.finite s m e hm : Float.Model.UnpackedFloat) = .finite s n f hn := by
  subst hmn hef
  rfl

/-- The fields of a double with a full mantissa. -/
theorem unpack_normal (s : Sign) {e : BitVec 11} (m : BitVec 52) (hsome : e ≠ 0#11)
    (hordinary : e ≠ -1#11) :
    Float.Model.UnpackedFloat.unpack Format.binary64 (packComponents Format.binary64 s e m) =
      .finite s (m.toNat + 2 ^ 52) ((e.toNat : Int) - 1075) (by omega) := by
  rw [unpack_packComponents]
  unfold ofFields
  rw [if_neg hordinary, if_neg hsome]
  exact finite_congr (toNat_implicit m) rfl

/-- The fields of a double with the least exponent. -/
theorem unpack_subnormal (s : Sign) {m : BitVec 52} (hm : 0 < m.toNat) :
    Float.Model.UnpackedFloat.unpack Format.binary64 (packComponents Format.binary64 s 0#_ m) =
      .finite s m.toNat (-1074) hm := by
  have hsome : m ≠ 0#52 := fun hnone => by
    rw [hnone] at hm
    cases hm
  rw [unpack_packComponents]
  unfold ofFields
  rw [if_neg (by decide), if_pos rfl, dif_neg hsome]
  rfl

/-- The fields to which a mantissa with an exponent is packed. -/
theorem pack_finite (s : Sign) {m : Nat} (e : Int) (hm : 0 < m) :
    Float.Model.UnpackedFloat.pack Format.binary64 (.finite s m e hm) =
      if 2 ^ 11 ≤ (e + 1075).toNat + 1 then packedInfinity Format.binary64 s
      else if m.log2 + 1 = 53 then
        packComponents Format.binary64 s (BitVec.ofNat 11 (e + 1075).toNat) (BitVec.ofNat 52 m)
      else packComponents Format.binary64 s 0#11 (BitVec.ofNat 52 m) := by
  have hbiased : (e + 1023 + 52).toNat = (e + 1075).toNat := by omega
  rw [← hbiased]
  rfl

/-- **Packing keeps a double that fits**, or makes it infinite where its exponent is too large. -/
theorem unpack_pack_finite (s : Sign) {m : Nat} {e : Int} (hm : 0 < m) (h : Fits m e) :
    Float.Model.UnpackedFloat.unpack Format.binary64
      (Float.Model.UnpackedFloat.pack Format.binary64 (.finite s m e hm)) =
    if e ≤ 971 then .finite s m e hm else .infinity s := by
  have hleast := h.least
  have hmantissa := h.mantissa
  rw [pack_finite]
  by_cases hmost : e ≤ 971
  · rw [if_pos hmost, if_neg (by omega)]
    by_cases hnormal : 2 ^ 52 ≤ m
    · have hlog : m.log2 = 52 := by
        have hlow := (Nat.le_log2 (by omega)).mpr hnormal
        have hhigh := (Nat.log2_lt (by omega)).mpr hmantissa
        omega
      have hfield : (BitVec.ofNat 11 (e + 1075).toNat).toNat = (e + 1075).toNat := by
        rw [BitVec.toNat_ofNat]
        exact Nat.mod_eq_of_lt (by omega)
      have hsome : BitVec.ofNat 11 (e + 1075).toNat ≠ 0#11 := by
        intro hnone
        have hvalue : (e + 1075).toNat = 0 := hfield.symm.trans (congrArg BitVec.toNat hnone)
        omega
      have hordinary : BitVec.ofNat 11 (e + 1075).toNat ≠ -1#11 := by
        intro hall
        have hvalue : (e + 1075).toNat = 2047 := hfield.symm.trans (congrArg BitVec.toNat hall)
        omega
      have hrest : (BitVec.ofNat 52 m).toNat + 2 ^ 52 = m := by
        rw [BitVec.toNat_ofNat]
        omega
      rw [if_pos (by omega)]
      refine (unpack_normal s _ hsome hordinary).trans (finite_congr hrest ?_)
      rw [hfield]
      omega
    · have hlog : m.log2 < 52 := (Nat.log2_lt (by omega)).mpr (by omega)
      have hfield : (BitVec.ofNat 52 m).toNat = m := by
        rw [BitVec.toNat_ofNat]
        exact Nat.mod_eq_of_lt (by omega)
      rw [if_neg (by omega)]
      refine (unpack_subnormal s (by rw [hfield]; exact hm)).trans (finite_congr hfield ?_)
      exact (h.full.resolve_left hnormal).symm
  · rw [if_neg hmost, if_pos (by omega)]
    exact unpack_pack_infinity s

/-! ## 2. Units -/

/-- The number of units of a mantissa with an exponent that is not below the least. -/
def unitsOf (m : Nat) (e : Int) : Nat := m * 2 ^ (e + 1074).toNat

/-- A mantissa that is shifted up to a smaller exponent keeps its units. -/
theorem unitsOf_shiftLeft (m : Nat) {e : Int} {k : Nat} (h : -1074 ≤ e - (k : Int)) :
    unitsOf (m <<< k) (e - (k : Int)) = unitsOf m e := by
  unfold unitsOf
  rw [Nat.shiftLeft_eq, Nat.mul_assoc, ← Nat.pow_add]
  congr 2
  omega

/-- The number of units at which doubles become infinite: the least one whose exponent is too
    large. -/
def beyond : Nat := unitsOf (2 ^ 52) 972

/-- The number of units of a double, whose infinities lie just behind the last finite doubles. -/
def units : Float.Model.UnpackedFloat → Int
  | .finite s m e _ => s.apply (unitsOf m e)
  | .infinity s => s.apply beyond
  | .zero _ | .notANumber => 0

/-- An unpacked double that is finite and fits. -/
inductive Finite : Float.Model.UnpackedFloat → Prop where
  | zero (s : Sign) : Finite (.zero s)
  | finite {s : Sign} {m : Nat} {e : Int} {hm : 0 < m} (h : Fits m e) : Finite (.finite s m e hm)

/-- With a greater exponent there are more units. -/
theorem unitsOf_lt {m n : Nat} {e f : Int} (hm : Fits m e) (hn : Fits n f) (h : e < f) :
    unitsOf m e < unitsOf n f := by
  have hleast := hm.least
  have hfull : 2 ^ 52 ≤ n := hn.full.resolve_right (by omega)
  have hpos := Nat.two_pow_pos (e + 1074).toNat
  unfold unitsOf
  calc m * 2 ^ (e + 1074).toNat
      < 2 ^ 53 * 2 ^ (e + 1074).toNat := Nat.mul_lt_mul_of_pos_right hm.mantissa hpos
    _ = 2 ^ 52 * 2 ^ ((e + 1074).toNat + 1) := by rw [← Nat.pow_add, ← Nat.pow_add]; congr 1; omega
    _ ≤ n * 2 ^ (f + 1074).toNat :=
      Nat.mul_le_mul hfull (Nat.pow_le_pow_right (by omega) (by omega))

/-- Exponent and then mantissa settle which of two doubles has more units. -/
theorem isLE_compare_iff {m n : Nat} {e f : Int} (hm : Fits m e) (hn : Fits n f) :
    ((compare e f).then (compare m n)).isLE = true ↔ unitsOf m e ≤ unitsOf n f := by
  rcases Int.lt_trichotomy e f with h | rfl | h
  · rw [Int.compare_eq_lt.mpr h]
    exact iff_of_true rfl (Nat.le_of_lt (unitsOf_lt hm hn h))
  · rw [Int.compare_eq_eq.mpr rfl, Ordering.eq_then, Nat.isLE_compare]
    unfold unitsOf
    exact (Nat.mul_le_mul_right_iff (Nat.two_pow_pos _)).symm
  · rw [Int.compare_eq_gt.mpr h]
    exact iff_of_false Bool.false_ne_true (Nat.not_le.mpr (unitsOf_lt hn hm h))

theorem unitsOf_pos {m : Nat} (hm : 0 < m) (e : Int) : 0 < unitsOf m e :=
  Nat.mul_pos hm (Nat.two_pow_pos _)

/-- The order of finite doubles is that of their units. -/
theorem le_iff_units_of_finite {u v : Float.Model.UnpackedFloat} (hu : Finite u) (hv : Finite v) :
    u.le v = true ↔ units u ≤ units v := by
  cases hu with
  | zero s =>
    cases hv with
    | zero s' => exact iff_of_true rfl (Int.le_refl 0)
    | @finite s' n f hn hfits =>
      have hpos := unitsOf_pos hn f
      cases s' with
      | positive => exact iff_of_true rfl (show (0 : Int) ≤ unitsOf n f by omega)
      | negative =>
        exact iff_of_false Bool.false_ne_true (show ¬ (0 : Int) ≤ -(unitsOf n f : Int) by omega)
  | @finite s m e hm hfits =>
    have hpos := unitsOf_pos hm e
    cases hv with
    | zero s' =>
      cases s with
      | positive =>
        exact iff_of_false Bool.false_ne_true (show ¬ (unitsOf m e : Int) ≤ 0 by omega)
      | negative => exact iff_of_true rfl (show -(unitsOf m e : Int) ≤ 0 by omega)
    | @finite s' n f hn hfits' =>
      have hpos' := unitsOf_pos hn f
      cases s with
      | positive =>
        cases s' with
        | positive => exact (isLE_compare_iff hfits hfits').trans Int.ofNat_le.symm
        | negative =>
          refine iff_of_false Bool.false_ne_true ?_
          show ¬ (unitsOf m e : Int) ≤ -(unitsOf n f : Int)
          omega
      | negative =>
        cases s' with
        | positive =>
          refine iff_of_true rfl ?_
          show -(unitsOf m e : Int) ≤ (unitsOf n f : Int)
          omega
        | negative =>
          have hswap : (((compare e f).then (compare m n)).swap).isLE =
              ((compare f e).then (compare n m)).isLE := by
            rw [Ordering.swap_then, Int.compare_swap, Nat.compare_swap]
          show ((((compare e f).then (compare m n)).swap).isLE = true ↔
            -(unitsOf m e : Int) ≤ -(unitsOf n f : Int))
          rw [hswap, isLE_compare_iff hfits' hfits]
          omega

theorem fits_beyond : Fits (2 ^ 52) 972 := ⟨by omega, by omega, Or.inl (Nat.le_refl _)⟩

theorem beyond_pos : 0 < beyond := unitsOf_pos (Nat.two_pow_pos 52) 972

/-- A double is before the infinities exactly when its exponent is not too large. -/
theorem unitsOf_lt_beyond {m : Nat} {e : Int} (h : Fits m e) : unitsOf m e < beyond ↔ e ≤ 971 := by
  rcases Int.lt_trichotomy e 972 with hless | rfl | hmore
  · exact iff_of_true (unitsOf_lt h fits_beyond hless) (by omega)
  · have hfull : 2 ^ 52 ≤ m := h.full.resolve_right (by omega)
    exact iff_of_false (Nat.not_lt.mpr (Nat.mul_le_mul_right _ hfull)) (by omega)
  · have hlt := unitsOf_lt fits_beyond h hmore
    exact iff_of_false (Nat.not_lt.mpr (Nat.le_of_lt hlt)) (by omega)

/-- An unpacked double that is a number, as it is unpacked. -/
inductive Numeric : Float.Model.UnpackedFloat → Prop where
  | finite {u : Float.Model.UnpackedFloat} (h : Finite u) (hmost : (units u).natAbs < beyond) :
    Numeric u
  | infinity (s : Sign) : Numeric (.infinity s)

theorem natAbs_units_finite (s : Sign) {m : Nat} {e : Int} (hm : 0 < m) :
    (units (.finite s m e hm)).natAbs = unitsOf m e := natAbs_apply s _

theorem numeric_of_unpack {b : BitVec Format.binary64.numBits}
    (h : Float.Model.UnpackedFloat.unpack Format.binary64 b ≠ .notANumber) :
    Numeric (Float.Model.UnpackedFloat.unpack Format.binary64 b) := by
  cases hu : Float.Model.UnpackedFloat.unpack Format.binary64 b with
  | notANumber => exact absurd hu h
  | infinity s => exact .infinity s
  | zero s => exact .finite (.zero s) (show (0 : Int).natAbs < beyond from beyond_pos)
  | finite s m e hm =>
    obtain ⟨hfits, hmost⟩ := fits_of_unpack hu
    refine .finite (.finite hfits) ?_
    rw [natAbs_units_finite]
    exact (unitsOf_lt_beyond hfits).mpr hmost

theorem natAbs_units_le {u : Float.Model.UnpackedFloat} (h : Numeric u) :
    (units u).natAbs ≤ beyond := by
  cases h with
  | finite h hmost => exact Nat.le_of_lt hmost
  | infinity s => exact Nat.le_of_eq (natAbs_apply s _)

theorem le_infinity {u : Float.Model.UnpackedFloat} (h : Numeric u) :
    u.le (.infinity .positive) = true := by
  cases h with
  | finite h _ =>
    cases h with
    | zero s => rfl
    | @finite s => cases s <;> rfl
  | infinity s => cases s <;> rfl

theorem infinity_le {u : Float.Model.UnpackedFloat} (h : Numeric u) :
    Float.Model.UnpackedFloat.le (.infinity .negative) u = true := by
  cases h with
  | finite h _ => cases h <;> rfl
  | infinity s => cases s <;> rfl

/-- **The order of numbers is that of their units.** -/
theorem le_iff_units {u v : Float.Model.UnpackedFloat} (hu : Numeric u) (hv : Numeric v) :
    u.le v = true ↔ units u ≤ units v := by
  have hpos := beyond_pos
  have hunits := natAbs_units_le hu
  have hunits' := natAbs_units_le hv
  have hplus : units (.infinity .positive) = (beyond : Int) := rfl
  have hminus : units (.infinity .negative) = -(beyond : Int) := rfl
  cases hu with
  | finite hu hmost =>
    cases hv with
    | finite hv _ => exact le_iff_units_of_finite hu hv
    | infinity s =>
      cases s with
      | positive => exact iff_of_true (le_infinity (.finite hu hmost)) (by omega)
      | negative =>
        refine iff_of_false ?_ (by omega)
        cases hu with
        | zero s => exact Bool.false_ne_true
        | @finite s => cases s <;> exact Bool.false_ne_true
  | infinity s =>
    cases s with
    | negative => exact iff_of_true (infinity_le hv) (by omega)
    | positive =>
      cases hv with
      | finite hv hmost => exact iff_of_false (by cases hv <;> exact Bool.false_ne_true) (by omega)
      | infinity s' =>
        cases s' with
        | positive => exact iff_of_true rfl (Int.le_refl _)
        | negative => exact iff_of_false Bool.false_ne_true (by omega)

/-- What is rounded and then packed: behind the last double it is infinite. No number between the
    infinities is passed thereby. -/
theorem numeric_pack {u : Float.Model.UnpackedFloat} (h : Finite u) :
    Numeric (Float.Model.UnpackedFloat.unpack Format.binary64
      (Float.Model.UnpackedFloat.pack Format.binary64 u)) ∧
    ∀ k : Int, k.natAbs ≤ beyond → k ≤ units u →
      k ≤ units (Float.Model.UnpackedFloat.unpack Format.binary64
        (Float.Model.UnpackedFloat.pack Format.binary64 u)) := by
  cases h with
  | zero s =>
    rw [unpack_pack_zero]
    exact ⟨.finite (.zero s) (show (0 : Int).natAbs < beyond from beyond_pos), fun _ _ hk => hk⟩
  | @finite s m e hm hfits =>
    rw [unpack_pack_finite s hm hfits]
    have hsize := unitsOf_lt_beyond hfits
    by_cases hmost : e ≤ 971
    · rw [if_pos hmost]
      refine ⟨.finite (.finite hfits) ?_, fun _ _ hk => hk⟩
      rw [natAbs_units_finite]
      exact hsize.mpr hmost
    · rw [if_neg hmost]
      refine ⟨.infinity s, fun k hbound hk => ?_⟩
      have hlarge : beyond ≤ unitsOf m e := Nat.not_lt.mp fun hless => hmost (hsize.mp hless)
      cases s with
      | positive =>
        show k ≤ (beyond : Int)
        omega
      | negative =>
        have hk : k ≤ -(unitsOf m e : Int) := hk
        show k ≤ -(beyond : Int)
        omega

/-! ## 3. Rounding -/

/-- A number of units that a double can have, if doubles had no largest exponent. -/
def Representable (n : Nat) : Prop := ∃ k j, k < 2 ^ 53 ∧ n = k * 2 ^ j

theorem representable_unitsOf {m : Nat} {e : Int} (h : Fits m e) : Representable (unitsOf m e) :=
  ⟨m, (e + 1074).toNat, h.mantissa, rfl⟩

/-- A number of units next to another one: from there to it no number is passed that a double can
    have. -/
structure Beside (n r : Nat) : Prop where
  lower : ∀ k, Representable k → k ≤ n → k ≤ r
  upper : ∀ k, Representable k → n ≤ k → r ≤ k

/-- Rounding at the exponent that is aimed at. There every smaller number that a double can have is
    either a multiple of the power of two, or less than the least full mantissa. -/
theorem beside_of_quotient {n g r : Nat} (hlow : n / 2 ^ g ≤ r) (hhigh : r ≤ n / 2 ^ g + 1)
    (hexact : n % 2 ^ g = 0 → r = n / 2 ^ g) (hfull : g ≠ 0 → 2 ^ 52 ≤ n / 2 ^ g) :
    Beside n (r * 2 ^ g) := by
  have hpos := Nat.two_pow_pos g
  -- a number with a smaller power of two lies below the least full mantissa
  have hsmall : ∀ {k j}, k < 2 ^ 53 → j < g → k * 2 ^ j < 2 ^ 52 * 2 ^ g := by
    intro k j hk hj
    calc k * 2 ^ j < 2 ^ 53 * 2 ^ j := Nat.mul_lt_mul_of_pos_right hk (Nat.two_pow_pos j)
      _ = 2 ^ 52 * 2 ^ (j + 1) := by rw [← Nat.pow_add, ← Nat.pow_add]; congr 1; omega
      _ ≤ 2 ^ 52 * 2 ^ g := Nat.mul_le_mul_left _ (Nat.pow_le_pow_right (by omega) hj)
  have hmultiple : ∀ {k j}, g ≤ j → k * 2 ^ j = k * 2 ^ (j - g) * 2 ^ g := by
    intro k j hj
    rw [Nat.mul_assoc, ← Nat.pow_add, Nat.sub_add_cancel hj]
  constructor
  · rintro _ ⟨k, j, hk, rfl⟩ hle
    by_cases hj : j < g
    · have hquotient := hfull (by omega)
      calc k * 2 ^ j ≤ 2 ^ 52 * 2 ^ g := Nat.le_of_lt (hsmall hk hj)
        _ ≤ r * 2 ^ g := Nat.mul_le_mul_right _ (by omega)
    · rw [hmultiple (k := k) (j := j) (by omega)] at hle ⊢
      have hquotient := (Nat.le_div_iff_mul_le hpos).mpr hle
      exact Nat.mul_le_mul_right _ (by omega)
  · rintro _ ⟨k, j, hk, rfl⟩ hle
    have hsplit : n / 2 ^ g * 2 ^ g + n % 2 ^ g = n := Nat.div_add_mod' n (2 ^ g)
    by_cases hj : j < g
    · have hquotient := Nat.mul_le_mul_right (2 ^ g) (hfull (by omega))
      have hless := hsmall hk hj
      omega
    · rw [hmultiple (k := k) (j := j) (by omega)] at hle ⊢
      refine Nat.mul_le_mul_right _ ?_
      rcases Nat.eq_zero_or_pos (n % 2 ^ g) with hzero | hrest
      · rw [hexact hzero]
        exact Nat.div_le_of_le_mul (Nat.mul_comm _ _ ▸ hle)
      · have hless : n / 2 ^ g * 2 ^ g < k * 2 ^ (j - g) * 2 ^ g := by omega
        have hquotient := Nat.lt_of_mul_lt_mul_right hless
        omega

/-- What is rounded to a sign and a number of units. -/
structure Rounds (s : Sign) (n : Nat) (u : Float.Model.UnpackedFloat) : Prop where
  finite : Finite u
  sign : ∃ r, Beside n r ∧ units u = s.apply (r : Int)

theorem roundedMantissa_ge (em : ExtendedMantissa) : em.mantissa ≤ em.roundedMantissa := by
  unfold ExtendedMantissa.roundedMantissa
  cases em.accuracy with
  | exact => exact Nat.le_refl _
  | inexact order => cases order <;> simp [Accuracy.roundToNearestEven]

theorem shifted_eq (m : Nat) (e : Int) {t : Int} (h : e ≤ t) (accuracy : Accuracy) :
    shiftToExponent m e accuracy t =
      (ExtendedMantissa.ofMantissaAndAccuracy m accuracy >>> (t - e).toNat, t) := by
  unfold shiftToExponent
  dsimp only
  rw [show e + ((t - e).toNat : Int) = t by omega]

/-- The shift after the rounding changes no value, and leaves a mantissa that fits. -/
theorem fits_shiftToTargetExponent {r : Nat} {t : Int} (hr : r ≤ 2 ^ 53) (ht : -1074 ≤ t)
    (hfull : 2 ^ 52 ≤ r ∨ t = -1074) :
    ∃ m e, (shiftToTargetExponent Format.binary64 r t .exact).1.mantissa = m ∧
      (shiftToTargetExponent Format.binary64 r t .exact).2 = e ∧
      Fits m e ∧ unitsOf m e = unitsOf r t := by
  unfold shiftToTargetExponent
  by_cases hover : r = 2 ^ 53
  · have htarget : Format.binary64.targetExponent (totalExponent r t) = t + 1 := by
      rw [targetExponent_eq, hover, Nat.log2_two_pow]
      omega
    rw [htarget, shifted_eq r t (by omega), show (t + 1 - t).toNat = 1 by omega]
    refine ⟨2 ^ 52, t + 1, ?_, rfl, ⟨by omega, by omega, Or.inl (Nat.le_refl _)⟩, ?_⟩
    · rw [mantissa_shiftRight, hover]
      rfl
    · unfold unitsOf
      rw [hover, show (t + 1 + 1074).toNat = 1 + (t + 1074).toNat by omega, Nat.pow_add,
        ← Nat.mul_assoc]
      rfl
  · have htarget : Format.binary64.targetExponent (totalExponent r t) ≤ t := by
      have hlog : r.log2 ≤ 52 := log2_le_of_lt (by omega)
      rw [targetExponent_eq]
      omega
    unfold shiftToExponent
    dsimp only
    rw [Int.toNat_of_nonpos (by omega)]
    exact ⟨r, t, rfl, Int.add_zero t, ⟨by omega, ht, hfull⟩, rfl⟩

/-- The rounded quotient is the whole quotient or the next number, and an exact quotient is kept. -/
theorem roundedMantissa_quotient (m n : Nat) {r : Nat}
    (hr : (ExtendedMantissa.ofMantissaAndAccuracy m .exact >>> n).roundedMantissa = r) :
    m / 2 ^ n ≤ r ∧ r ≤ m / 2 ^ n + 1 ∧ (m % 2 ^ n = 0 → r = m / 2 ^ n) := by
  have hmantissa : (ExtendedMantissa.ofMantissaAndAccuracy m .exact >>> n).mantissa = m / 2 ^ n :=
    mantissa_shiftRight _ n
  refine ⟨hr ▸ hmantissa ▸ roundedMantissa_ge _, hr ▸ hmantissa ▸ roundedMantissa_le _, ?_⟩
  intro hzero
  have hwhole : m / 2 ^ n * 2 ^ n = m := Nat.div_mul_cancel (Nat.dvd_of_mod_eq_zero hzero)
  rw [← hr, ← hwhole, shiftRight_exact, hwhole]
  rfl

theorem div_two_pow_lt {m n k : Nat} (h : m.log2 + 1 ≤ k + n) : m / 2 ^ n < 2 ^ k := by
  rw [Nat.div_lt_iff_lt_mul (Nat.two_pow_pos n), ← Nat.pow_add]
  exact Nat.lt_of_lt_of_le Nat.lt_log2_self (Nat.pow_le_pow_right (by omega) h)

theorem le_div_two_pow {m n k : Nat} (hm : m ≠ 0) (h : k + n = m.log2) : 2 ^ k ≤ m / 2 ^ n := by
  rw [Nat.le_div_iff_mul_le (Nat.two_pow_pos n), ← Nat.pow_add, h]
  exact Nat.log2_self_le hm

/-- A quotient rounded at the level `e + n` lies beside the number it is taken of: it is as long as
a mantissa is, or the level is the least. -/
theorem beside_unitsOf {m r n : Nat} {e : Int} (he : -1074 ≤ e) (hlow : m / 2 ^ n ≤ r)
    (hhigh : r ≤ m / 2 ^ n + 1) (hexact : m % 2 ^ n = 0 → r = m / 2 ^ n)
    (hfull : e + n ≠ -1074 → 2 ^ 52 ≤ m / 2 ^ n) :
    Beside (unitsOf m e) (unitsOf r (e + n)) := by
  have hshift : (e + n + 1074).toNat = n + (e + 1074).toNat := by omega
  unfold unitsOf
  rw [hshift]
  have hpos := Nat.two_pow_pos (e + 1074).toNat
  refine beside_of_quotient ?_ ?_ ?_ ?_
  all_goals rw [Nat.pow_add, Nat.mul_div_mul_right _ _ hpos]
  · exact hlow
  · exact hhigh
  · rw [Nat.mul_mod_mul_right]
    intro hzero
    exact hexact ((Nat.mul_eq_zero.mp hzero).resolve_right (by omega))
  · intro hsome
    exact hfull (by omega)

/-- **Rounding leads past no number that a double can have**, where the exponent is small enough. -/
theorem rounds_roundWithAccuracy (s : Sign) {m : Nat} {e : Int} (he : -1074 ≤ e)
    (hle : e ≤ Format.binary64.targetExponent (totalExponent m e)) :
    Rounds s (unitsOf m e) (roundWithAccuracy Format.binary64 s m e .exact) := by
  unfold roundWithAccuracy
  dsimp only
  rw [show shiftToTargetExponent Format.binary64 m e .exact = shiftToExponent m e .exact _ from rfl,
    shifted_eq m e hle]
  rw [targetExponent_eq] at hle ⊢
  generalize ht : max ((m.log2 : Int) + 1 + e - 53) (-1074) = t at hle ⊢
  dsimp only
  obtain ⟨n, rfl⟩ : ∃ n : Nat, t = e + n := ⟨(t - e).toNat, by omega⟩
  rw [show (e + n - e).toNat = n by omega]
  generalize hr : (ExtendedMantissa.ofMantissaAndAccuracy m .exact >>> n).roundedMantissa = r
  obtain ⟨hlow, hhigh, hexact⟩ := roundedMantissa_quotient m n hr
  have hquotient : m / 2 ^ n < 2 ^ 53 := div_two_pow_lt (by omega)
  have hfull : e + n ≠ -1074 → 2 ^ 52 ≤ m / 2 ^ n := by
    intro hmore
    have hzero : m ≠ 0 := by
      intro hzero
      rw [hzero, Nat.log2_zero] at ht
      omega
    exact le_div_two_pow hzero (by omega)
  have hbeside : Beside (unitsOf m e) (unitsOf r (e + n)) :=
    beside_unitsOf he hlow hhigh hexact hfull
  have hround : 2 ^ 52 ≤ r ∨ e + n = -1074 := by
    by_cases hleast : e + n = -1074
    · exact Or.inr hleast
    · exact Or.inl ((hfull hleast).trans hlow)
  obtain ⟨m', e', hm', he', hfits, hunits⟩ :=
    fits_shiftToTargetExponent (by omega) (by omega) hround
  rw [hm', he']
  rw [← hunits] at hbeside
  by_cases hzero : m' = 0
  · rw [dif_pos hzero]
    refine ⟨.zero s, unitsOf m' e', hbeside, ?_⟩
    rw [hzero, unitsOf, Nat.zero_mul]
    cases s <;> rfl
  · rw [dif_neg hzero]
    exact ⟨.finite hfits, unitsOf m' e', hbeside, rfl⟩

theorem log2_shiftLeft {m : Nat} (hm : 0 < m) (k : Nat) : (m <<< k).log2 = m.log2 + k := by
  have hlow := Nat.log2_self_le (show m ≠ 0 by omega)
  have hhigh : m < 2 ^ (m.log2 + 1) := Nat.lt_log2_self
  have hpos : 0 < m * 2 ^ k := Nat.mul_pos hm (Nat.two_pow_pos k)
  rw [Nat.shiftLeft_eq, Nat.log2_eq_iff (by omega), Nat.add_right_comm, Nat.pow_add, Nat.pow_add]
  exact ⟨Nat.mul_le_mul_right _ hlow, Nat.mul_lt_mul_of_pos_right hhigh (Nat.two_pow_pos k)⟩

/-- The same where the mantissa may have to grow first. -/
theorem rounds_round (s : Sign) {m : Nat} {e : Int} (he : -1074 ≤ e) (hm : 0 < m) :
    Rounds s (unitsOf m e) (Float.Model.UnpackedFloat.round Format.binary64 s m e) := by
  unfold Float.Model.UnpackedFloat.round decreaseExponent
  dsimp only
  generalize ht : Format.binary64.targetExponent (totalExponent m e) = t
  have htarget := targetExponent_eq m e
  rw [ht] at htarget
  generalize hk : (e - t).toNat = k
  have hlog := log2_shiftLeft hm k
  rw [← unitsOf_shiftLeft m (show -1074 ≤ e - (k : Int) by omega)]
  refine rounds_roundWithAccuracy s (by omega) ?_
  rw [targetExponent_eq, hlog]
  omega

end Waypost.Decimal
