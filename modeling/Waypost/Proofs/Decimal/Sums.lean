import Waypost.Proofs.Decimal.Order

/-!
# Sums that do not fall

A rounded sum may be larger or smaller than the exact one, but what is added cannot lead down when
it is not negative.

* `le_units_add` -- a sum is rounded past no number that a double can have;
* `level` -- the number of units of a double, and `le_iff_level` -- the order of doubles;
* `level_le_add` -- **a sum with what is not negative is not less**;
* `level_le_sum` -- no number is larger than a sum of numbers that are not negative.
-/

namespace Waypost.Decimal

open Float.Model (Format totalExponent)
open Float.Model.UnpackedFloat

/-! ## 1. Rounded sums -/

theorem natCast_unitsOf (m : Nat) (e : Int) :
    ((unitsOf m e : Nat) : Int) = m * 2 ^ (e + 1074).toNat := by
  unfold unitsOf
  push_cast
  rfl

/-- A signed number of units that is rounded: from below no number is passed that a double can
    have. -/
theorem le_units_normalize {M t : Int} (ht : -1074 ≤ t) (zeroSign : Sign) :
    Finite (Float.Model.UnpackedFloat.normalize Format.binary64 M t zeroSign) ∧
    ∀ k : Int, Representable k.natAbs → k ≤ M * 2 ^ (t + 1074).toNat →
      k ≤ units (Float.Model.UnpackedFloat.normalize Format.binary64 M t zeroSign) := by
  unfold Float.Model.UnpackedFloat.normalize
  rcases Int.lt_trichotomy M 0 with hneg | rfl | hpos
  · rw [Int.compare_eq_lt.mpr hneg]
    obtain ⟨n, rfl⟩ : ∃ n : Nat, M = -n := ⟨M.natAbs, by omega⟩
    obtain ⟨hfinite, r, hbeside, hunits⟩ := rounds_round .negative ht (show 0 < n by omega)
    rw [Int.neg_neg, Int.toNat_natCast]
    refine ⟨hfinite, fun k hk hle => ?_⟩
    rw [Int.neg_mul, ← natCast_unitsOf] at hle
    have hupper := hbeside.upper k.natAbs hk (by omega)
    rw [hunits]
    show k ≤ -(r : Int)
    omega
  · rw [Int.compare_eq_eq.mpr rfl]
    refine ⟨.zero zeroSign, fun k _ hle => ?_⟩
    rw [Int.zero_mul] at hle
    exact hle
  · rw [Int.compare_eq_gt.mpr hpos]
    obtain ⟨n, rfl⟩ : ∃ n : Nat, M = n := ⟨M.toNat, by omega⟩
    obtain ⟨hfinite, r, hbeside, hunits⟩ := rounds_round .positive ht (show 0 < n by omega)
    rw [Int.toNat_natCast]
    refine ⟨hfinite, fun k hk hle => ?_⟩
    rw [← natCast_unitsOf] at hle
    rw [hunits]
    show k ≤ (r : Int)
    by_cases hnone : k ≤ 0
    · omega
    · have hlower := hbeside.lower k.natAbs hk (by omega)
      omega

theorem apply_shiftLeft (s : Sign) (m : Nat) {e t : Int} (ht : -1074 ≤ t) (hle : t ≤ e) :
    s.apply ((m <<< (e - t).toNat : Nat) : Int) * 2 ^ (t + 1074).toNat =
      s.apply (unitsOf m e : Int) := by
  obtain ⟨k, hk⟩ : ∃ k : Nat, t = e - k := ⟨(e - t).toNat, by omega⟩
  have hunits : unitsOf (m <<< (e - t).toNat) t = unitsOf m e := by
    rw [show (e - t).toNat = k by omega, hk]
    exact unitsOf_shiftLeft m (by omega)
  rw [← hunits, natCast_unitsOf]
  cases s with
  | positive => rfl
  | negative => exact Int.neg_mul _ _

/-- **A sum is rounded past no number that a double can have.** -/
theorem le_units_add {u v : Float.Model.UnpackedFloat} (hu : Finite u) (hv : Finite v) :
    Finite (add Format.binary64 u v) ∧
    ∀ k : Int, Representable k.natAbs → k ≤ units u + units v →
      k ≤ units (add Format.binary64 u v) := by
  cases hu with
  | zero s =>
    cases hv with
    | zero s' => cases s <;> cases s' <;> exact ⟨.zero _, fun _ _ hle => hle⟩
    | finite h =>
      refine ⟨.finite h, fun k _ hle => ?_⟩
      rw [show units (.zero s) = 0 from rfl, Int.zero_add] at hle
      exact hle
  | @finite s m e hm h =>
    cases hv with
    | zero s' =>
      refine ⟨.finite h, fun k _ hle => ?_⟩
      rw [show units (.zero s') = 0 from rfl, Int.add_zero] at hle
      exact hle
    | @finite s' n f hn h' =>
      have hleast := h.least
      have hleast' := h'.least
      obtain ⟨hfinite, hle⟩ := @le_units_normalize
        (s.apply ((m <<< (e - min e f).toNat : Nat) : Int) +
          s'.apply ((n <<< (f - min e f).toNat : Nat) : Int)) (min e f) (by omega) .positive
      refine ⟨hfinite, fun k hk hsum => hle k hk ?_⟩
      rw [Int.add_mul, apply_shiftLeft s m (by omega) (Int.min_le_left e f),
        apply_shiftLeft s' n (by omega) (Int.min_le_right e f)]
      exact hsum

theorem representable_of_numeric {u : Float.Model.UnpackedFloat} (h : Numeric u) :
    Representable (units u).natAbs := by
  cases h with
  | finite h _ =>
    cases h with
    | zero s => exact ⟨0, 0, by decide, rfl⟩
    | @finite s m e hm h =>
      rw [natAbs_units_finite]
      exact representable_unitsOf h
  | infinity s =>
    rw [show (units (.infinity s)).natAbs = beyond from natAbs_apply s _]
    exact representable_unitsOf fits_beyond

/-- A sum of numbers, the first of them not the negative infinity, the second not negative. -/
theorem le_units_packed_add {u v : Float.Model.UnpackedFloat} (hu : Numeric u) (hv : Numeric v)
    (hlow : -(beyond : Int) < units u) (hpos : 0 ≤ units v) :
    Numeric (Float.Model.UnpackedFloat.unpack Format.binary64
      (Float.Model.UnpackedFloat.pack Format.binary64 (add Format.binary64 u v))) ∧
    ∀ k : Int, Representable k.natAbs → k.natAbs ≤ beyond → k ≤ units u + units v →
      k ≤ units (Float.Model.UnpackedFloat.unpack Format.binary64
        (Float.Model.UnpackedFloat.pack Format.binary64 (add Format.binary64 u v))) := by
  have hplace := beyond_pos
  -- where one of the two is infinite, so is the sum
  have hinfinite : ∀ w : Float.Model.UnpackedFloat, w = .infinity .positive →
      Numeric (Float.Model.UnpackedFloat.unpack Format.binary64
        (Float.Model.UnpackedFloat.pack Format.binary64 w)) ∧
      ∀ k : Int, Representable k.natAbs → k.natAbs ≤ beyond → k ≤ units u + units v →
        k ≤ units (Float.Model.UnpackedFloat.unpack Format.binary64
          (Float.Model.UnpackedFloat.pack Format.binary64 w)) := by
    rintro w rfl
    rw [unpack_pack_infinity]
    refine ⟨.infinity _, fun k _ hk _ => ?_⟩
    show k ≤ (beyond : Int)
    omega
  cases hu with
  | infinity s =>
    cases s with
    | negative => exact absurd hlow (Int.lt_irrefl _)
    | positive =>
      refine hinfinite _ ?_
      cases hv with
      | finite hv _ => cases hv <;> rfl
      | infinity s' =>
        cases s' with
        | positive => rfl
        | negative => exact absurd hpos (show ¬ (0 : Int) ≤ -(beyond : Int) by omega)
  | finite hu _ =>
    cases hv with
    | infinity s' =>
      cases s' with
      | negative => exact absurd hpos (show ¬ (0 : Int) ≤ -(beyond : Int) by omega)
      | positive =>
        refine hinfinite _ ?_
        cases hu <;> rfl
    | finite hv _ =>
      obtain ⟨hfinite, hle⟩ := le_units_add hu hv
      obtain ⟨hnumeric, hpack⟩ := numeric_pack hfinite
      exact ⟨hnumeric, fun k hk hbound hsum => hpack k hbound (hle k hk hsum)⟩

/-! ## 2. Doubles -/

/-- The number of units of a double. -/
def level (x : Float) : Int := units x.toModel.unpack

theorem isNaN_eq_false_iff {x : Float} : x.isNaN = false ↔ Numeric x.toModel.unpack := by
  show x.toModel.unpack.isNaN = false ↔ _
  constructor
  · intro h
    refine numeric_of_unpack fun hnan => ?_
    have hnan : x.toModel.unpack = .notANumber := hnan
    rw [hnan] at h
    cases h
  · intro h
    generalize x.toModel.unpack = u at h
    cases h with
    | finite h _ => cases h <;> rfl
    | infinity s => rfl

/-- A finite double is a number of units before the infinities. -/
theorem finite_of_isFinite {x : Float} (h : x.isFinite = true) :
    Finite x.toModel.unpack ∧ (level x).natAbs < beyond := by
  have hfinite : x.toModel.unpack.isFinite = true := h
  have hnumeric : Numeric x.toModel.unpack := by
    refine numeric_of_unpack fun hnan => ?_
    have hnan : x.toModel.unpack = .notANumber := hnan
    rw [hnan] at hfinite
    cases hfinite
  unfold level
  generalize x.toModel.unpack = u at *
  cases hnumeric with
  | finite h hmost => exact ⟨h, hmost⟩
  | infinity s => cases hfinite

/-- **The order of doubles that are numbers is that of their units.** -/
theorem le_iff_level {x y : Float} (hx : x.isNaN = false) (hy : y.isNaN = false) :
    x ≤ y ↔ level x ≤ level y := by
  have hle : x ≤ y ↔ x.toModel.unpack.le y.toModel.unpack = true :=
    ⟨of_decide_eq_true, decide_eq_true⟩
  rw [hle]
  exact le_iff_units (isNaN_eq_false_iff.mp hx) (isNaN_eq_false_iff.mp hy)

/-- What is compared is a number on both sides. -/
theorem isNaN_of_le {x y : Float} (h : x ≤ y) : x.isNaN = false ∧ y.isNaN = false := by
  have hle : x.toModel.unpack.le y.toModel.unpack = true := of_decide_eq_true h
  show x.toModel.unpack.isNaN = false ∧ y.toModel.unpack.isNaN = false
  generalize x.toModel.unpack = u at *
  generalize y.toModel.unpack = v at *
  cases u with
  | notANumber => cases hle
  | zero s | finite s | infinity s =>
    cases v with
    | notANumber => cases hle
    | zero s' | finite s' | infinity s' => exact ⟨rfl, rfl⟩

/-- A double is not negative when it is a number of units that is not. -/
theorem zero_le_iff {x : Float} : 0.0 ≤ x ↔ x.isNaN = false ∧ 0 ≤ level x := by
  have hzero : level 0.0 = 0 := rfl
  constructor
  · intro h
    obtain ⟨hnumber, hx⟩ := isNaN_of_le h
    refine ⟨hx, ?_⟩
    rw [← hzero]
    exact (le_iff_level hnumber hx).mp h
  · intro h
    refine (le_iff_level (by decide +kernel) h.1).mpr ?_
    rw [hzero]
    exact h.2

/-- **A sum with what is not negative is not less** than the other term, unless that is the negative
    infinity; and not less than what is added, where the other term is not negative either. -/
theorem level_le_add {x d : Float} (hx : x.isNaN = false) (hlow : -(beyond : Int) < level x)
    (hd : 0.0 ≤ d) :
    (x + d).isNaN = false ∧ level x ≤ level (x + d) ∧
      (0 ≤ level x → level d ≤ level (x + d)) := by
  obtain ⟨hd, hpos⟩ := zero_le_iff.mp hd
  have hu := isNaN_eq_false_iff.mp hx
  have hv := isNaN_eq_false_iff.mp hd
  obtain ⟨hnumeric, hle⟩ := le_units_packed_add hu hv hlow hpos
  have hsum : level x ≤ level x + level d := by omega
  refine ⟨isNaN_eq_false_iff.mpr hnumeric, ?_, fun hstart => ?_⟩
  · exact hle (level x) (representable_of_numeric hu) (natAbs_units_le hu) hsum
  · refine hle (level d) (representable_of_numeric hv) (natAbs_units_le hv) ?_
    show level d ≤ level x + level d
    omega

/-- A sum is a number only when both of its terms are. -/
theorem isNaN_of_add {x y : Float} (h : (x + y).isNaN = false) :
    x.isNaN = false ∧ y.isNaN = false := by
  have hnan : ∀ u, u = .notANumber → (Float.Model.UnpackedFloat.unpack Format.binary64
      (Float.Model.UnpackedFloat.pack Format.binary64 u)).isNaN = true := by
    rintro u rfl
    rfl
  have hsum : (Float.Model.UnpackedFloat.unpack Format.binary64
      (Float.Model.UnpackedFloat.pack Format.binary64
        (add Format.binary64 x.toModel.unpack y.toModel.unpack))).isNaN = false := h
  show x.toModel.unpack.isNaN = false ∧ y.toModel.unpack.isNaN = false
  generalize x.toModel.unpack = u at *
  generalize y.toModel.unpack = v at *
  cases u with
  | notANumber => cases hsum.symm.trans (hnan _ rfl)
  | zero s | finite s | infinity s =>
    cases v with
    | notANumber => cases hsum.symm.trans (hnan _ rfl)
    | zero s' | finite s' | infinity s' => exact ⟨rfl, rfl⟩

/-! ## 3. Sums of several terms -/

/-- All terms of a sum that is a number are numbers. -/
theorem isNaN_of_sum {terms : List Float} {start : Float}
    (h : (terms.foldl (· + ·) start).isNaN = false) :
    start.isNaN = false ∧ ∀ x ∈ terms, x.isNaN = false := by
  induction terms generalizing start with
  | nil => exact ⟨h, fun x hx => absurd hx List.not_mem_nil⟩
  | cons x rest ih =>
    obtain ⟨hsum, hrest⟩ := ih h
    obtain ⟨hstart, hx⟩ := isNaN_of_add hsum
    exact ⟨hstart, List.forall_mem_cons.mpr ⟨hx, hrest⟩⟩

/-- **No term is larger than a sum of terms that are not negative.** -/
theorem level_le_sum {terms : List Float} {start : Float} (hstart : 0.0 ≤ start)
    (hterms : ∀ x ∈ terms, 0.0 ≤ x) :
    0.0 ≤ terms.foldl (· + ·) start ∧ level start ≤ level (terms.foldl (· + ·) start) ∧
      ∀ x ∈ terms, level x ≤ level (terms.foldl (· + ·) start) := by
  induction terms generalizing start with
  | nil => exact ⟨hstart, Int.le_refl _, fun x hx => absurd hx List.not_mem_nil⟩
  | cons x rest ih =>
    obtain ⟨hx, hrest⟩ := List.forall_mem_cons.mp hterms
    obtain ⟨hnumber, hlevel⟩ := zero_le_iff.mp hstart
    have hplace := beyond_pos
    obtain ⟨hsum, hgrown, hterm⟩ := level_le_add hnumber (by omega) hx
    obtain ⟨htotal, hmore, hothers⟩ := ih (zero_le_iff.mpr ⟨hsum, by omega⟩) hrest
    rw [List.foldl_cons]
    refine ⟨htotal, by omega, List.forall_mem_cons.mpr ⟨?_, hothers⟩⟩
    have hfirst := hterm hlevel
    omega

end Waypost.Decimal
