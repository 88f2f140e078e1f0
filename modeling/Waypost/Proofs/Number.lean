import Mathlib.Algebra.Field.Rat
import Waypost.Number
import Waypost.Proofs.Decimal.Sums

/-!
# Numbers that are equal

Truth values, whole numbers and doubles are compared by what they are worth, whatever their forms: a
fraction, or one of the two infinities. What is no number is worth nothing, so that it equals
nothing, itself included, while the two zeros are worth the same.

* `Worth`, `Number.worth?` -- what a number is worth;
* `beq_iff_units` -- doubles that are numbers compare equal when they are as many units;
* `beq_iff_worth` -- so they are compared by what they are worth;
* `equal_iff_worth` -- **and so are numbers of any form**.
-/

namespace Waypost

open Decimal

/-- What a number is worth: a fraction or an infinity. -/
inductive Worth where
  | finite (value : ℚ)
  | infinite (negative : Bool)

/-- What an exact value is worth. -/
def Decimal.Exact.worth? : Exact → Option Worth
  | .nan => none
  | .infinite negative => some (.infinite negative)
  | .finite negative mantissa exponent =>
    some (.finite (signed negative mantissa * (2 : ℚ) ^ exponent))

/-- What a number is worth, where it is a number. -/
def Number.worth? : Number → Option Worth
  | .flag b => some (.finite b.toNat)
  | .int n => some (.finite n)
  | .float x => (Exact.ofFloat x).worth?

namespace Decimal

open Float.Model.UnpackedFloat

/-! ## 1. Doubles that compare equal -/

/-- Two mantissas that fit are as many units only with the same exponent. -/
theorem compare_eq_iff_unitsOf {m n : Nat} {e f : Int} (hm : Fits m e) (hn : Fits n f) :
    (compare e f).then (compare m n) = .eq ↔ unitsOf m e = unitsOf n f := by
  have hpos := Nat.two_pow_pos (f + 1074).toNat
  rw [Ordering.then_eq_eq, Int.compare_eq_eq, Nat.compare_eq_eq]
  constructor
  · intro hfound
    obtain ⟨rfl, rfl⟩ := hfound
    rfl
  · intro h
    rcases Int.lt_trichotomy e f with hlt | rfl | hgt
    · have hless := unitsOf_lt hm hn hlt
      omega
    · exact ⟨rfl, Nat.eq_of_mul_eq_mul_right hpos h⟩
    · have hless := unitsOf_lt hn hm hgt
      omega

/-- Finite doubles compare equal when they are as many units. -/
theorem beq_iff_units_of_finite {u v : Float.Model.UnpackedFloat} (hu : Finite u) (hv : Finite v) :
    u.beq v = true ↔ units u = units v := by
  cases hu with
  | zero s =>
    cases hv with
    | zero s' => exact iff_of_true rfl rfl
    | @finite s' n f hn hfits =>
      have hpos := unitsOf_pos hn f
      cases s' with
      | positive => exact iff_of_false Bool.false_ne_true (show ¬ (0 : Int) = unitsOf n f by omega)
      | negative =>
        exact iff_of_false Bool.false_ne_true (show ¬ (0 : Int) = -(unitsOf n f : Int) by omega)
  | @finite s m e hm hfits =>
    have hpos := unitsOf_pos hm e
    cases hv with
    | zero s' =>
      cases s with
      | positive => exact iff_of_false Bool.false_ne_true (show ¬ (unitsOf m e : Int) = 0 by omega)
      | negative =>
        exact iff_of_false Bool.false_ne_true (show ¬ -(unitsOf m e : Int) = 0 by omega)
    | @finite s' n f hn hfits' =>
      have hpos' := unitsOf_pos hn f
      have hcompare := compare_eq_iff_unitsOf hfits hfits'
      cases s with
      | positive =>
        cases s' with
        | positive =>
          show (some ((compare e f).then (compare m n)) == some Ordering.eq) = true ↔
            (unitsOf m e : Int) = unitsOf n f
          rw [beq_iff_eq, Option.some.injEq, hcompare, Int.ofNat_inj]
        | negative =>
          refine iff_of_false Bool.false_ne_true ?_
          show ¬ (unitsOf m e : Int) = -(unitsOf n f : Int)
          omega
      | negative =>
        cases s' with
        | positive =>
          refine iff_of_false Bool.false_ne_true ?_
          show ¬ -(unitsOf m e : Int) = (unitsOf n f : Int)
          omega
        | negative =>
          show (some ((compare e f).then (compare m n)).swap == some Ordering.eq) = true ↔
            -(unitsOf m e : Int) = -(unitsOf n f : Int)
          rw [beq_iff_eq, Option.some.injEq, Ordering.swap_eq_eq, hcompare, Int.neg_inj,
            Int.ofNat_inj]

/-- **Doubles that are numbers compare equal exactly when they are as many units.** -/
theorem beq_iff_units {u v : Float.Model.UnpackedFloat} (hu : Numeric u) (hv : Numeric v) :
    u.beq v = true ↔ units u = units v := by
  have hpos := beyond_pos
  have hplus : units (.infinity .positive) = (beyond : Int) := rfl
  have hminus : units (.infinity .negative) = -(beyond : Int) := rfl
  cases hu with
  | finite hu hmost =>
    cases hv with
    | finite hv _ => exact beq_iff_units_of_finite hu hv
    | infinity s =>
      refine iff_of_false ?_ (by cases s <;> omega)
      cases hu <;> cases s <;> exact Bool.false_ne_true
  | infinity s =>
    cases hv with
    | finite hv hmost =>
      refine iff_of_false ?_ (by cases s <;> omega)
      cases hv <;> cases s <;> exact Bool.false_ne_true
    | infinity s' =>
      cases s with
      | positive =>
        cases s' with
        | positive => exact iff_of_true rfl rfl
        | negative => exact iff_of_false Bool.false_ne_true (by omega)
      | negative =>
        cases s' with
        | positive => exact iff_of_false Bool.false_ne_true (by omega)
        | negative => exact iff_of_true rfl rfl

/-! ## 2. What doubles are worth -/

/-- What a number of units is worth; the infinities lie just behind the last finite doubles. -/
def worthOfUnits (k : Int) : Worth :=
  if k = beyond then .infinite false
  else if k = -(beyond : Int) then .infinite true
  else .finite (k / 2 ^ 1074)

/-- Numbers of units are worth the same only when they are the same. -/
theorem worthOfUnits_inj {k l : Int} : worthOfUnits k = worthOfUnits l ↔ k = l := by
  have hpos := beyond_pos
  have hscale : (2 : ℚ) ^ 1074 ≠ 0 := pow_ne_zero 1074 two_ne_zero
  refine ⟨fun h => ?_, fun h => by rw [h]⟩
  unfold worthOfUnits at h
  by_cases hk : k = beyond
  · by_cases hl : l = beyond
    · omega
    · rw [if_pos hk, if_neg hl] at h
      split at h <;> cases h
  · rw [if_neg hk] at h
    by_cases hk' : k = -(beyond : Int)
    · rw [if_pos hk'] at h
      split at h
      · cases h
      · split at h
        · omega
        · cases h
    · rw [if_neg hk'] at h
      split at h
      · cases h
      · split at h
        · cases h
        · have hvalue : (k : ℚ) / 2 ^ 1074 = l / 2 ^ 1074 := Worth.finite.inj h
          exact Int.cast_inj.mp ((div_left_inj' hscale).mp hvalue)

/-- A mantissa with an exponent that is not below the least is worth its units. -/
theorem worth_unitsOf (s : Sign) (m : Nat) {e : Int} (he : -1074 ≤ e) :
    ((signed (minus s) m : Int) : ℚ) * (2 : ℚ) ^ e = (s.apply (unitsOf m e) : Int) / 2 ^ 1074 := by
  obtain ⟨k, rfl⟩ : ∃ k : Nat, e = (k : Int) - 1074 := ⟨(e + 1074).toNat, by omega⟩
  have hshift : ((k : Int) - 1074 + 1074).toNat = k := by omega
  have hsigned : (s.apply (unitsOf m ((k : Int) - 1074)) : Int) = signed (minus s) m * 2 ^ k := by
    rw [natCast_unitsOf, hshift]
    cases s with
    | positive => rfl
    | negative => exact (Int.neg_mul _ _).symm
  rw [hsigned, zpow_sub₀ two_ne_zero, zpow_natCast, Int.cast_mul, Int.cast_pow, Int.cast_ofNat,
    mul_div_assoc]
  rfl

/-- **What is unpacked is worth its units.** -/
theorem worth?_of_numeric {u : Float.Model.UnpackedFloat} (h : Numeric u) :
    (Exact.ofUnpacked u).worth? = some (worthOfUnits (units u)) := by
  have hpos := beyond_pos
  cases h with
  | finite h hmost =>
    have hfinite : worthOfUnits (units u) = .finite (units u / 2 ^ 1074) := by
      unfold worthOfUnits
      rw [if_neg (by omega), if_neg (by omega)]
    rw [hfinite]
    cases h with
    | zero s =>
      have hnone : signed (minus s) 0 = 0 := by cases s <;> rfl
      show some (Worth.finite ((signed (minus s) 0 : Int) * (2 : ℚ) ^ (-1074 : Int))) = _
      rw [hnone, Int.cast_zero, zero_mul]
      show _ = some (Worth.finite (((0 : Int) : ℚ) / 2 ^ 1074))
      rw [Int.cast_zero, zero_div]
    | @finite s m e hm hfits =>
      show some (Worth.finite ((signed (minus s) m : Int) * (2 : ℚ) ^ e)) = _
      rw [worth_unitsOf s m hfits.least]
      rfl
  | infinity s =>
    cases s with
    | positive =>
      show some (Worth.infinite false) = some (worthOfUnits beyond)
      unfold worthOfUnits
      rw [if_pos rfl]
    | negative =>
      show some (Worth.infinite true) = some (worthOfUnits (-(beyond : Int)))
      unfold worthOfUnits
      rw [if_neg (by omega), if_pos rfl]

theorem worth?_of_isNaN {x : Float} (h : x.isNaN = true) : (Exact.ofFloat x).worth? = none := by
  rw [isNaN_iff.mp h]
  rfl

/-- What is no number equals nothing. -/
theorem beq_of_isNaN {x y : Float} (h : x.isNaN = true ∨ y.isNaN = true) : (x == y) = false := by
  have hx : x.isNaN = x.toModel.unpack.isNaN := rfl
  have hy : y.isNaN = y.toModel.unpack.isNaN := rfl
  show x.toModel.unpack.beq y.toModel.unpack = false
  rw [hx, hy] at h
  generalize x.toModel.unpack = u at *
  generalize y.toModel.unpack = v at *
  rcases h with h | h
  · cases u with
    | notANumber => rfl
    | infinity | zero | finite => cases h
  · cases v with
    | notANumber => cases u <;> rfl
    | infinity | zero | finite => cases h

/-- **Doubles are compared by what they are worth**; what is no number equals nothing. -/
theorem beq_iff_worth {x y : Float} :
    (x == y) = true ↔
      ∃ w, (Exact.ofFloat x).worth? = some w ∧ (Exact.ofFloat y).worth? = some w := by
  by_cases hnan : x.isNaN = true ∨ y.isNaN = true
  · rw [beq_of_isNaN hnan]
    refine iff_of_false Bool.false_ne_true ?_
    intro hsame
    obtain ⟨w, hw, hw'⟩ := hsame
    rcases hnan with h | h
    · rw [worth?_of_isNaN h] at hw
      cases hw
    · rw [worth?_of_isNaN h] at hw'
      cases hw'
  · rw [not_or, Bool.not_eq_true, Bool.not_eq_true] at hnan
    have hnumeric := isNaN_eq_false_iff.mp hnan.1
    have hnumeric' := isNaN_eq_false_iff.mp hnan.2
    have hbeq : (x == y) = x.toModel.unpack.beq y.toModel.unpack := rfl
    rw [hbeq, ofFloat_eq, ofFloat_eq, beq_iff_units hnumeric hnumeric',
      worth?_of_numeric hnumeric, worth?_of_numeric hnumeric', ← worthOfUnits_inj]
    constructor
    · intro h
      exact ⟨_, rfl, by rw [h]⟩
    · intro hsame
      obtain ⟨w, hw, hw'⟩ := hsame
      exact (Option.some.inj hw).trans (Option.some.inj hw').symm

end Decimal

/-! ## 3. Numbers of any form -/

/-- A whole number is compared with a double by what the double is worth. -/
theorem equalsFloat_iff_worth {n : Int} {x : Float} :
    Number.equalsFloat n x = true ↔ (Exact.ofFloat x).worth? = some (.finite n) := by
  unfold Number.equalsFloat
  cases Exact.ofFloat x with
  | nan => exact iff_of_false Bool.false_ne_true nofun
  | infinite negative => exact iff_of_false Bool.false_ne_true nofun
  | finite negative m q =>
    have hworth : (Exact.finite negative m q).worth? = some (.finite n) ↔
        ((signed negative m : Int) : ℚ) * (2 : ℚ) ^ q = n := by
      show some (Worth.finite _) = some (Worth.finite _) ↔ _
      rw [Option.some.injEq, Worth.finite.injEq]
    have hscale : ∀ k : Nat, (2 : ℚ) ^ k ≠ 0 := fun k => pow_ne_zero k two_ne_zero
    have hsigned : ∀ k : Nat, signed negative (m * k) = signed negative m * k := by
      intro k
      cases negative with
      | false => exact Int.natCast_mul m k
      | true => exact (congrArg Neg.neg (Int.natCast_mul m k)).trans (Int.neg_mul _ _).symm
    rw [hworth]
    dsimp only
    rw [beq_iff_eq]
    cases q with
    | ofNat e =>
      show signed negative (m * 2 ^ e * 1) = n * ((1 : Nat) : Int) ↔ _
      rw [Nat.mul_one, Int.natCast_one, Int.mul_one, hsigned, ← @Int.cast_inj ℚ]
      push_cast
      rfl
    | negSucc e =>
      show signed negative (m * 1) = n * ((2 ^ (e + 1) : Nat) : Int) ↔ _
      rw [Nat.mul_one, zpow_negSucc, ← div_eq_mul_inv, div_eq_iff (hscale _), ← @Int.cast_inj ℚ]
      push_cast
      rfl

/-- Truth values and whole numbers are worth the whole number behind them. -/
theorem worth?_of_whole {a : Number} {n : Int} (h : a.whole? = some n) :
    a.worth? = some (.finite n) := by
  cases a with
  | flag b =>
    cases h
    rfl
  | int m =>
    cases h
    rfl
  | float x => cases h

/-- **Numbers of any form are equal exactly when they are worth the same.** -/
theorem Number.equal_iff_worth {a b : Number} :
    a.equal b = true ↔ ∃ w, a.worth? = some w ∧ b.worth? = some w := by
  unfold equal
  cases ha : a.whole? with
  | some m =>
    rw [worth?_of_whole ha]
    cases hb : b.whole? with
    | some n =>
      rw [worth?_of_whole hb]
      dsimp only
      rw [beq_iff_eq]
      constructor
      · rintro rfl
        exact ⟨_, rfl, rfl⟩
      · intro hsame
        obtain ⟨w, hw, hw'⟩ := hsame
        have hsame := (Option.some.inj hw).trans (Option.some.inj hw').symm
        exact Int.cast_inj.mp (Worth.finite.inj hsame)
    | none =>
      cases b with
      | flag | int => cases hb
      | float y =>
        show equalsFloat m y = true ↔ _
        rw [equalsFloat_iff_worth]
        constructor
        · exact fun h => ⟨_, rfl, h⟩
        · intro hsame
          obtain ⟨w, hw, hw'⟩ := hsame
          rw [← hw] at hw'
          exact hw'
  | none =>
    cases a with
    | flag | int => cases ha
    | float x =>
      cases hb : b.whole? with
      | some n =>
        rw [worth?_of_whole hb]
        show equalsFloat n x = true ↔ _
        rw [equalsFloat_iff_worth]
        constructor
        · exact fun h => ⟨_, h, rfl⟩
        · intro hsame
          obtain ⟨w, hw, hw'⟩ := hsame
          rw [← hw'] at hw
          exact hw
      | none =>
        cases b with
        | flag | int => cases hb
        | float y => exact beq_iff_worth

end Waypost
