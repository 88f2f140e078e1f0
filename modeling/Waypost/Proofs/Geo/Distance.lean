import Waypost.Geo.Distance
import Waypost.Proofs.Decimal.Shares

/-!
# Distances are not negative

The distance of two points is the radius of the globe times an angle, which is told by its sine and
its cosine. That the distance is finite and not negative comes down to that angle.

* `Plausible` -- lengths that are finite and not negative, unless they are no numbers;
* `IsAngle` -- what is known about an angle by its sine and cosine;
* `plausible_distanceTo` -- **distances are plausible**.
-/

namespace Waypost

open Decimal
open Float.Model (Format)
open Float.Model.UnpackedFloat

/-- Lengths by which a time can be shared out: none is negative or infinite. What is no number at
    all is not shared by. -/
def Plausible (lengthOf : Point → Point → Except Fault Float) : Prop :=
  ∀ p q length, lengthOf p q = .ok length →
    length.isNaN = true ∨ 0.0 ≤ length ∧ length.isFinite = true

/-- A product with what is no number is none. -/
theorem isNaN_mul {x y : Float} (h : y.isNaN = true) : (x * y).isNaN = true := by
  have hnan : y.toModel.unpack = .notANumber := by
    have hy : y.toModel.unpack.isNaN = true := h
    generalize y.toModel.unpack = v at hy
    cases v with
    | notANumber => rfl
    | zero | finite | infinity => cases hy
  have hproduct : mul Format.binary64 x.toModel.unpack y.toModel.unpack = .notANumber := by
    rw [hnan]
    cases x.toModel.unpack <;> rfl
  show (Float.Model.UnpackedFloat.unpack Format.binary64 (Float.Model.UnpackedFloat.pack
    Format.binary64 (mul Format.binary64 x.toModel.unpack y.toModel.unpack))).isNaN = true
  rw [hproduct]
  rfl

/-- What is known about the angle of a sine and a cosine, where the square of the sine is a number
    and that of the cosine is what it leaves of one: it is between zero and the circle number. Where
    there is no such number there may be no angle. -/
def IsAngle (angleOf : Float → Float → Float) : Prop :=
  ∀ chord : Float, ¬ chord < 0.0 → ¬ 1.0 - chord < 0.0 →
    (angleOf chord.sqrt (1.0 - chord).sqrt).isNaN = true ∨
      0.0 ≤ angleOf chord.sqrt (1.0 - chord).sqrt ∧ angleOf chord.sqrt (1.0 - chord).sqrt ≤ pi

/-- A factor leaves what is not negative so, and makes it larger by its own size at most. -/
theorem zero_le_scaled (factor : Float) {x : Float} {E : Int} (hfactor : 0.0 ≤ factor)
    (hsmall : Below 0 factor) (hx : 0.0 ≤ x) (hbelow : Below E x) (hlow : 0 ≤ E)
    (hmost : E ≤ 900) : 0.0 ≤ factor * x ∧ Below (E + 53) (factor * x) := by
  refine ⟨zero_le_mul hfactor hx ?_, below_mul hsmall hbelow (by omega) (by omega) (by omega)⟩
  exact isNaN_mul_of_finite (isFinite_of_below hsmall) (isFinite_of_below hbelow)

/-- **Distances are plausible.** -/
theorem plausible_distanceTo (hangle : IsAngle Float.atan2) : Plausible Point.distanceTo := by
  intro p q length h
  unfold Point.distanceTo distanceMeters at h
  dsimp only at h
  split at h
  · cases h
  · rename_i hinside
    rw [Bool.or_eq_true, Bool.or_eq_true, not_or, not_or, decide_eq_true_iff,
      decide_eq_true_iff] at hinside
    obtain ⟨⟨-, hsine⟩, hcosine⟩ := hinside
    cases h
    rcases hangle _ hsine hcosine with hnan | ⟨hlow, hhigh⟩
    · exact Or.inl (isNaN_mul (isNaN_mul hnan))
    · have hzero : Below 0 0.0 := by decide +kernel
      have hpi : Below 0 pi := by decide +kernel
      obtain ⟨hdouble, hbelow⟩ := zero_le_scaled 2.0 (by decide +kernel) (by decide +kernel) hlow
        (below_of_between hzero hpi hlow hhigh) (by omega) (by omega)
      obtain ⟨hlength, hbelow⟩ := zero_le_scaled earthRadius (by decide +kernel)
        (by decide +kernel) hdouble hbelow (by omega) (by omega)
      exact Or.inr ⟨hlength, isFinite_of_below hbelow⟩

end Waypost
