import Waypost.Outcome
import Waypost.Proofs.Decimal.Digits
import Waypost.Proofs.Decimal.Range
import Waypost.Proofs.Fault.Steps

/-!
# Paths that can be written

What a writer relies on in a path, besides its form.

* `Instruction.Headed` -- a heading that is a number, if there is one;
* `Instruction.Sound` -- besides, a time that has a double and a first point on the path, where
  negative indexes count from its end;
* `Path.Headed`, `Path.Sound` -- the same of all instructions, and of the time of the path;
* `exists_floatOfInt_of_lt` -- a time that a double holds exactly has one;
* `fewDigits_of_floatOfInt` -- a time that has a double can be written;
* `exists_minutes` -- a time that has a double has a number of minutes.
-/

namespace Waypost

open Decimal

/-- What a writer of routes relies on in an instruction. -/
def Instruction.Headed (i : Instruction) : Prop :=
  ∀ value, i.heading = some value → ∃ number, Number.ofJson? value = some number

/-- What a writer of routes relies on in a path. -/
def Path.Headed (path : Path) : Prop :=
  ∀ list, path.instructions = some list → ∀ i ∈ list, i.Headed

/-- What a writer of tracks relies on in an instruction for so many points. -/
structure Instruction.Sound (points : Nat) (i : Instruction) : Prop where
  time : ∃ x, floatOfInt i.time = .ok x
  first : -(points : Int) ≤ i.first
  headed : i.Headed

/-- Whether the whole numbers that stand in a route point can be told. -/
def Instruction.Told (i : Instruction) : Prop :=
  fewDigits i.time = true ∧ fewDigits i.sign = true

instance (i : Instruction) : Decidable i.Told := inferInstanceAs (Decidable (_ ∧ _))

/-- What a writer of tracks relies on in a path. -/
structure Path.Sound (path : Path) : Prop where
  time : ∃ x, floatOfInt path.time = .ok x
  instructions : ∀ list, path.instructions = some list → ∀ i ∈ list, i.Sound path.points.length

theorem Path.Sound.headed {path : Path} (h : path.Sound) : path.Headed :=
  fun list hlist i hi => (h.instructions list hlist i hi).headed

theorem floatOfInt_eq_ok {n : Int} {x : Float} :
    floatOfInt n = .ok x ↔ Float.ofInt n = x ∧ x.isFinite = true := by
  unfold floatOfInt
  dsimp only
  split
  · rename_i hfinite
    constructor
    · rintro ⟨⟩
      exact ⟨rfl, hfinite⟩
    · rintro ⟨rfl, -⟩
      rfl
  · rename_i hfinite
    refine iff_of_false nofun ?_
    rintro ⟨rfl, h⟩
    exact hfinite h

/-- A whole number that a double holds exactly has a double. -/
theorem exists_floatOfInt_of_lt {n : Int} (h : n.natAbs < 2 ^ 53) :
    ∃ x, floatOfInt n = .ok x := by
  have hfits : n.natAbs ≤ (2 ^ 53 - 1) * 2 ^ 1 := by omega
  have hbelow : Below 1 (Float.ofInt n) := below_ofInt (Int.le_refl 1) (by omega) hfits
  exact ⟨_, floatOfInt_eq_ok.mpr ⟨rfl, isFinite_of_below hbelow⟩⟩

/-- The whole number next to a double has a double. -/
theorem exists_floatOfInt_of_nearest {x : Float} {n : Int} (h : nearest? x = .ok n) :
    ∃ y, floatOfInt n = .ok y :=
  ⟨_, floatOfInt_eq_ok.mpr ⟨rfl, isFinite_of_below (below_ofInt_nearest h)⟩⟩

/-- Whatever has a double has few digits. -/
theorem fewDigits_of_floatOfInt {n : Int} (h : ∃ x, floatOfInt n = .ok x) :
    fewDigits n = true := by
  obtain ⟨x, hx⟩ := h
  obtain ⟨rfl, hfinite⟩ := floatOfInt_eq_ok.mp hx
  have hbound : ∀ bits shift : Nat, (2 ^ bits - 1) * 2 ^ shift ≤ 10 ^ (bits + shift) := by
    intro bits shift
    calc (2 ^ bits - 1) * 2 ^ shift ≤ 2 ^ bits * 2 ^ shift :=
          Nat.mul_le_mul_right _ (Nat.sub_le _ _)
      _ = 2 ^ (bits + shift) := (Nat.pow_add 2 bits shift).symm
      _ ≤ 10 ^ (bits + shift) := Nat.pow_le_pow_left (by decide) _
  exact fewDigits_of_lt (((isFinite_ofInt n).mp hfinite).trans_le (hbound 54 970)) (by decide)

/-- **A time that has a double has a number of minutes.** -/
theorem exists_minutes {time : Int} (h : ∃ x, floatOfInt time = .ok x) :
    ∃ minutes, (do wholeNumber (nearest? ((← floatOfInt time) / 60000.0))) = .ok minutes := by
  obtain ⟨x, hx⟩ := h
  have hminute : AtLeastOne 60000.0 := by decide +kernel
  have hbelow : Below 971 (x / 60000.0) :=
    below_div (below_of_isFinite (floatOfInt_eq_ok.mp hx).2) hminute (by omega) (by omega)
  obtain ⟨minutes, hminutes⟩ := (wholeOf_nearest? _).ok.mpr (isFinite_of_below hbelow)
  refine ⟨minutes, ?_⟩
  rw [hx, ok_bind, hminutes]
  rfl

end Waypost
