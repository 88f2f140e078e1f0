import Mathlib.Logic.ExistsUnique
import Waypost.Document.TrackTimes

/-!
# Intervals one behind another

The instructions of a path cover intervals of its points, and so do the stretches over which its
times are spread. Where each interval begins at the end of the one before, every segment lies in
exactly one of them. Intervals without a segment may stand anywhere in between.

* `Instruction.interval`, `Stretch.interval` -- first and last index;
* `Tiles` -- each interval begins where the one before ends;
* `tiles_append` -- two rows of intervals are put together at the index where they meet;
* `bounds_of_tiles` -- no interval leaves the range of its row;
* `existsUnique_of_tiles` -- **every segment of the range lies in exactly one interval**.
-/

namespace Waypost

/-- The indexes of the first and the last point of an instruction. -/
def Instruction.interval (i : Instruction) : Int × Int := (i.first, i.last)

/-- The indexes of the first and the last point of a stretch. -/
def Stretch.interval (stretch : Stretch) : Int × Int := (stretch.first, stretch.last)

/-- Intervals from one index up to another, each of which begins where the one before ends. -/
def Tiles : Int → List (Int × Int) → Int → Prop
  | first, [], last => first = last
  | first, interval :: rest, last =>
    interval.1 = first ∧ interval.1 ≤ interval.2 ∧ Tiles interval.2 rest last

variable {first middle last : Int}

theorem tiles_cons {interval : Int × Int} {rest : List (Int × Int)} :
    Tiles first (interval :: rest) last ↔
      interval.1 = first ∧ interval.1 ≤ interval.2 ∧ Tiles interval.2 rest last := Iff.rfl

theorem le_of_tiles {row : List (Int × Int)} (h : Tiles first row last) : first ≤ last := by
  induction row generalizing first with
  | nil => exact Int.le_of_eq h
  | cons interval rest ih =>
    obtain ⟨hfirst, hle, hrest⟩ := tiles_cons.mp h
    have hlast := ih hrest
    omega

/-- Two rows that meet are one row. -/
theorem tiles_append {row more : List (Int × Int)} (h : Tiles first row middle)
    (hmore : Tiles middle more last) : Tiles first (row ++ more) last := by
  induction row generalizing first with
  | nil =>
    cases h
    exact hmore
  | cons interval rest ih =>
    obtain ⟨hfirst, hle, hrest⟩ := tiles_cons.mp h
    exact tiles_cons.mpr ⟨hfirst, hle, ih hrest⟩

/-- No interval leaves the range of its row. -/
theorem bounds_of_tiles {row : List (Int × Int)} (h : Tiles first row last) :
    ∀ interval ∈ row, first ≤ interval.1 ∧ interval.1 ≤ interval.2 ∧ interval.2 ≤ last := by
  induction row generalizing first with
  | nil => exact fun interval hmem => absurd hmem List.not_mem_nil
  | cons head rest ih =>
    intro interval hmem
    obtain ⟨hfirst, hle, hrest⟩ := tiles_cons.mp h
    rcases List.mem_cons.mp hmem with rfl | hmem
    · exact ⟨Int.le_of_eq hfirst.symm, hle, le_of_tiles hrest⟩
    · obtain ⟨hlow, hinner, hhigh⟩ := ih hrest interval hmem
      exact ⟨by omega, hinner, hhigh⟩

/-- The place of the interval in which an index lies: the index is behind its first and not behind
    its last. -/
def LiesAt (row : List (Int × Int)) (index : Int) (k : Nat) : Prop :=
  ∃ interval, row[k]? = some interval ∧ interval.1 < index ∧ index ≤ interval.2

theorem liesAt_zero {interval : Int × Int} {rest : List (Int × Int)} {index : Int} :
    LiesAt (interval :: rest) index 0 ↔ interval.1 < index ∧ index ≤ interval.2 := by
  constructor
  · intro h
    obtain ⟨found, hfound, hlies⟩ := h
    cases hfound
    exact hlies
  · exact fun h => ⟨interval, rfl, h⟩

theorem liesAt_succ {interval : Int × Int} {rest : List (Int × Int)} {index : Int} {k : Nat} :
    LiesAt (interval :: rest) index (k + 1) ↔ LiesAt rest index k := by
  unfold LiesAt
  rw [List.getElem?_cons_succ]

/-- What lies in an interval of a row lies in its range. -/
theorem range_of_liesAt {row : List (Int × Int)} {index : Int} {k : Nat}
    (h : Tiles first row last) (hlies : LiesAt row index k) : first < index ∧ index ≤ last := by
  obtain ⟨interval, hfound, hlow, hhigh⟩ := hlies
  have hbounds := bounds_of_tiles h interval (List.mem_of_getElem? hfound)
  omega

/-- **Every segment of the range lies in exactly one interval**, where a segment goes by the index
    of the point at its end. -/
theorem existsUnique_of_tiles {row : List (Int × Int)} (h : Tiles first row last) {index : Int}
    (hlow : first < index) (hhigh : index ≤ last) : ∃! k, LiesAt row index k := by
  induction row generalizing first with
  | nil =>
    have hsame : first = last := h
    omega
  | cons interval rest ih =>
    obtain ⟨hfirst, hle, hrest⟩ := tiles_cons.mp h
    by_cases hhere : index ≤ interval.2
    · refine ⟨0, liesAt_zero.mpr ⟨by omega, hhere⟩, fun k hk => ?_⟩
      cases k with
      | zero => rfl
      | succ k =>
        have hbehind := range_of_liesAt hrest (liesAt_succ.mp hk)
        omega
    · obtain ⟨k, hk, hunique⟩ := ih hrest (by omega)
      refine ⟨k + 1, liesAt_succ.mpr hk, fun other hother => ?_⟩
      cases other with
      | zero => exact absurd (liesAt_zero.mp hother).2 hhere
      | succ other => rw [hunique other (liesAt_succ.mp hother)]

end Waypost
