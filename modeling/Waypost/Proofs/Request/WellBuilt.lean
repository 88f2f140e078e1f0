import Waypost.Bulk.Basic
import Waypost.Proofs.Hints.Map
import Waypost.Request.Build

/-!
# What a request that was built looks like

* `Request.Valid` -- what the validation lets through (`validate_eq_ok`);
* `Request.WellBuilt` -- a valid request whose snap preventions are settled and whose hints hold the
  three output switches;
* `wellBuilt_ofQuery`, `wellBuilt_ofBody`, `wellBuilt_ofLeg` -- **each of the three sources leads to
  such a request or to a fault**.
-/

namespace Waypost

/-- A list of values for points: none at all, or one for each. -/
def FitsPoints (values : List α) (points : List Point) : Prop :=
  values = [] ∨ values.length = points.length

/-- What the validation of a request lets through. -/
structure Request.Valid (r : Request) : Prop where
  points : r.points ≠ []
  headings : FitsPoints r.headings r.points
  pointHints : FitsPoints r.pointHints r.points
  curbsides : FitsPoints r.curbsides r.points

/-- Hints that hold the switches of the output. -/
structure Hints.HasSwitches (h : Hints) : Prop where
  calcPoints : h.has Key.calcPoints = true
  instructions : h.has Key.instructions = true
  wayPointMaxDistance : h.has Key.wayPointMaxDistance = true

/-- What every request looks like that was built, before it is prepared for an engine. -/
structure Request.WellBuilt (r : Request) : Prop where
  valid : r.Valid
  snapPreventions : r.snapPreventions ≠ none
  switches : r.hints.HasSwitches

/-! ## 1. Validation -/

theorem aligned_eq_true {values : List α} {points : List Point} :
    aligned values points = true ↔ FitsPoints values points := by
  unfold aligned FitsPoints
  rw [Bool.or_eq_true, List.isEmpty_iff, beq_iff_eq]

/-- **The validation lets through exactly the valid requests**, as they are. -/
theorem validate_eq_ok {r s : Request} : r.validate = .ok s ↔ s = r ∧ r.Valid := by
  unfold Request.validate
  constructor
  · intro h
    split at h
    · cases h
    · rename_i hp
      split at h
      · cases h
      · rename_i hh
        split at h
        · cases h
        · rename_i hph
          split at h
          · cases h
          · rename_i hc
            cases h
            exact ⟨rfl, by simpa using hp, aligned_eq_true.mp (by simpa using hh),
              aligned_eq_true.mp (by simpa using hph), aligned_eq_true.mp (by simpa using hc)⟩
  · rintro ⟨rfl, hv⟩
    rw [aligned_eq_true.mpr hv.headings, aligned_eq_true.mpr hv.pointHints,
      aligned_eq_true.mpr hv.curbsides]
    simp [hv.points]

/-! ## 2. Switches -/

/-- The three switches are there once they have been put, whatever the hints were. -/
theorem hasSwitches_set (h : Hints) (calcPoints instructions distance : HintValue) :
    (((h.set Key.calcPoints calcPoints).set Key.instructions instructions).set
      Key.wayPointMaxDistance distance).HasSwitches where
  calcPoints := Hints.has_set_of_has (Hints.has_set_of_has (Hints.has_set_self _ _ _) _ _) _ _
  instructions := Hints.has_set_of_has (Hints.has_set_self _ _ _) _ _
  wayPointMaxDistance := Hints.has_set_self _ _ _

theorem hasSwitches_switches (q : RouteQuery) (h : Hints) : (q.switches h).HasSwitches :=
  hasSwitches_set _ _ _ _

/-- The hints of a body hold the switches, given or by default. -/
theorem hasSwitches_ofBody {extra : Members} {h : Hints} (hb : Hints.ofBody extra = .ok h) :
    h.HasSwitches := by
  unfold Hints.ofBody at hb
  obtain ⟨h₀, _, hb⟩ := bind_eq_ok.mp hb
  obtain ⟨h₁, hc, hb⟩ := bind_eq_ok.mp hb
  obtain ⟨h₂, hi, hd⟩ := bind_eq_ok.mp hb
  have hc₁ := (Hints.has_putDefault hc).1
  have hi₂ := Hints.has_putDefault hi
  have hd₃ := Hints.has_putDefault hd
  exact ⟨hd₃.2 _ (hi₂.2 _ hc₁), hd₃.2 _ hi₂.1, hd₃.1⟩

/-- The hints that the legs of a batch share hold the switches. -/
theorem hasSwitches_shared {q : BulkQuery} {raw : Grouped} {h : Hints}
    (hs : Hints.shared q raw = .ok h) : h.HasSwitches := by
  unfold Hints.shared at hs
  obtain ⟨h₀, _, hs⟩ := bind_eq_ok.mp hs
  cases hs
  exact hasSwitches_set _ _ _ _

/-! ## 3. The three sources -/

theorem wellBuilt_ofQuery {options : ServerOptions} {q : RouteQuery} {raw : Grouped} {r : Request}
    (h : Request.ofQuery options q raw = .ok r) : r.WellBuilt := by
  unfold Request.ofQuery at h
  obtain ⟨_, _, h⟩ := bind_eq_ok.mp h
  obtain ⟨hints, _, h⟩ := bind_eq_ok.mp h
  obtain ⟨points, _, h⟩ := bind_eq_ok.mp h
  obtain ⟨rfl, hv⟩ := validate_eq_ok.mp h
  exact ⟨hv, Option.some_ne_none _, hasSwitches_switches q hints⟩

theorem wellBuilt_ofBody {options : ServerOptions} {b : RouteBody} {r : Request}
    (h : Request.ofBody options b = .ok r) : r.WellBuilt := by
  unfold Request.ofBody at h
  obtain ⟨hints, hb, h⟩ := bind_eq_ok.mp h
  obtain ⟨_, _, h⟩ := bind_eq_ok.mp h
  obtain ⟨rfl, hv⟩ := validate_eq_ok.mp h
  exact ⟨hv, Option.some_ne_none _, hasSwitches_ofBody hb⟩

theorem wellBuilt_ofLeg {options : LegOptions} {origin destination : Point} {r : Request}
    (hs : options.hints.HasSwitches) (h : Request.ofLeg options origin destination = .ok r) :
    r.WellBuilt := by
  unfold Request.ofLeg at h
  obtain ⟨rfl, hv⟩ := validate_eq_ok.mp h
  exact ⟨hv, Option.some_ne_none _, hs⟩

end Waypost
