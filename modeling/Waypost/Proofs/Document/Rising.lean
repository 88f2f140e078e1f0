import Waypost.Proofs.Document.TrackTimes
import Waypost.Proofs.Geo.Distance

/-!
# Times that rise along a track

Where neither a length nor a time that is shared out is negative, the clock never goes back, though
every step of it is rounded. It stops where the stretches end, which may be short of the last point.
The points behind it keep the time at which the track begins.

* `isPart_of_shares` -- every share is finite and not negative, where the lengths are plausible;
* `IsMoment` -- a moment at which the clock can stand, and `IsMoment.add` -- it goes on from there;
* `RisesTo` -- times that rise up to a point, and are those of the beginning behind it;
* `risesTo_pointTimes` -- **the times of a track rise as far as its stretches reach**;
* `isChain_iff_of_risesTo` -- and they never fall exactly when that is the last point, or no time
  has passed until then.
-/

namespace Waypost

open Decimal

variable {lengthOf : Point → Point → Except Fault Float}

/-! ## 1. Shares -/

/-- Every length that is read is one between two points. -/
theorem of_mem_segmentLengths {points : List Point} {index : Int} {count : Nat}
    {lengths : List Float} (h : segmentLengths lengthOf points index count = .ok lengths) :
    ∀ length ∈ lengths, ∃ p q, lengthOf p q = .ok length := by
  induction count generalizing index lengths with
  | zero =>
    cases h
    exact fun length hmem => absurd hmem List.not_mem_nil
  | succ count ih =>
    obtain ⟨length, hlength, h⟩ := bind_eq_ok.mp h
    obtain ⟨rest, hrest, h⟩ := bind_eq_ok.mp h
    cases h
    obtain ⟨p, _, hlength⟩ := bind_eq_ok.mp hlength
    obtain ⟨q, _, hlength⟩ := bind_eq_ok.mp hlength
    exact List.forall_mem_cons.mpr ⟨⟨p, q, hlength⟩, ih hrest⟩

/-- A part of a time: not negative, and finite. -/
def IsPart (share : Float) : Prop := 0.0 ≤ share ∧ share.isFinite = true

/-- **Every share is a part.** Lengths that are no numbers leave no sum to share by, and then the
    parts are equal. -/
theorem isPart_of_shares {lengths : List Float} (h : ∀ length ∈ lengths,
      length.isNaN = true ∨ 0.0 ≤ length ∧ length.isFinite = true) :
    ∀ share ∈ shares lengths, IsPart share := by
  intro share hmem
  unfold shares at hmem
  obtain ⟨length, hlength, rfl⟩ := List.mem_map.mp hmem
  split
  · rename_i htotal
    obtain ⟨-, hnumbers⟩ := isNaN_of_sum (zero_lt_iff_level.mp htotal).1
    have hproper : ∀ x ∈ lengths, 0.0 ≤ x ∧ x.isFinite = true := by
      intro x hx
      refine (h x hx).resolve_left fun hnan => ?_
      rw [hnumbers x hx] at hnan
      cases hnan
    have hzero : 0.0 ≤ 0.0 := by decide +kernel
    obtain ⟨-, -, hterms⟩ := level_le_sum hzero fun x hx => (hproper x hx).1
    obtain ⟨hlow, hfinite⟩ := hproper length hlength
    exact part_of_le hlow hfinite htotal (hterms length hlength)
  · exact part_of_count (List.length_pos_of_mem hlength)

/-- What a share adds to the clock is not negative, when the time that is shared out is not. -/
theorem zero_le_of_isPart {duration : Int} {x share : Float} (hduration : 0 ≤ duration)
    (hx : floatOfInt duration = .ok x) (hshare : IsPart share) : 0.0 ≤ x * share := by
  obtain ⟨rfl, hfinite⟩ := floatOfInt_eq_ok.mp hx
  exact zero_le_mul (zero_le_ofInt hduration) hshare.1 (isNaN_mul_of_finite hfinite hshare.2)

/-- The point behind a segment of a stretch is not earlier than the point before it. -/
theorem Stretch.SharedOut.adds {points : List Point} {times : List Float} {stretch : Stretch}
    (h : stretch.SharedOut lengthOf points times) (hlengths : Plausible lengthOf)
    (hduration : 0 ≤ stretch.duration) {segment : Nat} (hbegin : 0 ≤ stretch.first)
    (hlow : stretch.first ≤ segment) (hhigh : (segment : Int) < stretch.last) :
    ∃ more, 0.0 ≤ more ∧ Adds times segment more := by
  obtain ⟨lengths, duration, hread, hdouble, hadds⟩ := h (by omega)
  have hparts : ∀ share ∈ shares lengths, IsPart share := by
    refine isPart_of_shares fun length hmem => ?_
    obtain ⟨p, q, hlength⟩ := of_mem_segmentLengths hread length hmem
    exact hlengths p q length hlength
  have hinside : segment - stretch.first.toNat < (shares lengths).length := by
    rw [length_shares, length_segmentLengths hread]
    unfold Stretch.count
    omega
  have hshare := List.getElem?_eq_getElem hinside
  have hsegment := hadds _ _ hshare
  rw [show stretch.first.toNat + (segment - stretch.first.toNat) = segment by omega] at hsegment
  exact ⟨_, zero_le_of_isPart hduration hdouble (hparts _ (List.mem_of_getElem? hshare)), hsegment⟩

/-! ## 2. The clock -/

/-- A moment at which a clock can stand: a number, and not the negative infinity. -/
def IsMoment (t : Float) : Prop := t.isNaN = false ∧ -(beyond : Int) < level t

theorem isMoment_of_isFinite {t : Float} (h : t.isFinite = true) : IsMoment t := by
  obtain ⟨hfinite, hmost⟩ := finite_of_isFinite h
  exact ⟨isNaN_eq_false_iff.mpr (.finite hfinite hmost), by omega⟩

/-- **The clock goes on**: what is not negative leads to a moment that is not earlier. -/
theorem IsMoment.add {t more : Float} (ht : IsMoment t) (hmore : 0.0 ≤ more) :
    IsMoment (t + more) ∧ t ≤ t + more := by
  obtain ⟨hnumber, hlow⟩ := ht
  obtain ⟨hsum, hle, -⟩ := level_le_add hnumber hlow hmore
  exact ⟨⟨hsum, by omega⟩, (le_iff_level hnumber hsum).mpr hle⟩

/-- Times that do not fall up to a point, and are those of the beginning behind it. -/
structure RisesTo (times : List Float) (reached : Nat) (origin : Float) : Prop where
  rises : ∀ k < reached, ∃ t t', times[k]? = some t ∧ times[k + 1]? = some t' ∧ t ≤ t'
  rest : ∀ k, reached < k → k < times.length → times[k]? = some origin

/-- Where nothing negative is added, the clock shows a moment at every point, and none is earlier
    than the one before. -/
theorem rises_of_adds {times : List Float} {reached : Nat} {origin : Float}
    (hstart : times[0]? = some origin) (horigin : IsMoment origin)
    (hadds : ∀ k < reached, ∃ more, 0.0 ≤ more ∧ Adds times k more) :
    ∀ k < reached, ∃ t t', times[k]? = some t ∧ times[k + 1]? = some t' ∧ t ≤ t' := by
  have hmoments : ∀ k ≤ reached, ∃ t, times[k]? = some t ∧ IsMoment t := by
    intro k
    induction k with
    | zero => exact fun _ => ⟨origin, hstart, horigin⟩
    | succ k ih =>
      intro hk
      obtain ⟨t, ht, hmoment⟩ := ih (by omega)
      obtain ⟨more, hmore, t', ht', hbehind⟩ := hadds k (by omega)
      cases ht.symm.trans ht'
      exact ⟨t + more, hbehind, (hmoment.add hmore).1⟩
  intro k hk
  obtain ⟨t, ht, hmoment⟩ := hmoments k (by omega)
  obtain ⟨more, hmore, t', ht', hbehind⟩ := hadds k hk
  cases ht.symm.trans ht'
  exact ⟨t, t + more, ht, hbehind, (hmoment.add hmore).2⟩

/-- **Times that rise up to a point never fall exactly when that is the last point**, or no time has
    passed until then. -/
theorem isChain_iff_of_risesTo {times : List Float} {reached : Nat} {origin : Float}
    (h : RisesTo times reached origin) (horigin : origin ≤ origin) :
    List.IsChain (· ≤ ·) times ↔
      times.length ≤ reached + 1 ∨ ∃ t, times[reached]? = some t ∧ t ≤ origin := by
  rw [List.isChain_iff_getElem]
  constructor
  · intro hchain
    by_cases hend : times.length ≤ reached + 1
    · exact Or.inl hend
    · have hinside : reached + 1 < times.length := by omega
      have hnext := h.rest (reached + 1) (by omega) hinside
      rw [List.getElem?_eq_getElem hinside, Option.some.injEq] at hnext
      exact Or.inr ⟨_, List.getElem?_eq_getElem (by omega), hnext ▸ hchain reached hinside⟩
  · intro hend k hk
    rcases Nat.lt_trichotomy k reached with hbefore | rfl | hbehind
    · obtain ⟨t, t', ht, ht', hle⟩ := h.rises k hbefore
      rw [(List.getElem?_eq_some_iff.mp ht).2, (List.getElem?_eq_some_iff.mp ht').2]
      exact hle
    · obtain ⟨t, ht, hle⟩ := hend.resolve_left (by omega)
      rw [(List.getElem?_eq_some_iff.mp ht).2,
        (List.getElem?_eq_some_iff.mp (h.rest (k + 1) (by omega) hk)).2]
      exact hle
    · rw [(List.getElem?_eq_some_iff.mp (h.rest k hbehind (by omega))).2,
        (List.getElem?_eq_some_iff.mp (h.rest (k + 1) (by omega) hk)).2]
      exact horigin

/-! ## 3. A path -/

section Times

variable {path : Path} {start : Int} {times : List Float}

/-- A start that the clock can begin at is not before itself. -/
theorem start_le_start (hpoints : path.points ≠ [])
    (h : pointTimes lengthOf path start = .ok times) :
    Float.ofInt start ≤ Float.ofInt start := by
  obtain ⟨origin, horigin, -⟩ := (pointTimes_eq_ok hpoints).mp h
  obtain ⟨rfl, hfinite⟩ := floatOfInt_eq_ok.mp horigin
  obtain ⟨hnumber, -⟩ := isMoment_of_isFinite hfinite
  exact (le_iff_level hnumber hnumber).mpr (Int.le_refl _)

/-- **The times of a track rise as far as its stretches reach.** -/
theorem risesTo_pointTimes {reached : Nat}
    (htiles : Tiles 0 (path.stretches.map Stretch.interval) reached)
    (hfits : reached < path.points.length)
    (hdurations : ∀ stretch ∈ path.stretches, 0 ≤ stretch.duration)
    (hlengths : Plausible lengthOf) (h : pointTimes lengthOf path start = .ok times) :
    RisesTo times reached (Float.ofInt start) := by
  have hpoints : path.points ≠ [] := List.length_pos_iff.mp (by omega)
  have hlength := length_pointTimes h
  obtain ⟨origin, horigin, s, hs, rfl⟩ := (pointTimes_eq_ok hpoints).mp h
  obtain ⟨rfl, hfinite⟩ := floatOfInt_eq_ok.mp horigin
  have hbegun : (path.begun (Float.ofInt start)).times.length = path.points.length :=
    List.length_replicate
  obtain ⟨hruns, hshared⟩ := runs_row htiles hfits hbegun (clock_begun hpoints _) hs
  refine ⟨?_, fun k hbehind hk => ?_⟩
  · have hstart : s.times[0]? = some (Float.ofInt start) := by
      rw [hruns.outside 0 (Or.inl (Nat.le_refl 0))]
      exact clock_begun hpoints _
    refine rises_of_adds hstart (isMoment_of_isFinite hfinite) fun k hk => ?_
    have hlow : (0 : Int) < (k : Int) + 1 := by omega
    obtain ⟨place, hlies, -⟩ := existsUnique_of_tiles htiles hlow (by omega)
    obtain ⟨interval, hplace, hbegin, hend⟩ := hlies
    obtain ⟨stretch, hmem, rfl⟩ := List.mem_map.mp (List.mem_of_getElem? hplace)
    obtain ⟨a, b, hfirst, hlast, -⟩ := places_of_tiles htiles stretch hmem
    dsimp only [Stretch.interval] at hbegin hend
    exact (hshared stretch hmem).adds hlengths (hdurations stretch hmem) (by omega) (by omega)
      (by omega)
  · rw [hruns.outside k (Or.inr hbehind)]
    unfold Path.begun
    rw [List.getElem?_replicate, if_pos (by omega)]

end Times

end Waypost
