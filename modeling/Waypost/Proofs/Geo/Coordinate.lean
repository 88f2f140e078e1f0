import Waypost.Geo.Distance
import Waypost.Proofs.Decimal.Digits
import Waypost.Proofs.Decimal.Whole
import Waypost.Proofs.Document.Rounded
import Waypost.Proofs.Geo.Polyline
import Waypost.Proofs.Json.Writable

/-!
# Coordinates as doubles

A coordinate lies within its limit, so it is a finite double, and it stays one when it is scaled by
the customary multiplier.

* `Number.below_of_within` -- a number within a limit has a double of its size;
* `Point.text_coordinates` -- **no coordinate is too long for a text**;
* `smallest_keeps`, `largest_keeps` -- what holds of all numbers holds of the sides of a box;
* `itemsWritable_boundingBox` -- **the box around some points can be sent**;
* `exists_encodePolyline`, `encodable_polyline` -- **a polyline with the customary multiplier can be
  written**, and the text of it can be encoded.
-/

namespace Waypost

open Decimal Text

/-! ## 1. Numbers within a limit -/

theorem Number.below_of_within {limit : Nat} (hlimit : limit < 2 ^ 53) {n : Number}
    (h : n.within limit = true) : Below 1 n.toFloat := by
  have hfits : limit ≤ (2 ^ 53 - 1) * 2 ^ (1 : Int).toNat := by
    show limit ≤ (2 ^ 53 - 1) * 2 ^ 1
    omega
  have hedge : Below 1 (Float.ofNat limit) := below_ofNat (Int.le_refl 1) (by omega) hfits
  unfold Number.within at h
  cases n with
  | flag b => cases b <;> decide +kernel
  | int k =>
    rw [Bool.and_eq_true, decide_eq_true_iff, decide_eq_true_iff] at h
    exact below_ofInt (Int.le_refl 1) (by omega) (by omega)
  | float x =>
    rw [Bool.and_eq_true, decide_eq_true_iff, decide_eq_true_iff] at h
    exact below_of_between (below_neg hedge (by omega) (by omega)) hedge h.1 h.2

theorem Point.below_lat (p : Point) : Below 1 p.lat.toFloat :=
  Number.below_of_within (by omega) p.lat_within

theorem Point.below_lon (p : Point) : Below 1 p.lon.toFloat :=
  Number.below_of_within (by omega) p.lon_within

theorem fewDigits_of_within {limit : Nat} (hlimit : limit < 2 ^ 53) {k : Int}
    (h : (Number.int k).within limit = true) : fewDigits k = true := by
  unfold Number.within at h
  rw [Bool.and_eq_true, decide_eq_true_iff, decide_eq_true_iff] at h
  have hsmall : k.natAbs < 10 ^ 16 := by omega
  exact fewDigits_of_lt hsmall (by decide)

theorem Number.writable_of_within {limit : Nat} (hlimit : limit < 2 ^ 53) {n : Number}
    (h : n.within limit = true) : n.toJson.writable = true := by
  cases n with
  | flag b => rfl
  | int k => exact fewDigits_of_within hlimit h
  | float x =>
    have hbelow : Below 1 (Number.float x).toFloat := below_of_within hlimit h
    show x.isFinite = true
    exact isFinite_of_below hbelow

theorem Point.writable_lat (p : Point) : p.lat.toJson.writable = true :=
  Number.writable_of_within (by omega) p.lat_within

theorem Point.writable_lon (p : Point) : p.lon.toJson.writable = true :=
  Number.writable_of_within (by omega) p.lon_within

/-- The text of a number within a limit is that of its JSON value. -/
theorem Number.text_of_within {limit : Nat} (hlimit : limit < 2 ^ 53) {n : Number}
    (h : n.within limit = true) : n.toJson.text = .ok n.text := by
  cases n with
  | flag b => rfl
  | int k => exact integerText_eq_ok.mpr ⟨fewDigits_of_within hlimit h, rfl⟩
  | float x => rfl

/-- **The coordinates of a point have the texts of their JSON values.** -/
theorem Point.text_coordinates (p : Point) :
    p.lat.toJson.text = .ok p.lat.text ∧ p.lon.toJson.text = .ok p.lon.text :=
  ⟨Number.text_of_within (by omega) p.lat_within, Number.text_of_within (by omega) p.lon_within⟩

/-! ## 2. Boxes -/

section Box

variable {P : Number → Prop} {first : Number} {rest : List Number} (hfirst : P first)
  (hrest : ∀ n ∈ rest, P n)
include hfirst hrest

theorem smallest_keeps : P (smallest first rest) :=
  List.foldlRecOn rest _ hfirst fun best hbest n hn => by
    split
    · exact hrest n hn
    · exact hbest

theorem largest_keeps : P (largest first rest) :=
  List.foldlRecOn rest _ hfirst fun best hbest n hn => by
    split
    · exact hrest n hn
    · exact hbest

end Box

/-- **The box around some points can be sent.** -/
theorem itemsWritable_boundingBox (points : List Point) :
    itemsWritable ((boundingBox points).map Number.toJson) = true := by
  rw [itemsWritable_iff, List.forall_mem_map]
  cases points with
  | nil => exact fun side hside => absurd hside List.not_mem_nil
  | cons p rest =>
    have hlons : ∀ n ∈ rest.map (·.lon), n.toJson.writable = true :=
      List.forall_mem_map.mpr fun q _ => q.writable_lon
    have hlats : ∀ n ∈ rest.map (·.lat), n.toJson.writable = true :=
      List.forall_mem_map.mpr fun q _ => q.writable_lat
    unfold boundingBox
    simp only [List.forall_mem_cons]
    exact ⟨smallest_keeps p.writable_lon hlons, smallest_keeps p.writable_lat hlats,
      largest_keeps p.writable_lon hlons, largest_keeps p.writable_lat hlats,
      fun side hside => absurd hside List.not_mem_nil⟩

/-! ## 3. Polylines -/

/-- A coordinate that is scaled by the customary multiplier can be rounded. -/
theorem isFinite_scaled {x : Float} (h : Below 1 x) : (x * 1e5 + 0.5).isFinite = true := by
  have hmultiplier : Below 1 1e5 := by decide +kernel
  have hhalf : Below 55 0.5 := by decide +kernel
  have hscaled : Below 55 (x * 1e5) := below_mul h hmultiplier (by omega) (by omega) (by omega)
  exact isFinite_of_below (below_add hscaled hhalf (by omega) (by omega) (by omega)
    (show (56 : Int) ≤ 971 by omega))

/-- **A polyline with the customary multiplier can be written.** -/
theorem exists_encodePolyline (points : List Point) :
    ∃ text, encodePolyline points none 1e5 = .ok text := by
  have hmultiplier : ¬ (1e5 : Float) < 1.0 := by decide +kernel
  rw [← fault?_eq_none, fault?_encodePolyline hmultiplier, List.findSome?_eq_none_iff]
  intro x hx
  unfold scaledPoints withElevations at hx
  obtain ⟨⟨point, elevation⟩, hpoint, hx⟩ := List.mem_flatMap.mp hx
  obtain ⟨_, _, hpair⟩ := List.mem_map.mp hpoint
  cases hpair
  simp only [scaledPoint, Option.map_none, Option.toList_none, List.append_nil, List.mem_cons,
    List.not_mem_nil, or_false] at hx
  rcases hx with rfl | rfl
  · exact roundingFault?_of_isFinite (isFinite_scaled point.below_lat)
  · exact roundingFault?_of_isFinite (isFinite_scaled point.below_lon)

/-- The characters of a polyline can be encoded. -/
theorem encodable_polyline {points : List Point} {elevations : Option (List Float)}
    {multiplier : Float} {text : String}
    (h : encodePolyline points elevations multiplier = .ok text) : encodable text = true := by
  obtain ⟨rows, -, rfl⟩ := encodePolyline_eq_ok h
  have hmark : 126 < surrogateMark.toNat := by decide
  rw [encodable_iff, String.toList_ofList]
  exact fun hmem => absurd (printable_encodeRows hmem).2 (Nat.not_le.mpr hmark)

end Waypost
