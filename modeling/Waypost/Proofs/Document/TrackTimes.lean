import Waypost.Proofs.Document.Moments
import Waypost.Proofs.Tiling

/-!
# Times along a track

The clock runs along a track stretch by stretch. Where the stretches tile the points, the clock at
the beginning of each is the time of the point at which the one before ended, however many of them
cover no segment.

* `Measures` -- lengths that come from any function of two points;
* `Stretch.share` -- the part of the time of a stretch that a segment gets;
* `Stamps.Runs` -- the clock has gone from one point to another and touched no other point;
* `Stretch.SharedOut`, `Stretch.TimedBy` -- each segment of a stretch takes a share of the time of
  the stretch; and the share that its length has, where the lengths can be told;
* `runs_advance`, `runs_cover`, `runs_row` -- one segment, one stretch, then a row of stretches;
* `pointTimes_spread` -- **along a tiled path each point has the time of the one before and the
  share of its segment**.
-/

namespace Waypost

open Decimal

/-! ## 1. Lengths and shares -/

/-- Lengths that are those of a function wherever two neighbouring points are looked at. -/
def Measures (lengthOf : Point → Point → Except Fault Float) (f : Point → Point → Float)
    (points : List Point) : Prop :=
  ∀ k p q, points[k]? = some p → points[k + 1]? = some q → lengthOf p q = .ok (f p q)

/-- The lengths of all segments. -/
def segmentsBy (f : Point → Point → Float) (points : List Point) : List Float :=
  List.zipWith f points points.tail

/-- The number of segments of a stretch. -/
def Stretch.count (stretch : Stretch) : Nat := (stretch.last - stretch.first).toNat

/-- The lengths of the segments of a stretch. -/
def Stretch.lengths (f : Point → Point → Float) (points : List Point) (stretch : Stretch) :
    List Float :=
  ((segmentsBy f points).drop stretch.first.toNat).take stretch.count

/-- The part of the time of a stretch that a segment of a length gets: as much of it as of the whole
    length, or an equal part where there is no length at all. -/
def Stretch.share (f : Point → Point → Float) (points : List Point) (stretch : Stretch)
    (length : Float) : Float :=
  let total := (stretch.lengths f points).foldl (· + ·) 0.0
  if 0.0 < total then length / total else 1.0 / Float.ofNat stretch.count

section Lengths

variable {lengthOf : Point → Point → Except Fault Float} {f : Point → Point → Float}
  {points : List Point}

theorem length_segmentsBy : (segmentsBy f points).length = points.length - 1 := by
  unfold segmentsBy
  rw [List.length_zipWith, List.length_tail]
  omega

theorem getElem?_segmentsBy {k : Nat} {p q : Point} (hp : points[k]? = some p)
    (hq : points[k + 1]? = some q) : (segmentsBy f points)[k]? = some (f p q) := by
  unfold segmentsBy
  rw [List.getElem?_zipWith, List.getElem?_tail, hp, hq]

theorem itemAt_of_getElem? {α : Type} {items : List α} {k : Nat} {item : α}
    (h : items[k]? = some item) : itemAt items k = .ok item := by
  have hlt : k < items.length := (List.getElem?_eq_some_iff.mp h).1
  unfold itemAt
  rw [show place? items.length (k : Int) = some k from if_pos hlt, Option.bind_some, h]

/-- The lengths that are read segment by segment. -/
theorem segmentLengths_eq (hmeasures : Measures lengthOf f points) {first count : Nat}
    (hfits : first + count < points.length) :
    segmentLengths lengthOf points first count =
      .ok (((segmentsBy f points).drop first).take count) := by
  induction count generalizing first with
  | zero => rfl
  | succ count ih =>
    have hp := List.getElem?_eq_getElem (show first < points.length by omega)
    have hq := List.getElem?_eq_getElem (show first + 1 < points.length by omega)
    have hhere := getElem?_segmentsBy (f := f) hp hq
    obtain ⟨hlt, hvalue⟩ := List.getElem?_eq_some_iff.mp hhere
    have hnext : itemAt points ((first : Int) + 1) = .ok points[first + 1] :=
      itemAt_of_getElem? hq
    have hlength : segmentLength lengthOf points first = .ok (segmentsBy f points)[first] := by
      unfold segmentLength
      rw [itemAt_of_getElem? hp, ok_bind, hnext, ok_bind, hmeasures first _ _ hp hq, hvalue]
    have hrest : segmentLengths lengthOf points ((first : Int) + 1) count =
        .ok (((segmentsBy f points).drop (first + 1)).take count) := @ih (first + 1) (by omega)
    unfold segmentLengths
    rw [hlength, ok_bind, hrest, ok_bind, List.drop_eq_getElem_cons hlt, List.take_succ_cons]
    rfl

end Lengths

/-! ## 2. One segment -/

/-- The clock has gone from one point to another: the last of them has the time that it shows, and
    no point before the segments in between or behind them was touched. -/
structure Stamps.Runs (first last : Nat) (s s' : Stamps) : Prop where
  clock : s'.times[last]? = some s'.elapsed
  outside : ∀ j, j ≤ first ∨ last < j → s'.times[j]? = s.times[j]?

theorem Stamps.Runs.refl {index : Nat} {s : Stamps} (h : s.times[index]? = some s.elapsed) :
    Runs index index s s :=
  ⟨h, fun _ _ => rfl⟩

theorem Stamps.Runs.trans {first middle last : Nat} {s s' s'' : Stamps} (h : Runs first middle s s')
    (hmore : Runs middle last s' s'') (hfirst : first ≤ middle) (hlast : middle ≤ last) :
    Runs first last s s'' := by
  refine ⟨hmore.clock, fun j hj => ?_⟩
  rw [hmore.outside j (by omega), h.outside j (by omega)]

/-- **One segment**: the clock goes on and the point behind the segment gets its time. -/
theorem runs_advance {s : Stamps} {index : Nat} (hfits : index + 1 < s.times.length)
    (duration share : Float) :
    s.Runs index (index + 1) (s.advance duration (index, share)) ∧
      (s.advance duration (index, share)).elapsed = s.elapsed + duration * share := by
  have hplace : place? s.times.length ((index : Int) + 1) = some (index + 1) := if_pos hfits
  unfold Stamps.advance
  dsimp only
  rw [hplace]
  refine ⟨⟨List.getElem?_set_self hfits, fun j hj => ?_⟩, rfl⟩
  exact List.getElem?_set_ne (by omega)

/-- The point behind a segment has the time of the point before it and some more. -/
def Adds (times : List Float) (segment : Nat) (more : Float) : Prop :=
  ∃ t, times[segment]? = some t ∧ times[segment + 1]? = some (t + more)

theorem Stamps.Runs.adds {first last segment : Nat} {s s' : Stamps} {more : Float}
    (h : Runs first last s s') (hsegment : segment + 1 ≤ first)
    (hadds : Adds s.times segment more) : Adds s'.times segment more := by
  obtain ⟨t, hbefore, hbehind⟩ := hadds
  refine ⟨t, ?_, ?_⟩
  · rw [h.outside segment (by omega), hbefore]
  · rw [h.outside (segment + 1) (by omega), hbehind]

/-- The segments from an index on, each with its share. -/
def stepsFrom (first : Int) (shares : List Float) : List (Int × Float) :=
  shares.zipIdx.map fun (share, i) => (first + (i : Int), share)

theorem stepsFrom_cons (first : Int) (share : Float) (rest : List Float) :
    stepsFrom first (share :: rest) = (first, share) :: stepsFrom (first + 1) rest := by
  unfold stepsFrom
  rw [List.zipIdx_cons, List.zipIdx_succ, List.map_cons, List.map_map]
  refine congrArg₂ List.cons (by simp) (List.map_congr_left fun step _ => ?_)
  refine Prod.ext ?_ rfl
  show first + ((step.2 + 1 : Nat) : Int) = first + 1 + (step.2 : Int)
  omega

/-- **Several segments one after another**: each adds its share to the time of the point before. -/
theorem runs_steps {duration : Float} {shares : List Float} {s : Stamps} {first : Nat}
    (hclock : s.times[first]? = some s.elapsed) (hfits : first + shares.length < s.times.length) :
    ∃ s', (stepsFrom first shares).foldl (Stamps.advance duration) s = s' ∧
      s.Runs first (first + shares.length) s' ∧
      ∀ i share, shares[i]? = some share → Adds s'.times (first + i) (duration * share) := by
  induction shares generalizing s first with
  | nil => exact ⟨s, rfl, .refl hclock, nofun⟩
  | cons share rest ih =>
    rw [List.length_cons] at hfits ⊢
    have hinside : first + 1 < s.times.length := by omega
    obtain ⟨hstep, helapsed⟩ := runs_advance hinside duration share
    have hlength := length_advance duration s ((first : Int), share)
    obtain ⟨s', hs', hrest, hadds⟩ := ih hstep.clock (by omega)
    have hhere : Adds (s.advance duration (first, share)).times first (duration * share) := by
      refine ⟨s.elapsed, ?_, ?_⟩
      · rw [hstep.outside first (by omega), hclock]
      · rw [hstep.clock, helapsed]
    rw [stepsFrom_cons, List.foldl_cons, show first + (rest.length + 1) = first + 1 + rest.length by
      omega]
    refine ⟨s', hs', hstep.trans hrest (by omega) (by omega), fun i share' hi => ?_⟩
    cases i with
    | zero =>
      cases hi
      exact hrest.adds (Nat.le_refl _) hhere
    | succ i =>
      rw [show first + (i + 1) = first + 1 + i by omega]
      exact hadds i share' hi

/-! ## 3. One stretch -/

section Covering

variable {lengthOf : Point → Point → Except Fault Float} {f : Point → Point → Float}
  {points : List Point}

/-- What stamping a stretch on a track comes down to. -/
theorem cover_eq (s : Stamps) {stretch : Stretch} {first last : Nat}
    (hfirst : stretch.first = first) (hlast : stretch.last = last) (hfits : last < points.length) :
    s.cover lengthOf points stretch =
      if last ≤ first then .ok s else do
        let lengths ← segmentLengths lengthOf points first (last - first)
        let duration ← floatOfInt stretch.duration
        return (stepsFrom first (shares lengths)).foldl (Stamps.advance duration) s := by
  have hmin : min (last : Int) ((points.length : Int) - 1) = last := by omega
  have hcount : ((last : Int) - first).toNat = last - first := by omega
  unfold Stamps.cover
  dsimp only
  rw [hlast, hfirst, hmin, hcount]
  by_cases hempty : last ≤ first
  · rw [if_pos hempty, if_pos (Int.ofNat_le.mpr hempty)]
    rfl
  · rw [if_neg hempty, if_neg fun h => hempty (Int.ofNat_le.mp h)]
    rfl

/-- The time of a stretch is shared out among its segments: the point behind each of them has the
    time of the point before it and a share. -/
def Stretch.SharedOut (lengthOf : Point → Point → Except Fault Float) (points : List Point)
    (times : List Float) (stretch : Stretch) : Prop :=
  stretch.first < stretch.last → ∃ lengths duration,
    segmentLengths lengthOf points stretch.first stretch.count = .ok lengths ∧
    floatOfInt stretch.duration = .ok duration ∧
    ∀ i share, (shares lengths)[i]? = some share →
      Adds times (stretch.first.toNat + i) (duration * share)

theorem length_segmentLengths {index : Int} {count : Nat} {lengths : List Float}
    (h : segmentLengths lengthOf points index count = .ok lengths) : lengths.length = count := by
  induction count generalizing index lengths with
  | zero =>
    cases h
    rfl
  | succ count ih =>
    obtain ⟨length, _, h⟩ := bind_eq_ok.mp h
    obtain ⟨rest, hrest, h⟩ := bind_eq_ok.mp h
    cases h
    exact congrArg Nat.succ (ih hrest)

theorem length_shares (lengths : List Float) : (shares lengths).length = lengths.length :=
  List.length_map _

/-- What is shared out stays so while the clock goes on behind the stretch. -/
theorem Stamps.Runs.sharedOut {first last a b : Nat} {s s' : Stamps} {stretch : Stretch}
    (h : Runs first last s s') (hfirst : stretch.first = a) (hlast : stretch.last = b)
    (hbehind : b ≤ first) (hshared : stretch.SharedOut lengthOf points s.times) :
    stretch.SharedOut lengthOf points s'.times := by
  intro hsome
  obtain ⟨lengths, duration, hlengths, hduration, hadds⟩ := hshared hsome
  refine ⟨lengths, duration, hlengths, hduration, fun i share hi => ?_⟩
  refine h.adds ?_ (hadds i share hi)
  have hlt := (List.getElem?_eq_some_iff.mp hi).1
  rw [length_shares, length_segmentLengths hlengths] at hlt
  unfold Stretch.count at hlt
  omega

/-- **One stretch**: the clock goes from its first point to its last, and its time is shared out. -/
theorem runs_cover {s s' : Stamps} {stretch : Stretch} {first last : Nat}
    (hfirst : stretch.first = first) (hlast : stretch.last = last) (hle : first ≤ last)
    (hfits : last < points.length) (hlength : s.times.length = points.length)
    (hclock : s.times[first]? = some s.elapsed)
    (h : s.cover lengthOf points stretch = .ok s') :
    s.Runs first last s' ∧ stretch.SharedOut lengthOf points s'.times := by
  rw [cover_eq s hfirst hlast hfits] at h
  split at h
  · cases h
    obtain rfl : first = last := by omega
    exact ⟨.refl hclock, fun hsome => by omega⟩
  · obtain ⟨lengths, hlengths, h⟩ := bind_eq_ok.mp h
    obtain ⟨duration, hduration, h⟩ := bind_eq_ok.mp h
    cases h
    have hcount : (shares lengths).length = last - first := by
      rw [length_shares, length_segmentLengths hlengths]
    obtain ⟨s', hs', hruns, hadds⟩ := @runs_steps duration (shares lengths) s first hclock
      (by rw [hcount]; omega)
    rw [hcount, Nat.add_sub_cancel' hle] at hruns
    rw [hs']
    refine ⟨hruns, fun _ => ⟨lengths, duration, ?_, hduration, ?_⟩⟩
    · unfold Stretch.count
      rw [hfirst, hlast, show ((last : Int) - first).toNat = last - first by omega]
      exact hlengths
    · rw [hfirst, Int.toNat_natCast]
      exact hadds

/-! ## 4. A row of stretches -/

theorem places_of_tiles {row : List Stretch} {first last : Nat}
    (h : Tiles first (row.map Stretch.interval) last) :
    ∀ stretch ∈ row, ∃ a b : Nat, stretch.first = a ∧ stretch.last = b ∧
      first ≤ a ∧ a ≤ b ∧ b ≤ last := by
  intro stretch hmem
  obtain ⟨hlow, hle, hhigh⟩ := bounds_of_tiles h _ (List.mem_map_of_mem hmem)
  dsimp only [Stretch.interval] at hlow hle hhigh
  exact ⟨stretch.first.toNat, stretch.last.toNat, by omega, by omega, by omega, by omega, by omega⟩

/-- **A row of stretches**: the clock goes from the first point of the row to its last, and the time
    of each stretch is shared out. -/
theorem runs_row {row : List Stretch} {s s' : Stamps} {first last : Nat}
    (htiles : Tiles first (row.map Stretch.interval) last) (hfits : last < points.length)
    (hlength : s.times.length = points.length) (hclock : s.times[first]? = some s.elapsed)
    (h : row.foldlM (Stamps.cover lengthOf points) s = .ok s') :
    s.Runs first last s' ∧ ∀ stretch ∈ row, stretch.SharedOut lengthOf points s'.times := by
  induction row generalizing s first with
  | nil =>
    cases h
    obtain rfl : first = last := Int.ofNat_inj.mp htiles
    exact ⟨.refl hclock, fun stretch hmem => absurd hmem List.not_mem_nil⟩
  | cons stretch rest ih =>
    obtain ⟨a, b, hfirst, hlast, -, hle, hb⟩ := places_of_tiles htiles stretch List.mem_cons_self
    obtain ⟨hbegin, -, hrest⟩ := tiles_cons.mp htiles
    obtain rfl : a = first := by
      change stretch.first = first at hbegin
      omega
    change Tiles stretch.last _ _ at hrest
    rw [hlast] at hrest
    rw [List.foldlM_cons] at h
    obtain ⟨between, hhere, h⟩ := bind_eq_ok.mp h
    obtain ⟨hruns, hshared⟩ := runs_cover hfirst hlast hle (by omega) hlength hclock hhere
    obtain ⟨hmore, hothers⟩ := ih hrest ((length_cover hhere).trans hlength) hruns.clock h
    refine ⟨hruns.trans hmore hle hb, fun other hmem => ?_⟩
    rcases List.mem_cons.mp hmem with rfl | hmem
    · exact hmore.sharedOut hfirst hlast (Nat.le_refl b) hshared
    · exact hothers other hmem

/-! ## 5. Lengths that can be told -/

theorem length_lengths {stretch : Stretch} {first last : Nat} (hfirst : stretch.first = first)
    (hlast : stretch.last = last) (hfits : last < points.length) :
    (stretch.lengths f points).length = last - first := by
  unfold Stretch.lengths Stretch.count
  rw [List.length_take, List.length_drop, length_segmentsBy, hfirst, hlast]
  omega

theorem getElem?_lengths {stretch : Stretch} {first last i : Nat} (hfirst : stretch.first = first)
    (hlast : stretch.last = last) (hi : i < last - first) :
    (stretch.lengths f points)[i]? = (segmentsBy f points)[first + i]? := by
  unfold Stretch.lengths Stretch.count
  rw [hfirst, hlast, Int.toNat_natCast, List.getElem?_take, if_pos (by omega), List.getElem?_drop]

/-- The shares that are told segment by segment. -/
theorem shares_lengths {stretch : Stretch} {first last : Nat} (hfirst : stretch.first = first)
    (hlast : stretch.last = last) (hfits : last < points.length) :
    shares (stretch.lengths f points) =
      (stretch.lengths f points).map (stretch.share f points) := by
  have hcount : (stretch.lengths f points).length = stretch.count := by
    rw [length_lengths hfirst hlast hfits]
    unfold Stretch.count
    omega
  unfold shares Stretch.share
  rw [hcount]

/-- Each segment of a stretch takes its share of the time of the stretch: the point behind it has
    the time of the point before it and that share. -/
def Stretch.TimedBy (f : Point → Point → Float) (points : List Point) (times : List Float)
    (stretch : Stretch) : Prop :=
  ∀ segment : Nat, stretch.first ≤ segment → (segment : Int) < stretch.last →
    ∃ length, (segmentsBy f points)[segment]? = some length ∧
      Adds times segment (Float.ofInt stretch.duration * stretch.share f points length)

/-- Where the lengths can be told, what is shared out is the share of each segment. -/
theorem timedBy_of_sharedOut (hmeasures : Measures lengthOf f points) {stretch : Stretch}
    {first last : Nat} {times : List Float} (hfirst : stretch.first = first)
    (hlast : stretch.last = last) (hfits : last < points.length)
    (h : stretch.SharedOut lengthOf points times) : stretch.TimedBy f points times := by
  intro segment hlow hhigh
  obtain ⟨lengths, duration, hlengths, hduration, hadds⟩ := h (by omega)
  have htold : segmentLengths lengthOf points stretch.first stretch.count =
      .ok (stretch.lengths f points) := by
    unfold Stretch.lengths Stretch.count
    rw [hfirst, hlast, Int.toNat_natCast]
    exact segmentLengths_eq hmeasures (by omega)
  cases htold.symm.trans hlengths
  rw [hfirst] at hlow
  rw [hlast] at hhigh
  obtain ⟨i, rfl⟩ := Nat.exists_eq_add_of_le (Int.ofNat_le.mp hlow)
  have hinside : first + i < (segmentsBy f points).length := by
    rw [length_segmentsBy]
    omega
  have hsegment := List.getElem?_eq_getElem hinside
  refine ⟨_, hsegment, ?_⟩
  rw [hfirst, Int.toNat_natCast] at hadds
  rw [(floatOfInt_eq_ok.mp hduration).1]
  refine hadds i _ ?_
  rw [shares_lengths hfirst hlast hfits, List.getElem?_map,
    getElem?_lengths hfirst hlast (by omega), hsegment]
  rfl

/-- A stretch can be stamped exactly when its time has a double, unless there is nothing to
    stamp. -/
theorem exists_cover_iff (hmeasures : Measures lengthOf f points) (s : Stamps) {stretch : Stretch}
    {first last : Nat} (hfirst : stretch.first = first) (hlast : stretch.last = last)
    (hfits : last < points.length) :
    (∃ s', s.cover lengthOf points stretch = .ok s') ↔
      (stretch.first < stretch.last → ∃ x, floatOfInt stretch.duration = .ok x) := by
  rw [cover_eq s hfirst hlast hfits]
  split
  · exact iff_of_true ⟨s, rfl⟩ fun hsome => by omega
  · rw [segmentLengths_eq hmeasures (by omega), ok_bind]
    constructor
    · intro h _
      obtain ⟨s', hs'⟩ := h
      obtain ⟨x, hx, _⟩ := bind_eq_ok.mp hs'
      exact ⟨x, hx⟩
    · intro h
      obtain ⟨x, hx⟩ := h (by omega)
      rw [hx]
      exact ⟨_, rfl⟩

/-- A row of stretches can be stamped exactly when each of them can. -/
theorem exists_row_iff (hmeasures : Measures lengthOf f points) {row : List Stretch}
    {first last : Nat} (htiles : Tiles first (row.map Stretch.interval) last)
    (hfits : last < points.length) (s : Stamps) :
    (∃ s', row.foldlM (Stamps.cover lengthOf points) s = .ok s') ↔
      ∀ stretch ∈ row, stretch.first < stretch.last →
        ∃ x, floatOfInt stretch.duration = .ok x := by
  refine exists_foldlM (fun s stretch hmem => ?_) s
  obtain ⟨a, b, hfirst, hlast, -, -, hb⟩ := places_of_tiles htiles stretch hmem
  exact exists_cover_iff hmeasures s hfirst hlast (by omega)

end Covering

/-! ## 6. A path -/

/-- The instructions of a path, if there are any, tile its points. -/
def Path.Tiled (path : Path) : Prop :=
  ∀ list, path.instructions = some list → list ≠ [] →
    Tiles 0 (list.map Instruction.interval) ((path.points.length : Int) - 1)

/-- Each instruction is a stretch with its time. -/
theorem stretches_of_instructions {path : Path} {list : List Instruction}
    (hlist : path.instructions = some list) (hne : list ≠ []) :
    path.stretches = list.map fun i => ⟨i.first, i.last, i.time⟩ := by
  unfold Path.stretches
  rw [hlist]
  cases list with
  | nil => exact absurd rfl hne
  | cons i rest => rfl

/-- A path without instructions is one stretch with its own time. -/
theorem stretches_of_none {path : Path}
    (hnone : ∀ list, path.instructions = some list → list = []) :
    path.stretches = [⟨0, (path.points.length : Int) - 1, path.time⟩] := by
  unfold Path.stretches
  cases hlist : path.instructions with
  | none => rfl
  | some list =>
    rw [hnone list hlist]

/-- The stretches of a path tile its points when its instructions do, and also when there are
    none. -/
theorem tiles_stretches {path : Path} (hpoints : path.points ≠ []) (h : path.Tiled) :
    Tiles 0 (path.stretches.map Stretch.interval) ((path.points.length - 1 : Nat) : Int) := by
  have hpos : 0 < path.points.length := List.length_pos_iff.mpr hpoints
  have hlast : ((path.points.length - 1 : Nat) : Int) = (path.points.length : Int) - 1 := by omega
  rw [hlast]
  by_cases hnone : ∀ list, path.instructions = some list → list = []
  · rw [stretches_of_none hnone]
    refine tiles_cons.mpr ⟨rfl, ?_, rfl⟩
    dsimp only [Stretch.interval]
    omega
  · push Not at hnone
    obtain ⟨list, hlist, hne⟩ := hnone
    rw [stretches_of_instructions hlist hne, List.map_map]
    exact h list hlist hne

section Times

variable {lengthOf : Point → Point → Except Fault Float} {f : Point → Point → Float}
  {path : Path} {start : Int}

/-- The clock at the beginning: every point has the time of the start. -/
def Path.begun (path : Path) (origin : Float) : Stamps :=
  ⟨origin, List.replicate path.points.length origin⟩

theorem clock_begun (hpoints : path.points ≠ []) (origin : Float) :
    (path.begun origin).times[0]? = some (path.begun origin).elapsed := by
  have hpos : 0 < path.points.length := List.length_pos_iff.mpr hpoints
  unfold Path.begun
  rw [List.getElem?_replicate, if_pos hpos]

/-- The times of a path are what the clock leaves behind that begins at the double of its start. -/
theorem pointTimes_eq_ok (hpoints : path.points ≠ []) {times : List Float} :
    pointTimes lengthOf path start = .ok times ↔
      ∃ origin, floatOfInt start = .ok origin ∧
        ∃ s, path.stretches.foldlM (Stamps.cover lengthOf path.points) (path.begun origin) = .ok s ∧
          s.times = times := by
  unfold pointTimes
  rw [if_neg fun h => hpoints (List.isEmpty_iff.mp h), bind_eq_ok]
  refine exists_congr fun origin => and_congr_right fun _ => ?_
  rw [bind_eq_ok]
  exact exists_congr fun s => and_congr_right fun _ => ⟨Except.ok.inj, congrArg Except.ok⟩

/-- The times of a path can be told exactly when its start and all times that are shared out have
    doubles, where its stretches tile its points, or as many of them as they reach. -/
theorem exists_pointTimes_iff {reached : Nat} (hmeasures : Measures lengthOf f path.points)
    (htiles : Tiles 0 (path.stretches.map Stretch.interval) reached)
    (hfits : reached < path.points.length) :
    (∃ times, pointTimes lengthOf path start = .ok times) ↔
      (∃ x, floatOfInt start = .ok x) ∧
        ∀ stretch ∈ path.stretches, stretch.first < stretch.last →
          ∃ x, floatOfInt stretch.duration = .ok x := by
  have hpoints : path.points ≠ [] := List.length_pos_iff.mp (by omega)
  have hrow := exists_row_iff hmeasures htiles hfits
  constructor
  · intro h
    obtain ⟨times, htimes⟩ := h
    obtain ⟨origin, horigin, s, hs, -⟩ := (pointTimes_eq_ok hpoints).mp htimes
    exact ⟨⟨origin, horigin⟩, (hrow (path.begun origin)).mp ⟨s, hs⟩⟩
  · intro h
    obtain ⟨⟨origin, horigin⟩, hdurations⟩ := h
    obtain ⟨s, hs⟩ := (hrow (path.begun origin)).mpr hdurations
    exact ⟨s.times, (pointTimes_eq_ok hpoints).mpr ⟨origin, horigin, s, hs, rfl⟩⟩

/-- **Along a tiled path each point has the time of the one before and the share of its segment.**
    The times can be told exactly when the start and all times that are shared out have doubles.
    Then there is one for each point, the first is the start, every segment lies in exactly one
    stretch, and the point behind it has the time of the point before it and the segment's share of
    the time of its stretch. -/
theorem pointTimes_spread (hpoints : path.points ≠ []) (htiled : path.Tiled)
    (hmeasures : Measures lengthOf f path.points) :
    ((∃ times, pointTimes lengthOf path start = .ok times) ↔
      (∃ x, floatOfInt start = .ok x) ∧
        ∀ stretch ∈ path.stretches, stretch.first < stretch.last →
          ∃ x, floatOfInt stretch.duration = .ok x) ∧
    ∀ times, pointTimes lengthOf path start = .ok times →
      times.length = path.points.length ∧ times[0]? = some (Float.ofInt start) ∧
      ∀ segment : Nat, segment + 1 < path.points.length →
        (∃! k, LiesAt (path.stretches.map Stretch.interval) (segment + 1) k) ∧
        ∀ stretch ∈ path.stretches, stretch.first ≤ segment → (segment : Int) < stretch.last →
          ∃ length, (segmentsBy f path.points)[segment]? = some length ∧
            Adds times segment
              (Float.ofInt stretch.duration * stretch.share f path.points length) := by
  have hpos : 0 < path.points.length := List.length_pos_iff.mpr hpoints
  have htiles := tiles_stretches hpoints htiled
  refine ⟨exists_pointTimes_iff hmeasures htiles (by omega), fun times htimes => ?_⟩
  have hlength := length_pointTimes htimes
  obtain ⟨origin, horigin, s, hs, rfl⟩ := (pointTimes_eq_ok hpoints).mp htimes
  have hbegun : (path.begun origin).times.length = path.points.length := List.length_replicate
  obtain ⟨hruns, hshared⟩ := runs_row htiles (by omega) hbegun (clock_begun hpoints origin) hs
  have htimed : ∀ stretch ∈ path.stretches, stretch.TimedBy f path.points s.times := by
    intro stretch hmem
    obtain ⟨a, b, hfirst, hlast, -, -, hb⟩ := places_of_tiles htiles stretch hmem
    exact timedBy_of_sharedOut hmeasures hfirst hlast (by omega) (hshared stretch hmem)
  refine ⟨hlength, ?_, fun segment hsegment => ⟨?_, fun stretch hmem => ?_⟩⟩
  · rw [hruns.outside 0 (Or.inl (Nat.le_refl 0)), clock_begun hpoints origin,
      (floatOfInt_eq_ok.mp horigin).1]
    rfl
  · exact existsUnique_of_tiles htiles (by omega) (by omega)
  · exact htimed stretch hmem segment

end Times

/-- A way straight north: its instructions cover no segment, two segments, none again although they
    take a time beyond all doubles, and one that has no length. -/
def haltedWay : Path where
  distance := 3.0
  time := 3500
  weight := 0.0
  points := [⟨.int 20, .int 5, rfl, rfl⟩, ⟨.int 21, .int 5, rfl, rfl⟩, ⟨.int 23, .int 5, rfl, rfl⟩,
    ⟨.int 23, .int 5, rfl, rfl⟩]
  instructions := some
    [{ sign := 0, text := "", distance := 0.0, time := 0, first := 0, last := 0 },
      { sign := 0, text := "", distance := 3.0, time := 3000, first := 0, last := 2 },
      { sign := 5, text := "", distance := 0.0, time := 10 ^ 400, first := 2, last := 2 },
      { sign := 4, text := "", distance := 0.0, time := 500, first := 2, last := 3 }]

/-- The degrees from one point north to another. -/
def degreesNorth (p q : Point) : Float := q.lat.toFloat - p.lat.toFloat

theorem tiled_haltedWay : haltedWay.Tiled := by
  rintro list ⟨⟩ -
  exact ⟨rfl, by decide, rfl, by decide, rfl, by decide, rfl, by decide, rfl⟩

theorem pointTimes_spread_haltedWay :
    ∃ times, pointTimes (fun p q => .ok (degreesNorth p q)) haltedWay 1000 = .ok times ∧
      times.length = 4 ∧ times[0]? = some (Float.ofInt 1000) ∧
      (∃! k, LiesAt (haltedWay.stretches.map Stretch.interval) 3 k) ∧
      ∃ length, (segmentsBy degreesNorth haltedWay.points)[2]? = some length ∧
        Adds times 2 (Float.ofInt 500 *
          Stretch.share degreesNorth haltedWay.points ⟨2, 3, 500⟩ length) := by
  have hsmall : ∀ stretch ∈ haltedWay.stretches, stretch.first < stretch.last →
      stretch.duration.natAbs < 2 ^ 53 := by decide
  obtain ⟨hexists, hspread⟩ := @pointTimes_spread (fun p q => .ok (degreesNorth p q)) degreesNorth
    haltedWay 1000 (List.cons_ne_nil _ _) tiled_haltedWay fun _ _ _ _ _ => rfl
  obtain ⟨times, htimes⟩ := hexists.mpr ⟨exists_floatOfInt_of_lt (by decide),
    fun stretch hmem hsome => exists_floatOfInt_of_lt (hsmall stretch hmem hsome)⟩
  obtain ⟨hlength, hstart, hsegments⟩ := hspread times htimes
  obtain ⟨hunique, hadds⟩ := hsegments 2 (by decide)
  refine ⟨times, htimes, hlength, hstart, hunique, ?_⟩
  exact hadds ⟨2, 3, 500⟩ (List.mem_of_getElem? (i := 3) rfl) (by decide) (by decide)

/-- A path whose only instruction takes a time beyond all doubles. -/
def endlessWay : Path :=
  { haltedWay with
    instructions := some
      [{ sign := 0, text := "", distance := 3.0, time := 10 ^ 400, first := 0, last := 3 }] }

theorem tiled_endlessWay : endlessWay.Tiled := by
  rintro list ⟨⟩ -
  exact ⟨rfl, by decide, rfl⟩

/-- A tiled path need not have times, whatever its lengths are: a time beyond all doubles cannot be
    shared out, and the clock cannot begin at one. -/
theorem no_pointTimes_beyond_doubles :
    endlessWay.Tiled ∧ haltedWay.Tiled ∧
    (¬ ∃ times, pointTimes (fun p q => .ok (degreesNorth p q)) endlessWay 0 = .ok times) ∧
    ¬ ∃ times, pointTimes (fun p q => .ok (degreesNorth p q)) haltedWay (10 ^ 400) = .ok times := by
  have hbeyond : ¬ ∃ x, floatOfInt (10 ^ 400) = .ok x := by
    intro h
    obtain ⟨x, hx⟩ := h
    obtain ⟨rfl, hfinite⟩ := floatOfInt_eq_ok.mp hx
    exact absurd hfinite (by decide +kernel)
  have hmeasures : ∀ points, Measures (fun p q => .ok (degreesNorth p q)) degreesNorth points :=
    fun points _ _ _ _ _ => rfl
  refine ⟨tiled_endlessWay, tiled_haltedWay, fun h => ?_, fun h => ?_⟩
  · have htiles := tiles_stretches (List.cons_ne_nil _ _) tiled_endlessWay
    rw [exists_pointTimes_iff (hmeasures _) htiles (by decide)] at h
    exact hbeyond (h.2 ⟨0, 3, 10 ^ 400⟩ List.mem_cons_self (by decide))
  · have htiles := tiles_stretches (List.cons_ne_nil _ _) tiled_haltedWay
    rw [exists_pointTimes_iff (hmeasures _) htiles (by decide)] at h
    exact hbeyond h.1

end Waypost
