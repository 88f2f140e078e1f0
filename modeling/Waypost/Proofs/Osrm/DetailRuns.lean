import Mathlib.Data.List.Chain
import Waypost.Proofs.Number
import Waypost.Proofs.Osrm.Content
import Waypost.Proofs.Tiling

/-!
# Details as maximal runs

The annotations of all legs stand one behind the other, and neighbouring segments with equal values
are one run. Legs leave no trace in this: a run goes on where the next leg begins with its value.

* `MaximalRuns` -- runs that lie end to end, lose no value and cannot be made longer;
* `OpenRun` -- the invariant of the scan: the run that is still open holds every value behind its
  first index;
* `maximalRuns_mergeFrom` -- **the scan leaves maximal runs**, whatever run is open;
* `Json.annotated`, `detailSource?` -- the values of a leg, and those from which a detail is read;
* `read_series` -- what is collected from all legs;
* `pathDetails_maximal` -- **the details of a path are the requested ones, each as maximal runs**.
-/

namespace Waypost

/-! ## 1. Maximal runs -/

/-- The indexes between which a run lies. -/
def DetailRun.interval (run : DetailRun) : Int × Int := (run.first, run.last)

/-- What the value of a run is worth. -/
def DetailRun.worth? (run : DetailRun) : Option Worth :=
  (Number.ofJson? run.value).bind Number.worth?

/-- Whether a run tells a value: it holds the value itself or one that is worth the same. -/
def DetailRun.Tells (run : DetailRun) (value : Number) : Prop :=
  run.value = value.toJson ∨ ∃ w, run.worth? = some w ∧ value.worth? = some w

/-- The maximal runs of some values from an index on. -/
structure MaximalRuns (values : List Number) (first : Nat) (runs : List DetailRun) : Prop where
  tiled : Tiles first (runs.map DetailRun.interval) values.length
  filled : ∀ run ∈ runs, run.first < run.last
  kept : ∀ run ∈ runs, ∃ i : Nat, run.first = i ∧ (values[i]?).map Number.toJson = some run.value
  lossless : ∀ run ∈ runs, ∀ i : Nat, run.first ≤ i → (i : Int) < run.last →
    ∃ value, values[i]? = some value ∧ run.Tells value
  maximal : runs.IsChain fun run next => ¬ ∃ w, run.worth? = some w ∧ next.worth? = some w

/-- A run of values as it stands in a path. -/
def ValueRun.detail (run : ValueRun) : DetailRun := ⟨run.first, run.stop, run.value.toJson⟩

theorem worth?_detail (run : ValueRun) : run.detail.worth? = run.value.worth? := by
  unfold ValueRun.detail DetailRun.worth?
  rw [Number.ofJson?_toJson, Option.bind_some]

/-- Where there are no values there are no runs. -/
theorem MaximalRuns.eq_nil {first : Nat} {runs : List DetailRun} {values : List Number}
    (h : MaximalRuns values first runs) (hnone : values.length ≤ first) : runs = [] := by
  cases runs with
  | nil => rfl
  | cons run rest =>
    have htiled := h.tiled
    rw [List.map_cons, tiles_cons] at htiled
    obtain ⟨hbegins, -, hrest⟩ := htiled
    have hfirst : run.first = first := hbegins
    have hend : run.last ≤ values.length := le_of_tiles hrest
    have hfilled := h.filled run List.mem_cons_self
    omega

/-! ## 2. The scan -/

/-- A run that is still open: every value behind its first index equals the one it began with. -/
structure OpenRun (values : List Number) (run : ValueRun) : Prop where
  begun : run.first < run.stop
  inside : run.stop ≤ values.length
  kept : values[run.first]? = some run.value
  holds : ∀ i, run.first ≤ i → i < run.stop →
    ∃ value, values[i]? = some value ∧ (value = run.value ∨ run.value.equal value = true)

section Scan

variable {values : List Number} {run : ValueRun}

/-- Every value begins a run. -/
theorem openRun_begun {i : Nat} {value : Number} (h : values[i]? = some value) :
    OpenRun values ⟨i, i + 1, value⟩ where
  begun := Nat.lt_succ_self i
  inside := (List.getElem?_eq_some_iff.mp h).1
  kept := h
  holds j hlow hhigh := by
    have hj : j = i := Nat.le_antisymm (Nat.le_of_lt_succ hhigh) hlow
    subst hj
    exact ⟨value, h, Or.inl rfl⟩

/-- An open run goes on over a value that equals its own. -/
theorem OpenRun.extended (h : OpenRun values run) {next : Number}
    (hnext : values[run.stop]? = some next) (hequal : run.value.equal next = true) :
    OpenRun values ⟨run.first, run.stop + 1, run.value⟩ where
  begun := Nat.lt_succ_of_lt h.begun
  inside := (List.getElem?_eq_some_iff.mp hnext).1
  kept := h.kept
  holds j hlow hhigh := by
    rcases Nat.lt_succ_iff_lt_or_eq.mp hhigh with hbefore | hlast
    · exact h.holds j hlow hbefore
    · subst hlast
      exact ⟨next, hnext, Or.inr hequal⟩

/-- An open run tells each of its values. -/
theorem OpenRun.tells (h : OpenRun values run) {i : Nat} (hlow : run.detail.first ≤ i)
    (hhigh : (i : Int) < run.detail.last) :
    ∃ value, values[i]? = some value ∧ run.detail.Tells value := by
  have hfirst : run.first ≤ i := Int.ofNat_le.mp hlow
  have hstop : i < run.stop := Int.ofNat_lt.mp hhigh
  obtain ⟨value, hvalue, hsame⟩ := h.holds i hfirst hstop
  refine ⟨value, hvalue, ?_⟩
  rcases hsame with rfl | hequal
  · exact Or.inl rfl
  · obtain ⟨w, hrun, hw⟩ := Number.equal_iff_worth.mp hequal
    refine Or.inr ⟨w, ?_, hw⟩
    rw [worth?_detail, hrun]

/-- **A run that is closed stands in front of the runs behind it**, the first of which has another
    value. -/
theorem maximalRuns_cons (h : OpenRun values run) {rest : List DetailRun}
    (hrest : MaximalRuns values run.stop rest)
    (hother : ∀ next ∈ rest.head?, ¬ ∃ w, run.value.worth? = some w ∧ next.worth? = some w) :
    MaximalRuns values run.first (run.detail :: rest) where
  tiled := by
    have hle : (run.first : Int) ≤ run.stop := Int.ofNat_le.mpr (Nat.le_of_lt h.begun)
    rw [List.map_cons]
    exact tiles_cons.mpr ⟨rfl, hle, hrest.tiled⟩
  filled := by
    have hfilled : run.detail.first < run.detail.last := Int.ofNat_lt.mpr h.begun
    exact List.forall_mem_cons.mpr ⟨hfilled, hrest.filled⟩
  kept := by
    refine List.forall_mem_cons.mpr ⟨⟨run.first, rfl, ?_⟩, hrest.kept⟩
    rw [h.kept]
    rfl
  lossless := by
    refine List.forall_mem_cons.mpr ⟨fun i hlow hhigh => ?_, hrest.lossless⟩
    exact h.tells hlow hhigh
  maximal := by
    refine List.isChain_cons.mpr ⟨fun next hnext => ?_, hrest.maximal⟩
    rw [worth?_detail]
    exact hother next hnext

/-- Behind the last value there are no runs. -/
theorem maximalRuns_nil (values : List Number) : MaximalRuns values values.length [] where
  tiled := rfl
  filled _ hrun := absurd hrun List.not_mem_nil
  kept _ hrun := absurd hrun List.not_mem_nil
  lossless _ hrun := absurd hrun List.not_mem_nil
  maximal := List.IsChain.nil

/-- The first run that the scan leaves has the value of the run that was open. -/
theorem head?_mergeFrom (first stop : Nat) (value : Number) (rest : List Number) :
    ∃ last, (mergeFrom first stop value rest).head? = some ⟨first, last, value⟩ := by
  induction rest generalizing stop with
  | nil => exact ⟨stop, rfl⟩
  | cons next rest ih =>
    unfold mergeFrom
    split
    · exact ih (stop + 1)
    · exact ⟨stop, rfl⟩

/-- **The scan leaves maximal runs.** The induction is on the values that are still to come; the run
    that is open is the invariant. -/
theorem maximalRuns_mergeFrom {rest : List Number} {first stop : Nat} {value : Number}
    (hopen : OpenRun values ⟨first, stop, value⟩) (hrest : values.drop stop = rest) :
    MaximalRuns values first ((mergeFrom first stop value rest).map ValueRun.detail) := by
  induction rest generalizing first stop value with
  | nil =>
    have hend : stop = values.length :=
      Nat.le_antisymm hopen.inside (List.drop_eq_nil_iff.mp hrest)
    subst hend
    exact maximalRuns_cons hopen (maximalRuns_nil values) fun next hnext => by cases hnext
  | cons next rest ih =>
    have hnext : values[stop]? = some next := by
      rw [← List.head?_drop, hrest, List.head?_cons]
    have hbehind : values.drop (stop + 1) = rest := by
      rw [← List.tail_drop, hrest, List.tail_cons]
    unfold mergeFrom
    split
    · rename_i hequal
      exact ih (hopen.extended hnext hequal) hbehind
    · rename_i hdiffers
      -- the scan goes on with the run that the other value begins
      refine maximalRuns_cons hopen (ih (openRun_begun hnext) hbehind) fun run hrun => ?_
      obtain ⟨last, hhead⟩ := head?_mergeFrom stop (stop + 1) next rest
      rw [List.head?_map, hhead] at hrun
      cases hrun
      rw [worth?_detail]
      exact fun hsame => hdiffers (Number.equal_iff_worth.mpr hsame)

/-- **The runs of some values are maximal.** -/
theorem maximalRuns_detailRuns (values : List Number) :
    MaximalRuns values 0 (detailRuns values) := by
  show MaximalRuns values 0 ((mergeRuns values).map ValueRun.detail)
  cases values with
  | nil => exact maximalRuns_nil []
  | cons value rest => exact maximalRuns_mergeFrom (openRun_begun rfl) rfl

end Scan

/-! ## 3. What details are read from -/

/-- The values that a leg gives under a key of its annotation. -/
def Json.annotated (key : String) (leg : Json) : List Json :=
  ((leg.member "annotation").member key).listed

/-- What a detail is read from: the key of the annotations, and how a value of it is rounded. -/
structure DetailSource where
  key : String
  round : Json → Except Fault Number

/-- What the detail of a name is read from. -/
def detailSource? (name : String) : Option DetailSource :=
  if name = "distance" then some ⟨"distance", roundDistance⟩
  else if name = "time" then some ⟨"duration", roundMillis⟩
  else if name = "average_speed" then some ⟨"speed", roundSpeed⟩
  else none

/-- What was gone through under a key of the annotation of a leg: its values, or texts. -/
def ReadUnder (key : String) (leg : Json) (part : List Json) : Prop :=
  (∀ s, .str s ∉ part) → part = leg.annotated key

/-- **What one leg adds**: its values under each of the three keys. -/
theorem addLeg_eq_ok {series next : AnnotationSeries} {leg : Json}
    (h : series.addLeg leg = .ok next) :
    ∃ distances durations speeds,
      next = ⟨series.distances ++ distances, series.durations ++ durations,
        series.speeds ++ speeds⟩ ∧
      ReadUnder "distance" leg distances ∧ ReadUnder "duration" leg durations ∧
      ReadUnder "speed" leg speeds := by
  unfold AnnotationSeries.addLeg at h
  rw [Json.members_bind_eq_ok] at h
  obtain ⟨members, rfl, h⟩ := h
  obtain ⟨found, hfound, h⟩ := bind_eq_ok.mp h
  obtain ⟨distances, hdistances, h⟩ := bind_eq_ok.mp h
  obtain ⟨durations, hdurations, h⟩ := bind_eq_ok.mp h
  obtain ⟨speeds, hspeeds, h⟩ := bind_eq_ok.mp h
  cases h
  have hread : ∀ {key part}, (found.getD key (.arr [])).items = .ok part →
      ReadUnder key (.obj members) part := by
    intro key part hpart hno
    rw [Json.items_eq_listed hpart hno, Json.listed_getD, ← Json.member_obj,
      Json.member_of_present hfound]
    rfl
  exact ⟨distances, durations, speeds, rfl, hread hdistances, hread hdurations, hread hspeeds⟩

/-- **What is collected from all legs**: where it holds no texts, the values of the legs one behind
    the other. -/
theorem read_series {get : AnnotationSeries → List Json} {key : String}
    (hstep : ∀ {series next leg}, AnnotationSeries.addLeg series leg = .ok next →
      ∃ part, get next = get series ++ part ∧ ReadUnder key leg part)
    {legs : List Json} {start last : AnnotationSeries}
    (h : legs.foldlM AnnotationSeries.addLeg start = .ok last) (hno : ∀ s, .str s ∉ get last) :
    get last = get start ++ legs.flatMap (Json.annotated key) := by
  induction legs generalizing start with
  | nil =>
    cases h
    rw [List.flatMap_nil, List.append_nil]
  | cons leg rest ih =>
    rw [List.foldlM_cons] at h
    obtain ⟨next, hnext, h⟩ := bind_eq_ok.mp h
    obtain ⟨part, hpart, hread⟩ := hstep hnext
    have hlast := ih h
    have hnopart : ∀ s, .str s ∉ part := by
      intro s hs
      refine hno s ?_
      rw [hlast, hpart]
      exact List.mem_append_left _ (List.mem_append_right _ hs)
    rw [hlast, hpart, hread hnopart, List.flatMap_cons, List.append_assoc]

/-- What is rounded holds no texts. -/
theorem no_text_of_rounded {source : DetailSource} {name : String}
    (hsource : detailSource? name = some source) {list : List Json} {values : List Number}
    (h : list.mapM source.round = .ok values) (s : String) : .str s ∉ list := by
  intro hs
  obtain ⟨value, hvalue⟩ := exists_mapM.mp ⟨values, h⟩ _ hs
  unfold detailSource? at hsource
  split at hsource
  · cases hsource
    cases hvalue
  · split at hsource
    · cases hsource
      cases hvalue
    · split at hsource
      · cases hsource
        cases hvalue
      · cases hsource

/-! ## 4. Details -/

/-- A list without repetitions has none. -/
theorem nodup_eraseDups (names : List String) : names.eraseDups.Nodup := by
  induction hlength : names.length using Nat.strong_induction_on generalizing names with
  | _ n ih =>
    cases names with
    | nil => exact List.nodup_nil
    | cons name rest =>
      have hshorter : (rest.filter fun other => !other == name).length < n := by
        rw [← hlength, List.length_cons]
        exact Nat.lt_succ_of_le (List.length_filter_le _ rest)
      rw [List.eraseDups_cons, List.nodup_cons]
      refine ⟨fun hname => ?_, ih _ hshorter _ rfl⟩
      rw [List.mem_eraseDups, List.mem_filter, beq_self_eq_true] at hname
      exact Bool.false_ne_true hname.2

/-- What is known under the names of the details. -/
theorem lookup_supportedDetails {α : Type} {distances times speeds values : α} {name : String}
    (h : (supportedDetails.zip [distances, times, speeds]).lookup name = some values) :
    name = "distance" ∧ values = distances ∨ name = "time" ∧ values = times ∨
      name = "average_speed" ∧ values = speeds := by
  have hknown : supportedDetails.zip [distances, times, speeds] =
      [("distance", distances), ("time", times), ("average_speed", speeds)] := rfl
  rw [hknown, List.lookup_cons] at h
  split at h
  · rename_i hname
    exact Or.inl ⟨beq_iff_eq.mp hname, (Option.some.inj h).symm⟩
  · rw [List.lookup_cons] at h
    split at h
    · rename_i hname
      exact Or.inr (Or.inl ⟨beq_iff_eq.mp hname, (Option.some.inj h).symm⟩)
    · rw [List.lookup_cons] at h
      split at h
      · rename_i hname
        exact Or.inr (Or.inr ⟨beq_iff_eq.mp hname, (Option.some.inj h).symm⟩)
      · cases h

/-- The entry of a detail: the maximal runs of the rounded values of all legs, one leg behind the
    other. -/
def DetailOf (legs : List Json) (entry : String × List DetailRun) : Prop :=
  ∃ source values, detailSource? entry.1 = some source ∧
    (legs.flatMap (Json.annotated source.key)).mapM source.round = .ok values ∧
    MaximalRuns values 0 entry.2 ∧ (values = [] → entry.2 = [])

/-- The entry of a detail whose values were collected from all legs. -/
theorem detailOf_detailRuns {legs : List Json} {name : String} {source : DetailSource}
    {list : List Json} {values : List Number} (hsource : detailSource? name = some source)
    (hlist : (∀ s, .str s ∉ list) → list = legs.flatMap (Json.annotated source.key))
    (hvalues : list.mapM source.round = .ok values) :
    DetailOf legs (name, detailRuns values) := by
  have hmaximal := maximalRuns_detailRuns values
  refine ⟨source, values, hsource, ?_, hmaximal, ?_⟩
  · rw [← hlist (no_text_of_rounded hsource hvalues)]
    exact hvalues
  · rintro rfl
    exact hmaximal.eq_nil (Nat.le_refl 0)

/-- The entry of a detail that is found among those collected from all legs. -/
theorem detailOf_collected {legs : List Json} {series : AnnotationSeries}
    {distances times speeds values : List Number} {name : String}
    (hseries : legs.foldlM AnnotationSeries.addLeg {} = .ok series)
    (hdistances : series.distances.mapM roundDistance = .ok distances)
    (htimes : series.durations.mapM roundMillis = .ok times)
    (hspeeds : series.speeds.mapM roundSpeed = .ok speeds)
    (hlookup : (supportedDetails.zip [distances, times, speeds]).lookup name = some values) :
    DetailOf legs (name, detailRuns values) := by
  rcases lookup_supportedDetails hlookup with ⟨rfl, rfl⟩ | ⟨rfl, rfl⟩ | ⟨rfl, rfl⟩
  · refine detailOf_detailRuns rfl (read_series (fun hadd => ?_) hseries) hdistances
    obtain ⟨part, _, _, rfl, hpart, -, -⟩ := addLeg_eq_ok hadd
    exact ⟨part, rfl, hpart⟩
  · refine detailOf_detailRuns rfl (read_series (fun hadd => ?_) hseries) htimes
    obtain ⟨_, part, _, rfl, -, hpart, -⟩ := addLeg_eq_ok hadd
    exact ⟨part, rfl, hpart⟩
  · refine detailOf_detailRuns rfl (read_series (fun hadd => ?_) hseries) hspeeds
    obtain ⟨_, _, part, rfl, -, -, hpart⟩ := addLeg_eq_ok hadd
    exact ⟨part, rfl, hpart⟩

/-- **The details of a path are the requested ones, each once, and each as the maximal runs of its
    rounded values over all legs.** -/
theorem pathDetails_maximal {legs : List Json} {names : List String}
    {details : List (String × List DetailRun)} (h : pathDetails (.arr legs) names = .ok details) :
    (details.map (·.1)).Nodup ∧ (∀ name, name ∈ details.map (·.1) ↔ name ∈ names) ∧
    ∀ entry ∈ details, DetailOf legs entry := by
  unfold pathDetails at h
  split at h
  · rename_i hnone
    obtain rfl := List.isEmpty_iff.mp hnone
    cases h
    exact ⟨List.nodup_nil, fun name => Iff.rfl, fun entry hentry => absurd hentry List.not_mem_nil⟩
  · obtain ⟨items, hitems, h⟩ := bind_eq_ok.mp h
    cases hitems
    obtain ⟨series, hseries, h⟩ := bind_eq_ok.mp h
    obtain ⟨distances, hdistances, h⟩ := bind_eq_ok.mp h
    obtain ⟨times, htimes, h⟩ := bind_eq_ok.mp h
    obtain ⟨speeds, hspeeds, h⟩ := bind_eq_ok.mp h
    have hentries : List.Forall₂ (fun name entry => entry.1 = name ∧ DetailOf legs entry)
        names.eraseDups details := by
      refine (forall₂_of_mapM h).imp fun name entry hentry => ?_
      split at hentry
      · rename_i values hlookup
        cases hentry
        exact ⟨rfl, detailOf_collected hseries hdistances htimes hspeeds hlookup⟩
      · cases hentry
    have hkeys : names.eraseDups = details.map (·.1) := by
      rw [← List.forall₂_eq_eq_eq, List.forall₂_map_right_iff]
      exact hentries.imp fun name entry hentry => hentry.1.symm
    rw [← hkeys]
    refine ⟨nodup_eraseDups names, fun name => List.mem_eraseDups, fun entry hentry => ?_⟩
    obtain ⟨name, -, -, hof⟩ := exists_mem_of_forall₂ hentries hentry
    exact hof

/-! ### A run over two legs -/

/-- Two legs, the second of which begins with the value with which the first ends. -/
def twoLegs : List Json :=
  [.obj [("annotation", .obj [("distance", .arr [.int 10, .float 10.0])])],
    .obj [("annotation", .obj [("distance",
      .arr [.int 10, .float (0.0 / 0.0), .float (0.0 / 0.0)])])]]

/-- A run goes on over the end of a leg and over the form of its numbers, and what is no number is
    a run of its own each time. -/
theorem pathDetails_maximal_twoLegs :
    ∃ details, pathDetails (.arr twoLegs) ["distance", "distance"] = .ok details ∧
      (details.map fun entry => (entry.1, entry.2.map DetailRun.interval)) =
        [("distance", [(0, 3), (3, 4), (4, 5)])] ∧
      ((details.map (·.1)).Nodup ∧
        (∀ name, name ∈ details.map (·.1) ↔ name ∈ ["distance", "distance"]) ∧
        ∀ entry ∈ details, DetailOf twoLegs entry) := by
  have hruns : ((pathDetails (.arr twoLegs) ["distance", "distance"]).toOption.any fun details =>
      (details.map fun entry => (entry.1, entry.2.map DetailRun.interval)) ==
        [("distance", [(0, 3), (3, 4), (4, 5)])]) = true := by decide +kernel
  obtain ⟨details, hdetails, hintervals⟩ := exists_ok_of_any hruns
  exact ⟨details, hdetails, beq_iff_eq.mp hintervals, pathDetails_maximal hdetails⟩

end Waypost
