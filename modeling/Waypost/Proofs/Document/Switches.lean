import Waypost.Proofs.Document.Lines

/-!
# The switches of a route document

A caller switches three parts of a route document on and off: the geometry of the paths, their
instructions, and their elevation.

* `membersWithout` -- members less those of some names;
* `DropsElevation` -- a line with elevations and the same line without them, encoded or plain;
* `Pathwise` -- two documents of an outcome that say the same about the answer as a whole, and whose
  path objects are related one by one;
* `pathJson_without_geometry`, `pathJson_without_instructions`, `pathJson_without_elevation` -- what
  each switch changes in the object of a path;
* `routeJson_switches` -- **a switch changes its own part of each path and nothing else**.
-/

namespace Waypost

/-! ## 1. What switches change -/

/-- Members less those of some names. -/
def membersWithout (names : List String) (members : Members) : Members :=
  members.filter (!names.contains ·.1)

/-- The names of the members about the geometry of a path. -/
def geometryNames : List String :=
  ["points_encoded", "points_encoded_multiplier", "bbox", "points", "snapped_waypoints"]

/-- The name of the member with the instructions of a path. -/
def instructionNames : List String := ["instructions"]

/-- The names of the members with the heights that a path climbs and falls. -/
def heightNames : List String := ["ascend", "descend"]

/-- A plain line with the given coordinates. -/
def plainLine (coordinates : List (List Json)) : Json :=
  .obj [("type", .str "LineString"), ("coordinates", .arr (coordinates.map .arr))]

/-- A line with elevations and the same line without them. Of a plain line the third number of each
    coordinate is dropped; an encoded line is read back in three dimensions, and the text of the
    other one is that of its rows less their third numbers. -/
inductive DropsElevation : Json → Json → Prop where
  | plain {coordinates : List (List Json)} (hlength : ∀ c ∈ coordinates, c.length = 3) :
    DropsElevation (plainLine coordinates) (plainLine (coordinates.map (·.take 2)))
  | encoded {high flat : String} {rows : List (List Int)} (hlength : ∀ row ∈ rows, row.length = 3)
    (hhigh : decodePolyline 3 high = some rows)
    (hflat : decodePolyline 2 flat = some (rows.map (·.take 2)))
    (hwritten : flat = String.ofList (encodeRows (rows.map (·.take 2)))) :
    DropsElevation (.str high) (.str flat)

/-- A member of the object of a path with elevation, and the same member without: where there are as
    many elevations as points, the points lose theirs, and nothing else changes. -/
def FlatMember (path : Path) (high flat : String × Json) : Prop :=
  flat.1 = high.1 ∧
    if high.1 = "points" ∧ path.elevations.length = path.points.length then
      DropsElevation high.2 flat.2
    else flat.2 = high.2

/-- The route document of an outcome with the given objects of its paths. -/
def documentOfPaths (info : ResponseInfo) (outcome : Outcome) (paths : List Members) : Json :=
  .obj [("hints", .obj outcome.debug), ("info", info.toJson), ("paths", .arr (paths.map .obj))]

/-- Two documents of an outcome, written with two sets of options: both say the same about the
    answer as a whole and have one object for each path, in order, and the two objects of each path
    are related. -/
def Pathwise (info : ResponseInfo) (outcome : Outcome) (first second : OutputOptions)
    (R : Path → Members → Members → Prop) (document other : Json) : Prop :=
  ∃ pairs : List (Members × Members),
    document = documentOfPaths info outcome (pairs.map Prod.fst) ∧
    other = documentOfPaths info outcome (pairs.map Prod.snd) ∧
    List.Forall₂ (fun path pair => pathJson first path = .ok (.obj pair.1) ∧
      pathJson second path = .ok (.obj pair.2) ∧ R path pair.1 pair.2) outcome.paths pairs

/-! ## 2. Members by name -/

theorem membersWithout_append (names : List String) (first second : Members) :
    membersWithout names (first ++ second) =
      membersWithout names first ++ membersWithout names second :=
  List.filter_append ..

/-- Members whose names are other ones all stay. -/
theorem membersWithout_of_apart {own names : List String} {members : Members}
    (hown : ∀ m ∈ members, m.1 ∈ own) (hapart : ∀ name ∈ own, name ∉ names) :
    membersWithout names members = members := by
  unfold membersWithout
  rw [List.filter_eq_self]
  intro m hm
  simpa using hapart m.1 (hown m hm)

/-- Of members with these names none stays. -/
theorem membersWithout_of_among {names : List String} {members : Members}
    (h : ∀ m ∈ members, m.1 ∈ names) : membersWithout names members = [] := by
  unfold membersWithout
  rw [List.filter_eq_nil_iff]
  intro m hm
  simpa using h m hm

/-- The names of the members that every object of a path begins with. -/
def plainNames : List String := ["distance", "weight", "time", "transfers"]

/-- The names of the members that stand in every object behind the instructions. -/
def flatNames : List String := ["legs", "details"]

/-- The members that stand in every object behind the instructions. -/
def Path.flatMembers (path : Path) : Members :=
  [("legs", .arr []), ("details", detailsJson path.details)]

/-- The members with the heights that a path climbs and falls, if they are shown. -/
def Path.heightMembers (path : Path) (shown : Bool) : Members :=
  if shown then [("ascend", .float path.ascend), ("descend", .float path.descend)] else []

/-- Members have their names among some when the list of their names is that. -/
theorem named_of_map {names : List String} {members : Members}
    (h : members.map Prod.fst = names) : ∀ m ∈ members, m.1 ∈ names := by
  intro m hm
  rw [← h]
  exact List.mem_map_of_mem hm

theorem named_plainMembers (path : Path) : ∀ m ∈ path.plainMembers, m.1 ∈ plainNames :=
  named_of_map rfl

theorem named_flatMembers (path : Path) : ∀ m ∈ path.flatMembers, m.1 ∈ flatNames :=
  named_of_map rfl

theorem named_heightMembers (path : Path) (shown : Bool) :
    ∀ m ∈ path.heightMembers shown, m.1 ∈ heightNames := by
  cases shown with
  | true => exact named_of_map rfl
  | false => exact fun m hm => absurd hm List.not_mem_nil

theorem named_instructionMembers {path : Path} {members : Members}
    (h : instructionMembers path = .ok members) : ∀ m ∈ members, m.1 ∈ instructionNames := by
  unfold instructionMembers at h
  split at h
  · obtain ⟨items, -, h⟩ := bind_eq_ok.mp h
    cases h
    exact named_of_map rfl
  · cases h
    exact fun m hm => absurd hm List.not_mem_nil

/-! ## 3. The object of a path -/

theorem named_formMembers (options : OutputOptions) :
    ∀ m ∈ options.formMembers, m.1 ∈ ["points_encoded", "points_encoded_multiplier"] := by
  unfold OutputOptions.formMembers
  cases options.pointsEncoded <;> simp

theorem named_boxMembers (path : Path) : ∀ m ∈ path.boxMembers, m.1 ∈ ["bbox"] := by
  unfold Path.boxMembers
  cases path.points.isEmpty <;> simp

theorem named_snappedMembers {options : OutputOptions} {path : Path} {snapped : Members}
    (h : snappedMembers options path = .ok snapped) :
    ∀ m ∈ snapped, m.1 ∈ ["snapped_waypoints"] := by
  unfold snappedMembers at h
  split at h
  · cases h
    exact fun m hm => absurd hm List.not_mem_nil
  · obtain ⟨line, -, rfl⟩ := map_eq_ok.mp h
    exact named_of_map rfl

theorem named_geometryMembers {options : OutputOptions} {path : Path} {geometry : Members}
    (h : geometryMembers options path = .ok geometry) : ∀ m ∈ geometry, m.1 ∈ geometryNames := by
  rw [geometryMembers_eq] at h
  obtain ⟨line, -, h⟩ := bind_eq_ok.mp h
  obtain ⟨snapped, hsnapped, h⟩ := bind_eq_ok.mp h
  cases h
  have hform : ∀ name ∈ ["points_encoded", "points_encoded_multiplier"], name ∈ geometryNames := by
    decide
  intro m hm
  simp only [List.mem_append, List.mem_singleton] at hm
  rcases hm with ((hm | hm) | rfl) | hm
  · exact hform m.1 (named_formMembers options m hm)
  · rw [List.mem_singleton.mp (named_boxMembers path m hm)]
    decide
  · show "points" ∈ geometryNames
    decide
  · rw [List.mem_singleton.mp (named_snappedMembers hsnapped m hm)]
    decide

theorem named_shownGeometry {options : OutputOptions} {path : Path} {geometry : Members}
    (h : path.shownGeometry options = .ok geometry) : ∀ m ∈ geometry, m.1 ∈ geometryNames := by
  unfold Path.shownGeometry at h
  split at h
  · exact named_geometryMembers h
  · cases h
    exact fun m hm => absurd hm List.not_mem_nil

theorem named_shownInstructions {options : OutputOptions} {path : Path} {instructions : Members}
    (h : path.shownInstructions options = .ok instructions) :
    ∀ m ∈ instructions, m.1 ∈ instructionNames := by
  unfold Path.shownInstructions at h
  split at h
  · exact named_instructionMembers h
  · cases h
    exact fun m hm => absurd hm List.not_mem_nil

/-- What stands in every object of a path stays, unless it is named itself. -/
theorem membersWithout_parts {names : List String} (hplain : ∀ name ∈ plainNames, name ∉ names)
    (hflat : ∀ name ∈ flatNames, name ∉ names) (path : Path) (options : OutputOptions)
    (geometry instructions : Members) :
    membersWithout names
        (path.plainMembers ++ geometry ++ instructions ++ path.closingMembers options) =
      path.plainMembers ++ membersWithout names geometry ++ membersWithout names instructions
        ++ (path.flatMembers ++ membersWithout names (path.heightMembers options.elevation)) := by
  have hclosing : path.closingMembers options =
      path.flatMembers ++ path.heightMembers options.elevation := rfl
  simp only [hclosing, membersWithout_append,
    membersWithout_of_apart (named_plainMembers path) hplain,
    membersWithout_of_apart (named_flatMembers path) hflat]

/-- **Without its geometry** the object of a path has all its other members. -/
theorem pathJson_without_geometry {options : OutputOptions} {path : Path} {json : Json}
    (h : pathJson { options with calcPoints := true } path = .ok json) :
    ∃ full, json = .obj full ∧ pathJson { options with calcPoints := false } path =
      .ok (.obj (membersWithout geometryNames full)) := by
  rw [pathJson_eq_parts] at h
  obtain ⟨geometry, hgeometry, h⟩ := bind_eq_ok.mp h
  obtain ⟨instructions, htold, h⟩ := bind_eq_ok.mp h
  cases h
  have hnone : path.shownGeometry { options with calcPoints := false } = .ok [] := rfl
  have hsame : path.shownInstructions { options with calcPoints := false } = .ok instructions :=
    htold
  have hgone := membersWithout_of_among (named_shownGeometry hgeometry)
  have hstays := membersWithout_of_apart (named_shownInstructions htold)
    (by decide : ∀ name ∈ instructionNames, name ∉ geometryNames)
  have hheights := membersWithout_of_apart (named_heightMembers path options.elevation)
    (by decide : ∀ name ∈ heightNames, name ∉ geometryNames)
  refine ⟨_, rfl, ?_⟩
  rw [pathJson_eq_parts, hnone, ok_bind, hsame, ok_bind,
    membersWithout_parts (by decide) (by decide), hgone, hstays, hheights]
  rfl

/-- **Without its instructions** the object of a path has all its other members. -/
theorem pathJson_without_instructions {options : OutputOptions} {path : Path} {json : Json}
    (h : pathJson { options with instructions := true } path = .ok json) :
    ∃ full, json = .obj full ∧ pathJson { options with instructions := false } path =
      .ok (.obj (membersWithout instructionNames full)) := by
  rw [pathJson_eq_parts] at h
  obtain ⟨geometry, hgeometry, h⟩ := bind_eq_ok.mp h
  obtain ⟨instructions, htold, h⟩ := bind_eq_ok.mp h
  cases h
  have hsame : path.shownGeometry { options with instructions := false } = .ok geometry :=
    hgeometry
  have hnone : path.shownInstructions { options with instructions := false } = .ok [] := rfl
  have hgone := membersWithout_of_among (named_shownInstructions htold)
  have hstays := membersWithout_of_apart (named_shownGeometry hgeometry)
    (by decide : ∀ name ∈ geometryNames, name ∉ instructionNames)
  have hheights := membersWithout_of_apart (named_heightMembers path options.elevation)
    (by decide : ∀ name ∈ heightNames, name ∉ instructionNames)
  refine ⟨_, rfl, ?_⟩
  rw [pathJson_eq_parts, hsame, ok_bind, hnone, ok_bind,
    membersWithout_parts (by decide) (by decide), hgone, hstays, hheights]
  rfl

/-! ## 4. Lines without elevation -/

/-- The whole numbers of a point without its elevation. -/
theorem quantizePoint_flat {multiplier : Float} {point : Point} {height : Option Float}
    {row : List Int} (h : quantizePoint multiplier point height = .ok row) :
    quantizePoint multiplier point none = .ok (row.take 2) := by
  unfold quantizePoint at h ⊢
  obtain ⟨lat, hlat, h⟩ := bind_eq_ok.mp h
  obtain ⟨lon, hlon, h⟩ := bind_eq_ok.mp h
  rw [hlat, ok_bind, hlon, ok_bind]
  cases height with
  | none =>
    cases h
    rfl
  | some e =>
    obtain ⟨whole, -, h⟩ := bind_eq_ok.mp h
    cases h
    rfl

section Flat

variable {points : List Point} {heights : List Float} (hlength : heights.length = points.length)
include hlength

theorem withElevations_some :
    withElevations points (some heights) = points.zip (heights.map some) := by
  unfold withElevations
  exact if_pos hlength

/-- The whole numbers of a path without its elevations. -/
theorem quantize_flat {multiplier : Float} {rows : List (List Int)}
    (h : quantize points (some heights) multiplier = .ok rows) :
    quantize points none multiplier = .ok (rows.map (·.take 2)) := by
  have hpoints : (points.zip (heights.map some)).map Prod.fst = points :=
    List.map_fst_zip (by rw [List.length_map, hlength])
  have hrows := forall₂_of_mapM h
  rw [withElevations_some hlength] at hrows
  refine mapM_of_forall₂ ?_
  show List.Forall₂ _ (points.map (·, none)) _
  rw [← hpoints, List.map_map, List.forall₂_map_left_iff, List.forall₂_map_right_iff]
  exact hrows.imp fun pair row hrow => quantizePoint_flat hrow

/-- **A line with elevations and the same line without them.** -/
theorem dropsElevation_of_pointsJson {options : OutputOptions} {high : Json}
    (h : pointsJson options points (some heights) = .ok high) :
    ∃ flat, pointsJson options points none = .ok flat ∧ DropsElevation high flat := by
  have hhigh : ∀ list, some heights = some list → list.length = points.length := by
    rintro _ ⟨⟩
    exact hlength
  cases hform : options.pointsEncoded with
  | true =>
    have hencoded : ∀ elevations, pointsJson options points elevations =
        .str <$> encodePolyline points elevations options.multiplier := by
      intro elevations
      unfold pointsJson
      rw [hform, if_pos rfl]
    rw [hencoded] at h ⊢
    obtain ⟨text, htext, rfl⟩ := map_eq_ok.mp h
    have hmultiplier : ¬ options.multiplier < 1.0 := by
      intro hlt
      rw [encodePolyline_of_lt hlt] at htext
      cases htext
    obtain ⟨rows, hrows, rfl⟩ := encodePolyline_eq_ok htext
    have hflat := quantize_flat hlength hrows
    have hwritten : encodePolyline points none options.multiplier =
        .ok (String.ofList (encodeRows (rows.map (·.take 2)))) := by
      unfold encodePolyline
      rw [if_neg hmultiplier, hflat]
      rfl
    have hread := decodePolyline_encodeRows (quantizedPath_of_quantize hrows)
    have hthree := length_of_quantizedPath (quantizedPath_of_quantize hrows)
    rw [polylineDimension_eq hhigh] at hread hthree
    rw [hwritten]
    exact ⟨_, rfl, .encoded hthree hread
      (decodePolyline_encodeRows (quantizedPath_of_quantize hflat)) rfl⟩
  | false =>
    have hplain : ∀ elevations, (∀ list, elevations = some list → list.length = points.length) →
        pointsJson options points elevations = .ok (.obj [("type", .str "LineString"),
          ("coordinates", .arr (shownCoordinates points elevations))]) := by
      intro elevations helevations
      rw [← map_coordinateJson helevations]
      unfold pointsJson
      rw [hform]
      rfl
    rw [hplain _ hhigh] at h
    cases h
    have hpoints : (points.zip heights).map Prod.fst = points := List.map_fst_zip (by omega)
    have hcoordinates : shownCoordinates points (some heights) =
        ((points.zip heights).map fun pair =>
          [pair.1.lon.toJson, pair.1.lat.toJson, .float pair.2]).map .arr := by
      unfold shownCoordinates
      rw [List.map_map, List.zip_eq_zipWith, List.map_zipWith]
      rfl
    have hflat : shownCoordinates points none =
        (((points.zip heights).map fun pair =>
          [pair.1.lon.toJson, pair.1.lat.toJson, .float pair.2]).map (·.take 2)).map .arr := by
      unfold shownCoordinates
      conv => lhs; rw [← hpoints]
      rw [List.map_map, List.map_map, List.map_map]
      rfl
    refine ⟨_, hplain none nofun, ?_⟩
    rw [hcoordinates, hflat]
    refine .plain fun c hc => ?_
    obtain ⟨pair, -, rfl⟩ := List.mem_map.mp hc
    rfl

end Flat

/-- The points of a path with elevation and without: they lose their elevations, if there are as
    many as points, and else stay as they are. -/
theorem flatMember_of_pointsJson {options : OutputOptions} {path : Path} {high : Json}
    (h : pointsJson options path.points (path.shownHeights { options with elevation := true }) =
      .ok high) :
    ∃ flat, pointsJson options path.points none = .ok flat ∧
      FlatMember path ("points", high) ("points", flat) := by
  by_cases hlength : path.elevations.length = path.points.length
  · have hsome : pointsJson options path.points (some path.elevations) = .ok high := by
      by_cases hempty : path.elevations = []
      · -- no points, so that it does not matter whether elevations are shown
        have hpoints : path.points = [] := by
          rw [hempty] at hlength
          exact List.length_eq_zero_iff.mp hlength.symm
        have hnone : path.shownHeights { options with elevation := true } = none :=
          Option.not_isSome_iff_eq_none.mp fun h =>
            ((isSome_shownHeights path _).mp h).2.1 hempty
        rw [hnone, hpoints] at h
        rw [hempty, hpoints]
        exact h
      · have hshown : path.shownHeights { options with elevation := true } =
            some path.elevations := by
          simp [Path.shownHeights, Path.hasElevation, hempty, hlength]
        rw [← hshown]
        exact h
    obtain ⟨flat, hflat, hdrops⟩ := dropsElevation_of_pointsJson hlength hsome
    refine ⟨flat, hflat, rfl, ?_⟩
    rw [if_pos ⟨rfl, hlength⟩]
    exact hdrops
  · have hnone : path.shownHeights { options with elevation := true } = none :=
      Option.not_isSome_iff_eq_none.mp fun h => hlength ((isSome_shownHeights path _).mp h).2.2
    rw [hnone] at h
    refine ⟨high, h, rfl, ?_⟩
    rw [if_neg fun hpoints => hlength hpoints.2]

/-- Members that are not about the points stay as they are. -/
theorem flatMember_of_apart {path : Path} {own : List String} {members : Members}
    (hown : ∀ m ∈ members, m.1 ∈ own) (hapart : "points" ∉ own) :
    List.Forall₂ (FlatMember path) members members := by
  rw [List.forall₂_same]
  intro m hm
  have hname : m.1 ≠ "points" := fun h => hapart (h ▸ hown m hm)
  exact ⟨rfl, by rw [if_neg fun hpoints => hname hpoints.1]⟩

/-- The geometry of a path with elevation and without. -/
theorem flat_shownGeometry {options : OutputOptions} {path : Path} {geometry : Members}
    (h : path.shownGeometry { options with elevation := true } = .ok geometry) :
    ∃ flat, path.shownGeometry { options with elevation := false } = .ok flat ∧
      List.Forall₂ (FlatMember path) geometry flat := by
  unfold Path.shownGeometry at h ⊢
  dsimp only at h ⊢
  split at h
  · rename_i hcalc
    rw [geometryMembers_eq] at h
    obtain ⟨high, hhigh, h⟩ := bind_eq_ok.mp h
    obtain ⟨snapped, hsnapped, h⟩ := bind_eq_ok.mp h
    cases h
    obtain ⟨flat, hflat, hmember⟩ := flatMember_of_pointsJson hhigh
    have hline : pointsJson { options with elevation := false } path.points
        (path.shownHeights { options with elevation := false }) = .ok flat := hflat
    have hmoved : snappedMembers { options with elevation := false } path = .ok snapped := hsnapped
    rw [if_pos hcalc, geometryMembers_eq, hline, ok_bind, hmoved, ok_bind]
    have hform := @flatMember_of_apart path _ _ (named_formMembers options) (by decide)
    have hbox := @flatMember_of_apart path _ _ (named_boxMembers path) (by decide)
    have hsame := @flatMember_of_apart path _ _ (named_snappedMembers hsnapped) (by decide)
    refine ⟨_, rfl, ?_⟩
    exact List.rel_append (List.rel_append (List.rel_append hform hbox) (.cons hmember .nil)) hsame
  · rename_i hcalc
    cases h
    rw [if_neg hcalc]
    exact ⟨[], rfl, .nil⟩

/-- **Without elevation** the object of a path has all its members but those about heights; its
    points lose their elevations, if there are as many as points, and nothing else changes. -/
theorem pathJson_without_elevation {options : OutputOptions} {path : Path} {json : Json}
    (h : pathJson { options with elevation := true } path = .ok json) :
    ∃ full bare, json = .obj full ∧
      pathJson { options with elevation := false } path = .ok (.obj bare) ∧
      List.Forall₂ (FlatMember path) (membersWithout heightNames full) bare := by
  rw [pathJson_eq_parts] at h
  obtain ⟨geometry, hgeometry, h⟩ := bind_eq_ok.mp h
  obtain ⟨instructions, htold, h⟩ := bind_eq_ok.mp h
  cases h
  obtain ⟨flat, hflat, hmembers⟩ := flat_shownGeometry hgeometry
  have hsame : path.shownInstructions { options with elevation := false } = .ok instructions :=
    htold
  have hstays := membersWithout_of_apart (named_shownGeometry hgeometry)
    (by decide : ∀ name ∈ geometryNames, name ∉ heightNames)
  have hinstructions := membersWithout_of_apart (named_shownInstructions htold)
    (by decide : ∀ name ∈ instructionNames, name ∉ heightNames)
  have hgone := membersWithout_of_among (named_heightMembers path true)
  refine ⟨_, path.plainMembers ++ flat ++ instructions ++ (path.flatMembers ++ []), rfl, ?_, ?_⟩
  · rw [pathJson_eq_parts, hflat, ok_bind, hsame, ok_bind]
    rfl
  · rw [membersWithout_parts (by decide) (by decide), hstays, hinstructions, hgone, List.append_nil]
    refine List.rel_append (List.rel_append (List.rel_append ?_ hmembers) ?_) ?_
    · exact flatMember_of_apart (named_plainMembers path) (by decide)
    · exact flatMember_of_apart (named_shownInstructions htold) (by decide)
    · exact flatMember_of_apart (named_flatMembers path) (by decide)

/-! ## 5. The document of an outcome -/

/-- What changes in the object of each path changes in the document of an outcome, path by path. -/
theorem pathwise_of_paths {first second : OutputOptions} {R : Path → Members → Members → Prop}
    (hpath : ∀ path json, pathJson first path = .ok json →
      ∃ full bare, json = .obj full ∧ pathJson second path = .ok (.obj bare) ∧ R path full bare)
    {info : ResponseInfo} {outcome : Outcome} {document : Json}
    (h : routeJson first info outcome = .ok document) :
    ∃ other, routeJson second info outcome = .ok other ∧
      Pathwise info outcome first second R document other := by
  unfold routeJson at h
  obtain ⟨objects, hobjects, h⟩ := bind_eq_ok.mp h
  cases h
  have hpairs : ∀ path ∈ outcome.paths, ∃ pair : Members × Members,
      pathJson first path = .ok (.obj pair.1) ∧ pathJson second path = .ok (.obj pair.2) ∧
        R path pair.1 pair.2 := by
    intro path hmem
    obtain ⟨json, hjson⟩ := exists_mapM.mp ⟨objects, hobjects⟩ path hmem
    obtain ⟨full, bare, rfl, hbare, hR⟩ := hpath path json hjson
    exact ⟨(full, bare), hjson, hbare, hR⟩
  obtain ⟨pairs, hall⟩ := exists_forall₂ hpairs
  have hfull : outcome.paths.mapM (pathJson first) =
      .ok ((pairs.map Prod.fst).map Json.obj) := by
    refine mapM_of_forall₂ ?_
    rw [List.map_map, List.forall₂_map_right_iff]
    exact hall.imp fun path pair hpair => hpair.1
  have hbare : outcome.paths.mapM (pathJson second) =
      .ok ((pairs.map Prod.snd).map Json.obj) := by
    refine mapM_of_forall₂ ?_
    rw [List.map_map, List.forall₂_map_right_iff]
    exact hall.imp fun path pair hpair => hpair.2.1
  rw [hobjects] at hfull
  cases hfull
  refine ⟨documentOfPaths info outcome (pairs.map Prod.snd), ?_, pairs, rfl, rfl, hall⟩
  unfold routeJson
  rw [hbare]
  rfl

/-- **A switch changes its own part of each path and nothing else.** Whatever the other options are,
    when the document with a switch on can be written, so can that with the switch off. Both say the
    same about the answer as a whole and have one object for each path, in order. The object without
    geometry is the one with it less the members about geometry, that without instructions the one
    with them less their member, and that without elevation the one with it less the members about
    heights, where the points lose their elevations, if there are as many as points. -/
theorem routeJson_switches (options : OutputOptions) (info : ResponseInfo) (outcome : Outcome) :
    (∀ document, routeJson { options with calcPoints := true } info outcome = .ok document →
      ∃ other, routeJson { options with calcPoints := false } info outcome = .ok other ∧
        Pathwise info outcome { options with calcPoints := true }
          { options with calcPoints := false }
          (fun _ full bare => bare = membersWithout geometryNames full) document other) ∧
    (∀ document, routeJson { options with instructions := true } info outcome = .ok document →
      ∃ other, routeJson { options with instructions := false } info outcome = .ok other ∧
        Pathwise info outcome { options with instructions := true }
          { options with instructions := false }
          (fun _ full bare => bare = membersWithout instructionNames full) document other) ∧
    ∀ document, routeJson { options with elevation := true } info outcome = .ok document →
      ∃ other, routeJson { options with elevation := false } info outcome = .ok other ∧
        Pathwise info outcome { options with elevation := true } { options with elevation := false }
          (fun path full bare => List.Forall₂ (FlatMember path) (membersWithout heightNames full)
            bare) document other := by
  refine ⟨fun document => ?_, fun document => ?_, fun document => ?_⟩
  · refine pathwise_of_paths fun path json hjson => ?_
    obtain ⟨full, rfl, hbare⟩ := pathJson_without_geometry hjson
    exact ⟨full, _, rfl, hbare, rfl⟩
  · refine pathwise_of_paths fun path json hjson => ?_
    obtain ⟨full, rfl, hbare⟩ := pathJson_without_instructions hjson
    exact ⟨full, _, rfl, hbare, rfl⟩
  · refine pathwise_of_paths fun path json hjson => ?_
    exact pathJson_without_elevation hjson

/-- An outcome with two paths: one down from a pass with a turn, and one without a geometry. -/
def passOutcome : Outcome where
  paths :=
    [{ passWay with
        instructions := some [⟨2, "turn right", 4200.0, 3600000, 0, 1, .str "pass", some (.int 90)⟩]
        ascend := 0.0, descend := 2340.625 },
      { distance := 5100.25, time := 4000000, weight := 7.0, points := [] }]

theorem routeJson_switches_passOutcome :
    (∃ document other, routeJson { calcPoints := true } {} passOutcome = .ok document ∧
      routeJson { calcPoints := false } {} passOutcome = .ok other ∧
      Pathwise {} passOutcome { calcPoints := true } { calcPoints := false }
        (fun _ full bare => bare = membersWithout geometryNames full) document other) ∧
    (∃ document other, routeJson { instructions := true } {} passOutcome = .ok document ∧
      routeJson { instructions := false } {} passOutcome = .ok other ∧
      Pathwise {} passOutcome { instructions := true } { instructions := false }
        (fun _ full bare => bare = membersWithout instructionNames full) document other) ∧
    ∃ document other, routeJson { elevation := true } {} passOutcome = .ok document ∧
      routeJson { elevation := false } {} passOutcome = .ok other ∧
      Pathwise {} passOutcome { elevation := true } { elevation := false }
        (fun path full bare => List.Forall₂ (FlatMember path) (membersWithout heightNames full)
          bare) document other := by
  have hgeometry : ∃ document, routeJson { calcPoints := true } {} passOutcome = .ok document :=
    isSome_toOption.mp (by decide +kernel)
  have htold : ∃ document, routeJson { instructions := true } {} passOutcome = .ok document :=
    isSome_toOption.mp (by decide +kernel)
  have hheights : ∃ document, routeJson { elevation := true } {} passOutcome = .ok document :=
    isSome_toOption.mp (by decide +kernel)
  obtain ⟨document, hdocument⟩ := hgeometry
  obtain ⟨route, hroute⟩ := htold
  obtain ⟨high, hhigh⟩ := hheights
  obtain ⟨ofGeometry, ofInstructions, ofElevation⟩ := routeJson_switches {} {} passOutcome
  obtain ⟨other, hother, hpaths⟩ := ofGeometry document hdocument
  obtain ⟨short, hshort, hways⟩ := ofInstructions route hroute
  obtain ⟨flat, hflat, hlines⟩ := ofElevation high hhigh
  exact ⟨⟨document, other, hdocument, hother, hpaths⟩, ⟨route, short, hroute, hshort, hways⟩,
    ⟨high, flat, hhigh, hflat, hlines⟩⟩

end Waypost
