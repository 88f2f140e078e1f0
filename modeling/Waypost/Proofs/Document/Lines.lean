import Waypost.Proofs.Document.Printable
import Waypost.Proofs.Geo.Polyline

/-!
# One line, encoded and plain

A route document shows the line of a path either as one encoded text or as a list of coordinates.
The two are written by different means: the text has the latitude first and holds whole numbers, the
list has the longitude first and holds the numbers themselves.

* `shownCoordinates` -- the coordinates of a plain line;
* `Quantizes` -- the whole numbers that stand for one coordinate of a plain line;
* `SameLine` -- an encoded text and a plain line that show the same points;
* `sameLine_of_pointsJson` -- one line written both ways;
* `lineMembers`, `otherMembers` -- the members of a path object that have to do with lines, and all
  others;
* `pathJson_eq_parts`, `geometryMembers_eq` -- the members of a path and of its geometry, in order;
* `pathJson_encoded_plain` -- **the object of a path shows the same lines both ways**, and all its
  other members are the same.
-/

namespace Waypost

open Decimal

/-! ## 1. Two ways to show a line -/

/-- The coordinates of a plain line: one for each point, in order, with the longitude first and the
    elevation, if there is one, last. -/
def shownCoordinates (points : List Point) : Option (List Float) → List Json
  | none => points.map fun p => .arr [p.lon.toJson, p.lat.toJson]
  | some heights =>
    List.zipWith (fun p height => .arr [p.lon.toJson, p.lat.toJson, .float height]) points heights

/-- The whole numbers that stand for one coordinate of a plain line: latitude, then longitude, each
    scaled by the multiplier, then the elevation in hundredths. -/
inductive Quantizes (multiplier : Float) : Json → List Int → Prop where
  | flat {lon lat : Number} {longitude latitude : Int}
    (hlat : RoundsTo (lat.toFloat * multiplier) latitude)
    (hlon : RoundsTo (lon.toFloat * multiplier) longitude) :
    Quantizes multiplier (.arr [lon.toJson, lat.toJson]) [latitude, longitude]
  | high {lon lat : Number} {height : Float} {longitude latitude elevation : Int}
    (hlat : RoundsTo (lat.toFloat * multiplier) latitude)
    (hlon : RoundsTo (lon.toFloat * multiplier) longitude)
    (hheight : RoundsTo (height * 100.0) elevation) :
    Quantizes multiplier (.arr [lon.toJson, lat.toJson, .float height])
      [latitude, longitude, elevation]

/-- An encoded text and a plain line that show the same points: the text is read back, in two
    dimensions or in three, as the whole numbers of the coordinates of the line. -/
def SameLine (multiplier : Float) (points : List Point) (heights : Option (List Float))
    (encoded plain : Json) : Prop :=
  ∃ text rows, encoded = .str text ∧
    plain = .obj [("type", .str "LineString"),
      ("coordinates", .arr (shownCoordinates points heights))] ∧
    (shownCoordinates points heights).length = points.length ∧
    decodePolyline (if heights.isSome then 3 else 2) text = some rows ∧
    List.Forall₂ (Quantizes multiplier) (shownCoordinates points heights) rows

/-! ## 2. One line -/

theorem quantizes_of_quantizePoint {multiplier : Float} {point : Point} {height : Option Float}
    {row : List Int} (h : quantizePoint multiplier point height = .ok row) :
    Quantizes multiplier (coordinateJson point height) row := by
  have hq := quantizedPoint_of_quantizePoint h
  cases height with
  | none =>
    obtain ⟨lat, lon, hlat, hlon, rfl⟩ := hq
    exact .flat hlat hlon
  | some e =>
    obtain ⟨lat, lon, elevation, hlat, hlon, helevation, rfl⟩ := hq
    exact .high hlat hlon helevation

section Line

variable {points : List Point} {heights : Option (List Float)}
  (hheights : ∀ list, heights = some list → list.length = points.length)
include hheights

theorem elevationsOf_eq : elevationsOf points heights = heights := by
  cases heights with
  | none => rfl
  | some list =>
    unfold elevationsOf
    rw [Option.filter_some, if_pos (decide_eq_true (hheights list rfl))]

theorem polylineDimension_eq :
    polylineDimension points heights = if heights.isSome then 3 else 2 := by
  unfold polylineDimension
  rw [elevationsOf_eq hheights]

/-- The coordinates that are written are those that are shown. -/
theorem map_coordinateJson :
    (withElevations points heights).map (fun (p, e) => coordinateJson p e) =
      shownCoordinates points heights := by
  rw [withElevations_eq, elevationsOf_eq hheights]
  cases heights with
  | none =>
    dsimp only [shownCoordinates]
    rw [List.map_map]
    rfl
  | some list =>
    dsimp only [shownCoordinates]
    rw [List.zip_map_right, List.map_map, List.zip_eq_zipWith, List.map_zipWith]
    rfl

theorem length_shownCoordinates : (shownCoordinates points heights).length = points.length := by
  rw [← map_coordinateJson hheights, List.length_map, length_withElevations]

/-- The rows of a line are the whole numbers of the coordinates that are shown. -/
theorem quantizes_of_quantize {multiplier : Float} {rows : List (List Int)}
    (h : quantize points heights multiplier = .ok rows) :
    List.Forall₂ (Quantizes multiplier) (shownCoordinates points heights) rows := by
  have hrows := forall₂_of_mapM h
  rw [← map_coordinateJson hheights, List.forall₂_map_left_iff]
  exact hrows.imp fun pair row hrow => quantizes_of_quantizePoint hrow

/-- **A line that is written both ways shows the same points.** -/
theorem sameLine_of_pointsJson {options : OutputOptions} {encoded plain : Json}
    (hencoded : pointsJson { options with pointsEncoded := true } points heights = .ok encoded)
    (hplain : pointsJson { options with pointsEncoded := false } points heights = .ok plain) :
    SameLine options.multiplier points heights encoded plain := by
  obtain ⟨text, htext, rfl⟩ := map_eq_ok.mp hencoded
  obtain ⟨rows, hrows, rfl⟩ := encodePolyline_eq_ok htext
  have hread := decodePolyline_encodeRows (quantizedPath_of_quantize hrows)
  rw [polylineDimension_eq hheights] at hread
  refine ⟨_, rows, rfl, ?_, length_shownCoordinates hheights, hread,
    quantizes_of_quantize hheights hrows⟩
  rw [← map_coordinateJson hheights]
  cases hplain
  rfl

end Line

/-! ## 3. The object of a path -/

/-- The names of the members that tell how lines are written, and of the lines themselves. -/
def lineNames : List String :=
  ["points_encoded", "points_encoded_multiplier", "points", "snapped_waypoints"]

/-- The members of a path object that tell how lines are written, and the lines themselves. -/
def lineMembers (members : Members) : Members := members.filter (lineNames.contains ·.1)

/-- The members of a path object that have nothing to do with the way in which lines are written. -/
def otherMembers (members : Members) : Members := members.filter (!lineNames.contains ·.1)

@[simp] theorem lineMembers_append (first second : Members) :
    lineMembers (first ++ second) = lineMembers first ++ lineMembers second :=
  List.filter_append ..

@[simp] theorem otherMembers_append (first second : Members) :
    otherMembers (first ++ second) = otherMembers first ++ otherMembers second :=
  List.filter_append ..

/-- The member with the points to which the ends and stops of a request were moved. -/
def snappedMembers (options : OutputOptions) (path : Path) : Except Fault Members :=
  if path.snapped.isEmpty then .ok []
  else (fun line => [("snapped_waypoints", line)]) <$> pointsJson options path.snapped none

/-- The members behind the instructions of a path. -/
def Path.closingMembers (path : Path) (options : OutputOptions) : Members :=
  [("legs", .arr []), ("details", detailsJson path.details)] ++
    if options.elevation then [("ascend", .float path.ascend), ("descend", .float path.descend)]
    else []

/-- The geometry of a path, if it is asked for. -/
def Path.shownGeometry (path : Path) (options : OutputOptions) : Except Fault Members :=
  if options.calcPoints then geometryMembers options path else .ok []

/-- The instructions of a path, if they are asked for. -/
def Path.shownInstructions (path : Path) (options : OutputOptions) : Except Fault Members :=
  if options.instructions then instructionMembers path else .ok []

/-- The members of the object of a path, in order. -/
theorem pathJson_eq_parts (options : OutputOptions) (path : Path) :
    pathJson options path = do
      let geometry ← path.shownGeometry options
      let instructions ← path.shownInstructions options
      return .obj (path.plainMembers ++ geometry ++ instructions
        ++ path.closingMembers options) := by
  unfold pathJson Path.shownGeometry Path.shownInstructions Path.closingMembers
  simp only [← List.append_assoc]
  cases options.calcPoints <;> cases options.instructions <;> rfl

/-- A path object that can be written consists of the members of its geometry and of those of its
    instructions, as far as they are asked for, and of others. -/
theorem pathJson_eq_ok {options : OutputOptions} {path : Path} {json : Json}
    (h : pathJson options path = .ok json) :
    ∃ geometry instructions,
      (if options.calcPoints then geometryMembers options path else .ok []) = .ok geometry ∧
      (if options.instructions then instructionMembers path else .ok []) = .ok instructions ∧
      json = .obj (path.plainMembers ++ geometry ++ instructions
        ++ path.closingMembers options) := by
  rw [pathJson_eq_parts] at h
  obtain ⟨geometry, hgeometry, h⟩ := bind_eq_ok.mp h
  obtain ⟨instructions, htold, h⟩ := bind_eq_ok.mp h
  cases h
  exact ⟨geometry, instructions, hgeometry, htold, rfl⟩

/-- The members that tell how the lines of a path are written. -/
def OutputOptions.formMembers (options : OutputOptions) : Members :=
  [("points_encoded", .bool options.pointsEncoded)] ++
    if options.pointsEncoded then [("points_encoded_multiplier", .float options.multiplier)] else []

/-- The member with the box around a path, if it has points. -/
def Path.boxMembers (path : Path) : Members :=
  if path.points.isEmpty then []
  else [("bbox", .arr ((boundingBox path.points).map Number.toJson))]

/-- The members of a geometry, in order. -/
theorem geometryMembers_eq (options : OutputOptions) (path : Path) :
    geometryMembers options path = do
      let line ← pointsJson options path.points (path.shownHeights options)
      let snapped ← snappedMembers options path
      return options.formMembers ++ path.boxMembers ++ [("points", line)] ++ snapped := by
  unfold geometryMembers snappedMembers OutputOptions.formMembers Path.boxMembers
  refine bind_congr fun line => ?_
  cases path.snapped.isEmpty with
  | true => rfl
  | false => cases pointsJson options path.snapped none <;> rfl

theorem lineMembers_snapped {options : OutputOptions} {path : Path} {snapped : Members}
    (h : snappedMembers options path = .ok snapped) :
    lineMembers snapped = snapped ∧ otherMembers snapped = [] := by
  unfold snappedMembers at h
  split at h
  · cases h
    exact ⟨rfl, rfl⟩
  · obtain ⟨line, -, rfl⟩ := map_eq_ok.mp h
    exact ⟨rfl, rfl⟩

/-- The members of a geometry: how the lines are written, and the lines. -/
theorem geometryMembers_eq_ok {options : OutputOptions} {path : Path} {geometry : Members}
    (h : geometryMembers options path = .ok geometry) :
    ∃ line snapped, pointsJson options path.points (path.shownHeights options) = .ok line ∧
      snappedMembers options path = .ok snapped ∧
      lineMembers geometry = [("points_encoded", .bool options.pointsEncoded)]
        ++ (if options.pointsEncoded then
          [("points_encoded_multiplier", .float options.multiplier)] else [])
        ++ [("points", line)] ++ snapped ∧
      otherMembers geometry = if path.points.isEmpty then [] else
        [("bbox", .arr ((boundingBox path.points).map Number.toJson))] := by
  rw [geometryMembers_eq] at h
  obtain ⟨line, hline, h⟩ := bind_eq_ok.mp h
  obtain ⟨snapped, hsnapped, h⟩ := bind_eq_ok.mp h
  cases h
  obtain ⟨hlines, hothers⟩ := lineMembers_snapped hsnapped
  refine ⟨line, snapped, hline, hsnapped, ?_, ?_⟩
  · simp only [lineMembers_append, hlines]
    unfold OutputOptions.formMembers Path.boxMembers
    cases options.pointsEncoded <;> cases path.points.isEmpty <;> rfl
  · simp only [otherMembers_append, hothers]
    unfold OutputOptions.formMembers Path.boxMembers
    cases options.pointsEncoded <;> cases path.points.isEmpty <;> rfl

theorem lineMembers_instructions {path : Path} {members : Members}
    (h : instructionMembers path = .ok members) :
    lineMembers members = [] ∧ otherMembers members = members := by
  unfold instructionMembers at h
  split at h
  · obtain ⟨items, _, h⟩ := bind_eq_ok.mp h
    cases h
    exact ⟨rfl, rfl⟩
  · cases h
    exact ⟨rfl, rfl⟩

theorem lineMembers_plain (path : Path) (options : OutputOptions) :
    lineMembers path.plainMembers = [] ∧ lineMembers (path.closingMembers options) = [] := by
  unfold Path.closingMembers
  cases options.elevation <;> exact ⟨rfl, rfl⟩

/-- A path has as many elevations as points, if it has elevation at all. -/
theorem length_shownHeights {path : Path} {options : OutputOptions} {heights : List Float}
    (h : path.shownHeights options = some heights) : heights.length = path.points.length := by
  unfold Path.shownHeights at h
  split at h
  · rename_i hshown
    cases h
    unfold Path.hasElevation at hshown
    simp only [Bool.and_eq_true, beq_iff_eq] at hshown
    exact hshown.2.2
  · cases h

/-- Heights are shown when they are asked for and the path has as many elevations as points, and at
    least one. -/
theorem isSome_shownHeights (path : Path) (options : OutputOptions) :
    (path.shownHeights options).isSome = true ↔ options.elevation = true ∧
      path.elevations ≠ [] ∧ path.elevations.length = path.points.length := by
  unfold Path.shownHeights Path.hasElevation
  split
  · rename_i hshown
    simpa using hshown
  · rename_i hhidden
    simpa using hhidden

/-- The members with the snapped points of a path in both documents: none without such points. -/
def SameSnapped (multiplier : Float) (points : List Point) (encoded plain : Members) : Prop :=
  (points = [] → encoded = [] ∧ plain = []) ∧
  (points ≠ [] → ∃ text line, encoded = [("snapped_waypoints", text)] ∧
    plain = [("snapped_waypoints", line)] ∧ SameLine multiplier points none text line)

theorem sameSnapped_of_snappedMembers {options : OutputOptions} {path : Path}
    {encoded plain : Members}
    (hencoded : snappedMembers { options with pointsEncoded := true } path = .ok encoded)
    (hplain : snappedMembers { options with pointsEncoded := false } path = .ok plain) :
    SameSnapped options.multiplier path.snapped encoded plain := by
  unfold snappedMembers at hencoded hplain
  cases hsnapped : path.snapped with
  | nil =>
    rw [hsnapped] at hencoded hplain
    cases hencoded
    cases hplain
    exact ⟨fun _ => ⟨rfl, rfl⟩, fun hne => absurd rfl hne⟩
  | cons first rest =>
    rw [hsnapped, if_neg (by simp)] at hencoded hplain
    obtain ⟨text, htext, rfl⟩ := map_eq_ok.mp hencoded
    obtain ⟨line, hline, rfl⟩ := map_eq_ok.mp hplain
    have hnone : ∀ list : List Float, none = some list → list.length = (first :: rest).length :=
      nofun
    have hsame : SameLine options.multiplier (first :: rest) none text line :=
      sameLine_of_pointsJson hnone htext hline
    exact ⟨fun hnil => absurd hnil (List.cons_ne_nil _ _), fun _ => ⟨text, line, rfl, rfl, hsame⟩⟩

/-- **The object of a path shows the same lines both ways.** Where lines are asked for, the encoded
    texts are read back as the whole numbers of the coordinates of the plain lines: that of the path
    in three dimensions exactly when elevation is asked for and there are as many elevations as
    points and at least one, that of the snapped points always in two. All other members are the
    same, in the same order. -/
theorem pathJson_encoded_plain {options : OutputOptions} {path : Path} {encoded plain : Json}
    (hencoded : pathJson { options with pointsEncoded := true } path = .ok encoded)
    (hplain : pathJson { options with pointsEncoded := false } path = .ok plain) :
    ∃ written shown, encoded = .obj written ∧ plain = .obj shown ∧
      otherMembers written = otherMembers shown ∧
      (options.calcPoints = false → lineMembers written = [] ∧ lineMembers shown = []) ∧
      (options.calcPoints = true → ∃ text line moved others,
        lineMembers written = [("points_encoded", .bool true),
          ("points_encoded_multiplier", .float options.multiplier), ("points", text)] ++ moved ∧
        lineMembers shown = [("points_encoded", .bool false), ("points", line)] ++ others ∧
        SameLine options.multiplier path.points (path.shownHeights options) text line ∧
        SameSnapped options.multiplier path.snapped moved others) ∧
      ((path.shownHeights options).isSome = true ↔ options.elevation = true ∧
        path.elevations ≠ [] ∧ path.elevations.length = path.points.length) := by
  obtain ⟨geometry, instructions, hgeometry, htold, rfl⟩ := pathJson_eq_ok hencoded
  obtain ⟨geometry', instructions', hgeometry', htold', rfl⟩ := pathJson_eq_ok hplain
  have hsame : instructions = instructions' := Except.ok.inj (htold.symm.trans htold')
  subst hsame
  have hinstructions : lineMembers instructions = [] := by
    dsimp only at htold
    split at htold
    · exact (lineMembers_instructions htold).1
    · cases htold
      rfl
  have hwritten := lineMembers_plain path { options with pointsEncoded := true }
  have hshown := lineMembers_plain path { options with pointsEncoded := false }
  have hclosing : path.closingMembers { options with pointsEncoded := true } =
      path.closingMembers { options with pointsEncoded := false } := rfl
  refine ⟨_, _, rfl, rfl, ?_, ?_, ?_, isSome_shownHeights path options⟩
  · have hothers : otherMembers geometry = otherMembers geometry' := by
      dsimp only at hgeometry hgeometry'
      split at hgeometry
      · rename_i hcalc
        rw [if_pos hcalc] at hgeometry'
        obtain ⟨_, _, _, _, _, hbox⟩ := geometryMembers_eq_ok hgeometry
        obtain ⟨_, _, _, _, _, hbox'⟩ := geometryMembers_eq_ok hgeometry'
        rw [hbox, hbox']
      · rename_i hcalc
        rw [if_neg hcalc] at hgeometry'
        cases hgeometry
        cases hgeometry'
        rfl
    simp only [otherMembers_append, hclosing, hothers]
  · intro hcalc
    dsimp only at hgeometry hgeometry'
    rw [hcalc] at hgeometry hgeometry'
    cases hgeometry
    cases hgeometry'
    simp [hinstructions, hwritten, hshown]
  · intro hcalc
    dsimp only at hgeometry hgeometry'
    rw [if_pos hcalc] at hgeometry hgeometry'
    obtain ⟨text, moved, htext, hmoved, hlines, _⟩ := geometryMembers_eq_ok hgeometry
    obtain ⟨line, moved', hline, hmoved', hlines', _⟩ := geometryMembers_eq_ok hgeometry'
    refine ⟨text, line, moved, moved', ?_, ?_, ?_, sameSnapped_of_snappedMembers hmoved hmoved'⟩
    · simp [hlines, hinstructions, hwritten]
    · simp [hlines', hinstructions, hshown]
    · exact sameLine_of_pointsJson (fun _ hsome => length_shownHeights hsome) htext hline

/-- A way down from a pass, with elevations; the place where it begins was moved. -/
def passWay : Path :=
  let top : Point := ⟨.float 46.5, .float 10.25, by decide +kernel, by decide +kernel⟩
  let valley : Point := ⟨.int 46, .float (-0.000006), by decide +kernel, by decide +kernel⟩
  { distance := 4200.0, time := 3600000, weight := 5.5, points := [top, valley]
    elevations := [2339.125, -1.5], snapped := [top] }

theorem pathJson_encoded_plain_passWay :
    ∃ written shown, pathJson { elevation := true } passWay = .ok (.obj written) ∧
      pathJson { elevation := true, pointsEncoded := false } passWay = .ok (.obj shown) ∧
      otherMembers written = otherMembers shown ∧
      ∃ text line moved others,
        lineMembers written = [("points_encoded", .bool true),
          ("points_encoded_multiplier", .float 1e5), ("points", text)] ++ moved ∧
        lineMembers shown = [("points_encoded", .bool false), ("points", line)] ++ others ∧
        SameLine 1e5 passWay.points (some [2339.125, -1.5]) text line ∧
        SameSnapped 1e5 passWay.snapped moved others := by
  have hencoded : ∃ json, pathJson { elevation := true } passWay = .ok json :=
    isSome_toOption.mp (by decide +kernel)
  have hplain : ∃ json, pathJson { elevation := true, pointsEncoded := false } passWay = .ok json :=
    isSome_toOption.mp (by decide +kernel)
  obtain ⟨encoded, hencoded⟩ := hencoded
  obtain ⟨plain, hplain⟩ := hplain
  obtain ⟨written, shown, rfl, rfl, hothers, -, hlines, -⟩ :=
    @pathJson_encoded_plain { elevation := true } passWay _ _ hencoded hplain
  exact ⟨written, shown, hencoded, hplain, hothers, hlines rfl⟩

end Waypost
