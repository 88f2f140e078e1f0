import Mathlib.Data.List.Forall2
import Waypost.Osrm.Call
import Waypost.Proofs.Decimal.Exact
import Waypost.Proofs.Decimal.Shown
import Waypost.Proofs.Fault.Steps
import Waypost.Proofs.Request.WellBuilt
import Waypost.Proofs.Text.Joined

/-!
# The lists of a call

A call for routes carries up to three joined lists: the coordinates in its address, the bearings
and the approaches among its parameters. Each is read back piece by piece, one piece for each
point, in the order of the points.

* `Request.Built` -- the requests that one of the builders accepts;
* `Row` -- a joined list with one piece for each point, where each piece shows its value;
* `IsCoordinate`, `IsBearing`, `IsApproach` -- what one piece shows;
* `Carries` -- a parameter that is there exactly under a condition;
* `bearingText_eq_ok`, `alternativesText_eq_ok` -- when one text is made, and which;
* `row_coordinatesText`, `row_bearings`, `row_approaches` -- one lemma for each list;
* `routeParams_eq` -- the parameters, part by part;
* `lists_of_call` -- **the lists of every call are aligned with the points**.
-/

namespace Waypost

open Text Decimal

/-! ## 1. What a call says -/

/-- A request that a builder accepts, from a query string, a body, or one leg of a batch. -/
inductive Request.Built : Request → Prop
  | query {options : ServerOptions} {q : RouteQuery} {raw : Grouped} {r : Request}
      (h : Request.ofQuery options q raw = .ok r) : Built r
  | body {options : ServerOptions} {b : RouteBody} {r : Request}
      (h : Request.ofBody options b = .ok r) : Built r
  | leg {options : LegOptions} {origin destination : Point} {r : Request}
      (h : Request.ofLeg options origin destination = .ok r) : Built r

theorem Request.Built.valid {r : Request} (h : r.Built) : r.Valid := by
  cases h with
  | query h => exact (wellBuilt_ofQuery h).valid
  | body h => exact (wellBuilt_ofBody h).valid
  | leg h =>
    unfold Request.ofLeg at h
    obtain ⟨rfl, hvalid⟩ := validate_eq_ok.mp h
    exact hvalid

/-- A joined list with one piece for each point, each of which shows its value. -/
structure Row (Shows : α → String → Prop) (values : List α) (points : List Point) (row : String) :
    Prop where
  length : (splitText ';' row).length = points.length
  shows : List.Forall₂ Shows values (splitText ';' row)

/-- The piece of a point among the coordinates: longitude and latitude. -/
def IsCoordinate (p : Point) (piece : String) : Prop :=
  splitText ',' piece = [p.lon.text, p.lat.text]

/-- The piece of a heading among the bearings: nothing for a NaN alone, and otherwise degrees
    within a full turn that differ from the rounded heading by full turns. -/
structure IsBearing (heading : Float) (piece : String) : Prop where
  empty : piece = "" ↔ heading.isNaN = true
  degrees : heading.isNaN = false → ∃ (angle : Int) (degrees : Nat),
    nearest? heading = .ok angle ∧ degrees ≤ 359 ∧ (360 : Int) ∣ angle - degrees ∧
      piece = toString degrees ++ ",90"

/-- The piece of a curbside among the approaches. -/
def IsApproach (curbside piece : String) : Prop :=
  piece = "curb" ∧ (lower curbside = "right" ∨ lower curbside = "left") ∨
    piece = "unrestricted" ∧ lower curbside ≠ "right" ∧ lower curbside ≠ "left"

/-- A parameter that is there exactly under a condition, with a value of some kind. -/
structure Carries (params : List (String × String)) (key : String) (condition : Prop)
    (Kind : String → Prop) : Prop where
  present : (∃ value, params.lookup key = some value) ↔ condition
  kind : ∀ value, params.lookup key = some value → Kind value

/-- The address of a call for routes, without its parameters. -/
def routeUrl (config : OsrmConfig) (r : Request) : String :=
  config.baseUrl ++ "/route/v1/" ++ config.profilePath r.profile ++ "/" ++ coordinatesText r.points

theorem routeCall_eq (config : OsrmConfig) (r : Request) :
    routeCall config r = routeParams r >>= Call.of (routeUrl config r) := rfl

/-! ## 2. Pieces -/

/-- The characters that part the pieces of a call. -/
def separators : List Char := [';', ',', '/']

/-- The text of a double or of a whole number holds no separator. -/
theorem not_mem_of_numeral {cs : List Char} (h : Numeral cs) {sep : Char}
    (hsep : sep ∈ separators) : sep ∉ cs := by
  have hnone : separators.all (!isNumeral ·) = true := by decide
  have hother := List.all_eq_true.mp hnone sep hsep
  intro hmem
  rw [h sep hmem] at hother
  exact absurd hother (by decide)

/-- Nor does the text of a number of any form. -/
theorem not_mem_numberText (n : Number) {sep : Char} (hsep : sep ∈ separators) :
    sep ∉ n.text.toList := by
  cases n with
  | flag b =>
    have hnone : separators.all (fun c => !"True".toList.contains c && !"False".toList.contains c)
        = true := by decide
    have hwords := List.all_eq_true.mp hnone sep hsep
    rw [Bool.and_eq_true, Bool.not_eq_true', Bool.not_eq_true', ← Bool.not_eq_true,
      ← Bool.not_eq_true, List.contains_iff_mem, List.contains_iff_mem] at hwords
    cases b with
    | true => exact hwords.1
    | false => exact hwords.2
  | int n => exact not_mem_of_numeral (numeral_toString n) hsep
  | float x => exact not_mem_of_numeral (numeral_floatText x) hsep

/-- The text of a coordinate pair, longitude first. -/
def coordinateText (p : Point) : String := p.lon.text ++ "," ++ p.lat.text

theorem not_mem_coordinateText (p : Point) {sep : Char} (hsep : sep ∈ separators)
    (hne : sep ≠ ',') : sep ∉ (coordinateText p).toList := by
  unfold coordinateText
  rw [String.toList_append, String.toList_append, List.mem_append, List.mem_append]
  rintro ((hmem | hmem) | hmem)
  · exact not_mem_numberText p.lon hsep hmem
  · exact hne (List.mem_singleton.mp hmem)
  · exact not_mem_numberText p.lat hsep hmem

theorem isCoordinate_coordinateText (p : Point) : IsCoordinate p (coordinateText p) := by
  have htwo : coordinateText p = (String.singleton ',').intercalate [p.lon.text, p.lat.text] := by
    rw [String.intercalate_cons_cons, String.intercalate_singleton]
    rfl
  unfold IsCoordinate
  rw [htwo]
  refine splitText_intercalate ?_ (List.cons_ne_nil _ _)
  intro piece hpiece
  rcases List.mem_pair.mp hpiece with rfl | rfl
  · exact not_mem_numberText p.lon (by decide)
  · exact not_mem_numberText p.lat (by decide)

/-- **The text of a heading**, when there is one. -/
theorem bearingText_eq_ok {heading : Float} {piece : String} :
    bearingText heading = .ok piece ↔
      heading.isNaN = true ∧ piece = "" ∨
      heading.isNaN = false ∧ ∃ angle, nearest? heading = .ok angle ∧
        piece = toString (angle % 360) ++ ",90" := by
  unfold bearingText
  cases hnan : heading.isNaN with
  | true =>
    constructor
    · rintro ⟨⟩
      exact Or.inl ⟨rfl, rfl⟩
    · rintro (⟨-, rfl⟩ | ⟨hfalse, -⟩)
      · rfl
      · cases hfalse
  | false =>
    show (wholeNumber (nearest? heading) >>= fun angle =>
      pure (toString (angle % 360) ++ "," ++ toString bearingTolerance)) = .ok piece ↔ _
    rw [bind_eq_ok]
    constructor
    · rintro ⟨angle, hangle, hpiece⟩
      cases hpiece
      exact Or.inr ⟨rfl, angle, wholeNumber_eq_ok.mp hangle, String.append_assoc⟩
    · rintro (⟨htrue, -⟩ | ⟨-, angle, hangle, rfl⟩)
      · cases htrue
      · exact ⟨angle, wholeNumber_eq_ok.mpr hangle, congrArg Except.ok String.append_assoc⟩

theorem isBearing_of_ok {heading : Float} {piece : String}
    (h : bearingText heading = .ok piece) : IsBearing heading piece := by
  rcases bearingText_eq_ok.mp h with ⟨hnan, rfl⟩ | ⟨hnan, angle, hangle, rfl⟩
  · exact ⟨iff_of_true rfl hnan, fun hfalse => absurd (hnan.symm.trans hfalse) (by decide)⟩
  · obtain ⟨degrees, hdegrees⟩ : ∃ degrees : Nat, angle % 360 = degrees :=
      Int.eq_ofNat_of_zero_le (Int.emod_nonneg angle (by decide))
    rw [hdegrees]
    refine ⟨iff_of_false ?_ ?_, fun _ => ⟨angle, degrees, hangle, ?_, ?_, rfl⟩⟩
    · intro hempty
      exact absurd (String.append_eq_empty_iff.mp hempty).2 (by decide)
    · rw [hnan]
      exact Bool.false_ne_true
    · omega
    · omega

theorem not_mem_of_bearingText {heading : Float} {piece : String}
    (h : bearingText heading = .ok piece) : ';' ∉ piece.toList := by
  rcases bearingText_eq_ok.mp h with ⟨-, rfl⟩ | ⟨-, angle, -, rfl⟩
  · exact List.not_mem_nil
  · rw [String.toList_append, List.mem_append]
    rintro (hmem | hmem)
    · exact not_mem_of_numeral (numeral_toString _) (by decide) hmem
    · exact absurd hmem (by decide)

theorem isApproach_approachOf (curbside : String) : IsApproach curbside (approachOf curbside) := by
  unfold IsApproach approachOf
  dsimp only
  by_cases hside : lower curbside = "right" ∨ lower curbside = "left"
  · rw [if_pos (by rw [Bool.or_eq_true, beq_iff_eq, beq_iff_eq]; exact hside)]
    exact Or.inl ⟨rfl, hside⟩
  · rw [if_neg (by rw [Bool.or_eq_true, beq_iff_eq, beq_iff_eq]; exact hside)]
    exact Or.inr ⟨rfl, not_or.mp hside⟩

theorem not_mem_approachOf (curbside : String) : ';' ∉ (approachOf curbside).toList := by
  rcases isApproach_approachOf curbside with ⟨h, -⟩ | ⟨h, -⟩ <;> rw [h] <;> decide

/-! ## 3. Rows -/

theorem FitsPoints.length_eq {values : List α} {points : List Point} (h : FitsPoints values points)
    (hne : values ≠ []) : values.length = points.length :=
  h.resolve_left hne

/-- Pieces that show their values make a row, unless one of them holds the separator. -/
theorem row_intercalate {Shows : α → String → Prop} {values : List α} {points : List Point}
    {pieces : List String} (hshows : List.Forall₂ Shows values pieces) (hne : values ≠ [])
    (hlength : values.length = points.length) (hsep : ∀ piece ∈ pieces, ';' ∉ piece.toList) :
    Row Shows values points (";".intercalate pieces) := by
  have hpieces : pieces ≠ [] := by
    rintro rfl
    exact hne (List.forall₂_nil_right_iff.mp hshows)
  have hsplit : splitText ';' (";".intercalate pieces) = pieces :=
    splitText_intercalate hsep hpieces
  constructor
  · rw [hsplit, ← hlength]
    exact hshows.length_eq.symm
  · rw [hsplit]
    exact hshows

/-- Each value next to the text that is made of it. -/
theorem forall₂_map {Shows : α → String → Prop} {text : α → String} (h : ∀ a, Shows a (text a))
    (values : List α) : List.Forall₂ Shows values (values.map text) :=
  List.forall₂_map_right_iff.mpr (List.forall₂_same.mpr fun a _ => h a)

theorem forall_mem_map_text {text : α → String} {c : Char} (h : ∀ a, c ∉ (text a).toList)
    (values : List α) : ∀ piece ∈ values.map text, c ∉ piece.toList := by
  intro piece hpiece
  obtain ⟨a, -, rfl⟩ := List.mem_map.mp hpiece
  exact h a

theorem row_coordinatesText {points : List Point} (hne : points ≠ []) :
    Row IsCoordinate points points (coordinatesText points) :=
  row_intercalate (forall₂_map isCoordinate_coordinateText points) hne rfl
    (forall_mem_map_text (fun p => not_mem_coordinateText p (by decide) (by decide)) points)

theorem coordinatesText_eq (points : List Point) :
    coordinatesText points = (String.singleton ';').intercalate (points.map coordinateText) := by
  have hsemicolon : (";" : String) = String.singleton ';' := rfl
  unfold coordinatesText
  rw [hsemicolon]
  rfl

theorem not_mem_coordinatesText (points : List Point) : '/' ∉ (coordinatesText points).toList := by
  rw [coordinatesText_eq]
  exact not_mem_intercalate (by decide)
    (forall_mem_map_text (fun p => not_mem_coordinateText p (by decide) (by decide)) points)

/-- **The coordinates are what stands behind the last slash of an address.** -/
theorem getLast?_routeUrl (config : OsrmConfig) (r : Request) :
    (splitText '/' (routeUrl config r)).getLast? = some (coordinatesText r.points) := by
  have hslash : ("/" : String) = String.singleton '/' := rfl
  unfold routeUrl
  rw [hslash]
  exact getLast?_splitText_append (not_mem_coordinatesText r.points) _

theorem row_bearings {headings : List Float} {points : List Point} {pieces : List String}
    (hpieces : headings.mapM bearingText = .ok pieces) (hfits : FitsPoints headings points)
    (hne : headings ≠ []) : Row IsBearing headings points (";".intercalate pieces) := by
  have hmade := forall₂_of_mapM hpieces
  refine row_intercalate (hmade.imp fun _ _ => isBearing_of_ok) hne (hfits.length_eq hne) ?_
  intro piece hpiece
  obtain ⟨heading, -, hheading⟩ := exists_mem_of_forall₂ hmade hpiece
  exact not_mem_of_bearingText hheading

theorem row_approaches {curbsides : List String} {points : List Point}
    (hfits : FitsPoints curbsides points) (hne : curbsides ≠ []) :
    Row IsApproach curbsides points (";".intercalate (curbsides.map approachOf)) :=
  row_intercalate (forall₂_map isApproach_approachOf curbsides) hne (hfits.length_eq hne)
    (forall_mem_map_text not_mem_approachOf curbsides)

/-! ## 4. Parameters -/

/-- No parameter, or one under a key with a value of some kind, as a condition says. -/
inductive Part (key : String) (condition : Prop) (Kind : String → Prop) :
    List (String × String) → Prop
  | present {value : String} (h : condition) (hkind : Kind value) :
      Part key condition Kind [(key, value)]
  | absent (h : ¬ condition) : Part key condition Kind []

section Part

variable {key : String} {condition : Prop} {Kind : String → Prop} {part : List (String × String)}

theorem Part.lookup_of_ne (h : Part key condition Kind part) {other : String}
    (hne : (other == key) = false) : part.lookup other = none := by
  cases h with
  | present => rw [List.lookup_cons, hne]; rfl
  | absent => rfl

theorem Part.keys (h : Part key condition Kind part) : (part.map (·.1)).Sublist [key] := by
  cases h with
  | present => exact List.Sublist.refl _
  | absent => exact List.nil_sublist _

/-- A part stands for its key among others that do not have it. -/
theorem Part.carries (h : Part key condition Kind part) {before after : List (String × String)}
    (hbefore : before.lookup key = none) (hafter : after.lookup key = none) :
    Carries (before ++ part ++ after) key condition Kind := by
  have hlookup : (before ++ part ++ after).lookup key = part.lookup key := by
    rw [List.lookup_append, List.lookup_append, hbefore, hafter, Option.or_none]
    rfl
  constructor
  · rw [hlookup]
    cases h with
    | present hcondition hkind => exact iff_of_true ⟨_, List.lookup_cons_self⟩ hcondition
    | absent hcondition => exact iff_of_false nofun hcondition
  · intro value hvalue
    rw [hlookup] at hvalue
    cases h with
    | present hcondition hkind =>
      rw [List.lookup_cons_self] at hvalue
      cases hvalue
      exact hkind
    | absent hcondition => cases hvalue

end Part

/-- The parameters that every call has. -/
def commonParams (r : Request) : List (String × String) :=
  [("overview", if (r.hints.flag? Key.calcPoints).getD true then "full" else "false"),
    ("geometries", "geojson"),
    ("steps", flagText ((r.hints.flag? Key.instructions).getD true)),
    ("annotations", flagText !r.pathDetails.isEmpty)]

/-- A further path count: the decimal text of a whole number that is at least one. -/
def IsPathCount (value : String) : Prop := ∃ n : Int, 1 ≤ n ∧ value = toString n

theorem isPathCount_of_ok {hints : Hints} {value : String}
    (h : alternativesText hints = .ok value) : IsPathCount value := by
  unfold alternativesText at h
  obtain ⟨asked, -, h⟩ := bind_eq_ok.mp h
  obtain ⟨paths, -, h⟩ := bind_eq_ok.mp h
  cases h
  exact ⟨_, Int.le_max_right _ _, rfl⟩

/-- The parameter that asks for further paths. -/
def alternativesPart (r : Request) : Except Fault (List (String × String)) :=
  if r.algorithm == alternativeRoute then
    (fun value => [("alternatives", value)]) <$> alternativesText r.hints
  else .ok []

/-- The parameter of the headings. -/
def bearingsPart (r : Request) : Except Fault (List (String × String)) :=
  if r.headings.isEmpty then .ok []
  else (fun pieces => [("bearings", ";".intercalate pieces)]) <$> r.headings.mapM bearingText

/-- The parameter of the curbsides. -/
def approachesPart (r : Request) : List (String × String) :=
  if r.curbsides.isEmpty then []
  else [("approaches", ";".intercalate (r.curbsides.map approachOf))]

/-- **The parameters of a call, part by part.** -/
theorem routeParams_eq (r : Request) :
    routeParams r = do
      let alternatives ← alternativesPart r
      let bearings ← bearingsPart r
      return commonParams r ++ alternatives ++ bearings ++ approachesPart r := by
  unfold routeParams alternativesPart bearingsPart
  cases r.algorithm == alternativeRoute with
  | true =>
    cases alternativesText r.hints with
    | error fault => rfl
    | ok value => cases r.headings.isEmpty <;> cases r.headings.mapM bearingText <;> rfl
  | false => cases r.headings.isEmpty <;> cases r.headings.mapM bearingText <;> rfl

theorem part_alternatives {r : Request} {part : List (String × String)}
    (h : alternativesPart r = .ok part) :
    Part "alternatives" (r.algorithm = alternativeRoute) IsPathCount part := by
  unfold alternativesPart at h
  split at h
  · rename_i halgorithm
    obtain ⟨value, hvalue, rfl⟩ := map_eq_ok.mp h
    exact .present (beq_iff_eq.mp halgorithm) (isPathCount_of_ok hvalue)
  · rename_i halgorithm
    cases h
    exact .absent (mt beq_iff_eq.mpr halgorithm)

theorem part_bearings {r : Request} (hvalid : r.Valid) {part : List (String × String)}
    (h : bearingsPart r = .ok part) :
    Part "bearings" (r.headings ≠ []) (Row IsBearing r.headings r.points) part := by
  unfold bearingsPart at h
  split at h
  · rename_i hempty
    cases h
    exact .absent (not_not.mpr (List.isEmpty_iff.mp hempty))
  · rename_i hempty
    obtain ⟨pieces, hpieces, rfl⟩ := map_eq_ok.mp h
    have hne := mt List.isEmpty_iff.mpr hempty
    exact .present hne (row_bearings hpieces hvalid.headings hne)

theorem part_approaches {r : Request} (hvalid : r.Valid) :
    Part "approaches" (r.curbsides ≠ []) (Row IsApproach r.curbsides r.points)
      (approachesPart r) := by
  unfold approachesPart
  split
  · rename_i hempty
    exact .absent (not_not.mpr (List.isEmpty_iff.mp hempty))
  · rename_i hempty
    have hne := mt List.isEmpty_iff.mpr hempty
    exact .present hne (row_approaches hvalid.curbsides hne)

/-! ## 5. Calls -/

/-- **The lists of every call are aligned with the points.** Coordinates, bearings and approaches
    have one piece for each point, in order; bearings and approaches are there exactly when there
    are headings and curbsides; alternatives are asked for by one algorithm alone. -/
theorem lists_of_call (config : OsrmConfig) {r : Request} {params : List (String × String)}
    (hbuilt : r.Built) (h : routeParams r = .ok params) :
    routeCall config r = Call.of (routeUrl config r) params ∧
    (params.map (·.1)).Nodup ∧
    (∃ row, (splitText '/' (routeUrl config r)).getLast? = some row ∧
      Row IsCoordinate r.points r.points row) ∧
    Carries params "bearings" (r.headings ≠ []) (Row IsBearing r.headings r.points) ∧
    Carries params "approaches" (r.curbsides ≠ []) (Row IsApproach r.curbsides r.points) ∧
    Carries params "alternatives" (r.algorithm = alternativeRoute) IsPathCount := by
  have hcall : routeCall config r = Call.of (routeUrl config r) params := by
    rw [routeCall_eq, h, ok_bind]
  rw [routeParams_eq] at h
  obtain ⟨alternatives, halternatives, h⟩ := bind_eq_ok.mp h
  obtain ⟨bearings, hbearings, h⟩ := bind_eq_ok.mp h
  cases h
  have halternatives := part_alternatives halternatives
  have hbearings := part_bearings hbuilt.valid hbearings
  have happroaches := part_approaches hbuilt.valid
  have hkeys : ((commonParams r ++ alternatives ++ bearings ++ approachesPart r).map (·.1)).Sublist
      ["overview", "geometries", "steps", "annotations", "alternatives", "bearings",
        "approaches"] := by
    rw [List.map_append, List.map_append, List.map_append]
    exact (((List.Sublist.refl _).append halternatives.keys).append hbearings.keys).append
      happroaches.keys
  refine ⟨hcall, hkeys.nodup (by decide), ⟨_, getLast?_routeUrl config r,
    row_coordinatesText hbuilt.valid.points⟩, ?_, ?_, ?_⟩
  · refine hbearings.carries ?_ (happroaches.lookup_of_ne (by decide))
    rw [List.lookup_append, halternatives.lookup_of_ne (by decide)]
    rfl
  · have hbefore : (commonParams r ++ alternatives ++ bearings).lookup "approaches" = none := by
      rw [List.lookup_append, List.lookup_append, halternatives.lookup_of_ne (by decide),
        hbearings.lookup_of_ne (by decide)]
      rfl
    have hlast := happroaches.carries hbefore (List.lookup_nil)
    rwa [List.append_nil] at hlast
  · rw [List.append_assoc]
    refine halternatives.carries rfl ?_
    rw [List.lookup_append, hbearings.lookup_of_ne (by decide),
      happroaches.lookup_of_ne (by decide)]
    rfl


/-- A body with two points, where the first heading restricts nothing. -/
def quayBody : RouteBody where
  points := [⟨.int 8, .int 0, by decide, by decide⟩, ⟨.int 9, .int (-1), by decide, by decide⟩]
  algorithm := alternativeRoute
  headings := [0.0 / 0.0, -10.0]
  curbsides := ["Right", ""]

theorem lists_of_call_quay : ∃ r params, Request.ofBody {} quayBody = .ok r ∧
    routeParams r = .ok params ∧ params.lookup "bearings" = some ";350,90" ∧
    Carries params "bearings" (r.headings ≠ []) (Row IsBearing r.headings r.points) := by
  obtain ⟨r, hbuilt, hcall⟩ : ∃ r, Request.ofBody {} quayBody = .ok r ∧
      (routeParams r).toOption.any (·.lookup "bearings" == some ";350,90") = true :=
    exists_ok_of_any (by decide +kernel)
  obtain ⟨params, hparams, hbearings⟩ := exists_ok_of_any hcall
  have hlists := lists_of_call ⟨"http://osrm", [], true, "car"⟩ (.body hbuilt) hparams
  exact ⟨r, params, hbuilt, hparams, beq_iff_eq.mp hbearings, hlists.2.2.2.1⟩

end Waypost
