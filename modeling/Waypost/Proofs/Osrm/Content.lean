import Waypost.Osrm.Answer
import Waypost.Proofs.Fault.First

/-!
# What an answer says

An answer of an OSRM service may have any shape. A part that is not there, or that is of another
kind than it should be, says nothing.

* `Json.member`, `Json.listed` -- the value under a key and the items of a list, of any value;
* `Json.routes`, `Json.coordinates`, `Json.locations` -- the parts that make up an outcome;
* `Json.places` -- all pairs of numbers that are meant as points;
* `items_cases` -- what is gone through is a list, or nothing but texts;
* `coordinatePoint_eq_ok` -- a pair that is read as a point begins with its longitude and latitude;
* `routePath_eq_ok` -- what points, instructions and time of a path are read from.
-/

namespace Waypost

namespace Json

/-! ## 1. Parts -/

/-- The value under a key of an object; null where there is none. -/
def member (value : Json) (key : String) : Json :=
  match value with
  | .obj members => Members.getD members key .null
  | _ => .null

/-- The items of a list. Any other value has none. -/
def listed : Json → List Json
  | .arr items => items
  | _ => []

/-- The routes of an answer. -/
def routes (answer : Json) : List Json := (answer.member "routes").listed

/-- The coordinate pairs of a route. -/
def coordinates (route : Json) : List Json :=
  ((route.member "geometry").member "coordinates").listed

/-- The places to which the ends and stops of a request were moved, where an answer tells them. -/
def locations (answer : Json) : List Json :=
  ((answer.member "waypoints").listed.map (·.member "location")).filter truthy

/-- All pairs of an answer that are meant as points. -/
def places (answer : Json) : List Json := answer.locations ++ answer.routes.flatMap coordinates

theorem members_eq_ok {value : Json} {found : Members} :
    value.members = .ok found ↔ value = .obj found := by
  constructor
  · intro h
    cases value <;> cases h
    rfl
  · rintro rfl
    rfl

/-- What goes on with the members of a value goes on with an object. -/
theorem members_bind_eq_ok {α : Type} {value : Json} {f : Members → Except Fault α} {a : α} :
    (value.members >>= f) = .ok a ↔ ∃ found, value = .obj found ∧ f found = .ok a := by
  rw [bind_eq_ok]
  exact exists_congr fun found => and_congr_left fun _ => members_eq_ok

theorem member_obj (members : Members) (key : String) :
    (Json.obj members).member key = members.getD key .null := rfl

/-- A text that is read where an empty one stands for a missing member is there. -/
theorem member_eq_str {members : Members} {key s : String} (hs : s ≠ "") :
    (Json.obj members).member key = .str s ↔ members.getD key (.str "") = .str s := by
  rw [member_obj]
  unfold Members.getD
  cases members.get? key with
  | none => exact iff_of_false nofun fun h => hs (Json.str.inj h).symm
  | some value => exact Iff.rfl

theorem isText_eq_true {value : Json} {s : String} : value.isText s = true ↔ value = .str s := by
  cases value with
  | str t => exact beq_iff_eq.trans ⟨congrArg Json.str, Json.str.inj⟩
  | null | bool | int | float | arr | obj => exact iff_of_false nofun nofun

/-- A list that is not there holds nothing. -/
theorem listed_getD (members : Members) (key : String) :
    (members.getD key (.arr [])).listed = (members.getD key .null).listed := by
  unfold Members.getD
  cases members.get? key <;> rfl

/-- What is not truthy has no members. -/
theorem member_of_not_truthy {value : Json} (h : value.truthy = false) (key : String) :
    value.member key = .null := by
  cases value with
  | obj members =>
    cases members with
    | nil => rfl
    | cons first rest => cases h
  | null | bool | int | float | str | arr => rfl

/-- **What is gone through is a list, or nothing but texts.** -/
theorem items_cases {value : Json} {items : List Json} (h : value.items = .ok items) :
    items = value.listed ∨ ∀ item ∈ items, ∃ s, item = .str s := by
  cases value with
  | arr list =>
    cases h
    exact Or.inl rfl
  | str s =>
    cases h
    refine Or.inr fun item hitem => ?_
    obtain ⟨c, -, rfl⟩ := List.mem_map.mp hitem
    exact ⟨_, rfl⟩
  | obj members =>
    cases h
    refine Or.inr fun item hitem => ?_
    obtain ⟨member, -, rfl⟩ := List.mem_map.mp hitem
    exact ⟨_, rfl⟩
  | null | bool | int | float => cases h

/-- What counts as present and can be gone through holds something. -/
theorem items_ne_nil {value : Json} {items : List Json} (h : value.items = .ok items)
    (hpresent : value.truthy = true) : items ≠ [] := by
  rintro rfl
  cases value with
  | arr list =>
    cases h
    cases hpresent
  | str s =>
    have hsingle : Text.singlePoints s = [] := List.map_eq_nil_iff.mp (Except.ok.inj h)
    have hempty : s.toList = [] := Text.pointsOf_eq_nil.mp (List.map_eq_nil_iff.mp hsingle)
    rw [String.toList_eq_nil_iff] at hempty
    subst hempty
    cases hpresent
  | obj members =>
    obtain rfl := List.map_eq_nil_iff.mp (Except.ok.inj h)
    cases hpresent
  | null | bool | int | float => cases h

/-- Where no text will do, what is gone through is a list. -/
theorem items_eq_listed {value : Json} {items : List Json} (h : value.items = .ok items)
    (hno : ∀ s, .str s ∉ items) : items = value.listed := by
  rcases items_cases h with hlisted | htexts
  · exact hlisted
  · cases items with
    | nil =>
      cases value with
      | arr list =>
        cases h
        rfl
      | null | bool | int | float | str | obj => rfl
    | cons first rest =>
      obtain ⟨s, rfl⟩ := htexts first List.mem_cons_self
      exact absurd List.mem_cons_self (hno s)

/-- An object that is read where an empty one stands for what is not there has the members of the
    value that is meant. -/
theorem member_of_present {members found : Members} {key : String}
    (h : ((members.getD key .null).orElse (.obj [])).members = .ok found) (inner : String) :
    (Json.obj found).member inner = ((Json.obj members).member key).member inner := by
  rw [member_obj members]
  unfold orElse at h
  split at h
  · rw [members_eq_ok.mp h]
  · rename_i hfalsy
    rw [Bool.not_eq_true] at hfalsy
    cases h
    rw [member_of_not_truthy hfalsy]
    rfl

/-- The geometry of a route that is read without one is empty. -/
theorem coordinates_of_geometry {members geometry : Members}
    (h : ((members.getD "geometry" .null).orElse (.obj [])).members = .ok geometry) :
    (geometry.getD "coordinates" (.arr [])).listed = (Json.obj members).coordinates := by
  unfold coordinates
  rw [listed_getD, ← member_obj, member_of_present h]

end Json

/-! ## 2. Points -/

theorem toJson_of_ofJson? {value : Json} {number : Number}
    (h : Number.ofJson? value = some number) : number.toJson = value := by
  cases value <;> cases h <;> rfl

theorem numbers_of_ofNumbers? {lat lon : Number} {p : Point}
    (h : Point.ofNumbers? lat lon = some p) : p.lat = lat ∧ p.lon = lon := by
  unfold Point.ofNumbers? at h
  split at h
  · cases h
    exact ⟨rfl, rfl⟩
  · cases h

theorem refuse_ne_ok {α : Type} {reason : String → String → Refusal} {lat lon : Json} {a : α} :
    Point.refuse reason lat lon ≠ .ok a := by
  intro h
  obtain ⟨_, -, h⟩ := bind_eq_ok.mp h
  obtain ⟨_, -, h⟩ := bind_eq_ok.mp h
  cases h

/-- A point keeps its two numbers in the form in which they came. -/
theorem toJson_of_pointOf {lat lon : Json} {p : Point} (h : Point.of lat lon = .ok p) :
    lat = p.lat.toJson ∧ lon = p.lon.toJson := by
  obtain ⟨finite, -, h⟩ := bind_eq_ok.mp h
  split at h
  · rename_i latitude longitude hlat hlon
    split at h
    · rename_i point hpoint
      cases h
      obtain ⟨rfl, rfl⟩ := numbers_of_ofNumbers? hpoint
      exact ⟨(toJson_of_ofJson? hlat).symm, (toJson_of_ofJson? hlon).symm⟩
    · exact absurd h refuse_ne_ok
  · exact absurd h refuse_ne_ok

/-- A pair that stands for a point: a list that begins with its longitude and its latitude. -/
def PairOf (pair : Json) (p : Point) : Prop :=
  ∃ rest, pair = .arr (p.lon.toJson :: p.lat.toJson :: rest)

/-- **A pair that is read as a point begins with its longitude and latitude.** -/
theorem coordinatePoint_eq_ok {pair : Json} {p : Point} (h : coordinatePoint pair = .ok p) :
    PairOf pair p := by
  unfold coordinatePoint at h
  obtain ⟨lat, hlat, h⟩ := bind_eq_ok.mp h
  obtain ⟨lon, hlon, h⟩ := bind_eq_ok.mp h
  obtain ⟨rfl, rfl⟩ := toJson_of_pointOf h
  match pair with
  | .arr [] => cases hlat
  | .arr [_] => cases hlat
  | .arr (first :: second :: rest) =>
    cases hlat
    cases hlon
    exact ⟨rest, rfl⟩
  | .str s =>
    -- the characters of a text are no numbers
    unfold Json.itemAtIndex at hlat
    dsimp only at hlat
    split at hlat
    · cases hp : p.lat <;> rw [hp] at hlat <;> cases hlat
    · cases hlat
  | .null | .bool _ | .int _ | .float _ | .obj _ => cases hlat

/-! ## 3. Routes -/

/-- A duration is read as the whole number next to a double. -/
theorem millisOf_eq_ok {seconds : Json} {time : Int} (h : millisOf seconds = .ok time) :
    ∃ x, seconds.toReal = .ok x ∧ Decimal.nearest? (x * 1000.0) = .ok time := by
  unfold millisOf at h
  obtain ⟨x, hx, h⟩ := bind_eq_ok.mp h
  exact ⟨x, hx, wholeNumber_eq_ok.mp h⟩

/-- **What is read from a route**: its points from its geometry, its instructions from its legs,
    unless they are switched off, and its time from its duration. -/
theorem routePath_eq_ok {r : Request} {snapped : List Point} {route : Json} {path : Path}
    (h : routePath r snapped route = .ok path) :
    ∃ (members geometry : Members) (pairs : List Json), route = .obj members ∧
      ((members.getD "geometry" .null).orElse (.obj [])).members = .ok geometry ∧
      (geometry.getD "coordinates" (.arr [])).items = .ok pairs ∧
      pairs.mapM coordinatePoint = .ok path.points ∧
      (if (r.hints.flag? Key.instructions).getD true then
        some <$> turnInstructions ((members.getD "legs" .null).orElse (.arr [])) path.points.length
      else pure none) = .ok path.instructions ∧
      millisOf (members.getD "duration" (.float 0.0)) = .ok path.time ∧
      path.snapped = snapped := by
  unfold routePath at h
  rw [Json.members_bind_eq_ok] at h
  obtain ⟨members, rfl, h⟩ := h
  obtain ⟨geometry, hgeometry, h⟩ := bind_eq_ok.mp h
  obtain ⟨pairs, hpairs, h⟩ := bind_eq_ok.mp h
  obtain ⟨points, hpoints, h⟩ := bind_eq_ok.mp h
  dsimp only at h
  -- instructions are read or not; distance, time, weight and details follow either way
  split at h
  all_goals
    rename_i hswitch
    obtain ⟨instructions, hread, h⟩ := bind_eq_ok.mp h
    obtain ⟨distance, _, h⟩ := bind_eq_ok.mp h
    obtain ⟨time, htime, h⟩ := bind_eq_ok.mp h
    obtain ⟨weight, _, h⟩ := bind_eq_ok.mp h
    obtain ⟨details, _, h⟩ := bind_eq_ok.mp h
    cases h
    refine ⟨members, geometry, pairs, rfl, hgeometry, hpairs, hpoints, ?_, htime, rfl⟩
  · rw [if_pos hswitch]
    exact hread
  · rw [if_neg hswitch]
    exact hread

end Waypost
