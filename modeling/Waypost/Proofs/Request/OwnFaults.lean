import Waypost.Proofs.Fault.First
import Waypost.Proofs.Hints.Query
import Waypost.Request.Build
import Waypost.Request.Profile

/-!
# Faults before the engine

What goes wrong before a request reaches an engine is never a report: a request is refused, or a
value in it cannot be read.

* `own_ofQuery`, `own_ofBody` -- **building a request fails with own faults only**;
* `own_resolveProfile` -- so does choosing a configured profile.
-/

namespace Waypost

/-! ## 1. Hints -/

theorem own_ofText (s : String) : FailsOnly Fault.Own (HintValue.ofText s) := by
  unfold HintValue.ofText
  split
  · exact failsOnly_of_ok ⟨_, rfl⟩
  · dsimp only
    split
    · split
      · exact failsOnly_of_ok ⟨_, rfl⟩
      · exact failsOnly_error trivial
    · split <;> exact failsOnly_of_ok ⟨_, rfl⟩

theorem own_text (value : Json) : FailsOnly Fault.Own value.text := (broken_writtenText _).own

theorem own_itemText (item : Json) : FailsOnly Fault.Own (HintValue.itemText item) := by
  unfold HintValue.itemText
  split
  · exact failsOnly_of_ok ⟨_, rfl⟩
  · exact own_text item

theorem own_ofJson (value : Json) : FailsOnly Fault.Own (HintValue.ofJson value) := by
  unfold HintValue.ofJson
  split
  · exact failsOnly_of_ok ⟨_, rfl⟩
  · exact failsOnly_of_ok ⟨_, rfl⟩
  · exact failsOnly_of_ok ⟨_, rfl⟩
  · exact (FailsOnly.mapM fun item _ => own_itemText item).bind fun _ _ => own_ofText _
  · exact (own_text value).bind fun s _ => own_ofText s

theorem own_put (h : Hints) (key : String) (value : Json) : FailsOnly Fault.Own (h.put key value) :=
  (own_ofJson value).bind fun _ _ => failsOnly_of_ok ⟨_, rfl⟩

theorem own_putAll (h : Hints) (values : List (String × Json)) :
    FailsOnly Fault.Own (h.putAll values) := by
  induction values generalizing h with
  | nil => exact failsOnly_of_ok ⟨h, rfl⟩
  | cons pair rest ih =>
    rw [Hints.putAll_cons]
    exact (own_put h pair.1 pair.2).bind fun h' _ => ih h'

theorem own_putDefault (h : Hints) (key : String) (value : Json) :
    FailsOnly Fault.Own (h.putDefault key value) := by
  unfold Hints.putDefault
  split
  · exact failsOnly_of_ok ⟨h, rfl⟩
  · exact own_put h key value

theorem own_hintsOfBody (extra : Members) : FailsOnly Fault.Own (Hints.ofBody extra) :=
  (own_putAll _ _).bind fun _ _ => (own_putDefault _ _ _).bind fun _ _ =>
    (own_putDefault _ _ _).bind fun _ _ => own_putDefault _ _ _

/-! ## 2. Points -/

theorem own_isFiniteReal (value : Json) : FailsOnly Fault.Own value.isFiniteReal := by
  cases value <;> first
    | exact failsOnly_of_ok ⟨_, rfl⟩
    | exact failsOnly_error trivial
    | exact (broken_floatOfInt _).own.bind fun _ _ => failsOnly_of_ok ⟨_, rfl⟩

theorem own_refuse {α : Type} (reason : String → String → Refusal) (lat lon : Json) :
    FailsOnly Fault.Own (Point.refuse reason lat lon : Except Fault α) :=
  (own_text lat).bind fun _ _ => (own_text lon).bind fun _ _ => failsOnly_error trivial

theorem own_bothFinite (lat lon : Json) : FailsOnly Fault.Own (Point.bothFinite lat lon) := by
  refine (own_isFiniteReal lat).bind fun finite _ => ?_
  split
  · exact own_isFiniteReal lon
  · exact failsOnly_of_ok ⟨_, rfl⟩

theorem own_pointOf (lat lon : Json) : FailsOnly Fault.Own (Point.of lat lon) := by
  refine (own_bothFinite lat lon).bind fun finite _ => ?_
  split
  · split
    · exact failsOnly_of_ok ⟨_, rfl⟩
    · exact own_refuse _ lat lon
  · exact own_refuse _ lat lon

theorem own_parse (value : String) : FailsOnly Fault.Own (Point.parse value) := by
  unfold Point.parse
  split
  · split
    · exact own_pointOf _ _
    · exact failsOnly_error trivial
  · exact failsOnly_error trivial

/-! ## 3. Requests -/

theorem own_ensureElevation (requested hasElevation : Bool) :
    FailsOnly Fault.Own (ensureElevation requested hasElevation) := by
  unfold ensureElevation
  split
  · exact failsOnly_error trivial
  · exact failsOnly_of_ok ⟨_, rfl⟩

theorem own_validate (r : Request) : FailsOnly Fault.Own r.validate := by
  unfold Request.validate
  split
  · exact failsOnly_error trivial
  · split
    · exact failsOnly_error trivial
    · split
      · exact failsOnly_error trivial
      · split
        · exact failsOnly_error trivial
        · exact failsOnly_of_ok ⟨_, rfl⟩

/-- **Building the request of a query fails with own faults only.** -/
theorem own_ofQuery (options : ServerOptions) (q : RouteQuery) (raw : Grouped) :
    FailsOnly Fault.Own (Request.ofQuery options q raw) :=
  (own_ensureElevation _ _).bind fun _ _ => (own_putAll _ _).bind fun _ _ =>
    (FailsOnly.mapM fun value _ => own_parse value).bind fun _ _ => own_validate _

/-- **Building the request of a body fails with own faults only.** -/
theorem own_ofBody (options : ServerOptions) (body : RouteBody) :
    FailsOnly Fault.Own (Request.ofBody options body) :=
  (own_hintsOfBody _).bind fun _ _ => (own_ensureElevation _ _).bind fun _ _ => own_validate _

theorem own_stripped (h : Hints) (key : String) : FailsOnly Fault.Own (h.stripped key) := by
  rintro fault hfault
  unfold Hints.stripped at hfault
  rw [bind_pure_comp, map_eq_error, Hints.text?_eq_error] at hfault
  rw [hfault.2]
  trivial

theorem own_wishedProfile (names : List String) (wish : String) :
    FailsOnly Fault.Own (wishedProfile names wish) := by
  unfold wishedProfile
  split
  · exact failsOnly_of_ok ⟨_, rfl⟩
  · exact failsOnly_error trivial

theorem own_vehicleProfile (names : List String) (first vehicle : String) :
    FailsOnly Fault.Own (vehicleProfile names first vehicle) := by
  unfold vehicleProfile
  split
  · exact failsOnly_of_ok ⟨_, rfl⟩
  · split
    · exact failsOnly_of_ok ⟨_, rfl⟩
    · exact failsOnly_error trivial

theorem own_configuredProfiles (names : List String) (hints : Hints) :
    FailsOnly Fault.Own (configuredProfiles names hints) := by
  unfold configuredProfiles
  cases names with
  | nil => exact failsOnly_error trivial
  | cons first rest =>
    refine (own_stripped hints Key.profile).bind fun wish _ => ?_
    split
    · exact (own_stripped hints Key.vehicle).bind fun _ _ => own_vehicleProfile _ _ _
    · exact own_wishedProfile _ wish

/-- **Choosing a configured profile fails with own faults only.** -/
theorem own_resolveProfile (names : List String) (r : Request) :
    FailsOnly Fault.Own (resolveProfile (configuredProfiles names) r) := by
  have hchosen : FailsOnly Fault.Own (chosenProfile (configuredProfiles names) r) := by
    have hresolved :
        FailsOnly Fault.Own (resolutionHints r r.profile >>= configuredProfiles names) :=
      ((own_put _ _ _).bind fun _ _ => failsOnly_of_ok ⟨_, rfl⟩).bind fun hints _ =>
        own_configuredProfiles names hints
    unfold chosenProfile
    dsimp only [Option.getD_none]
    split
    · exact failsOnly_error trivial
    · exact hresolved
  exact hchosen.bind fun name _ => failsOnly_of_ok ⟨_, rfl⟩

end Waypost
