import Waypost.Proofs.Hints.Echo
import Waypost.Proofs.Request.ChosenProfile

/-!
# How a profile is resolved

The profile that is asked for goes through the hints before the resolver sees it, so the resolver
sees what comes back of it. Where blanks were asked for nothing comes back, and then the vehicle or
the first name decides.

* `Resolves` -- what the resolver of some names does with a wish and a vehicle;
  `exists_resolves` -- **it does exactly that**;
* `assignProfile` -- the profile of a request assigned in place, and `run_assignProfile` -- this is
  `resolveProfile`, with the request as it was where that fails;
* `assigned_guarded`, `assigned_of_overlong`, `assigned_of_comesBackAs` -- the three ways in which
  that ends: at the guard, with a text that cannot be read, or with the answer of the resolver;
* `assigned_without_model`, `assigned_with_model` -- **what is assigned to a request without and
  with a custom model**.
-/

namespace Waypost

open Text Decimal

/-! ## 1. The resolver of some names -/

/-- How a resolver comes to a name. -/
inductive ProfileWay where
  | wished
  | byVehicle
  | first
  deriving DecidableEq, Repr

/-- What the resolver of some names does with a wish and a vehicle: a wish has to be one of the
    names, else the first name that begins with the vehicle is taken, else the first name. A
    vehicle that cannot be told fails where it is asked for, and nowhere else. -/
inductive Resolves (names : List String) (wish : String) (vehicle : Except Fault String) :
    Except Fault (ProfileWay × String) → Prop
  | noNames (hnames : names = []) : Resolves names wish vehicle (.error (.refused .noProfiles))
  | wished (hwish : wish ≠ "") (hknown : wish ∈ names) :
      Resolves names wish vehicle (.ok (.wished, wish))
  | unknown (hnames : names ≠ []) (hwish : wish ≠ "") (hunknown : wish ∉ names) :
      Resolves names wish vehicle (.error (.refused (.unknownProfile wish names)))
  | untold {fault : Fault} (hnames : names ≠ []) (hwish : wish = "")
      (hvehicle : vehicle = .error fault) : Resolves names wish vehicle (.error fault)
  | byVehicle {text : String} {before after : List String} {name : String} (hwish : wish = "")
      (hvehicle : vehicle = .ok text) (htext : text ≠ "") (hnames : names = before ++ name :: after)
      (hfits : text.toList <+: name.toList)
      (hfirst : ∀ other ∈ before, ¬ text.toList <+: other.toList) :
      Resolves names wish vehicle (.ok (.byVehicle, name))
  | noVehicle {text : String} (hnames : names ≠ []) (hwish : wish = "")
      (hvehicle : vehicle = .ok text) (htext : text ≠ "")
      (hnone : ∀ name ∈ names, ¬ text.toList <+: name.toList) :
      Resolves names wish vehicle (.error (.refused (.noProfileForVehicle text names)))
  | first {name : String} {rest : List String} (hwish : wish = "") (hvehicle : vehicle = .ok "")
      (hnames : names = name :: rest) : Resolves names wish vehicle (.ok (.first, name))

section Resolver

variable {names : List String} {wish : String} {vehicle : Except Fault String}

theorem beginsWith_iff {start s : String} : beginsWith start s = true ↔ start.toList <+: s.toList :=
  List.isPrefixOf_iff_prefix

/-- What is taken where nothing is wished for and the vehicle is told. -/
theorem exists_resolves_of_vehicle (first : String) (rest : List String) (text : String) :
    ∃ outcome, Resolves (first :: rest) "" (.ok text) outcome ∧
      vehicleProfile (first :: rest) first text = Prod.snd <$> outcome := by
  have hne : first :: rest ≠ [] := List.cons_ne_nil first rest
  unfold vehicleProfile
  by_cases htext : text = ""
  · subst htext
    exact ⟨_, .first rfl rfl rfl, rfl⟩
  · rw [if_neg (by simpa using htext)]
    split
    · rename_i name hname
      obtain ⟨hfits, before, after, hnames, hfirst⟩ := List.find?_eq_some_iff_append.mp hname
      refine ⟨.ok (.byVehicle, name), ?_, rfl⟩
      refine .byVehicle rfl rfl htext hnames (beginsWith_iff.mp hfits) fun other hother hfit => ?_
      have hnot := hfirst other hother
      rw [beginsWith_iff.mpr hfit] at hnot
      exact absurd hnot (by decide)
    · rename_i hnone
      refine ⟨.error (.refused (.noProfileForVehicle text (first :: rest))), ?_, rfl⟩
      refine .noVehicle hne rfl rfl htext fun name hname hfit => ?_
      exact List.find?_eq_none.mp hnone name hname (beginsWith_iff.mpr hfit)

/-- **The resolver of some names does what `Resolves` says** with the texts under profile and
    vehicle. -/
theorem exists_resolves (names : List String) {hints : Hints}
    (hwish : hints.stripped Key.profile = .ok wish) :
    ∃ outcome, Resolves names wish (hints.stripped Key.vehicle) outcome ∧
      configuredProfiles names hints = Prod.snd <$> outcome := by
  unfold configuredProfiles
  cases names with
  | nil => exact ⟨_, .noNames rfl, rfl⟩
  | cons first rest =>
    have hne : first :: rest ≠ [] := List.cons_ne_nil first rest
    dsimp only
    rw [hwish, ok_bind]
    generalize hints.stripped Key.vehicle = vehicle
    by_cases hempty : wish = ""
    · subst hempty
      rw [if_pos (by decide)]
      cases vehicle with
      | error fault => exact ⟨_, .untold hne rfl rfl, rfl⟩
      | ok text => exact exists_resolves_of_vehicle first rest text
    · rw [if_neg (by simpa using hempty)]
      unfold wishedProfile
      by_cases hknown : wish ∈ first :: rest
      · rw [if_pos (List.contains_iff_mem.mpr hknown)]
        exact ⟨_, .wished hempty hknown, rfl⟩
      · rw [if_neg (List.contains_iff_mem.not.mpr hknown)]
        exact ⟨_, .unknown hne hempty hknown, rfl⟩

/-- Where there is a wish, neither vehicle nor first name decides. -/
theorem Resolves.way_of_wish {way : ProfileWay} {name : String}
    (h : Resolves names wish vehicle (.ok (way, name))) (hwish : wish ≠ "") :
    way = .wished ∧ name = wish := by
  cases h with
  | wished => exact ⟨rfl, rfl⟩
  | byVehicle hempty => exact absurd hempty hwish
  | first hempty => exact absurd hempty hwish

/-- Where there is no wish, nothing comes of one. -/
theorem Resolves.way_ne_wished {way : ProfileWay} {name : String}
    (h : Resolves names "" vehicle (.ok (way, name))) : way ≠ .wished := by
  rintro rfl
  cases h with
  | wished hwish => exact hwish rfl

/-- A wish that is one of the names is found. -/
theorem Resolves.of_known {outcome : Except Fault (ProfileWay × String)}
    (h : Resolves names wish vehicle outcome) (hwish : wish ≠ "") (hknown : wish ∈ names) :
    outcome = .ok (.wished, wish) := by
  cases h with
  | noNames hnames =>
    rw [hnames] at hknown
    exact absurd hknown List.not_mem_nil
  | wished => rfl
  | unknown _ _ hunknown => exact absurd hknown hunknown
  | untold _ hempty => exact absurd hempty hwish
  | byVehicle hempty => exact absurd hempty hwish
  | noVehicle _ hempty => exact absurd hempty hwish
  | first hempty => exact absurd hempty hwish

/-- The name that is found is one of the names. -/
theorem Resolves.mem {way : ProfileWay} {name : String}
    (h : Resolves names wish vehicle (.ok (way, name))) : name ∈ names := by
  cases h with
  | wished _ hknown => exact hknown
  | byVehicle _ _ _ hnames =>
    rw [hnames]
    exact List.mem_append_right _ List.mem_cons_self
  | first _ _ hnames =>
    rw [hnames]
    exact List.mem_cons_self

end Resolver

/-! ## 2. Assigning the profile -/

/-- The profile of a request assigned in place: the request is left as it is until a name is found,
    and an empty name leaves it so. -/
def assignProfile (resolver : Resolver) (requested : Option String) :
    ExceptT Fault (StateM Request) String := do
  let r ← get
  let name ← liftExcept (chosenProfile resolver r requested)
  if !name.isEmpty then set { r with profile := name }
  return (← get).profile

/-- The profile text that counts: the one that is asked for, else that of the request. -/
def Request.rawProfile (r : Request) (requested : Option String) : String :=
  requested.getD r.profile

/-- What is answered when some names are configured, and the request afterwards. -/
def assigned (names : List String) (requested : Option String) (r : Request) :
    Except Fault String × Request :=
  (assignProfile (configuredProfiles names) requested).run.run r

/-- How a resolution ends. -/
def ended (r : Request) : Except Fault (ProfileWay × String) → Except Fault String × Request
  | .ok (_, name) =>
    if name = "" then (.ok r.profile, r) else (.ok name, { r with profile := name })
  | .error fault => (.error fault, r)

theorem ended_of_ne {name : String} (h : name ≠ "") (r : Request) (way : ProfileWay) :
    ended r (.ok (way, name)) = (.ok name, { r with profile := name }) := by
  unfold ended
  dsimp only
  rw [if_neg h]

section Assigned

variable {names : List String} {r : Request} {requested : Option String}

/-- **Assigning in place is resolving**, and where that fails the request is as it was. -/
theorem run_assignProfile (resolver : Resolver) (requested : Option String) (r : Request) :
    (assignProfile resolver requested).run.run r =
      match resolveProfile resolver r requested with
      | .ok s => (.ok s.profile, s)
      | .error fault => (.error fault, r) := by
  -- the request that is read first is the one at hand
  have hread : (assignProfile resolver requested).run.run r =
      (do
        let name ← liftExcept (chosenProfile resolver r requested)
        if !name.isEmpty then set { r with profile := name }
        return (← get).profile : ExceptT Fault (StateM Request) String).run.run r := rfl
  rw [hread]
  unfold resolveProfile
  cases chosenProfile resolver r requested with
  | error fault => rfl
  | ok name =>
    rw [ok_bind]
    unfold liftExcept
    dsimp only
    rw [pure_bind]
    cases name.isEmpty with
    | true => rfl
    | false => rfl

/-- A text that was put is written as what comes back of it. -/
theorem stripped_of_sent {h : Hints} {key text : String} {value : HintValue}
    (hvalue : HintValue.ofText text = .ok value) (hsent : h.get? key = some value) :
    ∃ back, h.stripped key = .ok back ∧ ComesBackAs text back := by
  obtain ⟨shown, hshown, hback⟩ := comesBackAs_of_ofText hvalue
  refine ⟨strip shown, ?_, hback⟩
  have htext : h.text? key = some <$> value.shown := by
    unfold Hints.text?
    rw [hsent]
    rfl
  unfold Hints.stripped
  rw [htext, hshown]
  rfl

theorem stripped_of_unsent {h : Hints} {key : String} (hsent : h.get? key = none) :
    h.stripped key = .ok "" := by
  unfold Hints.stripped Hints.text?
  rw [hsent]
  rfl

/-- The text under a key cannot be told exactly when it is that of a whole number with too many
    digits. -/
theorem stripped_eq_error {h : Hints} {key : String} {fault : Fault} :
    h.stripped key = .error fault ↔
      (∃ n, h.get? key = some (.int n) ∧ fewDigits n = false) ∧
        fault = .unexpected .longInteger := by
  rw [← Hints.text?_eq_error]
  exact map_eq_error

/-- The resolver sees what comes back of the profile, and the vehicle of the request. -/
theorem stripped_resolutionHints {rawProfile : String} {hints : Hints}
    (h : resolutionHints r rawProfile = .ok hints) :
    (∃ wish, hints.stripped Key.profile = .ok wish ∧ ComesBackAs rawProfile wish) ∧
      hints.stripped Key.vehicle = r.hints.stripped Key.vehicle := by
  obtain ⟨hprofile, hvehicle, hapart⟩ := resolutionKeys_apart
  rw [resolutionHints_eq, map_eq_ok, HintValue.ofJson_str] at h
  obtain ⟨value, hvalue, rfl⟩ := h
  constructor
  · refine stripped_of_sent hvalue ?_
    rw [Hints.get?_set_of_ne _ hprofile, Hints.get?_set_self]
  · unfold Hints.stripped Hints.text?
    rw [Hints.get?_set_of_ne _ hvehicle, Hints.get?_set_of_ne _ hapart]

/-- Where no name is chosen the request is as it was. -/
theorem assigned_of_error {fault : Fault}
    (h : chosenProfile (configuredProfiles names) r requested = .error fault) :
    assigned names requested r = (.error fault, r) := by
  unfold assigned
  rw [run_assignProfile]
  unfold resolveProfile
  rw [h]
  rfl

/-- What is chosen is assigned. -/
theorem assigned_of_answer {outcome : Except Fault (ProfileWay × String)}
    (h : chosenProfile (configuredProfiles names) r requested = Prod.snd <$> outcome) :
    assigned names requested r = ended r outcome := by
  cases outcome with
  | error fault => exact assigned_of_error h
  | ok choice =>
    obtain ⟨way, name⟩ := choice
    have hname : chosenProfile (configuredProfiles names) r requested = .ok name := h
    unfold assigned
    rw [run_assignProfile]
    unfold resolveProfile
    rw [hname, ok_bind]
    by_cases hempty : name = ""
    · subst hempty
      rfl
    · have hsome : name.isEmpty = false := by simpa using hempty
      rw [ended_of_ne hempty r way, hsome]
      rfl

/-- Without a profile text a custom model is refused. -/
theorem assigned_guarded (hraw : r.rawProfile requested = "") (hmodel : r.customModel.isSome) :
    assigned names requested r = (.error (.refused .customModelWithoutProfile), r) := by
  refine assigned_of_error ?_
  unfold chosenProfile
  dsimp only
  rw [← Request.rawProfile, hraw, hmodel]
  rfl

/-- Past the guard the resolver is asked. -/
theorem chosenProfile_of_free (resolver : Resolver)
    (hfree : r.rawProfile requested ≠ "" ∨ r.customModel = none) :
    chosenProfile resolver r requested =
      resolutionHints r (r.rawProfile requested) >>= resolver := by
  unfold chosenProfile
  dsimp only
  rw [← Request.rawProfile]
  rcases hfree with hraw | hmodel
  · rw [if_neg (by simp [hraw])]
  · rw [hmodel, if_neg (by simp)]

/-- **An overlong profile text breaks down**, and the request is as it was. -/
theorem assigned_of_overlong (names : List String)
    (hfree : r.rawProfile requested ≠ "" ∨ r.customModel = none)
    (hlong : Overlong (r.rawProfile requested)) :
    ∃ count, digitLimit < count ∧
      assigned names requested r = (.error (.unexpected (.digitLimit count)), r) := by
  obtain ⟨count, hcount, herror⟩ := HintValue.ofText_of_overlong hlong
  refine ⟨count, hcount, assigned_of_error ?_⟩
  rw [chosenProfile_of_free _ hfree, resolutionHints_eq, HintValue.ofJson_str, herror]
  rfl

/-- **Any other profile text is resolved as what comes back of it.** -/
theorem assigned_of_comesBackAs (names : List String)
    (hfree : r.rawProfile requested ≠ "" ∨ r.customModel = none) {wish : String}
    (hwish : ComesBackAs (r.rawProfile requested) wish) :
    ∃ outcome, Resolves names wish (r.hints.stripped Key.vehicle) outcome ∧
      assigned names requested r = ended r outcome := by
  obtain ⟨value, hvalue⟩ := hwish.readable
  obtain ⟨hints, hhints⟩ : ∃ hints, resolutionHints r (r.rawProfile requested) = .ok hints := by
    rw [resolutionHints_eq, HintValue.ofJson_str, hvalue]
    exact ⟨_, rfl⟩
  obtain ⟨⟨seen, hprofile, hseen⟩, hvehicle⟩ := stripped_resolutionHints hhints
  obtain ⟨outcome, hresolves, hanswer⟩ := exists_resolves names hprofile
  rw [← hwish.unique hseen, hvehicle] at hresolves
  refine ⟨outcome, hresolves, assigned_of_answer ?_⟩
  rw [chosenProfile_of_free _ hfree, hhints, ok_bind, hanswer]

/-- **A name that was asked for is found exactly when it is configured and comes back as it
    was.** -/
theorem assigned_eq_asked (hnames : ∀ name ∈ names, name ≠ "")
    (hfree : r.rawProfile requested ≠ "" ∨ r.customModel = none) {name : String}
    (hasked : strip (r.rawProfile requested) = name) (hname : name ≠ "") :
    assigned names requested r = (.ok name, { r with profile := name }) ↔
      name ∈ names ∧ ComesBackAs (r.rawProfile requested) name := by
  constructor
  · intro hassigned
    have hshort : ¬ Overlong (r.rawProfile requested) := by
      intro hlong
      obtain ⟨count, -, herror⟩ := assigned_of_overlong names hfree hlong
      rw [hassigned] at herror
      cases herror
    obtain ⟨wish, hwish⟩ := exists_comesBackAs.mpr hshort
    obtain ⟨outcome, hresolves, hended⟩ := assigned_of_comesBackAs names hfree hwish
    have hwishNe : wish ≠ "" := by
      rw [ne_eq, hwish.eq_empty_iff, hasked]
      exact hname
    cases outcome with
    | error fault =>
      rw [hassigned] at hended
      cases hended
    | ok choice =>
      obtain ⟨way, found⟩ := choice
      have hfound : found = wish := (hresolves.way_of_wish hwishNe).2
      rw [hassigned, ended_of_ne (hnames found hresolves.mem)] at hended
      have hsame : name = found := Except.ok.inj (Prod.mk.inj hended).1
      rw [hsame]
      refine ⟨hresolves.mem, ?_⟩
      rw [hfound]
      exact hwish
  · intro hfound
    obtain ⟨hknown, hback⟩ := hfound
    obtain ⟨outcome, hresolves, hended⟩ := assigned_of_comesBackAs names hfree hback
    rw [hended, hresolves.of_known hname hknown, ended_of_ne hname]

/-! ## 3. Without and with a custom model -/

/-- What is assigned as the profile of a request without a custom model. What comes back of the
    profile text is the wish, and what comes back of the vehicle text is the vehicle; there is none
    where the text is blank. -/
structure AssignedFreely (names : List String) (requested : Option String) (r : Request) :
    Prop where
  resolved : ∀ wish, ComesBackAs (r.rawProfile requested) wish →
    (wish = "" ↔ strip (r.rawProfile requested) = "") ∧
    ((∃ way name, Resolves names wish (r.hints.stripped Key.vehicle) (.ok (way, name)) ∧
      assigned names requested r = (.ok name, { r with profile := name })) ∨
    ∃ fault, Resolves names wish (r.hints.stripped Key.vehicle) (.error fault) ∧
      assigned names requested r = (.error fault, r))
  overlong : Overlong (r.rawProfile requested) → ∃ count, digitLimit < count ∧
    assigned names requested r = (.error (.unexpected (.digitLimit count)), r)
  covered : (∃ wish, ComesBackAs (r.rawProfile requested) wish) ∨
    Overlong (r.rawProfile requested)
  unsent : r.hints.get? Key.vehicle = none → r.hints.stripped Key.vehicle = .ok ""
  sent : ∀ text value, HintValue.ofText text = .ok value →
    r.hints.get? Key.vehicle = some value → ∃ vehicle,
      r.hints.stripped Key.vehicle = .ok vehicle ∧ ComesBackAs text vehicle ∧
        (vehicle = "" ↔ strip text = "")
  untold : ∀ fault, r.hints.stripped Key.vehicle = .error fault ↔
    (∃ n, r.hints.get? Key.vehicle = some (.int n) ∧ fewDigits n = false) ∧
      fault = .unexpected .longInteger
  asked : ∀ name, strip (r.rawProfile requested) = name → name ≠ "" →
    (assigned names requested r = (.ok name, { r with profile := name }) ↔
      name ∈ names ∧ ComesBackAs (r.rawProfile requested) name)

/-- **The profile of a request without a custom model** is resolved as `Resolves` says; so a name
    that was asked for is found exactly when it is configured and comes back as it was. -/
theorem assigned_without_model (hnames : ∀ name ∈ names, name ≠ "") (hmodel : r.customModel = none)
    (requested : Option String) : AssignedFreely names requested r where
  resolved wish hwish := by
    obtain ⟨outcome, hresolves, hended⟩ := assigned_of_comesBackAs names (Or.inr hmodel) hwish
    refine ⟨hwish.eq_empty_iff, ?_⟩
    cases outcome with
    | error fault => exact Or.inr ⟨fault, hresolves, hended⟩
    | ok choice =>
      obtain ⟨way, name⟩ := choice
      rw [ended_of_ne (hnames name hresolves.mem)] at hended
      exact Or.inl ⟨way, name, hresolves, hended⟩
  overlong := assigned_of_overlong names (Or.inr hmodel)
  covered := by
    rw [exists_comesBackAs]
    exact (Classical.em (Overlong (r.rawProfile requested))).symm
  unsent := stripped_of_unsent
  sent text value hvalue hsent := by
    obtain ⟨vehicle, htold, hback⟩ := stripped_of_sent hvalue hsent
    exact ⟨vehicle, htold, hback, hback.eq_empty_iff⟩
  untold _ := stripped_eq_error
  asked _ := assigned_eq_asked hnames (Or.inr hmodel)

/-- Asked for with blanks around it, a configured name is found. -/
theorem assigned_without_model_bike :
    (∀ name ∈ ["car", "bike"], name ≠ "") ∧
      ({ points := [], profile := "car" } : Request).customModel = none ∧
      AssignedFreely ["car", "bike"] (some " bike ") { points := [], profile := "car" } := by
  have hnames : ∀ name ∈ ["car", "bike"], name ≠ "" := by decide
  exact ⟨hnames, rfl, assigned_without_model hnames rfl _⟩

/-- A configured name that spells a number is not found when it is asked for. -/
theorem number_name_refused :
    (∀ name ∈ ["car", "040"], strip name = name ∧ name ≠ "") ∧ "040" ∈ ["car", "040"] ∧
      assigned ["car", "040"] (some "040") { points := [] } =
        (.error (.refused (.unknownProfile "40" ["car", "040"])), { points := [] }) :=
  ⟨by decide +kernel, by decide, rfl⟩

/-- What is assigned as the profile of a request with a custom model. -/
structure AssignedWithModel (names : List String) (requested : Option String) (r : Request) :
    Prop where
  unnamed : r.rawProfile requested = "" →
    assigned names requested r = (.error (.refused .customModelWithoutProfile), r)
  named : strip (r.rawProfile requested) ≠ "" →
    (∃ name, ComesBackAs (r.rawProfile requested) name ∧
      Resolves names name (r.hints.stripped Key.vehicle) (.ok (.wished, name)) ∧
      assigned names requested r = (.ok name, { r with profile := name })) ∨
    (∃ wish fault, ComesBackAs (r.rawProfile requested) wish ∧
      Resolves names wish (r.hints.stripped Key.vehicle) (.error fault) ∧
      assigned names requested r = (.error fault, r)) ∨
    Overlong (r.rawProfile requested) ∧ ∃ count, digitLimit < count ∧
      assigned names requested r = (.error (.unexpected (.digitLimit count)), r)
  blank : r.rawProfile requested ≠ "" → strip (r.rawProfile requested) = "" →
    ∃ outcome, Resolves names "" (r.hints.stripped Key.vehicle) outcome ∧
      assigned names requested r = ended r outcome ∧ ∀ name, outcome ≠ .ok (.wished, name)

/-- **The profile of a request with a custom model.** Without a profile text the request is refused,
    and a text that is more than blanks is resolved as the wish that comes back of it. But blanks
    are a text and no wish: with them the vehicle or the first name decides. -/
theorem assigned_with_model (hmodel : r.customModel.isSome) (names : List String)
    (requested : Option String) : AssignedWithModel names requested r where
  unnamed hraw := assigned_guarded hraw hmodel
  named hasked := by
    have hfree : r.rawProfile requested ≠ "" ∨ r.customModel = none := by
      refine Or.inl fun hraw => hasked ?_
      rw [hraw]
      decide
    by_cases hlong : Overlong (r.rawProfile requested)
    · exact Or.inr (Or.inr ⟨hlong, assigned_of_overlong names hfree hlong⟩)
    · obtain ⟨wish, hwish⟩ := exists_comesBackAs.mpr hlong
      have hwishNe : wish ≠ "" := hwish.eq_empty_iff.not.mpr hasked
      obtain ⟨outcome, hresolves, hended⟩ := assigned_of_comesBackAs names hfree hwish
      cases outcome with
      | error fault => exact Or.inr (Or.inl ⟨wish, fault, hwish, hresolves, hended⟩)
      | ok choice =>
        obtain ⟨way, name⟩ := choice
        obtain ⟨rfl, rfl⟩ := hresolves.way_of_wish hwishNe
        rw [ended_of_ne hwishNe] at hended
        exact Or.inl ⟨name, hwish, hresolves, hended⟩
  blank hraw hblank := by
    obtain ⟨outcome, hresolves, hended⟩ :=
      assigned_of_comesBackAs names (Or.inl hraw) (comesBackAs_of_blank hblank)
    refine ⟨outcome, hresolves, hended, ?_⟩
    rintro name rfl
    exact hresolves.way_ne_wished rfl

/-- A custom model with the name of a profile runs on that profile. -/
theorem assigned_with_model_bike :
    ({ points := [], profile := "bike", customModel := some [] } : Request).customModel.isSome ∧
      AssignedWithModel ["car", "bike"] none
        { points := [], profile := "bike", customModel := some [] } :=
  ⟨rfl, assigned_with_model rfl _ _⟩

/-- A custom model whose profile is a blank runs on the first profile. -/
theorem blank_profile_runs :
    strip " " = "" ∧ Resolves ["car", "bike"] "" (.ok "") (.ok (.first, "car")) ∧
      assigned ["car", "bike"] none { points := [], profile := " ", customModel := some [] } =
        (.ok "car", { points := [], profile := "car", customModel := some [] }) :=
  ⟨by decide +kernel, .first rfl rfl rfl, rfl⟩

end Assigned

end Waypost
