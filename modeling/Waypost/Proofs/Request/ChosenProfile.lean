import Waypost.Proofs.Fault.Steps
import Waypost.Request.Profile

/-!
# The profile that is chosen

* `configuredProfiles_mem` -- the resolver of some names answers with one of them;
* `resolveProfile_eq_ok` -- a request whose profile was resolved is the request before, but for the
  profile;
* `chosenProfile_congr` -- of the hints of a request, a configured resolver looks at the vehicle
  alone.
-/

namespace Waypost

open Text

theorem wishedProfile_eq_ok {names : List String} {wish name : String}
    (h : wishedProfile names wish = .ok name) : name = wish ∧ wish ∈ names := by
  unfold wishedProfile at h
  split at h
  · rename_i hknown
    cases h
    exact ⟨rfl, List.contains_iff_mem.mp hknown⟩
  · cases h

theorem vehicleProfile_mem {names : List String} {first vehicle name : String}
    (hfirst : first ∈ names) (h : vehicleProfile names first vehicle = .ok name) :
    name ∈ names := by
  unfold vehicleProfile at h
  split at h
  · cases h
    exact hfirst
  · split at h
    · rename_i found hfound
      cases h
      exact List.mem_of_find?_eq_some hfound
    · cases h

/-- **The resolver of some names answers with one of them**, or refuses. -/
theorem configuredProfiles_mem {names : List String} {hints : Hints} {name : String}
    (h : configuredProfiles names hints = .ok name) : name ∈ names := by
  cases names with
  | nil => cases h
  | cons first rest =>
    unfold configuredProfiles at h
    obtain ⟨wish, -, h⟩ := bind_eq_ok.mp h
    split at h
    · obtain ⟨vehicle, -, h⟩ := bind_eq_ok.mp h
      exact vehicleProfile_mem List.mem_cons_self h
    · obtain ⟨rfl, hknown⟩ := wishedProfile_eq_ok h
      exact hknown

theorem resolveProfile_eq_ok {resolver : Resolver} {r s : Request} {requested : Option String}
    (h : resolveProfile resolver r requested = .ok s) :
    ∃ name, chosenProfile resolver r requested = .ok name ∧
      s = if name.isEmpty then r else { r with profile := name } := by
  unfold resolveProfile at h
  obtain ⟨name, hn, h⟩ := bind_eq_ok.mp h
  cases h
  exact ⟨name, hn, rfl⟩

theorem chosenProfile_eq_ok {resolver : Resolver} {r : Request} {requested : Option String}
    {name : String} (h : chosenProfile resolver r requested = .ok name) :
    ∃ hints, resolver hints = .ok name := by
  unfold chosenProfile at h
  dsimp only at h
  split at h
  · cases h
  · obtain ⟨hints, _, h⟩ := bind_eq_ok.mp h
    exact ⟨hints, h⟩

/-- No name that is more than blanks is empty. -/
theorem isEmpty_of_not_blank {name : String} (h : strip name ≠ "") : name.isEmpty = false := by
  rw [Bool.eq_false_iff]
  intro he
  rw [String.isEmpty_iff] at he
  subst he
  exact h (by decide)

/-- **With configured names that are not blank, a resolved request carries one of them**, and is
    the request before in all else. -/
theorem resolveProfile_configured {names : List String} (hblank : ∀ name ∈ names, strip name ≠ "")
    {r s : Request} (h : resolveProfile (configuredProfiles names) r = .ok s) :
    ∃ name ∈ names, s = { r with profile := name } := by
  obtain ⟨name, hn, rfl⟩ := resolveProfile_eq_ok h
  obtain ⟨hints, hh⟩ := chosenProfile_eq_ok hn
  have hmem := configuredProfiles_mem hh
  rw [isEmpty_of_not_blank (hblank name hmem)]
  exact ⟨name, hmem, rfl⟩

/-! ## What a resolver looks at -/

/-- The resolver of some names looks at profile and vehicle alone. -/
theorem configuredProfiles_congr (names : List String) {h other : Hints}
    (hprofile : h.get? Key.profile = other.get? Key.profile)
    (hvehicle : h.get? Key.vehicle = other.get? Key.vehicle) :
    configuredProfiles names h = configuredProfiles names other := by
  unfold configuredProfiles Hints.stripped Hints.text?
  rw [hprofile, hvehicle]

/-- Where nothing else is asked for, the profile of the request is what the resolver sees. -/
theorem chosenProfile_eq (resolver : Resolver) (r : Request) : chosenProfile resolver r =
    if r.profile.isEmpty && r.customModel.isSome then
      .error (.refused .customModelWithoutProfile)
    else resolutionHints r r.profile >>= resolver := by
  unfold chosenProfile
  dsimp only [Option.getD_none]
  split <;> rfl

theorem resolutionHints_eq (r : Request) (rawProfile : String) :
    resolutionHints r rawProfile = (fun value => (r.hints.set Key.profile value).set
      Key.hasCurbsides (.flag !r.curbsides.isEmpty)) <$> HintValue.ofJson (.str rawProfile) := by
  unfold resolutionHints Hints.put
  cases HintValue.ofJson (.str rawProfile) <;> rfl

/-- What is put for a resolver stands under other keys than the vehicle. -/
theorem resolutionKeys_apart : normalizeKey Key.profile ≠ normalizeKey Key.hasCurbsides ∧
    normalizeKey Key.vehicle ≠ normalizeKey Key.hasCurbsides ∧
    normalizeKey Key.vehicle ≠ normalizeKey Key.profile := by
  decide +kernel

/-- **Of the hints of a request, a configured resolver looks at the vehicle alone**: the profile is
    the one of the request. -/
theorem chosenProfile_congr (names : List String) (r : Request) {h other : Hints}
    (hvehicle : h.get? Key.vehicle = other.get? Key.vehicle) :
    chosenProfile (configuredProfiles names) { r with hints := h } =
      chosenProfile (configuredProfiles names) { r with hints := other } := by
  obtain ⟨hprofileKey, hvehicleKey, hapart⟩ := resolutionKeys_apart
  have hresolved : ∀ value switch,
      configuredProfiles names ((h.set Key.profile value).set Key.hasCurbsides switch) =
        configuredProfiles names ((other.set Key.profile value).set Key.hasCurbsides switch) := by
    intro value switch
    refine configuredProfiles_congr names ?_ ?_
    · rw [Hints.get?_set_of_ne _ hprofileKey, Hints.get?_set_of_ne _ hprofileKey,
        Hints.get?_set_self, Hints.get?_set_self]
    · rw [Hints.get?_set_of_ne _ hvehicleKey, Hints.get?_set_of_ne _ hvehicleKey,
        Hints.get?_set_of_ne _ hapart, Hints.get?_set_of_ne _ hapart]
      exact hvehicle
  rw [chosenProfile_eq, chosenProfile_eq, resolutionHints_eq, resolutionHints_eq]
  dsimp only
  split
  · rfl
  · cases HintValue.ofJson (.str r.profile) with
    | error fault => rfl
    | ok value => exact hresolved value _

end Waypost
