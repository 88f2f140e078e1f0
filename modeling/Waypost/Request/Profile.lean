import Waypost.Request.Basic

/-!
# Choosing a profile

* `Resolver` -- names the profile for some hints, or refuses;
* `configuredProfiles` -- the resolver of a list of names: an explicit profile has to be one of
  them, else the vehicle hint picks the first name that begins with it, else the first name is
  taken;
* `chosenProfile` and `resolveProfile` -- ask a resolver, and write its answer into the request.
-/

namespace Waypost

open Text

/-- Names the profile for the hints of a request. -/
abbrev Resolver := Hints → Except Fault String

/-- Whether a text begins with another. -/
def beginsWith (start s : String) : Bool := start.toList.isPrefixOf s.toList

/-- The text of a hint without blanks around it; a missing hint is empty. -/
def Hints.stripped (h : Hints) (key : String) : Except Fault String := do
  return strip ((← h.text? key).getD "")

/-- The profile of a wish, which has to be one of the names. -/
def wishedProfile (names : List String) (wish : String) : Except Fault String :=
  if names.contains wish then .ok wish else .error (.refused (.unknownProfile wish names))

/-- The first name that begins with the vehicle, or without a vehicle the first name of all. -/
def vehicleProfile (names : List String) (first vehicle : String) : Except Fault String :=
  if vehicle.isEmpty then .ok first
  else
    match names.find? (beginsWith vehicle) with
    | some name => .ok name
    | none => .error (.refused (.noProfileForVehicle vehicle names))

/-- The resolver of the names a server was configured with. The vehicle is looked at only where no
    profile is asked for. -/
def configuredProfiles (names : List String) : Resolver := fun hints =>
  match names with
  | [] => .error (.refused .noProfiles)
  | first :: _ => do
    let wish ← hints.stripped Key.profile
    if wish.isEmpty then vehicleProfile names first (← hints.stripped Key.vehicle)
    else wishedProfile names wish

/-- The hints a resolver sees: those of the request, the profile as it was asked for, and whether
    curbsides were given. -/
def resolutionHints (r : Request) (rawProfile : String) : Except Fault Hints := do
  let h ← r.hints.put Key.profile (.str rawProfile)
  return h.set Key.hasCurbsides (.flag !r.curbsides.isEmpty)

/-- The name that a resolver gives to a request, or to a profile that is asked for in place of the
    one of the request. A custom model needs an explicit profile. -/
def chosenProfile (resolver : Resolver) (r : Request) (requested : Option String := none) :
    Except Fault String := do
  let rawProfile := requested.getD r.profile
  if rawProfile.isEmpty && r.customModel.isSome then
    throw (.refused .customModelWithoutProfile)
  resolver (← resolutionHints r rawProfile)

/-- The request with the profile that the resolver names; an empty name leaves it as it is. -/
def resolveProfile (resolver : Resolver) (r : Request) (requested : Option String := none) :
    Except Fault Request := do
  let name ← chosenProfile resolver r requested
  return if name.isEmpty then r else { r with profile := name }

end Waypost
