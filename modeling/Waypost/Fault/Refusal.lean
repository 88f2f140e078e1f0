import Waypost.Text.Quoted

/-!
# Reasons to turn a request down

* `Refusal` -- what is wrong with the input of a caller, one constructor per cause;
* `Refusal.message` -- the wording of each. Input that is refused without a word is named by the
  kind of the failure.

Points are named by the texts of their two coordinates, because a coordinate that is refused need
not be a number that a point could hold.
-/

namespace Waypost

open Text

/-- Why the input of a caller is refused. -/
inductive Refusal where
  | noPoints
  | noDestinations
  | misaligned (list : String)
  | unreadablePoint (text : String)
  | nonFinitePoint (lat lon : String)
  | pointOutOfRange (lat lon : String)
  | elevationUnsupported
  | noProfiles
  | unknownProfile (name : String) (available : List String)
  | noProfileForVehicle (vehicle : String) (available : List String)
  | customModelWithoutProfile
  | unsupportedDetails (names supported : List String)
  | alternativesInTrack
  | unreadableMillis (text : String)
  | invalidInput (message : String)
  deriving DecidableEq, Repr

/-- The wording of a refusal. -/
def Refusal.message : Refusal → String
  | .noPoints => "You have to pass at least one point"
  | .noDestinations => "You have to pass at least one destination"
  | .misaligned list =>
    s!"If you pass {list}, you need to pass exactly one {list} for every point, "
      ++ s!"empty {list}s will be ignored"
  | .unreadablePoint text => s!"Cannot parse point '{text}'"
  | .nonFinitePoint lat lon => s!"Point coordinates must be finite numbers: {lat},{lon}"
  | .pointOutOfRange lat lon => s!"Point is out of range: {lat},{lon}"
  | .elevationUnsupported => "Elevation not supported!"
  | .noProfiles => "No profiles are configured on this server"
  | .unknownProfile name available =>
    s!"The requested profile '{name}' does not exist.\nAvailable profiles: "
      ++ quoteList available
  | .noProfileForVehicle vehicle available =>
    s!"Cannot find matching profile for your request. vehicle: '{vehicle}'. "
      ++ "Available profiles: " ++ quoteList available
  | .customModelWithoutProfile =>
    "The 'profile' parameter is required when you use the `custom_model` parameter"
  | .unsupportedDetails names supported =>
    "Cannot find the path details: " ++ quoteList names ++ ". Supported: " ++ quoteList supported
  | .alternativesInTrack => "Alternatives are currently not yet supported for GPX"
  | .unreadableMillis text => s!"Cannot parse gpx.millis '{text}'"
  | .invalidInput message => if message.isEmpty then "InvalidArgumentError" else message

end Waypost
