import Waypost.Json.Reader
import Waypost.Schema.Body
import Waypost.Text.Blank
import Waypost.Text.Split

/-!
# Settings

What a server is configured with. Each setting comes from a given value, else from an environment
variable, else from its default.

* `Settings` -- all settings with their defaults;
* `ListValue` -- what can be given for a list setting;
* `ListValue.texts` -- a list setting: a list, the text of a JSON list, or texts between commas;
  items are stripped and blank ones dropped;
* `Settings.check` -- the settings of an environment and given values.
-/

namespace Waypost

open Check Text

/-- The settings of a server. -/
structure Settings where
  appName : String := "Route Gateway"
  apiPrefix : String := ""
  version : String := "1.0.0"
  logLevel : String := "INFO"
  engineBaseUrl : Option String := none
  engineTimeoutSeconds : Float := 30.0
  engineThreadSafe : Bool := true
  profiles : List String := ["car"]
  snapPreventionsDefault : List String := []
  hasElevation : Bool := false
  copyrights : List String := ["GraphHopper", "OpenStreetMap contributors"]
  bulkCopyrights : List String := ["Swift Routes", "powered by GraphHopper"]
  bulkMaxParallel : Int := 1
  gpxCreator : String := "GraphHopper"
  frontendAllowedOrigins : List String := []

/-! ## 1. Lists -/

/-- Stripped texts, less the blank ones. -/
def strippedTexts (texts : List String) : List String :=
  (texts.map strip).filter fun s => !s.isEmpty

/-- A list setting that came as a list of values. -/
def textsOfItems (items : List Json) : Except Breakdown (List String) :=
  match items.mapM Json.text? with
  | some texts => .ok (strippedTexts texts)
  | none => .error .longInteger

/-- A list setting that came as a text. -/
def textsOfText (s : String) : Except Breakdown (List String) :=
  match Json.read s with
  | .ok (.arr items) => textsOfItems items
  | .error (.digitLimit digits) => .error (.digitLimit digits)
  | .error (.tooDeep object) => .error (.tooDeep object)
  | _ => .ok (strippedTexts (splitText ',' s))

/-- What can be given for a list setting: a fixed list, a list, a text, or anything else. -/
inductive ListValue where
  | tuple (items : List Json)
  | list (items : List Json)
  | text (s : String)
  | other

/-- A JSON value as it is given for a list setting. -/
def ListValue.ofJson : Json → ListValue
  | .arr items => .list items
  | .str s => .text s
  | _ => .other

/-- A list setting. A value that is neither a list nor a text counts as an empty list. -/
def ListValue.texts : ListValue → Except Breakdown (List String)
  | .tuple items => textsOfItems items
  | .list items => textsOfItems items
  | .text s => textsOfText s
  | .other => .ok []

/-- A list setting as a check. -/
def Check.texts (value : Json) : Check (List String) :=
  match (ListValue.ofJson value).texts with
  | .ok texts => .passed texts
  | .error (.tooDeep object) => .broken (.tooDeep object)
  | .error cause => .violated (.badValue cause.text)

/-! ## 2. Sources -/

/-- What the names of environment variables begin with. -/
def variableStart : List Char := "rg_".toList

/-- The setting that an environment variable is for. -/
def settingOfVariable? (name : String) : Option String :=
  let small := (lower name).toList
  if variableStart.isPrefixOf small then some (String.ofList (small.drop variableStart.length))
  else none

/-- The settings of an environment. Of two variables that differ in letter case only, the later
    one counts. -/
def environmentMembers (environment : List (String × String)) : Members :=
  environment.foldl (fun members entry =>
    match settingOfVariable? entry.1 with
    | some key => members.set key (.str entry.2)
    | none => members) []

/-- The names of all settings. -/
def settingNames : List String :=
  ["app_name", "api_prefix", "version", "log_level", "engine_base_url", "engine_timeout_seconds",
    "engine_thread_safe", "profiles", "snap_preventions_default", "has_elevation", "copyrights",
    "bulk_copyrights", "bulk_max_parallel", "gpx_creator", "frontend_allowed_origins"]

/-- Refuses given values that are no settings. -/
def knownNames (values : Members) : Check Unit :=
  match values.filter fun member => !settingNames.contains member.1 with
  | [] => .passed ()
  | unknown => .failed (unknown.map fun member => ⟨[.name member.1], .notPermitted⟩)

/-! ## 3. All settings -/

/-- The settings of some members. -/
def Settings.ofMembers (members : Members) : Check Settings :=
  let fallback : Settings := {}
  Settings.mk
    <$> members.defaulted "app_name" fallback.appName text
    <*> members.defaulted "api_prefix" fallback.apiPrefix text
    <*> members.defaulted "version" fallback.version text
    <*> members.defaulted "log_level" fallback.logLevel text
    <*> members.defaulted "engine_base_url" fallback.engineBaseUrl (optional text)
    <*> members.defaulted "engine_timeout_seconds" fallback.engineTimeoutSeconds
      (fun value => (real value).andThen (above 0))
    <*> members.defaulted "engine_thread_safe" fallback.engineThreadSafe flag
    <*> members.defaulted "profiles" fallback.profiles texts
    <*> members.defaulted "snap_preventions_default" fallback.snapPreventionsDefault texts
    <*> members.defaulted "has_elevation" fallback.hasElevation flag
    <*> members.defaulted "copyrights" fallback.copyrights texts
    <*> members.defaulted "bulk_copyrights" fallback.bulkCopyrights texts
    <*> members.defaulted "bulk_max_parallel" fallback.bulkMaxParallel
      (fun value => (whole value).andThen (atLeast 1))
    <*> members.defaulted "gpx_creator" fallback.gpxCreator text
    <*> members.defaulted "frontend_allowed_origins" fallback.frontendAllowedOrigins texts

/-- The settings of an environment and given values; the given values win. -/
def Settings.check (environment : List (String × String)) (values : Members) : Check Settings :=
  both (fun settings _ => settings)
    (Settings.ofMembers ((environmentMembers environment).update values)) (knownNames values)

end Waypost
