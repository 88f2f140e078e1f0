import Waypost.Json.Shape
import Waypost.Outcome

/-!
# Turn instructions of an OSRM answer

Every step of every leg becomes one instruction. The steps tile the points of the path: each one
begins where the one before ends, and arriving takes no points.

* `Sign` -- the numbers that clients know for the kinds of turns;
* `stepSign` and `stepText` -- kind and wording of a step;
* `turnInstructions` -- the instructions of all legs.
-/

namespace Waypost

/-! ## 1. Signs -/

namespace Sign

def uTurn : Int := -98

def keepLeft : Int := -7

def sharpLeft : Int := -3

def left : Int := -2

def slightLeft : Int := -1

def straight : Int := 0

def slightRight : Int := 1

def right : Int := 2

def sharpRight : Int := 3

def finish : Int := 4

def reachedVia : Int := 5

def roundabout : Int := 6

def keepRight : Int := 7

/-- The sign of a turn by the name of its direction. -/
def ofModifier : List (String × Int) :=
  [("uturn", uTurn), ("sharp left", sharpLeft), ("left", left), ("slight left", slightLeft),
    ("straight", straight), ("slight right", slightRight), ("right", right),
    ("sharp right", sharpRight)]

end Sign

/-- The kinds of maneuver at a roundabout. -/
def roundaboutKinds : List String :=
  ["roundabout", "rotary", "roundabout turn", "exit roundabout", "exit rotary"]

/-- Whether a direction names the left side. A direction that holds no texts has no answer. -/
def mentionsLeft : Json → Except Fault Bool
  | .str s => .ok (Text.within "left" s)
  | .arr items => .ok (items.any (·.isText "left"))
  | .obj members => .ok (members.any (·.1 == "left"))
  | other => .error (.mismatch (.notSearchable other.kindName))

/-- The sign of a direction; a list or an object cannot be looked up. -/
def modifierSign : Json → Except Fault Int
  | .str s => .ok ((Sign.ofModifier.lookup s).getD Sign.straight)
  | .arr items => .error (.mismatch (.notHashable (Json.arr items).kindName))
  | .obj members => .error (.mismatch (.notHashable (Json.obj members).kindName))
  | _ => .ok Sign.straight

/-- The sign of a step. -/
def stepSign (maneuver : Members) (isLastLeg : Bool) : Except Fault Int := do
  let kind := maneuver.getD "type" (.str "")
  let modifier := maneuver.getD "modifier" (.str "straight")
  if kind.isText "arrive" then
    return if isLastLeg then Sign.finish else Sign.reachedVia
  if kind.isText "depart" then return Sign.straight
  if roundaboutKinds.any kind.isText then return Sign.roundabout
  if kind.isText "fork" then
    return if ← mentionsLeft modifier then Sign.keepLeft else Sign.keepRight
  modifierSign modifier

/-! ## 2. Texts -/

/-- A value behind the words that lead to it; nothing where there is no value. -/
def toldBehind (words : String) (value : Json) : Except Fault String := do
  if value.truthy then return words ++ (← value.text) else return ""

/-- The wording of a step: what to do, and onto which street. The street is read whatever the step
    says. -/
def stepText (step maneuver : Members) (sign : Int) (legIndex : Nat) : Except Fault String := do
  let name := ((step.getD "name" .null).orElse (step.getD "ref" .null)).orElse (.str "")
  let onto ← toldBehind " onto " name
  if sign = Sign.finish then return "Arrive at destination"
  else if sign = Sign.reachedVia then return "Waypoint " ++ toString (legIndex + 1)
  else if sign = Sign.roundabout then
    return "At roundabout" ++ (← toldBehind ", take exit " (maneuver.getD "exit" .null)) ++ onto
  else if (maneuver.getD "type" .null).isText "depart" || sign = Sign.straight then
    return "Continue" ++ onto
  else if sign = Sign.uTurn then return "Make a U-turn" ++ onto
  else if sign = Sign.keepLeft then return "Keep left" ++ onto
  else if sign = Sign.keepRight then return "Keep right" ++ onto
  else return "Turn" ++ (← toldBehind " " (maneuver.getD "modifier" .null)) ++ onto

/-! ## 3. Instructions -/

/-- A duration in seconds as whole milliseconds. -/
def millisOf (seconds : Json) : Except Fault Int := do
  wholeNumber (Decimal.nearest? ((← seconds.toReal) * 1000.0))

/-- The segments of the geometry of a step. -/
def stepSegments (step : Members) : Except Fault Nat := do
  let geometry ← ((step.getD "geometry" .null).orElse (.obj [])).members
  return (← (geometry.getD "coordinates" (.arr [])).count) - 1

/-- One step: its instruction, and the segments it takes. The segments so far give its place, which
    never lies behind the last point. -/
def stepInstruction (lastIndex legIndex : Nat) (isLastLeg : Bool) (pointer : Nat) (step : Json) :
    Except Fault (Instruction × Nat) := do
  let members ← step.members
  let maneuver ← (members.getD "maneuver" (.obj [])).members
  let sign ← stepSign maneuver isLastLeg
  let arrives := (maneuver.getD "type" .null).isText "arrive"
  let length ← if arrives then pure 0 else stepSegments members
  let text ← stepText members maneuver sign legIndex
  let distance ← (members.getD "distance" (.float 0.0)).toReal
  let time ← millisOf (members.getD "duration" (.float 0.0))
  let heading :=
    match maneuver.get? "bearing_after" with
    | some .null => none
    | other => if arrives then none else other
  let instruction : Instruction :=
    { sign, text, distance, time
      first := (min pointer lastIndex : Nat)
      last := (min (pointer + length) lastIndex : Nat)
      streetName := members.getD "name" (.str "")
      heading }
  return (instruction, length)

/-- The instructions of the steps of one leg, and the segments taken at its end. -/
def legInstructions (lastIndex legIndex : Nat) (isLastLeg : Bool) (pointer : Nat) :
    List Json → Except Fault (List Instruction × Nat)
  | [] => .ok ([], pointer)
  | step :: rest => do
    let (instruction, length) ← stepInstruction lastIndex legIndex isLastLeg pointer step
    let (more, final) ←
      legInstructions lastIndex legIndex isLastLeg (pointer + length) rest
    return (instruction :: more, final)

/-- The instructions of the legs from an index on. -/
def instructionsFrom (lastIndex legIndex pointer : Nat) :
    List Json → Except Fault (List Instruction)
  | [] => .ok []
  | leg :: rest => do
    let steps ← ((← leg.members).getD "steps" (.arr [])).items
    let (here, final) ← legInstructions lastIndex legIndex rest.isEmpty pointer steps
    return here ++ (← instructionsFrom lastIndex (legIndex + 1) final rest)

/-- The instructions of all legs for a path with so many points. -/
def turnInstructions (legs : Json) (pointCount : Nat) : Except Fault (List Instruction) := do
  instructionsFrom (pointCount - 1) 0 0 (← legs.items)

end Waypost
