import Waypost.Request.Basic

/-!
# Runs

A run is a computation together with what others can see of it: the requests it hands to an
engine, the calls it sends over the network, and the lines it writes to the log, in the order in
which they happen. Its end is a value or a fault; what happened before a fault stays visible.

* `Event` and `Run` -- the types;
* `Run.emit` and `Run.log` -- one visible event;
* `Run.attempt` -- a run that hands its fault on as a value;
* `Run.handed` -- the requests that a run hands to an engine.
-/

namespace Waypost

/-- How grave a line of the log is. -/
inductive Level where
  | info
  | warning
  | error
  deriving DecidableEq, Repr

/-- The name of a level. -/
def Level.name : Level → String
  | .info => "INFO"
  | .warning => "WARNING"
  | .error => "ERROR"

/-- A call over the network: its address, the host in it as its owner writes it, and the parameters
    behind it in order. -/
structure Call where
  address : Address
  host : String
  params : List (String × String)
  deriving Repr

/-- The address of a call as it is sent. -/
def Call.url (call : Call) : String := call.address.text

/-- The path of a call as it is meant. -/
def Call.path (call : Call) : String := call.address.plainPath

/-- Something others can see. -/
inductive Event where
  | log (level : Level) (message : String)
  | dispatched (request : Request)
  | sent (call : Call)

/-- The request that an event hands to an engine. -/
def Event.handed? : Event → Option Request
  | .dispatched r => some r
  | _ => none

/-- A computation with its visible events. -/
structure Run (α : Type) where
  events : List Event
  result : Except Fault α

namespace Run

/-- A run that shows nothing. -/
def ofExcept (result : Except Fault α) : Run α := ⟨[], result⟩

/-- Continues a run with its value; a fault ends it. -/
def bind (run : Run α) (next : α → Run β) : Run β :=
  match run.result with
  | .ok value => ⟨run.events ++ (next value).events, (next value).result⟩
  | .error fault => ⟨run.events, .error fault⟩

instance : Monad Run where
  pure value := ⟨[], .ok value⟩
  bind := bind

instance : MonadLift (Except Fault) Run where
  monadLift := ofExcept

/-- One event. -/
def emit (event : Event) : Run Unit := ⟨[event], .ok ()⟩

/-- One line of the log. -/
def log (level : Level) (message : String) : Run Unit := emit (.log level message)

/-- Ends with a fault. -/
def fail (fault : Fault) : Run α := ⟨[], .error fault⟩

/-- The same events, with a fault as a value. -/
def attempt (run : Run α) : Run (Except Fault α) := ⟨run.events, .ok run.result⟩

/-- The requests that a run hands to an engine, in order. -/
def handed (run : Run α) : List Request := run.events.filterMap Event.handed?

/-- A run without the requests that it hands on. -/
def withoutHandOvers (run : Run α) : Run α :=
  ⟨run.events.filter fun event => event.handed?.isNone, run.result⟩

@[simp] theorem events_pure (value : α) : (pure value : Run α).events = [] := rfl

@[simp] theorem result_pure (value : α) : (pure value : Run α).result = .ok value := rfl

@[simp] theorem events_emit (event : Event) : (emit event).events = [event] := rfl

@[simp] theorem events_attempt (run : Run α) : run.attempt.events = run.events := rfl

@[simp] theorem result_attempt (run : Run α) : run.attempt.result = .ok run.result := rfl

theorem bind_of_ok {run : Run α} {value : α} (h : run.result = .ok value) (next : α → Run β) :
    (run >>= next) = ⟨run.events ++ (next value).events, (next value).result⟩ := by
  show Run.bind run next = _
  simp [Run.bind, h]

theorem bind_of_error {run : Run α} {fault : Fault} (h : run.result = .error fault)
    (next : α → Run β) : (run >>= next) = ⟨run.events, .error fault⟩ := by
  show Run.bind run next = _
  simp [Run.bind, h]

end Run

end Waypost
