import Waypost.Fault.Basic
import Waypost.Run

/-!
# Redirects

An answer may name another location. It is not followed, but the address it stands for has to be
one.

* `CallFault` -- why a call has no answer that can be used;
* `checkRedirect` -- refuses a location that stands for no address.
-/

namespace Waypost

/-- Why a call has no answer that can be used: it failed, for a reason in words, or something broke
    down on the way. -/
inductive CallFault where
  | failed (reason : String)
  | broken (cause : Breakdown)

/-- An address of a redirect, which is built from another one. -/
def redirected : Except AddressFault Address → Except CallFault Address
  | .ok address => .ok address
  | .error why => .error (.broken (.address why))

/-- The host of a redirect as its owner writes it. -/
def redirectedHost (address : Address) : Except CallFault String :=
  address.shownHost.mapError fun why => .broken (.hostName why)

/-- The fragment of an address as it is meant. -/
def Address.plainFragment (address : Address) : String := decodePercent (address.fragment.getD "")

/-- Refuses the location of an answer to a call where it stands for no address. A location with a
    scheme and without a host is at the host of the call, and one without a fragment takes over the
    fragment of the call. -/
def checkRedirect (call : Call) (location : String) : Except CallFault Unit := do
  let target ←
    match Address.of location with
    | .ok target => pure target
    | .error (.unwritable why) => throw (.broken (.unwritable why))
    | .error why => throw (.failed s!"Invalid URL in location header: {why.message}.")
  let target ←
    if !target.scheme.isEmpty && (← redirectedHost target).isEmpty then
      redirected (target.withHost call.host)
    else pure target
  if !call.address.plainFragment.isEmpty && target.plainFragment.isEmpty then
    let _ ← redirected (target.withFragment call.address.plainFragment)
  let _ ← redirectedHost target

end Waypost
