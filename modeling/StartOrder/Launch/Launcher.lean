import StartOrder.Failure
import StartOrder.Recipe.Service

/-!
# Launchers

A launcher is what runs services. It connects them by a network and starts them one by one, and all
that a launch knows of it is what becomes of its calls.

A call may fail. A start may moreover stall, which is to say that it goes on until the launch is
cancelled, and another party may cancel the launch while a start is going on (`Start`). A service is
started once at most in a launch, so that what becomes of its start can be given by its name,
whichever way it overlaps with others; one that is still going on at a cancellation has stalled.

The two calls about the network are waited for whatever happens meanwhile. They come back with
success or with a failure, and neither stalls nor cancels: what is said of every launcher in this
library is said of every one whose calls about the network come back, and during which nobody
cancels the launch.

`LaunchEvent` is a call, or what came back on one; lists of events are what launches are compared
by.
-/

namespace StartOrder

/-- A service that runs, with an identifier that its launcher gave it. -/
structure Instance where
  service : String
  id : String
  deriving DecidableEq, Repr

/-- What a start comes to. -/
inductive StartOutcome where
  | started (instance_ : Instance)
  | failed (failure : Failure)
  /-- The start goes on until the launch is cancelled. -/
  | stalled

/-- What becomes of the start of a service. -/
structure Start where
  /-- Whether the launch is cancelled during the start. -/
  cancels : Bool := false
  outcome : StartOutcome

/-- What becomes of each call to a launcher. The calls about the network come back, and the launch
is not cancelled during them. -/
structure Launcher where
  startNetwork : (network : String) → Except Failure Unit
  startService : (network name : String) → Service → Start
  stopNetwork : (network : String) → Except Failure Unit

/-- A call to a launcher. -/
inductive Call where
  | startNetwork (network : String)
  | startService (name network : String)
  | stopNetwork (network : String)
  deriving DecidableEq, Repr

/-- What a driver sees of a launcher. -/
inductive LaunchEvent where
  | called (call : Call)
  /-- The start of a service has come back with an instance. -/
  | started (name : String) (instance_ : Instance)
  /-- A call has come back with a failure. -/
  | failed (call : Call) (failure : Failure)

/-- The call that an event is, if it is one. -/
def LaunchEvent.call? : LaunchEvent → Option Call
  | .called call => some call
  | _ => none

end StartOrder
