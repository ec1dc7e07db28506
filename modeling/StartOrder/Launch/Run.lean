import StartOrder.Launch.Launcher
import StartOrder.Plan

/-!
# Launching environments

An environment is launched by its plan. All services run at the end, or the network is stopped again
and the launch fails. Once a launch is cancelled, it starts no further service, and starts that have
stalled are given up.

Services are handed to a launcher in groups: one by one in a sequential launch, a layer at a time in
a layered one (`LaunchMode.groups`). Apart from this the two modes are one function, `startGroups`,
which ends at the first group with a failure. Within a group, `beginGroup` calls the launcher for
each service in order, and `startGroup` then settles all that was begun before `gather` looks at any
outcome. A start that stalls settles as cancelled, and cancels the driver: nothing else can end it.

`Progress` is what any of this leaves: the events seen so far, whether the driver is cancelled, and
a result.
-/

namespace StartOrder

/-- How services are handed to a launcher. -/
inductive LaunchMode where
  /-- One after another. -/
  | sequential
  /-- Those of a layer together. -/
  | layered
  deriving DecidableEq, Repr

/-- The services of a plan that are started together, in the order in which that is done. -/
def LaunchMode.groups (mode : LaunchMode) (p : Plan) : List (List String) :=
  match mode with
  | .sequential => p.order.map ([·])
  | .layered => p.layers

/-- What was seen of a launcher so far, whether the driver is cancelled, and a result. -/
structure Progress (α : Type) where
  events : List LaunchEvent := []
  cancelled : Bool
  result : α

/-- The calls made so far. -/
def Progress.calls {α : Type} (p : Progress α) : List Call := p.events.filterMap LaunchEvent.call?

/-! ## Groups -/

/-- The failure of a start that is given up. -/
def startCancelled (name : String) : Failure := .cancelled s!"start of service '{name}'"

/-- The failure to start a service that there is none of. -/
def notDefined (name : String) : Failure := .startFailed name "not defined in the recipe"

/-- A start that was begun, or was not. -/
inductive Begun where
  /-- The launcher was called, and comes back. -/
  | returns (outcome : Except Failure Instance)
  /-- The launcher was called, and does not come back before the driver is cancelled. -/
  | stalls
  /-- The launcher was not called. -/
  | refused (failure : Failure)

/-- What a call that starts a service begins. -/
def Start.begun (s : Start) : Begun :=
  match s.outcome with
  | .started i => .returns (.ok i)
  | .failed f => .returns (.error f)
  | .stalled => .stalls

/-- Whether a start stalls. -/
def Begun.isStalled : Begun → Bool
  | .stalls => true
  | _ => false

/-- What the start of a service comes to, behind a cancellation if it stalls. -/
def Begun.settle (name : String) : Begun → Except Failure Instance
  | .returns outcome => outcome
  | .stalls => .error (startCancelled name)
  | .refused f => .error f

/-- What a driver sees come back of the start of a service. -/
def Begun.event? (network name : String) : Begun → Option LaunchEvent
  | .returns (.ok i) => some (.started name i)
  | .returns (.error f) => some (.failed (.startService name network) f)
  | _ => none

/-- Begin to start some services, in order. None is begun behind a cancellation. -/
def beginGroup (l : Launcher) (e : Environment) (network : String) (cancelled : Bool) :
    List String → Progress (List (String × Begun))
  | [] => { cancelled, result := [] }
  | name :: rest =>
    match e.services.find? name with
    | none =>
      let p := beginGroup l e network cancelled rest
      { p with result := (name, .refused (notDefined name)) :: p.result }
    | some service =>
      if cancelled then
        let p := beginGroup l e network cancelled rest
        { p with result := (name, .refused (startCancelled name)) :: p.result }
      else
        let start := l.startService network name service
        let p := beginGroup l e network start.cancels rest
        { events := .called (.startService name network) :: p.events
          cancelled := p.cancelled
          result := (name, start.begun) :: p.result }

/-- The failure of an outcome, if it is one. -/
def failure? : Except Failure Instance → Option Failure
  | .ok _ => none
  | .error f => some f

/-- The instances of some starts, or their failures: one alone as it is, several as one. -/
def gather (outcomes : List (Except Failure Instance)) : Except Failure (List Instance) :=
  match outcomes.filterMap failure? with
  | [] => .ok (outcomes.filterMap Except.toOption)
  | [f] => .error f
  | fs => .error (.several fs)

/-- Start some services together, and wait for all of them before anything that came back is looked
at. If any start stalls, all that can end it is to cancel the driver. -/
def startGroup (l : Launcher) (e : Environment) (network : String) (cancelled : Bool)
    (names : List String) : Progress (Except Failure (List Instance)) :=
  let p := beginGroup l e network cancelled names
  { events := p.events ++ p.result.filterMap fun start => start.2.event? network start.1
    cancelled := p.cancelled || p.result.any (·.2.isStalled)
    result := gather (p.result.map fun start => start.2.settle start.1) }

/-- Start groups of services one after another, up to the first group with a failure. -/
def startGroups (l : Launcher) (e : Environment) (network : String) (cancelled : Bool) :
    List (List String) → Progress (Except Failure (List Instance))
  | [] => { cancelled, result := .ok [] }
  | names :: rest =>
    let p := startGroup l e network cancelled names
    match p.result with
    | .error f => { p with result := .error f }
    | .ok instances =>
      let q := startGroups l e network p.cancelled rest
      { events := p.events ++ q.events
        cancelled := q.cancelled
        result := q.result.map (instances ++ ·) }

/-! ## Launches -/

/-- What a call comes back with if it fails. -/
def failedEvent (call : Call) : Except Failure Unit → List LaunchEvent
  | .ok _ => []
  | .error f => [.failed call f]

/-- Stop a network. If that fails, nothing more is done about it. -/
def stopEvents (l : Launcher) (network : String) : List LaunchEvent :=
  .called (.stopNetwork network) :: failedEvent (.stopNetwork network) (l.stopNetwork network)

/-- Launch an environment on a network, by a driver that may be cancelled already. -/
def launch (mode : LaunchMode) (l : Launcher) (cancelled : Bool) (e : Environment)
    (network : String) : Progress (Except Failure (List Instance)) :=
  match e.plan with
  | .error f => { cancelled, result := .error f }
  | .ok plan =>
    if cancelled then { cancelled, result := .error (.cancelled "launch") }
    else
      let opening := .called (.startNetwork network) ::
        failedEvent (.startNetwork network) (l.startNetwork network)
      match l.startNetwork network with
      | .error f => { events := opening, cancelled, result := .error f }
      | .ok _ =>
        let p := startGroups l e network cancelled (mode.groups plan)
        let closing := match p.result with
          | .ok _ => []
          | .error _ => stopEvents l network
        { p with events := opening ++ p.events ++ closing }

end StartOrder
