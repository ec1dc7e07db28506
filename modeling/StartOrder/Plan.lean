import StartOrder.Text.Blank
import StartOrder.Dependency.Cycle
import StartOrder.Dependency.Weighing

/-!
# Plans

The order in which the services of an environment are started: lighter services first, and services
of equal weight by name, so that a service comes behind all that it depends on. A plan keeps the
weights with the names, since its layers are the services of one weight: they do not depend on each
other, and can be started together once the layers before them run.

`Environment.plan` makes a plan of an environment or tells why there is none. `Environment.validate`
asks less and more. It finds undefined services and cycles without weighing anything, and it also
refuses names that no link could state.
-/

namespace StartOrder

/-- Services with their weights, in the order in which they are started. -/
structure Plan where
  ranked : List (String × Nat) := []
  deriving DecidableEq

namespace Plan

/-- The names of the services in the order in which they are started. -/
def order (p : Plan) : List String := p.ranked.map (·.1)

/-- The weights of the services by name. -/
def weights (p : Plan) : NameMap Nat := NameMap.ofList p.ranked

/-- The weight of a service. -/
def weight? (p : Plan) (name : String) : Option Nat := p.weights.find? name

/-- The services of each weight, by name. The services of one layer can be started together once
those of the layers before it run. -/
def layers (p : Plan) : List (List String) :=
  (p.ranked.splitBy fun a b => a.2 == b.2).map fun layer => layer.map (·.1)

/-- Whether an entry comes before another: by weight, then by name. -/
def startsBefore (a b : String × Nat) : Bool := a.2 < b.2 || (a.2 == b.2 && a.1 ≤ b.1)

/-- The plan with some weights. -/
def ofWeights (weights : NameMap Nat) : Plan := ⟨weights.toList.mergeSort startsBefore⟩

end Plan

namespace Environment

/-- The plan of an environment. There is one if its links are well formed, all that its services
depend on is defined, and no service depends on itself. -/
def plan (e : Environment) : Except Failure Plan := do
  let graph ← Graph.ofEnvironment e
  let weighing := graph.weigh
  if weighing.isComplete then .ok (.ofWeights weighing.weights)
  else .error (.noOrder weighing.unresolved (graph.explain weighing.unresolved))

/-- What is wrong with the name of a service, if anything is. -/
def nameProblem? (name : String) : Option NameProblem :=
  if Text.allBlank name then some .blank
  else if name.toList.contains ':' then some (.colon name)
  else none

/-- The first thing that keeps an environment from being planned or linked to. -/
def validate (e : Environment) : Except Failure Unit := do
  if let some problem := e.serviceNames.findSome? nameProblem? then .error (.badName problem)
  let graph ← Graph.ofEnvironment e
  if !graph.missing.isEmpty then
    .error (.noOrder (NameSet.ofNames (graph.missing.map (·.1))).keys (.found graph.missing none))
  if let some cycle := graph.findCycle then
    .error (.noOrder (NameSet.ofNames cycle).keys (.found [] (some cycle)))

end Environment

end StartOrder
