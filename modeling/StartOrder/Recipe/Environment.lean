import StartOrder.Recipe.Service

/-!
# Environments

The content of a recipe: its services by name, and the keys that have no meaning here. Those are
kept by name alone, as all that is done with them is to report them, under the path from the top of
the recipe. They make warnings, and so does a service that there is nothing to start from; neither
keeps a recipe from being planned or launched.
-/

namespace StartOrder

/-- The content of a recipe. -/
structure Environment where
  /-- The version of the recipe format, which has no effect. -/
  version : Option String := none
  services : NameMap Service := ∅
  /-- The keys at the top of the recipe that are not known. -/
  unknown : NameSet := ∅
  deriving DecidableEq

namespace Environment

/-- The names of the services, in ascending order. -/
def serviceNames (e : Environment) : List String := e.services.keys

/-- An environment with a service added, in place of one with the same name. -/
def withService (e : Environment) (name : String) (service : Service) : Environment :=
  { e with services := e.services.insert name service }

/-- The keys of a recipe that are not known, with the path to each. -/
def unknownKeys (e : Environment) : List String :=
  e.unknown.keys ++
    e.services.toList.flatMap fun (name, service) =>
      service.unknown.keys.map fun key => s!"services.{name}.{key}"

/-- Findings that do not keep the services from being started. -/
def warnings (e : Environment) : List String :=
  (e.services.toList.filter fun (_, service) => !service.isLaunchable).map
      (fun (name, _) => s!"Service '{name}' has neither an image nor a build context") ++
    e.unknownKeys.map fun key => s!"Unsupported key '{key}' is ignored"

end Environment

end StartOrder
