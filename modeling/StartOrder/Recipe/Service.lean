import StartOrder.NameMap
import StartOrder.Recipe.Link

/-!
# Services

A container of a composed environment, as a recipe describes it. Only its dependencies matter to a
plan, and a warning is given of one without an image and a build context. All other fields are
carried along for whoever starts the container.

A build context and a dockerfile may be given in a `build` section or, in an older form, as fields
of the service. The section takes precedence.
-/

namespace StartOrder

/-- The `build` section of a service: a path, or the parts of its own. -/
inductive Build where
  | path (context : String)
  | parts (context dockerfile : Option String)
  deriving DecidableEq, Repr

namespace Build

/-- The directory that an image is built in. -/
def context : Build → Option String
  | .path context => some context
  | .parts context _ => context

/-- The file that says how an image is built. -/
def dockerfile : Build → Option String
  | .path _ => none
  | .parts _ dockerfile => dockerfile

end Build

/-- A service of an environment. -/
structure Service where
  image : Option String := none
  build : Option Build := none
  /-- The build context outside a `build` section, which takes precedence. -/
  context : Option String := none
  /-- The dockerfile outside a `build` section, which takes precedence. -/
  dockerfile : Option String := none
  command : List String := []
  entrypoint : List String := []
  environment : NameMap String := ∅
  dependsOn : List String := []
  links : List String := []
  containerName : Option String := none
  labels : NameMap String := ∅
  expose : List String := []
  ports : List String := []
  volumes : List String := []
  volumesFrom : List String := []
  /-- The limit of memory in bytes. -/
  memLimit : Option UInt64 := none
  /-- The keys of the service's section that are no fields of a service. -/
  unknown : NameSet := ∅
  deriving DecidableEq

/-- The names of a list, each at its first occurrence. -/
def firstOccurrences : List String → List String
  | [] => []
  | name :: rest => name :: (firstOccurrences rest).filter (· ≠ name)

namespace Service

/-- The directory that the image is built in. -/
def buildContext (s : Service) : Option String := (s.build.bind Build.context).or s.context

/-- The file that says how the image is built. -/
def buildDockerfile (s : Service) : Option String := (s.build.bind Build.dockerfile).or s.dockerfile

/-- Whether there is anything to start the service from. -/
def isLaunchable (s : Service) : Bool := s.image.isSome || s.buildContext.isSome

/-- The names of the services that must run before this one: those that it depends on, then those
that it links to, each once. -/
def dependencyNames (s : Service) : Except Failure (List String) :=
  (s.links.mapM Link.ofText).map fun links =>
    firstOccurrences (s.dependsOn ++ links.map Link.service)

end Service

end StartOrder
