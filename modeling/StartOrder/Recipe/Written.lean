import StartOrder.Recipe.Environment
import StartOrder.Yaml.Node

/-!
# Writing recipes

The document that holds an environment, as a tree. Fields that are absent or empty are left out,
except for the services, and so are the keys of a recipe that are not known. All scalars but numbers
are in quotes, so that they are texts whatever they look like.
-/

namespace StartOrder

open Yaml (Node)

namespace Written

/-- An entry of a mapping. -/
def entry (name : String) (value : Node) : Node × Node := (.quoted name, value)

/-- An entry for a text that may be absent. -/
def optional (name : String) (value : Option String) : List (Node × Node) :=
  value.toList.map fun s => entry name (.quoted s)

/-- An entry for a list of texts, unless it is empty. -/
def list (name : String) (values : List String) : List (Node × Node) :=
  if values.isEmpty then [] else [entry name (.sequence {} none (values.map .quoted))]

/-- An entry for a map of texts, unless it is empty. -/
def map (name : String) (values : NameMap String) : List (Node × Node) :=
  if values.isEmpty then []
  else [entry name (.mapping {} none (values.toList.map fun (key, s) => entry key (.quoted s)))]

end Written

/-- The `build` section of a service. -/
def Build.toNode : Build → Node
  | .path context => .quoted context
  | .parts context dockerfile =>
    .mapping {} none
      (Written.optional "context" context ++ Written.optional "dockerfile" dockerfile)

/-- The section of a service. -/
def Service.toNode (s : Service) : Node :=
  .mapping {} none (
    Written.optional "image" s.image ++
    (s.build.toList.map fun b => Written.entry "build" b.toNode) ++
    Written.optional "context" s.context ++
    Written.optional "dockerfile" s.dockerfile ++
    Written.list "command" s.command ++
    Written.list "entrypoint" s.entrypoint ++
    Written.map "environment" s.environment ++
    Written.list "depends_on" s.dependsOn ++
    Written.list "links" s.links ++
    Written.optional "container_name" s.containerName ++
    Written.map "labels" s.labels ++
    Written.list "expose" s.expose ++
    Written.list "ports" s.ports ++
    Written.list "volumes" s.volumes ++
    Written.list "volumes_from" s.volumesFrom ++
    (s.memLimit.toList.map fun n => Written.entry "mem_limit" (.plain (toString n.toNat))))

/-- The document that holds an environment. -/
def Environment.toNode (e : Environment) : Node :=
  .mapping {} none (
    Written.optional "version" e.version ++
    [Written.entry "services"
      (.mapping {} none (e.services.toList.map fun (name, s) => Written.entry name s.toNode))])

end StartOrder
