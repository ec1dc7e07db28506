import StartOrder.Recipe.Environment

/-!
# Dependency graphs

Services and the dependencies between them. A dependency may lead to a name that is no node: the
name of a service that is not defined. Such an edge is kept like any other, and `Graph.missing`
lists it.

An edge is stored twice, with its source and with its target, so that the neighbours of a name can
be read off in either direction (`Graph.direct`, `Graph.dependents`) in the order in which the edges
were added. That the two agree, that no edge is there twice and that edges start at nodes are fields
of `Graph`; the additions below discharge them, and no later proof has to.
-/

namespace StartOrder

/-! ## Neighbours -/

/-- For each name the names next to it. A name that has none may be there or not. -/
abbrev Neighbours := NameMap (List String)

namespace Neighbours

variable {n : Neighbours} {name neighbour other : String}

/-- The neighbours of a name. -/
def of (n : Neighbours) (name : String) : List String := (n.find? name).getD []

/-- Give a name a list of neighbours, unless it has one. -/
def enter (n : Neighbours) (name : String) : Neighbours := n.insert name (n.of name)

/-- Put a neighbour behind those of a name. -/
def push (n : Neighbours) (name neighbour : String) : Neighbours :=
  n.insert name (n.of name ++ [neighbour])

@[simp] theorem of_empty (name : String) : (∅ : Neighbours).of name = [] := rfl

@[simp] theorem of_enter (n : Neighbours) (name other : String) :
    (n.enter name).of other = n.of other := by
  unfold of enter
  rw [NameMap.find?_insert]
  split
  · next heq => rw [heq, of, Option.getD_some]
  · rfl

theorem of_push (n : Neighbours) (name neighbour other : String) :
    (n.push name neighbour).of other =
      if other = name then n.of other ++ [neighbour] else n.of other := by
  unfold push
  rw [of, NameMap.find?_insert]
  split
  · next heq => rw [heq, Option.getD_some]
  · rfl

theorem mem_of_push {b : String} :
    b ∈ (n.push name neighbour).of other ↔ b ∈ n.of other ∨ other = name ∧ b = neighbour := by
  rw [of_push]
  split
  · next heq => simp [heq]
  · next hne => simp [hne]

/-- A new neighbour is not there twice. -/
theorem nodup_push (h : ∀ other, (n.of other).Nodup) (hnew : neighbour ∉ n.of name)
    (other : String) : ((n.push name neighbour).of other).Nodup := by
  rw [of_push]
  split
  · next heq =>
    refine List.nodup_append.mpr ⟨h other, by simp, ?_⟩
    intro a ha b hb hab
    rw [List.mem_singleton] at hb
    exact hnew (hb ▸ hab ▸ heq ▸ ha)
  · exact h other

end Neighbours

/-! ## Graphs -/

/-- A dependency graph. An edge leads from a name to one that it depends on. -/
structure Graph where
  nodes : NameSet := ∅
  /-- What each node depends on, in the order in which its edges were added. -/
  edges : Neighbours := ∅
  /-- What depends on each name, in the order in which these edges were added. -/
  reverse : Neighbours := ∅
  /-- Edges start at nodes. -/
  source_mem : ∀ name ∈ edges.keys, name ∈ nodes.keys := by simp
  /-- No edge is there twice. -/
  nodup : ∀ name, (edges.of name).Nodup := by simp
  /-- No edge is there twice in reverse. -/
  nodup_reverse : ∀ name, (reverse.of name).Nodup := by simp
  /-- Each edge is with its source and with its target. -/
  mem_reverse : ∀ a b, b ∈ edges.of a ↔ a ∈ reverse.of b := by simp

namespace Graph

/-- The graph without nodes. -/
def empty : Graph := {}

instance : EmptyCollection Graph := ⟨empty⟩

instance : Inhabited Graph := ⟨empty⟩

/-- Add a node. -/
def addNode (g : Graph) (name : String) : Graph where
  nodes := g.nodes.add name
  edges := g.edges.enter name
  reverse := g.reverse.enter name
  source_mem other h :=
    NameMap.mem_keys_insert.mpr ((NameMap.mem_keys_insert.mp h).imp_right (g.source_mem other))
  nodup other := by
    rw [Neighbours.of_enter]
    exact g.nodup other
  nodup_reverse other := by
    rw [Neighbours.of_enter]
    exact g.nodup_reverse other
  mem_reverse a b := by
    rw [Neighbours.of_enter, Neighbours.of_enter]
    exact g.mem_reverse a b

theorem mem_nodes_addNode (g : Graph) (name : String) : name ∈ (g.addNode name).nodes.keys :=
  NameMap.mem_keys_insert.mpr (.inl rfl)

/-- Add an edge that is not there, from a node. -/
def addNewEdge (g : Graph) (source target : String) (hnode : source ∈ g.nodes.keys)
    (hnew : target ∉ g.edges.of source) : Graph where
  nodes := g.nodes
  edges := g.edges.push source target
  reverse := g.reverse.push target source
  source_mem other h := by
    rcases NameMap.mem_keys_insert.mp h with rfl | hmem
    · exact hnode
    · exact g.source_mem other hmem
  nodup := Neighbours.nodup_push g.nodup hnew
  nodup_reverse := Neighbours.nodup_push g.nodup_reverse fun h =>
    hnew ((g.mem_reverse source target).mpr h)
  mem_reverse a b := by
    rw [Neighbours.mem_of_push, Neighbours.mem_of_push, g.mem_reverse a b, and_comm]

/-- Add an edge, whose source becomes a node. An edge that is there is not added again. -/
def addEdge (g : Graph) (source target : String) : Graph :=
  if h : target ∈ (g.addNode source).edges.of source then g.addNode source
  else (g.addNode source).addNewEdge source target (g.mem_nodes_addNode source) h

/-- Add an edge to each of some targets. -/
def addEdges (g : Graph) (source : String) (targets : List String) : Graph :=
  targets.foldl (fun g target => g.addEdge source target) g

/-- Whether a name is a node. -/
def hasNode (g : Graph) (name : String) : Bool := g.nodes.contains name

/-- The names that a name depends on, in the order of their edges. -/
def direct (g : Graph) (name : String) : List String := g.edges.of name

/-- The names that depend on a name, in the order of their edges. -/
def dependents (g : Graph) (name : String) : List String := g.reverse.of name

/-- The edges that lead to no node, by the names of their sources. -/
def missing (g : Graph) : List (String × String) :=
  g.edges.toList.flatMap fun (name, targets) =>
    (targets.filter fun target => !g.hasNode target).map fun target => (name, target)

/-- All names: the nodes, and then those that edges lead to beyond the nodes. -/
def names (g : Graph) : List String :=
  g.nodes.keys ++ firstOccurrences (g.missing.map (·.2))

/-- The graph of some services. It fails at the first link that is malformed. -/
def ofServices (g : Graph) : List (String × Service) → Except Failure Graph
  | [] => .ok g
  | (name, service) :: rest =>
    match service.dependencyNames with
    | .ok targets => ofServices ((g.addNode name).addEdges name targets) rest
    | .error e => .error e

/-- The graph of the services of an environment. -/
def ofEnvironment (e : Environment) : Except Failure Graph := ofServices ∅ e.services.toList

end Graph

end StartOrder
