import StartOrder.Dependency.Graph

/-!
# Cycles

A search for nodes that depend on themselves. `Graph.search` follows edges from the nodes in
ascending order, deeper before further, and keeps the path on which it has come. It ends with the
first path that comes back to one of its own names; `Graph.closing` cuts the way there off.

`Graph.explain` tells what keeps some names from being ordered: their references to names that are
no nodes, and a cycle of the graph, be it theirs or not.
-/

namespace StartOrder

namespace Graph

/-- The part of a path, last name first, that leads from a name on it back to that name. -/
def closing (path : List String) (name : String) : List String :=
  name :: (path.takeWhile (· ≠ name)).reverse ++ [name]

/-- Search from a list of names, behind a path, last name first, and through nodes that are still
fresh. Gives a cycle, or the nodes that were reached. -/
def search (g : Graph) (path fresh todo : List String) : Except (List String) (List String) :=
  match todo with
  | [] => .ok []
  | name :: rest =>
    if name ∈ path then .error (closing path name)
    else if _h : name ∈ fresh then
      let left := fresh.erase name
      match g.search (name :: path) left (g.direct name) with
      | .error cycle => .error cycle
      | .ok below =>
        match g.search path (left.filter (· ∉ below)) rest with
        | .error cycle => .error cycle
        | .ok beside => .ok (below ++ name :: beside)
    else g.search path fresh rest
termination_by (fresh.length, todo.length)
decreasing_by
  · have := List.length_erase_of_mem _h
    have := List.length_pos_of_mem _h
    exact Prod.Lex.left _ _ (by omega)
  · have := List.length_erase_of_mem _h
    have := List.length_pos_of_mem _h
    exact Prod.Lex.left _ _ (Nat.lt_of_le_of_lt (List.length_filter_le _ _) (by omega))
  · exact Prod.Lex.right _ (by simp)

/-- A cycle, as a path that begins and ends with the same node. -/
def findCycle (g : Graph) : Option (List String) :=
  match g.search [] g.nodes.keys g.nodes.keys with
  | .error cycle => some cycle
  | .ok _ => none

/-- What keeps names from being ordered: their references to names that are no nodes, and a cycle
of the graph. -/
def explain (g : Graph) (unresolved : List String) : OrderProblem :=
  .found (g.missing.filter fun e => unresolved.contains e.1) g.findCycle

end Graph

end StartOrder
