import StartOrder.Dependency.Graph

/-!
# Transitive dependencies

All names that a name depends on, over any number of edges. The walk is depth first: a name is
finished behind all that is reached from it through names that were still fresh, so that each name
comes behind what it depends on itself, unless that depends on it in turn.

The walk carries the fresh names in place of those that it has visited. They become fewer with each
name that is walked, which is why it ends; and a name that is met again is simply not fresh.
-/

namespace StartOrder

namespace Graph

/-- Walk a graph from a list of names through names that are still fresh. A name is finished behind
the names that are reached from it. -/
def finish (g : Graph) (fresh : List String) (todo : List String) : List String :=
  match todo with
  | [] => []
  | name :: rest =>
    if _h : name ∈ fresh then
      let left := fresh.erase name
      let below := g.finish left (g.direct name)
      below ++ name :: g.finish (left.filter (· ∉ below)) rest
    else g.finish fresh rest
termination_by (fresh.length, todo.length)
decreasing_by
  · have := List.length_erase_of_mem _h
    have := List.length_pos_of_mem _h
    exact Prod.Lex.left _ _ (by omega)
  · have := List.length_erase_of_mem _h
    have := List.length_pos_of_mem _h
    exact Prod.Lex.left _ _ (Nat.lt_of_le_of_lt (List.length_filter_le _ _) (by omega))
  · exact Prod.Lex.right _ (by simp)

/-- The names that a name depends on, over one or more edges. The name itself is not among them. -/
def transitive (g : Graph) (name : String) : List String :=
  g.finish (g.names.erase name) (g.direct name)

end Graph

end StartOrder
