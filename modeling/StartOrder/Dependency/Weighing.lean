import StartOrder.Dependency.Graph

/-!
# Weights

A node without dependencies weighs nothing; any other node weighs one more than the heaviest of the
names that it depends on (`Graph.weightFrom`).

The weights are found in passes. Each pass weighs the nodes all of whose dependencies were weighed
in earlier passes, and goes by the weights that were known before it: what it finds is seen by the
next pass only. The passes end when no node is left, or when one of them finds nothing. A `Weighing`
keeps the nodes that are left then, and counts the passes, the last one included.
-/

namespace StartOrder

/-- The weights of a graph's nodes. -/
structure Weighing where
  weights : NameMap Nat
  /-- The nodes that have no weight, in ascending order: those on a cycle, those that depend on a
  name that is no node, and those that depend on such nodes. -/
  unresolved : List String
  /-- The number of passes, with the last one that found nothing, if there was one. -/
  passes : Nat
  deriving DecidableEq

/-- Whether every node has a weight. -/
def Weighing.isComplete (w : Weighing) : Bool := w.unresolved.isEmpty

namespace Graph

/-- The weight of a node, if all that it depends on has been weighed. -/
def weightFrom (g : Graph) (weights : NameMap Nat) (name : String) : Option Nat :=
  match g.direct name with
  | [] => some 0
  | targets => (targets.mapM weights.find?).map fun ws => ws.foldl max 0 + 1

/-- The nodes among some that can be weighed, with their weights. -/
def weighable (g : Graph) (weights : NameMap Nat) (names : List String) : List (String × Nat) :=
  names.filterMap fun name => (g.weightFrom weights name).map (name, ·)

/-- The nodes among some that cannot be weighed yet. -/
def unweighable (g : Graph) (weights : NameMap Nat) (names : List String) : List String :=
  names.filter fun name => (g.weightFrom weights name).isNone

theorem length_weighable_add (g : Graph) (weights : NameMap Nat) (names : List String) :
    (g.weighable weights names).length + (g.unweighable weights names).length = names.length := by
  induction names with
  | nil => rfl
  | cons name rest ih =>
    cases h : g.weightFrom weights name <;>
      simp only [weighable, unweighable, List.filterMap_cons, List.filter_cons, h] at ih ⊢ <;>
      simp <;> omega

/-- Weigh the remaining nodes, behind a number of passes that found some weights. -/
def weighFrom (g : Graph) (weights : NameMap Nat) (remaining : List String) (passes : Nat) :
    Weighing :=
  if remaining.isEmpty then ⟨weights, [], passes⟩
  else
    let found := g.weighable weights remaining
    if _h : found = [] then ⟨weights, remaining, passes + 1⟩
    else
      g.weighFrom (weights.insertAll found) (g.unweighable weights remaining) (passes + 1)
termination_by remaining.length
decreasing_by
  have hadd := g.length_weighable_add weights remaining
  have hpos : 0 < (g.weighable weights remaining).length := List.length_pos_iff.mpr _h
  omega

/-- The weights of a graph's nodes. -/
def weigh (g : Graph) : Weighing := g.weighFrom ∅ g.nodes.keys 0

end Graph

end StartOrder
