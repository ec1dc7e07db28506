import StartOrder.Proofs.Dependency.Edges

/-!
# Graphs made by additions

A graph is made by adding nodes and edges to the empty one, in any order and any number of times. It
keeps each of them once: an edge is found from either end, in the order in which the edges were
first added, and a target is missing as long as no addition makes it a node.

`Records` is what a graph knows of the additions that made it, and the statement that one addition
preserves (`Records.extend`). Order is the delicate part of it. "In the order in which they were
first added" is said by positions (`InOrder`): of two edges the one whose first occurrence among the
additions comes earlier stands first. Further additions move no first occurrence (`InOrder.append`),
and an edge that is new occurs first behind all others, which is where the graph puts it
(`InOrder.concat`). The run over all additions is then a fold (`records_ofAdditions`).

Since nodes, edges and missing references are said by membership alone, they cannot depend on the
order of the additions; only the order of neighbours does.
-/

namespace StartOrder

/-! ## Additions -/

/-- An addition to a graph. -/
inductive Addition where
  /-- A node. -/
  | node (name : String)
  /-- An edge, whose source becomes a node. -/
  | edge (source target : String)
  deriving DecidableEq

namespace Addition

variable {added listed : List Addition} {addition : Addition}

/-- Some additions stand in the order in which a list first has them. -/
def InOrder (added listed : List Addition) : Prop :=
  listed.Pairwise fun first second => added.idxOf first < added.idxOf second

/-- What is added later does not come before anything. -/
theorem InOrder.append (h : InOrder added listed) (hlisted : ∀ other ∈ listed, other ∈ added)
    (more : List Addition) : InOrder (added ++ more) listed := by
  refine List.Pairwise.imp_of_mem (fun hfirst hsecond hlt => ?_) h
  rw [List.idxOf_append_of_mem (hlisted _ hfirst), List.idxOf_append_of_mem (hlisted _ hsecond)]
  exact hlt

/-- What is added for the first time comes behind all that was added before. -/
theorem InOrder.concat (h : InOrder added listed) (hlisted : ∀ other ∈ listed, other ∈ added)
    (hnew : addition ∉ added) : InOrder (added ++ [addition]) (listed ++ [addition]) := by
  refine List.pairwise_append.mpr ⟨h.append hlisted _, List.pairwise_singleton _ _, ?_⟩
  intro first hfirst second hsecond
  rw [List.mem_singleton.mp hsecond, List.idxOf_append_of_mem (hlisted first hfirst),
    List.idxOf_append_of_notMem hnew]
  have hlt := List.idxOf_lt_length_of_mem (hlisted first hfirst)
  omega

/-- An edge comes before another: by the names of their sources, and for one source in the order in
which a list of additions first has them. -/
def EdgeBefore (added : List Addition) (first second : String × String) : Prop :=
  first.1 < second.1 ∨ first.1 = second.1 ∧
    added.idxOf (.edge first.1 first.2) < added.idxOf (.edge second.1 second.2)

theorem EdgeBefore.ne {first second : String × String} (h : EdgeBefore added first second) :
    first ≠ second := by
  rintro rfl
  rcases h with hlt | ⟨-, hlt⟩
  · exact String.lt_irrefl _ hlt
  · exact Nat.lt_irrefl _ hlt

end Addition

namespace Graph

open Addition (InOrder)

variable {g g' : Graph} {added added' : List Addition} {a b source target : String}

/-- Add a node or an edge. -/
def extend (g : Graph) : Addition → Graph
  | .node name => g.addNode name
  | .edge source target => g.addEdge source target

/-- The graph that some additions make, one after another. -/
def ofAdditions (added : List Addition) : Graph := added.foldl extend ∅

/-! ## What an addition changes -/

theorem mem_direct_addEdge :
    b ∈ (g.addEdge source target).direct a ↔ b ∈ g.direct a ∨ a = source ∧ b = target := by
  rw [direct_addEdge]
  split
  · next h =>
    rw [List.mem_append, List.mem_singleton]
    exact or_congr_right (iff_and_self.mpr fun _ => h.1)
  · next h =>
    refine (or_iff_left_of_imp ?_).symm
    rintro ⟨rfl, rfl⟩
    exact Decidable.byContradiction fun hnew => h ⟨rfl, hnew⟩

/-- What a graph knows of the additions that made it. -/
structure Records (g : Graph) (added : List Addition) : Prop where
  /-- Nodes are what was added as a node or as the source of an edge. -/
  nodes : ∀ name, name ∈ g.nodes.keys ↔
    .node name ∈ added ∨ ∃ target, .edge name target ∈ added
  /-- Edges are what was added as an edge. -/
  mem_direct : ∀ a b, b ∈ g.direct a ↔ .edge a b ∈ added
  direct : ∀ a, InOrder added ((g.direct a).map fun b => .edge a b)
  dependents : ∀ b, InOrder added ((g.dependents b).map fun a => .edge a b)

namespace Records

theorem mem_dependents (h : g.Records added) (a b : String) :
    a ∈ g.dependents b ↔ .edge a b ∈ added :=
  Graph.mem_dependents.trans (h.mem_direct a b)

/-- The edges of a source were all added. -/
theorem added_of_direct (h : g.Records added) (a : String) :
    ∀ other ∈ (g.direct a).map fun b => Addition.edge a b, other ∈ added := by
  intro other hother
  obtain ⟨b, hb, rfl⟩ := List.mem_map.mp hother
  exact (h.mem_direct a b).mp hb

/-- The edges to a target were all added. -/
theorem added_of_dependents (h : g.Records added) (b : String) :
    ∀ other ∈ (g.dependents b).map fun a => Addition.edge a b, other ∈ added := by
  intro other hother
  obtain ⟨a, ha, rfl⟩ := List.mem_map.mp hother
  exact (h.mem_dependents a b).mp ha

theorem addNode (h : g.Records added) (name : String) :
    (g.addNode name).Records (added ++ [.node name]) where
  nodes other := by
    refine NameMap.mem_keys_insert.trans ?_
    simp only [h.nodes, List.mem_append, List.mem_singleton, Addition.node.injEq, reduceCtorEq,
      or_false]
    exact or_assoc.symm.trans (or_congr_left or_comm)
  mem_direct a b := by
    rw [direct_addNode, h.mem_direct]
    simp
  direct a := by
    rw [direct_addNode]
    exact (h.direct a).append (h.added_of_direct a) _
  dependents b := by
    rw [dependents_addNode]
    exact (h.dependents b).append (h.added_of_dependents b) _

/-- An edge that is new comes behind all others at both of its ends; one that was there changes
neither. -/
theorem addEdge (h : g.Records added) (source target : String) :
    (g.addEdge source target).Records (added ++ [.edge source target]) where
  nodes other := by
    -- the source of an edge becomes a node even if the edge was there
    rw [nodes_addEdge]
    refine NameMap.mem_keys_insert.trans ?_
    simp only [h.nodes, List.mem_append, List.mem_singleton, Addition.edge.injEq, reduceCtorEq,
      or_false, exists_or, exists_and_left, exists_eq, and_true]
    exact or_rotate
  mem_direct a b := by
    rw [mem_direct_addEdge, h.mem_direct]
    simp
  direct a := by
    rw [direct_addEdge]
    split
    · next hnew =>
      obtain ⟨rfl, hnew⟩ := hnew
      rw [List.map_append, List.map_singleton]
      exact (h.direct a).concat (h.added_of_direct a) fun hmem => hnew ((h.mem_direct _ _).mpr hmem)
    · exact (h.direct a).append (h.added_of_direct a) _
  dependents b := by
    rw [dependents_addEdge]
    split
    · next hnew =>
      obtain ⟨rfl, hnew⟩ := hnew
      rw [List.map_append, List.map_singleton]
      exact (h.dependents b).concat (h.added_of_dependents b) fun hmem =>
        hnew ((h.mem_direct _ _).mpr hmem)
    · exact (h.dependents b).append (h.added_of_dependents b) _

/-- One more addition is recorded behind those before it. -/
theorem extend (h : g.Records added) (addition : Addition) :
    (g.extend addition).Records (added ++ [addition]) := by
  cases addition with
  | node name => exact h.addNode name
  | edge source target => exact h.addEdge source target

end Records

theorem records_empty : (∅ : Graph).Records [] where
  nodes _ := by simp
  mem_direct _ _ := by simp
  direct _ := List.Pairwise.nil
  dependents _ := List.Pairwise.nil

/-- Additions are recorded behind those that made a graph before. -/
theorem records_foldl (h : g.Records added') (added : List Addition) :
    (added.foldl extend g).Records (added' ++ added) := by
  induction added generalizing g added' with
  | nil =>
    rw [List.append_nil]
    exact h
  | cons addition rest ih =>
    rw [List.append_cons]
    exact ih (h.extend addition)

theorem records_ofAdditions (added : List Addition) :
    (ofAdditions added).Records added :=
  records_foldl records_empty added

/-! ## Missing references -/

namespace Records

theorem mem_missing_iff (h : g.Records added) (a b : String) :
    (a, b) ∈ g.missing ↔ .edge a b ∈ added ∧ b ∉ g.nodes.keys := by
  rw [mem_missing, h.mem_direct]

theorem missing_sorted (h : g.Records added) :
    g.missing.Pairwise (Addition.EdgeBefore added) :=
  Graph.pairwise_missing
    (fun a => (List.pairwise_map.mp (h.direct a)).imp fun hlt => .inr ⟨rfl, hlt⟩)
    fun _ _ _ _ hlt => .inl hlt

/-! ## The order of the additions -/

/-- Nodes do not depend on the order in which they are added, nor on how often. -/
theorem keys_eq (h : g.Records added) (h' : g'.Records added')
    (hsame : ∀ addition, addition ∈ added' ↔ addition ∈ added) :
    g'.nodes.keys = g.nodes.keys :=
  NameMap.keys_eq_of_mem_iff fun name => by simp only [h.nodes, h'.nodes, hsame]

end Records

/-- **A graph keeps what is added, once and in order.** The nodes are what is added as a node or as
the source of an edge. An edge is found from its source and from its target if and only if it is
added; at either end each neighbour is there once, in the order in which the edges are first added.
Missing are the edges whose target never becomes a node, each once, by source and then in the order
of their addition. Nodes, edges and missing references are the same if the same is added in another
order or another number of times. -/
theorem ofAdditions_edges_once_in_order (added : List Addition) :
    (∀ name, name ∈ (ofAdditions added).nodes.keys ↔
      .node name ∈ added ∨ ∃ target, .edge name target ∈ added) ∧
    (∀ a b, (a ∈ (ofAdditions added).dependents b ↔ b ∈ (ofAdditions added).direct a) ∧
      (b ∈ (ofAdditions added).direct a ↔ .edge a b ∈ added)) ∧
    (∀ a, ((ofAdditions added).direct a).Nodup ∧
      InOrder added (((ofAdditions added).direct a).map fun b => .edge a b)) ∧
    (∀ b, ((ofAdditions added).dependents b).Nodup ∧
      InOrder added (((ofAdditions added).dependents b).map fun a => .edge a b)) ∧
    ((∀ a b, (a, b) ∈ (ofAdditions added).missing ↔
        .edge a b ∈ added ∧ b ∉ (ofAdditions added).nodes.keys) ∧
      (ofAdditions added).missing.Nodup ∧
      (ofAdditions added).missing.Pairwise (Addition.EdgeBefore added)) ∧
    ∀ added' : List Addition, (∀ addition, addition ∈ added' ↔ addition ∈ added) →
      (ofAdditions added').nodes.keys = (ofAdditions added).nodes.keys ∧
      (∀ a b, b ∈ (ofAdditions added').direct a ↔ b ∈ (ofAdditions added).direct a) ∧
      ∀ e, e ∈ (ofAdditions added').missing ↔ e ∈ (ofAdditions added).missing := by
  have h := records_ofAdditions added
  refine ⟨h.nodes, fun a b => ⟨mem_dependents, h.mem_direct a b⟩, fun a => ⟨?_, h.direct a⟩,
    fun b => ⟨?_, h.dependents b⟩, ⟨h.mem_missing_iff, ?_, h.missing_sorted⟩,
    fun added' hsame => ?_⟩
  · exact (ofAdditions added).nodup a
  · exact (ofAdditions added).nodup_reverse b
  · exact h.missing_sorted.imp Addition.EdgeBefore.ne
  · have h' := records_ofAdditions added'
    have hkeys := h.keys_eq h' hsame
    refine ⟨hkeys, fun a b => ?_, fun e => ?_⟩
    · rw [h.mem_direct, h'.mem_direct, hsame]
    · rw [h.mem_missing_iff, h'.mem_missing_iff, hsame, hkeys]

/-- A name that is added as a node behind an edge to it is not missing any more. -/
example : (ofAdditions [.edge "web" "db", .edge "web" "api", .node "db"]).missing =
    [("web", "api")] := by cbv

end Graph

end StartOrder
