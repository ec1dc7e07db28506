import StartOrder.Dependency.Graph
import StartOrder.Proofs.Recipe.Dependencies

/-!
# The graph of an environment

The graph of an environment has the services as its nodes, and from each service the edges to what
the service depends on, in the order in which it names them.

It is built service by service, and `Adds` says what some services add to a graph in which they have
no edges yet: the nodes, the edges of each service, and each service once more among the dependents
of what it needs. One service is `adds_service`, and `Adds.cons` puts it before others. That no
service has edges before its turn is what the induction in `ofServices_of_isRead` is over, and why
it is stated for any graph and not for the empty one.

A graph is made exactly if all links are read (`ofEnvironment_of_isRead`,
`ofEnvironment_of_firstUnread`), and a failure names the first link that is not, by the name of its
service and its place there. What the rest of the theory uses of all this is `Graph.IsOf`, the graph
of an environment, with `IsOf.dependsOn_iff`: its edges are the dependencies.
-/

namespace StartOrder

theorem Neighbours.mem_keys_of_mem_of {n : Neighbours} {a b : String} (h : b ∈ n.of a) :
    a ∈ n.keys := by
  unfold of at h
  cases hfind : n.find? a with
  | none =>
    rw [hfind] at h
    cases h
  | some targets => exact NameMap.mem_keys_iff_find?.mpr ⟨targets, hfind⟩

namespace Graph

/-! ## Edges and nodes -/

/-- A name depends on another if and only if the other has it as a dependent. -/
theorem mem_dependents {g : Graph} {a b : String} : a ∈ g.dependents b ↔ b ∈ g.direct a :=
  (g.mem_reverse a b).symm

/-- Edges start at nodes. -/
theorem mem_nodes_of_mem_direct {g : Graph} {a b : String} (h : b ∈ g.direct a) :
    a ∈ g.nodes.keys :=
  g.source_mem a (Neighbours.mem_keys_of_mem_of h)

theorem hasNode_iff {g : Graph} {name : String} : g.hasNode name = true ↔ name ∈ g.nodes.keys :=
  NameMap.contains_iff

theorem direct_eq_of_mem {g : Graph} {a : String} {targets : List String}
    (h : (a, targets) ∈ g.edges.toList) : g.direct a = targets := by
  rw [direct, Neighbours.of, NameMap.find?_eq_some_iff.mpr h, Option.getD_some]

/-- The missing references are the edges that lead to no node. -/
theorem mem_missing {g : Graph} {a b : String} :
    (a, b) ∈ g.missing ↔ b ∈ g.direct a ∧ b ∉ g.nodes.keys := by
  unfold missing
  rw [List.mem_flatMap]
  -- each entry of the map of edges is a source with all its targets
  constructor
  · rintro ⟨⟨name, targets⟩, hentry, hmem⟩
    obtain ⟨target, htarget, heq⟩ := List.mem_map.mp hmem
    cases heq
    obtain ⟨hdirect, hnode⟩ := List.mem_filter.mp htarget
    rw [Bool.not_eq_true', Bool.eq_false_iff, ne_eq, hasNode_iff] at hnode
    rw [← direct_eq_of_mem hentry] at hdirect
    exact ⟨hdirect, hnode⟩
  · rintro ⟨hdirect, hnode⟩
    obtain ⟨targets, hentry⟩ := NameMap.mem_keys_iff.mp (Neighbours.mem_keys_of_mem_of hdirect)
    rw [direct_eq_of_mem hentry] at hdirect
    refine ⟨(a, targets), hentry, List.mem_map.mpr ⟨b, List.mem_filter.mpr ⟨hdirect, ?_⟩, rfl⟩⟩
    rw [Bool.not_eq_true', Bool.eq_false_iff, ne_eq, hasNode_iff]
    exact hnode

/-- The missing references are listed by their sources, and those of one source in the order of its
edges. -/
theorem pairwise_missing {g : Graph} {r : String × String → String × String → Prop}
    (hsame : ∀ a, (g.direct a).Pairwise fun b c => r (a, b) (a, c))
    (hless : ∀ a b c d, a < b → r (a, c) (b, d)) : g.missing.Pairwise r := by
  refine List.pairwise_flatMap.mpr ⟨?_, g.edges.sorted.imp ?_⟩
  · rintro ⟨name, targets⟩ hentry
    have hall := hsame name
    rw [direct_eq_of_mem hentry] at hall
    exact List.pairwise_map.mpr (hall.filter _)
  · intro x y hlt first hfirst second hsecond
    obtain ⟨b, -, rfl⟩ := List.mem_map.mp hfirst
    obtain ⟨c, -, rfl⟩ := List.mem_map.mp hsecond
    exact hless x.1 y.1 b c hlt

@[simp] theorem nodes_empty : (∅ : Graph).nodes = ∅ := rfl

@[simp] theorem direct_empty (name : String) : (∅ : Graph).direct name = [] := rfl

@[simp] theorem dependents_empty (name : String) : (∅ : Graph).dependents name = [] := rfl

@[simp] theorem direct_addNode (g : Graph) (node name : String) :
    (g.addNode node).direct name = g.direct name := Neighbours.of_enter g.edges node name

@[simp] theorem dependents_addNode (g : Graph) (node name : String) :
    (g.addNode node).dependents name = g.dependents name :=
  Neighbours.of_enter g.reverse node name

/-- An edge makes a node of its source, whether it is new or not. -/
theorem nodes_addEdge (g : Graph) (source target : String) :
    (g.addEdge source target).nodes = g.nodes.add source := by
  unfold addEdge
  split
  · rfl
  · rfl

/-- A new edge stands behind the others of its source; one that is there changes nothing. -/
theorem direct_addEdge (g : Graph) (source target name : String) :
    (g.addEdge source target).direct name =
      if name = source ∧ target ∉ g.direct source then g.direct name ++ [target]
      else g.direct name := by
  rw [← direct_addNode g source source, ← direct_addNode g source name]
  unfold addEdge
  split
  · next hmem => rw [if_neg fun h => h.2 hmem]
  · next hnew =>
    refine (Neighbours.of_push _ source target name).trans (if_congr ?_ rfl rfl)
    exact (and_iff_left hnew).symm

/-- A new edge stands behind the others that lead to its target; one that is there changes
nothing. -/
theorem dependents_addEdge (g : Graph) (source target name : String) :
    (g.addEdge source target).dependents name =
      if name = target ∧ target ∉ g.direct source then g.dependents name ++ [source]
      else g.dependents name := by
  rw [← direct_addNode g source source, ← dependents_addNode g source name]
  unfold addEdge
  split
  · next hmem => rw [if_neg fun h => h.2 hmem]
  · next hnew =>
    refine (Neighbours.of_push _ target source name).trans (if_congr ?_ rfl rfl)
    exact (and_iff_left hnew).symm

theorem direct_addEdge_self (g : Graph) {source target : String} (h : target ∉ g.direct source) :
    (g.addEdge source target).direct source = g.direct source ++ [target] := by
  rw [direct_addEdge, if_pos ⟨rfl, h⟩]

/-- Edges of one name do not change those of another. -/
theorem direct_addEdges_of_ne (g : Graph) {source name : String} (targets : List String)
    (h : name ≠ source) : (g.addEdges source targets).direct name = g.direct name := by
  induction targets generalizing g with
  | nil => rfl
  | cons target rest ih =>
    show ((g.addEdge source target).addEdges source rest).direct name = _
    rw [ih, direct_addEdge, if_neg (fun hc => h hc.1)]

/-- New edges stand behind those that were there, in their order. -/
theorem direct_addEdges_self (g : Graph) {source : String} {targets : List String}
    (h : (g.direct source ++ targets).Nodup) :
    (g.addEdges source targets).direct source = g.direct source ++ targets := by
  induction targets generalizing g with
  | nil => exact (List.append_nil _).symm
  | cons target rest ih =>
    have hstep := direct_addEdge_self g (notMem_of_nodup_append h)
    show ((g.addEdge source target).addEdges source rest).direct source = _
    rw [ih (g.addEdge source target) (by rw [hstep]; simpa using h), hstep]
    simp

/-- The source of new edges stands behind the other dependents of each target. -/
theorem dependents_addEdges (g : Graph) {source : String} {targets : List String}
    (h : (g.direct source ++ targets).Nodup) (name : String) :
    (g.addEdges source targets).dependents name =
      if name ∈ targets then g.dependents name ++ [source] else g.dependents name := by
  induction targets generalizing g with
  | nil => exact (if_neg List.not_mem_nil).symm
  | cons target rest ih =>
    have hnew := notMem_of_nodup_append h
    have hstep := direct_addEdge_self g hnew
    show ((g.addEdge source target).addEdges source rest).dependents name = _
    rw [ih (g.addEdge source target) (by rw [hstep]; simpa using h)]
    by_cases hname : name = target
    · -- the other edges lead elsewhere
      have hrest : name ∉ rest := hname ▸ (List.nodup_cons.mp (List.nodup_append.mp h).2.1).1
      rw [if_neg hrest, dependents_addEdge, if_pos ⟨hname, hnew⟩,
        if_pos (hname ▸ List.mem_cons_self)]
    · have hold : (g.addEdge source target).dependents name = g.dependents name := by
        rw [dependents_addEdge, if_neg fun h => hname h.1]
      have hmem : name ∈ target :: rest ↔ name ∈ rest := List.mem_cons.trans (or_iff_right hname)
      rw [hold, if_congr hmem rfl rfl]

theorem mem_nodes_addEdges (g : Graph) {source name : String} (targets : List String)
    (h : source ∈ g.nodes.keys) :
    name ∈ (g.addEdges source targets).nodes.keys ↔ name ∈ g.nodes.keys := by
  induction targets generalizing g with
  | nil => exact Iff.rfl
  | cons target rest ih =>
    show name ∈ ((g.addEdge source target).addEdges source rest).nodes.keys ↔ _
    have hnodes : ∀ other, other ∈ (g.addEdge source target).nodes.keys ↔
        other = source ∨ other ∈ g.nodes.keys := fun other => by
      rw [nodes_addEdge]
      exact NameMap.mem_keys_insert
    rw [ih _ ((hnodes source).mpr (.inl rfl)), hnodes]
    constructor
    · rintro (rfl | hmem)
      · exact h
      · exact hmem
    · exact .inr

/-! ## The graph of some services -/

/-- The graph of services is refused at the first link that is not read. -/
theorem ofServices_of_firstUnread {services : List (String × Service)} {entry : String}
    (g : Graph) (h : Link.FirstUnread (services.flatMap fun s => s.2.links) entry) :
    ofServices g services = .error (.badLink entry) := by
  induction services generalizing g with
  | nil =>
    obtain ⟨before, after, heq, -, -⟩ := h
    simp at heq
  | cons head rest ih =>
    obtain ⟨name, service⟩ := head
    rw [List.flatMap_cons] at h
    rcases Link.firstUnread_append h with hfirst | ⟨hall, hsecond⟩
    · rw [ofServices, Service.dependencyNames_of_firstUnread hfirst]
    · obtain ⟨names, hnames⟩ := Service.dependencyNames_of_isRead hall
      rw [ofServices, hnames]
      exact ih _ hsecond

/-- What adding some services, of which none has edges yet, makes of a graph. -/
structure Adds (g : Graph) (services : List (String × Service)) (g' : Graph) : Prop where
  nodes : ∀ name, name ∈ g'.nodes.keys ↔ name ∈ g.nodes.keys ∨ name ∈ services.map (·.1)
  direct : ∀ s ∈ services, s.2.dependencyNames = .ok (g'.direct s.1)
  other : ∀ name, name ∉ services.map (·.1) → g'.direct name = g.direct name
  dependents : ∀ name, g'.dependents name =
    g.dependents name ++ (services.map (·.1)).filter fun source => name ∈ g'.direct source

/-- A service without edges is added with what it depends on. -/
theorem adds_service (g : Graph) {name : String} {service : Service} {targets : List String}
    (htargets : service.dependencyNames = .ok targets) (hfresh : g.direct name = []) :
    Adds g [(name, service)] ((g.addNode name).addEdges name targets) := by
  have hnodup : ((g.addNode name).direct name ++ targets).Nodup := by
    rw [direct_addNode, hfresh]
    exact Service.nodup_dependencyNames htargets
  have hself : ((g.addNode name).addEdges name targets).direct name = targets := by
    rw [direct_addEdges_self _ hnodup, direct_addNode, hfresh, List.nil_append]
  refine { nodes := fun other => ?_, direct := fun s hs => ?_, other := fun other hnot => ?_,
           dependents := fun other => ?_ }
  · rw [mem_nodes_addEdges _ targets (g.mem_nodes_addNode name), List.map_singleton,
      List.mem_singleton, or_comm]
    exact NameMap.mem_keys_insert
  · obtain rfl := List.mem_singleton.mp hs
    rw [hself]
    exact htargets
  · have hne : other ≠ name := fun heq => hnot (List.mem_singleton.mpr heq)
    rw [direct_addEdges_of_ne _ targets hne, direct_addNode]
  · rw [dependents_addEdges _ hnodup, dependents_addNode, List.map_singleton, List.filter_cons,
      hself]
    by_cases hmem : other ∈ targets
    · rw [if_pos hmem, if_pos (decide_eq_true hmem), List.filter_nil]
    · rw [if_neg hmem, if_neg fun h => hmem (of_decide_eq_true h), List.filter_nil,
        List.append_nil]

/-- A service is added before others of other names. -/
theorem Adds.cons {g mid g' : Graph} {s : String × Service} {rest : List (String × Service)}
    (h : Adds g [s] mid) (h' : Adds mid rest g') (hnew : s.1 ∉ rest.map (·.1)) :
    Adds g (s :: rest) g' := by
  have hsame : g'.direct s.1 = mid.direct s.1 := h'.other s.1 hnew
  refine { nodes := fun name => ?_, direct := ?_, other := fun name hnot => ?_,
           dependents := fun name => ?_ }
  · rw [h'.nodes, h.nodes, or_assoc, List.map_singleton, List.mem_singleton, List.map_cons,
      List.mem_cons]
  · refine List.forall_mem_cons.mpr ⟨?_, h'.direct⟩
    rw [hsame]
    exact h.direct s List.mem_cons_self
  · rw [List.map_cons, List.mem_cons, not_or] at hnot
    rw [h'.other name hnot.2, h.other name fun hmem => hnot.1 (List.mem_singleton.mp hmem)]
  · -- the edges of the first service stay what they are while the others are added
    have hhead : ([s].map (·.1)).filter (fun source => name ∈ mid.direct source) =
        ([s].map (·.1)).filter fun source => name ∈ g'.direct source :=
      List.filter_congr fun source hsource => by rw [List.mem_singleton.mp hsource, hsame]
    rw [h'.dependents, h.dependents, hhead, List.append_assoc, ← List.filter_append]
    rfl

/-- The graph of services whose links are read has their names and their dependencies. The induction
is on the services that are left, over any graph in which these have no edges yet. -/
theorem ofServices_of_isRead {services : List (String × Service)} (g : Graph)
    (hread : ∀ s ∈ services, ∀ entry ∈ s.2.links, Link.IsRead entry)
    (hnd : (services.map (·.1)).Nodup) (hfresh : ∀ s ∈ services, g.direct s.1 = []) :
    ∃ g', ofServices g services = .ok g' ∧ Adds g services g' := by
  induction services generalizing g with
  | nil =>
    exact ⟨g, rfl,
      { nodes := by simp, direct := by simp, other := fun _ _ => rfl, dependents := by simp }⟩
  | cons head rest ih =>
    obtain ⟨name, service⟩ := head
    obtain ⟨hhead, hrest⟩ := List.forall_mem_cons.mp hread
    obtain ⟨hfreshHead, hfreshRest⟩ := List.forall_mem_cons.mp hfresh
    rw [List.map_cons, List.nodup_cons] at hnd
    obtain ⟨targets, htargets⟩ := Service.dependencyNames_of_isRead hhead
    have hfirst := adds_service g htargets hfreshHead
    have hne : ∀ s ∈ rest, s.1 ∉ [(name, service)].map (·.1) := by
      intro s hs hmem
      have heq : s.1 = name := List.mem_singleton.mp hmem
      exact hnd.1 (List.mem_map.mpr ⟨s, hs, heq⟩)
    obtain ⟨g', hg', hadds⟩ := ih _ hrest hnd.2 fun s hs =>
      (hfirst.other s.1 (hne s hs)).trans (hfreshRest s hs)
    refine ⟨g', ?_, hfirst.cons hadds hnd.1⟩
    rw [ofServices, htargets]
    exact hg'

/-! ## The graph of an environment -/

/-- A graph has the services of an environment as its nodes, and their dependencies as its edges. -/
structure IsOf (g : Graph) (e : Environment) : Prop where
  nodes : g.nodes.keys = e.serviceNames
  direct : ∀ name service, e.services.find? name = some service →
    service.dependencyNames = .ok (g.direct name)

theorem ofEnvironment_of_firstUnread {e : Environment} {entry : String}
    (h : Link.FirstUnread e.linkEntries entry) : ofEnvironment e = .error (.badLink entry) :=
  ofServices_of_firstUnread ∅ h

/-- The graph of an environment whose links are all read adds its services to the empty graph. -/
theorem exists_adds_of_isRead {e : Environment} (h : ∀ entry ∈ e.linkEntries, Link.IsRead entry) :
    ∃ g, ofEnvironment e = .ok g ∧ Adds ∅ e.services.toList g :=
  ofServices_of_isRead ∅ (fun s hs entry hentry => h entry (List.mem_flatMap.mpr ⟨s, hs, hentry⟩))
    e.services.keys_nodup (fun s _ => direct_empty s.1)

theorem Adds.isOf {e : Environment} {g : Graph} (h : Adds ∅ e.services.toList g) : g.IsOf e where
  nodes := NameMap.keys_eq_of_mem_iff fun name => by
    rw [h.nodes, nodes_empty, NameMap.keys_empty]
    exact or_iff_right List.not_mem_nil
  direct name service hfind := h.direct (name, service) (NameMap.find?_eq_some_iff.mp hfind)

/-- There is a graph of each environment whose links are all read. -/
theorem ofEnvironment_of_isRead {e : Environment} (h : ∀ entry ∈ e.linkEntries, Link.IsRead entry) :
    ∃ g, ofEnvironment e = .ok g ∧ g.IsOf e := by
  obtain ⟨g, hg, hadds⟩ := exists_adds_of_isRead h
  exact ⟨g, hg, hadds.isOf⟩

/-- The dependents of a name are services, in their order. -/
theorem Adds.dependents_eq {e : Environment} {g : Graph} (h : Adds ∅ e.services.toList g)
    (name : String) :
    g.dependents name = e.serviceNames.filter fun source => name ∈ g.direct source := by
  rw [h.dependents, dependents_empty, List.nil_append]
  rfl

/-- The edges of an environment's graph are its dependencies. -/
theorem IsOf.dependsOn_iff {g : Graph} {e : Environment} (h : g.IsOf e) {a b : String} :
    e.DependsOn a b ↔ b ∈ g.direct a := by
  constructor
  · rintro ⟨service, names, hfind, hnames, hmem⟩
    rw [h.direct a service hfind] at hnames
    cases hnames
    exact hmem
  · intro hmem
    have hnode : a ∈ e.serviceNames := h.nodes ▸ mem_nodes_of_mem_direct hmem
    obtain ⟨service, hfind⟩ := NameMap.mem_keys_iff_find?.mp hnode
    exact ⟨service, g.direct a, hfind, h.direct a service hfind, hmem⟩

/-- Either there is a graph of an environment, or the first link that is not read is reported. -/
theorem adds_or_firstUnread (e : Environment) :
    (∃ g, ofEnvironment e = .ok g ∧ Adds ∅ e.services.toList g) ∨
      ∃ entry, Link.FirstUnread e.linkEntries entry ∧
        ofEnvironment e = .error (.badLink entry) := by
  rcases Link.isRead_or_firstUnread e.linkEntries with hread | ⟨entry, hbad⟩
  · exact .inl (exists_adds_of_isRead hread)
  · exact .inr ⟨entry, hbad, ofEnvironment_of_firstUnread hbad⟩

theorem ofEnvironment_eq_error_iff {e : Environment} {failure : Failure} :
    ofEnvironment e = .error failure ↔
      ∃ entry, Link.FirstUnread e.linkEntries entry ∧ failure = .badLink entry := by
  constructor
  · intro h
    rcases adds_or_firstUnread e with ⟨g, hg, -⟩ | ⟨entry, hbad, herror⟩
    · rw [hg] at h
      cases h
    · rw [herror] at h
      cases h
      exact ⟨entry, hbad, rfl⟩
  · rintro ⟨entry, hbad, rfl⟩
    exact ofEnvironment_of_firstUnread hbad

theorem exists_error_iff {e : Environment} : (∃ failure, ofEnvironment e = .error failure) ↔
    ∃ entry ∈ e.linkEntries, ¬Link.IsRead entry := by
  rw [← Link.exists_firstUnread_iff]
  constructor
  · rintro ⟨failure, h⟩
    obtain ⟨entry, hbad, -⟩ := ofEnvironment_eq_error_iff.mp h
    exact ⟨entry, hbad⟩
  · rintro ⟨entry, hbad⟩
    exact ⟨.badLink entry, ofEnvironment_of_firstUnread hbad⟩

theorem adds_of_ofEnvironment {e : Environment} {g : Graph} (h : ofEnvironment e = .ok g) :
    Adds ∅ e.services.toList g := by
  rcases adds_or_firstUnread e with ⟨g', hg', hadds⟩ | ⟨entry, -, herror⟩
  · rw [hg'] at h
    cases h
    exact hadds
  · rw [herror] at h
    cases h

/-- **The graph of an environment.** There is none if and only if a link of a service is not read,
and then the first such link is reported, by the name of its service and its place there. The nodes
of the graph are the services. A service leads to what it needs: to what it depends on, then to
what it links to, each at its first mention. Any name, defined or not, has the services that need it
as its dependents, in strictly ascending order. -/
theorem ofEnvironment_fails_or_needs_both_ways (e : Environment) :
    ((∃ failure, ofEnvironment e = .error failure) ↔
      ∃ name service entry, e.services.find? name = some service ∧ entry ∈ service.links ∧
        ¬Link.IsRead entry) ∧
    (∀ failure, ofEnvironment e = .error failure ↔
      ∃ entry, Link.FirstUnread e.linkEntries entry ∧ failure = .badLink entry) ∧
    ∀ g, ofEnvironment e = .ok g →
      g.nodes.keys = e.serviceNames ∧
      (∀ name service, e.services.find? name = some service →
        service.dependencyNames = .ok (g.direct name) ∧ service.IsNeeding (g.direct name)) ∧
      ∀ name, (g.dependents name).Pairwise (· < ·) ∧
        ∀ source, source ∈ g.dependents name ↔ e.DependsOn source name := by
  refine ⟨?_, fun _ => ofEnvironment_eq_error_iff, fun g hg => ?_⟩
  · rw [exists_error_iff]
    constructor
    · rintro ⟨entry, hmem, hbad⟩
      obtain ⟨name, service, hfind, hentry⟩ := Environment.mem_linkEntries.mp hmem
      exact ⟨name, service, entry, hfind, hentry, hbad⟩
    · rintro ⟨name, service, entry, hfind, hentry, hbad⟩
      exact ⟨entry, Environment.mem_linkEntries.mpr ⟨name, service, hfind, hentry⟩, hbad⟩
  · have hadds := adds_of_ofEnvironment hg
    have hisOf := hadds.isOf
    refine ⟨hisOf.nodes, fun name service hfind => ?_, fun name => ⟨?_, fun source => ?_⟩⟩
    · have hnames := hisOf.direct name service hfind
      exact ⟨hnames, Service.isNeeding_of_dependencyNames hnames⟩
    · rw [hadds.dependents_eq]
      exact e.services.keys_sorted.filter _
    · rw [mem_dependents, hisOf.dependsOn_iff]

end Graph

end StartOrder
