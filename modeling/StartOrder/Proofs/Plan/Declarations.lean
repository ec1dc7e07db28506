import StartOrder.Proofs.Plan.Unresolved

/-!
# Plans depend on what is needed, and not on how it is declared

A service may declare that it needs another by a dependency or by a link, as often and in whatever
order it likes. The graph keeps the order of the declarations in that of its edges, and tells one
cycle or another by it; weights, plans and the services that cannot be ordered do not depend on it.

The proof does not compare two runs of the passes. Weights are lengths of longest chains, and what
is left is what is blocked, and neither is said in terms of the order of edges; so graphs with the
same edges agree in both (`SameEdges.weights_eq`, `SameEdges.unresolved_eq`), and then in the number
of passes as well, which is that of the weights in use (`SameEdges.weigh_eq`).

What remains is to see that environments that need the same have graphs with the same edges. A
service needs another if it depends on it or links to it under any alias (`Service.Needs`), and
`NeedsAlike` asks two environments to agree on that and on the names of their services.
-/

namespace StartOrder

/-! ## Graphs with the same edges -/

namespace Graph

variable {g g' : Graph} {a : String} {n : Nat}

/-- Two graphs have the same nodes and the same edges, in whatever order these were added. -/
structure SameEdges (g g' : Graph) : Prop where
  nodes : g.nodes.keys = g'.nodes.keys
  needs : g.Needs = g'.Needs

theorem SameEdges.longestChain_iff (h : g.SameEdges g') :
    g.LongestChain a n ↔ g'.LongestChain a n := by
  have hchain : ∀ behind, g.IsChainFrom a behind ↔ g'.IsChainFrom a behind := by
    intro behind
    unfold IsChainFrom
    rw [h.needs]
  constructor
  · rintro ⟨⟨behind, hbehind, hlength⟩, hbound⟩
    exact ⟨⟨behind, (hchain behind).mp hbehind, hlength⟩,
      fun other hother => hbound other ((hchain other).mpr hother)⟩
  · rintro ⟨⟨behind, hbehind, hlength⟩, hbound⟩
    exact ⟨⟨behind, (hchain behind).mpr hbehind, hlength⟩,
      fun other hother => hbound other ((hchain other).mp hother)⟩

theorem SameEdges.weights_eq (h : g.SameEdges g') : g.weigh.weights = g'.weigh.weights := by
  refine NameMap.eq_of_find?_eq fun a => Option.ext fun n => ?_
  rw [find?_weigh_eq_some_iff, find?_weigh_eq_some_iff, h.nodes, h.needs, h.longestChain_iff]

theorem SameEdges.unresolved_eq (h : g.SameEdges g') :
    g.weigh.unresolved = g'.weigh.unresolved := by
  have hsorted : ∀ k : Graph, k.weigh.unresolved.Pairwise (· < ·) := fun k =>
    k.nodes.keys_sorted.sublist k.settled_weigh.sublist
  refine (hsorted g).eq_of_mem_iff (hsorted g') fun a => ?_
  rw [mem_unresolved_iff, mem_unresolved_iff, IsBlocked, IsBlocked, h.nodes, h.needs]

/-- **Graphs with the same edges are weighed alike**, and in as many passes. -/
theorem SameEdges.weigh_eq (h : g.SameEdges g') : g.weigh = g'.weigh := by
  obtain ⟨k, hused, hpasses⟩ := g.weights_without_gaps
  obtain ⟨k', hused', hpasses'⟩ := g'.weights_without_gaps
  -- the weights in use are the same, and their number is that of the passes that find something
  have hk : k = k' := by
    have hlt : ∀ n, n < k ↔ n < k' := fun n => by rw [← hused, ← hused', h.weights_eq]
    have hk := hlt k
    have hk' := hlt k'
    omega
  have hsame : g.weigh.passes = g'.weigh.passes := by
    rw [hpasses, hpasses', hk, h.unresolved_eq]
  calc g.weigh = ⟨g.weigh.weights, g.weigh.unresolved, g.weigh.passes⟩ := rfl
    _ = ⟨g'.weigh.weights, g'.weigh.unresolved, g'.weigh.passes⟩ := by
      rw [h.weights_eq, h.unresolved_eq, hsame]
    _ = g'.weigh := rfl

end Graph

/-! ## What services declare -/

namespace Service

variable {s : Service} {name : String}

/-- A service declares that it needs another: it depends on it, or links to it under any alias. -/
def Needs (s : Service) (name : String) : Prop :=
  name ∈ s.dependsOn ∨ ∃ entry ∈ s.links, ∃ link, Link.ofText entry = .ok link ∧
    link.service = name

end Service

/-- What is read from a list of links is what is read from its entries. -/
theorem Link.mem_of_mapM_ofText {entries : List String} {links : List Link}
    (h : entries.mapM ofText = .ok links) {link : Link} :
    link ∈ links ↔ ∃ entry ∈ entries, ofText entry = .ok link := by
  have hall := mapM_eq_ok_iff.mp h
  constructor
  · intro hlink
    exact exists_mem_of_forall₂ hall.flip hlink
  · rintro ⟨entry, hentry, hread⟩
    obtain ⟨other, hother, hread'⟩ := exists_mem_of_forall₂ hall hentry
    rw [hread] at hread'
    cases hread'
    exact hother

theorem Service.mem_dependencyNames_iff {s : Service} {names : List String} {name : String}
    (h : s.dependencyNames = .ok names) : name ∈ names ↔ s.Needs name := by
  obtain ⟨links, hlinks, rfl⟩ := dependencyNames_eq_ok_iff.mp h
  rw [mem_firstOccurrences, List.mem_append, List.mem_map, Needs]
  refine or_congr_right ⟨?_, ?_⟩
  · rintro ⟨link, hlink, hname⟩
    obtain ⟨entry, hentry, hread⟩ := (Link.mem_of_mapM_ofText hlinks).mp hlink
    exact ⟨entry, hentry, link, hread, hname⟩
  · rintro ⟨entry, hentry, link, hread, hname⟩
    exact ⟨link, (Link.mem_of_mapM_ofText hlinks).mpr ⟨entry, hentry, hread⟩, hname⟩

/-- Services whose dependencies are the same in another order need the same. -/
theorem Service.needs_iff_of_perm {s s' : Service} {names names' : List String}
    (h : s.dependencyNames = .ok names) (h' : s'.dependencyNames = .ok names')
    (hp : names.Perm names') (name : String) : s.Needs name ↔ s'.Needs name := by
  rw [← mem_dependencyNames_iff h, ← mem_dependencyNames_iff h', hp.mem_iff]

/-! ## Environments that need the same -/

namespace Environment

variable {e e' : Environment}

/-- Two environments have services of the same names, and these declare that they need the same
services. Nothing else of them has to agree. -/
structure NeedsAlike (e e' : Environment) : Prop where
  names : e.serviceNames = e'.serviceNames
  needs : ∀ name s s', e.services.find? name = some s → e'.services.find? name = some s' →
    ∀ other, s.Needs other ↔ s'.Needs other

theorem NeedsAlike.symm (h : e.NeedsAlike e') : e'.NeedsAlike e where
  names := h.names.symm
  needs name s' s hs' hs other := (h.needs name s s' hs hs' other).symm

theorem NeedsAlike.refl (e : Environment) : e.NeedsAlike e where
  names := rfl
  needs name s s' hs hs' other := by
    rw [hs] at hs'
    cases hs'
    exact Iff.rfl

/-- Services that declare the same may be added under the same name. -/
theorem NeedsAlike.withService (h : e.NeedsAlike e') (name : String) {s s' : Service}
    (hs : ∀ other, s.Needs other ↔ s'.Needs other) :
    (e.withService name s).NeedsAlike (e'.withService name s') where
  names := NameMap.keys_eq_of_mem_iff fun other => by
    show other ∈ (e.services.insert name s).keys ↔ other ∈ (e'.services.insert name s').keys
    rw [NameMap.mem_keys_insert, NameMap.mem_keys_insert]
    exact or_congr_right (by rw [← serviceNames, ← serviceNames, h.names])
  needs other t t' ht ht' := by
    replace ht : (e.services.insert name s).find? other = some t := ht
    replace ht' : (e'.services.insert name s').find? other = some t' := ht'
    rw [NameMap.find?_insert] at ht ht'
    by_cases hname : other = name
    · rw [if_pos hname] at ht ht'
      cases ht
      cases ht'
      exact hs
    · rw [if_neg hname] at ht ht'
      exact h.needs other t t' ht ht'

theorem dependsOn_iff_needs (hread : ∀ entry ∈ e.linkEntries, Link.IsRead entry) {a b : String} :
    e.DependsOn a b ↔ ∃ s, e.services.find? a = some s ∧ s.Needs b := by
  constructor
  · rintro ⟨s, names, hs, hnames, hmem⟩
    exact ⟨s, hs, (Service.mem_dependencyNames_iff hnames).mp hmem⟩
  · rintro ⟨s, hs, hneeds⟩
    obtain ⟨names, hnames⟩ : ∃ names, s.dependencyNames = .ok names :=
      Service.dependencyNames_of_isRead fun entry hentry => hread entry
        (List.mem_flatMap.mpr ⟨(a, s), NameMap.find?_eq_some_iff.mp hs, hentry⟩)
    exact ⟨s, names, hs, hnames, (Service.mem_dependencyNames_iff hnames).mpr hneeds⟩

theorem NeedsAlike.dependsOn_of (h : e.NeedsAlike e')
    (hread : ∀ entry ∈ e.linkEntries, Link.IsRead entry)
    (hread' : ∀ entry ∈ e'.linkEntries, Link.IsRead entry) {a b : String}
    (hab : e.DependsOn a b) : e'.DependsOn a b := by
  obtain ⟨s, hs, hneeds⟩ := (dependsOn_iff_needs hread).mp hab
  have hname : a ∈ e'.serviceNames := h.names ▸ mem_serviceNames_of_dependsOn hab
  obtain ⟨s', hs'⟩ := NameMap.mem_keys_iff_find?.mp hname
  exact (dependsOn_iff_needs hread').mpr ⟨s', hs', (h.needs a s s' hs hs' b).mp hneeds⟩

/-- **Only what is needed matters for a plan.** Environments with services of the same names that
need the same, by dependencies or by links, under any aliases, in any order and as often as they
like, have the same plan, or there is none of either and the same services cannot be ordered. -/
theorem plan_of_needsAlike (h : e.NeedsAlike e')
    (hread : ∀ entry ∈ e.linkEntries, Link.IsRead entry)
    (hread' : ∀ entry ∈ e'.linkEntries, Link.IsRead entry) :
    (∃ p, e.plan = .ok p ∧ e'.plan = .ok p) ∨
      ∃ services reason reason', e.plan = .error (.noOrder services reason) ∧
        e'.plan = .error (.noOrder services reason') := by
  obtain ⟨g, hgraph, hg⟩ := Graph.ofEnvironment_of_isRead hread
  obtain ⟨g', hgraph', hg'⟩ := Graph.ofEnvironment_of_isRead hread'
  have hsame : g.SameEdges g' := by
    refine { nodes := by rw [hg.nodes, hg'.nodes, h.names], needs := ?_ }
    rw [needs_eq_dependsOn hg, needs_eq_dependsOn hg']
    funext a b
    exact propext ⟨h.dependsOn_of hread hread', h.symm.dependsOn_of hread' hread⟩
  rw [plan_of_graph hgraph, plan_of_graph hgraph', ← hsame.weigh_eq]
  by_cases hcomplete : g.weigh.isComplete = true
  · rw [if_pos hcomplete, if_pos hcomplete]
    exact .inl ⟨_, rfl, rfl⟩
  · rw [if_neg hcomplete, if_neg hcomplete]
    exact .inr ⟨_, _, _, rfl, rfl⟩

/-- Two services that a third one depends on. -/
def dependent : Environment :=
  ((({} : Environment).withService "web" { dependsOn := ["db", "cache"] }).withService
    "cache" {}).withService "db" { image := some "postgres" }

/-- The same, but for two links in place of the dependencies, of which one has an alias and one is
given twice, and for an image. -/
def linked : Environment :=
  ((({} : Environment).withService "web" { links := ["cache", "db:data", "cache"] }).withService
    "cache" { image := some "redis" }).withService "db" {}

/-- Two services that a third one depends on, and which depend on it. -/
def circular : Environment :=
  ((({} : Environment).withService "web" { dependsOn := ["db", "cache"] }).withService
    "cache" { dependsOn := ["web"] }).withService "db" { links := ["web"] }

/-- The same, with the two declared in the other order. -/
def recircular : Environment :=
  ((({} : Environment).withService "web" { dependsOn := ["cache", "db"] }).withService
    "cache" { dependsOn := ["web"] }).withService "db" { links := ["web:www"] }

/-- The first pass over `circular` finds nothing, and the search comes upon `web` from `db`. -/
theorem plan_circular : circular.plan = .error (.noOrder ["cache", "db", "web"]
    (.found [] (some ["web", "db", "web"]))) := by
  let g : Graph := (Graph.ofEnvironment circular).toOption.getD ∅
  have hg : Graph.ofEnvironment circular = .ok g := rfl
  have hcycle : g.findCycle = some ["web", "db", "web"] := by
    have hnodes : g.nodes.keys = ["cache", "db", "web"] := by decide +kernel
    have hcache : g.direct "cache" = ["web"] := by decide +kernel
    have hdb : g.direct "db" = ["web"] := by decide +kernel
    have hweb : g.direct "web" = ["db", "cache"] := by decide +kernel
    simp [Graph.findCycle, Graph.search, Graph.closing, hnodes, hcache, hdb, hweb]
  have hleft : (g.after 0).remaining = ["cache", "db", "web"] := by decide +kernel
  have hmissing : g.missing = [] := by decide +kernel
  rw [plan_noOrder_of_found hg 0 (by decide +kernel) (by decide +kernel) (by decide +kernel),
    hleft, hmissing, hcycle]

/-- With the dependencies of `web` the other way around, the search comes upon `cache` from it. -/
theorem plan_recircular : recircular.plan = .error (.noOrder ["cache", "db", "web"]
    (.found [] (some ["cache", "web", "cache"]))) := by
  let g : Graph := (Graph.ofEnvironment recircular).toOption.getD ∅
  have hg : Graph.ofEnvironment recircular = .ok g := rfl
  have hcycle : g.findCycle = some ["cache", "web", "cache"] := by
    have hnodes : g.nodes.keys = ["cache", "db", "web"] := by decide +kernel
    have hcache : g.direct "cache" = ["web"] := by decide +kernel
    have hweb : g.direct "web" = ["cache", "db"] := by decide +kernel
    simp [Graph.findCycle, Graph.search, Graph.closing, hnodes, hcache, hweb]
  have hleft : (g.after 0).remaining = ["cache", "db", "web"] := by decide +kernel
  have hmissing : g.missing = [] := by decide +kernel
  rw [plan_noOrder_of_found hg 0 (by decide +kernel) (by decide +kernel) (by decide +kernel),
    hleft, hmissing, hcycle]

/-- Links serve for dependencies. Where there is no plan, another order of declarations leads to
another reason, but to the same services. -/
theorem dependent_linked_plan :
    (dependent.NeedsAlike linked ∧ dependent.plan = .ok ⟨[("cache", 0), ("db", 0), ("web", 1)]⟩ ∧
      linked.plan = dependent.plan) ∧
    circular.NeedsAlike recircular ∧ ∃ services reason reason',
      circular.plan = .error (.noOrder services reason) ∧
        recircular.plan = .error (.noOrder services reason') ∧ reason ≠ reason' := by
  have hneeds : dependent.NeedsAlike linked := by
    refine (((NeedsAlike.refl {}).withService "web" ?_).withService "cache" ?_).withService "db" ?_
    · exact @Service.needs_iff_of_perm _ _ ["db", "cache"] ["cache", "db"]
        rfl rfl (by decide)
    · exact fun _ => Iff.rfl
    · exact fun _ => Iff.rfl
  have hneeds' : circular.NeedsAlike recircular := by
    refine (((NeedsAlike.refl {}).withService "web" ?_).withService "cache" ?_).withService "db" ?_
    · exact @Service.needs_iff_of_perm _ _ ["db", "cache"] ["cache", "db"]
        rfl rfl (by decide)
    · exact fun _ => Iff.rfl
    · exact @Service.needs_iff_of_perm _ _ ["web"] ["web"]
        rfl rfl (by decide)
  have hplan : dependent.plan = .ok ⟨[("cache", 0), ("db", 0), ("web", 1)]⟩ :=
    plan_eq_ok_iff_fits.mpr (by decide +kernel)
  refine ⟨⟨hneeds, hplan, ?_⟩, hneeds', ?_⟩
  · rcases plan_of_needsAlike hneeds (by decide +kernel) (by decide +kernel) with
      ⟨p, hp, hp'⟩ | ⟨_, _, _, herror, -⟩
    · rw [hp, hp']
    · rw [hplan] at herror
      cases herror
  · rcases plan_of_needsAlike hneeds' (by decide +kernel) (by decide +kernel) with
      ⟨p, hp, -⟩ | ⟨services, reason, reason', herror, herror'⟩
    · rw [plan_circular] at hp
      cases hp
    · refine ⟨services, reason, reason', herror, herror', ?_⟩
      rw [plan_circular] at herror
      rw [plan_recircular] at herror'
      cases herror
      cases herror'
      decide

end Environment

end StartOrder
