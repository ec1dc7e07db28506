import StartOrder.Proofs.Dependency.Chains
import StartOrder.Proofs.Plan.Order

/-!
# Plans of larger environments

Services that are added to an environment change neither the weights of those that were there nor
the order among them, even if they bear names that were undefined before.

The reason is that a weight is the length of the longest chain of dependencies, and the chains from
a node with a weight stay among nodes. These nodes need the same in the larger graph
(`Graph.IsPartOf`), so the same chains begin there (`IsPartOf.isChainFrom_iff`), and none of them
has grown longer (`IsPartOf.find?_weigh`). The order is then a matter of lists: both plans are
strictly ascending, and the entries of the smaller one are those of the larger one whose names it
has (`ranked_eq_filter`).
-/

namespace StartOrder

open Relation (ReflTransGen)

namespace Graph

variable {g g' : Graph} {a b : String} {n : Nat}

/-- A graph is part of another one: its nodes are nodes there, and need the same. -/
structure IsPartOf (g g' : Graph) : Prop where
  nodes : ∀ a ∈ g.nodes.keys, a ∈ g'.nodes.keys
  direct : ∀ a ∈ g.nodes.keys, g'.direct a = g.direct a

theorem IsPartOf.needs_iff (h : g.IsPartOf g') (ha : a ∈ g.nodes.keys) :
    g'.Needs a b ↔ g.Needs a b := by
  unfold Needs
  rw [h.direct a ha]

/-- What leads to nodes of the part alone leads to the same in the whole. -/
theorem IsPartOf.reaches (h : g.IsPartOf g')
    (hnodes : ∀ c, ReflTransGen g.Needs a c → c ∈ g.nodes.keys) (hb : ReflTransGen g'.Needs a b) :
    ReflTransGen g.Needs a b := by
  induction hb with
  | refl => exact ReflTransGen.refl
  | @tail b c _ hneeds ih => exact ih.tail ((h.needs_iff (hnodes b ih)).mp hneeds)

/-- From a name that leads to nodes of the part alone, the same chains begin in the whole. -/
theorem IsPartOf.isChainFrom_iff (h : g.IsPartOf g')
    (hnodes : ∀ c, ReflTransGen g.Needs a c → c ∈ g.nodes.keys) {behind : List String} :
    g'.IsChainFrom a behind ↔ g.IsChainFrom a behind := by
  induction behind generalizing a with
  | nil => exact ⟨fun _ => g.isChainFrom_nil a, fun _ => g'.isChainFrom_nil a⟩
  | cons next behind ih =>
    rw [isChainFrom_cons, isChainFrom_cons, h.needs_iff (hnodes a ReflTransGen.refl)]
    refine and_congr_right fun hneeds => ?_
    exact ih fun c hreach => hnodes c (ReflTransGen.head hneeds hreach)

/-- **The nodes of a part weigh the same in the whole.** -/
theorem IsPartOf.find?_weigh (h : g.IsPartOf g') (ha : g.weigh.weights.find? a = some n) :
    g'.weigh.weights.find? a = some n := by
  obtain ⟨hnodes, hlongest⟩ := find?_weigh_eq_some_iff.mp ha
  obtain ⟨behind, hbehind, hlength⟩ := hlongest.attained
  refine find?_weigh_eq_some_iff.mpr
    ⟨fun b hreach => h.nodes b (hnodes b (h.reaches hnodes hreach)), ?_, fun other hother => ?_⟩
  · exact ⟨behind, (h.isChainFrom_iff hnodes).mpr hbehind, hlength⟩
  · exact hlongest.bound other ((h.isChainFrom_iff hnodes).mp hother)

end Graph

namespace Plan

/-- Weights that agree on the names of a smaller map rank these names alike. -/
theorem ranked_eq_filter {weights weights' : NameMap Nat}
    (h : ∀ name n, weights.find? name = some n → weights'.find? name = some n) :
    (ofWeights weights).ranked = (ofWeights weights').ranked.filter (·.1 ∈ weights.keys) := by
  refine (ranked_sorted weights).eq_of_mem_iff ((ranked_sorted weights').filter _) ?_
  rintro ⟨name, n⟩
  rw [List.mem_filter, decide_eq_true_iff, mem_ranked, mem_ranked]
  constructor
  · intro hn
    exact ⟨h name n hn, NameMap.mem_keys_iff_find?.mpr ⟨n, hn⟩⟩
  · rintro ⟨hn, hkey⟩
    -- the name has a weight in the smaller map, which is the one in the larger map
    obtain ⟨m, hm⟩ := NameMap.mem_keys_iff_find?.mp hkey
    have hm' := h name m hm
    rw [hn] at hm'
    cases hm'
    exact hm

end Plan

namespace Environment

variable {e e' e'' : Environment} {g g' : Graph}

/-- An environment is part of another one: each of its services is one there, defined alike. -/
def IsPartOf (e e' : Environment) : Prop :=
  ∀ name service, e.services.find? name = some service → e'.services.find? name = some service

theorem IsPartOf.trans (h : e.IsPartOf e') (h' : e'.IsPartOf e'') : e.IsPartOf e'' :=
  fun name service hfind => h' name service (h name service hfind)

/-- An environment is part of what it becomes with another service. -/
theorem isPartOf_withService {name : String} (service : Service) (h : name ∉ e.serviceNames) :
    e.IsPartOf (e.withService name service) := by
  intro other definition hfind
  have hne : other ≠ name := by
    rintro rfl
    exact h (NameMap.mem_keys_iff_find?.mpr ⟨definition, hfind⟩)
  show (e.services.insert name service).find? other = some definition
  rw [NameMap.find?_insert, if_neg hne]
  exact hfind

/-- The links of a part are links of the whole. -/
theorem IsPartOf.mem_linkEntries (h : e.IsPartOf e') {entry : String}
    (hentry : entry ∈ e.linkEntries) : entry ∈ e'.linkEntries := by
  obtain ⟨name, service, hfind, hlink⟩ := Environment.mem_linkEntries.mp hentry
  exact Environment.mem_linkEntries.mpr ⟨name, service, h name service hfind, hlink⟩

/-- The graph of a part is part of the graph of the whole. -/
theorem IsPartOf.graph (h : e.IsPartOf e') (hg : g.IsOf e) (hg' : g'.IsOf e') : g.IsPartOf g' := by
  have hservice : ∀ a ∈ g.nodes.keys, ∃ service, e.services.find? a = some service := by
    intro a ha
    rw [hg.nodes] at ha
    exact NameMap.mem_keys_iff_find?.mp ha
  refine { nodes := fun a ha => ?_, direct := fun a ha => ?_ }
  · obtain ⟨service, hfind⟩ := hservice a ha
    rw [hg'.nodes]
    exact NameMap.mem_keys_iff_find?.mpr ⟨service, h a service hfind⟩
  · obtain ⟨service, hfind⟩ := hservice a ha
    have hnames := hg.direct a service hfind
    rw [hg'.direct a service (h a service hfind)] at hnames
    exact Except.ok.inj hnames

/-- **Services that are added change nothing for the others.** What has a weight in a part of an
environment has the same weight in the whole. If there are plans of both, the order of the part is
the order of the whole without the services that are not in the part, and both plans give these the
same weights. -/
theorem weights_and_order_of_isPartOf (h : e.IsPartOf e')
    (hread : ∀ entry ∈ e'.linkEntries, Link.IsRead entry) :
    ∃ g g', Graph.ofEnvironment e = .ok g ∧ Graph.ofEnvironment e' = .ok g' ∧
      (∀ name n, g.weigh.weights.find? name = some n → g'.weigh.weights.find? name = some n) ∧
      ∀ p p', e.plan = .ok p → e'.plan = .ok p' →
        p.order = p'.order.filter (· ∈ e.serviceNames) ∧
        ∀ name ∈ e.serviceNames, ∃ n, p.weight? name = some n ∧ p'.weight? name = some n := by
  obtain ⟨g, hgraph, hg⟩ := Graph.ofEnvironment_of_isRead fun entry hentry =>
    hread entry (h.mem_linkEntries hentry)
  obtain ⟨g', hgraph', hg'⟩ := Graph.ofEnvironment_of_isRead hread
  have hweights : ∀ name n, g.weigh.weights.find? name = some n →
      g'.weigh.weights.find? name = some n := fun _ _ => (h.graph hg hg').find?_weigh
  refine ⟨g, g', hgraph, hgraph', hweights, fun p p' hp hp' => ?_⟩
  obtain ⟨hcomplete, rfl⟩ := eq_ofWeights_of_plan hgraph hp
  obtain ⟨-, rfl⟩ := eq_ofWeights_of_plan hgraph' hp'
  have hkeys : g.weigh.weights.keys = e.serviceNames := keys_weigh_of_isComplete hg hcomplete
  -- with a plan, the weighed names are the services
  refine ⟨?_, fun name hname => ?_⟩
  · rw [Plan.order, Plan.ranked_eq_filter hweights, hkeys, Plan.order, List.filter_map]
    rfl
  · rw [← hkeys] at hname
    obtain ⟨n, hn⟩ := NameMap.mem_keys_iff_find?.mp hname
    refine ⟨n, ?_, ?_⟩
    · rw [Plan.weight?_ofWeights, hn]
    · rw [Plan.weight?_ofWeights, hweights name n hn]

/-- A service that is linked to its store. -/
def shop : Environment :=
  (({} : Environment).withService "db" {}).withService "web" { links := ["db:data"] }

/-- The same with a service before the store by name, and one that needs both. -/
def mall : Environment :=
  (shop.withService "cache" {}).withService "proxy" { dependsOn := ["web", "cache"] }

/-- Neither the service that comes in before the two nor the one that needs them changes their
weights or turns them around. -/
theorem shop_weights_and_order_in_mall :
    shop.IsPartOf mall ∧ (∀ entry ∈ mall.linkEntries, Link.IsRead entry) ∧
    shop.plan = .ok ⟨[("db", 0), ("web", 1)]⟩ ∧
    mall.plan = .ok ⟨[("cache", 0), ("db", 0), ("web", 1), ("proxy", 2)]⟩ ∧
    ["db", "web"] = ["cache", "db", "web", "proxy"].filter (· ∈ shop.serviceNames) := by
  have hpart : shop.IsPartOf mall := by
    have hcache : "cache" ∉ shop.serviceNames := by decide
    have hproxy : "proxy" ∉ (shop.withService "cache" {}).serviceNames := by decide
    exact (isPartOf_withService _ hcache).trans (isPartOf_withService _ hproxy)
  have hread : ∀ entry ∈ mall.linkEntries, Link.IsRead entry := by
    have hentries : mall.linkEntries = ["db:data"] := by decide +kernel
    rw [hentries]
    exact List.forall_mem_singleton.mpr ⟨_, rfl⟩
  have hshop : shop.plan = .ok ⟨[("db", 0), ("web", 1)]⟩ :=
    plan_eq_ok_iff_fits.mpr (by decide +kernel)
  have hmall : mall.plan = .ok ⟨[("cache", 0), ("db", 0), ("web", 1), ("proxy", 2)]⟩ :=
    plan_eq_ok_iff_fits.mpr (by decide +kernel)
  obtain ⟨_, _, -, -, -, hplans⟩ := weights_and_order_of_isPartOf hpart hread
  exact ⟨hpart, hread, hshop, hmall, (hplans _ _ hshop hmall).1⟩

end Environment

end StartOrder
