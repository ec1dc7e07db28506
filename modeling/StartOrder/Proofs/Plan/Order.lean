import StartOrder.Plan
import StartOrder.Proofs.Dependency.Weights
import StartOrder.Proofs.Positions

/-!
# The order of a plan

When there is a plan of an environment, and that its order respects all dependencies.

A plan ranks entries by weight and then by name. Sorting gives an order that is ascending in the
weak sense; since the names are distinct, it is ascending in the strict sense (`ranked_sorted`), and
a list that is strictly ascending is determined by its members. This is used over and over: two
plans are equal as soon as they have the same entries (`eq_ofWeights`).

`Plan.IsOf` says what a plan is in terms of the environment alone: it ranks the services, each above
all that it needs. That dependencies stand first follows from it, because the entry of a dependency
is the lighter one (`IsOf.sublist_of_dependsOn`).

Planning has three ends. A link is not read, or the weighing of the graph is complete, or it is not;
the last two are told apart by whether the environment is closed and acyclic
(`weigh_isComplete_iff_of_isOf`). Since a weighing is determined by its being right at each node, a
plan can also be recognised without planning: `fits` is a test, and `plan_eq_ok_iff_fits` says that
the plan is what passes it.
-/

namespace StartOrder

namespace Plan

/-- One service stands before another by its weight, or by its name if they weigh the same. -/
def Precedes (p : Plan) (a b : String) : Prop :=
  ∃ m n, p.weight? a = some m ∧ p.weight? b = some n ∧ (m < n ∨ m = n ∧ a < b)

/-! ## Ranking by weight -/

/-- One entry stands before another by its weight, or by its name if they weigh the same. -/
def EntryPrecedes (a b : String × Nat) : Prop := a.2 < b.2 ∨ a.2 = b.2 ∧ a.1 < b.1

theorem startsBefore_iff {a b : String × Nat} :
    startsBefore a b = true ↔ a.2 < b.2 ∨ a.2 = b.2 ∧ a.1 ≤ b.1 := by
  simp [startsBefore]

theorem startsBefore_trans (a b c : String × Nat) (hab : startsBefore a b = true)
    (hbc : startsBefore b c = true) : startsBefore a c = true := by
  rw [startsBefore_iff] at hab hbc ⊢
  -- one step up in weight decides; otherwise all three weigh the same, and the names do
  rcases hab with hab | ⟨heq, hle⟩
  · rcases hbc with hbc | ⟨heq', -⟩
    · exact .inl (Nat.lt_trans hab hbc)
    · exact .inl (heq' ▸ hab)
  · rcases hbc with hbc | ⟨heq', hle'⟩
    · exact .inl (heq ▸ hbc)
    · exact .inr ⟨heq.trans heq', String.le_trans hle hle'⟩

theorem startsBefore_total (a b : String × Nat) : startsBefore a b || startsBefore b a := by
  rw [Bool.or_eq_true, startsBefore_iff, startsBefore_iff]
  rcases Nat.lt_trichotomy a.2 b.2 with hlt | heq | hgt
  · exact .inl (.inl hlt)
  · rcases String.le_total a.1 b.1 with hle | hle
    · exact .inl (.inr ⟨heq, hle⟩)
    · exact .inr (.inr ⟨heq.symm, hle⟩)
  · exact .inr (.inl hgt)

theorem not_entryPrecedes_symm {a b : String × Nat} (hab : EntryPrecedes a b) :
    ¬EntryPrecedes b a := by
  rintro (hlt | ⟨heq, hlt⟩)
  · rcases hab with hab | ⟨hab, -⟩ <;> omega
  · rcases hab with hab | ⟨-, hab⟩
    · omega
    · exact String.lt_irrefl _ (String.lt_trans hab hlt)

instance : Std.Asymm EntryPrecedes := ⟨fun _ _ => not_entryPrecedes_symm⟩

instance : DecidableRel EntryPrecedes := fun a b =>
  inferInstanceAs (Decidable (a.2 < b.2 ∨ a.2 = b.2 ∧ a.1 < b.1))

/-- Entries with distinct names are ranked in strictly ascending order. -/
theorem ranked_sorted (weights : NameMap Nat) :
    (ofWeights weights).ranked.Pairwise EntryPrecedes := by
  have hsorted : (ofWeights weights).ranked.Pairwise (startsBefore · ·) :=
    List.pairwise_mergeSort startsBefore_trans startsBefore_total _
  have hdistinct : (ofWeights weights).ranked.Pairwise fun a b => a.1 ≠ b.1 := by
    refine List.pairwise_map.mp (?_ : ((ofWeights weights).ranked.map (·.1)).Nodup)
    exact ((List.mergeSort_perm _ _).map _).nodup_iff.mpr weights.keys_nodup
  refine (hsorted.and hdistinct).imp ?_
  rintro a b ⟨hbefore, hne⟩
  rcases startsBefore_iff.mp hbefore with hlt | ⟨heq, hle⟩
  · exact .inl hlt
  · -- of two names of one weight, the first is not the greater one, and they are distinct
    refine .inr ⟨heq, NameMap.lt_of_not_lt_of_ne (String.not_lt.mpr hle) hne.symm⟩

theorem order_perm (weights : NameMap Nat) : (ofWeights weights).order.Perm weights.keys :=
  (List.mergeSort_perm _ _).map _

theorem mem_ranked {weights : NameMap Nat} {a : String} {n : Nat} :
    (a, n) ∈ (ofWeights weights).ranked ↔ weights.find? a = some n := by
  rw [NameMap.find?_eq_some_iff]
  exact (List.mergeSort_perm _ _).mem_iff

/-- A plan has the weights that it is made from. -/
theorem weights_ofWeights (weights : NameMap Nat) : (ofWeights weights).weights = weights := by
  have hperm : (ofWeights weights).ranked.Perm weights.toList := List.mergeSort_perm _ _
  have hnodup : ((ofWeights weights).ranked.map (·.1)).Nodup :=
    (hperm.map _).nodup_iff.mpr weights.keys_nodup
  show NameMap.ofList (ofWeights weights).ranked = weights
  rw [NameMap.ofList_perm hperm hnodup, NameMap.ofList_toList]

theorem weight?_ofWeights (weights : NameMap Nat) (name : String) :
    (ofWeights weights).weight? name = weights.find? name := by
  rw [weight?, weights_ofWeights]

/-- Ranked entries are ranked as the weights that they give. -/
theorem eq_ofWeights {p : Plan} (hsorted : p.ranked.Pairwise EntryPrecedes)
    (hnodup : p.order.Nodup) : p = ofWeights p.weights := by
  have hranked : p.ranked = (ofWeights p.weights).ranked := by
    refine hsorted.eq_of_mem_iff (ranked_sorted p.weights) fun entry => ?_
    rw [mem_ranked, weights, NameMap.find?_ofList hnodup, NameMap.lookup_eq_some_iff_mem hnodup]
  cases p
  exact congrArg mk hranked

/-- Ranked entries bear distinct names, if the weight of each follows from its name. -/
theorem order_nodup_of_weight {p : Plan} {weight : String → Option Nat}
    (hsorted : p.ranked.Pairwise EntryPrecedes)
    (hweight : ∀ entry ∈ p.ranked, weight entry.1 = some entry.2) : p.order.Nodup := by
  refine List.pairwise_map.mpr (hsorted.imp_of_mem fun {x y} hx hy hxy heq => ?_)
  have hsame : some x.2 = some y.2 := by rw [← hweight x hx, ← hweight y hy, heq]
  rcases hxy with hlt | ⟨-, hlt⟩
  · exact Nat.ne_of_lt hlt (Option.some.inj hsame)
  · exact String.lt_irrefl _ (heq ▸ hlt)

/-! ## Plans of environments -/

/-- A plan ranks the services of an environment, and each above all that it needs. -/
structure IsOf (p : Plan) (e : Environment) : Prop where
  perm : p.order.Perm e.serviceNames
  sorted : p.ranked.Pairwise EntryPrecedes
  weight : ∀ a b, e.DependsOn a b → ∃ m n, (b, m) ∈ p.ranked ∧ (a, n) ∈ p.ranked ∧ m < n

variable {p : Plan} {e : Environment}

theorem IsOf.order_nodup (h : p.IsOf e) : p.order.Nodup :=
  h.perm.nodup_iff.mpr e.services.keys_nodup

theorem IsOf.weight?_of_mem (h : p.IsOf e) {a : String} {n : Nat} (ha : (a, n) ∈ p.ranked) :
    p.weight? a = some n :=
  NameMap.find?_ofList_of_mem h.order_nodup ha

theorem IsOf.weight?_eq_some_iff (h : p.IsOf e) {a : String} {n : Nat} :
    p.weight? a = some n ↔ (a, n) ∈ p.ranked := by
  rw [weight?, weights, NameMap.find?_ofList h.order_nodup,
    NameMap.lookup_eq_some_iff_mem h.order_nodup]

theorem IsOf.order_sorted (h : p.IsOf e) : p.order.Pairwise p.Precedes := by
  refine List.pairwise_map.mpr (h.sorted.imp_of_mem fun {a b} ha hb hab => ?_)
  exact ⟨a.2, b.2, h.weight?_of_mem ha, h.weight?_of_mem hb, hab⟩

/-- What a service needs stands before it. -/
theorem IsOf.sublist_of_dependsOn (h : p.IsOf e) {a b : String} (hab : e.DependsOn a b) :
    [b, a].Sublist p.order := by
  obtain ⟨m, n, hb, ha, hlt⟩ := h.weight a b hab
  have hne : (b, m) ≠ (a, n) := fun heq => Nat.ne_of_lt hlt (congrArg Prod.snd heq)
  rcases pair_sublist_or hb ha hne with hsub | hsub
  · exact hsub.map (·.1)
  · -- the other way round, the heavier one would stand first
    rcases List.pairwise_pair.mp (h.sorted.sublist hsub) with hgt | ⟨heq, -⟩
    · exact absurd hlt (Nat.lt_asymm hgt)
    · exact absurd heq.symm (Nat.ne_of_lt hlt)

end Plan

/-! ## Planning -/

namespace Environment

open Relation (TransGen)

variable {e : Environment} {g : Graph}

theorem plan_of_firstUnread {entry : String} (h : Link.FirstUnread e.linkEntries entry) :
    e.plan = .error (.badLink entry) := by
  rw [plan, Graph.ofEnvironment_of_firstUnread h]
  rfl

/-- With a graph, planning depends on the weighing alone. -/
theorem plan_of_graph (hg : Graph.ofEnvironment e = .ok g) :
    e.plan =
      if g.weigh.isComplete then .ok (.ofWeights g.weigh.weights)
      else .error (.noOrder g.weigh.unresolved (g.explain g.weigh.unresolved)) := by
  rw [plan, hg]
  rfl

theorem needs_eq_dependsOn (h : g.IsOf e) : g.Needs = e.DependsOn := by
  funext a b
  exact propext h.dependsOn_iff.symm

/-- The weighing of an environment's graph is complete exactly if the environment is closed and
acyclic. -/
theorem weigh_isComplete_iff_of_isOf (h : g.IsOf e) :
    g.weigh.isComplete = true ↔ e.IsClosed ∧ e.IsAcyclic := by
  rw [Graph.weigh_isComplete_iff, needs_eq_dependsOn h, h.nodes]
  exact Iff.rfl

/-- A complete weighing of an environment's graph weighs its services. -/
theorem keys_weigh_of_isComplete (h : g.IsOf e) (hcomplete : g.weigh.isComplete = true) :
    g.weigh.weights.keys = e.serviceNames := by
  rw [Weighing.isComplete, List.isEmpty_iff] at hcomplete
  rw [← h.nodes]
  refine NameMap.keys_eq_of_mem_iff fun name => ?_
  rw [g.settled_weigh.mem_keys, hcomplete]
  exact and_iff_left List.not_mem_nil

/-- The weights of a complete weighing make a plan. -/
theorem isOf_ofWeights (h : g.IsOf e) (hcomplete : g.weigh.isComplete = true) :
    (Plan.ofWeights g.weigh.weights).IsOf e := by
  have hkeys := keys_weigh_of_isComplete h hcomplete
  refine { perm := hkeys ▸ Plan.order_perm _, sorted := Plan.ranked_sorted _,
           weight := fun a b hab => ?_ }
  have hkey : a ∈ g.weigh.weights.keys := hkeys ▸ mem_serviceNames_of_dependsOn hab
  obtain ⟨n, hn⟩ := NameMap.mem_keys_iff_find?.mp hkey
  obtain ⟨m, hm, hlt⟩ := Graph.exists_lighter hn (h.dependsOn_iff.mp hab)
  exact ⟨m, n, Plan.mem_ranked.mpr hm, Plan.mem_ranked.mpr hn, hlt⟩

/-- A plan is made from a complete weighing of the environment's graph. -/
theorem eq_ofWeights_of_plan (hg : Graph.ofEnvironment e = .ok g) {p : Plan}
    (hp : e.plan = .ok p) : g.weigh.isComplete = true ∧ p = .ofWeights g.weigh.weights := by
  rw [plan_of_graph hg] at hp
  by_cases hcomplete : g.weigh.isComplete = true
  · rw [if_pos hcomplete] at hp
    exact ⟨hcomplete, (Except.ok.inj hp).symm⟩
  · rw [if_neg hcomplete] at hp
    cases hp

/-- A plan fits an environment: it ranks the services, and the weight of each follows from those of
the others. This can be tested without planning. -/
def fits (e : Environment) (p : Plan) : Bool :=
  match Graph.ofEnvironment e with
  | .error _ => false
  | .ok g => p.weights.keys == g.nodes.keys && decide (p.ranked.Pairwise Plan.EntryPrecedes) &&
      p.ranked.all fun entry => g.weightFrom p.weights entry.1 == some entry.2

/-- **The plan is the one that fits.** -/
theorem plan_eq_ok_iff_fits {p : Plan} : e.plan = .ok p ↔ e.fits p = true := by
  unfold fits
  cases hg : Graph.ofEnvironment e with
  | error f =>
    rw [plan, hg]
    exact ⟨nofun, nofun⟩
  | ok g =>
    simp only [Bool.and_eq_true, beq_iff_eq, decide_eq_true_eq, List.all_eq_true]
    constructor
    · intro hp
      obtain ⟨hcomplete, rfl⟩ := eq_ofWeights_of_plan hg hp
      have hsettled := g.settled_weigh
      rw [Plan.weights_ofWeights]
      refine ⟨⟨NameMap.keys_eq_of_mem_iff fun name => ?_, Plan.ranked_sorted _⟩,
        fun entry hentry => hsettled.weight _ _ (Plan.mem_ranked.mp hentry)⟩
      rw [hsettled.mem_keys, List.isEmpty_iff.mp hcomplete]
      exact and_iff_left List.not_mem_nil
    · rintro ⟨⟨hkeys, hsorted⟩, hright⟩
      -- right weights of all nodes are the weights that the passes find, and rank as they do
      have hnodup : p.order.Nodup := Plan.order_nodup_of_weight hsorted hright
      obtain ⟨hcomplete, hweights⟩ := Graph.weigh_of_weightFrom hkeys fun a n ha => by
        rw [Plan.weights, NameMap.find?_ofList hnodup, NameMap.lookup_eq_some_iff_mem hnodup] at ha
        exact hright (a, n) ha
      rw [plan_of_graph hg, if_pos hcomplete, hweights, ← Plan.eq_ofWeights hsorted hnodup]

/-- Behind each plan there is a graph of the environment, which is weighed completely. -/
theorem exists_graph_of_plan {p : Plan} (hp : e.plan = .ok p) :
    ∃ g : Graph, g.IsOf e ∧ g.weigh.isComplete = true ∧ p = .ofWeights g.weigh.weights := by
  rcases Link.isRead_or_firstUnread e.linkEntries with hread | ⟨entry, hbad⟩
  · obtain ⟨g, hg, hisOf⟩ := Graph.ofEnvironment_of_isRead hread
    exact ⟨g, hisOf, eq_ofWeights_of_plan hg hp⟩
  · rw [plan_of_firstUnread hbad] at hp
    cases hp

theorem isOf_of_plan {p : Plan} (hp : e.plan = .ok p) : p.IsOf e := by
  obtain ⟨g, hisOf, hcomplete, rfl⟩ := exists_graph_of_plan hp
  exact isOf_ofWeights hisOf hcomplete

/-- Links that are read leave two ends of planning. -/
theorem plan_of_isRead (hread : ∀ entry ∈ e.linkEntries, Link.IsRead entry) :
    (e.IsClosed ∧ e.IsAcyclic → ∃ p, e.plan = .ok p) ∧
      (¬(e.IsClosed ∧ e.IsAcyclic) →
        ∃ services problem, e.plan = .error (.noOrder services problem)) := by
  obtain ⟨g, hg, hisOf⟩ := Graph.ofEnvironment_of_isRead hread
  rw [plan_of_graph hg, ← weigh_isComplete_iff_of_isOf hisOf]
  constructor
  · intro hcomplete
    exact ⟨_, if_pos hcomplete⟩
  · intro hcomplete
    exact ⟨_, _, if_neg hcomplete⟩

/-- **When there is a plan, and what it is.** There is one if and only if all links are read, all
that services need is defined, and no service needs itself. Without it, the failure names the first
link that is not read, or says that there is no order. The order of a plan holds each service once,
in strictly ascending order of weights and names, and behind all that the service needs. -/
theorem plan_ok_iff_and_order (e : Environment) :
    ((∃ p, e.plan = .ok p) ↔
      (∀ entry ∈ e.linkEntries, Link.IsRead entry) ∧ e.IsClosed ∧ e.IsAcyclic) ∧
    ((¬∀ entry ∈ e.linkEntries, Link.IsRead entry) →
      ∃ entry, Link.FirstUnread e.linkEntries entry ∧ e.plan = .error (.badLink entry)) ∧
    ((∀ entry ∈ e.linkEntries, Link.IsRead entry) → ¬(e.IsClosed ∧ e.IsAcyclic) →
      ∃ services problem, e.plan = .error (.noOrder services problem)) ∧
    ∀ p, e.plan = .ok p →
      p.order.Perm e.serviceNames ∧ p.order.Pairwise p.Precedes ∧
        ∀ a b, e.DependsOn a b → [b, a].Sublist p.order := by
  refine ⟨⟨?_, fun h => (plan_of_isRead h.1).1 h.2⟩, fun hnot => ?_,
    fun hread => (plan_of_isRead hread).2, fun p hp => ?_⟩
  · rintro ⟨p, hp⟩
    rcases Link.isRead_or_firstUnread e.linkEntries with hread | ⟨entry, hbad⟩
    · refine ⟨hread, ?_⟩
      by_contra hnot
      obtain ⟨services, problem, herror⟩ := (plan_of_isRead hread).2 hnot
      rw [herror] at hp
      cases hp
    · rw [plan_of_firstUnread hbad] at hp
      cases hp
  · rcases Link.isRead_or_firstUnread e.linkEntries with hread | ⟨entry, hbad⟩
    · exact absurd hread hnot
    · exact ⟨entry, hbad, plan_of_firstUnread hbad⟩
  · have hisOf := isOf_of_plan hp
    exact ⟨hisOf.perm, hisOf.order_sorted, fun a b => hisOf.sublist_of_dependsOn⟩

end Environment

end StartOrder
