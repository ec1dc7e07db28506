import Mathlib.Data.Fintype.EquivFin
import Mathlib.Data.Fintype.Sets
import StartOrder.Dependency.Weighing
import StartOrder.Proofs.Dependency.Edges
import StartOrder.Proofs.Rearranged

/-!
# What weighing finds

The passes over a graph give a weight to a node exactly if its dependencies lead neither to a name
that is no node nor around a cycle. A name of the other kind is called blocked (`Graph.IsBlocked`):
it leads, over any number of steps, to one that is on a cycle or needs what is no node.

`Settled` is the invariant. Between two passes the nodes are those that are left and those that have
a weight, and each weight is the one that `weightFrom` computes from the weights around it. A pass
keeps it because what has been weighed before needs nothing that is new (`settled_step`). When the
passes stop, nothing that is left can be weighed (`settled_weighFrom`).

Both directions of `mem_unresolved_iff` follow from the invariant and that one fact. Weights fall
along every edge, so that a node with a weight reaches neither a cycle nor a name without one. For
the converse, the nodes that are not blocked are finitely many and have no cycle among them, which
makes the edges between them well-founded; by induction along the edges, none of them is left.

The invariant has a use of its own: weights of all nodes that are right for one another can only be
those that are found (`weigh_of_weightFrom`), so that a given weighing is checked by looking at each
node once, and without a pass being run.
-/

namespace StartOrder

namespace Graph

open Relation (TransGen ReflTransGen)

variable {g : Graph}

/-- A name needs another. -/
def Needs (g : Graph) (a b : String) : Prop := b ∈ g.direct a

/-- A name leads, over any number of steps, to one that is on a cycle or needs what is no node. -/
def IsBlocked (g : Graph) (name : String) : Prop :=
  ∃ last, ReflTransGen g.Needs name last ∧
    (TransGen g.Needs last last ∨ ∃ b, g.Needs last b ∧ b ∉ g.nodes.keys)

/-- What needs a blocked name is blocked. -/
theorem IsBlocked.of_needs {a b : String} (h : g.Needs a b) (hb : g.IsBlocked b) :
    g.IsBlocked a := by
  obtain ⟨last, hreach, hlast⟩ := hb
  exact ⟨last, ReflTransGen.head h hreach, hlast⟩

theorem IsBlocked.mem_nodes {a : String} (h : g.IsBlocked a) : a ∈ g.nodes.keys := by
  have hsource : ∀ b c, g.Needs b c → b ∈ g.nodes.keys := fun _ _ => mem_nodes_of_mem_direct
  obtain ⟨last, hreach, hlast⟩ := h
  rcases ReflTransGen.cases_head hreach with rfl | ⟨b, hab, -⟩
  · rcases hlast with hcycle | ⟨b, hb, -⟩
    · obtain ⟨b, hb, -⟩ := TransGen.head'_iff.mp hcycle
      exact hsource a b hb
    · exact hsource a b hb
  · exact hsource a b hab

/-! ## The weight of one node -/

/-- A list of names has its weights looked up in vain exactly if one of them has none. -/
theorem mapM_find?_eq_none_iff {weights : NameMap Nat} {targets : List String} :
    targets.mapM weights.find? = none ↔ ∃ b ∈ targets, weights.find? b = none := by
  induction targets with
  | nil => simp
  | cons head rest ih =>
    cases hhead : weights.find? head with
    | none =>
      rw [List.mapM_cons, hhead]
      exact ⟨fun _ => ⟨head, List.mem_cons_self, hhead⟩, fun _ => rfl⟩
    | some n =>
      have hcons : (head :: rest).mapM weights.find? = none ↔
          rest.mapM weights.find? = none := by
        rw [List.mapM_cons, hhead]
        cases rest.mapM weights.find? with
        | none => exact ⟨fun _ => rfl, fun _ => rfl⟩
        | some ws => exact ⟨fun h => (nomatch h), fun h => (nomatch h)⟩
      rw [hcons, ih]
      constructor
      · rintro ⟨b, hb, hnone⟩
        exact ⟨b, List.mem_cons_of_mem _ hb, hnone⟩
      · rintro ⟨b, hb, hnone⟩
        rcases List.mem_cons.mp hb with rfl | hmem
        · rw [hhead] at hnone
          cases hnone
        · exact ⟨b, hmem, hnone⟩

theorem le_foldl_max {ws : List Nat} {start : Nat} :
    start ≤ ws.foldl max start ∧ ∀ n ∈ ws, n ≤ ws.foldl max start := by
  induction ws generalizing start with
  | nil => simp
  | cons head rest ih =>
    obtain ⟨hstart, hrest⟩ := @ih (max start head)
    rw [List.foldl_cons]
    refine ⟨Nat.le_trans (Nat.le_max_left _ _) hstart, List.forall_mem_cons.mpr ⟨?_, hrest⟩⟩
    exact Nat.le_trans (Nat.le_max_right _ _) hstart

theorem foldl_max_eq_or_mem (ws : List Nat) (start : Nat) :
    ws.foldl max start = start ∨ ws.foldl max start ∈ ws := by
  induction ws generalizing start with
  | nil => exact .inl rfl
  | cons head rest ih =>
    rw [List.foldl_cons]
    rcases ih (max start head) with hstart | hrest
    · rw [hstart]
      rcases Nat.le_total start head with hle | hle
      · rw [Nat.max_eq_right hle]
        exact .inr List.mem_cons_self
      · exact .inl (Nat.max_eq_left hle)
    · exact .inr (List.mem_cons_of_mem head hrest)

/-- A node cannot be weighed as long as something that it needs has no weight. -/
theorem weightFrom_eq_none_iff {weights : NameMap Nat} {a : String} :
    g.weightFrom weights a = none ↔ ∃ b, g.Needs a b ∧ weights.find? b = none := by
  unfold weightFrom Needs
  cases hdirect : g.direct a with
  | nil => simp
  | cons head rest =>
    show ((head :: rest).mapM weights.find?).map _ = none ↔ _
    rw [Option.map_eq_none_iff, mapM_find?_eq_none_iff]

/-- A node is heavier than all that it needs. -/
theorem lt_of_weightFrom {weights : NameMap Nat} {a b : String} {n : Nat}
    (h : g.weightFrom weights a = some n) (hab : g.Needs a b) :
    ∃ m, weights.find? b = some m ∧ m < n := by
  unfold weightFrom at h
  unfold Needs at hab
  cases hdirect : g.direct a with
  | nil =>
    rw [hdirect] at hab
    cases hab
  | cons head rest =>
    rw [hdirect] at h hab
    obtain ⟨ws, hws, rfl⟩ := Option.map_eq_some_iff.mp h
    obtain ⟨m, hm, hfind⟩ := exists_mem_of_forall₂ (mapM_eq_some_iff.mp hws) hab
    exact ⟨m, hfind, Nat.lt_succ_of_le (le_foldl_max.2 m hm)⟩

/-- A node weighs nothing if it needs nothing, and else one more than something that it needs. -/
theorem exists_heaviest {weights : NameMap Nat} {a : String} {n : Nat}
    (h : g.weightFrom weights a = some n) :
    (n = 0 ∧ ∀ b, ¬g.Needs a b) ∨
      ∃ b m, g.Needs a b ∧ weights.find? b = some m ∧ n = m + 1 := by
  unfold weightFrom at h
  unfold Needs
  cases hdirect : g.direct a with
  | nil =>
    rw [hdirect] at h
    exact .inl ⟨(Option.some.inj h).symm, fun b => List.not_mem_nil⟩
  | cons first rest =>
    rw [hdirect] at h
    obtain ⟨ws, hws, rfl⟩ := Option.map_eq_some_iff.mp h
    have hall := mapM_eq_some_iff.mp hws
    -- there is a weight, so that the maximum is one of them and not the start of the fold
    have hmem : ws.foldl max 0 ∈ ws := by
      cases hall with
      | cons _ _ =>
        rw [List.foldl_cons, Nat.zero_max, List.mem_cons]
        exact foldl_max_eq_or_mem _ _
    obtain ⟨b, hb, hfind⟩ := exists_mem_of_forall₂ hall.flip hmem
    exact .inr ⟨b, ws.foldl max 0, hb, hfind, rfl⟩

/-- The weight of a node hangs only on the weights of what it needs. It is this that keeps a weight
right while other nodes are being weighed. -/
theorem weightFrom_congr {weights weights' : NameMap Nat} {a : String}
    (h : ∀ b, g.Needs a b → weights'.find? b = weights.find? b) :
    g.weightFrom weights' a = g.weightFrom weights a := by
  have hmapM : ∀ targets : List String, (∀ b ∈ targets, weights'.find? b = weights.find? b) →
      targets.mapM weights'.find? = targets.mapM weights.find? := by
    intro targets htargets
    induction targets with
    | nil => rfl
    | cons head rest ih =>
      obtain ⟨hhead, hrest⟩ := List.forall_mem_cons.mp htargets
      rw [List.mapM_cons, List.mapM_cons, hhead, ih hrest]
  unfold weightFrom
  cases hdirect : g.direct a with
  | nil => rfl
  | cons head rest =>
    show ((head :: rest).mapM weights'.find?).map _ = ((head :: rest).mapM weights.find?).map _
    rw [hmapM _ fun b hb => h b (by rw [Needs, hdirect]; exact hb)]

/-! ## The passes -/

theorem mem_weighable {weights : NameMap Nat} {names : List String} {name : String} {n : Nat} :
    (name, n) ∈ g.weighable weights names ↔
      name ∈ names ∧ g.weightFrom weights name = some n := by
  unfold weighable
  rw [List.mem_filterMap]
  constructor
  · rintro ⟨other, hmem, hmap⟩
    obtain ⟨m, hm, heq⟩ := Option.map_eq_some_iff.mp hmap
    cases heq
    exact ⟨hmem, hm⟩
  · rintro ⟨hmem, hn⟩
    exact ⟨name, hmem, by rw [hn]; rfl⟩

theorem mem_map_fst_weighable {weights : NameMap Nat} {names : List String} {name : String} :
    name ∈ (g.weighable weights names).map (·.1) ↔
      name ∈ names ∧ g.weightFrom weights name ≠ none := by
  rw [List.mem_map]
  constructor
  · rintro ⟨⟨_, n⟩, hmem, rfl⟩
    obtain ⟨hname, hn⟩ := mem_weighable.mp hmem
    exact ⟨hname, by rw [hn]; exact Option.some_ne_none n⟩
  · rintro ⟨hname, hne⟩
    obtain ⟨n, hn⟩ := Option.ne_none_iff_exists'.mp hne
    exact ⟨(name, n), mem_weighable.mpr ⟨hname, hn⟩, rfl⟩

theorem mem_unweighable {weights : NameMap Nat} {names : List String} {name : String} :
    name ∈ g.unweighable weights names ↔ name ∈ names ∧ g.weightFrom weights name = none := by
  rw [unweighable, List.mem_filter, Option.isNone_iff_eq_none]

theorem weighable_names_sublist (weights : NameMap Nat) (names : List String) :
    ((g.weighable weights names).map (·.1)).Sublist names := by
  induction names with
  | nil => exact List.Sublist.slnil
  | cons head rest ih =>
    rw [weighable, List.filterMap_cons]
    cases g.weightFrom weights head with
    | none => exact ih.cons head
    | some n => exact ih.cons_cons head

/-- What holds between two passes: the nodes are those that are left and those that have a weight,
and each weight is right. -/
structure Settled (g : Graph) (weights : NameMap Nat) (remaining : List String) : Prop where
  sublist : remaining.Sublist g.nodes.keys
  mem_keys : ∀ name, name ∈ weights.keys ↔ name ∈ g.nodes.keys ∧ name ∉ remaining
  weight : ∀ name n, weights.find? name = some n → g.weightFrom weights name = some n

theorem settled_init (g : Graph) : Settled g ∅ g.nodes.keys where
  sublist := List.Sublist.refl _
  mem_keys name := by
    constructor
    · intro h
      cases h
    · rintro ⟨h, hnot⟩
      exact absurd h hnot
  weight name n h := nomatch h

/-- One pass keeps the weights right: what it weighs is new, and what was weighed before needs
nothing that is new. -/
theorem settled_step {weights : NameMap Nat} {remaining : List String}
    (h : Settled g weights remaining) :
    Settled g (weights.insertAll (g.weighable weights remaining))
      (g.unweighable weights remaining) := by
  have hnd : ((g.weighable weights remaining).map (·.1)).Nodup :=
    ((weighable_names_sublist weights remaining).trans h.sublist).nodup g.nodes.keys_nodup
  -- what is weighed now was left before, so that it has no weight yet that it could change
  have hold : ∀ name n, weights.find? name = some n →
      (weights.insertAll (g.weighable weights remaining)).find? name = some n := by
    intro name n hn
    have hkey : name ∈ weights.keys := NameMap.mem_keys_iff_find?.mpr ⟨n, hn⟩
    rw [NameMap.find?_insertAll_of_notMem, hn]
    exact fun hmem => ((h.mem_keys name).mp hkey).2 (mem_map_fst_weighable.mp hmem).1
  have hcongr : ∀ name n, g.weightFrom weights name = some n →
      g.weightFrom (weights.insertAll (g.weighable weights remaining)) name = some n := by
    intro name n hn
    rw [← hn]
    refine weightFrom_congr fun b hb => ?_
    obtain ⟨m, hm, -⟩ := lt_of_weightFrom hn hb
    rw [hold b m hm, hm]
  refine { sublist := List.filter_sublist.trans h.sublist, mem_keys := fun name => ?_,
           weight := fun name n hn => ?_ }
  · rw [NameMap.mem_keys_insertAll, mem_map_fst_weighable, mem_unweighable, h.mem_keys]
    constructor
    · rintro (⟨hname, hne⟩ | ⟨hnode, hnot⟩)
      · exact ⟨h.sublist.subset hname, fun hc => hne hc.2⟩
      · exact ⟨hnode, fun hc => hnot hc.1⟩
    · rintro ⟨hnode, hnot⟩
      by_cases hname : name ∈ remaining
      · exact .inl ⟨hname, fun hnone => hnot ⟨hname, hnone⟩⟩
      · exact .inr ⟨hnode, hname⟩
  · by_cases hnew : name ∈ (g.weighable weights remaining).map (·.1)
    · obtain ⟨⟨_, m⟩, hmem, rfl⟩ := List.mem_map.mp hnew
      rw [NameMap.find?_insertAll_of_mem hnd hmem] at hn
      cases hn
      exact hcongr _ _ (mem_weighable.mp hmem).2
    · rw [NameMap.find?_insertAll_of_notMem hnew] at hn
      exact hcongr name n (h.weight name n hn)

/-- All passes keep the weights right, and the last one finds nothing more to weigh. -/
theorem settled_weighFrom {weights : NameMap Nat} {remaining : List String} {passes : Nat}
    (h : Settled g weights remaining) :
    Settled g (g.weighFrom weights remaining passes).weights
        (g.weighFrom weights remaining passes).unresolved ∧
      ∀ name ∈ (g.weighFrom weights remaining passes).unresolved,
        g.weightFrom (g.weighFrom weights remaining passes).weights name = none := by
  fun_induction g.weighFrom weights remaining passes with
  | case1 weights remaining passes hempty =>
    rw [List.isEmpty_iff] at hempty
    subst hempty
    exact ⟨h, fun name hname => nomatch hname⟩
  | case2 weights remaining passes _ found hfound =>
    -- a node that could be weighed would have been found by this pass
    refine ⟨h, fun name hname => ?_⟩
    by_contra hne
    have hmem := mem_map_fst_weighable.mpr ⟨hname, hne⟩
    rw [show g.weighable weights remaining = [] from hfound] at hmem
    cases hmem
  | case3 weights remaining passes _ found _ ih => exact ih (settled_step h)

theorem settled_weigh (g : Graph) : Settled g g.weigh.weights g.weigh.unresolved :=
  (settled_weighFrom (settled_init g)).1

/-- What a weighed node needs is weighed, and is lighter. -/
theorem exists_lighter {a b : String} {n : Nat} (ha : g.weigh.weights.find? a = some n)
    (hab : g.Needs a b) : ∃ m, g.weigh.weights.find? b = some m ∧ m < n :=
  lt_of_weightFrom ((settled_weigh g).weight a n ha) hab

/-- Weights that are right for one another are those that are found. The induction is on the weight:
what a name needs is lighter, so that it is found with its weight, and that settles the name. -/
theorem find?_weigh_of_weightFrom {weights : NameMap Nat}
    (hnodes : ∀ a ∈ weights.keys, a ∈ g.nodes.keys)
    (hright : ∀ a n, weights.find? a = some n → g.weightFrom weights a = some n)
    {a : String} {n : Nat} (ha : weights.find? a = some n) :
    g.weigh.weights.find? a = some n := by
  have hsettled := settled_weigh g
  induction n using Nat.strongRecOn generalizing a with
  | _ n ih =>
    have hweight : g.weightFrom g.weigh.weights a = some n := by
      rw [← hright a n ha]
      refine weightFrom_congr fun b hb => ?_
      obtain ⟨m, hm, hlt⟩ := lt_of_weightFrom (hright a n ha) hb
      rw [ih m hlt hm, hm]
    have hnode : a ∈ g.nodes.keys := hnodes a (NameMap.mem_keys_iff_find?.mpr ⟨n, ha⟩)
    -- all that the node needs is found, so that the last pass would have weighed it as well
    have hfound : a ∈ g.weigh.weights.keys := by
      refine (hsettled.mem_keys a).mpr ⟨hnode, fun hleft => ?_⟩
      have hstuck := (settled_weighFrom (settled_init g)).2 a hleft
      rw [← weigh, hweight] at hstuck
      cases hstuck
    obtain ⟨k, hk⟩ := NameMap.mem_keys_iff_find?.mp hfound
    have hsame := (hsettled.weight a k hk).symm.trans hweight
    cases hsame
    exact hk

/-- **Weights of all nodes that are right for one another are the weights**: to know them, no pass
need be run. -/
theorem weigh_of_weightFrom {weights : NameMap Nat} (hkeys : weights.keys = g.nodes.keys)
    (hright : ∀ a n, weights.find? a = some n → g.weightFrom weights a = some n) :
    g.weigh.isComplete = true ∧ g.weigh.weights = weights := by
  have hsettled := settled_weigh g
  have hfound : ∀ a n, weights.find? a = some n → g.weigh.weights.find? a = some n :=
    fun _ _ => find?_weigh_of_weightFrom (fun _ ha => hkeys ▸ ha) hright
  constructor
  · refine List.isEmpty_iff.mpr (List.eq_nil_iff_forall_not_mem.mpr fun a hleft => ?_)
    obtain ⟨n, hn⟩ := NameMap.mem_keys_iff_find?.mp (hkeys ▸ hsettled.sublist.subset hleft)
    have hweighed : a ∈ g.weigh.weights.keys :=
      NameMap.mem_keys_iff_find?.mpr ⟨n, hfound a n hn⟩
    exact ((hsettled.mem_keys a).mp hweighed).2 hleft
  · refine NameMap.eq_of_find?_eq fun a => ?_
    cases ha : weights.find? a with
    | some n => exact hfound a n ha
    | none =>
      rw [NameMap.find?_eq_none_iff, hsettled.mem_keys, ← hkeys]
      exact fun h => NameMap.find?_eq_none_iff.mp ha h.1

/-! ## The nodes that are left -/

/-- Weights fall along every path. -/
theorem weight_le_of_reaches {a b : String} (h : ReflTransGen g.Needs a b) {n : Nat}
    (hn : g.weigh.weights.find? a = some n) :
    ∃ m, g.weigh.weights.find? b = some m ∧ m ≤ n := by
  induction h with
  | refl => exact ⟨n, hn, Nat.le_refl n⟩
  | tail _ hstep ih =>
    obtain ⟨m, hm, hle⟩ := ih
    obtain ⟨k, hk, hlt⟩ := exists_lighter hm hstep
    exact ⟨k, hk, Nat.le_trans (Nat.le_of_lt hlt) hle⟩

theorem not_isBlocked_of_weighed {a : String} {n : Nat}
    (hn : g.weigh.weights.find? a = some n) : ¬g.IsBlocked a := by
  rintro ⟨last, hreach, hlast⟩
  obtain ⟨m, hm, -⟩ := weight_le_of_reaches hreach hn
  rcases hlast with hcycle | ⟨b, hb, hnode⟩
  · -- the first step of the cycle leads to a lower weight, and no step leads up again
    obtain ⟨b, hb, hback⟩ := TransGen.head'_iff.mp hcycle
    obtain ⟨k, hk, hlt⟩ := exists_lighter hm hb
    obtain ⟨m', hm', hle⟩ := weight_le_of_reaches hback hk
    rw [hm] at hm'
    cases hm'
    exact absurd hlt (Nat.not_lt.mpr hle)
  · obtain ⟨k, hk, -⟩ := exists_lighter hm hb
    exact hnode (((settled_weigh g).mem_keys b).mp (NameMap.mem_keys_iff_find?.mpr ⟨k, hk⟩)).1

/-- The nodes that are not blocked. -/
abbrev FreeNode (g : Graph) : Type := { a : String // a ∈ g.nodes.keys ∧ ¬g.IsBlocked a }

/-- There is no endless path through nodes that are not blocked: they are finitely many, and there
is no cycle among them. -/
theorem wellFounded_free (g : Graph) :
    WellFounded fun b a : g.FreeNode => TransGen g.Needs a.1 b.1 := by
  have hfinite : Finite g.FreeNode :=
    Finite.of_injective (fun a => (⟨a.1, a.2.1⟩ : { a // a ∈ g.nodes.keys })) fun _ _ hab =>
      Subtype.ext (Subtype.mk.inj hab)
  have htrans : IsTrans g.FreeNode fun b a => TransGen g.Needs a.1 b.1 :=
    ⟨fun _ _ _ hab hbc => TransGen.trans hbc hab⟩
  have hirrefl : Std.Irrefl fun b a : g.FreeNode => TransGen g.Needs a.1 b.1 :=
    ⟨fun a hcycle => a.2.2 ⟨a.1, ReflTransGen.refl, .inl hcycle⟩⟩
  exact Finite.wellFounded_of_trans_of_irrefl _

theorem weighed_of_not_isBlocked (a : g.FreeNode) : a.1 ∉ g.weigh.unresolved := by
  induction a using (wellFounded_free g).induction with
  | _ a ih =>
    intro hleft
    -- what is left needs something without a weight, and that is free as well
    have hstuck := (settled_weighFrom (settled_init g)).2 a.1 hleft
    obtain ⟨b, hb, hnone⟩ := weightFrom_eq_none_iff.mp hstuck
    have hnode : b ∈ g.nodes.keys := by
      by_contra hnot
      exact a.2.2 ⟨a.1, ReflTransGen.refl, .inr ⟨b, hb, hnot⟩⟩
    have hfree : ¬g.IsBlocked b := fun hblocked => a.2.2 (hblocked.of_needs hb)
    have hweighed : b ∈ g.weigh.weights.keys := ((settled_weigh g).mem_keys b).mpr
      ⟨hnode, ih ⟨b, hnode, hfree⟩ (TransGen.single hb)⟩
    exact NameMap.find?_eq_none_iff.mp hnone hweighed

/-- **What is left unweighed**: the nodes whose dependencies lead to a cycle or to what is no
node. -/
theorem mem_unresolved_iff {name : String} :
    name ∈ g.weigh.unresolved ↔ g.IsBlocked name := by
  have hsettled := settled_weigh g
  constructor
  · intro hleft
    by_contra hfree
    exact weighed_of_not_isBlocked ⟨name, hsettled.sublist.subset hleft, hfree⟩ hleft
  · intro hblocked
    by_contra hnot
    have hkey := (hsettled.mem_keys name).mpr ⟨hblocked.mem_nodes, hnot⟩
    obtain ⟨n, hn⟩ := NameMap.mem_keys_iff_find?.mp hkey
    exact not_isBlocked_of_weighed hn hblocked

/-- All nodes are weighed if and only if all that is needed is a node and nothing needs itself. -/
theorem weigh_isComplete_iff (g : Graph) :
    g.weigh.isComplete = true ↔
      (∀ a b, g.Needs a b → b ∈ g.nodes.keys) ∧ ∀ a, ¬TransGen g.Needs a a := by
  rw [Weighing.isComplete, List.isEmpty_iff, List.eq_nil_iff_forall_not_mem]
  constructor
  · intro hnone
    have hfree : ∀ a, ¬g.IsBlocked a := fun a hblocked => hnone a (mem_unresolved_iff.mpr hblocked)
    constructor
    · intro a b hab
      by_contra hnode
      exact hfree a ⟨a, ReflTransGen.refl, .inr ⟨b, hab, hnode⟩⟩
    · intro a hcycle
      exact hfree a ⟨a, ReflTransGen.refl, .inl hcycle⟩
  · rintro ⟨hclosed, hacyclic⟩ a hleft
    obtain ⟨last, -, hlast⟩ := mem_unresolved_iff.mp hleft
    rcases hlast with hcycle | ⟨b, hb, hnode⟩
    · exact hacyclic last hcycle
    · exact hnode (hclosed last b hb)

end Graph

end StartOrder
