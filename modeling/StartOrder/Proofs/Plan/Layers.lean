import StartOrder.Proofs.Dependency.Passes
import StartOrder.Proofs.Plan.Groups

/-!
# The layers of a plan

The layers of a plan are its services by weight, one layer for each weight from zero on. Nothing in
the way plans are split says so by itself; it holds because the weights in use have no gaps, which
is a fact about the passes that found them.

`layers_eq_map_range` is the combinatorial half: entries in ascending order whose weights are
exactly the numbers below `k` are split into the entries of weight `0`, of weight `1`, and so on up
to `k - 1`. From it, the layer at a position holds the services whose weight is that position
(`mem_layer_iff_weight?`). The rest says what layers mean for dependencies. What a service needs,
over any number of steps, is in an earlier layer; and unless it is in the first one, it needs
something of the layer just before its own (`exists_dependsOn_of_weight?`).
-/

namespace StartOrder.Plan

open Relation (TransGen)

variable {p : Plan} {e : Environment} {a b : String} {i k n : Nat} {layer : List String}

/-! ## Splitting by weight -/

/-- The entries of one weight, in the order in which they are started. -/
def ofWeight (p : Plan) (n : Nat) : List (String × Nat) := p.ranked.filter (·.2 == n)

theorem mem_ofWeight {entry : String × Nat} :
    entry ∈ p.ofWeight n ↔ entry ∈ p.ranked ∧ entry.2 = n := by
  rw [ofWeight, List.mem_filter, beq_iff_eq]

/-- Entries in ascending order stand weight by weight. -/
theorem flatten_ofWeight (hsorted : p.ranked.Pairwise EntryPrecedes)
    (hused : ∀ n, (∃ a, (a, n) ∈ p.ranked) ↔ n < k) :
    p.ranked = ((List.range k).map p.ofWeight).flatten := by
  have hparts : ((List.range k).map p.ofWeight).flatten.Pairwise EntryPrecedes := by
    refine List.pairwise_flatten.mpr ⟨fun part hpart => ?_, ?_⟩
    · obtain ⟨n, -, rfl⟩ := List.mem_map.mp hpart
      exact hsorted.filter _
    · refine List.pairwise_map.mpr (List.pairwise_lt_range.imp fun {m n} hlt first hfirst second
        hsecond => .inl ?_)
      rw [(mem_ofWeight.mp hfirst).2, (mem_ofWeight.mp hsecond).2]
      exact hlt
  -- both lists are in strictly ascending order, so that it is enough to compare their members
  refine hsorted.eq_of_mem_iff hparts fun entry => ?_
  rw [List.mem_flatten]
  constructor
  · intro hmem
    have hn : entry.2 < k := (hused entry.2).mp ⟨entry.1, hmem⟩
    exact ⟨p.ofWeight entry.2, List.mem_map_of_mem (List.mem_range.mpr hn),
      mem_ofWeight.mpr ⟨hmem, rfl⟩⟩
  · rintro ⟨part, hpart, hmem⟩
    obtain ⟨m, -, rfl⟩ := List.mem_map.mp hpart
    exact (mem_ofWeight.mp hmem).1

/-- **A list of entries is split into the entries of each weight**, if it is in ascending order and
its weights have no gaps. -/
theorem layers_eq_map_range (hsorted : p.ranked.Pairwise EntryPrecedes)
    (hused : ∀ n, (∃ a, (a, n) ∈ p.ranked) ↔ n < k) :
    p.layers = (List.range k).map fun n => (p.ofWeight n).map (·.1) := by
  have hne : ∀ n ∈ List.range k, p.ofWeight n ≠ [] := by
    intro n hn
    obtain ⟨a, ha⟩ := (hused n).mpr (List.mem_range.mp hn)
    exact List.ne_nil_of_mem (mem_ofWeight.mpr ⟨ha, rfl⟩)
  have hsplit : (p.ranked.splitBy fun a b => a.2 == b.2) = (List.range k).map p.ofWeight := by
    refine List.splitBy_eq_iff.mpr ⟨flatten_ofWeight hsorted hused, ?_, ?_, ?_⟩
    · intro hmem
      obtain ⟨n, hn, hempty⟩ := List.mem_map.mp hmem
      exact hne n hn hempty
    · intro part hpart
      obtain ⟨n, -, rfl⟩ := List.mem_map.mp hpart
      refine (List.pairwise_of_forall_mem_list fun first hfirst second hsecond => ?_).isChain
      exact beq_iff_eq.mpr ((mem_ofWeight.mp hfirst).2.trans (mem_ofWeight.mp hsecond).2.symm)
    · -- the weight changes from one part to the next
      refine (List.isChain_map _).mpr (List.Pairwise.isChain ?_)
      refine List.pairwise_lt_range.imp_of_mem fun {m n} hm hn hlt => ⟨hne m hm, hne n hn, ?_⟩
      have hlast := (mem_ofWeight.mp (List.getLast_mem (hne m hm))).2
      have hhead := (mem_ofWeight.mp (List.head_mem (hne n hn))).2
      exact beq_eq_false_iff_ne.mpr (by rw [hlast, hhead]; exact Nat.ne_of_lt hlt)
  rw [layers, hsplit, List.map_map]
  rfl

/-! ## The layers of an environment's plan -/

/-- The weights that the services of a plan have are the numbers up to some number. -/
theorem exists_weight?_iff_lt (hp : e.plan = .ok p) :
    ∃ k, ∀ n, (∃ a, p.weight? a = some n) ↔ n < k := by
  obtain ⟨g, -, -, rfl⟩ := Environment.exists_graph_of_plan hp
  obtain ⟨k, hused, -⟩ := g.weights_without_gaps
  refine ⟨k, fun n => ?_⟩
  rw [← hused]
  exact exists_congr fun a => by rw [weight?_ofWeights]

/-- There is a layer for each weight in use, of the services with that weight. -/
theorem exists_layers_eq (hp : e.plan = .ok p) :
    ∃ k, (∀ n, (∃ a, p.weight? a = some n) ↔ n < k) ∧
      p.layers = (List.range k).map fun n => (p.ofWeight n).map (·.1) := by
  have hisOf := Environment.isOf_of_plan hp
  obtain ⟨k, hused⟩ := exists_weight?_iff_lt hp
  refine ⟨k, hused, layers_eq_map_range hisOf.sorted fun n => ?_⟩
  rw [← hused]
  exact exists_congr fun a => hisOf.weight?_eq_some_iff.symm

theorem IsOf.mem_map_ofWeight (h : p.IsOf e) :
    a ∈ (p.ofWeight n).map (·.1) ↔ p.weight? a = some n := by
  rw [h.weight?_eq_some_iff, List.mem_map]
  constructor
  · rintro ⟨⟨_, m⟩, hmem, rfl⟩
    obtain ⟨hranked, rfl⟩ := mem_ofWeight.mp hmem
    exact hranked
  · intro hranked
    exact ⟨(a, n), mem_ofWeight.mpr ⟨hranked, rfl⟩, rfl⟩

/-- A layer holds exactly the services whose weight is the number of layers before it. -/
theorem mem_layer_iff_weight? (hp : e.plan = .ok p) (h : p.layers[i]? = some layer) :
    a ∈ layer ↔ p.weight? a = some i := by
  obtain ⟨k, -, hlayers⟩ := exists_layers_eq hp
  rw [hlayers, List.getElem?_map, Option.map_eq_some_iff] at h
  obtain ⟨n, hn, rfl⟩ := h
  obtain ⟨hlt, heq⟩ := List.getElem?_eq_some_iff.mp hn
  rw [List.getElem_range] at heq
  rw [heq, (Environment.isOf_of_plan hp).mem_map_ofWeight]

/-- Each service is in the layer of its weight. -/
theorem exists_layer_of_weight? (hp : e.plan = .ok p) (ha : p.weight? a = some i) :
    ∃ layer, p.layers[i]? = some layer ∧ a ∈ layer := by
  obtain ⟨k, hused, hlayers⟩ := exists_layers_eq hp
  refine ⟨(p.ofWeight i).map (·.1), ?_, (Environment.isOf_of_plan hp).mem_map_ofWeight.mpr ha⟩
  rw [hlayers, List.getElem?_map, List.getElem?_range ((hused i).mp ⟨a, ha⟩)]
  rfl

theorem ne_nil_of_mem_layers (h : layer ∈ p.layers) : layer ≠ [] := by
  obtain ⟨entries, hentries, rfl⟩ := List.mem_map.mp h
  exact List.map_eq_nil_iff.not.mpr (List.ne_nil_of_mem_splitBy hentries)

/-! ## Dependencies between layers -/

/-- A service weighs more than what it needs, over any number of steps. -/
theorem IsOf.weight?_lt_of_transGen (h : p.IsOf e) (hab : TransGen e.DependsOn a b) :
    ∃ m n, p.weight? b = some m ∧ p.weight? a = some n ∧ m < n := by
  induction hab with
  | single hab => exact h.weight?_lt hab
  | tail _ hbc ih =>
    obtain ⟨m, n, hm, hn, hlt⟩ := ih
    obtain ⟨l, m', hl, hm', hlt'⟩ := h.weight?_lt hbc
    rw [hm] at hm'
    cases hm'
    exact ⟨l, n, hl, hn, Nat.lt_trans hlt' hlt⟩

/-- A service that weighs something needs one that weighs just one less. -/
theorem exists_dependsOn_of_weight? (hp : e.plan = .ok p) (ha : p.weight? a = some (n + 1)) :
    ∃ b, e.DependsOn a b ∧ p.weight? b = some n := by
  obtain ⟨g, hg, -, rfl⟩ := Environment.exists_graph_of_plan hp
  rw [weight?_ofWeights] at ha
  rcases Graph.exists_heaviest (g.settled_weigh.weight a (n + 1) ha) with
    ⟨hzero, -⟩ | ⟨b, m, hneeds, hb, hm⟩
  · cases hzero
  · cases hm
    exact ⟨b, hg.dependsOn_iff.mpr hneeds, by rw [weight?_ofWeights]; exact hb⟩

end StartOrder.Plan
