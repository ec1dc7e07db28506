import Mathlib.Data.List.Chain
import StartOrder.Proofs.Dependency.Chains

/-!
# The passes of weighing

A pass weighs exactly the nodes whose weight is the number of passes before it. That is why no
weight is left out, and why there are no more passes than nodes.

To speak of single passes, `after` and `found` unroll the recursion: what is known behind a number
of passes, and what the next one finds. `lt_and_eq_of_after` is the invariant. What is known behind
`k` passes weighs less than `k`, and what the next pass finds weighs `k`. It cannot weigh more,
because all that it needs is known by then. It cannot weigh less, because it was still left behind
the pass before: it needs something that had no weight then, and that was found by the pass before
with the weight `k - 1`. Everything about passes is read off that (`find?_after_iff`).

The last pass is the first that finds nothing. There is one, since each pass that finds something
leaves fewer nodes (`length_remaining_add_le`), and weighing comes to what is known there
(`weigh_eq_of_found`).
-/

namespace StartOrder

namespace Graph

open Relation (TransGen ReflTransGen)

variable {g : Graph} {a : String} {n k : Nat}

/-! ## What is known behind some passes -/

/-- The weights that have been found, and the nodes that are left. -/
structure Progress where
  weights : NameMap Nat
  remaining : List String

/-- What is known behind one more pass. -/
def Progress.next (p : Progress) (g : Graph) : Progress where
  weights := p.weights.insertAll (g.weighable p.weights p.remaining)
  remaining := g.unweighable p.weights p.remaining

/-- What is known behind a number of passes. -/
def after (g : Graph) : Nat → Progress
  | 0 => ⟨∅, g.nodes.keys⟩
  | passes + 1 => (g.after passes).next g

/-- The nodes that are weighed by the pass behind a number of passes, with their weights. -/
def found (g : Graph) (passes : Nat) : List (String × Nat) :=
  g.weighable (g.after passes).weights (g.after passes).remaining

theorem settled_after (g : Graph) (k : Nat) :
    Settled g (g.after k).weights (g.after k).remaining := by
  induction k with
  | zero => exact settled_init g
  | succ k ih => exact settled_step ih

theorem mem_found_iff : (a, n) ∈ g.found k ↔
    a ∈ (g.after k).remaining ∧ g.weightFrom (g.after k).weights a = some n :=
  mem_weighable

/-- A pass adds what it finds to what is known. -/
theorem find?_after_succ_iff :
    (g.after (k + 1)).weights.find? a = some n ↔
      (g.after k).weights.find? a = some n ∨ (a, n) ∈ g.found k := by
  have hsettled := settled_after g k
  have hnodup : ((g.found k).map (·.1)).Nodup :=
    ((weighable_names_sublist _ _).trans hsettled.sublist).nodup g.nodes.keys_nodup
  show ((g.after k).weights.insertAll (g.found k)).find? a = some n ↔ _
  by_cases hnew : a ∈ (g.found k).map (·.1)
  · -- a node that is found now had no weight before, and is found once
    have hold : (g.after k).weights.find? a = none := by
      rw [NameMap.find?_eq_none_iff]
      intro hkey
      exact ((hsettled.mem_keys a).mp hkey).2 (mem_map_fst_weighable.mp hnew).1
    obtain ⟨⟨_, m⟩, hmem, rfl⟩ := List.mem_map.mp hnew
    rw [NameMap.find?_insertAll_of_mem hnodup hmem, hold]
    constructor
    · intro h
      cases h
      exact .inr hmem
    · rintro (h | h)
      · cases h
      · rw [(mem_found_iff.mp h).2.symm, (mem_found_iff.mp hmem).2]
  · rw [NameMap.find?_insertAll_of_notMem hnew]
    constructor
    · exact .inl
    · rintro (h | h)
      · exact h
      · exact absurd (List.mem_map_of_mem h) hnew

/-- What is left behind a pass needs something that was not known before it. -/
theorem exists_unknown_of_remaining (h : a ∈ (g.after (k + 1)).remaining) :
    ∃ b, g.Needs a b ∧ (g.after k).weights.find? b = none :=
  weightFrom_eq_none_iff.mp (mem_unweighable.mp h).2

/-- **What the passes weigh.** Behind some passes all known weights are less than their number, and
the next pass finds just the number. -/
theorem lt_and_eq_of_after (g : Graph) (k : Nat) :
    (∀ a n, (g.after k).weights.find? a = some n → n < k) ∧
      ∀ a n, (a, n) ∈ g.found k → n = k := by
  induction k with
  | zero =>
    refine ⟨fun a n h => (nomatch h), fun a n h => ?_⟩
    rcases exists_heaviest (mem_found_iff.mp h).2 with ⟨hzero, -⟩ | ⟨b, m, -, hb, -⟩
    · exact hzero
    · cases hb
  | succ k ih =>
    obtain ⟨hknown, hfound⟩ := ih
    have hlt : ∀ a n, (g.after (k + 1)).weights.find? a = some n → n < k + 1 := by
      intro a n h
      rcases find?_after_succ_iff.mp h with hold | hnew
      · have := hknown a n hold
        omega
      · have := hfound a n hnew
        omega
    refine ⟨hlt, fun a n h => ?_⟩
    obtain ⟨hleft, hweight⟩ := mem_found_iff.mp h
    -- the pass before weighed something that the node needs, so that the node is heavier than that
    obtain ⟨b, hneeds, hnone⟩ := exists_unknown_of_remaining hleft
    obtain ⟨m, hm, hheavier⟩ := lt_of_weightFrom hweight hneeds
    have hmk : m = k := by
      rcases find?_after_succ_iff.mp hm with hold | hnew
      · rw [hnone] at hold
        cases hold
      · exact hfound b m hnew
    -- and it is not heavier than by one, because all that it needs is known
    rcases exists_heaviest hweight with ⟨hzero, -⟩ | ⟨c, m', -, hc, hn⟩
    · omega
    · have := hlt c m' hc
      omega

/-- What is known behind some passes is what the pass with the number of the weight found. -/
theorem find?_after_iff :
    (g.after k).weights.find? a = some n ↔ n < k ∧ (a, n) ∈ g.found n := by
  induction k with
  | zero => exact ⟨fun h => (nomatch h), fun h => absurd h.1 (Nat.not_lt_zero n)⟩
  | succ k ih =>
    rw [find?_after_succ_iff, ih]
    constructor
    · rintro (⟨hlt, hmem⟩ | hmem)
      · exact ⟨Nat.lt_succ_of_lt hlt, hmem⟩
      · obtain rfl := (lt_and_eq_of_after g k).2 a n hmem
        exact ⟨Nat.lt_succ_self n, hmem⟩
    · rintro ⟨hlt, hmem⟩
      rcases Nat.lt_succ_iff_lt_or_eq.mp hlt with hlt | rfl
      · exact .inl ⟨hlt, hmem⟩
      · exact .inr hmem

/-! ## The last pass -/

/-- Each pass that finds something leaves fewer nodes. -/
theorem length_remaining_add_le (h : ∀ j < k, g.found j ≠ []) :
    (g.after k).remaining.length + k ≤ g.nodes.keys.length := by
  induction k with
  | zero => exact Nat.le_refl _
  | succ k ih =>
    have hle := ih fun j hj => h j (Nat.lt_succ_of_lt hj)
    have hadd := g.length_weighable_add (g.after k).weights (g.after k).remaining
    have hpos : 0 < (g.found k).length := List.length_pos_iff.mpr (h k (Nat.lt_succ_self k))
    show (g.unweighable (g.after k).weights (g.after k).remaining).length + (k + 1) ≤ _
    unfold found at hpos
    omega

/-- Some pass finds nothing. -/
theorem exists_found_eq_nil (g : Graph) : ∃ k, g.found k = [] := by
  by_contra hall
  rw [not_exists] at hall
  have hle := length_remaining_add_le (k := g.nodes.keys.length + 1) fun j _ => hall j
  omega

/-- As long as passes find something, weighing goes on with what is known behind them. -/
theorem weigh_eq_weighFrom_after (h : ∀ j < k, g.found j ≠ []) :
    g.weigh = g.weighFrom (g.after k).weights (g.after k).remaining k := by
  induction k with
  | zero => rfl
  | succ k ih =>
    have hfound := h k (Nat.lt_succ_self k)
    have hremaining : ¬(g.after k).remaining.isEmpty := by
      rw [List.isEmpty_iff]
      intro hempty
      refine hfound ?_
      rw [found, hempty]
      rfl
    rw [ih fun j hj => h j (Nat.lt_succ_of_lt hj), weighFrom, if_neg hremaining]
    exact dif_neg hfound

/-- **What weighing comes to**: what is known behind the passes that find something. One more pass
finds nothing, if nodes are left. -/
theorem weigh_eq_of_found (hbefore : ∀ j < k, g.found j ≠ []) (hlast : g.found k = []) :
    g.weigh = ⟨(g.after k).weights, (g.after k).remaining,
      if (g.after k).remaining = [] then k else k + 1⟩ := by
  rw [weigh_eq_weighFrom_after hbefore, weighFrom]
  by_cases hempty : (g.after k).remaining = []
  · rw [if_pos (List.isEmpty_iff.mpr hempty), if_pos hempty, hempty]
  · rw [if_neg (fun h => hempty (List.isEmpty_iff.mp h)), if_neg hempty]
    exact dif_pos hlast

/-- There is a last pass: the first that finds nothing. -/
theorem exists_weigh_eq (g : Graph) :
    ∃ k, (∀ j < k, g.found j ≠ []) ∧ g.found k = [] ∧
      g.weigh = ⟨(g.after k).weights, (g.after k).remaining,
        if (g.after k).remaining = [] then k else k + 1⟩ := by
  classical
  have hlast := Nat.find_spec g.exists_found_eq_nil
  have hbefore : ∀ j < Nat.find g.exists_found_eq_nil, g.found j ≠ [] :=
    fun j hj => Nat.find_min g.exists_found_eq_nil hj
  exact ⟨_, hbefore, hlast, weigh_eq_of_found hbefore hlast⟩

/-! ## The nodes -/

/-- Each node is weighed or left, and none is both. -/
theorem weighed_append_unresolved_perm (g : Graph) :
    (g.weigh.weights.keys ++ g.weigh.unresolved).Perm g.nodes.keys := by
  have hsettled := settled_weigh g
  have hnodup : (g.weigh.weights.keys ++ g.weigh.unresolved).Nodup := by
    refine List.nodup_append.mpr
      ⟨NameMap.keys_nodup _, hsettled.sublist.nodup g.nodes.keys_nodup, ?_⟩
    rintro a ha _ hleft rfl
    exact ((hsettled.mem_keys a).mp ha).2 hleft
  refine (List.perm_ext_iff_of_nodup hnodup g.nodes.keys_nodup).mpr fun a => ?_
  rw [List.mem_append, hsettled.mem_keys]
  constructor
  · rintro (⟨hnode, -⟩ | hleft)
    · exact hnode
    · exact hsettled.sublist.subset hleft
  · intro hnode
    by_cases hleft : a ∈ g.weigh.unresolved
    · exact .inr hleft
    · exact .inl ⟨hnode, hleft⟩

/-! ## The passes of a weighing -/

/-- The weights in use have no gaps: each pass but one that finds nothing has a weight of its
own. -/
theorem weights_without_gaps (g : Graph) :
    ∃ k, (∀ n, (∃ a, g.weigh.weights.find? a = some n) ↔ n < k) ∧
      g.weigh.passes = if g.weigh.unresolved = [] then k else k + 1 := by
  obtain ⟨k, hbefore, -, heq⟩ := g.exists_weigh_eq
  refine ⟨k, fun n => ?_, by rw [heq]⟩
  rw [heq]
  constructor
  · rintro ⟨a, ha⟩
    exact (find?_after_iff.mp ha).1
  · intro hlt
    obtain ⟨⟨a, m⟩, hmem⟩ := List.exists_mem_of_ne_nil _ (hbefore n hlt)
    obtain rfl := (lt_and_eq_of_after g n).2 a m hmem
    exact ⟨a, find?_after_iff.mpr ⟨hlt, hmem⟩⟩

/-- Each pass goes on with what is known behind those before it, and finds the nodes of one
weight. -/
theorem mem_found_iff_of_lt_passes {pass : Nat} (h : pass < g.weigh.passes) :
    g.weigh = g.weighFrom (g.after pass).weights (g.after pass).remaining pass ∧
      ∀ a n, (a, n) ∈ g.found pass ↔ n = pass ∧ g.weigh.weights.find? a = some n := by
  obtain ⟨k, hbefore, hlast, heq⟩ := g.exists_weigh_eq
  -- only the last pass finds nothing, and it is behind all that do
  have hle : pass ≤ k := by
    rw [heq] at h
    dsimp only at h
    split at h <;> omega
  refine ⟨weigh_eq_weighFrom_after fun j hj => hbefore j (Nat.lt_of_lt_of_le hj hle),
    fun a n => ?_⟩
  rw [heq, find?_after_iff]
  constructor
  · intro hmem
    obtain rfl := (lt_and_eq_of_after g pass).2 a n hmem
    refine ⟨rfl, Nat.lt_of_le_of_ne hle fun hk => ?_, hmem⟩
    rw [hk, hlast] at hmem
    cases hmem
  · rintro ⟨rfl, -, hmem⟩
    exact hmem

/-- There are no more passes than nodes: each pass finds a node, but for one behind which nodes are
left. -/
theorem passes_le (g : Graph) : g.weigh.passes ≤ g.nodes.size := by
  obtain ⟨k, hbefore, -, heq⟩ := g.exists_weigh_eq
  have hsize : g.nodes.keys.length = g.nodes.size := List.length_map _
  have hle := length_remaining_add_le hbefore
  rw [heq]
  dsimp only
  split
  · omega
  · next hleft =>
    have hpos := List.length_pos_iff.mpr hleft
    omega

/-- Weights are less than the number of passes. -/
theorem lt_passes (ha : g.weigh.weights.find? a = some n) : n < g.weigh.passes := by
  obtain ⟨k, hused, hpasses⟩ := g.weights_without_gaps
  have hlt : n < k := (hused n).mp ⟨a, ha⟩
  rw [hpasses]
  split <;> omega

/-- **Weights and passes of every graph.** The names with a weight are those from which all chains
of dependencies end and stay among the nodes; they weigh as much as their longest chain has edges,
which is the least ranking above all dependencies. Each node is weighed or left. The pass behind
`pass` others goes on with what these found and finds exactly the nodes of weight `pass`; the
weights in use have no gaps, and there is one more pass than weights exactly if nodes are left.
There are no more passes than nodes, so that every weight is less than their number; with as many
nodes as there are numbers of 32 bits, or fewer, each sum of a pass is such a number. -/
theorem weigh_longestChains_in_passes (g : Graph) :
    (∀ a, (∃ n, g.weigh.weights.find? a = some n) ↔
      (∀ b, ReflTransGen g.Needs a b → b ∈ g.nodes.keys) ∧ ¬g.HasEndlessChain a) ∧
    (∀ a n, g.weigh.weights.find? a = some n → g.LongestChain a n) ∧
    (g.Ranks (fun a => (g.weigh.weights.find? a).getD 0) ∧
      ∀ rank, g.Ranks rank → ∀ a n, g.weigh.weights.find? a = some n → n ≤ rank a) ∧
    (g.weigh.weights.keys ++ g.weigh.unresolved).Perm g.nodes.keys ∧
    (∀ pass < g.weigh.passes,
      g.weigh = g.weighFrom (g.after pass).weights (g.after pass).remaining pass ∧
        ∀ a n, (a, n) ∈ g.found pass ↔ n = pass ∧ g.weigh.weights.find? a = some n) ∧
    (∃ k, (∀ n, (∃ a, g.weigh.weights.find? a = some n) ↔ n < k) ∧
      g.weigh.passes = if g.weigh.unresolved = [] then k else k + 1) ∧
    g.weigh.passes ≤ g.nodes.size ∧
    (∀ a n, g.weigh.weights.find? a = some n → n < g.nodes.size) ∧
    (g.nodes.size ≤ UInt32.size → ∀ pass < g.weigh.passes, ∀ a ∈ (g.after pass).remaining,
      ∀ n, g.weightFrom (g.after pass).weights a = some n → n < UInt32.size) := by
  have hlight : ∀ a n, g.weigh.weights.find? a = some n → n < g.nodes.size := fun a n ha =>
    Nat.lt_of_lt_of_le (lt_passes ha) g.passes_le
  refine ⟨fun a => weighed_iff, fun a n => longestChain_of_weighed, ⟨ranks_weights g, ?_⟩,
    g.weighed_append_unresolved_perm, fun pass => mem_found_iff_of_lt_passes,
    g.weights_without_gaps, g.passes_le, hlight, ?_⟩
  · exact fun rank hrank a n => le_of_ranks hrank
  · intro hsize pass hpass a hleft n hweight
    have hmem : (a, n) ∈ g.found pass := mem_found_iff.mpr ⟨hleft, hweight⟩
    obtain ⟨-, ha⟩ := ((mem_found_iff_of_lt_passes hpass).2 a n).mp hmem
    exact Nat.lt_of_lt_of_le (hlight a n ha) hsize

end Graph

end StartOrder
