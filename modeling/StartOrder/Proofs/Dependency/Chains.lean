import Mathlib.Data.List.Chain
import Mathlib.Order.WellFounded
import StartOrder.Proofs.Dependency.Cycles

/-!
# Weights as lengths of chains

The weight of a node is the number of edges of the longest chain of dependencies that begins with
it. What is found in passes is thereby said without passes, by the edges alone
(`find?_weigh_eq_some_iff`).

No chain is longer than the weight it begins with, because weights fall along each edge; and one is
as long, because a node that weighs `n + 1` needs one that weighs `n`. Which names have a weight at
all is the other half. `weighed_iff` says that these are the names from which every chain ends and
stays among the nodes. For a name with a weight, the bound on its chains leaves no room for an
endless one; for a name without a weight, what blocks it is at the end of some chain, and a cycle
there could be run through forever.

`Ranks` is the view of somebody who has to give numbers to services by hand: any numbering that puts
each node above all that it needs is at least as high as the weights.
-/

namespace StartOrder

namespace Graph

open Relation (TransGen ReflTransGen)

variable {g : Graph} {a b : String} {n : Nat}

/-! ## Chains of dependencies -/

/-- A chain of dependencies begins with a name: each name behind it is needed by the one before. -/
def IsChainFrom (g : Graph) (name : String) (behind : List String) : Prop :=
  (name :: behind).IsChain g.Needs

/-- A chain of dependencies that begins with a name does not end. -/
def HasEndlessChain (g : Graph) (name : String) : Prop :=
  ∃ chain : Nat → String, chain 0 = name ∧ ∀ i, g.Needs (chain i) (chain (i + 1))

/-- The longest chain that begins with a name has a number of edges. -/
structure LongestChain (g : Graph) (name : String) (edges : Nat) : Prop where
  attained : ∃ behind, g.IsChainFrom name behind ∧ behind.length = edges
  bound : ∀ behind, g.IsChainFrom name behind → behind.length ≤ edges

theorem isChainFrom_nil (g : Graph) (name : String) : g.IsChainFrom name [] :=
  List.isChain_singleton name

theorem isChainFrom_cons {next : String} {behind : List String} :
    g.IsChainFrom a (next :: behind) ↔ g.Needs a next ∧ g.IsChainFrom next behind :=
  List.isChain_cons_cons

theorem LongestChain.unique {m : Nat} (hm : g.LongestChain a m) (hn : g.LongestChain a n) :
    m = n := by
  obtain ⟨long, hlong, hm'⟩ := hm.attained
  obtain ⟨other, hother, hn'⟩ := hn.attained
  have hle : m ≤ n := hm' ▸ hn.bound long hlong
  have hge : n ≤ m := hn' ▸ hm.bound other hother
  omega

theorem ends_iff : g.Ends a ↔ ¬g.HasEndlessChain a := by
  have hchain : ¬g.Ends a ↔ g.HasEndlessChain a := not_acc_iff_exists_descending_chain
  rw [← hchain, not_not]

/-- Chains of bounded length end. -/
theorem not_hasEndlessChain_of_bound (h : ∀ behind, g.IsChainFrom a behind → behind.length ≤ n) :
    ¬g.HasEndlessChain a := by
  rintro ⟨chain, rfl, hchain⟩
  -- the first names of the endless chain are a chain, and there are as many as are wanted
  have hfirst : ∀ edges start, ∃ behind,
      g.IsChainFrom (chain start) behind ∧ behind.length = edges := by
    intro edges
    induction edges with
    | zero => exact fun start => ⟨[], g.isChainFrom_nil _, rfl⟩
    | succ edges ih =>
      intro start
      obtain ⟨behind, hbehind, hlength⟩ := ih (start + 1)
      exact ⟨chain (start + 1) :: behind, isChainFrom_cons.mpr ⟨hchain start, hbehind⟩,
        congrArg (· + 1) hlength⟩
  obtain ⟨behind, hbehind, hlength⟩ := hfirst (n + 1) 0
  have hle := h behind hbehind
  omega

/-! ## Weights and chains -/

/-- Weights fall along a chain, so that it has no more edges than the weight it begins with. -/
theorem length_le_of_isChainFrom {behind : List String} (ha : g.weigh.weights.find? a = some n)
    (h : g.IsChainFrom a behind) : behind.length ≤ n := by
  induction behind generalizing a n with
  | nil => exact Nat.zero_le n
  | cons next behind ih =>
    obtain ⟨hneeds, hrest⟩ := isChainFrom_cons.mp h
    obtain ⟨m, hm, hlt⟩ := exists_lighter ha hneeds
    have hle : behind.length ≤ m := ih hm hrest
    show behind.length + 1 ≤ n
    omega

/-- A chain with as many edges as a node weighs leads from each node to the heaviest that it
needs. -/
theorem exists_isChainFrom (ha : g.weigh.weights.find? a = some n) :
    ∃ behind, g.IsChainFrom a behind ∧ behind.length = n := by
  induction n generalizing a with
  | zero => exact ⟨[], g.isChainFrom_nil a, rfl⟩
  | succ n ih =>
    rcases exists_heaviest ((settled_weigh g).weight a (n + 1) ha) with
      ⟨hzero, -⟩ | ⟨b, m, hneeds, hb, hm⟩
    · cases hzero
    · cases hm
      obtain ⟨behind, hbehind, hlength⟩ := ih hb
      exact ⟨b :: behind, isChainFrom_cons.mpr ⟨hneeds, hbehind⟩, congrArg (· + 1) hlength⟩

theorem longestChain_of_weighed (ha : g.weigh.weights.find? a = some n) : g.LongestChain a n where
  attained := exists_isChainFrom ha
  bound _ h := length_le_of_isChainFrom ha h

/-- **Which names have a weight**: those from which all chains of dependencies end, and stay among
the nodes. -/
theorem weighed_iff : (∃ n, g.weigh.weights.find? a = some n) ↔
    (∀ b, ReflTransGen g.Needs a b → b ∈ g.nodes.keys) ∧ ¬g.HasEndlessChain a := by
  have hsettled := settled_weigh g
  constructor
  · rintro ⟨n, ha⟩
    refine ⟨fun b hreach => ?_,
      not_hasEndlessChain_of_bound fun _ h => length_le_of_isChainFrom ha h⟩
    obtain ⟨m, hm, -⟩ := weight_le_of_reaches hreach ha
    exact ((hsettled.mem_keys b).mp (NameMap.mem_keys_iff_find?.mpr ⟨m, hm⟩)).1
  · rintro ⟨hnodes, hendless⟩
    have hends : g.Ends a := ends_iff.mpr hendless
    refine NameMap.mem_keys_iff_find?.mp ((hsettled.mem_keys a).mpr
      ⟨hnodes a ReflTransGen.refl, fun hleft => ?_⟩)
    obtain ⟨last, hreach, hlast⟩ := mem_unresolved_iff.mp hleft
    rcases hlast with hcycle | ⟨b, hb, hnode⟩
    · -- chains end from all that the name leads to, and hence none of it is on a cycle
      have hlastEnds : g.Ends last := by
        clear hcycle
        induction hreach with
        | refl => exact hends
        | tail _ hstep ih => exact ih.inv hstep
      exact hlastEnds.not_cycle hcycle
    · exact hnode (hnodes b (hreach.tail hb))

/-- **What a name weighs**, by the edges alone: the number of edges of its longest chain, if all
that it leads to is a node. -/
theorem find?_weigh_eq_some_iff : g.weigh.weights.find? a = some n ↔
    (∀ b, ReflTransGen g.Needs a b → b ∈ g.nodes.keys) ∧ g.LongestChain a n := by
  constructor
  · intro ha
    exact ⟨(weighed_iff.mp ⟨n, ha⟩).1, longestChain_of_weighed ha⟩
  · rintro ⟨hnodes, hlongest⟩
    obtain ⟨m, hm⟩ := weighed_iff.mpr ⟨hnodes, not_hasEndlessChain_of_bound hlongest.bound⟩
    rw [hm, (longestChain_of_weighed hm).unique hlongest]

/-! ## Rankings -/

/-- A ranking of names puts each node that is weighed above all that it needs. -/
def Ranks (g : Graph) (rank : String → Nat) : Prop :=
  ∀ a ∈ g.weigh.weights.keys, ∀ b, g.Needs a b → rank b < rank a

theorem ranks_weights (g : Graph) : g.Ranks fun a => (g.weigh.weights.find? a).getD 0 := by
  intro a hkey b hneeds
  obtain ⟨n, ha⟩ := NameMap.mem_keys_iff_find?.mp hkey
  obtain ⟨m, hb, hlt⟩ := exists_lighter ha hneeds
  show (g.weigh.weights.find? b).getD 0 < (g.weigh.weights.find? a).getD 0
  rw [ha, hb]
  exact hlt

/-- No ranking puts a node lower than it weighs. -/
theorem le_of_ranks {rank : String → Nat} (h : g.Ranks rank)
    (ha : g.weigh.weights.find? a = some n) : n ≤ rank a := by
  induction n generalizing a with
  | zero => exact Nat.zero_le _
  | succ n ih =>
    rcases exists_heaviest ((settled_weigh g).weight a (n + 1) ha) with
      ⟨hzero, -⟩ | ⟨b, m, hneeds, hb, hm⟩
    · cases hzero
    · cases hm
      have hle : n ≤ rank b := ih hb
      have hlt : rank b < rank a := h a (NameMap.mem_keys_iff_find?.mpr ⟨n + 1, ha⟩) b hneeds
      omega

end Graph

end StartOrder
