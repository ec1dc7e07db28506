import Mathlib.Data.List.SplitBy
import StartOrder.Launch.Run
import StartOrder.Proofs.Plan.Order

/-!
# The groups of a plan

Services are handed to a launcher one by one, or layer by layer. Either way the groups, put one
behind the other, are the order of the plan (`flatten_groups`), and what a service needs is in an
earlier group than the service (`staged_groups`).

The second statement comes from two facts about the order. What is needed stands before what needs
it, and never in the same group, since the services of a group weigh the same. `staged_of_sublist`
is the general form: a list of groups is staged if needs precede in the list of all members and no
group has a need of its own.

That a layer holds all services of one weight, and not only some (`mem_layer_iff`), takes a closer
look at how a list is split where its weight changes. The weights rise along the plan, and differ
where one part ends and the next begins; so they are greater in all later parts
(`pairwise_lt_of_flatten`), and no weight comes back.
-/

namespace StartOrder

/-! ## Groups that need what is before them -/

/-- What the members of a group need is in the groups before it, or done already. -/
def Staged (r : String → String → Prop) (done : List String) : List (List String) → Prop
  | [] => True
  | names :: rest =>
    (∀ a ∈ names, ∀ b, r a b → b ∈ done) ∧ Staged r (done ++ names) rest

/-- Groups are staged if needs precede in the list of all members, and are in other groups. -/
theorem staged_of_sublist {r : String → String → Prop} {groups : List (List String)}
    {done : List String} (hnodup : groups.flatten.Nodup)
    (hapart : ∀ names ∈ groups, ∀ a ∈ names, ∀ b ∈ names, ¬r a b)
    (hbefore : ∀ a ∈ groups.flatten, ∀ b, r a b → b ∈ done ∨ [b, a].Sublist groups.flatten) :
    Staged r done groups := by
  induction groups generalizing done with
  | nil => trivial
  | cons names rest ih =>
    rw [List.flatten_cons] at hnodup hbefore
    obtain ⟨-, hnodupRest, hdisjoint⟩ := List.nodup_append.mp hnodup
    constructor
    · intro a ha b hab
      have hnotRest : a ∉ rest.flatten := fun hmem => hdisjoint a ha a hmem rfl
      have hnotNames : b ∉ names := fun hb => hapart names List.mem_cons_self a ha b hb hab
      rcases hbefore a (List.mem_append_left _ ha) b hab with hdone | hsub
      · exact hdone
      · -- otherwise `b` would be in the same group, or `a` in a later one as well
        rcases pair_sublist_append hsub with hsub | ⟨-, hmem⟩ | hsub
        · exact absurd (hsub.subset List.mem_cons_self) hnotNames
        · exact absurd hmem hnotRest
        · exact absurd (hsub.subset (List.mem_cons_of_mem _ List.mem_cons_self)) hnotRest
    · refine ih hnodupRest (fun group hgroup => hapart group (List.mem_cons_of_mem _ hgroup)) ?_
      -- what precedes is in the first group, and done for the groups behind it, or behind as well
      intro a ha b hab
      have hnotNames : a ∉ names := fun hmem => hdisjoint a hmem a ha rfl
      rcases hbefore a (List.mem_append_right _ ha) b hab with hdone | hsub
      · exact .inl (List.mem_append_left _ hdone)
      · rcases pair_sublist_append hsub with hsub | ⟨hmem, -⟩ | hsub
        · exact absurd (hsub.subset (List.mem_cons_of_mem _ List.mem_cons_self)) hnotNames
        · exact .inl (List.mem_append_right _ hmem)
        · exact .inr hsub

/-! ## Parts that rise -/

/-- Where a key does not fall along a list, and is another one behind the end of each part of the
list, it is greater in all parts behind than in the parts before. -/
theorem pairwise_lt_of_flatten {α : Type} (key : α → Nat) {parts : List (List α)}
    (hsorted : parts.flatten.Pairwise fun a b => key a ≤ key b)
    (hchain : parts.IsChain fun first second =>
      ∃ hfirst hsecond, key (first.getLast hfirst) ≠ key (second.head hsecond)) :
    parts.Pairwise fun first second => ∀ a ∈ first, ∀ b ∈ second, key a < key b := by
  induction parts with
  | nil => exact .nil
  | cons first rest ih =>
    rw [List.flatten_cons] at hsorted
    obtain ⟨hsortedFirst, hsortedRest, hacross⟩ := List.pairwise_append.mp hsorted
    refine List.pairwise_cons.mpr ⟨fun later hlater a ha b hb => ?_, ih hsortedRest hchain.tail⟩
    cases rest with
    | nil => cases hlater
    | cons second rest =>
      -- the key rises where the second part begins, and falls neither before nor behind
      obtain ⟨hfirst, hsecond, hne⟩ := (List.isChain_cons_cons.mp hchain).1
      have hrise : key (first.getLast hfirst) ≤ key (second.head hsecond) :=
        hacross _ (List.getLast_mem hfirst) _
          (List.mem_flatten.mpr ⟨second, List.mem_cons_self, List.head_mem hsecond⟩)
      have hbefore : key a ≤ key (first.getLast hfirst) := by
        rw [← List.dropLast_append_getLast hfirst] at ha hsortedFirst
        rcases List.mem_append.mp ha with hmem | hlast
        · exact (List.pairwise_append.mp hsortedFirst).2.2 a hmem _ (List.mem_singleton_self _)
        · exact Nat.le_of_eq (congrArg key (List.mem_singleton.mp hlast))
      have hbehind : key (second.head hsecond) ≤ key b := by
        have hmem : b ∈ (second :: rest).flatten := List.mem_flatten.mpr ⟨later, hlater, hb⟩
        rw [List.flatten_cons, ← List.cons_head_tail hsecond, List.cons_append] at hmem hsortedRest
        rcases List.mem_cons.mp hmem with rfl | hmem
        · exact Nat.le_refl _
        · exact (List.pairwise_cons.mp hsortedRest).1 b hmem
      omega

/-- What is in a part of a list that is split is in the list. -/
theorem mem_of_mem_splitBy {α : Type} {r : α → α → Bool} {l part : List α}
    (hpart : part ∈ l.splitBy r) {a : α} (ha : a ∈ part) : a ∈ l := by
  rw [← List.flatten_splitBy r l]
  exact List.mem_flatten.mpr ⟨part, hpart, ha⟩

theorem flatten_map_singleton {α : Type} (l : List α) : (l.map ([·])).flatten = l := by
  rw [← List.flatMap_def]
  exact List.flatMap_singleton' l

/-! ## Groups of plans -/

namespace Plan

variable {p : Plan} {e : Environment}

/-- A service weighs more than what it needs. -/
theorem IsOf.weight?_lt (h : p.IsOf e) {a b : String} (hab : e.DependsOn a b) :
    ∃ m n, p.weight? b = some m ∧ p.weight? a = some n ∧ m < n := by
  obtain ⟨m, n, hb, ha, hlt⟩ := h.weight a b hab
  exact ⟨m, n, h.weight?_of_mem hb, h.weight?_of_mem ha, hlt⟩

/-- The services of a layer weigh the same. -/
theorem IsOf.weight?_eq_of_mem_layers (h : p.IsOf e) {layer : List String}
    (hlayer : layer ∈ p.layers) {a b : String} (ha : a ∈ layer) (hb : b ∈ layer) :
    p.weight? a = p.weight? b := by
  obtain ⟨entries, hentries, rfl⟩ := List.mem_map.mp hlayer
  have hchain : (entries.map (·.2)).IsChain (· = ·) :=
    (List.isChain_map _).mpr ((List.isChain_of_mem_splitBy hentries).imp fun _ _ => eq_of_beq)
  obtain ⟨⟨_, m⟩, hma, rfl⟩ := List.mem_map.mp ha
  obtain ⟨⟨_, n⟩, hnb, rfl⟩ := List.mem_map.mp hb
  have hequal : m = n :=
    hchain.pairwise.forall_of_forall (fun _ _ => rfl) (List.mem_map_of_mem hma)
      (List.mem_map_of_mem hnb)
  rw [h.weight?_of_mem (mem_of_mem_splitBy hentries hma),
    h.weight?_of_mem (mem_of_mem_splitBy hentries hnb), hequal]

/-- The services of different layers weigh differently. -/
theorem IsOf.layers_apart (h : p.IsOf e) :
    p.layers.Pairwise fun first second => ∀ a ∈ first, ∀ b ∈ second, p.weight? a ≠ p.weight? b := by
  have hsorted : (p.ranked.splitBy fun a b => a.2 == b.2).flatten.Pairwise
      fun a b => a.2 ≤ b.2 := by
    rw [List.flatten_splitBy]
    refine h.sorted.imp fun hbefore => ?_
    rcases hbefore with hlt | ⟨heq, -⟩
    · exact Nat.le_of_lt hlt
    · exact Nat.le_of_eq heq
  have hchain := (List.isChain_getLast_head_splitBy (fun a b => a.2 == b.2) p.ranked).imp
    fun first second ⟨hfirst, hsecond, hne⟩ =>
      (⟨hfirst, hsecond, beq_eq_false_iff_ne.mp hne⟩ :
        ∃ hfirst hsecond, (first.getLast hfirst).2 ≠ (second.head hsecond).2)
  refine List.pairwise_map.mpr ((pairwise_lt_of_flatten Prod.snd hsorted hchain).imp_of_mem
    fun {first second} hfirst hsecond hlt => ?_)
  intro a ha b hb
  obtain ⟨⟨_, m⟩, hma, rfl⟩ := List.mem_map.mp ha
  obtain ⟨⟨_, n⟩, hnb, rfl⟩ := List.mem_map.mp hb
  rw [h.weight?_of_mem (mem_of_mem_splitBy hfirst hma),
    h.weight?_of_mem (mem_of_mem_splitBy hsecond hnb)]
  exact fun heq => Nat.ne_of_lt (hlt _ hma _ hnb) (Option.some.inj heq)

/-- Both ways to launch walk the order of the plan. -/
theorem flatten_groups (p : Plan) (mode : LaunchMode) : (mode.groups p).flatten = p.order := by
  cases mode with
  | sequential => exact flatten_map_singleton p.order
  | layered =>
    show ((p.ranked.splitBy _).map fun layer => layer.map (·.1)).flatten = p.order
    rw [← List.map_flatten, List.flatten_splitBy]
    rfl

/-- A layer holds all services that weigh as much as one of them. -/
theorem IsOf.mem_layer_iff (h : p.IsOf e) {layer : List String} (hlayer : layer ∈ p.layers)
    {a b : String} (ha : a ∈ layer) (hb : b ∈ p.order) :
    b ∈ layer ↔ p.weight? b = p.weight? a := by
  refine ⟨fun hmem => h.weight?_eq_of_mem_layers hlayer hmem ha, fun hequal => ?_⟩
  rw [← p.flatten_groups .layered] at hb
  obtain ⟨other, hother, hmem⟩ := List.mem_flatten.mp hb
  obtain ⟨before, after, hsplit⟩ := List.append_of_mem hlayer
  have hsorted := h.layers_apart
  rw [hsplit] at hsorted
  obtain ⟨-, hbehind, hacross⟩ := List.pairwise_append.mp hsorted
  replace hother : other ∈ before ++ layer :: after := hsplit ▸ hother
  rcases List.mem_append.mp hother with hbefore | hrest
  · exact absurd hequal (hacross other hbefore layer List.mem_cons_self b hmem a ha)
  · rcases List.mem_cons.mp hrest with rfl | hafter
    · exact hmem
    · exact absurd hequal.symm ((List.pairwise_cons.mp hbehind).1 other hafter a ha b hmem)

/-- The services of a layer stand in it by name. -/
theorem IsOf.layer_sorted (h : p.IsOf e) {layer : List String} (hlayer : layer ∈ p.layers) :
    layer.Pairwise (· < ·) := by
  have hsub : layer.Sublist p.order := by
    rw [← p.flatten_groups .layered]
    exact List.sublist_flatten_of_mem hlayer
  refine (h.order_sorted.sublist hsub).imp_of_mem fun {a b} ha hb hprecedes => ?_
  obtain ⟨m, n, hm, hn, hbefore⟩ := hprecedes
  rcases hbefore with hlt | ⟨-, hlt⟩
  · have hequal := h.weight?_eq_of_mem_layers hlayer ha hb
    rw [hm, hn] at hequal
    exact absurd (Option.some.inj hequal) (Nat.ne_of_lt hlt)
  · exact hlt

/-- No service is in a group with what it needs. -/
theorem IsOf.not_dependsOn_of_mem_groups (h : p.IsOf e) {mode : LaunchMode} {names : List String}
    (hnames : names ∈ mode.groups p) {a b : String} (ha : a ∈ names) (hb : b ∈ names) :
    ¬e.DependsOn a b := by
  intro hab
  obtain ⟨m, n, hm, hn, hlt⟩ := h.weight?_lt hab
  have hequal : p.weight? a = p.weight? b := by
    cases mode with
    | sequential =>
      obtain ⟨name, -, rfl⟩ := List.mem_map.mp hnames
      rw [List.mem_singleton.mp ha, List.mem_singleton.mp hb]
    | layered => exact h.weight?_eq_of_mem_layers hnames ha hb
  rw [hm, hn] at hequal
  cases hequal
  exact Nat.lt_irrefl m hlt

/-- Whatever a service needs is in a group before its own. -/
theorem IsOf.staged_groups (h : p.IsOf e) (mode : LaunchMode) :
    Staged e.DependsOn [] (mode.groups p) := by
  refine staged_of_sublist ?_ ?_ ?_
  · rw [flatten_groups]
    exact h.order_nodup
  · intro names hnames a ha b hb
    exact h.not_dependsOn_of_mem_groups hnames ha hb
  · intro a _ b hab
    rw [flatten_groups]
    exact .inr (h.sublist_of_dependsOn hab)

end Plan

end StartOrder
