import Mathlib.Data.List.Chain
import Mathlib.Data.List.TakeWhile
import StartOrder.Dependency.Cycle
import StartOrder.Proofs.Dependency.Weights

/-!
# What the search for a cycle finds

The search goes from name to name along the dependencies. It keeps the path on which it came, and
reports a path from a name back to itself as soon as it meets a name of its own path again.

That it is sound is an induction on the search: the names behind which it searches form a path, last
name first, and each name to be looked at is needed by the last of them (`isCyclePath_of_search`).
So the part of the path from the name that is met again, with that name behind it, is a cycle, and
no other name is on it twice (`nodup_dropLast_of_search`).

That it is complete is the same induction for a search that finds nothing. Every node is then fresh,
or on the path, or a name from which no endless path begins (`ends_of_search`), and it is the last
of these that names turn into. At the start of the search all nodes are fresh and none is on the
path; at its end, none is left from which an endless path could begin. A cycle would be one.
-/

namespace StartOrder

open Relation (TransGen ReflTransGen)

/-! ## Paths that end where they begin -/

/-- A path along a relation that begins and ends with the same name. -/
def IsCyclePath (r : String → String → Prop) (path : List String) : Prop :=
  path.IsChain r ∧ ∃ name between, path = name :: (between ++ [name])

/-- The first name of a path leads to all others. -/
theorem reflTransGen_of_head {r : String → String → Prop} {first name : String}
    {rest : List String} (h : (first :: rest).IsChain r) (hmem : name ∈ first :: rest) :
    ReflTransGen r first name := by
  induction rest generalizing first with
  | nil =>
    rw [List.mem_singleton] at hmem
    exact hmem ▸ ReflTransGen.refl
  | cons second rest ih =>
    rw [List.isChain_cons_cons] at h
    rcases List.mem_cons.mp hmem with rfl | hmem
    · exact ReflTransGen.refl
    · exact ReflTransGen.head h.1 (ih h.2 hmem)

/-- A path of two names or more leads from the first to the last. -/
theorem transGen_of_ends {r : String → String → Prop} {first last : String} {between : List String}
    (h : (first :: (between ++ [last])).IsChain r) : TransGen r first last := by
  cases between with
  | nil =>
    rw [List.nil_append, List.isChain_cons_cons] at h
    exact TransGen.single h.1
  | cons second rest =>
    rw [List.cons_append, List.isChain_cons_cons] at h
    exact TransGen.head' h.1 (reflTransGen_of_head h.2 (by simp))

/-- Each name on a path that ends where it begins leads to itself. -/
theorem IsCyclePath.transGen_of_mem {r : String → String → Prop} {path : List String}
    (h : IsCyclePath r path) {name : String} (hmem : name ∈ path) : TransGen r name name := by
  obtain ⟨hchain, first, between, rfl⟩ := h
  have hcycle : TransGen r first first := transGen_of_ends hchain
  rcases List.mem_cons.mp hmem with rfl | hbehind
  · exact hcycle
  · rcases List.mem_append.mp hbehind with hbetween | hlast
    · -- from a name between, the path leads on to its end, and that is its beginning
      obtain ⟨before, after, rfl⟩ := List.append_of_mem hbetween
      have hout : ReflTransGen r first name := reflTransGen_of_head hchain hmem
      have hsplit : first :: (before ++ name :: after ++ [first]) =
          (first :: before) ++ name :: (after ++ [first]) := by simp
      rw [hsplit] at hchain
      have hback : TransGen r name first := transGen_of_ends (List.isChain_append.mp hchain).2.1
      exact hback.trans_left hout
    · rw [List.mem_singleton] at hlast
      exact hlast ▸ hcycle

namespace Graph

variable {g : Graph}

/-! ## A path that is found -/

/-- A path is closed by one of its names that its last name needs. -/
theorem isCyclePath_closing {path : List String} {name : String} (hmem : name ∈ path)
    (hpath : path.IsChain fun a b => g.Needs b a) (hback : ∀ last ∈ path.head?, g.Needs last name) :
    IsCyclePath g.Needs (closing path name) := by
  -- the path is kept last name first, so that its front is what leads away from the name
  obtain ⟨before, after, rfl, hnot⟩ := List.eq_append_cons_of_mem hmem
  have htake : (before ++ name :: after).takeWhile (· ≠ name) = before :=
    takeWhile_ne_append hnot after
  have hclosing : closing (before ++ name :: after) name =
      (before ++ [name]).reverse ++ [name] := by
    rw [closing, htake, List.reverse_append]
    rfl
  refine ⟨?_, name, before.reverse, by rw [closing, htake]; rfl⟩
  have hsplit : before ++ name :: after = (before ++ [name]) ++ after := by simp
  rw [hsplit] at hpath
  rw [hclosing]
  refine List.isChain_append.mpr ⟨?_, List.isChain_singleton _, ?_⟩
  · exact List.isChain_reverse.mpr (List.isChain_append.mp hpath).1
  · intro last hlast other hother
    rw [List.head?_cons, Option.mem_some_iff] at hother
    subst hother
    rw [List.getLast?_reverse] at hlast
    refine hback last ?_
    cases before with
    | nil => exact hlast
    | cons head rest => exact hlast

/-- What the search finds is a path that ends where it begins. The names behind which it searches
are a path, last name first, and each name to be looked at is needed by the last of them. -/
theorem isCyclePath_of_search {path fresh todo cycle : List String}
    (hpath : path.IsChain fun a b => g.Needs b a)
    (htodo : ∀ name ∈ todo, ∀ last ∈ path.head?, g.Needs last name)
    (h : g.search path fresh todo = .error cycle) : IsCyclePath g.Needs cycle := by
  -- one step deeper, the name becomes the last of the path
  have hdeeper : ∀ {path : List String} {name : String},
      path.IsChain (fun a b => g.Needs b a) → (∀ last ∈ path.head?, g.Needs last name) →
      (name :: path).IsChain fun a b => g.Needs b a := by
    intro path name hpath hname
    cases path with
    | nil => exact List.isChain_singleton _
    | cons last rest => exact List.isChain_cons_cons.mpr ⟨hname last rfl, hpath⟩
  have hdirect : ∀ {path : List String} {name : String},
      ∀ other ∈ g.direct name, ∀ last ∈ (name :: path).head?, g.Needs last other := by
    intro path name other hother last hlast
    rw [List.head?_cons, Option.mem_some_iff] at hlast
    exact hlast ▸ hother
  fun_induction g.search path fresh todo generalizing cycle with
  | case1 => cases h
  | case2 path fresh name rest hmem =>
    cases h
    exact isCyclePath_closing hmem hpath (htodo name List.mem_cons_self)
  | case3 path fresh name rest _ _ left found hfound =>
    rename_i ih
    cases h
    exact ih (hdeeper hpath (htodo name List.mem_cons_self)) hdirect hfound
  | case4 path fresh name rest _ _ left below _ found hfound =>
    rename_i ih
    cases h
    exact ih hpath (fun other hother => htodo other (List.mem_cons_of_mem _ hother)) hfound
  | case5 => cases h
  | case6 path fresh name rest _ _ ih =>
    exact ih hpath (fun other hother => htodo other (List.mem_cons_of_mem _ hother)) h

/-- A path whose names are distinct is closed by a name that comes twice, and no other does. -/
theorem nodup_dropLast_closing {path : List String} (name : String) (h : path.Nodup) :
    (closing path name).dropLast.Nodup := by
  have hbetween : (path.takeWhile (· ≠ name)).Nodup := h.sublist (List.takeWhile_sublist _)
  have hnot : name ∉ path.takeWhile (· ≠ name) := by
    intro hmem
    have hne := List.mem_takeWhile_imp hmem
    exact of_decide_eq_true hne rfl
  rw [closing, List.dropLast_concat, List.nodup_cons, List.mem_reverse]
  exact ⟨hnot, List.nodup_reverse.mpr hbetween⟩

/-- On the path that the search finds, only its first name comes twice: a name is put on the path
behind which it searches only if it is not there yet. -/
theorem nodup_dropLast_of_search {path fresh todo cycle : List String} (hpath : path.Nodup)
    (h : g.search path fresh todo = .error cycle) : cycle.dropLast.Nodup := by
  fun_induction g.search path fresh todo generalizing cycle with
  | case1 => cases h
  | case2 path fresh name rest _ =>
    cases h
    exact nodup_dropLast_closing name hpath
  | case3 path fresh name rest hnew _ left found hfound =>
    rename_i ih
    cases h
    exact ih (List.nodup_cons.mpr ⟨hnew, hpath⟩) hfound
  | case4 path fresh name rest _ _ left below _ found hfound =>
    rename_i ih
    cases h
    exact ih hpath hfound
  | case5 => cases h
  | case6 path fresh name rest _ _ ih => exact ih hpath h

/-! ## Where nothing is found -/

/-- No endless path begins with a name. -/
def Ends (g : Graph) (name : String) : Prop := Acc (fun b a => g.Needs a b) name

theorem Ends.not_cycle {name : String} (h : g.Ends name) : ¬TransGen g.Needs name name := by
  induction h with
  | intro a _ ih =>
    intro hcycle
    obtain ⟨b, hab, hback⟩ := TransGen.head'_iff.mp hcycle
    exact ih b hab (TransGen.tail' hback hab)

theorem ends_of_notMem_nodes {name : String} (h : name ∉ g.nodes.keys) : g.Ends name :=
  Acc.intro name fun _ hneeds => absurd (mem_nodes_of_mem_direct hneeds) h

/-- No endless path begins with a name that the search has looked at without finding a path. The
nodes are those that are fresh, those on the path, and those that it is done with. -/
theorem ends_of_search {path fresh todo reached : List String}
    (hcover : ∀ name ∈ g.nodes.keys, name ∈ fresh ∨ name ∈ path ∨ g.Ends name)
    (h : g.search path fresh todo = .ok reached) :
    (∀ name ∈ reached, g.Ends name) ∧ ∀ name ∈ todo, g.Ends name := by
  fun_induction g.search path fresh todo generalizing reached with
  | case1 =>
    cases h
    exact ⟨by simp, by simp⟩
  | case2 => cases h
  | case3 => cases h
  | case4 => cases h
  | case5 path fresh name rest hpath hfresh left below hbelow beside hbeside =>
    rename_i ihBelow ihBeside
    cases h
    -- below the name, the name itself is on the path; beside it, the name is done with
    obtain ⟨hbelowEnds, hdirectEnds⟩ := ihBelow (fun other hother => by
      rcases hcover other hother with hmem | hmem | hends
      · by_cases heq : other = name
        · exact .inr (.inl (heq ▸ List.mem_cons_self))
        · exact .inl ((List.mem_erase_of_ne heq).mpr hmem)
      · exact .inr (.inl (List.mem_cons_of_mem _ hmem))
      · exact .inr (.inr hends)) hbelow
    have hname : g.Ends name := Acc.intro name hdirectEnds
    obtain ⟨hbesideEnds, hrestEnds⟩ := ihBeside (fun other hother => by
      rcases hcover other hother with hmem | hmem | hends
      · by_cases heq : other = name
        · exact .inr (.inr (heq ▸ hname))
        · by_cases hin : other ∈ below
          · exact .inr (.inr (hbelowEnds other hin))
          · exact .inl (List.mem_filter.mpr
              ⟨(List.mem_erase_of_ne heq).mpr hmem, decide_eq_true hin⟩)
      · exact .inr (.inl hmem)
      · exact .inr (.inr hends)) hbeside
    refine ⟨fun other hother => ?_, List.forall_mem_cons.mpr ⟨hname, hrestEnds⟩⟩
    rcases List.mem_append.mp hother with hmem | hmem
    · exact hbelowEnds other hmem
    · rcases List.mem_cons.mp hmem with rfl | hmem
      · exact hname
      · exact hbesideEnds other hmem
  | case6 path fresh name rest hpath hfresh ih =>
    obtain ⟨hreached, hrest⟩ := ih hcover h
    refine ⟨hreached, List.forall_mem_cons.mpr ⟨?_, hrest⟩⟩
    by_cases hnode : name ∈ g.nodes.keys
    · rcases hcover name hnode with hmem | hmem | hends
      · exact absurd hmem hfresh
      · exact absurd hmem hpath
      · exact hends
    · exact ends_of_notMem_nodes hnode

/-! ## Whole graphs -/

theorem search_of_findCycle {cycle : List String} (h : g.findCycle = some cycle) :
    g.search [] g.nodes.keys g.nodes.keys = .error cycle := by
  unfold findCycle at h
  split at h
  · next found hfound =>
    cases h
    exact hfound
  · cases h

/-- A cycle that is reported is one. -/
theorem isCyclePath_of_findCycle {cycle : List String} (h : g.findCycle = some cycle) :
    IsCyclePath g.Needs cycle := by
  refine isCyclePath_of_search List.isChain_nil (fun name _ last hlast => ?_)
    (search_of_findCycle h)
  cases hlast

/-- **No cycle is reported exactly if there is none.** -/
theorem findCycle_eq_none_iff : g.findCycle = none ↔ ∀ a, ¬TransGen g.Needs a a := by
  constructor
  · intro h a
    unfold findCycle at h
    split at h
    · cases h
    · next reached hreached =>
      have hends := (ends_of_search (fun name hname => .inl hname) hreached).2
      by_cases hnode : a ∈ g.nodes.keys
      · exact (hends a hnode).not_cycle
      · exact (ends_of_notMem_nodes hnode).not_cycle
  · intro hacyclic
    cases h : g.findCycle with
    | none => rfl
    | some cycle =>
      have hpath := isCyclePath_of_findCycle h
      obtain ⟨name, between, rfl⟩ := hpath.2
      exact absurd (hpath.transGen_of_mem List.mem_cons_self) (hacyclic name)

/-- What leads to itself is a node. -/
theorem mem_nodes_of_cycle {a : String} (h : TransGen g.Needs a a) : a ∈ g.nodes.keys := by
  obtain ⟨b, hneeds, -⟩ := TransGen.head'_iff.mp h
  exact mem_nodes_of_mem_direct hneeds

/-- **The search is sound and complete.** No cycle is reported exactly if no node leads to itself.
What is reported is a path of two names or more that begins and ends with the same name, that comes
through nodes only and through none of them twice, and on which each name needs the next. -/
theorem findCycle_none_or_simple_cycle (g : Graph) :
    (g.findCycle = none ↔ ∀ a ∈ g.nodes.keys, ¬TransGen g.Needs a a) ∧
    ∀ path, g.findCycle = some path →
      2 ≤ path.length ∧ path.head? = path.getLast? ∧ path.dropLast.Nodup ∧
        (∀ a ∈ path, a ∈ g.nodes.keys) ∧ path.IsChain g.Needs := by
  constructor
  · rw [findCycle_eq_none_iff]
    exact ⟨fun h a _ => h a, fun h a hcycle => h a (mem_nodes_of_cycle hcycle) hcycle⟩
  · intro path hpath
    have hcycle := isCyclePath_of_findCycle hpath
    have hnodup := nodup_dropLast_of_search List.nodup_nil (search_of_findCycle hpath)
    have hnodes : ∀ a ∈ path, a ∈ g.nodes.keys := fun a ha =>
      mem_nodes_of_cycle (hcycle.transGen_of_mem ha)
    obtain ⟨hchain, name, between, rfl⟩ := hcycle
    refine ⟨by simp, ?_, hnodup, hnodes, hchain⟩
    rw [← List.cons_append, List.getLast?_concat]
    rfl

end Graph

end StartOrder
