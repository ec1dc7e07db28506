import Mathlib.Logic.Relation
import StartOrder.Dependency.Closure
import StartOrder.Proofs.Dependency.Weights

/-!
# What a name depends on over any number of steps

The walk through a graph finishes each name that it reaches once, behind the names that it depends
on. It carries the names that are still fresh; what lies below a name is finished first, and is not
fresh any more for what lies beside it. Each statement here is an induction along that recursion,
with the three parts of its result as cases: what is below, the name, and what is beside it.

That nothing is left out has two halves. The names that the walk begins with are finished as far as
they are fresh (`mem_finish_of_todo`), and so is all that a finished name needs
(`mem_finish_of_needs`). The order is the interesting part. A dependency is finished before what
depends on it, unless it leads back there (`pair_sublist_finish`). Where a name is finished, what it
needs and is not yet finished can only be a name on the way that led there, and any such name leads
to it.
-/

namespace StartOrder

namespace Graph

open Relation (TransGen ReflTransGen)

variable {g : Graph} {fresh todo : List String} {a b : String}

/-! ## What is finished -/

/-- Only what was fresh is finished. -/
theorem finish_subset (h : a ∈ g.finish fresh todo) : a ∈ fresh := by
  fun_induction g.finish fresh todo with
  | case1 => cases h
  | case2 fresh name rest hname left below ihBelow _ ihBeside =>
    rcases List.mem_append.mp h with hbelow | hrest
    · exact List.mem_of_mem_erase (ihBelow hbelow)
    · rcases List.mem_cons.mp hrest with rfl | hbeside
      · exact hname
      · exact List.mem_of_mem_erase (List.mem_of_mem_filter (ihBeside hbeside))
  | case3 fresh name rest _ ih => exact ih h

/-- Nothing is finished twice: what lies below a name is not fresh any more for what lies beside
it. -/
theorem nodup_finish (h : fresh.Nodup) : (g.finish fresh todo).Nodup := by
  fun_induction g.finish fresh todo with
  | case1 => exact List.nodup_nil
  | case2 fresh name rest _ left below ihBelow _ ihBeside =>
    have hleft : left.Nodup := h.erase name
    have hname : name ∉ left := h.not_mem_erase
    have hbeside : ∀ other ∈ g.finish (left.filter (· ∉ below)) rest,
        other ∈ left ∧ other ∉ below := by
      intro other hother
      obtain ⟨hmem, hnot⟩ := List.mem_filter.mp (finish_subset hother)
      exact ⟨hmem, of_decide_eq_true hnot⟩
    refine List.nodup_append.mpr ⟨ihBelow hleft, ?_, ?_⟩
    · refine List.nodup_cons.mpr ⟨fun hmem => ?_, ihBeside (hleft.filter _)⟩
      exact hname (hbeside name hmem).1
    · rintro other hbelow _ hrest rfl
      rcases List.mem_cons.mp hrest with rfl | hmem
      · exact hname (finish_subset hbelow)
      · exact (hbeside other hmem).2 hbelow
  | case3 fresh name rest _ ih => exact ih h

/-- What is finished is reached from one of the names that the walk begins with. -/
theorem reaches_of_mem_finish (h : a ∈ g.finish fresh todo) :
    ∃ start ∈ todo, ReflTransGen g.Needs start a := by
  fun_induction g.finish fresh todo with
  | case1 => cases h
  | case2 fresh name rest _ left below ihBelow _ ihBeside =>
    rcases List.mem_append.mp h with hbelow | hrest
    · obtain ⟨start, hneeds, hreach⟩ := ihBelow hbelow
      exact ⟨name, List.mem_cons_self, ReflTransGen.head hneeds hreach⟩
    · rcases List.mem_cons.mp hrest with rfl | hbeside
      · exact ⟨a, List.mem_cons_self, ReflTransGen.refl⟩
      · obtain ⟨start, hstart, hreach⟩ := ihBeside hbeside
        exact ⟨start, List.mem_cons_of_mem name hstart, hreach⟩
  | case3 fresh name rest _ ih =>
    obtain ⟨start, hstart, hreach⟩ := ih h
    exact ⟨start, List.mem_cons_of_mem name hstart, hreach⟩

/-! ## Nothing is left out -/

/-- What is fresh where the walk comes to a name is the name, is finished below it, or is still
fresh behind it. -/
theorem eq_or_mem_of_fresh (name : String) (below : List String) (h : a ∈ fresh) :
    a = name ∨ a ∈ below ∨ a ∈ (fresh.erase name).filter (· ∉ below) := by
  by_cases heq : a = name
  · exact .inl heq
  · by_cases hbelow : a ∈ below
    · exact .inr (.inl hbelow)
    · have hleft : a ∈ fresh.erase name := (List.mem_erase_of_ne heq).mpr h
      exact .inr (.inr (List.mem_filter.mpr ⟨hleft, decide_eq_true hbelow⟩))

/-- The names that the walk begins with are finished, as far as they are fresh. -/
theorem mem_finish_of_todo (htodo : a ∈ todo) (hfresh : a ∈ fresh) : a ∈ g.finish fresh todo := by
  fun_induction g.finish fresh todo with
  | case1 => cases htodo
  | case2 fresh name rest _ left below _ _ ihBeside =>
    rcases eq_or_mem_of_fresh name below hfresh with rfl | hbelow | hbehind
    · exact List.mem_append_right _ List.mem_cons_self
    · exact List.mem_append_left _ hbelow
    · rcases List.mem_cons.mp htodo with rfl | hrest
      · exact List.mem_append_right _ List.mem_cons_self
      · exact List.mem_append_right _ (List.mem_cons_of_mem _ (ihBeside hrest hbehind))
  | case3 fresh name rest hdone ih =>
    rcases List.mem_cons.mp htodo with rfl | hrest
    · exact absurd hfresh hdone
    · exact ih hrest hfresh

/-- What a finished name needs is finished, as far as it is fresh. -/
theorem mem_finish_of_needs (ha : a ∈ g.finish fresh todo) (hab : g.Needs a b)
    (hfresh : b ∈ fresh) : b ∈ g.finish fresh todo := by
  fun_induction g.finish fresh todo with
  | case1 => cases ha
  | case2 fresh name rest _ left below ihBelow _ ihBeside =>
    rcases eq_or_mem_of_fresh name below hfresh with rfl | hbelow | hbehind
    · exact List.mem_append_right _ List.mem_cons_self
    · exact List.mem_append_left _ hbelow
    · -- what is needed is fresh behind the name still, and where it is finished depends on `a`
      have hleft : b ∈ left := List.mem_of_mem_filter hbehind
      rcases List.mem_append.mp ha with hmem | hmem
      · exact List.mem_append_left _ (ihBelow hmem hleft)
      · rcases List.mem_cons.mp hmem with rfl | hmem
        · exact List.mem_append_left _ (mem_finish_of_todo hab hleft)
        · exact List.mem_append_right _ (List.mem_cons_of_mem _ (ihBeside hmem hbehind))
  | case3 fresh name rest _ ih => exact ih ha hfresh

/-! ## The order -/

/-- **A dependency is finished first**, unless it leads back to what depends on it. -/
theorem pair_sublist_finish (ha : a ∈ g.finish fresh todo) (hab : g.Needs a b)
    (hback : ¬TransGen g.Needs b a) (hfresh : b ∈ fresh) :
    [b, a].Sublist (g.finish fresh todo) := by
  fun_induction g.finish fresh todo with
  | case1 => cases ha
  | case2 fresh name rest _ left below ihBelow _ ihBeside =>
    -- what is finished below comes before all else
    have hfirst : ∀ {other : String}, b ∈ below →
        other ∈ name :: g.finish (left.filter (· ∉ below)) rest →
        [b, other].Sublist (below ++ name :: g.finish (left.filter (· ∉ below)) rest) :=
      fun hb hother =>
        (List.singleton_sublist.mpr hb).append (List.singleton_sublist.mpr hother)
    rcases List.mem_append.mp ha with hbelow | hrest
    · by_cases heq : b = name
      · -- the name leads to all that is finished below it
        obtain ⟨start, hneeds, hreach⟩ := reaches_of_mem_finish hbelow
        exact absurd (heq ▸ TransGen.head' hneeds hreach) hback
      · have hleft : b ∈ left := (List.mem_erase_of_ne heq).mpr hfresh
        exact (ihBelow hbelow hleft).trans (List.sublist_append_left _ _)
    · rcases List.mem_cons.mp hrest with rfl | hbeside
      · have hne : b ≠ a := by
          rintro rfl
          exact hback (TransGen.single hab)
        have hleft : b ∈ left := (List.mem_erase_of_ne hne).mpr hfresh
        exact hfirst (mem_finish_of_todo hab hleft) List.mem_cons_self
      · rcases eq_or_mem_of_fresh name below hfresh with rfl | hb | hbehind
        · exact ((List.singleton_sublist.mpr hbeside).cons_cons b).trans
            (List.sublist_append_right _ _)
        · exact hfirst hb (List.mem_cons_of_mem _ hbeside)
        · exact ((ihBeside hbeside hbehind).trans (List.sublist_cons_self _ _)).trans
            (List.sublist_append_right _ _)
  | case3 fresh name rest _ ih => exact ih ha hfresh

/-! ## The transitive dependencies of a name -/

/-- All that is needed has a name in the graph. -/
theorem mem_names_of_needs (hab : g.Needs a b) : b ∈ g.names := by
  by_cases hnode : b ∈ g.nodes.keys
  · exact List.mem_append_left _ hnode
  · have hmissing : (a, b) ∈ g.missing := mem_missing.mpr ⟨hab, hnode⟩
    exact List.mem_append_right _ (mem_firstOccurrences.mpr (List.mem_map_of_mem hmissing))

theorem nodup_names (g : Graph) : g.names.Nodup := by
  refine List.nodup_append.mpr ⟨g.nodes.keys_nodup, nodup_firstOccurrences _, ?_⟩
  rintro a hnode _ hmem rfl
  obtain ⟨⟨source, _⟩, hmissing, rfl⟩ := List.mem_map.mp (mem_firstOccurrences.mp hmem)
  exact (mem_missing.mp hmissing).2 hnode

variable {name : String}

/-- **What is found**: all that the name leads to, but for itself. -/
theorem mem_transitive_iff : a ∈ g.transitive name ↔ a ≠ name ∧ TransGen g.Needs name a := by
  constructor
  · intro h
    obtain ⟨start, hneeds, hreach⟩ := reaches_of_mem_finish h
    refine ⟨?_, TransGen.head' hneeds hreach⟩
    rintro rfl
    exact g.nodup_names.not_mem_erase (finish_subset h)
  · rintro ⟨hne, hreach⟩
    have hfresh : ∀ {b c : String}, c ≠ name → g.Needs b c → c ∈ g.names.erase name :=
      fun hc hbc => (List.mem_erase_of_ne hc).mpr (mem_names_of_needs hbc)
    -- along the path, each name is the first one again, or is found
    induction hreach with
    | single hneeds => exact mem_finish_of_todo hneeds (hfresh hne hneeds)
    | @tail b c _ hneeds ih =>
      by_cases hb : b = name
      · exact mem_finish_of_todo (hb ▸ hneeds) (hfresh hne hneeds)
      · exact mem_finish_of_needs (ih hb) hneeds (hfresh hne hneeds)

/-- A dependency that is found stands first, unless it leads back to what depends on it. -/
theorem pair_sublist_transitive (ha : a ∈ g.transitive name) (hb : b ∈ g.transitive name)
    (hab : g.Needs a b) (hback : ¬TransGen g.Needs b a) : [b, a].Sublist (g.transitive name) :=
  pair_sublist_finish ha hab hback (finish_subset hb)

/-- **The transitive dependencies of a name.** They are the names that it leads to over one step or
more, without itself, each once, and each stands before what depends on it directly, unless it leads
back there. Without cycles, everything that is needed therefore stands before what needs it. -/
theorem transitive_once_in_order (g : Graph) (name : String) :
    (g.transitive name).Nodup ∧
    (∀ a, a ∈ g.transitive name ↔ a ≠ name ∧ TransGen g.Needs name a) ∧
    (∀ a ∈ g.transitive name, ∀ b ∈ g.transitive name, g.Needs a b → ¬TransGen g.Needs b a →
      [b, a].Sublist (g.transitive name)) ∧
    ((∀ a, ¬TransGen g.Needs a a) → ∀ a ∈ g.transitive name, ∀ b, g.Needs a b →
      [b, a].Sublist (g.transitive name)) := by
  refine ⟨nodup_finish (g.nodup_names.erase name), fun a => mem_transitive_iff,
    fun a ha b hb => pair_sublist_transitive ha hb, ?_⟩
  intro hacyclic a ha b hab
  have hreach : TransGen g.Needs name b := (mem_transitive_iff.mp ha).2.tail hab
  have hb : b ∈ g.transitive name := by
    refine mem_transitive_iff.mpr ⟨?_, hreach⟩
    rintro rfl
    exact hacyclic b hreach
  refine pair_sublist_transitive ha hb hab fun hback => ?_
  exact hacyclic a (TransGen.head hab hback)

end Graph

end StartOrder
