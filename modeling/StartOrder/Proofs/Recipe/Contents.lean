import StartOrder.Proofs.Positions
import StartOrder.Proofs.Recipe.Fields
import StartOrder.Proofs.Yaml.Keyed

/-!
# What a recipe that is read consists of

A recipe is read exactly if its tree states an environment (`Environment.ofYaml_eq_ok_iff`). The
services of the environment are the entries of the `services` section, each of which states a
service: none is lost unless a later one has its name, and none is made up.

A text may hold several sections under one name, and the last of them counts. So
`Environment.find?_services_iff` speaks of the section that is bound *last* to a name, among the
`Environment.sections` of the recipe.

The lemmas of this module are stated for what the two records have in common where possible:
`IsField` for a field that holds what stands under its name and is left alone by all other keys, and
`Notes` for the set in which unknown keys are noted.
-/

namespace StartOrder

open Yaml (Node Meaning Meanings treeOf?)

/-! ## Texts that are read -/

namespace Yaml

/-- A document that is read has a tree. -/
theorem Document.exists_expand_of_read {α : Type} {d : Document} {reader : Spot → Except Problem α}
    {a : α} (h : d.read reader = .ok a) : ∃ root, d.expand = .ok root := by
  cases hroot : d.expand with
  | ok root => exact ⟨root, rfl⟩
  | error reason =>
    have hfail : ((d.expand d.aliasLimit).mapError .unreadable >>= fun root => reader ⟨[], root⟩) =
        .error (.unreadable reason) := by
      rw [show d.expand d.aliasLimit = .error reason from hroot]
      rfl
    unfold Document.read at h
    rw [hfail, hroot] at h
    cases h

end Yaml

namespace Environment

/-- A text that is read has a tree. -/
theorem exists_treeOf?_of_ofYaml {text : String} {e : Environment} (h : ofYaml text = .ok e) :
    ∃ root, treeOf? text = some root := by
  unfold ofYaml at h
  unfold treeOf?
  by_cases hblank : Text.allBlank text
  · exact ⟨.plain "", by rw [if_pos hblank]⟩
  · rw [if_neg hblank] at h ⊢
    cases hd : Yaml.Document.ofText? text with
    | error reason =>
      rw [hd] at h
      cases h
    | ok d =>
      have hfollow : ((Except.ok d).mapError Yaml.Problem.unreadable >>= fun d => d.read read) =
          d.read read := rfl
      rw [hd, hfollow] at h
      cases hread : d.read read with
      | error problem =>
        rw [hread] at h
        cases h
      | ok e' =>
        obtain ⟨root, hroot⟩ := Yaml.Document.exists_expand_of_read hread
        exact ⟨root.unplaced, by simp [hroot]⟩

/-- A text is read as an environment exactly if it has a tree that states the environment. -/
theorem ofYaml_eq_ok_iff {text : String} {e : Environment} :
    ofYaml text = .ok e ↔ ∃ root, treeOf? text = some root ∧ ofNode? root = some e := by
  constructor
  · intro h
    obtain ⟨root, hroot⟩ := exists_treeOf?_of_ofYaml h
    rcases ofYaml_of_treeOf? hroot with ⟨problem, hread, -⟩ | ⟨e', hread, hsome⟩
    · rw [hread] at h
      cases h
    · rw [hread] at h
      cases h
      exact ⟨root, hroot, hsome⟩
  · rintro ⟨root, hroot, hsome⟩
    rcases ofYaml_of_treeOf? hroot with ⟨problem, -, hnone⟩ | ⟨e', hread, hsome'⟩
    · cases hnone.symm.trans hsome
    · rw [hread, Option.some.inj (hsome'.symm.trans hsome)]

end Environment

/-! ## Fields -/

theorem Service.notes_unknown : Service.meanings.Notes Service.unknown where
  fields := by
    simp only [meanings, List.forall_mem_cons, List.not_mem_nil, false_imp_iff, implies_true,
      and_true]
    repeat' apply And.intro
    all_goals exact Meaning.sets_keeps fun _ _ => rfl
  other name n f hf x := by
    obtain ⟨_, -, rfl⟩ := Option.map_eq_some_iff.mp hf
    rfl

namespace Environment

theorem isField_services : meanings.IsField "services" Stated.services services := by
  refine Meanings.isField_of_sets rfl (fun _ _ => rfl) ?_ fun _ =>
    Meaning.sets_keeps fun _ _ => rfl
  simp only [meanings, List.forall_mem_cons, List.not_mem_nil, false_imp_iff, implies_true,
    and_true, String.reduceEq, true_or, false_or]
  exact Meaning.sets_keeps fun _ _ => rfl

theorem notes_unknown : meanings.Notes unknown where
  fields := by
    simp only [meanings, List.forall_mem_cons, List.not_mem_nil, false_imp_iff, implies_true,
      and_true]
    exact ⟨Meaning.sets_keeps fun _ _ => rfl, Meaning.sets_keeps fun _ _ => rfl⟩
  other name n f hf x := by
    obtain ⟨_, -, rfl⟩ := Option.map_eq_some_iff.mp hf
    rfl

end Environment

/-! ## Services -/

/-- The services that entries state, one by one, are those of the entries under the texts of their
keys. -/
theorem Stated.forall₂_keyed {entries : List (Node × Node)} {services : List (String × Service)}
    (h : entries.mapM serviceEntry = some services) :
    (∀ e ∈ entries, e.1.text?.isSome) ∧
      List.Forall₂ (fun a b => a.1 = b.1 ∧ Service.ofNode? a.2 = some b.2)
        (entries.filterMap fun e => e.1.text?.map (·, e.2)) services := by
  rw [mapM_eq_some_iff] at h
  induction h with
  | nil => exact ⟨fun _ he => absurd he List.not_mem_nil, .nil⟩
  | cons he _ ih =>
    obtain ⟨name, hname, hservice⟩ := Option.bind_eq_some_iff.mp he
    obtain ⟨s, hs, rfl⟩ := Option.map_eq_some_iff.mp hservice
    rw [List.filterMap_cons, hname]
    exact ⟨List.forall_mem_cons.mpr ⟨by rw [hname, Option.isSome_some], ih.1⟩,
      .cons ⟨rfl, hs⟩ ih.2⟩

/-- The services that a tree states are those that its entries state, one by one. -/
theorem Stated.exists_of_services {n : Node} {x : NameMap Service} (h : services n = some x) :
    n.AllKeyed ∧ ∃ entries, x = NameMap.ofList entries ∧ List.Forall₂ (fun a b =>
      a.1 = b.1 ∧ Service.ofNode? a.2 = some b.2) n.keyed entries := by
  unfold services Node.orNull at h
  split at h
  · next hnull =>
    rw [Node.AllKeyed, Node.keyed, Node.entries?_getD_of_isNull hnull]
    exact ⟨fun _ he => absurd he List.not_mem_nil, [], (Option.some.inj h).symm, .nil⟩
  · split at h
    · cases h
    · obtain ⟨services, hservices, hmap⟩ := Option.map_eq_some_iff.mp h
      obtain ⟨entries, hentries, hall⟩ := Option.bind_eq_some_iff.mp hservices
      rw [Node.AllKeyed, Node.keyed, hentries, Option.getD_some]
      exact ⟨(forall₂_keyed hall).1, services, hmap.symm, (forall₂_keyed hall).2⟩

namespace Environment

/-- The entries of the `services` section of a recipe. -/
def sections (root : Node) : List (String × Node) :=
  root.keyed.flatMap fun e => if e.1 = "services" then e.2.keyed else []

theorem flatMap_services_of_notMem {keyed : List (String × Node)}
    (h : "services" ∉ keyed.map (·.1)) :
    (keyed.flatMap fun e => if e.1 = "services" then e.2.keyed else []) = [] := by
  refine List.flatMap_eq_nil_iff.mpr fun e he => if_neg fun heq => h ?_
  exact heq ▸ List.mem_map_of_mem he

variable {root : Node} {e : Environment}

/-- The services of an environment are what the sections of its tree state, one by one. -/
theorem exists_services (h : ofNode? root = some e) : ∃ services,
    e.services = NameMap.ofList services ∧ List.Forall₂ (fun a b =>
      a.1 = b.1 ∧ Service.ofNode? a.2 = some b.2) (sections root) services := by
  rcases isField_services.cases h with ⟨hnot, hview⟩ | ⟨before, value, after, heq, hbefore, hafter,
    hread⟩
  · rw [sections, flatMap_services_of_notMem hnot]
    exact ⟨[], hview, .nil⟩
  · -- the `services` field has one entry, and the keys around it are others
    have hsections : sections root = value.keyed := by
      rw [sections, heq, List.flatMap_append, List.flatMap_cons,
        flatMap_services_of_notMem hbefore, flatMap_services_of_notMem hafter, if_pos rfl,
        List.nil_append, List.append_nil]
    rw [hsections]
    exact (Stated.exists_of_services hread).2

/-- The service of a name is the one that the last section of the name states. -/
theorem find?_services_iff (h : ofNode? root = some e) {name : String} {s : Service} :
    e.services.find? name = some s ↔
      ∃ sec, NameMap.LastBinds (sections root) name sec ∧ Service.ofNode? sec = some s := by
  obtain ⟨services, heq, hall⟩ := exists_services h
  rw [heq, NameMap.find?_ofList_eq_some_iff]
  -- sections and services stand in the same order, so the last ones of a name correspond
  constructor
  · intro hs
    have hflip : List.Forall₂ (fun b a => b.1 = a.1 ∧ Service.ofNode? a.2 = some b.2)
        services (sections root) := List.Forall₂.flip (hall.imp fun _ _ hab => ⟨hab.1.symm, hab.2⟩)
    obtain ⟨sec, hsec, hread⟩ :=
      NameMap.LastBinds.of_forall₂ (R := fun s sec => Service.ofNode? sec = some s) hflip hs
    exact ⟨sec, hsec, hread⟩
  · rintro ⟨sec, hsec, hread⟩
    obtain ⟨s', hs', hread'⟩ :=
      NameMap.LastBinds.of_forall₂ (R := fun sec s => Service.ofNode? sec = some s) hall hsec
    rw [hread'] at hread
    exact Option.some.inj hread ▸ hs'

theorem mem_serviceNames_iff (h : ofNode? root = some e) {name : String} :
    name ∈ e.serviceNames ↔ name ∈ (sections root).map (·.1) := by
  obtain ⟨services, heq, hall⟩ := exists_services h
  have hnames : (sections root).map (·.1) = services.map (·.1) :=
    NameMap.map_fst_eq_of_forall₂ (R := fun sec s => Service.ofNode? sec = some s) hall
  rw [serviceNames, heq, NameMap.mem_keys_ofList, hnames]

/-- In a recipe that is read every section states a service. -/
theorem exists_ofNode?_of_mem_sections (h : ofNode? root = some e) {name : String} {sec : Node}
    (hmem : (name, sec) ∈ sections root) : ∃ s, Service.ofNode? sec = some s := by
  obtain ⟨services, -, hall⟩ := exists_services h
  obtain ⟨s, -, -, hread⟩ := exists_mem_of_forall₂ hall hmem
  exact ⟨s.2, hread⟩

end Environment

end StartOrder
