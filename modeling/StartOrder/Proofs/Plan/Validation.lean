import StartOrder.Proofs.Dependency.Cycles
import StartOrder.Proofs.Plan.Order

/-!
# Validation against planning

Validation looks for undefined services first and for a cycle then; planning weighs. The two share
the graph and nothing else, and yet agree on which environments can be ordered: a weighing is
complete exactly if nothing is missing and there is no cycle.

They also tell related things about the others. Planning names every service that leads to a
problem, and both kinds of problem. Validation stops at the first kind that it finds, so it names
some of those services only (`unresolved_of_missing`, `unresolved_of_cycle`), and says nothing of a
cycle where a service is missing. No missing reference is kept from the reader by planning either:
what has one is unresolved, so the filter that planning applies leaves them all
(`explain_unresolved`).

Names are the one point on which validation is stricter. A name that is blank or has a colon can be
planned and started, but no link can state it.
-/

namespace StartOrder

open Relation (TransGen ReflTransGen)

/-- The sentence about missing references is followed by the one about a cycle. -/
theorem message_found_cycle {missing : List (String × String)} (cycle : List String)
    (h : missing ≠ []) :
    (OrderProblem.found missing (some cycle)).message =
      (OrderProblem.found missing none).message ++ "; dependency cycle " ++
        " -> ".intercalate cycle := by
  cases missing with
  | nil => exact absurd rfl h
  | cons head rest =>
    have hseparator : "; dependency cycle " = "; " ++ "dependency cycle " := by decide
    rw [hseparator, String.append_assoc, String.append_assoc, ← String.append_assoc]
    rfl

namespace Graph

variable {g : Graph}

/-- A graph is closed exactly if it has no missing references. -/
theorem missing_eq_nil_iff : g.missing = [] ↔ ∀ a b, g.Needs a b → b ∈ g.nodes.keys := by
  rw [List.eq_nil_iff_forall_not_mem]
  constructor
  · intro h a b hab
    by_contra hnode
    exact h (a, b) (mem_missing.mpr ⟨hab, hnode⟩)
  · rintro h ⟨a, b⟩ hmem
    obtain ⟨hab, hnode⟩ := mem_missing.mp hmem
    exact hnode (h a b hab)

/-- What has a missing reference stays unresolved. -/
theorem unresolved_of_missing {a b : String} (h : (a, b) ∈ g.missing) :
    a ∈ g.weigh.unresolved := by
  obtain ⟨hab, hnode⟩ := mem_missing.mp h
  exact mem_unresolved_iff.mpr ⟨a, ReflTransGen.refl, .inr ⟨b, hab, hnode⟩⟩

/-- What is on a cycle stays unresolved. -/
theorem unresolved_of_cycle {a : String} {cycle : List String} (h : g.findCycle = some cycle)
    (hmem : a ∈ cycle) : a ∈ g.weigh.unresolved :=
  mem_unresolved_iff.mpr
    ⟨a, ReflTransGen.refl, .inl ((isCyclePath_of_findCycle h).transGen_of_mem hmem)⟩

/-- No missing reference is left out of the explanation of what is unresolved. -/
theorem explain_unresolved : g.explain g.weigh.unresolved = .found g.missing g.findCycle := by
  unfold explain
  rw [List.filter_eq_self.mpr]
  rintro ⟨a, b⟩ hmem
  exact List.contains_iff_mem.mpr (unresolved_of_missing hmem)

end Graph

namespace Environment

variable {e : Environment} {g : Graph}

/-! ## The ends of validation -/

theorem nameProblem?_eq_none_iff {name : String} :
    nameProblem? name = none ↔ Text.allBlank name = false ∧ ':' ∉ name.toList := by
  unfold nameProblem?
  by_cases hblank : Text.allBlank name = true
  · rw [if_pos hblank]
    exact ⟨fun h => (nomatch h), fun h => absurd hblank (by rw [h.1]; exact Bool.false_ne_true)⟩
  · rw [if_neg hblank, Bool.not_eq_true] at *
    by_cases hcolon : ':' ∈ name.toList
    · rw [if_pos (List.contains_iff_mem.mpr hcolon)]
      exact ⟨fun h => (nomatch h), fun h => absurd hcolon h.2⟩
    · rw [if_neg (fun h => hcolon (List.contains_iff_mem.mp h))]
      exact ⟨fun _ => ⟨hblank, hcolon⟩, fun _ => rfl⟩

/-- A name that no service can have is reported before all else. -/
theorem validate_of_nameProblem {problem : NameProblem}
    (h : e.serviceNames.findSome? nameProblem? = some problem) :
    e.validate = .error (.badName problem) := by
  rw [validate, h]
  rfl

theorem validate_of_firstUnread (hnames : e.serviceNames.findSome? nameProblem? = none)
    {entry : String} (h : Link.FirstUnread e.linkEntries entry) :
    e.validate = .error (.badLink entry) := by
  rw [validate, hnames, Graph.ofEnvironment_of_firstUnread h]
  rfl

/-- With usable names and a graph, validation reports missing references, or else a cycle. -/
theorem validate_of_graph (hnames : e.serviceNames.findSome? nameProblem? = none)
    (hg : Graph.ofEnvironment e = .ok g) :
    e.validate =
      if g.missing = [] then
        match g.findCycle with
        | some cycle => .error (.noOrder (NameSet.ofNames cycle).keys (.found [] (some cycle)))
        | none => .ok ()
      else
        .error (.noOrder (NameSet.ofNames (g.missing.map (·.1))).keys (.found g.missing none)) := by
  rw [validate, hnames, hg]
  -- the steps of validation are run with both of its questions answered
  cases hmissing : g.missing with
  | nil =>
    rw [if_pos rfl]
    cases hcycle : g.findCycle with
    | none =>
      show (if !g.missing.isEmpty then _ else _ : Except Failure Unit) = _
      rw [hmissing, hcycle]
      rfl
    | some cycle =>
      show (if !g.missing.isEmpty then _ else _ : Except Failure Unit) = _
      rw [hmissing, hcycle]
      rfl
  | cons head rest =>
    rw [if_neg (List.cons_ne_nil head rest)]
    show (if !g.missing.isEmpty then _ else _ : Except Failure Unit) = _
    rw [hmissing]
    rfl

/-! ## Names that services can have -/

/-- All services have names that a link can state. -/
def HasUsableNames (e : Environment) : Prop :=
  ∀ name ∈ e.serviceNames, Text.allBlank name = false ∧ ':' ∉ name.toList

theorem findSome?_nameProblem?_eq_none_iff :
    e.serviceNames.findSome? nameProblem? = none ↔ e.HasUsableNames := by
  rw [List.findSome?_eq_none_iff]
  exact forall₂_congr fun _ _ => nameProblem?_eq_none_iff

theorem validate_of_not_hasUsableNames (h : ¬e.HasUsableNames) :
    ∃ problem, e.validate = .error (.badName problem) := by
  rw [← findSome?_nameProblem?_eq_none_iff, ← ne_eq, Option.ne_none_iff_exists'] at h
  obtain ⟨problem, hproblem⟩ := h
  exact ⟨problem, validate_of_nameProblem hproblem⟩

/-! ## Agreement -/

theorem missing_eq_nil_iff_of_isOf (h : g.IsOf e) : g.missing = [] ↔ e.IsClosed := by
  rw [Graph.missing_eq_nil_iff, needs_eq_dependsOn h, h.nodes]
  exact Iff.rfl

theorem findCycle_eq_none_iff_of_isOf (h : g.IsOf e) : g.findCycle = none ↔ e.IsAcyclic := by
  rw [Graph.findCycle_eq_none_iff, needs_eq_dependsOn h]
  exact Iff.rfl

/-- Where planning finds no order, validation finds none either. It names some of the services that
planning names, and it is silent on a cycle if there are missing references. -/
theorem validate_of_plan_noOrder (hnames : e.HasUsableNames) {unresolved : List String}
    {reason : OrderProblem} (h : e.plan = .error (.noOrder unresolved reason)) :
    ∃ services first, e.validate = .error (.noOrder services first) ∧ services ⊆ unresolved ∧
      (e.IsClosed ∨ e.IsAcyclic → reason = first) ∧
      (¬e.IsClosed ∧ ¬e.IsAcyclic → ∃ path, IsCyclePath e.DependsOn path ∧
        reason.message = first.message ++ "; dependency cycle " ++ " -> ".intercalate path) := by
  rcases Link.isRead_or_firstUnread e.linkEntries with hread | ⟨entry, hbad⟩
  · obtain ⟨g, hg, hisOf⟩ := Graph.ofEnvironment_of_isRead hread
    have hclosed : g.missing = [] ↔ e.IsClosed := missing_eq_nil_iff_of_isOf hisOf
    have hacyclic : g.findCycle = none ↔ e.IsAcyclic := findCycle_eq_none_iff_of_isOf hisOf
    rw [plan_of_graph hg, Graph.explain_unresolved] at h
    split at h
    · cases h
    · next hincomplete =>
      cases h
      rw [validate_of_graph (findSome?_nameProblem?_eq_none_iff.mpr hnames) hg]
      by_cases hmissing : g.missing = []
      · -- nothing is missing, so that there is a cycle
        have hcyclic : g.findCycle ≠ none := fun hnone => hincomplete
          ((weigh_isComplete_iff_of_isOf hisOf).mpr ⟨hclosed.mp hmissing, hacyclic.mp hnone⟩)
        obtain ⟨cycle, hcycle⟩ := Option.ne_none_iff_exists'.mp hcyclic
        rw [if_pos hmissing, hcycle, hmissing]
        refine ⟨_, _, rfl, fun name hname => ?_, fun _ => rfl,
          fun hboth => absurd (hclosed.mp hmissing) hboth.1⟩
        exact Graph.unresolved_of_cycle hcycle (NameSet.mem_keys_ofNames.mp hname)
      · rw [if_neg hmissing]
        -- something is missing, and a cycle is not looked for
        refine ⟨_, _, rfl, fun name hname => ?_, fun hone => ?_, fun hboth => ?_⟩
        · obtain ⟨reference, hmem, rfl⟩ := List.mem_map.mp (NameSet.mem_keys_ofNames.mp hname)
          exact Graph.unresolved_of_missing hmem
        · rcases hone with hone | hone
          · exact absurd (hclosed.mpr hone) hmissing
          · rw [hacyclic.mpr hone]
        · have hcyclic : g.findCycle ≠ none := fun hnone => hboth.2 (hacyclic.mp hnone)
          obtain ⟨cycle, hcycle⟩ := Option.ne_none_iff_exists'.mp hcyclic
          refine ⟨cycle, needs_eq_dependsOn hisOf ▸ Graph.isCyclePath_of_findCycle hcycle, ?_⟩
          rw [hcycle, message_found_cycle cycle hmissing]
  · rw [plan_of_firstUnread hbad] at h
    cases h

/-- With usable names, validation succeeds exactly if planning does, and both fail alike on a link
that is not read. -/
theorem validate_ok_iff_of_hasUsableNames (hnames : e.HasUsableNames) :
    (e.validate = .ok () ↔ ∃ p, e.plan = .ok p) ∧
      ∀ entry, e.validate = .error (.badLink entry) ↔ e.plan = .error (.badLink entry) := by
  rcases Link.isRead_or_firstUnread e.linkEntries with hread | ⟨entry, hbad⟩
  · by_cases hordered : e.IsClosed ∧ e.IsAcyclic
    · obtain ⟨p, hp⟩ := (plan_of_isRead hread).1 hordered
      obtain ⟨g, hg, hisOf⟩ := Graph.ofEnvironment_of_isRead hread
      have hv : e.validate = .ok () := by
        rw [validate_of_graph (findSome?_nameProblem?_eq_none_iff.mpr hnames) hg,
          if_pos ((missing_eq_nil_iff_of_isOf hisOf).mpr hordered.1),
          (findCycle_eq_none_iff_of_isOf hisOf).mpr hordered.2]
      rw [hp, hv]
      simp
    · obtain ⟨unresolved, reason, hp⟩ := (plan_of_isRead hread).2 hordered
      obtain ⟨services, first, hv, -⟩ := validate_of_plan_noOrder hnames hp
      rw [hp, hv]
      simp
  · rw [plan_of_firstUnread hbad,
      validate_of_firstUnread (findSome?_nameProblem?_eq_none_iff.mpr hnames) hbad]
    simp

/-- **Validation and planning agree.** With usable names, validation succeeds if and only if there
is a plan, and both report the same link that is not read. If there is no order, validation says so
of some of the services that planning names and with the same reason, less a cycle if something is
missing as well. With a name that is blank or has a colon, validation reports a name. -/
theorem validate_iff_plan (e : Environment) :
    (e.HasUsableNames →
      (e.validate = .ok () ↔ ∃ p, e.plan = .ok p) ∧
      (∀ entry, e.validate = .error (.badLink entry) ↔ e.plan = .error (.badLink entry)) ∧
      ∀ unresolved reason, e.plan = .error (.noOrder unresolved reason) →
        ∃ services first, e.validate = .error (.noOrder services first) ∧ services ⊆ unresolved ∧
          (e.IsClosed ∨ e.IsAcyclic → reason = first) ∧
          (¬e.IsClosed ∧ ¬e.IsAcyclic → ∃ path, IsCyclePath e.DependsOn path ∧
            reason.message = first.message ++ "; dependency cycle " ++ " -> ".intercalate path)) ∧
    ((∃ name ∈ e.serviceNames, Text.allBlank name = true ∨ ':' ∈ name.toList) →
      ∃ problem, e.validate = .error (.badName problem)) := by
  refine ⟨fun hnames => ?_, ?_⟩
  · obtain ⟨hok, hlink⟩ := validate_ok_iff_of_hasUsableNames hnames
    exact ⟨hok, hlink, fun _ _ h => validate_of_plan_noOrder hnames h⟩
  · rintro ⟨name, hmem, hbad⟩
    refine validate_of_not_hasUsableNames fun hnames => ?_
    obtain ⟨hblank, hcolon⟩ := hnames name hmem
    rcases hbad with hbad | hbad
    · exact absurd hbad (by rw [hblank]; exact Bool.false_ne_true)
    · exact hcolon hbad

end Environment

end StartOrder
