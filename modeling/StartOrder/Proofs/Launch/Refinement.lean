import StartOrder.Proofs.Launch.Protocol

/-!
# Layered against sequential launches

As long as no start stalls or cancels the launch, it makes little difference that the services of a
layer are started together. What each start comes to is then fixed by its name
(`Launcher.outcomeOf`), whatever is started beside it, and the first name in the order of the plan
whose outcome is a failure decides about both launches. The sequential one ends there. The layered
one has asked for the rest of that layer by then, and fails with whatever else fails in it
(`FailsTogether`).

Both modes start groups whose concatenation is the order of the plan, so one lemma serves for
either: groups in front of the first failure are as good as absent (`startGroups_append_of_ok`), and
the group with the failure is the last one (`startGroups_of_first_error`). In the sequential mode
that group is a single name, and gathers one failure; in the layered mode it is what `split_flatten`
finds around the name. The layers of a plan are sorted and hold all services of one weight, which
turns "the rest of the group" into a statement about weights (`exists_failing_of_layer`).
-/

namespace StartOrder

/-! ## Outcomes -/

section Outcomes

variable {l : Launcher} {e : Environment} {network : String}

/-- Each start comes back by itself, and none cancels the launch. -/
def Launcher.IsSteady (l : Launcher) (e : Environment) (network : String) : Prop :=
  ∀ name, ¬l.Interrupts e network name

/-- A start that comes back by itself fails only if the launcher says so. -/
theorem outcomeOf_eq_error_iff_fails (hsteady : l.IsSteady e network) {name : String} {f : Failure}
    (hdefined : ∃ service, e.services.find? name = some service) :
    l.outcomeOf e network name = .error f ↔ l.Fails e network name f := by
  rw [outcomeOf_eq_error_iff hdefined, or_iff_left]
  exact fun hstalls => hsteady name (.inr hstalls.1)

/-- A start that fails has returned the failure: it was not given up. -/
theorem begunOf_of_outcomeOf_eq_error (hsteady : l.IsSteady e network) {name : String} {f : Failure}
    (hdefined : ∃ service, e.services.find? name = some service)
    (h : l.outcomeOf e network name = .error f) :
    l.begunOf e network name = .returns (.error f) := by
  obtain ⟨service, hservice, hbegun⟩ := begunOf_of_defined l network hdefined
  obtain ⟨other, hother, houtcome⟩ := (outcomeOf_eq_error_iff_fails hsteady hdefined).mp h
  rw [hservice] at hother
  cases hother
  rw [hbegun, Start.begun, houtcome]

/-- Either all starts come to instances, or one is the first to fail. -/
theorem outcomes_ok_or_first_error (outcome : String → Except Failure Instance)
    (names : List String) :
    (∃ is : List Instance, names.map outcome = is.map .ok) ∨
      ∃ before name after, ∃ is : List Instance, ∃ f, names = before ++ name :: after ∧
        before.map outcome = is.map .ok ∧ outcome name = .error f := by
  induction names with
  | nil => exact .inl ⟨[], rfl⟩
  | cons head rest ih =>
    cases hhead : outcome head with
    | error f => exact .inr ⟨[], head, rest, [], f, rfl, rfl, hhead⟩
    | ok i =>
      rcases ih with ⟨is, his⟩ | ⟨before, name, after, is, f, rfl, his, hname⟩
      · exact .inl ⟨i :: is, by rw [List.map_cons, hhead, his, List.map_cons]⟩
      · refine .inr ⟨head :: before, name, after, i :: is, f, rfl, ?_, hname⟩
        rw [List.map_cons, hhead, his, List.map_cons]

/-- Behind instances, a failure is gathered with those that follow it. -/
theorem gather_of_first_error (is : List Instance) (f : Failure)
    (rest : List (Except Failure Instance)) :
    ∃ g, gather (is.map .ok ++ .error f :: rest) = .error g ∧
      Combines (f :: rest.filterMap failure?) g := by
  unfold gather
  rw [List.filterMap_append, failures_map_ok, List.nil_append,
    List.filterMap_cons_some (rfl : failure? (.error f) = some f)]
  cases rest.filterMap failure? with
  | nil => exact ⟨f, rfl, .inl rfl⟩
  | cons second failures => exact ⟨_, rfl, .inr ⟨by simp, rfl⟩⟩

end Outcomes

/-! ## Groups -/

attribute [ext] Progress

section Groups

variable {l : Launcher} {e : Environment} {network : String}

/-- A group whose starts come back by themselves is started as a whole. -/
theorem startGroup_of_isSteady (hsteady : l.IsSteady e network) {names : List String}
    (hdefined : e.Defines names) :
    startGroup l e network false names =
      { events := groupEvents l e network names
        cancelled := false
        result := gather (names.map (l.outcomeOf e network)) } := by
  obtain ⟨begun, skipped, rfl, hrun⟩ := startGroup_of_defined l network false hdefined
  -- something was skipped only behind a start that cancels, and there is none
  have hskipped : skipped = [] := by
    by_contra hne
    rcases hrun.upTo.cancels_of_skipped hne with hfalse | ⟨name, -, hcancels⟩
    · cases hfalse
    · exact hsteady name (.inl hcancels)
  subst hskipped
  rw [List.append_nil] at hrun ⊢
  have hcancelled : (startGroup l e network false begun).cancelled = false := by
    rw [Bool.eq_false_iff, ne_eq, hrun.cancelled_iff]
    rintro (hfalse | ⟨name, -, hinterrupts⟩)
    · cases hfalse
    · exact hsteady name hinterrupts
  refine Progress.ext hrun.events hcancelled (hrun.result.trans ?_)
  rw [groupOutcomes, List.map_nil, List.append_nil]
  rfl

/-- Behind groups that all came back with instances, the rest is started as if there was nothing
before. The induction is on the groups that are behind. -/
theorem startGroups_append_of_ok (hsteady : l.IsSteady e network) {good rest : List (List String)}
    {is : List Instance} (hdefined : e.Defines good.flatten)
    (his : good.flatten.map (l.outcomeOf e network) = is.map .ok) :
    startGroups l e network false (good ++ rest) =
      { events := good.flatMap (groupEvents l e network) ++
          (startGroups l e network false rest).events
        cancelled := (startGroups l e network false rest).cancelled
        result := (startGroups l e network false rest).result.map (is ++ ·) } := by
  induction good generalizing is with
  | nil =>
    obtain rfl : is = [] := List.map_eq_nil_iff.mp his.symm
    refine Progress.ext rfl rfl ?_
    show (startGroups l e network false rest).result =
      (startGroups l e network false rest).result.map ([] ++ ·)
    cases (startGroups l e network false rest).result with
    | ok js => rfl
    | error f => rfl
  | cons names good ih =>
    rw [List.flatten_cons] at hdefined
    rw [List.flatten_cons, List.map_append] at his
    -- the instances fall into those of the first group and those of the others
    obtain ⟨first, second, rfl, hfirst, hsecond⟩ := List.map_eq_append_iff.mp his.symm
    have hgroup := startGroup_of_isSteady hsteady
      (fun name hname => hdefined name (List.mem_append_left _ hname))
    have hrest := ih (fun name hname => hdefined name (List.mem_append_right _ hname)) hsecond.symm
    rw [← hfirst, gather_map_ok] at hgroup
    rw [List.cons_append, startGroups, hgroup]
    dsimp only
    rw [hrest, List.flatMap_cons, List.append_assoc]
    congr 1
    cases (startGroups l e network false rest).result with
    | ok js => exact congrArg Except.ok (List.append_assoc first second js).symm
    | error f => rfl

/-- All groups come back with instances. -/
theorem startGroups_of_ok (hsteady : l.IsSteady e network) {groups : List (List String)}
    {is : List Instance} (hdefined : e.Defines groups.flatten)
    (his : groups.flatten.map (l.outcomeOf e network) = is.map .ok) :
    startGroups l e network false groups =
      { events := groups.flatMap (groupEvents l e network), cancelled := false
        result := .ok is } := by
  rw [← List.append_nil groups, startGroups_append_of_ok hsteady hdefined his, startGroups,
    List.append_nil groups]
  exact Progress.ext (List.append_nil _) rfl (congrArg Except.ok (List.append_nil is))

/-- The first group with a failure is the last one that is started. Its failure stands for that of
the first service that fails, and for those that fail behind it in the group. -/
theorem startGroups_of_first_error (hsteady : l.IsSteady e network)
    {good later : List (List String)} {left right : List String} {name : String}
    {is : List Instance} {f : Failure}
    (hdefined : e.Defines (good ++ (left ++ name :: right) :: later).flatten)
    (his : (good.flatten ++ left).map (l.outcomeOf e network) = is.map .ok)
    (hf : l.outcomeOf e network name = .error f) :
    ∃ g, Combines (f :: (right.map (l.outcomeOf e network)).filterMap failure?) g ∧
      startGroups l e network false (good ++ (left ++ name :: right) :: later) =
        { events := (good ++ [left ++ name :: right]).flatMap (groupEvents l e network)
          cancelled := false
          result := .error g } := by
  rw [List.map_append] at his
  obtain ⟨first, second, rfl, hfirst, hsecond⟩ := List.map_eq_append_iff.mp his.symm
  obtain ⟨g, hg, hcombines⟩ := gather_of_first_error second f (right.map (l.outcomeOf e network))
  refine ⟨g, hcombines, ?_⟩
  rw [List.flatten_append, List.flatten_cons] at hdefined
  have hgroup := startGroup_of_isSteady hsteady (fun name hname =>
    hdefined name (List.mem_append_right _ (List.mem_append_left _ hname)))
  rw [List.map_append, List.map_cons, hf, ← hsecond, hg] at hgroup
  rw [startGroups_append_of_ok hsteady
    (fun name hname => hdefined name (List.mem_append_left _ hname)) hfirst.symm, startGroups,
    hgroup, List.flatMap_append, List.flatMap_singleton]
  rfl

/-! ## What is seen of the starts -/

/-- A failure that is seen among the starts of groups is what the start of a service came to. -/
theorem outcomeOf_of_failed_mem {groups : List (List String)} {name : String} {f : Failure}
    (h : .failed (.startService name network) f ∈ groups.flatMap (groupEvents l e network)) :
    name ∈ groups.flatten ∧ l.outcomeOf e network name = .error f := by
  obtain ⟨names, hnames, hmem⟩ := List.mem_flatMap.mp h
  rcases List.mem_append.mp hmem with hcalled | hback
  · obtain ⟨_, -, heq⟩ := List.mem_map.mp hcalled
    cases heq
  · obtain ⟨other, hother, hevent⟩ := List.mem_filterMap.mp hback
    obtain ⟨hcall, hbegun⟩ := event?_eq_failed_iff.mp hevent
    cases hcall
    refine ⟨List.mem_flatten.mpr ⟨names, hnames, hother⟩, ?_⟩
    rw [Launcher.outcomeOf, hbegun]
    rfl

/-- A service that fails is seen to fail. -/
theorem failed_mem_of_outcomeOf (hsteady : l.IsSteady e network) {groups : List (List String)}
    {name : String} {f : Failure} (hdefined : e.Defines groups.flatten)
    (hname : name ∈ groups.flatten) (hf : l.outcomeOf e network name = .error f) :
    .failed (.startService name network) f ∈ groups.flatMap (groupEvents l e network) := by
  have hbegun := begunOf_of_outcomeOf_eq_error hsteady (hdefined name hname) hf
  obtain ⟨names, hnames, hmem⟩ := List.mem_flatten.mp hname
  refine List.mem_flatMap.mpr ⟨names, hnames, List.mem_append_right _ ?_⟩
  exact List.mem_filterMap.mpr ⟨name, hmem, event?_eq_failed_iff.mpr ⟨rfl, hbegun⟩⟩

end Groups

/-! ## Launches -/

section Launches

variable {l : Launcher} {e : Environment} {network : String} {p : Plan}

/-- A service that is seen to fail in a launch has failed in one of its groups. -/
theorem failed_mem_launch_iff (mode : LaunchMode) (hplan : e.plan = .ok p)
    (hnetwork : l.startNetwork network = .ok ()) {name : String} {f : Failure} :
    .failed (.startService name network) f ∈ (launch mode l false e network).events ↔
      .failed (.startService name network) f ∈
        (startGroups l e network false (mode.groups p)).events :=
  mem_launch_iff mode hplan hnetwork (by simp) (by simp) (by simp)

/-- What a layered launch makes of the failure of a service that ends the sequential one: it fails
with all failures of services of the same weight, and has called only such services besides. -/
structure FailsTogether (l : Launcher) (e : Environment) (network : String) (p : Plan)
    (name : String) (f : Failure)
    (sequential layered : Progress (Except Failure (List Instance))) : Prop where
  sequential_result : sequential.result = .error f
  layered_result : ∃ others failures g, others.Pairwise (· < ·) ∧
    (∀ other, other ∈ others ↔ other ≠ name ∧ p.weight? other = p.weight? name ∧
      ∃ g, l.Fails e network other g) ∧
    List.Forall₂ (l.Fails e network) others failures ∧
    Combines (f :: failures) g ∧ layered.result = .error g
  starts : ∃ more, layered.startCalls = sequential.startCalls ++ more ∧
    ∀ other ∈ more, p.weight? other = p.weight? name

/-- The other services that fail in the layer of one that is the first to fail. -/
theorem exists_failing_of_layer (hsteady : l.IsSteady e network) (hisOf : p.IsOf e)
    {left right : List String} {name : String} (hlayer : left ++ name :: right ∈ p.layers)
    (hleft : ∀ other ∈ left, ∃ i, l.outcomeOf e network other = .ok i) :
    ∃ others, others.Pairwise (· < ·) ∧
      (∀ other, other ∈ others ↔ other ≠ name ∧ p.weight? other = p.weight? name ∧
        ∃ g, l.Fails e network other g) ∧
      List.Forall₂ (l.Fails e network) others
        ((right.map (l.outcomeOf e network)).filterMap failure?) := by
  have hmember : name ∈ left ++ name :: right := List.mem_append_right _ List.mem_cons_self
  have horder : ∀ other ∈ left ++ name :: right, other ∈ p.order := fun other hother =>
    p.flatten_groups .layered ▸ List.mem_flatten.mpr ⟨_, hlayer, hother⟩
  have hdefined : ∀ other ∈ right, ∃ service, e.services.find? other = some service :=
    fun other hother => hisOf.defines_order other
      (horder other (List.mem_append_right _ (List.mem_cons_of_mem _ hother)))
  have hsorted := hisOf.layer_sorted hlayer
  obtain ⟨-, hsortedRight, -⟩ := List.pairwise_append.mp hsorted
  obtain ⟨hbehind, hsortedRight⟩ := List.pairwise_cons.mp hsortedRight
  obtain ⟨others, hsub, hmem, hfailures⟩ := failures_of_outcomes (l.outcomeOf e network) right
  refine ⟨others, hsortedRight.sublist hsub, fun other => ?_, ?_⟩
  · rw [hmem]
    constructor
    · rintro ⟨hother, g, hg⟩
      refine ⟨fun heq => String.lt_irrefl name (heq ▸ hbehind other hother),
        hisOf.weight?_eq_of_mem_layers hlayer
          (List.mem_append_right _ (List.mem_cons_of_mem _ hother)) hmember, g,
        (outcomeOf_eq_error_iff_fails hsteady (hdefined other hother)).mp hg⟩
    · rintro ⟨hne, hweight, g, hfails⟩
      obtain ⟨service, hservice, houtcome⟩ := hfails
      have hother : other ∈ left ++ name :: right := (hisOf.mem_layer_iff hlayer hmember
        (hisOf.perm.mem_iff.mpr (NameMap.mem_keys_iff_find?.mpr ⟨service, hservice⟩))).mpr hweight
      have hg : l.outcomeOf e network other = .error g :=
        (outcomeOf_eq_error_iff_fails hsteady ⟨service, hservice⟩).mpr ⟨service, hservice, houtcome⟩
      rcases List.mem_append.mp hother with hmemLeft | hmemRight
      · -- those before the first that fails have come back with instances
        obtain ⟨i, hi⟩ := hleft other hmemLeft
        rw [hi] at hg
        cases hg
      · rcases List.mem_cons.mp hmemRight with heq | hmemRight
        · exact absurd heq hne
        · exact ⟨hmemRight, g, hg⟩
  · have hmembers := (List.forall₂_and_left others _).mpr
      ⟨fun other hother => ((hmem other).mp hother).1, hfailures⟩
    exact hmembers.imp fun other g ⟨hother, hg⟩ =>
      (outcomeOf_eq_error_iff_fails hsteady (hdefined other hother)).mp hg

/-- The first service of a plan that fails ends both ways to start its groups. -/
theorem failsTogether_startGroups (hsteady : l.IsSteady e network) (hisOf : p.IsOf e)
    {before after : List String} {name : String} {is : List Instance} {f : Failure}
    (horder : p.order = before ++ name :: after)
    (his : before.map (l.outcomeOf e network) = is.map .ok)
    (hf : l.outcomeOf e network name = .error f) :
    FailsTogether l e network p name f
        (startGroups l e network false (LaunchMode.sequential.groups p))
        (startGroups l e network false (LaunchMode.layered.groups p)) ∧
      (startGroups l e network false (LaunchMode.sequential.groups p)).events =
        (before.map ([·]) ++ [[name]]).flatMap (groupEvents l e network) := by
  have hdefined : ∀ mode : LaunchMode, e.Defines (mode.groups p).flatten := fun mode =>
    (p.flatten_groups mode).symm ▸ hisOf.defines_order
  have hgroups : LaunchMode.sequential.groups p =
      before.map ([·]) ++ ([] ++ name :: []) :: after.map ([·]) := by
    show p.order.map ([·]) = _
    rw [horder, List.map_append, List.map_cons]
    rfl
  -- the order splits before the service, and so do the layers and the one it is in
  obtain ⟨good, left, right, later, hlayers, hbefore⟩ :=
    split_flatten ((p.flatten_groups .layered).trans horder)
  have hlayer : left ++ name :: right ∈ LaunchMode.layered.groups p := by
    rw [hlayers]
    exact List.mem_append_right _ List.mem_cons_self
  obtain ⟨g, hg, hsequential⟩ := startGroups_of_first_error hsteady
    (hgroups ▸ hdefined .sequential) (by rw [flatten_map_singleton, List.append_nil]; exact his) hf
  obtain ⟨g', hg', hlayered⟩ := startGroups_of_first_error hsteady
    (hlayers ▸ hdefined .layered) (hbefore ▸ his) hf
  obtain ⟨others, hsorted, hothers, hfailures⟩ := exists_failing_of_layer hsteady hisOf hlayer
    (fun other hother => outcomeOf_ok_of_map his (hbefore ▸ List.mem_append_right _ hother))
  -- alone in its group, the service fails with its own failure
  obtain rfl : f = g := by
    rcases hg with hone | ⟨hmany, -⟩
    · exact (List.cons.inj hone).1
    · exact absurd hmany (by simp)
  rw [← hgroups] at hsequential
  rw [← hlayers] at hlayered
  refine ⟨{ sequential_result := ?_, layered_result := ?_, starts := ⟨right, ?_, ?_⟩ }, ?_⟩
  · rw [hsequential]
  · exact ⟨others, _, g', hsorted, hothers, hfailures, hg', by rw [hlayered]⟩
  · rw [hsequential, hlayered, Progress.startCalls, Progress.startCalls, Progress.calls,
      Progress.calls, service?_flatMap_groupEvents, service?_flatMap_groupEvents,
      List.flatten_append, List.flatten_append, flatten_map_singleton, hbefore]
    simp
  · exact fun other hother => hisOf.weight?_eq_of_mem_layers hlayer
      (List.mem_append_right _ (List.mem_cons_of_mem _ hother))
      (List.mem_append_right _ List.mem_cons_self)
  · rw [hsequential]
    rfl

/-- What is known of the groups of a plan is known of launches. -/
theorem FailsTogether.launch (hplan : e.plan = .ok p) (hnetwork : l.startNetwork network = .ok ())
    {name : String} {f : Failure}
    (h : FailsTogether l e network p name f
      (startGroups l e network false (LaunchMode.sequential.groups p))
      (startGroups l e network false (LaunchMode.layered.groups p))) :
    FailsTogether l e network p name f (launch .sequential l false e network)
      (launch .layered l false e network) where
  sequential_result := by
    rw [(launch_of_startNetwork_ok .sequential hplan hnetwork).1]
    exact h.sequential_result
  layered_result := by
    rw [(launch_of_startNetwork_ok .layered hplan hnetwork).1]
    exact h.layered_result
  starts := by
    rw [startCalls_launch .layered hplan hnetwork, startCalls_launch .sequential hplan hnetwork]
    exact h.starts

/-- Of a service that is the first to fail, a sequential launch sees the failure, and no other. -/
theorem failed_mem_sequential_iff (hsteady : l.IsSteady e network) (hplan : e.plan = .ok p)
    (hnetwork : l.startNetwork network = .ok ()) {before after : List String} {name : String}
    {is : List Instance} {f : Failure} (horder : p.order = before ++ name :: after)
    (his : before.map (l.outcomeOf e network) = is.map .ok)
    (hf : l.outcomeOf e network name = .error f) {other : String} {g : Failure} :
    .failed (.startService other network) g ∈ (launch .sequential l false e network).events ↔
      other = name ∧ g = f := by
  have hisOf : p.IsOf e := Environment.isOf_of_plan hplan
  have hflatten : (before.map ([·]) ++ [[name]]).flatten = before ++ [name] := by
    rw [List.flatten_append, flatten_map_singleton]
    rfl
  rw [failed_mem_launch_iff .sequential hplan hnetwork,
    (failsTogether_startGroups hsteady hisOf horder his hf).2]
  constructor
  · intro hfailed
    obtain ⟨hother, hg⟩ := outcomeOf_of_failed_mem hfailed
    rw [hflatten] at hother
    rcases List.mem_append.mp hother with hbefore | hlast
    · obtain ⟨i, hi⟩ := outcomeOf_ok_of_map his hbefore
      rw [hi] at hg
      cases hg
    · obtain rfl := List.mem_singleton.mp hlast
      rw [hf] at hg
      exact ⟨rfl, (Except.error.inj hg).symm⟩
  · rintro ⟨rfl, rfl⟩
    refine failed_mem_of_outcomeOf hsteady (fun other hother => hisOf.defines_order other ?_) ?_ hf
    · rw [hflatten] at hother
      rw [horder, List.append_cons]
      exact List.mem_append_left _ hother
    · rw [hflatten]
      exact List.mem_append_right _ (List.mem_singleton_self _)

/-- Where all services come to instances, both launches return them and call all starts. -/
theorem launch_of_outcomes_ok (mode : LaunchMode) (hsteady : l.IsSteady e network)
    (hplan : e.plan = .ok p) (hnetwork : l.startNetwork network = .ok ()) {is : List Instance}
    (his : p.order.map (l.outcomeOf e network) = is.map .ok) :
    (launch mode l false e network).result = .ok is ∧
      (launch mode l false e network).startCalls = p.order ∧
      ∀ name f, .failed (.startService name network) f ∉
        (launch mode l false e network).events := by
  have hflatten : (mode.groups p).flatten = p.order := p.flatten_groups mode
  have hgroups := startGroups_of_ok hsteady
    (hflatten.symm ▸ (Environment.isOf_of_plan hplan).defines_order) (hflatten.symm ▸ his)
  refine ⟨?_, ?_, fun name f hfailed => ?_⟩
  · rw [(launch_of_startNetwork_ok mode hplan hnetwork).1, hgroups]
  · rw [startCalls_launch mode hplan hnetwork, hgroups, Progress.startCalls, Progress.calls,
      service?_flatMap_groupEvents, hflatten]
  · rw [failed_mem_launch_iff mode hplan hnetwork, hgroups] at hfailed
    obtain ⟨hname, hf⟩ := outcomeOf_of_failed_mem hfailed
    obtain ⟨i, hi⟩ := outcomeOf_ok_of_map his (hflatten ▸ hname)
    rw [hi] at hf
    cases hf

end Launches

/-- **A layered launch refines a sequential one**, if no start stalls or cancels the launch. Both
return the same instances or both fail, and the services that the sequential launch asks for are the
first that the layered one asks for. Where the failure is not that of a service, both launches are
the same. Where it is, the layered launch fails with it and the failures of the other services of
that weight, by name, and has asked for services of that weight only besides. -/
theorem layered_refines_sequential {l : Launcher} {e : Environment} {network : String}
    (hsteady : l.IsSteady e network) :
    (∀ is, (launch .sequential l false e network).result = .ok is ↔
      (launch .layered l false e network).result = .ok is) ∧
    (launch .sequential l false e network).startCalls <+:
      (launch .layered l false e network).startCalls ∧
    (∀ f, (launch .sequential l false e network).result = .error f →
      launch .layered l false e network = launch .sequential l false e network ∨
        ∃ name, .failed (.startService name network) f ∈
          (launch .sequential l false e network).events) ∧
    ∀ p name f, e.plan = .ok p →
      .failed (.startService name network) f ∈ (launch .sequential l false e network).events →
        FailsTogether l e network p name f (launch .sequential l false e network)
          (launch .layered l false e network) := by
  cases hplan : e.plan with
  | error g =>
    rw [launch_of_plan_error hplan, launch_of_plan_error hplan]
    refine ⟨fun _ => Iff.rfl, List.prefix_refl _, fun _ _ => .inl rfl, fun p _ _ hp => ?_⟩
    cases hp
  | ok p =>
    cases hnetwork : l.startNetwork network with
    | error g =>
      rw [launch_of_startNetwork_error hplan hnetwork, launch_of_startNetwork_error hplan hnetwork]
      refine ⟨fun _ => Iff.rfl, List.prefix_refl _, fun _ _ => .inl rfl, fun _ _ _ _ h => ?_⟩
      simp at h
    | ok _ =>
      -- whether any service fails, and which is the first, does not depend on the mode
      rcases outcomes_ok_or_first_error (l.outcomeOf e network) p.order with
        ⟨is, his⟩ | ⟨before, name, after, is, f, horder, his, hf⟩
      · have hlaunch := fun mode => launch_of_outcomes_ok mode hsteady hplan hnetwork his
        refine ⟨fun js => ?_, ?_, fun g hg => ?_, fun _ name g _ hfailed => ?_⟩
        · rw [(hlaunch .sequential).1, (hlaunch .layered).1]
        · rw [(hlaunch .sequential).2.1, (hlaunch .layered).2.1]
        · rw [(hlaunch .sequential).1] at hg
          cases hg
        · exact absurd hfailed ((hlaunch .sequential).2.2 name g)
      · have htogether := (failsTogether_startGroups hsteady (Environment.isOf_of_plan hplan) horder
          his hf).1.launch hplan hnetwork
        obtain ⟨others, failures, g, -, -, -, -, hlayered⟩ := htogether.layered_result
        obtain ⟨more, hmore, -⟩ := htogether.starts
        refine ⟨fun js => ?_, hmore ▸ List.prefix_append _ _, fun g hg => .inr ⟨name, ?_⟩,
          fun p' other g hp hfailed => ?_⟩
        · rw [htogether.sequential_result, hlayered]
          exact ⟨fun h => (nomatch h), fun h => (nomatch h)⟩
        · rw [htogether.sequential_result] at hg
          exact (failed_mem_sequential_iff hsteady hplan hnetwork horder his hf).mpr
            ⟨rfl, (Except.error.inj hg).symm⟩
        · obtain ⟨rfl, rfl⟩ :=
            (failed_mem_sequential_iff hsteady hplan hnetwork horder his hf).mp hfailed
          cases hp
          exact htogether

/-- A launcher under which only one service starts. -/
def startsOnly (name : String) : Launcher where
  startNetwork _ := .ok ()
  startService _ other _ :=
    { outcome := if other = name then .started ⟨other, "1"⟩
        else .failed (.startFailed other "container exited") }
  stopNetwork _ := .ok ()

/-- Three services that need nothing, and one that needs the first of them. -/
def fourServices : Environment :=
  (((({} : Environment).withService "cache" {}).withService "db" {}).withService "mail"
    {}).withService "web" { dependsOn := ["cache"] }

theorem plan_fourServices :
    fourServices.plan = .ok ⟨[("cache", 0), ("db", 0), ("mail", 0), ("web", 1)]⟩ :=
  Environment.plan_eq_ok_iff_fits.mpr (by decide +kernel)

theorem events_startsOnly :
    (launch .sequential (startsOnly "cache") false fourServices "net").events =
      [.called (.startNetwork "net"), .called (.startService "cache" "net"),
        .started "cache" ⟨"cache", "1"⟩, .called (.startService "db" "net"),
        .failed (.startService "db" "net") (.startFailed "db" "container exited"),
        .called (.stopNetwork "net")] := by
  unfold launch
  rw [plan_fourServices]
  rfl

theorem startCalls_startsOnly :
    (launch .sequential (startsOnly "cache") false fourServices "net").startCalls =
        ["cache", "db"] ∧
      (launch .layered (startsOnly "cache") false fourServices "net").startCalls =
        ["cache", "db", "mail"] := by
  unfold launch
  rw [plan_fourServices]
  exact ⟨rfl, rfl⟩

/-- Behind a service that starts, two of a layer fail: the sequential launch ends with the first,
and the layered one with both. -/
theorem startsOnly_layered_refines_sequential :
    (startsOnly "cache").IsSteady fourServices "net" ∧
    (launch .sequential (startsOnly "cache") false fourServices "net").startCalls =
      ["cache", "db"] ∧
    (launch .layered (startsOnly "cache") false fourServices "net").startCalls =
      ["cache", "db", "mail"] ∧
    FailsTogether (startsOnly "cache") fourServices "net"
      ⟨[("cache", 0), ("db", 0), ("mail", 0), ("web", 1)]⟩ "db"
      (.startFailed "db" "container exited")
      (launch .sequential (startsOnly "cache") false fourServices "net")
      (launch .layered (startsOnly "cache") false fourServices "net") := by
  have hsteady : (startsOnly "cache").IsSteady fourServices "net" := by
    rintro name (⟨service, -, hcancels⟩ | ⟨service, -, hstalls⟩)
    · cases hcancels
    · unfold startsOnly at hstalls
      dsimp only at hstalls
      split at hstalls
      · cases hstalls
      · cases hstalls
  refine ⟨hsteady, startCalls_startsOnly.1, startCalls_startsOnly.2, ?_⟩
  refine (layered_refines_sequential hsteady).2.2.2 _ _ _ plan_fourServices ?_
  rw [events_startsOnly]
  simp

end StartOrder
