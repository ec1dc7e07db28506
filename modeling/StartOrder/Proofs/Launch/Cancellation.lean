import StartOrder.Proofs.Launch.Protocol

/-!
# Cancelled launches

A launch is cancelled by a start that cancels it, or by one that stalls until somebody does. No
start is called behind one that cancels, but what was begun before comes back in its own way, and
the launch returns what it makes of all that. Cancellation is therefore no outcome of its own. A
launch that is cancelled at the very end returns all its instances, and one that is cancelled within
a layer may fail with several failures at once, of which the cancellation need not be one.

What holds nevertheless is `launch_cancelled_outcome`. It is proved on `GroupsRun`, the relation
that says how groups are started one after another, by inductions with a case for each of its rules:

- the token at the end is cancelled exactly if one of the starts that were called interrupts the
  launch (`GroupsRun.cancelled_iff`), because each group hands on what it has left;
- a start that cancels is the last one that is called (`GroupsRun.last_of_cancels`): its group ends
  with it, and the groups behind find a token that is cancelled and call nothing;
- a failure is that of a single group, behind groups that have all come back with instances
  (`GroupsRun.exists_failed_group`). Those starts did not stall. So if anything of the last group
  was called, what interrupts the launch is in it (`GroupsRun.exists_interrupts_of_called`).

`GivesUp` puts the last point into words about the launch, with the failure of each service of that
group that has no instance.
-/

namespace StartOrder

/-! ## Groups -/

section Groups

variable {l : Launcher} {e : Environment} {network : String}

theorem startCalls_append {p q : Progress (Except Failure (List Instance))}
    (cancelled : Bool) (result : Except Failure (List Instance)) :
    ({ events := p.events ++ q.events, cancelled, result } :
      Progress (Except Failure (List Instance))).startCalls = p.startCalls ++ q.startCalls := by
  show ((p.events ++ q.events).filterMap LaunchEvent.call?).filterMap Call.service? = _
  rw [List.filterMap_append, List.filterMap_append]
  rfl

/-- The services whose start is called in a group are those that are begun. -/
theorem GroupRun.startCalls {cancelled : Bool} {begun skipped : List String}
    {p : Progress (Except Failure (List Instance))}
    (h : GroupRun l e network cancelled begun skipped p) : p.startCalls = begun := by
  rw [Progress.startCalls, Progress.calls, h.events, calls_groupEvents, service?_map_startService]

variable {cancelled : Bool} {groups : List (List String)}
  {p : Progress (Except Failure (List Instance))}

/-- Groups are cancelled if they were before, or by a start that was called. -/
theorem GroupsRun.cancelled_iff (h : GroupsRun l e network cancelled groups p) :
    p.cancelled = true ↔ cancelled = true ∨
      ∃ name ∈ p.startCalls, l.Interrupts e network name := by
  induction h with
  | nil cancelled =>
    constructor
    · exact fun h => .inl h
    · rintro (h | ⟨name, hname, -⟩)
      · exact h
      · cases hname
  | failed hrun hf => rw [hrun.cancelled_iff, hrun.startCalls]
  | passed hrun his hrest ih =>
    -- what the first group leaves is what the others find
    rw [startCalls_append, hrun.startCalls, ih, hrun.cancelled_iff, or_assoc, ← exists_or]
    refine or_congr_right (exists_congr fun name => ?_)
    rw [List.mem_append, or_and_right]

/-- Behind a cancellation, no start is called. -/
theorem GroupsRun.startCalls_eq_nil (h : GroupsRun l e network cancelled groups p)
    (hcancelled : cancelled = true) : p.startCalls = [] := by
  induction h with
  | nil => rfl
  | failed hrun hf => rw [hrun.startCalls, hrun.upTo.begun_eq_nil hcancelled]
  | passed hrun his hrest ih =>
    rw [startCalls_append, hrun.startCalls, hrun.upTo.begun_eq_nil hcancelled,
      ih (hrun.cancelled_iff.mpr (.inl hcancelled)), List.append_nil]

/-- No start is called behind one that cancels: not in its group, and not in the groups behind. -/
theorem GroupsRun.last_of_cancels (h : GroupsRun l e network cancelled groups p)
    {front behind : List String} {name : String} (hsplit : p.startCalls = front ++ name :: behind)
    (hcancels : l.Cancels e network name) : behind = [] := by
  induction h generalizing front with
  | nil => simp [Progress.startCalls, Progress.calls] at hsplit
  | failed hrun hf =>
    exact hrun.upTo.last_of_cancels front name behind (hrun.startCalls.symm.trans hsplit) hcancels
  | passed hrun his hrest ih =>
    rw [startCalls_append, hrun.startCalls] at hsplit
    rcases split_append hsplit with ⟨between, hnames⟩ | ⟨before, -, hlater⟩
    · -- the group ends with the start that cancels, and leaves a launch that is cancelled
      obtain rfl := hrun.upTo.last_of_cancels front name between hnames hcancels
      have hmem := hnames ▸ List.mem_append_right front (List.mem_cons_self (a := name))
      have hcancelled := hrun.cancelled_iff.mpr (.inr ⟨name, hmem, .inl hcancels⟩)
      rw [hrest.startCalls_eq_nil hcancelled, List.append_nil, hnames, List.append_cancel_left_eq,
        List.cons.injEq] at hsplit
      exact hsplit.2.symm
    · exact ih hlater

/-- A failure comes from one group, behind groups that all came back with instances. -/
theorem GroupsRun.exists_failed_group (h : GroupsRun l e network cancelled groups p) {f : Failure}
    (hf : p.result = .error f) :
    ∃ good begun skipped later, groups = good ++ (begun ++ skipped) :: later ∧
      p.events = (good ++ [begun]).flatMap (groupEvents l e network) ∧
      (∀ name ∈ good.flatten, ∃ i, l.begunOf e network name = .returns (.ok i)) ∧
      gather (groupOutcomes l e network begun skipped) = .error f := by
  induction h with
  | nil => cases hf
  | @failed _ begun skipped rest _ _ hrun _ =>
    -- nothing is started behind a group with a failure, so that it is the last one seen
    refine ⟨[], begun, skipped, rest, rfl, ?_, fun name hname => (nomatch hname),
      hrun.result.symm.trans hf⟩
    rw [List.nil_append, List.flatMap_singleton, ← hrun.events]
  | @passed _ names _ _ q is hrun his _ ih =>
    have hrest : q.result = .error f := by
      revert hf
      cases q.result with
      | ok js => exact fun hf => (nomatch hf)
      | error g => exact fun hf => hf
    obtain ⟨good, begun, skipped, later, rfl, hevents, hgood, hgather⟩ := ih hrest
    obtain ⟨-, hreturns⟩ :=
      returns_of_groupOutcomes (eq_map_of_gather_eq_ok (hrun.result.symm.trans his))
    refine ⟨names :: good, begun, skipped, later, rfl, ?_, fun name hname => ?_, hgather⟩
    · rw [hevents, hrun.events, List.cons_append, List.flatMap_cons]
    · rw [List.flatten_cons] at hname
      rcases List.mem_append.mp hname with hname | hname
      · obtain ⟨i, -, hi⟩ := exists_mem_of_forall₂ hreturns hname
        exact ⟨i, hi⟩
      · exact hgood name hname

theorem started_mem_flatMap_groupEvents {groups : List (List String)} {name : String}
    {i : Instance} :
    .started name i ∈ groups.flatMap (groupEvents l e network) ↔
      name ∈ groups.flatten ∧ l.begunOf e network name = .returns (.ok i) := by
  rw [List.mem_flatMap, List.mem_flatten]
  constructor
  · rintro ⟨names, hnames, hstarted⟩
    obtain ⟨hname, hreturns⟩ := started_mem_groupEvents.mp hstarted
    exact ⟨⟨names, hnames, hname⟩, hreturns⟩
  · rintro ⟨⟨names, hnames, hname⟩, hreturns⟩
    exact ⟨names, hnames, started_mem_groupEvents.mpr ⟨hname, hreturns⟩⟩

/-- What the start of a service fails with in a launch that called some starts: with what the
launcher says, or, if it was not called or has stalled, with its being given up. -/
def Launcher.FailsBehind (l : Launcher) (e : Environment) (network : String) (called : List String)
    (name : String) (f : Failure) : Prop :=
  name ∈ called ∧ l.Fails e network name f ∨
    (name ∈ called → l.Stalls e network name) ∧ f = startCancelled name

/-- The failures of a group: of what was begun, and of what was not. -/
theorem failures_groupOutcomes (l : Launcher) (e : Environment) (network : String)
    (begun skipped : List String) :
    (groupOutcomes l e network begun skipped).filterMap failure? =
      (begun.map (l.outcomeOf e network)).filterMap failure? ++ skipped.map startCancelled := by
  rw [groupOutcomes, List.filterMap_append, List.filterMap_map (l := skipped)]
  exact congrArg _ (congrFun (List.filterMap_eq_map (f := startCancelled)) skipped)

/-- The services of a group that have no instance, with their failures. -/
theorem exists_failing_of_group (l : Launcher) (network : String) {begun skipped : List String}
    (hdefined : e.Defines begun) (hnodup : (begun ++ skipped).Nodup) :
    ∃ failing, failing.Sublist (begun ++ skipped) ∧
      (∀ name ∈ begun ++ skipped, name ∈ failing ↔
        ∀ i, ¬(name ∈ begun ∧ l.begunOf e network name = .returns (.ok i))) ∧
      List.Forall₂ (l.FailsBehind e network begun) failing
        ((groupOutcomes l e network begun skipped).filterMap failure?) := by
  have hapart : ∀ name ∈ skipped, name ∉ begun := fun name hskipped hbegun =>
    (List.nodup_append.mp hnodup).2.2 name hbegun name hskipped rfl
  -- of what was begun some starts fail, and all that was skipped is given up
  obtain ⟨failing, hsub, hmem, hfailures⟩ := failures_of_outcomes (l.outcomeOf e network) begun
  refine ⟨failing ++ skipped, hsub.append_right _, fun name hname => ?_, ?_⟩
  · rw [List.mem_append, hmem]
    constructor
    · -- what was begun comes back with one thing only, and what was skipped was not begun
      rintro (⟨-, f, hf⟩ | hskipped) i ⟨hbegun, hreturns⟩
      · rw [Launcher.outcomeOf, hreturns] at hf
        cases hf
      · exact hapart name hskipped hbegun
    · intro hnone
      rcases List.mem_append.mp hname with hbegun | hskipped
      · cases houtcome : l.outcomeOf e network name with
        | ok i => exact absurd ⟨hbegun, settle_eq_ok_iff.mp houtcome⟩ (hnone i)
        | error f => exact .inl ⟨hbegun, f, rfl⟩
      · exact .inr hskipped
  · rw [failures_groupOutcomes]
    refine List.rel_append ?_ ?_
    · have hmembers := (List.forall₂_and_left failing _).mpr
        ⟨fun name hname => ((hmem name).mp hname).1, hfailures⟩
      refine hmembers.imp fun name f hmember => ?_
      obtain ⟨hbegun, hf⟩ := hmember
      rcases (outcomeOf_eq_error_iff (hdefined name hbegun)).mp hf with hfails | ⟨hstalls, rfl⟩
      · exact .inl ⟨hbegun, hfails⟩
      · exact .inr ⟨fun _ => hstalls, rfl⟩
    · rw [List.forall₂_map_right_iff, List.forall₂_same]
      exact fun name hskipped => .inr ⟨fun hbegun => absurd hbegun (hapart name hskipped), rfl⟩

/-- Some starts with one among them that cancels end with it, and nothing is called behind them. -/
theorem GroupsRun.ends_of_cancels (h : GroupsRun l e network cancelled groups p)
    {before begun : List String} (hcalled : p.startCalls = before ++ begun) {name : String}
    (hname : name ∈ before) (hcancels : l.Cancels e network name) :
    begun = [] ∧ ∃ front, before = front ++ [name] := by
  obtain ⟨front, behind, rfl⟩ := List.append_of_mem hname
  rw [List.append_assoc, List.cons_append] at hcalled
  obtain ⟨rfl, hbegun⟩ := List.append_eq_nil_iff.mp (h.last_of_cancels hcalled hcancels)
  exact ⟨hbegun, front, rfl⟩

/-- Where no start stalls, a cancellation comes from the last one that was called. -/
theorem GroupsRun.exists_last_of_cancelled (h : GroupsRun l e network false groups p)
    (hcancelled : p.cancelled = true) (hstalls : ∀ name ∈ p.startCalls, ¬l.Stalls e network name) :
    ∃ front name, p.startCalls = front ++ [name] ∧ l.Cancels e network name ∧
      ∀ other ∈ front, ¬l.Interrupts e network other := by
  obtain ⟨name, hname, hinterrupts⟩ :=
    (h.cancelled_iff.mp hcancelled).resolve_left Bool.false_ne_true
  have hcancels := hinterrupts.resolve_right (hstalls name hname)
  obtain ⟨-, front, hsplit⟩ := h.ends_of_cancels (List.append_nil _).symm hname hcancels
  refine ⟨front, name, hsplit, hcancels, fun other hother hcause => ?_⟩
  -- behind a start before the last one that cancels, the last one would not have been called
  have hmem : other ∈ p.startCalls := hsplit ▸ List.mem_append_left _ hother
  have hnone := (h.ends_of_cancels hsplit hother (hcause.resolve_right (hstalls other hmem))).1
  exact absurd hnone (List.cons_ne_nil _ _)

/-- If anything is called behind starts that do not stall, it was none of them that cancelled the
launch: that would have been the last that was called. -/
theorem GroupsRun.exists_interrupts_of_called (h : GroupsRun l e network false groups p)
    (hcancelled : p.cancelled = true) {before begun : List String}
    (hcalled : p.startCalls = before ++ begun)
    (hbefore : ∀ name ∈ before, ¬l.Stalls e network name) (hbegun : begun ≠ []) :
    ∃ name ∈ begun, l.Interrupts e network name := by
  obtain ⟨name, hname, hinterrupts⟩ :=
    (h.cancelled_iff.mp hcancelled).resolve_left Bool.false_ne_true
  rw [hcalled] at hname
  rcases List.mem_append.mp hname with hname | hname
  · have hcancels := hinterrupts.resolve_right (hbefore name hname)
    exact absurd (h.ends_of_cancels hcalled hname hcancels).1 hbegun
  · exact ⟨name, hname, hinterrupts⟩

end Groups

/-! ## Launches -/

section Launches

variable {mode : LaunchMode} {l : Launcher} {e : Environment} {network : String} {p : Plan}

/-- A launch that is begun cancelled calls nothing, and fails. -/
theorem launch_of_isCancelled (mode : LaunchMode) (l : Launcher) (e : Environment)
    (network : String) :
    ∃ f, launch mode l true e network = { cancelled := true, result := .error f } := by
  unfold launch
  cases e.plan with
  | error f => exact ⟨f, rfl⟩
  | ok p => exact ⟨_, rfl⟩

theorem cancelled_launch (mode : LaunchMode) (hplan : e.plan = .ok p)
    (hnetwork : l.startNetwork network = .ok ()) :
    (launch mode l false e network).cancelled =
      (startGroups l e network false (mode.groups p)).cancelled := by
  unfold launch
  rw [hplan]
  dsimp only
  rw [if_neg Bool.false_ne_true, hnetwork]

theorem groupsRun_launch (l : Launcher) (network : String) (mode : LaunchMode)
    (hplan : e.plan = .ok p) :
    GroupsRun l e network false (mode.groups p)
      (startGroups l e network false (mode.groups p)) := by
  refine groupsRun_startGroups l network false ?_
  rw [p.flatten_groups mode]
  exact (Environment.isOf_of_plan hplan).defines_order

/-- A launch leaves a driver cancelled if it was before, or by a start that the launch called. -/
theorem launch_cancelled_iff (mode : LaunchMode) (l : Launcher) (cancelled : Bool)
    (e : Environment) (network : String) :
    (launch mode l cancelled e network).cancelled = true ↔ cancelled = true ∨
      ∃ name ∈ (launch mode l cancelled e network).startCalls, l.Interrupts e network name := by
  cases cancelled with
  | true =>
    obtain ⟨f, hlaunch⟩ := launch_of_isCancelled mode l e network
    rw [hlaunch]
    exact ⟨fun _ => .inl rfl, fun _ => rfl⟩
  | false =>
    rw [or_iff_right Bool.false_ne_true]
    cases hplan : e.plan with
    | error f =>
      rw [launch_of_plan_error hplan]
      exact ⟨fun h => (nomatch h), fun ⟨_, hname, _⟩ => (nomatch hname)⟩
    | ok p =>
      cases hnetwork : l.startNetwork network with
      | error f =>
        rw [launch_of_startNetwork_error hplan hnetwork]
        exact ⟨fun h => (nomatch h), fun ⟨_, hname, _⟩ => (nomatch hname)⟩
      | ok _ =>
        rw [cancelled_launch mode hplan hnetwork, startCalls_launch mode hplan hnetwork,
          (groupsRun_launch l network mode hplan).cancelled_iff, or_iff_right Bool.false_ne_true]

/-- How a launch that is cancelled fails: with what has become of the services of one group that
have no instance. -/
structure GivesUp (l : Launcher) (e : Environment) (network : String) (names failing : List String)
    (failures : List Failure) (f : Failure) (run : Progress (Except Failure (List Instance))) :
    Prop where
  /-- The network is stopped at the end. -/
  stopped : run.calls.getLast? = some (.stopNetwork network)
  failing_sublist : failing.Sublist names
  /-- A service of the group fails exactly if it was not seen to start. -/
  mem_failing_iff : ∀ name ∈ names, name ∈ failing ↔ ∀ i, .started name i ∉ run.events
  fails : List.Forall₂ (l.FailsBehind e network run.startCalls) failing failures
  /-- The failure stands for those of the services that fail, and for no other. -/
  combines : Combines failures f
  /-- The launch is cancelled by what was called of the group, if anything was. -/
  interrupts : ∀ name ∈ names, name ∈ run.startCalls →
    ∃ other ∈ names, other ∈ run.startCalls ∧ l.Interrupts e network other

/-- The group that a launch fails with, as far as it was begun. -/
theorem exists_failed_group_of_launch (hplan : e.plan = .ok p)
    (hnetwork : l.startNetwork network = .ok ())
    (hcancelled : (launch mode l false e network).cancelled = true) {f : Failure}
    (hf : (launch mode l false e network).result = .error f) :
    ∃ begun skipped, begun ++ skipped ∈ mode.groups p ∧ (begun ++ skipped).Nodup ∧
      e.Defines begun ∧ gather (groupOutcomes l e network begun skipped) = .error f ∧
      (∀ name ∈ begun ++ skipped,
        (name ∈ (launch mode l false e network).startCalls ↔ name ∈ begun) ∧
        ∀ i, .started name i ∈ (launch mode l false e network).events ↔
          name ∈ begun ∧ l.begunOf e network name = .returns (.ok i)) ∧
      (begun ≠ [] → ∃ name ∈ begun, l.Interrupts e network name) := by
  have hisOf : p.IsOf e := Environment.isOf_of_plan hplan
  have hrun := groupsRun_launch l network mode hplan
  obtain ⟨good, begun, skipped, later, hgroups, hevents, hgood, hgather⟩ :=
    hrun.exists_failed_group ((launch_of_startNetwork_ok mode hplan hnetwork).1.symm.trans hf)
  have hcalled : (startGroups l e network false (mode.groups p)).startCalls =
      good.flatten ++ begun := by
    rw [Progress.startCalls, Progress.calls, hevents, service?_flatMap_groupEvents,
      List.flatten_append, List.flatten_singleton]
  -- no service is in two groups, so that the starts of the others say nothing of this one
  have horder : p.order = good.flatten ++ ((begun ++ skipped) ++ later.flatten) := by
    rw [← p.flatten_groups mode, hgroups, List.flatten_append, List.flatten_cons]
  have hdefined := hisOf.defines_order
  have hnodup := hisOf.order_nodup
  rw [horder] at hdefined hnodup
  obtain ⟨-, hnodupLater, hapart⟩ := List.nodup_append.mp hnodup
  have hmember : ∀ name ∈ begun ++ skipped, (name ∈ good.flatten ++ begun ↔ name ∈ begun) := by
    intro name hname
    rw [List.mem_append, or_iff_right]
    exact fun hbefore => hapart name hbefore name (List.mem_append_left _ hname) rfl
  refine ⟨begun, skipped, hgroups ▸ List.mem_append_right _ List.mem_cons_self,
    (List.nodup_append.mp hnodupLater).1, fun name hname => ?_, hgather,
    fun name hname => ⟨?_, fun i => ?_⟩, fun hbegun => ?_⟩
  · exact hdefined name
      (List.mem_append_right _ (List.mem_append_left _ (List.mem_append_left _ hname)))
  · rw [startCalls_launch mode hplan hnetwork, hcalled, hmember name hname]
  · rw [mem_launch_iff mode hplan hnetwork (by simp) (by simp) (by simp), hevents,
      started_mem_flatMap_groupEvents, List.flatten_append, List.flatten_singleton,
      hmember name hname]
  · rw [cancelled_launch mode hplan hnetwork] at hcancelled
    refine hrun.exists_interrupts_of_called hcancelled hcalled (fun name hname => ?_) hbegun
    obtain ⟨i, hi⟩ := hgood name hname
    exact (starts_of_begunOf (hdefined name (List.mem_append_left _ hname)) hi).not_stalls

/-- A launch that is cancelled and fails gives up one of its groups. -/
theorem givesUp_of_error (hplan : e.plan = .ok p) (hnetwork : l.startNetwork network = .ok ())
    (hcancelled : (launch mode l false e network).cancelled = true) {f : Failure}
    (hf : (launch mode l false e network).result = .error f) :
    ∃ names ∈ mode.groups p, ∃ failing failures,
      GivesUp l e network names failing failures f (launch mode l false e network) := by
  obtain ⟨begun, skipped, hgroup, hnodup, hdefined, hgather, hseen, hinterrupts⟩ :=
    exists_failed_group_of_launch hplan hnetwork hcancelled hf
  obtain ⟨failing, hsub, hmem, hfailures⟩ := exists_failing_of_group l network hdefined hnodup
  refine ⟨begun ++ skipped, hgroup, failing, _,
    { stopped := ?_, failing_sublist := hsub, mem_failing_iff := ?_, fails := ?_,
      combines := combines_of_gather_eq_error hgather, interrupts := ?_ }⟩
  · obtain ⟨_, -, -, hcalls⟩ := (runsPlan_launch mode hplan hnetwork).calls_of_error f hf
    rw [hcalls, ← List.cons_append, List.getLast?_append_of_ne_nil _ (List.cons_ne_nil _ _)]
    rfl
  · intro name hname
    rw [hmem name hname]
    exact forall_congr' fun i => not_congr ((hseen name hname).2 i).symm
  · have hmembers := (List.forall₂_and_left failing _).mpr ⟨fun _ hname => hname, hfailures⟩
    refine hmembers.imp fun name g ⟨hname, hfails⟩ => ?_
    unfold Launcher.FailsBehind at hfails ⊢
    rw [(hseen name (hsub.subset hname)).1]
    exact hfails
  · intro name hname hcalled
    obtain ⟨other, hother, hcause⟩ :=
      hinterrupts (List.ne_nil_of_mem ((hseen name hname).1.mp hcalled))
    have hmember : other ∈ begun ++ skipped := List.mem_append_left _ hother
    exact ⟨other, hmember, (hseen other hmember).1.mpr hother, hcause⟩

/-- A launch that is cancelled and yet returns all instances is cancelled by its last start. -/
theorem exists_last_of_ok (hplan : e.plan = .ok p) (hnetwork : l.startNetwork network = .ok ())
    (hcancelled : (launch mode l false e network).cancelled = true) {is : List Instance}
    (his : (launch mode l false e network).result = .ok is) :
    ∃ front name, p.order = front ++ [name] ∧ l.Cancels e network name ∧
      ∀ other ∈ front, ¬l.Interrupts e network other := by
  have hisOf : p.IsOf e := Environment.isOf_of_plan hplan
  have hflatten : (mode.groups p).flatten = p.order := p.flatten_groups mode
  have hlaunched := launched_startGroups l network false
    (hflatten.symm ▸ hisOf.defines_order) (hflatten.symm ▸ hisOf.order_nodup)
  rw [(launch_of_startNetwork_ok mode hplan hnetwork).1] at his
  have hcalled : (startGroups l e network false (mode.groups p)).startCalls = p.order := by
    rw [Progress.startCalls, (hlaunched.result_ok is his).1, service?_map_startService, hflatten]
  rw [cancelled_launch mode hplan hnetwork] at hcancelled
  rw [← hcalled]
  refine (groupsRun_launch l network mode hplan).exists_last_of_cancelled hcancelled
    fun name hname => ?_
  obtain ⟨i, hstarted⟩ := hlaunched.started_of_result_ok his (hflatten.symm ▸ hcalled ▸ hname)
  exact (hlaunched.started name i hstarted).2.not_stalls

/-- In a group of one service, the only failure is that of the service. -/
theorem GivesUp.of_singleton {run : Progress (Except Failure (List Instance))} {name : String}
    {failing : List String} {failures : List Failure} {f : Failure}
    (h : GivesUp l e network [name] failing failures f run) :
    f = startCancelled name ∨ l.Cancels e network name ∧ l.Fails e network name f := by
  have hne : failing ≠ [] := by
    rintro rfl
    exact h.combines.ne_nil (List.forall₂_nil_left_iff.mp h.fails)
  obtain rfl : failing = [name] := by
    rcases List.sublist_singleton.mp h.failing_sublist with hnil | hone
    · exact absurd hnil hne
    · exact hone
  obtain ⟨g, _, hfails, hnil, rfl⟩ := List.forall₂_cons_left_iff.mp h.fails
  cases List.forall₂_nil_left_iff.mp hnil
  obtain rfl : g = f := by
    rcases h.combines with hone | ⟨hmany, -⟩
    · exact (List.cons.inj hone).1
    · exact absurd hmany (by simp)
  rcases hfails with ⟨hcalled, hfails⟩ | ⟨-, hcancelled⟩
  · -- a start that comes back with a failure has not stalled, so it is one that cancels
    obtain ⟨other, hother, -, hinterrupts⟩ := h.interrupts name (List.mem_singleton_self _) hcalled
    obtain rfl := List.mem_singleton.mp hother
    exact .inr ⟨hinterrupts.resolve_right hfails.not_stalls, hfails⟩
  · exact .inl hcancelled

/-- Only a single cancellation is combined to one. -/
theorem Combines.cancelled_iff {failures : List Failure} {f : Failure} (h : Combines failures f) :
    (∃ text, f = .cancelled text) ↔ ∃ text, failures = [.cancelled text] := by
  rcases h with rfl | ⟨hmany, rfl⟩
  · simp
  · constructor
    · rintro ⟨text, htext⟩
      cases htext
    · rintro ⟨text, rfl⟩
      simp at hmany

end Launches

/-- **What a launch that is cancelled returns.** It returns all instances if it is cancelled by its
last start, and by no other. Otherwise its network is stopped at the end, and it fails with what has
become of the services of one group that have no instance: with a cancellation only if there is one
such service, and its failure is one. One after another, it fails with the cancellation of a start,
or with the failure of the start that cancelled it. -/
theorem launch_cancelled_outcome {mode : LaunchMode} {l : Launcher} {e : Environment}
    {network : String} (hcancelled : (launch mode l false e network).cancelled = true) :
    ∃ p, e.plan = .ok p ∧
      (∀ is, (launch mode l false e network).result = .ok is →
        ∃ front name, p.order = front ++ [name] ∧ l.Cancels e network name ∧
          ∀ other ∈ front, ¬l.Interrupts e network other) ∧
      (∀ f, (launch mode l false e network).result = .error f →
        ∃ names ∈ mode.groups p, ∃ failing failures,
          GivesUp l e network names failing failures f (launch mode l false e network) ∧
            ((∃ text, f = .cancelled text) ↔ ∃ text, failures = [.cancelled text])) ∧
      (mode = .sequential → ∀ f, (launch mode l false e network).result = .error f →
        (∃ name, f = startCancelled name) ∨
          ∃ name, l.Cancels e network name ∧ l.Fails e network name f) := by
  cases hplan : e.plan with
  | error f =>
    rw [launch_of_plan_error hplan] at hcancelled
    cases hcancelled
  | ok p =>
    cases hnetwork : l.startNetwork network with
    | error f =>
      rw [launch_of_startNetwork_error hplan hnetwork] at hcancelled
      cases hcancelled
    | ok _ =>
      refine ⟨p, rfl, fun is his => exists_last_of_ok hplan hnetwork hcancelled his,
        fun f hf => ?_, ?_⟩
      · obtain ⟨names, hnames, failing, failures, hgivesUp⟩ :=
          givesUp_of_error hplan hnetwork hcancelled hf
        exact ⟨names, hnames, failing, failures, hgivesUp, hgivesUp.combines.cancelled_iff⟩
      · rintro rfl f hf
        obtain ⟨names, hnames, failing, failures, hgivesUp⟩ :=
          givesUp_of_error hplan hnetwork hcancelled hf
        obtain ⟨name, -, rfl⟩ := List.mem_map.mp hnames
        exact hgivesUp.of_singleton.imp (fun hf => ⟨name, hf⟩) (fun hf => ⟨name, hf⟩)

/-- A launcher under which each start stalls. -/
def stallsAlways : Launcher where
  startNetwork _ := .ok ()
  startService _ _ _ := { outcome := .stalled }
  stopNetwork _ := .ok ()

/-- A launcher under which all services start, and one of them cancels the launch. -/
def cancelsIn (name : String) : Launcher where
  startNetwork _ := .ok ()
  startService _ other _ := { cancels := other == name, outcome := .started ⟨other, "1"⟩ }
  stopNetwork _ := .ok ()

/-- Two services that need nothing. -/
def twoServices : Environment :=
  (({} : Environment).withService "a" {}).withService "b" {}

theorem plan_twoServices : twoServices.plan = .ok ⟨[("a", 0), ("b", 0)]⟩ :=
  Environment.plan_eq_ok_iff_fits.mpr (by decide +kernel)

/-- Nothing cancels the launch but the stalled starts themselves, and both have stalled. -/
theorem launch_stallsAlways :
    (launch .layered stallsAlways false twoServices "net").cancelled = true ∧
      (launch .layered stallsAlways false twoServices "net").result =
        .error (.several [startCancelled "a", startCancelled "b"]) := by
  unfold launch
  rw [plan_twoServices]
  exact ⟨rfl, rfl⟩

/-- The launch is cancelled when nothing is left to start. -/
theorem launch_cancelsIn :
    (launch .sequential (cancelsIn "b") false twoServices "net").cancelled = true ∧
      (launch .sequential (cancelsIn "b") false twoServices "net").result =
        .ok [⟨"a", "1"⟩, ⟨"b", "1"⟩] := by
  unfold launch
  rw [plan_twoServices]
  exact ⟨rfl, rfl⟩

/-- Two services of a layer stall, so that the launch does not fail with one cancellation. -/
theorem stallsAlways_cancelled_outcome :
    (launch .layered stallsAlways false twoServices "net").cancelled = true ∧
      ∃ names failing failures,
        GivesUp stallsAlways twoServices "net" names failing failures
          (.several [startCancelled "a", startCancelled "b"])
          (launch .layered stallsAlways false twoServices "net") ∧
        ¬∃ text, failures = [.cancelled text] := by
  obtain ⟨hcancelled, hresult⟩ := launch_stallsAlways
  obtain ⟨p, -, -, herror, -⟩ := launch_cancelled_outcome hcancelled
  obtain ⟨names, -, failing, failures, hgivesUp, hiff⟩ := herror _ hresult
  refine ⟨hcancelled, names, failing, failures, hgivesUp, fun hone => ?_⟩
  obtain ⟨text, htext⟩ := hiff.mpr hone
  cases htext

/-- A launch that is cancelled may fail with several failures, and may return all instances. -/
theorem cancelled_without_cancellation :
    (launch .layered stallsAlways false twoServices "net").cancelled = true ∧
    (launch .layered stallsAlways false twoServices "net").result =
      .error (.several [startCancelled "a", startCancelled "b"]) ∧
    (launch .sequential (cancelsIn "b") false twoServices "net").cancelled = true ∧
    (launch .sequential (cancelsIn "b") false twoServices "net").result =
      .ok [⟨"a", "1"⟩, ⟨"b", "1"⟩] :=
  ⟨launch_stallsAlways.1, launch_stallsAlways.2, launch_cancelsIn⟩

end StartOrder
