import StartOrder.Proofs.Launch.Starts

/-!
# The protocol of a launch

What a launch calls and what it returns, whatever the launcher does. There are three ways for a
launch to go. There may be no plan, and nothing is called. There may be no network, and nothing else
is called. Or the services of the plan are started between the start of the network and, if any of
them does not come back with an instance, its stop: `RunsPlan` says what this last way comes to, and
it is the same for both modes, since either hands the services over in the order of the plan.

The starts have been accounted for in `Launched`, and what is added here is the frame around them.
The events of a launch are those of the starts with one in front and `closingEvents` behind, and no
event of the frame is that of a service (`mem_closingEvents`, `split_starts`), so that whatever is
said of services carries over from the starts to the launch.
-/

namespace StartOrder

/-- What becomes of the launch of a plan once its network is there. -/
structure RunsPlan (l : Launcher) (e : Environment) (network : String) (p : Plan)
    (run : Progress (Except Failure (List Instance))) : Prop where
  /-- If all goes well, the services are started in order, and the network stays. -/
  calls_of_ok : ∀ is, run.result = .ok is →
    run.calls = .startNetwork network :: p.order.map (Call.startService · network)
  /-- Otherwise the first services are started, and the network is stopped at the end. -/
  calls_of_error : ∀ f, run.result = .error f → ∃ begun, begun <+: p.order ∧ begun.Nodup ∧
    run.calls = .startNetwork network ::
      (begun.map (Call.startService · network) ++ [.stopNetwork network])
  /-- All that a service needs has come back before the service is started. -/
  dependencies : ∀ before name after,
    run.events = before ++ .called (.startService name network) :: after →
      ∀ dep, e.DependsOn name dep → ∃ i, .started dep i ∈ before
  /-- What has come back is what the launcher has made of a service. -/
  started : ∀ name i, .started name i ∈ run.events → l.Starts e network name i
  /-- All goes well exactly if all services have come back. -/
  result_ok_iff : (∃ is, run.result = .ok is) ↔
    ∀ name ∈ e.serviceNames, ∃ i, .started name i ∈ run.events
  /-- Then the instances are those that have come back, in the order of the plan. -/
  instances : ∀ is, run.result = .ok is →
    List.Forall₂ (fun name i => .started name i ∈ run.events) p.order is
  /-- Otherwise the failures are those of the launcher, and those of starts that were given up. -/
  failures : ∀ f, run.result = .error f → ∃ failures, Combines failures f ∧
    ∀ g ∈ failures, Accounted l e network p.order run.events g

section Launches

variable {mode : LaunchMode} {l : Launcher} {e : Environment} {network : String} {p : Plan}

/-- All services of a plan are defined. -/
theorem Plan.IsOf.defines_order (h : p.IsOf e) : e.Defines p.order := fun _ hname =>
  NameMap.mem_keys_iff_find?.mp (h.perm.mem_iff.mp hname)

theorem launch_of_plan_error {f : Failure} (hplan : e.plan = .error f) :
    launch mode l false e network = { cancelled := false, result := .error f } := by
  unfold launch
  rw [hplan]

theorem launch_of_startNetwork_error (hplan : e.plan = .ok p) {f : Failure}
    (hnetwork : l.startNetwork network = .error f) :
    launch mode l false e network =
      { events := [.called (.startNetwork network), .failed (.startNetwork network) f]
        cancelled := false
        result := .error f } := by
  unfold launch
  rw [hplan]
  dsimp only
  rw [if_neg Bool.false_ne_true, hnetwork]
  rfl

/-- What is seen at the end of a launch. -/
def closingEvents (l : Launcher) (network : String) :
    Except Failure (List Instance) → List LaunchEvent
  | .ok _ => []
  | .error _ => stopEvents l network

/-- The calls at the end of a launch. -/
def closingCalls (network : String) : Except Failure (List Instance) → List Call
  | .ok _ => []
  | .error _ => [.stopNetwork network]

theorem calls_closingEvents (l : Launcher) (network : String)
    (result : Except Failure (List Instance)) :
    (closingEvents l network result).filterMap LaunchEvent.call? = closingCalls network result := by
  cases result with
  | ok is => rfl
  | error f =>
    show (stopEvents l network).filterMap LaunchEvent.call? = [.stopNetwork network]
    unfold stopEvents
    cases l.stopNetwork network with
    | ok _ => rfl
    | error g => rfl

/-- All that is seen at the end of a launch is of stopping the network. -/
theorem mem_closingEvents {result : Except Failure (List Instance)} {event : LaunchEvent}
    (h : event ∈ closingEvents l network result) :
    event = .called (.stopNetwork network) ∨ ∃ f, event = .failed (.stopNetwork network) f := by
  cases result with
  | ok is => cases h
  | error f =>
    rcases List.mem_cons.mp h with h | h
    · exact .inl h
    · cases hstop : l.stopNetwork network with
      | ok _ =>
        rw [hstop] at h
        cases h
      | error g =>
        rw [hstop] at h
        exact .inr ⟨g, List.mem_singleton.mp h⟩

/-- A launch with a plan and a network starts the groups of the plan. -/
theorem launch_of_startNetwork_ok (mode : LaunchMode) (hplan : e.plan = .ok p)
    (hnetwork : l.startNetwork network = .ok ()) :
    (launch mode l false e network).result =
        (startGroups l e network false (mode.groups p)).result ∧
      (launch mode l false e network).events = .called (.startNetwork network) ::
        ((startGroups l e network false (mode.groups p)).events ++
          closingEvents l network (startGroups l e network false (mode.groups p)).result) := by
  unfold launch
  rw [hplan]
  dsimp only
  rw [if_neg Bool.false_ne_true, hnetwork]
  refine ⟨rfl, ?_⟩
  dsimp only
  cases (startGroups l e network false (mode.groups p)).result with
  | ok is => rfl
  | error f => rfl

/-- What is seen in a launch, apart from its network, is seen among the starts. -/
theorem mem_launch_iff (mode : LaunchMode) (hplan : e.plan = .ok p)
    (hnetwork : l.startNetwork network = .ok ()) {event : LaunchEvent}
    (hopening : event ≠ .called (.startNetwork network))
    (hstop : event ≠ .called (.stopNetwork network))
    (hfailed : ∀ f, event ≠ .failed (.stopNetwork network) f) :
    event ∈ (launch mode l false e network).events ↔
      event ∈ (startGroups l e network false (mode.groups p)).events := by
  rw [(launch_of_startNetwork_ok mode hplan hnetwork).2, List.mem_cons, List.mem_append,
    or_iff_right hopening, or_iff_left]
  intro hclosing
  rcases mem_closingEvents hclosing with heq | ⟨f, heq⟩
  · exact hstop heq
  · exact hfailed f heq

/-- The services whose start is called in a launch are those of its groups. -/
theorem startCalls_launch (mode : LaunchMode) (hplan : e.plan = .ok p)
    (hnetwork : l.startNetwork network = .ok ()) :
    (launch mode l false e network).startCalls =
      (startGroups l e network false (mode.groups p)).startCalls := by
  have hclosing : ∀ result : Except Failure (List Instance),
      (closingCalls network result).filterMap Call.service? = [] := by
    intro result
    cases result with
    | ok is => rfl
    | error f => rfl
  have hopening : (LaunchEvent.called (.startNetwork network)).call? =
    some (.startNetwork network) := rfl
  rw [Progress.startCalls, Progress.calls, (launch_of_startNetwork_ok mode hplan hnetwork).2,
    List.filterMap_cons_some hopening, List.filterMap_append, calls_closingEvents,
    List.filterMap_cons_none rfl, List.filterMap_append, hclosing, List.append_nil]
  rfl

/-- A service whose start is seen in a launch is started between the start of the network and what
is seen at the end. -/
theorem split_starts {starts before after : List LaunchEvent} {name : String}
    {result : Except Failure (List Instance)}
    (h : .called (.startNetwork network) :: (starts ++ closingEvents l network result) =
      before ++ .called (.startService name network) :: after) :
    ∃ front behind, before = .called (.startNetwork network) :: front ∧
      starts = front ++ .called (.startService name network) :: behind := by
  cases before with
  | nil => cases h
  | cons first front =>
    rw [List.cons_append, List.cons.injEq] at h
    rcases split_append h.2 with ⟨behind, hstarts⟩ | ⟨back, -, hclosing⟩
    · exact ⟨front, behind, by rw [h.1], hstarts⟩
    · -- nothing at the end of a launch is the start of a service
      have hmem : .called (.startService name network) ∈ closingEvents l network result := by
        rw [hclosing]
        exact List.mem_append_right _ List.mem_cons_self
      rcases mem_closingEvents hmem with heq | ⟨f, heq⟩
      · cases heq
      · cases heq

/-- Around the starts of all services of a plan stand the start of the network and, if there is a
failure, its stop. -/
theorem runsPlan_of_launched {run starts : Progress (Except Failure (List Instance))}
    (hisOf : p.IsOf e) (hlaunched : Launched l e network p.order starts)
    (hdependencies : ∀ before name after,
      starts.events = before ++ .called (.startService name network) :: after →
        ∀ dep, e.DependsOn name dep → ∃ i, .started dep i ∈ before)
    (hresult : run.result = starts.result)
    (hevents : run.events = .called (.startNetwork network) ::
      (starts.events ++ closingEvents l network starts.result)) :
    RunsPlan l e network p run := by
  have hcalls : run.calls =
      .startNetwork network :: (starts.calls ++ closingCalls network starts.result) := by
    have hopening : (LaunchEvent.called (.startNetwork network)).call? =
      some (.startNetwork network) := rfl
    rw [Progress.calls, hevents, List.filterMap_cons_some hopening, List.filterMap_append,
      calls_closingEvents]
    rfl
  have hstarted : ∀ name i, .started name i ∈ run.events ↔ .started name i ∈ starts.events := by
    intro name i
    rw [hevents, List.mem_cons, List.mem_append]
    constructor
    · rintro (h | h | h)
      · cases h
      · exact h
      · rcases mem_closingEvents h with heq | ⟨f, heq⟩
        · cases heq
        · cases heq
    · exact fun h => .inr (.inl h)
  -- each field is read off the one of `Launched` that says the same of the starts alone
  refine { calls_of_ok := ?_, calls_of_error := ?_, dependencies := ?_, started := ?_,
           result_ok_iff := ?_, instances := ?_, failures := ?_ }
  · intro is his
    rw [hresult] at his
    rw [hcalls, (hlaunched.result_ok is his).1, his]
    exact congrArg _ (List.append_nil _)
  · intro f hf
    rw [hresult] at hf
    obtain ⟨begun, hprefix, hbegun⟩ := hlaunched.calls
    refine ⟨begun, hprefix, hisOf.order_nodup.sublist hprefix.sublist, ?_⟩
    rw [hcalls, hbegun, hf]
    rfl
  · intro before name after hsplit dep hdep
    rw [hevents] at hsplit
    obtain ⟨front, behind, rfl, hstarts⟩ := split_starts hsplit
    obtain ⟨i, hmem⟩ := hdependencies front name behind hstarts dep hdep
    exact ⟨i, List.mem_cons_of_mem _ hmem⟩
  · intro name i hmem
    exact (hlaunched.started name i ((hstarted name i).mp hmem)).2
  · rw [hresult, hlaunched.result_ok_iff]
    refine forall_congr' fun name => ?_
    rw [hisOf.perm.mem_iff]
    exact forall_congr' fun _ => exists_congr fun i => (hstarted name i).symm
  · intro is his
    rw [hresult] at his
    exact (hlaunched.result_ok is his).2.imp fun name i => (hstarted name i).mpr
  · intro f hf
    rw [hresult] at hf
    obtain ⟨-, failures, hcombines, haccounted⟩ := hlaunched.result_error f hf
    refine ⟨failures, hcombines, fun g hg => (haccounted g hg).mono (List.Subset.refl _) ?_⟩
    rw [hevents]
    exact List.Subset.trans (List.subset_append_left _ _) (List.subset_cons_self _ _)

/-- A launch with a plan and a network starts the services of the plan. -/
theorem runsPlan_launch (mode : LaunchMode) (hplan : e.plan = .ok p)
    (hnetwork : l.startNetwork network = .ok ()) :
    RunsPlan l e network p (launch mode l false e network) := by
  have hisOf : p.IsOf e := Environment.isOf_of_plan hplan
  have hflatten : (mode.groups p).flatten = p.order := p.flatten_groups mode
  have hdefined : e.Defines (mode.groups p).flatten := hflatten ▸ hisOf.defines_order
  have hnodup : (mode.groups p).flatten.Nodup := hflatten ▸ hisOf.order_nodup
  have hlaunched := launched_startGroups l network false hdefined hnodup
  rw [hflatten] at hlaunched
  obtain ⟨hresult, hevents⟩ := launch_of_startNetwork_ok mode hplan hnetwork
  refine runsPlan_of_launched hisOf hlaunched ?_ hresult hevents
  -- nothing is done before the first group, so that all needs have come back within the launch
  intro before name after hsplit dep hdep
  rcases startGroups_dependencies l network false hdefined hnodup (hisOf.staged_groups mode) hsplit
    hdep with hdone | hstarted
  · cases hdone
  · exact hstarted

/-! ## Stopping the network -/

/-- Two launchers that differ in nothing but how they stop a network begin any group alike. -/
theorem beginGroup_stopNetwork (l : Launcher) (e : Environment) (network : String)
    (cancelled : Bool) (names : List String) (stop : String → Except Failure Unit) :
    beginGroup { l with stopNetwork := stop } e network cancelled names =
      beginGroup l e network cancelled names := by
  induction names generalizing cancelled with
  | nil => rfl
  | cons name rest ih =>
    unfold beginGroup
    simp only [ih]

/-- What becomes of stopping the network does not change the starts of the services. -/
theorem startGroups_stopNetwork (l : Launcher) (e : Environment) (network : String)
    (cancelled : Bool) (groups : List (List String)) (stop : String → Except Failure Unit) :
    startGroups { l with stopNetwork := stop } e network cancelled groups =
      startGroups l e network cancelled groups := by
  induction groups generalizing cancelled with
  | nil => rfl
  | cons names rest ih =>
    have hgroup : startGroup { l with stopNetwork := stop } e network cancelled names =
        startGroup l e network cancelled names := by
      rw [startGroup, startGroup, beginGroup_stopNetwork]
    unfold startGroups
    dsimp only
    rw [hgroup, ih]

/-- What becomes of stopping the network does not change what a launch returns. -/
theorem launch_stopNetwork (mode : LaunchMode) (l : Launcher) (cancelled : Bool) (e : Environment)
    (network : String) (stop : String → Except Failure Unit) :
    (launch mode { l with stopNetwork := stop } cancelled e network).result =
      (launch mode l cancelled e network).result := by
  unfold launch
  cases e.plan with
  | error f => rfl
  | ok p =>
    dsimp only
    rw [startGroups_stopNetwork]
    split
    · rfl
    · cases l.startNetwork network with
      | error f => rfl
      | ok _ => rfl

end Launches

/-- **The protocol of a launch**, whatever the launcher does. Without a plan nothing is called.
Otherwise the network is started first, and nothing else is called if that fails. Otherwise the
services are started in the order of the plan, each behind all that it needs, and the network is
stopped at the end if any of them does not come back with an instance. What becomes of stopping the
network does not change what is returned. -/
theorem launch_protocol (mode : LaunchMode) (l : Launcher) (e : Environment) (network : String) :
    (∀ f, e.plan = .error f →
      (launch mode l false e network).result = .error f ∧
        (launch mode l false e network).calls = []) ∧
    (∀ p, e.plan = .ok p →
      (∀ f, l.startNetwork network = .error f →
        (launch mode l false e network).result = .error f ∧
          (launch mode l false e network).calls = [.startNetwork network]) ∧
      (l.startNetwork network = .ok () →
        RunsPlan l e network p (launch mode l false e network))) ∧
    ∀ stop, (launch mode { l with stopNetwork := stop } false e network).result =
      (launch mode l false e network).result := by
  refine ⟨fun f hplan => ?_, fun p hplan => ⟨fun f hnetwork => ?_, fun hnetwork => ?_⟩,
    fun stop => launch_stopNetwork mode l false e network stop⟩
  · rw [launch_of_plan_error hplan]
    exact ⟨rfl, rfl⟩
  · rw [launch_of_startNetwork_error hplan hnetwork]
    exact ⟨rfl, rfl⟩
  · exact runsPlan_launch mode hplan hnetwork

end StartOrder
