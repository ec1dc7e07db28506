import StartOrder.Proofs.Launch.Outcomes
import StartOrder.Proofs.Plan.Groups

/-!
# The starts of a launch

`Launched` collects what can be said of the starts of some services whatever their launcher does:
which calls were made, which instances have come back, and where the result comes from. It is made
to be put together. What holds of groups one after another follows from what holds of each, and
where a group fails the groups behind it only add services that were never asked for
(`Launched.append`, `Launched.append_of_error`). `launched_startGroups` is then an induction on the
groups with one of the two in each case.

`startGroups_dependencies` is the reason why plans are made: what a service needs has come back
before the service is started. Its induction carries the services that are done already. A group
that came back without a failure adds all its services to them, and a group with a failure is the
last one.
-/

namespace StartOrder

/-! ## One group -/

section Groups

variable {l : Launcher} {e : Environment} {network : String} {cancelled : Bool}
  {names : List String}

/-- A failure came back from a launcher, or is that of a start that was given up. There is no third
origin: a launch makes up no failure of its own behind its first start. -/
def Accounted (l : Launcher) (e : Environment) (network : String) (names : List String)
    (events : List LaunchEvent) (f : Failure) : Prop :=
  (∃ name ∈ names, .failed (.startService name network) f ∈ events ∧ l.Fails e network name f) ∨
    ∃ name ∈ names, f = startCancelled name

/-- What is known of the starts of some services, whatever the launcher does. -/
structure Launched (l : Launcher) (e : Environment) (network : String) (names : List String)
    (p : Progress (Except Failure (List Instance))) : Prop where
  calls : ∃ begun, begun <+: names ∧ p.calls = begun.map (Call.startService · network)
  started : ∀ name i, .started name i ∈ p.events → name ∈ names ∧ l.Starts e network name i
  result_ok : ∀ is, p.result = .ok is → p.calls = names.map (Call.startService · network) ∧
    List.Forall₂ (fun name i => .started name i ∈ p.events) names is
  result_error : ∀ f, p.result = .error f → (∃ name ∈ names, ∀ i, .started name i ∉ p.events) ∧
    ∃ failures, Combines failures f ∧ ∀ g ∈ failures, Accounted l e network names p.events g

/-- A failure that a start settles with is accounted for. -/
theorem accounted_of_settle {begun : List String} {name : String} {f : Failure}
    (hname : name ∈ begun) (hmem : name ∈ names)
    (hdefined : ∃ service, e.services.find? name = some service)
    (h : (l.begunOf e network name).settle name = .error f) :
    Accounted l e network names (groupEvents l e network begun) f := by
  obtain ⟨service, hservice, hbegun⟩ := begunOf_of_defined l network hdefined
  cases houtcome : (l.startService network name service).outcome with
  | started i =>
    rw [hbegun, Start.begun, houtcome] at h
    cases h
  | failed g =>
    -- the launcher came back with the failure, so that it stands among the events
    rw [Start.begun, houtcome] at hbegun
    rw [hbegun] at h
    cases h
    refine .inl ⟨name, hmem, List.mem_append_right _ ?_, service, hservice, houtcome⟩
    exact List.mem_filterMap.mpr ⟨name, hname, event?_eq_failed_iff.mpr ⟨rfl, hbegun⟩⟩
  | stalled =>
    rw [hbegun, Start.begun, houtcome] at h
    cases h
    exact .inr ⟨name, hmem, rfl⟩

/-- What is known of the starts of one group. -/
theorem launched_startGroup (l : Launcher) (network : String) (cancelled : Bool)
    (hdefined : e.Defines names) (hnodup : names.Nodup) :
    Launched l e network names (startGroup l e network cancelled names) := by
  obtain ⟨begun, skipped, rfl, -, hevents, hresult, -⟩ :=
    startGroup_of_defined l network cancelled hdefined
  have hcalls : (startGroup l e network cancelled (begun ++ skipped)).calls =
      begun.map (Call.startService · network) := by
    rw [Progress.calls, hevents, calls_groupEvents]
  have hstarted : ∀ name i,
      .started name i ∈ (startGroup l e network cancelled (begun ++ skipped)).events ↔
        name ∈ begun ∧ l.begunOf e network name = .returns (.ok i) := by
    intro name i
    rw [hevents, started_mem_groupEvents]
  refine { calls := ⟨begun, List.prefix_append _ _, hcalls⟩, started := ?_, result_ok := ?_,
           result_error := ?_ }
  · intro name i hmem
    obtain ⟨hbegun, hreturns⟩ := (hstarted name i).mp hmem
    have hname : name ∈ begun ++ skipped := List.mem_append_left _ hbegun
    exact ⟨hname, starts_of_begunOf (hdefined name hname) hreturns⟩
  · intro is his
    rw [hresult] at his
    -- no failure means that nothing was skipped, so that all of the group was called
    obtain ⟨rfl, hreturns⟩ := returns_of_groupOutcomes (eq_map_of_gather_eq_ok his)
    rw [hcalls]
    rw [List.append_nil] at hstarted ⊢
    refine ⟨rfl, ?_⟩
    have hmembers := (List.forall₂_and_left begun is).mpr ⟨fun _ hname => hname, hreturns⟩
    exact hmembers.imp fun name i => (hstarted name i).mpr
  · intro f hf
    rw [hresult] at hf
    have hcombines := combines_of_gather_eq_error hf
    refine ⟨?_, _, hcombines, fun g hg => ?_⟩
    · -- a failure is of a service that was begun and returned none, or that was not begun
      obtain ⟨g, hg⟩ := List.exists_mem_of_ne_nil _ hcombines.ne_nil
      rcases error_mem_groupOutcomes (error_mem_of_mem_failures hg) with
        ⟨name, hname, hsettle⟩ | ⟨name, hname, -⟩
      · refine ⟨name, List.mem_append_left _ hname, fun i hmem => ?_⟩
        rw [settle_eq_ok_iff.mpr ((hstarted name i).mp hmem).2] at hsettle
        cases hsettle
      · refine ⟨name, List.mem_append_right _ hname, fun i hmem => ?_⟩
        have hbegun : name ∈ begun := ((hstarted name i).mp hmem).1
        exact (List.nodup_append.mp hnodup).2.2 name hbegun name hname rfl
    · rcases error_mem_groupOutcomes (error_mem_of_mem_failures hg) with
        ⟨name, hname, hsettle⟩ | ⟨name, hname, hcancelled⟩
      · have hmem : name ∈ begun ++ skipped := List.mem_append_left _ hname
        rw [hevents]
        exact accounted_of_settle hname hmem (hdefined name hmem) hsettle
      · exact .inr ⟨name, List.mem_append_right _ hname, hcancelled⟩

end Groups

/-! ## Groups one after another -/

section Runs

variable {l : Launcher} {e : Environment} {network : String} {cancelled : Bool}
  {names rest : List String} {p q : Progress (Except Failure (List Instance))}

/-- What is accounted for is so among more services and by more events. -/
theorem Accounted.mono {f : Failure} {events more : List LaunchEvent}
    (h : Accounted l e network names events f) (hsubset : names ⊆ rest) (hmore : events ⊆ more) :
    Accounted l e network rest more f := by
  rcases h with ⟨name, hname, hfailed, hfails⟩ | ⟨name, hname, hcancelled⟩
  · exact .inl ⟨name, hsubset hname, hmore hfailed, hfails⟩
  · exact .inr ⟨name, hsubset hname, hcancelled⟩

/-- A service whose start was called is one of those that were to be started. -/
theorem Launched.mem_of_called (h : Launched l e network names p) {name : String}
    {before after : List LaunchEvent}
    (hcalled : p.events = before ++ .called (.startService name network) :: after) :
    name ∈ names := by
  obtain ⟨begun, hprefix, hcalls⟩ := h.calls
  have hcall : Call.startService name network ∈ p.calls := by
    refine List.mem_filterMap.mpr ⟨.called (.startService name network), ?_, rfl⟩
    rw [hcalled]
    exact List.mem_append_right _ List.mem_cons_self
  rw [hcalls] at hcall
  obtain ⟨other, hother, heq⟩ := List.mem_map.mp hcall
  cases heq
  exact hprefix.subset hother

/-- Behind starts without a failure, each service has come back with an instance. -/
theorem Launched.started_of_result_ok (h : Launched l e network names p) {is : List Instance}
    (his : p.result = .ok is) {name : String} (hname : name ∈ names) :
    ∃ i, .started name i ∈ p.events := by
  obtain ⟨i, -, hstarted⟩ := exists_mem_of_forall₂ (h.result_ok is his).2 hname
  exact ⟨i, hstarted⟩

/-- There is no failure exactly if each service has come back with an instance. -/
theorem Launched.result_ok_iff (h : Launched l e network names p) :
    (∃ is, p.result = .ok is) ↔ ∀ name ∈ names, ∃ i, .started name i ∈ p.events := by
  constructor
  · rintro ⟨is, his⟩ name hname
    exact h.started_of_result_ok his hname
  · intro hall
    cases hresult : p.result with
    | ok is => exact ⟨is, rfl⟩
    | error f =>
      obtain ⟨name, hname, hnot⟩ := (h.result_error f hresult).1
      obtain ⟨i, hstarted⟩ := hall name hname
      exact absurd hstarted (hnot i)

theorem Launched.nil (l : Launcher) (e : Environment) (network : String) (cancelled : Bool) :
    Launched l e network [] { cancelled, result := .ok [] } where
  calls := ⟨[], List.nil_prefix, rfl⟩
  started name i hmem := by cases hmem
  result_ok is his := by
    cases his
    exact ⟨rfl, .nil⟩
  result_error f hf := by cases hf

/-- Behind starts with a failure, the services that were to be started next are left alone. -/
theorem Launched.append_of_error (h : Launched l e network names p) {f : Failure}
    (hf : p.result = .error f) : Launched l e network (names ++ rest) p where
  calls := by
    obtain ⟨begun, hprefix, hcalls⟩ := h.calls
    exact ⟨begun, hprefix.trans (List.prefix_append _ _), hcalls⟩
  started name i hmem := by
    obtain ⟨hname, hstarts⟩ := h.started name i hmem
    exact ⟨List.mem_append_left _ hname, hstarts⟩
  result_ok is his := by
    rw [hf] at his
    cases his
  result_error g hg := by
    obtain ⟨⟨name, hname, hnot⟩, failures, hcombines, haccounted⟩ := h.result_error g hg
    refine ⟨⟨name, List.mem_append_left _ hname, hnot⟩, failures, hcombines, fun a ha => ?_⟩
    exact (haccounted a ha).mono (List.subset_append_left _ _) (List.Subset.refl _)

/-- Behind starts that all came back with instances come those of further services. -/
theorem Launched.append (h : Launched l e network names p) (h' : Launched l e network rest q)
    (hnodup : (names ++ rest).Nodup) {is : List Instance} (his : p.result = .ok is) :
    Launched l e network (names ++ rest)
      { events := p.events ++ q.events
        cancelled := q.cancelled
        result := q.result.map (is ++ ·) } := by
  obtain ⟨hcalls, hinstances⟩ := h.result_ok is his
  have happend : (p.events ++ q.events).filterMap LaunchEvent.call? = p.calls ++ q.calls :=
    List.filterMap_append
  refine { calls := ?_, started := ?_, result_ok := ?_, result_error := ?_ }
  · obtain ⟨begun, hprefix, hcalls'⟩ := h'.calls
    refine ⟨names ++ begun, (List.prefix_append_right_inj names).mpr hprefix, ?_⟩
    rw [Progress.calls, happend, hcalls, hcalls', List.map_append]
  · intro name i hmem
    rcases List.mem_append.mp hmem with hmem | hmem
    · exact ⟨List.mem_append_left _ (h.started name i hmem).1, (h.started name i hmem).2⟩
    · exact ⟨List.mem_append_right _ (h'.started name i hmem).1, (h'.started name i hmem).2⟩
  · intro js hjs
    cases hq : q.result with
    | error f =>
      rw [hq] at hjs
      cases hjs
    | ok is' =>
      rw [hq] at hjs
      cases hjs
      obtain ⟨hcalls', hinstances'⟩ := h'.result_ok is' hq
      refine ⟨by rw [Progress.calls, happend, hcalls, hcalls', List.map_append], ?_⟩
      refine List.rel_append (hinstances.imp ?_) (hinstances'.imp ?_)
      · exact fun name i hmem => List.mem_append_left _ hmem
      · exact fun name i hmem => List.mem_append_right _ hmem
  · intro f hf
    cases hq : q.result with
    | ok is' =>
      rw [hq] at hf
      cases hf
    | error g =>
      rw [hq] at hf
      cases hf
      obtain ⟨⟨name, hname, hnot⟩, failures, hcombines, haccounted⟩ := h'.result_error f hq
      refine ⟨⟨name, List.mem_append_right _ hname, fun i hmem => ?_⟩, failures, hcombines,
        fun a ha => (haccounted a ha).mono (List.subset_append_right _ _)
          (List.subset_append_right _ _)⟩
      rcases List.mem_append.mp hmem with hmem | hmem
      · -- the services started before are others
        exact (List.nodup_append.mp hnodup).2.2 name (h.started name i hmem).1 name hname rfl
      · exact hnot i hmem

/-- What is known of the starts of groups one after another. The induction is on the groups; a
failure ends them. -/
theorem launched_startGroups (l : Launcher) (network : String) (cancelled : Bool)
    {groups : List (List String)} (hdefined : e.Defines groups.flatten)
    (hnodup : groups.flatten.Nodup) :
    Launched l e network groups.flatten (startGroups l e network cancelled groups) := by
  induction groups generalizing cancelled with
  | nil => exact Launched.nil l e network cancelled
  | cons names rest ih =>
    rw [List.flatten_cons] at hdefined hnodup ⊢
    obtain ⟨hnodupNames, hnodupRest, -⟩ := List.nodup_append.mp hnodup
    have hgroup := launched_startGroup l network cancelled
      (fun name hname => hdefined name (List.mem_append_left _ hname)) hnodupNames
    unfold startGroups
    dsimp only
    split
    · -- a failure of the first group leaves the other groups alone
      next f hf =>
      rw [← hf]
      exact hgroup.append_of_error hf
    · next is his =>
      refine hgroup.append (ih _ ?_ hnodupRest) hnodup his
      exact fun name hname => hdefined name (List.mem_append_right _ hname)

/-- **A service is started behind all that it needs.** What a service needs was done before all
groups, or has come back before the service is started. The induction is on the groups: those of a
group that came back without a failure are done for the groups behind it. -/
theorem startGroups_dependencies (l : Launcher) (network : String) (cancelled : Bool)
    {groups : List (List String)} {done : List String} (hdefined : e.Defines groups.flatten)
    (hnodup : groups.flatten.Nodup) (hstaged : Staged e.DependsOn done groups)
    {before after : List LaunchEvent} {name : String}
    (h : (startGroups l e network cancelled groups).events =
      before ++ .called (.startService name network) :: after)
    {dep : String} (hdep : e.DependsOn name dep) :
    dep ∈ done ∨ ∃ i, .started dep i ∈ before := by
  induction groups generalizing cancelled done before with
  | nil =>
    cases before with
    | nil => cases h
    | cons _ _ => cases h
  | cons names rest ih =>
    obtain ⟨hfirst, hlater⟩ := hstaged
    rw [List.flatten_cons] at hdefined hnodup
    obtain ⟨hnodupNames, hnodupRest, -⟩ := List.nodup_append.mp hnodup
    have hgroup := launched_startGroup l network cancelled
      (fun name hname => hdefined name (List.mem_append_left _ hname)) hnodupNames
    unfold startGroups at h
    dsimp only at h
    split at h
    · -- behind a failure there is the first group alone, and what it needs was done before it
      exact .inl (hfirst name (hgroup.mem_of_called h) dep hdep)
    · next is his =>
      rcases split_append h with ⟨behind, hcalled⟩ | ⟨front, rfl, hrest⟩
      · exact .inl (hfirst name (hgroup.mem_of_called hcalled) dep hdep)
      · rcases ih _ (fun name hname => hdefined name (List.mem_append_right _ hname)) hnodupRest
          hlater hrest with hdone | ⟨i, hstarted⟩
        · rcases List.mem_append.mp hdone with hdone | hname
          · exact .inl hdone
          · -- what is needed was in the first group, which has come back without a failure
            obtain ⟨i, hstarted⟩ := hgroup.started_of_result_ok his hname
            exact .inr ⟨i, List.mem_append_left _ hstarted⟩
        · exact .inr ⟨i, List.mem_append_right _ hstarted⟩

end Runs

end StartOrder
