import Mathlib.Data.List.Forall2
import StartOrder.Launch.Run
import StartOrder.Proofs.Recipe.Dependencies

/-!
# What starts come to

A launch hands groups of services to a launcher: single services one after another, or whole layers.
This module says what becomes of one start, of one group, and of groups one after another; plans and
networks come later.

A group is begun in order, and all of it is begun before anything that came back is looked at. So a
group falls into two parts. The first is begun, up to and including a start that cancels the launch;
the second is refused, and counts as failures. `BegunUpTo` and `GroupRun` say all that `beginGroup`
and `startGroup` do to defined services in these terms, and `GroupsRun` says it of `startGroups`.
The modules behind this one take the relations apart and unfold none of the functions.

Two facts carry what follows. Gathering loses no failure and makes none up
(`combines_of_gather_eq_error`, `eq_map_of_gather_eq_ok`). And a group that comes back without a
failure was begun as a whole, since a service that was skipped would have left a failure
(`returns_of_groupOutcomes`): this is why `GroupsRun.passed` knows of no skipped services.
-/

namespace StartOrder

/-! ## What a launcher makes of a service -/

/-- A launcher returns an instance of a service that is defined. -/
def Launcher.Starts (l : Launcher) (e : Environment) (network name : String) (i : Instance) :
    Prop :=
  ∃ service, e.services.find? name = some service ∧
    (l.startService network name service).outcome = .started i

/-- A launcher fails to start a service that is defined. -/
def Launcher.Fails (l : Launcher) (e : Environment) (network name : String) (f : Failure) : Prop :=
  ∃ service, e.services.find? name = some service ∧
    (l.startService network name service).outcome = .failed f

/-- The launch is cancelled during the start of a service that is defined. -/
def Launcher.Cancels (l : Launcher) (e : Environment) (network name : String) : Prop :=
  ∃ service, e.services.find? name = some service ∧
    (l.startService network name service).cancels = true

/-- The start of a service that is defined goes on until the launch is cancelled. -/
def Launcher.Stalls (l : Launcher) (e : Environment) (network name : String) : Prop :=
  ∃ service, e.services.find? name = some service ∧
    (l.startService network name service).outcome = .stalled

theorem Launcher.Stalls.outcome_eq {l : Launcher} {e : Environment} {network name : String}
    (h : l.Stalls e network name) {service : Service}
    (hservice : e.services.find? name = some service) :
    (l.startService network name service).outcome = .stalled := by
  obtain ⟨other, hother, hstalled⟩ := h
  rw [hservice] at hother
  cases hother
  exact hstalled

theorem Launcher.Starts.not_stalls {l : Launcher} {e : Environment} {network name : String}
    {i : Instance} (h : l.Starts e network name i) : ¬l.Stalls e network name := by
  intro hstalls
  obtain ⟨service, hservice, hstarted⟩ := h
  rw [hstalls.outcome_eq hservice] at hstarted
  cases hstarted

theorem Launcher.Fails.not_stalls {l : Launcher} {e : Environment} {network name : String}
    {f : Failure} (h : l.Fails e network name f) : ¬l.Stalls e network name := by
  intro hstalls
  obtain ⟨service, hservice, hfailed⟩ := h
  rw [hstalls.outcome_eq hservice] at hfailed
  cases hfailed

/-- The start of a service does not leave the launch uncancelled. -/
def Launcher.Interrupts (l : Launcher) (e : Environment) (network name : String) : Prop :=
  l.Cancels e network name ∨ l.Stalls e network name

/-! ## Failures together -/

/-- A failure stands for some others: for one by being it, for several by listing them. -/
def Combines (failures : List Failure) (f : Failure) : Prop :=
  failures = [f] ∨ 2 ≤ failures.length ∧ f = .several failures

theorem Combines.ne_nil {failures : List Failure} {f : Failure} (h : Combines failures f) :
    failures ≠ [] := by
  rintro rfl
  rcases h with h | ⟨h, -⟩
  · cases h
  · cases h

/-- Outcomes without a failure are all instances. -/
theorem eq_map_of_failures_eq_nil {outcomes : List (Except Failure Instance)}
    (h : outcomes.filterMap failure? = []) :
    outcomes = (outcomes.filterMap Except.toOption).map .ok := by
  induction outcomes with
  | nil => rfl
  | cons head rest ih =>
    cases head with
    | error f => cases h
    | ok i =>
      show .ok i :: rest = .ok i :: (rest.filterMap Except.toOption).map .ok
      rw [← ih h]

/-- What is gathered without a failure is all that was gathered. -/
theorem eq_map_of_gather_eq_ok {outcomes : List (Except Failure Instance)} {is : List Instance}
    (h : gather outcomes = .ok is) : outcomes = is.map .ok := by
  unfold gather at h
  split at h
  · next hnone =>
    cases h
    exact eq_map_of_failures_eq_nil hnone
  · cases h
  · cases h

/-- What is gathered with a failure combines all failures. -/
theorem combines_of_gather_eq_error {outcomes : List (Except Failure Instance)} {f : Failure}
    (h : gather outcomes = .error f) : Combines (outcomes.filterMap failure?) f := by
  unfold gather at h
  split at h
  · cases h
  · next g hone =>
    cases h
    exact .inl hone
  · next fs hnone hmany =>
    cases h
    refine .inr ⟨?_, rfl⟩
    match hfs : outcomes.filterMap failure? with
    | [] => exact absurd hfs hnone
    | [g] => exact absurd hfs (hmany g)
    | _ :: _ :: _ => simp

theorem error_mem_of_mem_failures {outcomes : List (Except Failure Instance)} {f : Failure}
    (h : f ∈ outcomes.filterMap failure?) : .error f ∈ outcomes := by
  obtain ⟨outcome, hmem, houtcome⟩ := List.mem_filterMap.mp h
  cases outcome with
  | ok i => cases houtcome
  | error f =>
    cases houtcome
    exact hmem

example (f g : Failure) (i : Instance) :
    gather [.error f, .ok i, .error g] = .error (.several [f, g]) := rfl

/-- There is no failure among instances. -/
theorem failures_map_ok (is : List Instance) :
    (is.map (Except.ok : Instance → Except Failure Instance)).filterMap failure? = [] := by
  refine List.filterMap_eq_nil_iff.mpr fun outcome houtcome => ?_
  obtain ⟨i, -, rfl⟩ := List.mem_map.mp houtcome
  rfl

theorem gather_map_ok (is : List Instance) : gather (is.map .ok) = .ok is := by
  unfold gather
  rw [failures_map_ok]
  dsimp only
  rw [List.filterMap_map]
  exact congrArg _ List.filterMap_some

/-- The failures among some starts are those of the services that fail. The services are listed with
them, so that the two lists can be walked side by side. -/
theorem failures_of_outcomes (outcome : String → Except Failure Instance) (names : List String) :
    ∃ failing, failing.Sublist names ∧
      (∀ name, name ∈ failing ↔ name ∈ names ∧ ∃ f, outcome name = .error f) ∧
      List.Forall₂ (fun name f => outcome name = .error f) failing
        ((names.map outcome).filterMap failure?) := by
  induction names with
  | nil => exact ⟨[], .slnil, by simp, .nil⟩
  | cons head rest ih =>
    obtain ⟨failing, hsub, hmem, hfailures⟩ := ih
    -- the head joins the list exactly if its own start fails
    cases hhead : outcome head with
    | ok i =>
      refine ⟨failing, hsub.cons head, fun name => ?_, ?_⟩
      · rw [hmem, List.mem_cons]
        constructor
        · exact fun ⟨hname, hfails⟩ => ⟨.inr hname, hfails⟩
        · rintro ⟨rfl | hname, f, hf⟩
          · rw [hhead] at hf
            cases hf
          · exact ⟨hname, f, hf⟩
      · rw [List.map_cons, hhead]
        exact hfailures
    | error f =>
      refine ⟨head :: failing, hsub.cons_cons head, fun name => ?_, ?_⟩
      · rw [List.mem_cons, List.mem_cons, hmem]
        constructor
        · rintro (rfl | ⟨hname, hfails⟩)
          · exact ⟨.inl rfl, f, hhead⟩
          · exact ⟨.inr hname, hfails⟩
        · rintro ⟨rfl | hname, hfails⟩
          · exact .inl rfl
          · exact .inr ⟨hname, hfails⟩
      · rw [List.map_cons, hhead]
        exact .cons hhead hfailures

/-! ## What comes back of a start -/

/-- Only a start that returns an instance is seen to have started. -/
theorem event?_eq_started_iff {b : Begun} {network a name : String} {i : Instance} :
    b.event? network a = some (.started name i) ↔ a = name ∧ b = .returns (.ok i) := by
  rcases b with (_ | _) | _ | _ <;> simp [Begun.event?]

/-- Only a start that returns a failure is seen to have failed. -/
theorem event?_eq_failed_iff {b : Begun} {network a : String} {call : Call} {f : Failure} :
    b.event? network a = some (.failed call f) ↔
      .startService a network = call ∧ b = .returns (.error f) := by
  rcases b with (_ | _) | _ | _ <;> simp [Begun.event?]

/-- What comes back is no call. -/
theorem call?_of_event? {b : Begun} {network a : String} {event : LaunchEvent}
    (h : b.event? network a = some event) : event.call? = none := by
  rcases b with (_ | _) | _ | _
  all_goals cases h
  all_goals rfl

/-- A start that settles with an instance has returned it. -/
theorem settle_eq_ok_iff {b : Begun} {name : String} {i : Instance} :
    b.settle name = .ok i ↔ b = .returns (.ok i) := by
  rcases b with (_ | _) | _ | _ <;> simp [Begun.settle]

section Groups

variable {l : Launcher} {e : Environment} {network : String} {cancelled : Bool}
  {names : List String}

/-- What the start of a service begins, if it is asked for. -/
def Launcher.begunOf (l : Launcher) (e : Environment) (network name : String) : Begun :=
  match e.services.find? name with
  | some service => (l.startService network name service).begun
  | none => .refused (notDefined name)

/-- What the start of a service comes to. -/
def Launcher.outcomeOf (l : Launcher) (e : Environment) (network name : String) :
    Except Failure Instance :=
  (l.begunOf e network name).settle name

/-- Services that are all defined. -/
def Environment.Defines (e : Environment) (names : List String) : Prop :=
  ∀ name ∈ names, ∃ service, e.services.find? name = some service

/-- What is begun of a defined service is what the launcher makes of it. -/
theorem begunOf_of_defined (l : Launcher) (network : String) {name : String}
    (hdefined : ∃ service, e.services.find? name = some service) :
    ∃ service, e.services.find? name = some service ∧
      l.begunOf e network name = (l.startService network name service).begun := by
  obtain ⟨service, hservice⟩ := hdefined
  exact ⟨service, hservice, by rw [Launcher.begunOf, hservice]⟩

theorem starts_of_begunOf {name : String} {i : Instance}
    (hdefined : ∃ service, e.services.find? name = some service)
    (h : l.begunOf e network name = .returns (.ok i)) : l.Starts e network name i := by
  obtain ⟨service, hservice, hbegun⟩ := begunOf_of_defined l network hdefined
  refine ⟨service, hservice, ?_⟩
  rw [hbegun, Start.begun] at h
  split at h
  · next houtcome =>
    cases h
    exact houtcome
  · cases h
  · cases h

/-- A start fails with what the launcher says, or because it stalls and is given up. -/
theorem outcomeOf_eq_error_iff {name : String} {f : Failure}
    (hdefined : ∃ service, e.services.find? name = some service) :
    l.outcomeOf e network name = .error f ↔
      l.Fails e network name f ∨ l.Stalls e network name ∧ f = startCancelled name := by
  obtain ⟨service, hservice, hbegun⟩ := begunOf_of_defined l network hdefined
  unfold Launcher.Fails Launcher.Stalls
  rw [Launcher.outcomeOf, hbegun, hservice, Start.begun]
  cases houtcome : (l.startService network name service).outcome with
  | started i => simp [Begun.settle, houtcome]
  | failed g => simp [Begun.settle, houtcome]
  | stalled => simp [Begun.settle, houtcome, eq_comm]

theorem outcomeOf_ok_of_map {names : List String} {is : List Instance}
    (h : names.map (l.outcomeOf e network) = is.map .ok) {name : String} (hname : name ∈ names) :
    ∃ i, l.outcomeOf e network name = .ok i := by
  have hmem := List.mem_map_of_mem (f := l.outcomeOf e network) hname
  rw [h] at hmem
  obtain ⟨i, -, hi⟩ := List.mem_map.mp hmem
  exact ⟨i, hi.symm⟩

/-! ## How far a group is begun -/

/-- Behind a cancellation, no start is begun. -/
theorem beginGroup_of_isCancelled (hdefined : e.Defines names) :
    beginGroup l e network true names =
      { cancelled := true
        result := names.map fun name => (name, .refused (startCancelled name)) } := by
  induction names with
  | nil => rfl
  | cons name rest ih =>
    obtain ⟨⟨service, hservice⟩, hrest⟩ := List.forall_mem_cons.mp hdefined
    unfold beginGroup
    rw [hservice]
    dsimp only
    rw [if_pos rfl, ih hrest]
    rfl

theorem cancels_iff {name : String} {service : Service}
    (hservice : e.services.find? name = some service) :
    l.Cancels e network name ↔ (l.startService network name service).cancels = true := by
  constructor
  · rintro ⟨_, hfind, hcancels⟩
    rw [hservice] at hfind
    cases hfind
    exact hcancels
  · exact fun hcancels => ⟨service, hservice, hcancels⟩

/-- How far a group is begun: not at all behind a cancellation, and otherwise up to a start that
cancels the launch. -/
structure BegunUpTo (l : Launcher) (e : Environment) (network : String) (cancelled : Bool)
    (begun skipped : List String) : Prop where
  begun_eq_nil : cancelled = true → begun = []
  last_of_cancels : ∀ front name behind, begun = front ++ name :: behind →
    l.Cancels e network name → behind = []
  cancels_of_skipped : skipped ≠ [] → cancelled = true ∨ ∃ name ∈ begun, l.Cancels e network name

theorem BegunUpTo.nil (l : Launcher) (e : Environment) (network : String) (skipped : List String) :
    BegunUpTo l e network true [] skipped where
  begun_eq_nil _ := rfl
  last_of_cancels front name behind h := by simp at h
  cancels_of_skipped _ := .inl rfl

/-- Behind one start, the group is begun as it would be behind what the start left. -/
theorem BegunUpTo.cons {name : String} {service : Service} {begun skipped : List String}
    (hservice : e.services.find? name = some service)
    (h : BegunUpTo l e network (l.startService network name service).cancels begun skipped) :
    BegunUpTo l e network false (name :: begun) skipped where
  begun_eq_nil hfalse := absurd hfalse Bool.false_ne_true
  last_of_cancels front other behind hsplit hcancels := by
    rcases List.cons_eq_append_iff.mp hsplit with ⟨rfl, hhead⟩ | ⟨front, rfl, hrest⟩
    · rw [List.cons.injEq] at hhead
      obtain ⟨rfl, rfl⟩ := hhead
      exact h.begun_eq_nil ((cancels_iff hservice).mp hcancels)
    · exact h.last_of_cancels front other behind hrest hcancels
  cancels_of_skipped hskipped := by
    rcases h.cancels_of_skipped hskipped with hcancels | ⟨other, hother, hcancels⟩
    · exact .inr ⟨name, List.mem_cons_self, (cancels_iff hservice).mpr hcancels⟩
    · exact .inr ⟨other, List.mem_cons_of_mem _ hother, hcancels⟩

/-- A group is begun up to a cancellation; the rest of it is refused. The induction is on the group
and has to be for any token: one that is cancelled by the head is cancelled for the rest. -/
theorem beginGroup_of_defined (l : Launcher) (network : String) (cancelled : Bool)
    (hdefined : e.Defines names) :
    ∃ begun skipped, names = begun ++ skipped ∧ BegunUpTo l e network cancelled begun skipped ∧
      (beginGroup l e network cancelled names).events =
        begun.map (fun name => .called (.startService name network)) ∧
      (beginGroup l e network cancelled names).result =
        begun.map (fun name => (name, l.begunOf e network name)) ++
          skipped.map (fun name => (name, .refused (startCancelled name))) ∧
      ((beginGroup l e network cancelled names).cancelled = true ↔
        cancelled = true ∨ ∃ name ∈ begun, l.Cancels e network name) := by
  induction names generalizing cancelled with
  | nil =>
    refine ⟨[], [], rfl, ⟨fun _ => rfl, fun front name behind h => ?_, fun h => absurd rfl h⟩, rfl,
      rfl, ?_⟩
    · simp at h
    · simp [beginGroup]
  | cons name rest ih =>
    cases cancelled with
    | true =>
      -- all of the group is refused, so that nothing is begun
      rw [beginGroup_of_isCancelled hdefined]
      exact ⟨[], name :: rest, rfl, .nil l e network _, rfl, rfl, by simp⟩
    | false =>
      obtain ⟨⟨service, hservice⟩, hrest⟩ := List.forall_mem_cons.mp hdefined
      obtain ⟨begun, skipped, hnames, hupTo, hevents, hresult, hcancelled⟩ :=
        ih (l.startService network name service).cancels hrest
      have hbegun : l.begunOf e network name = (l.startService network name service).begun := by
        rw [Launcher.begunOf, hservice]
      refine ⟨name :: begun, skipped, by rw [hnames, List.cons_append], hupTo.cons hservice, ?_, ?_,
        ?_⟩
      · unfold beginGroup
        rw [hservice]
        dsimp only
        rw [if_neg Bool.false_ne_true, hevents]
        rfl
      · unfold beginGroup
        rw [hservice]
        dsimp only
        rw [if_neg Bool.false_ne_true, hresult, List.map_cons, hbegun]
        rfl
      · unfold beginGroup
        rw [hservice]
        dsimp only
        rw [if_neg Bool.false_ne_true, hcancelled, ← cancels_iff hservice,
          or_iff_right Bool.false_ne_true]
        simp only [List.mem_cons, exists_eq_or_imp]

/-! ## One group -/

/-- The events of a group of which some services were begun. -/
def groupEvents (l : Launcher) (e : Environment) (network : String) (begun : List String) :
    List LaunchEvent :=
  begun.map (fun name => .called (.startService name network)) ++
    begun.filterMap fun name => (l.begunOf e network name).event? network name

/-- The outcomes of a group of which some services were begun and others were not. -/
def groupOutcomes (l : Launcher) (e : Environment) (network : String)
    (begun skipped : List String) : List (Except Failure Instance) :=
  begun.map (fun name => (l.begunOf e network name).settle name) ++
    skipped.map fun name => .error (startCancelled name)

theorem isStalled_begunOf_iff {name : String} :
    (l.begunOf e network name).isStalled = true ↔ l.Stalls e network name := by
  unfold Launcher.begunOf Launcher.Stalls
  cases e.services.find? name with
  | none => simp [Begun.isStalled]
  | some service =>
    cases houtcome : (l.startService network name service).outcome <;>
      simp [Start.begun, Begun.isStalled, houtcome]

/-- What the starts of a group come to. What comes back is seen behind the calls, and the rest of
the group counts as given up. The launch is cancelled by what was begun, if it was not before. -/
structure GroupRun (l : Launcher) (e : Environment) (network : String) (cancelled : Bool)
    (begun skipped : List String) (p : Progress (Except Failure (List Instance))) : Prop where
  upTo : BegunUpTo l e network cancelled begun skipped
  events : p.events = groupEvents l e network begun
  result : p.result = gather (groupOutcomes l e network begun skipped)
  cancelled_iff : p.cancelled = true ↔
    cancelled = true ∨ ∃ name ∈ begun, l.Interrupts e network name

/-- A group is started up to a cancellation. -/
theorem startGroup_of_defined (l : Launcher) (network : String) (cancelled : Bool)
    (hdefined : e.Defines names) :
    ∃ begun skipped, names = begun ++ skipped ∧
      GroupRun l e network cancelled begun skipped (startGroup l e network cancelled names) := by
  obtain ⟨begun, skipped, hnames, hupTo, hevents, hresult, hcancelled⟩ :=
    beginGroup_of_defined l network cancelled hdefined
  -- a refused start leaves no event and does not stall, so that only what was begun is seen
  have hskipped : ((skipped.map fun name => (name, Begun.refused (startCancelled name))).filterMap
      fun start => start.2.event? network start.1) = [] := by
    refine List.filterMap_eq_nil_iff.mpr fun pair hpair => ?_
    obtain ⟨name, -, rfl⟩ := List.mem_map.mp hpair
    rfl
  have hstalled : ((beginGroup l e network cancelled names).result.any (·.2.isStalled)) = true ↔
      ∃ name ∈ begun, l.Stalls e network name := by
    rw [hresult, List.any_append, List.any_map, List.any_map, Bool.or_eq_true, List.any_eq_true]
    have hnone : ¬(skipped.any ((·.2.isStalled) ∘ fun name =>
        (name, Begun.refused (startCancelled name)))) = true := by
      simp [Begun.isStalled]
    rw [or_iff_left hnone]
    exact exists_congr fun name => and_congr_right fun _ => isStalled_begunOf_iff
  refine ⟨begun, skipped, hnames,
    { upTo := hupTo, events := ?_, result := ?_, cancelled_iff := ?_ }⟩
  · unfold startGroup
    dsimp only
    rw [hevents, hresult, List.filterMap_append, hskipped, List.append_nil, List.filterMap_map]
    rfl
  · unfold startGroup
    dsimp only
    rw [hresult, List.map_append, List.map_map, List.map_map]
    rfl
  · unfold startGroup
    dsimp only
    rw [Bool.or_eq_true, hcancelled, hstalled, or_assoc]
    refine or_congr_right ?_
    rw [← exists_or]
    exact exists_congr fun name => and_or_left.symm

theorem calls_groupEvents (l : Launcher) (e : Environment) (network : String)
    (begun : List String) :
    (groupEvents l e network begun).filterMap LaunchEvent.call? =
      begun.map (Call.startService · network) := by
  have hback : (begun.filterMap fun name =>
      (l.begunOf e network name).event? network name).filterMap LaunchEvent.call? = [] := by
    refine List.filterMap_eq_nil_iff.mpr fun event hevent => ?_
    obtain ⟨name, -, hname⟩ := List.mem_filterMap.mp hevent
    exact call?_of_event? hname
  rw [groupEvents, List.filterMap_append, hback, List.append_nil, List.filterMap_map]
  exact congrFun (List.filterMap_eq_map (f := (Call.startService · network))) begun

theorem started_mem_groupEvents {begun : List String} {name : String} {i : Instance} :
    .started name i ∈ groupEvents l e network begun ↔
      name ∈ begun ∧ l.begunOf e network name = .returns (.ok i) := by
  rw [groupEvents, List.mem_append, List.mem_filterMap]
  constructor
  · rintro (hcall | ⟨a, ha, hevent⟩)
    · obtain ⟨a, -, hcall⟩ := List.mem_map.mp hcall
      cases hcall
    · obtain ⟨rfl, hbegun⟩ := event?_eq_started_iff.mp hevent
      exact ⟨ha, hbegun⟩
  · rintro ⟨hmem, hbegun⟩
    exact .inr ⟨name, hmem, event?_eq_started_iff.mpr ⟨rfl, hbegun⟩⟩

/-- Starts that all settle with instances have returned them: a start that stalls settles with a
failure, and so does one that is refused. -/
theorem returns_of_settle {begun : List String} {is : List Instance}
    (h : begun.map (fun name => (l.begunOf e network name).settle name) = is.map .ok) :
    List.Forall₂ (fun name i => l.begunOf e network name = .returns (.ok i)) begun is := by
  have hequal : List.Forall₂ (· = ·)
      (begun.map fun name => (l.begunOf e network name).settle name) (is.map .ok) := by
    rw [h]
    exact List.forall₂_refl _
  rw [List.forall₂_map_left_iff, List.forall₂_map_right_iff] at hequal
  exact hequal.imp fun _ _ => settle_eq_ok_iff.mp

/-- Where all outcomes are instances, nothing was skipped: that would have left a failure. -/
theorem returns_of_groupOutcomes {begun skipped : List String} {is : List Instance}
    (h : groupOutcomes l e network begun skipped = is.map .ok) :
    skipped = [] ∧
      List.Forall₂ (fun name i => l.begunOf e network name = .returns (.ok i)) begun is := by
  have hskipped : skipped = [] := by
    refine List.eq_nil_iff_forall_not_mem.mpr fun name hname => ?_
    have hfailure : (.error (startCancelled name) : Except Failure Instance) ∈ is.map .ok := by
      rw [← h]
      exact List.mem_append_right _ (List.mem_map_of_mem hname)
    obtain ⟨i, -, hi⟩ := List.mem_map.mp hfailure
    cases hi
  subst hskipped
  rw [groupOutcomes, List.map_nil, List.append_nil] at h
  exact ⟨rfl, returns_of_settle h⟩

/-- A failure among the outcomes is that of a start that was begun, or of one that was skipped. -/
theorem error_mem_groupOutcomes {begun skipped : List String} {f : Failure}
    (h : .error f ∈ groupOutcomes l e network begun skipped) :
    (∃ name ∈ begun, (l.begunOf e network name).settle name = .error f) ∨
      ∃ name ∈ skipped, f = startCancelled name := by
  rcases List.mem_append.mp h with hmem | hmem
  · obtain ⟨name, hname, hsettle⟩ := List.mem_map.mp hmem
    exact .inl ⟨name, hname, hsettle⟩
  · obtain ⟨name, hname, hcancelled⟩ := List.mem_map.mp hmem
    exact .inr ⟨name, hname, (Except.error.inj hcancelled).symm⟩

/-! ## Groups one after another -/

/-- How groups are started one after another: up to the first that comes to a failure, each with
what the one before it left. -/
inductive GroupsRun (l : Launcher) (e : Environment) (network : String) :
    Bool → List (List String) → Progress (Except Failure (List Instance)) → Prop where
  | nil (cancelled : Bool) : GroupsRun l e network cancelled [] { cancelled, result := .ok [] }
  | failed {cancelled : Bool} {begun skipped : List String} {rest : List (List String)}
      {p : Progress (Except Failure (List Instance))} {f : Failure} :
      GroupRun l e network cancelled begun skipped p → p.result = .error f →
        GroupsRun l e network cancelled ((begun ++ skipped) :: rest) p
  | passed {cancelled : Bool} {names : List String} {rest : List (List String)}
      {p q : Progress (Except Failure (List Instance))} {is : List Instance} :
      GroupRun l e network cancelled names [] p → p.result = .ok is →
      GroupsRun l e network p.cancelled rest q →
        GroupsRun l e network cancelled (names :: rest)
          { events := p.events ++ q.events
            cancelled := q.cancelled
            result := q.result.map (is ++ ·) }

/-- Groups of defined services are started one after another. -/
theorem groupsRun_startGroups (l : Launcher) (network : String) (cancelled : Bool)
    {groups : List (List String)} (hdefined : e.Defines groups.flatten) :
    GroupsRun l e network cancelled groups (startGroups l e network cancelled groups) := by
  induction groups generalizing cancelled with
  | nil => exact .nil cancelled
  | cons names rest ih =>
    rw [List.flatten_cons] at hdefined
    obtain ⟨begun, skipped, rfl, hrun⟩ := startGroup_of_defined l network cancelled
      (fun name hname => hdefined name (List.mem_append_left _ hname))
    unfold startGroups
    dsimp only
    split
    · next f hf =>
      rw [← hf]
      exact .failed hrun hf
    · next is his =>
      -- a group without a failure was begun as a whole
      obtain ⟨rfl, -⟩ :=
        returns_of_groupOutcomes (eq_map_of_gather_eq_ok (hrun.result.symm.trans his))
      rw [List.append_nil] at hrun his ⊢
      exact .passed hrun his (ih _ fun name hname => hdefined name (List.mem_append_right _ hname))

end Groups

/-! ## The starts that were called -/

/-- The service that a call starts, if it starts one. -/
def Call.service? : Call → Option String
  | .startService name _ => some name
  | _ => none

/-- The services whose start was called, in order. -/
def Progress.startCalls {α : Type} (p : Progress α) : List String :=
  p.calls.filterMap Call.service?

theorem service?_map_startService (network : String) (names : List String) :
    (names.map (Call.startService · network)).filterMap Call.service? = names := by
  rw [List.filterMap_map]
  exact List.filterMap_some

theorem service?_flatMap_groupEvents (l : Launcher) (e : Environment) (network : String)
    (groups : List (List String)) :
    ((groups.flatMap (groupEvents l e network)).filterMap LaunchEvent.call?).filterMap
      Call.service? = groups.flatten := by
  induction groups with
  | nil => rfl
  | cons names rest ih =>
    rw [List.flatMap_cons, List.filterMap_append, List.filterMap_append, ih, calls_groupEvents,
      service?_map_startService, List.flatten_cons]

end StartOrder
