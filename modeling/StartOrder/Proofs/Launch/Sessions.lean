import StartOrder.Launch.Session
import StartOrder.Proofs.Launch.Cancellation

/-!
# Sessions of one driver

All that a step leaves to the steps behind it is whether the driver is cancelled. The token of a
driver depends on nothing, and there are only two such tokens, so that a driver that is not
cancelled is as good as a fresh one (`token_run_root`); this is what makes a session of any length
as simple as its steps.

`LaunchStep.Interrupts` reads off a step and its answer whether it cancels the driver, and
`run_cancelled_iff` says that the token agrees. By induction on a session, what a step finds is a
cancelled driver exactly if one of the steps before it interrupts (`exists_found_of_split`). Most of
`session_cancellation` is read off that. Its last part, that cancelling a child is of no
consequence, follows from what any steps leave being a token and nothing else
(`exists_runSession_append`).
-/

namespace StartOrder

/-! ## One step -/

/-- The services whose start was called in a step. -/
def LaunchAnswer.startCalls (answer : LaunchAnswer) : List String :=
  answer.calls.filterMap Call.service?

namespace LaunchStep

/-- Whether a step launches something. -/
def isLaunch : LaunchStep → Bool
  | .launch .. | .launchRecipe .. => true
  | .cancel | .cancelChild => false

/-- A step cancels the driver: it is there to do so, or it called a start that cancels the driver or
stalls. -/
def Interrupts (step : LaunchStep) (answer : LaunchAnswer) : Prop :=
  match step with
  | .launch launcher environment network =>
    ∃ name ∈ answer.startCalls, launcher.Interrupts environment network name
  | .launchRecipe launcher loader web current descriptor network =>
    ∃ environment, (loader.read web current descriptor).result = .ok environment ∧
      ∃ name ∈ answer.startCalls, launcher.Interrupts environment network name
  | .cancel => True
  | .cancelChild => False

section Steps

variable {mode : LaunchMode} {token : CancellationToken}

/-- A launch of a driver cancels it as the launch itself is cancelled. -/
theorem runLaunch_cancelled_iff (mode : LaunchMode) (token : CancellationToken) (l : Launcher)
    (e : Environment) (network : String) :
    (runLaunch mode token l e network).cancelled = true ↔ token.isCancelled = true ∨
      ∃ name ∈ (runLaunch mode token l e network).startCalls, l.Interrupts e network name := by
  have hlaunch := launch_cancelled_iff mode l token.isCancelled e network
  have hcancelled : (runLaunch mode token l e network).cancelled =
      ((StartOrder.launch mode l token.isCancelled e network).cancelled || token.isCancelled) := by
    unfold runLaunch LaunchAnswer.cancelled
    dsimp only
    cases (StartOrder.launch mode l token.isCancelled e network).cancelled with
    | true => simp
    | false => simp
  rw [hcancelled, Bool.or_eq_true, or_iff_left_of_imp fun h => hlaunch.mpr (.inl h)]
  exact hlaunch

/-- A driver is cancelled behind a step if it was before, or if the step cancels it. -/
theorem run_cancelled_iff (mode : LaunchMode) (token : CancellationToken) (step : LaunchStep) :
    (step.run mode token).cancelled = true ↔
      token.isCancelled = true ∨ step.Interrupts (step.run mode token) := by
  cases step with
  | launch l e network => exact runLaunch_cancelled_iff mode token l e network
  | launchRecipe l loader web current descriptor network =>
    unfold run Interrupts
    dsimp only
    cases htoken : token.isCancelled with
    | true => simp [LaunchAnswer.cancelled, htoken]
    | false =>
      rw [if_neg Bool.false_ne_true, or_iff_right Bool.false_ne_true]
      cases loader.read web current descriptor with
      | mk requests result =>
        cases result with
        | error f => simp [LaunchAnswer.cancelled, htoken]
        | ok e =>
          -- the recipe is read once, so that the launch is that of the environment it gave
          have hlaunch := runLaunch_cancelled_iff mode token l e network
          rw [htoken, or_iff_right Bool.false_ne_true] at hlaunch
          constructor
          · exact fun hcancelled => ⟨e, rfl, hlaunch.mp hcancelled⟩
          · rintro ⟨_, hread, hinterrupts⟩
            cases hread
            exact hlaunch.mpr hinterrupts
  | cancel => simp [run, Interrupts, LaunchAnswer.cancelled]
  | cancelChild => simp [run, Interrupts, LaunchAnswer.cancelled]

/-- A driver that is cancelled launches nothing. -/
theorem run_of_isCancelled (mode : LaunchMode) {step : LaunchStep} (hlaunch : step.isLaunch = true)
    (htoken : token.isCancelled = true) :
    (step.run mode token).calls = [] ∧ (step.run mode token).requests = [] ∧
      ∃ f, (step.run mode token).result = some (.error f) := by
  cases step with
  | launch l e network =>
    obtain ⟨f, hf⟩ := launch_of_isCancelled mode l e network
    unfold run runLaunch
    dsimp only
    rw [htoken, hf]
    exact ⟨rfl, rfl, f, rfl⟩
  | launchRecipe l loader web current descriptor network =>
    unfold run
    dsimp only
    rw [if_pos htoken]
    exact ⟨rfl, rfl, _, rfl⟩
  | cancel => cases hlaunch
  | cancelChild => cases hlaunch

/-- The token that a step leaves depends on nothing, if the one that it finds does not. -/
theorem token_run_root (mode : LaunchMode) (cancelled : Bool) (step : LaunchStep) :
    (step.run mode (.root cancelled)).token =
      .root (step.run mode (.root cancelled)).cancelled := by
  have hlaunch : ∀ l e network, (runLaunch mode (.root cancelled) l e network).token =
      .root (runLaunch mode (.root cancelled) l e network).token.isCancelled := by
    intro l e network
    unfold runLaunch
    dsimp only
    split
    · rfl
    · rfl
  -- a recipe that is not read, and one that is not asked for, leave the token as it was
  unfold LaunchAnswer.cancelled
  cases step with
  | launch l e network => exact hlaunch l e network
  | launchRecipe l loader web current descriptor network =>
    unfold run
    dsimp only
    split
    · rfl
    · split
      · rfl
      · next e _ => exact hlaunch l e network
  | cancel => rfl
  | cancelChild => rfl

end Steps

end LaunchStep

/-! ## Sessions -/

/-- The steps of a session, each with what it came to. -/
def transcript (mode : LaunchMode) (token : CancellationToken) (steps : List LaunchStep) :
    List (LaunchStep × LaunchAnswer) :=
  steps.zip (runSession mode token steps)

/-- Some step cancels the driver. -/
def Interrupted (runs : List (LaunchStep × LaunchAnswer)) : Prop :=
  ∃ run ∈ runs, run.1.Interrupts run.2

section Sessions

variable {mode : LaunchMode} {steps : List LaunchStep}
  {before after : List (LaunchStep × LaunchAnswer)} {step : LaunchStep} {answer : LaunchAnswer}

theorem length_runSession (mode : LaunchMode) (token : CancellationToken)
    (steps : List LaunchStep) : (runSession mode token steps).length = steps.length := by
  induction steps generalizing token with
  | nil => rfl
  | cons step rest ih =>
    rw [runSession, List.length_cons, List.length_cons, ih]

/-- What steps leave to those behind them is a token. -/
theorem exists_runSession_append (mode : LaunchMode) (token : CancellationToken)
    (before : List LaunchStep) :
    ∃ found, ∀ after, runSession mode token (before ++ after) =
      runSession mode token before ++ runSession mode found after := by
  induction before generalizing token with
  | nil => exact ⟨token, fun _ => rfl⟩
  | cons step rest ih =>
    obtain ⟨found, hfound⟩ := ih (step.run mode token).token
    exact ⟨found, fun after => congrArg _ (hfound after)⟩

/-- A step finds a driver that is cancelled if it was cancelled at first, or by the steps before.
The induction is on the steps of the session. -/
theorem exists_found_of_split {cancelled : Bool}
    (h : transcript mode (.root cancelled) steps = before ++ (step, answer) :: after) :
    ∃ found, (found = true ↔ cancelled = true ∨ Interrupted before) ∧
      answer = step.run mode (.root found) := by
  induction steps generalizing cancelled before with
  | nil => simp [transcript] at h
  | cons first rest ih =>
    have hcons : transcript mode (.root cancelled) (first :: rest) =
        (first, first.run mode (.root cancelled)) ::
          transcript mode (.root (first.run mode (.root cancelled)).cancelled) rest := by
      rw [← LaunchStep.token_run_root]
      rfl
    rw [hcons] at h
    rcases List.cons_eq_append_iff.mp h with ⟨rfl, hhead⟩ | ⟨between, rfl, hrest⟩
    · -- the first step finds the driver as it was
      rw [List.cons.injEq, Prod.mk.injEq] at hhead
      obtain ⟨⟨rfl, rfl⟩, -⟩ := hhead
      exact ⟨cancelled, by simp [Interrupted], rfl⟩
    · obtain ⟨found, hfound, hanswer⟩ := ih hrest
      refine ⟨found, ?_, hanswer⟩
      rw [hfound, LaunchStep.run_cancelled_iff, or_assoc]
      simp [Interrupted, CancellationToken.isCancelled]

/-- A driver is cancelled behind a step of a session if that step or an earlier one cancels it. -/
theorem cancelled_iff_of_split
    (h : transcript mode .fresh steps = before ++ (step, answer) :: after) :
    answer.cancelled = true ↔ Interrupted (before ++ [(step, answer)]) := by
  obtain ⟨found, hfound, rfl⟩ := exists_found_of_split h
  rw [LaunchStep.run_cancelled_iff, CancellationToken.isCancelled, hfound,
    or_iff_right Bool.false_ne_true]
  simp [Interrupted, or_and_right, exists_or]

end Sessions

/-- **What the steps of a session come to**, by a driver that is fresh at first. Each step has an
answer. The driver is cancelled behind a step exactly if that step or an earlier one cancels it,
then stays so, and all that depends on it is cancelled with it. Behind such a step a launch calls
nothing, requests nothing and fails; otherwise any step comes to what it does by a fresh driver. To
cancel something that depends on the driver makes no difference to the steps behind. -/
theorem session_cancellation (mode : LaunchMode) (steps : List LaunchStep) :
    (transcript mode .fresh steps).map Prod.fst = steps ∧
    (∀ before step answer after,
      transcript mode .fresh steps = before ++ (step, answer) :: after →
        (answer.cancelled = true ↔ Interrupted (before ++ [(step, answer)])) ∧
        answer.childCancelled = answer.cancelled ∧
        (answer.cancelled = true → ∀ run ∈ after, run.2.cancelled = true) ∧
        (Interrupted before → step.isLaunch = true →
          answer.calls = [] ∧ answer.requests = [] ∧ ∃ f, answer.result = some (.error f)) ∧
        (¬Interrupted before → answer = step.run mode .fresh)) ∧
    ∀ before after, steps = before ++ .cancelChild :: after →
      ∃ answer later,
        runSession mode .fresh steps = runSession mode .fresh before ++ answer :: later ∧
          runSession mode .fresh (before ++ after) = runSession mode .fresh before ++ later := by
  refine ⟨List.map_fst_zip (Nat.le_of_eq (length_runSession mode .fresh steps).symm),
    fun before step answer after h => ⟨cancelled_iff_of_split h,
      CancellationToken.isCancelled_childToken _, fun hcancelled run hrun => ?_, ?_, ?_⟩,
    fun before after hsteps => ?_⟩
  · -- what cancels the driver behind a step is still before the steps behind
    obtain ⟨between, rest, rfl⟩ := List.append_of_mem hrun
    obtain ⟨cause, hcause, hinterrupts⟩ := (cancelled_iff_of_split h).mp hcancelled
    rw [List.append_cons, ← List.append_assoc] at h
    refine (cancelled_iff_of_split h).mpr ⟨cause, ?_, hinterrupts⟩
    exact List.mem_append_left _ (List.mem_append_left _ hcause)
  · intro hinterrupted hlaunch
    obtain ⟨found, hfound, rfl⟩ := exists_found_of_split h
    exact LaunchStep.run_of_isCancelled mode hlaunch (hfound.mpr (.inr hinterrupted))
  · intro hnot
    obtain ⟨found, hfound, rfl⟩ := exists_found_of_split h
    -- a token that depends on nothing and is not cancelled is that of a fresh driver
    cases found with
    | true => exact absurd ((hfound.mp rfl).resolve_left Bool.false_ne_true) hnot
    | false => rfl
  · subst hsteps
    obtain ⟨found, hfound⟩ := exists_runSession_append mode .fresh before
    exact ⟨_, runSession mode found after, hfound (.cancelChild :: after), hfound after⟩

end StartOrder
