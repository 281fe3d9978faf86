import Nexolab.BreakerBackoff
import Nexolab.SchedulerDeadlines

/-!
# The maps of the scheduler

Jobs, endpoints and counters are three maps.  An installation rebuilds the first
two and fills the third; a selection, a completion and the recovery of a worker
look entries up in them and replace entries they have found.  A poll which is in
flight during an installation looks its target up again when it completes.
-/

namespace Nexolab

def SchedulerError.isKeyError : SchedulerError → Bool
  | .missingEndpoint _ => true
  | .missingMetrics _ => true
  | .missingJob _ => true
  | .cooldownOverflow => false

namespace Scheduler

def advanceOverdue (busId : String) (now : ℚ) :
    List String → Scheduler → Scheduler × Option SchedulerError
  | [], scheduler => (scheduler, none)
  | targetId :: rest, scheduler =>
    match scheduler.jobs targetId with
    | none => advanceOverdue busId now rest scheduler
    | some job =>
      match scheduler.endpointOf job.target, scheduler.metricsOf busId with
      | .error error, _ => (scheduler, some error)
      | _, .error error => (scheduler, some error)
      | .ok endpoint, .ok metrics =>
        if now < endpoint.cooldownUntil ∨ now < job.nextDeadline then
          advanceOverdue busId now rest scheduler
        else
          let interval := job.target.intervalSeconds
          let skipped := (⌊(now - job.nextDeadline) / interval⌋ + 1).toNat
          let advanced : Job := { job with
            nextDeadline := job.nextDeadline + skipped * interval }
          advanceOverdue busId now rest
            ((scheduler.setJob targetId (some advanced)).setMetrics busId
              (metrics.observeSkipped skipped))

def advanceOverdueDeadlines (scheduler : Scheduler) (busId : String) (now : ℚ) :
    Scheduler × Option SchedulerError :=
  match scheduler.metricsOf busId with
  | .error error => (scheduler, some error)
  | .ok _ => advanceOverdue busId now (scheduler.busJobs busId) scheduler

end Scheduler

inductive SupervisedAction where
  | scheduled (action : SchedulerAction)
  | recover (busId : String) (now : ℚ)

namespace SchedulerSystem

def supervisedStep (state : SchedulerSystem) :
    SupervisedAction → Option SchedulerSystem
  | .scheduled action => state.step action
  | .recover busId now =>
    match state.inFlight busId with
    | some _ => none
    | none =>
      if state.clock ≤ now then
        some { state with
          scheduler := (state.scheduler.advanceOverdueDeadlines busId now).1
          clock := now }
      else none

end SchedulerSystem

def SupervisedAction.PlacedBy (placement : String → String × ℕ) :
    SupervisedAction → Prop
  | .scheduled action => action.PlacedBy placement
  | .recover _ _ => True

namespace Scheduler

/-- No key is lost, and the job of a target stays a job of that target. -/
structure KeepsKeys (before after : Scheduler) : Prop where
  busJobs_eq : after.busJobs = before.busJobs
  endpoints_present : ∀ key, (before.endpoints key).isSome → (after.endpoints key).isSome
  metrics_present : ∀ busId, (before.metrics busId).isSome → (after.metrics busId).isSome
  jobs_present : ∀ targetId, (before.jobs targetId).isSome → (after.jobs targetId).isSome
  jobs_target : ∀ targetId job, after.jobs targetId = some job →
    ∃ old, before.jobs targetId = some old ∧ job.target = old.target

namespace KeepsKeys

variable {first second third : Scheduler}

theorem refl (scheduler : Scheduler) : KeepsKeys scheduler scheduler :=
  ⟨rfl, fun _ h => h, fun _ h => h, fun _ h => h, fun _ job hjob => ⟨job, hjob, rfl⟩⟩

theorem trans (hfirst : KeepsKeys first second) (hsecond : KeepsKeys second third) :
    KeepsKeys first third where
  busJobs_eq := hsecond.busJobs_eq.trans hfirst.busJobs_eq
  endpoints_present key hsome :=
    hsecond.endpoints_present key (hfirst.endpoints_present key hsome)
  metrics_present busId hsome :=
    hsecond.metrics_present busId (hfirst.metrics_present busId hsome)
  jobs_present targetId hsome :=
    hsecond.jobs_present targetId (hfirst.jobs_present targetId hsome)
  jobs_target targetId job hjob := by
    obtain ⟨middle, hmiddle, htarget⟩ := hsecond.jobs_target targetId job hjob
    obtain ⟨old, hold, hsame⟩ := hfirst.jobs_target targetId middle hmiddle
    exact ⟨old, hold, htarget.trans hsame⟩

theorem isSome_update {κ α : Type} [DecidableEq κ] {map : κ → Option α} {key : κ}
    (value : α) (other : κ) (hsome : (map other).isSome) :
    (Function.update map key (some value) other).isSome := by
  by_cases hsame : other = key
  · rw [hsame, Function.update_self]
    rfl
  · rw [Function.update_of_ne hsame]
    exact hsome

theorem setMetrics (scheduler : Scheduler) (busId : String) (metrics : BusSchedulerMetrics) :
    KeepsKeys scheduler (scheduler.setMetrics busId metrics) :=
  ⟨rfl, fun _ h => h, fun other hsome => isSome_update metrics other hsome,
    fun _ h => h, fun _ job hjob => ⟨job, hjob, rfl⟩⟩

theorem setEndpoint (scheduler : Scheduler) (key : String × ℕ) (endpoint : Endpoint) :
    KeepsKeys scheduler (scheduler.setEndpoint key endpoint) :=
  ⟨rfl, fun other hsome => isSome_update endpoint other hsome, fun _ h => h,
    fun _ h => h, fun _ job hjob => ⟨job, hjob, rfl⟩⟩

theorem retimed {scheduler : Scheduler} {targetId : String} {old : Job}
    (hold : scheduler.jobs targetId = some old) (nextDeadline : ℚ) :
    KeepsKeys scheduler (scheduler.setJob targetId (some { old with nextDeadline })) := by
  refine ⟨rfl, fun _ h => h, fun _ h => h, fun other hsome => isSome_update _ other hsome, ?_⟩
  intro other found hfound
  by_cases hsame : other = targetId
  · rw [hsame, setJob_self, Option.some.injEq] at hfound
    rw [hsame, ← hfound]
    exact ⟨old, hold, rfl⟩
  · rw [setJob_of_ne _ _ hsame] at hfound
    exact ⟨found, hfound, rfl⟩

end KeepsKeys

theorem deferSiblings_keepsKeys (unitId : ℕ) (cooldownUntil : ℚ)
    (targetIds : List String) (scheduler : Scheduler) (deferred : ℕ) :
    KeepsKeys scheduler (deferSiblings unitId cooldownUntil targetIds (scheduler, deferred)).1 := by
  induction targetIds generalizing scheduler deferred with
  | nil => exact .refl scheduler
  | cons first rest ih =>
    unfold deferSiblings
    dsimp only
    split
    · exact .refl scheduler
    next candidate hfirst =>
      split_ifs
      · exact (KeepsKeys.retimed hfirst _).trans (ih _ _)
      · exact ih scheduler deferred

theorem recordOutcome_keepsKeys (scheduler : Scheduler) (target : SchedulerTarget)
    (metrics : BusSchedulerMetrics) (endpoint : Endpoint) (completed : ℚ) (failed : Bool) :
    KeepsKeys scheduler (scheduler.recordOutcome target metrics endpoint completed failed).1 := by
  unfold recordOutcome recordFailure
  dsimp only
  split_ifs
  · split
    · exact .setEndpoint _ _ _
    next cooldown _ =>
      have hopened := KeepsKeys.setEndpoint scheduler target.endpointKey
        { endpointAfterFailure endpoint with
          tripCount := (endpointAfterFailure endpoint).tripCount + 1
          cooldownUntil := completed + cooldown
          failureStreak := 0 }
      have hdeferred := hopened.trans (deferSiblings_keepsKeys target.unitId
        (completed + cooldown) (scheduler.busJobs target.busId) _ 0)
      split
      next hdefer =>
        rw [← congrArg Prod.fst hdefer]
        exact hdeferred
      next hdefer =>
        rw [← congrArg Prod.fst hdefer]
        exact hdeferred
  · exact .setEndpoint _ _ _
  · exact .setEndpoint _ _ _

theorem complete_keepsKeys (scheduler : Scheduler) (target : SchedulerTarget)
    (deadline completed duration : ℚ) (failed callbackError : Bool) :
    KeepsKeys scheduler (scheduler.complete target deadline completed duration
      failed callbackError).1 := by
  unfold complete
  split
  · exact .refl scheduler
  next current hcur =>
    split
    · exact .refl scheduler
    next metrics _ =>
      dsimp only
      have hcounted := KeepsKeys.setMetrics scheduler target.busId
        (metrics.observeCompletion target.priority completed duration
          target.intervalSeconds failed callbackError)
      split
      · exact hcounted
      next endpoint _ =>
        have hrecorded := hcounted.trans (recordOutcome_keepsKeys _ target
          (metrics.observeCompletion target.priority completed duration
            target.intervalSeconds failed callbackError) endpoint completed failed)
        split
        next hrec =>
          rw [hrec] at hrecorded
          exact hrecorded
        next recorded counters reached hrec =>
          rw [hrec] at hrecorded
          obtain ⟨waiting, hwaiting⟩ := Option.isSome_iff_exists.mp
            (hrecorded.jobs_present target.targetId (by rw [hcur]; rfl))
          dsimp only at hwaiting ⊢
          rw [hwaiting, Option.map_some]
          exact (hrecorded.trans (KeepsKeys.retimed hwaiting _)).trans (KeepsKeys.setMetrics _ _ _)

theorem advanceOverdue_keepsKeys (busId : String) (now : ℚ)
    (targetIds : List String) (scheduler : Scheduler) :
    KeepsKeys scheduler (advanceOverdue busId now targetIds scheduler).1 := by
  induction targetIds generalizing scheduler with
  | nil => exact .refl scheduler
  | cons first rest ih =>
    unfold advanceOverdue
    split
    · exact ih scheduler
    next job hjob =>
      split
      · exact .refl scheduler
      · exact .refl scheduler
      · split_ifs
        · exact ih scheduler
        · exact ((KeepsKeys.retimed hjob _).trans (KeepsKeys.setMetrics _ _ _)).trans (ih _)

theorem advanceOverdueDeadlines_keepsKeys (scheduler : Scheduler) (busId : String) (now : ℚ) :
    KeepsKeys scheduler (scheduler.advanceOverdueDeadlines busId now).1 := by
  unfold advanceOverdueDeadlines
  split
  · exact .refl scheduler
  · exact advanceOverdue_keepsKeys busId now _ scheduler

theorem beginRun_keepsKeys {scheduler selected : Scheduler} {busId : String}
    {now : ℚ} {choice : Option Job}
    (hbegin : scheduler.beginRun busId now = .ok (selected, choice)) :
    KeepsKeys scheduler selected := by
  obtain ⟨⟨metrics, rfl⟩, _⟩ := beginRun_spec hbegin
  exact .setMetrics _ _ _

end Scheduler

/-! ## Complete maps -/

namespace Scheduler

/-- Every listed target has a job, and every job an endpoint and counters. -/
structure Mapped (placement : String → String × ℕ) (scheduler : Scheduler) :
    Prop where
  installed : scheduler.Installed placement
  busJobs_jobs : ∀ busId, ∀ targetId ∈ scheduler.busJobs busId, (scheduler.jobs targetId).isSome
  jobs_metrics : ∀ targetId job, scheduler.jobs targetId = some job →
    (scheduler.metrics job.target.busId).isSome

variable {placement : String → String × ℕ} {scheduler after : Scheduler}

theorem Mapped.kept (hmapped : scheduler.Mapped placement)
    (hkeeps : KeepsKeys scheduler after) : after.Mapped placement := by
  constructor
  case installed =>
    constructor
    case jobs_keyed =>
      intro targetId job hjob
      obtain ⟨old, hold, htarget⟩ := hkeeps.jobs_target targetId job hjob
      rw [htarget]
      exact hmapped.installed.jobs_keyed hold
    case jobs_placed =>
      intro targetId job hjob
      obtain ⟨old, hold, htarget⟩ := hkeeps.jobs_target targetId job hjob
      rw [htarget]
      exact hmapped.installed.jobs_placed hold
    case jobs_endpoint =>
      intro targetId job hjob
      obtain ⟨old, hold, htarget⟩ := hkeeps.jobs_target targetId job hjob
      rw [htarget]
      apply Option.isSome_iff_exists.mp
      apply hkeeps.endpoints_present
      exact Option.isSome_iff_exists.mpr (hmapped.installed.jobs_endpoint hold)
    case jobs_interval =>
      intro targetId job hjob
      obtain ⟨old, hold, htarget⟩ := hkeeps.jobs_target targetId job hjob
      rw [htarget]
      exact hmapped.installed.jobs_interval hold
    case busJobs_bus =>
      intro busId targetId job hmem hjob
      obtain ⟨old, hold, htarget⟩ := hkeeps.jobs_target targetId job hjob
      rw [hkeeps.busJobs_eq] at hmem
      rw [htarget]
      exact hmapped.installed.busJobs_bus hmem hold
  case busJobs_jobs =>
    rw [hkeeps.busJobs_eq]
    intro busId targetId hmem
    exact hkeeps.jobs_present targetId (hmapped.busJobs_jobs busId targetId hmem)
  case jobs_metrics =>
    intro targetId job hjob
    obtain ⟨old, hold, htarget⟩ := hkeeps.jobs_target targetId job hjob
    rw [htarget]
    exact hkeeps.metrics_present _ (hmapped.jobs_metrics targetId old hold)

theorem installed_present (previous : String → Option Job)
    (previousEndpoints : String × ℕ → Option Endpoint)
    (deadline : SchedulerTarget → ℚ) (allSpecs : List SchedulerTarget) (building : Scheduler)
    (hlisted : ∀ busId, ∀ targetId ∈ building.busJobs busId, (building.jobs targetId).isSome)
    (hmetrics : ∀ targetId job, building.jobs targetId = some job →
      (building.metrics job.target.busId).isSome) :
    let built := allSpecs.foldl (installSpec previous previousEndpoints deadline) building
    (∀ busId, ∀ targetId ∈ built.busJobs busId, (built.jobs targetId).isSome) ∧
      (∀ targetId job, built.jobs targetId = some job →
        (built.metrics job.target.busId).isSome) ∧
      ∀ busId, (building.metrics busId).isSome → (built.metrics busId).isSome := by
  induction allSpecs generalizing building with
  | nil => exact ⟨hlisted, hmetrics, fun _ h => h⟩
  | cons spec rest ih =>
    let next := installSpec previous previousEndpoints deadline building spec
    have hkept : ∀ busId, (building.metrics busId).isSome → (next.metrics busId).isSome :=
      fun busId hsome => KeepsKeys.isSome_update _ busId hsome
    have hnextListed : ∀ busId, ∀ targetId ∈ next.busJobs busId, (next.jobs targetId).isSome := by
      intro busId targetId hmem
      by_cases hsame : targetId = spec.targetId
      · rw [hsame]
        change (Function.update building.jobs spec.targetId (some _) _).isSome
        rw [Function.update_self]
        rfl
      · apply KeepsKeys.isSome_update
        by_cases hbus : busId = spec.busId
        · rw [hbus] at hmem
          change targetId ∈ Function.update building.busJobs spec.busId _ spec.busId at hmem
          rw [Function.update_self, List.mem_insert_iff] at hmem
          exact hlisted spec.busId targetId (hmem.resolve_left hsame)
        · change targetId ∈ Function.update building.busJobs spec.busId _ busId at hmem
          rw [Function.update_of_ne hbus] at hmem
          exact hlisted busId targetId hmem
    have hnextMetrics : ∀ targetId job, next.jobs targetId = some job →
        (next.metrics job.target.busId).isSome := by
      intro targetId job hjob
      by_cases hsame : targetId = spec.targetId
      · obtain ⟨made, hmade, htarget, _⟩ := installSpec_jobs_self previous
          previousEndpoints deadline building spec
        rw [hsame] at hjob
        have hsameJob : job = made := Option.some.inj (hjob.symm.trans hmade)
        rw [hsameJob, htarget]
        change (Function.update building.metrics spec.busId (some _) _).isSome
        rw [Function.update_self]
        rfl
      · change Function.update building.jobs spec.targetId _ targetId = some job at hjob
        rw [Function.update_of_ne hsame] at hjob
        exact hkept _ (hmetrics targetId job hjob)
    obtain ⟨hbuiltListed, hbuiltMetrics, hbuiltKept⟩ :=
      ih next hnextListed hnextMetrics
    exact ⟨hbuiltListed, hbuiltMetrics, fun busId hsome => hbuiltKept busId (hkept busId hsome)⟩

theorem install_mapped {registry : AcquisitionRegistry}
    (hplaced : registry.PlacedBy placement) {now wallNow : ℚ}
    {lastAttempts : String → Option LastAttempt}
    (hinstall : scheduler.install registry now wallNow lastAttempts = .ok after) :
    after.Mapped placement ∧
      ∀ busId, (scheduler.metrics busId).isSome → (after.metrics busId).isSome := by
  have hinstd := (install_spec hplaced hinstall).1
  unfold install at hinstall
  rw [bind_eq_ok] at hinstall
  obtain ⟨allSpecs, _, hinstall⟩ := hinstall
  cases hinstall
  obtain ⟨hlisted, hmetrics, hkept⟩ := installed_present scheduler.jobs scheduler.endpoints
    (initialDeadline scheduler.policy wallNow lastAttempts allSpecs now) allSpecs
    { scheduler with
      jobs := fun _ => none
      busJobs := fun _ => []
      endpoints := fun _ => none }
    (fun _ _ hmem => absurd hmem List.not_mem_nil)
    (fun _ _ hjob => by cases hjob)
  exact ⟨⟨hinstd, hlisted, hmetrics⟩, hkept⟩

theorem complete_noKeyError (hmapped : scheduler.Mapped placement) {target : SchedulerTarget}
    (hplaced : target.endpointKey = placement target.targetId)
    (hmetrics : (scheduler.metrics target.busId).isSome)
    (deadline completed duration : ℚ) (failed callbackError : Bool) :
    ∀ error, (scheduler.complete target deadline completed duration failed
      callbackError).2 = some error → error.isKeyError = false := by
  intro error herror
  unfold complete at herror
  split at herror
  · cases herror
  next current hcur =>
    obtain ⟨metrics, hfound⟩ := Option.isSome_iff_exists.mp hmetrics
    have hmetricsOf : scheduler.metricsOf target.busId = .ok metrics := by
      unfold metricsOf
      rw [hfound]
    obtain ⟨endpoint, hend⟩ := hmapped.installed.jobs_endpoint hcur
    rw [hmapped.installed.jobs_placed hcur, ← hplaced] at hend
    rw [hmetricsOf] at herror
    dsimp only at herror
    have hendpointOf : ∀ counters, (scheduler.setMetrics target.busId
        counters).endpointOf target = .ok endpoint := by
      intro counters
      unfold endpointOf
      rw [setMetrics_endpoints, hend]
    rw [hendpointOf] at herror
    dsimp only at herror
    have hserves : ∀ counters, (scheduler.setMetrics target.busId counters).Serves target.busId :=
      fun counters => ⟨(KeepsKeys.setMetrics _ _ _).metrics_present _ hmetrics,
        hmapped.busJobs_jobs target.busId⟩
    unfold recordOutcome at herror
    split at herror
    next recorded raised hrec =>
      split_ifs at hrec with hfailed
      · obtain ⟨_, result, heq, _, _, _, _, hout⟩ := recordFailure_outcome
          (hserves _) _ endpoint completed
        rw [heq] at hrec
        obtain ⟨_, hres⟩ := Prod.mk.inj hrec
        rw [Option.some.injEq] at herror
        rcases hout with ⟨_, _, hok, _⟩ | ⟨hoverflow, _⟩
        · rw [hok] at hres
          cases hres
        · rw [hoverflow, Except.error.injEq] at hres
          rw [← herror, ← hres]
          rfl
      · cases (Prod.mk.inj hrec).2
    · cases herror

end Scheduler

/-! ## Runs of the supervised scheduler -/

structure Poll.Mapped (placement : String → String × ℕ) (scheduler : Scheduler)
    (poll : Poll) : Prop where
  placed : poll.job.target.endpointKey = placement poll.job.target.targetId
  metrics : (scheduler.metrics poll.job.target.busId).isSome

structure SchedulerSystem.Mapped (placement : String → String × ℕ)
    (state : SchedulerSystem) : Prop where
  scheduler : state.scheduler.Mapped placement
  polls : ∀ busId poll, state.inFlight busId = some poll → poll.Mapped placement state.scheduler

namespace SchedulerSystem

variable {placement : String → String × ℕ} {state next : SchedulerSystem}

theorem Mapped.kept (hmapped : state.Mapped placement)
    (hkeeps : Scheduler.KeepsKeys state.scheduler next.scheduler)
    (hpolls : ∀ busId poll, next.inFlight busId = some poll →
      poll.Mapped placement state.scheduler) : next.Mapped placement where
  scheduler := hmapped.scheduler.kept hkeeps
  polls busId poll hpoll :=
    ⟨(hpolls busId poll hpoll).placed, hkeeps.metrics_present _ (hpolls busId poll hpoll).metrics⟩

theorem Mapped.updated (hmapped : state.Mapped placement) {busId : String}
    {poll : Option Poll} {inFlight : String → Option Poll}
    (hinFlight : inFlight = Function.update state.inFlight busId poll)
    (hpoll : ∀ changed, poll = some changed →
      changed.Mapped placement state.scheduler) :
    ∀ other found, inFlight other = some found → found.Mapped placement state.scheduler := by
  intro other found hfound
  rw [hinFlight] at hfound
  by_cases hsame : other = busId
  · rw [hsame, Function.update_self] at hfound
    exact hpoll found hfound
  · rw [Function.update_of_ne hsame] at hfound
    exact hmapped.polls other found hfound

variable {lastAttempts : String → Option LastAttempt} {registry : AcquisitionRegistry}

theorem start_mapped {policy : SchedulerPolicy}
    (hplaced : registry.PlacedBy placement) {now wallNow : ℚ}
    (hstart : start policy registry now wallNow lastAttempts = some state) :
    state.Mapped placement := by
  unfold start at hstart
  split_ifs at hstart
  split at hstart
  · cases hstart
  next scheduler hinstall =>
    cases hstart
    exact ⟨(Scheduler.install_mapped hplaced hinstall).1, fun _ _ hpoll => by cases hpoll⟩

theorem Mapped.reconcile (hmapped : state.Mapped placement) (hplaced : registry.PlacedBy placement)
    (now wallNow : ℚ) (lastAttempts : String → Option LastAttempt) :
    (state.reconcile registry now wallNow lastAttempts).Mapped placement := by
  unfold SchedulerSystem.reconcile
  split
  · exact ⟨hmapped.scheduler, hmapped.polls⟩
  next installed hinstall =>
    obtain ⟨hinstd, hmetrics⟩ := Scheduler.install_mapped hplaced hinstall
    refine ⟨hinstd, ?_⟩
    intro busId poll hpoll
    have hold := hmapped.polls busId poll hpoll
    exact ⟨hold.placed, hmetrics _ hold.metrics⟩

theorem Mapped.dueAt (hmapped : state.Mapped placement) {busId : String} {now : ℚ}
    {job : Job} (hdue : state.scheduler.DueAt busId now job) (selectedAt : ℚ) (phase : PollPhase) :
    (⟨job, selectedAt, phase⟩ : Poll).Mapped placement state.scheduler := by
  obtain ⟨targetId, _, hjob, _⟩ := hdue
  have hinstd := hmapped.scheduler.installed
  constructor
  case placed =>
    rw [hinstd.jobs_placed hjob, hinstd.jobs_keyed hjob]
  case metrics => exact hmapped.scheduler.jobs_metrics targetId job hjob

theorem Mapped.select (hmapped : state.Mapped placement) (busId : String)
    (now : ℚ) : (state.select busId now).Mapped placement := by
  unfold SchedulerSystem.select
  split
  · exact ⟨hmapped.scheduler, hmapped.polls⟩
  next selected hbegin =>
    exact hmapped.kept (Scheduler.beginRun_keepsKeys hbegin) hmapped.polls
  next selected job hbegin =>
    have hdue := (Scheduler.beginRun_spec hbegin).2 job rfl
    apply hmapped.kept (Scheduler.beginRun_keepsKeys hbegin)
    apply hmapped.updated rfl
    intro changed hchanged
    cases hchanged
    exact hmapped.dueAt hdue now .reading

theorem Mapped.complete (hmapped : state.Mapped placement) {busId : String}
    {poll : Poll} (hpoll : state.inFlight busId = some poll)
    (started completed : ℚ) (outcome : ReadOutcome) :
    (state.complete busId poll started completed outcome).Mapped placement := by
  have hkeeps := state.scheduler.complete_keepsKeys poll.job.target
    poll.job.nextDeadline completed (max 0 (completed - started)) outcome.failed
    outcome.isCallbackError
  unfold SchedulerSystem.complete
  dsimp only
  split
  next raised error hcomp =>
    rw [hcomp] at hkeeps
    apply hmapped.kept hkeeps
    apply hmapped.updated rfl
    intro changed hchanged
    cases hchanged
  next scheduler hcomp =>
    rw [hcomp] at hkeeps
    apply hmapped.kept hkeeps
    apply hmapped.updated rfl
    intro changed hchanged
    cases hchanged
    have hold := hmapped.polls busId poll hpoll
    exact ⟨hold.placed, hold.metrics⟩

theorem Mapped.dropPoll (hmapped : state.Mapped placement) (busId : String) :
    (state.setPoll busId none).Mapped placement := by
  refine ⟨hmapped.scheduler, ?_⟩
  apply hmapped.updated rfl
  intro changed hchanged
  cases hchanged

theorem Mapped.publish (hmapped : state.Mapped placement) (busId : String)
    (raised : Bool) : (state.publish busId raised).Mapped placement := by
  have hidle := hmapped.dropPoll busId
  unfold SchedulerSystem.publish
  dsimp only
  split_ifs
  · split
    · exact hidle
    · exact hidle.kept (Scheduler.KeepsKeys.setMetrics _ _ _) hidle.polls
  · exact hidle

theorem Mapped.step (hmapped : state.Mapped placement) {action : SchedulerAction}
    (hplaced : action.PlacedBy placement)
    (hstep : state.step action = some next) : next.Mapped placement := by
  cases action with
  | reconcile registry now wallNow lastAttempts =>
    simp only [SchedulerSystem.step] at hstep
    split_ifs at hstep
    rw [← Option.some.inj hstep]
    exact hmapped.reconcile hplaced now wallNow lastAttempts
  | select busId now =>
    simp only [SchedulerSystem.step] at hstep
    split at hstep
    · cases hstep
    · split_ifs at hstep
      rw [← Option.some.inj hstep]
      exact hmapped.select busId now
  | finishRead busId started completed outcome =>
    simp only [SchedulerSystem.step] at hstep
    split at hstep
    next job selectedAt hpoll =>
      split_ifs at hstep
      rw [← Option.some.inj hstep]
      refine ⟨hmapped.scheduler, ?_⟩
      apply hmapped.updated rfl
      intro changed hchanged
      cases hchanged
      have hold := hmapped.polls busId _ hpoll
      exact ⟨hold.placed, hold.metrics⟩
    · cases hstep
  | persistFailed busId =>
    simp only [SchedulerSystem.step] at hstep
    split at hstep
    · rw [← Option.some.inj hstep]
      exact hmapped.dropPoll busId
    · cases hstep
  | complete busId =>
    simp only [SchedulerSystem.step] at hstep
    split at hstep
    next hpoll =>
      rw [← Option.some.inj hstep]
      exact hmapped.complete hpoll _ _ _
    · cases hstep
  | publish busId raised =>
    simp only [SchedulerSystem.step] at hstep
    split at hstep
    · rw [← Option.some.inj hstep]
      exact hmapped.publish busId raised
    · cases hstep

theorem Mapped.supervisedStep (hmapped : state.Mapped placement)
    {action : SupervisedAction} (hplaced : action.PlacedBy placement)
    (hstep : state.supervisedStep action = some next) : next.Mapped placement := by
  cases action with
  | scheduled action => exact hmapped.step hplaced hstep
  | recover busId now =>
    simp only [SchedulerSystem.supervisedStep] at hstep
    split at hstep
    · cases hstep
    · split_ifs at hstep
      rw [← Option.some.inj hstep]
      exact hmapped.kept (state.scheduler.advanceOverdueDeadlines_keepsKeys busId now) hmapped.polls

/-- In every reachable state each installed job has an endpoint and counters, the
completion of a poll in flight raises no `KeyError`, and a selection takes no
target whose endpoint is cooling down. -/
theorem maps_complete {policy : SchedulerPolicy}
    (hplaced : registry.PlacedBy placement) {now wallNow : ℚ} {initial : SchedulerSystem}
    (hstart : start policy registry now wallNow lastAttempts = some initial)
    (hreach : Reaches supervisedStep (fun _ action => action.PlacedBy placement)
      initial state) :
    (∀ targetId job, state.scheduler.jobs targetId = some job → (∃ endpoint,
        state.scheduler.endpoints job.target.endpointKey = some endpoint) ∧
      ∃ metrics, state.scheduler.metrics job.target.busId = some metrics) ∧
    (∀ busId job selectedAt started completed outcome, state.inFlight busId =
          some ⟨job, selectedAt, .finished started completed outcome⟩ →
        ∀ error, (state.scheduler.complete job.target job.nextDeadline completed
            (max 0 (completed - started)) outcome.failed
            outcome.isCallbackError).2 = some error → error.isKeyError = false) ∧
    ∀ busId now next poll, state.step (.select busId now) = some next →
      next.inFlight busId = some poll →
        ∃ endpoint, state.scheduler.endpoints poll.job.target.endpointKey =
            some endpoint ∧ endpoint.cooldownUntil ≤ now := by
  have hmapped : state.Mapped placement :=
    hreach.invariant
      (fun _ _ _ hbefore hguard hstep => hbefore.supervisedStep hguard hstep)
      (start_mapped hplaced hstart)
  refine ⟨?_, ?_, ?_⟩
  · intro targetId job hjob
    exact ⟨hmapped.scheduler.installed.jobs_endpoint hjob, Option.isSome_iff_exists.mp
        (hmapped.scheduler.jobs_metrics targetId job hjob)⟩
  · intro busId job selectedAt started completed outcome hpoll
    have hvalid := hmapped.polls busId _ hpoll
    exact Scheduler.complete_noKeyError hmapped.scheduler hvalid.placed
      hvalid.metrics _ _ _ _ _
  · intro busId now next poll hstep hpoll
    simp only [SchedulerSystem.step] at hstep
    split at hstep
    · cases hstep
    next hidle =>
      split_ifs at hstep
      rw [← Option.some.inj hstep] at hpoll
      unfold SchedulerSystem.select at hpoll
      split at hpoll
      · rw [hidle] at hpoll
        cases hpoll
      · rw [hidle] at hpoll
        cases hpoll
      next selected job hbegin =>
        dsimp only at hpoll
        rw [Function.update_self, Option.some.injEq] at hpoll
        obtain ⟨_, _, _, _, endpoint, hend, hcool⟩ :=
          (Scheduler.beginRun_spec hbegin).2 job rfl
        rw [← hpoll]
        exact ⟨endpoint, hend, hcool⟩

theorem reaches_supervised
    (hreach : Reaches step (fun _ action => action.PlacedBy placement) state next) :
    Reaches supervisedStep (fun _ action => action.PlacedBy placement) state
      next := by
  induction hreach with
  | refl => exact .refl _
  | @tail middle after action _ hplaced hstep ih =>
    have hguard : (SupervisedAction.scheduled action).PlacedBy placement := hplaced
    have hsupervised : middle.supervisedStep (.scheduled action) = some after :=
      hstep
    exact .tail ih hguard hsupervised

theorem maps_complete_afterRetiming :
    ∃ state, runScheduler registryEveryMinute retimedActions = some state ∧
      ∀ targetId job, state.scheduler.jobs targetId = some job →
        (∃ endpoint, state.scheduler.endpoints job.target.endpointKey = some endpoint) ∧
        ∃ metrics, state.scheduler.metrics job.target.busId = some metrics := by
  obtain ⟨state, hstate⟩ : ∃ state,
      runScheduler registryEveryMinute retimedActions = some state :=
    Option.isSome_iff_exists.mp (by decide +kernel)
  obtain ⟨initial, hstart, hactions⟩ := runScheduler_eq_some hstate
  have hreach := reaches_supervised
    (.of_runFrom (fun _ => retimedActions_placed) hactions)
  exact ⟨state, hstate, (maps_complete (twoChannelRegistry_placed _ _ _) hstart
    hreach).1⟩

end SchedulerSystem

end Nexolab
