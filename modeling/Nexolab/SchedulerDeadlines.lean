import Nexolab.SchedulerOperations

/-!
# Deadlines over whole runs

The deadline of a job is moved by an installation, by a completed poll and by
the trip of the breaker its endpoint shares with other jobs.  The invariant
`DeadlineInvariant` bounds it in every reachable state; its step lemmas follow
the six actions.

Two behaviours of the scheduler keep the bound from being simpler.  A trip
copies the end of the cooldown into the deadlines of the jobs which share the
endpoint, and a later success clears the cooldown but not those deadlines; they
are past by then.  A completion computes the next deadline from the interval
the poll was selected with.
-/

namespace Nexolab

/-- What holds of a poll between its selection and its end. -/
structure Poll.Valid (placement : String → String × ℕ) (scheduler : Scheduler)
    (clock : ℚ) (busId : String) (poll : Poll) : Prop where
  placed : poll.job.target.endpointKey = placement poll.job.target.targetId
  bus : poll.job.target.busId = busId
  deadline : poll.job.nextDeadline ≤ poll.selectedAt
  selected : poll.selectedAt ≤ clock
  finished : ∀ started completed outcome, poll.phase = .finished started completed outcome →
      poll.selectedAt ≤ completed ∧ completed ≤ clock
  cooldown : poll.phase ≠ .publishing → ∀ endpoint,
    scheduler.endpoints poll.job.target.endpointKey = some endpoint → endpoint.cooldownUntil ≤ clock

structure SchedulerSystem.DeadlineInvariant (placement : String → String × ℕ)
    (state : SchedulerSystem) : Prop where
  installed : state.scheduler.Installed placement
  clock_nonneg : 0 ≤ state.clock
  polls : ∀ busId poll, state.inFlight busId = some poll →
    poll.Valid placement state.scheduler state.clock busId
  bounded : ∀ targetId job endpoint, state.scheduler.jobs targetId = some job →
    state.scheduler.endpoints job.target.endpointKey = some endpoint →
    (state.history targetId).staleCompletion = false →
      job.nextDeadline ≤ max endpoint.cooldownUntil (max state.clock
          ((state.history targetId).lastChange + job.target.intervalSeconds))

theorem JobHistory.installedAt_le_lastChange (history : JobHistory) :
    history.installedAt ≤ history.lastChange := by
  unfold JobHistory.lastChange
  split
  · exact le_rfl
  · exact le_max_right _ _

theorem Poll.Valid.later {placement : String → String × ℕ} {scheduler after : Scheduler}
    {clock now : ℚ} {busId : String} {poll : Poll}
    (hpoll : poll.Valid placement scheduler clock busId)
    (hends : after.endpoints = scheduler.endpoints)
    (hnow : clock ≤ now) : poll.Valid placement after now busId := by
  refine ⟨hpoll.placed, hpoll.bus, hpoll.deadline, hpoll.selected.trans hnow, ?_, ?_⟩
  · intro started completed outcome hphase
    obtain ⟨hsel, hcompleted⟩ := hpoll.finished _ _ _ hphase
    exact ⟨hsel, hcompleted.trans hnow⟩
  · intro hphase endpoint hend
    rw [hends] at hend
    exact (hpoll.cooldown hphase endpoint hend).trans hnow

namespace SchedulerSystem.DeadlineInvariant

variable {placement : String → String × ℕ} {state next : SchedulerSystem}

theorem of_same_maps (hinv : state.DeadlineInvariant placement)
    (hjobs : next.scheduler.jobs = state.scheduler.jobs)
    (hbusJobs : next.scheduler.busJobs = state.scheduler.busJobs)
    (hends : next.scheduler.endpoints = state.scheduler.endpoints)
    (hhistory : next.history = state.history) (hclock : state.clock ≤ next.clock)
    (hpolls : ∀ busId poll, next.inFlight busId = some poll →
      poll.Valid placement next.scheduler next.clock busId) :
    next.DeadlineInvariant placement := by
  refine ⟨⟨?_, ?_, ?_, ?_, ?_⟩, hinv.clock_nonneg.trans hclock, hpolls, ?_⟩
  · rw [hjobs]
    exact hinv.installed.jobs_keyed
  · rw [hjobs]
    exact hinv.installed.jobs_placed
  · rw [hjobs, hends]
    exact hinv.installed.jobs_endpoint
  · rw [hjobs]
    exact hinv.installed.jobs_interval
  · rw [hjobs, hbusJobs]
    exact hinv.installed.busJobs_bus
  · intro targetId job endpoint hjob hend hfresh
    rw [hjobs] at hjob
    rw [hends] at hend
    rw [hhistory] at hfresh ⊢
    refine (hinv.bounded targetId job endpoint hjob hend hfresh).trans ?_
    exact max_le_max le_rfl (max_le_max hclock le_rfl)

theorem start {policy : SchedulerPolicy} {registry : AcquisitionRegistry}
    (hplaced : registry.PlacedBy placement) {now wallNow : ℚ}
    {lastAttempts : String → Option LastAttempt}
    (hstart : SchedulerSystem.start policy registry now wallNow lastAttempts =
      some state) : state.DeadlineInvariant placement := by
  unfold SchedulerSystem.start at hstart
  split_ifs at hstart with hnow
  split at hstart
  next => cases hstart
  next scheduler hinstall =>
    cases hstart
    obtain ⟨hinstd, hchanged, _, _⟩ :=
      Scheduler.install_spec hplaced hinstall
    refine ⟨hinstd, hnow, by simp, ?_⟩
    intro targetId job endpoint hjob _ _
    have hdead := hchanged hjob rfl
    exact le_max_of_le_right (le_max_of_le_right hdead)

theorem reconcile (hinv : state.DeadlineInvariant placement)
    {registry : AcquisitionRegistry} (hplaced : registry.PlacedBy placement)
    {now : ℚ} (hnow : state.clock ≤ now) (wallNow : ℚ)
    (lastAttempts : String → Option LastAttempt) :
    (state.reconcile registry now wallNow lastAttempts).DeadlineInvariant
      placement := by
  unfold SchedulerSystem.reconcile
  split
  next error _ =>
    refine hinv.of_same_maps rfl rfl rfl rfl hnow ?_
    intro busId poll hpoll
    exact (hinv.polls busId poll hpoll).later rfl hnow
  next installed hinstall =>
    obtain ⟨hinstd, hchanged, hkept, hends⟩ :=
      Scheduler.install_spec hplaced hinstall
    refine ⟨hinstd, hinv.clock_nonneg.trans hnow, ?_, ?_⟩
    · intro busId poll hpoll
      have hvalid := hinv.polls busId poll hpoll
      have hlater : poll.Valid placement state.scheduler now busId :=
        hvalid.later rfl hnow
      refine ⟨hlater.placed, hlater.bus, hlater.deadline, hlater.selected, hlater.finished, ?_⟩
      intro hphase endpoint hend
      have hendpointEq := hends hend
      cases hbefore :
          state.scheduler.endpoints poll.job.target.endpointKey with
      | none =>
        rw [hbefore] at hendpointEq
        subst hendpointEq
        exact hinv.clock_nonneg.trans hnow
      | some before =>
        rw [hbefore] at hendpointEq
        subst hendpointEq
        exact (hvalid.cooldown hphase _ hbefore).trans hnow
    · intro targetId job endpoint hjob hend hfresh
      dsimp only at hjob hend hfresh ⊢
      rw [hjob] at hfresh ⊢
      unfold JobHistory.afterInstall at hfresh ⊢
      split_ifs at hfresh ⊢ with hinstallation
      · have hdead := hchanged hjob hinstallation
        have hlast := JobHistory.installedAt_le_lastChange
          { state.history targetId with
            installedAt := now, staleCompletion := false }
        refine le_max_of_le_right (le_max_of_le_right ?_)
        exact hdead.trans (by linarith)
      · obtain ⟨old, hold, hint, hdead⟩ :=
          hkept hjob (Bool.eq_false_iff.mpr hinstallation)
        have hkey : old.target.endpointKey = job.target.endpointKey := by
          rw [hinv.installed.jobs_placed hold, hinstd.jobs_placed hjob]
        obtain ⟨before, hbefore⟩ := hinv.installed.jobs_endpoint hold
        have hsame : endpoint = before := by
          rw [hkey] at hbefore
          rw [hends hend, hbefore]
          rfl
        subst hsame
        have hbound :=
          hinv.bounded targetId old endpoint hold hbefore hfresh
        rw [hdead, ← hint]
        exact hbound.trans (max_le_max le_rfl (max_le_max hnow le_rfl))

theorem select (hinv : state.DeadlineInvariant placement)
    (busId : String) {now : ℚ} (hnow : state.clock ≤ now) :
    (state.select busId now).DeadlineInvariant placement := by
  have hlater := fun other poll hpoll =>
    Poll.Valid.later (hinv.polls other poll hpoll)
      (rfl : state.scheduler.endpoints = state.scheduler.endpoints) hnow
  unfold SchedulerSystem.select
  split
  next error _ =>
    exact hinv.of_same_maps rfl rfl rfl rfl hnow hlater
  next selected hbegin =>
    obtain ⟨⟨metrics, rfl⟩, _⟩ := Scheduler.beginRun_spec hbegin
    refine hinv.of_same_maps rfl rfl rfl rfl hnow ?_
    intro other poll hpoll
    exact (hlater other poll hpoll).later rfl le_rfl
  next selected job hbegin =>
    obtain ⟨⟨metrics, rfl⟩, hdue⟩ := Scheduler.beginRun_spec hbegin
    refine hinv.of_same_maps rfl rfl rfl rfl hnow ?_
    intro other poll hpoll
    rcases update_eq_some hpoll with ⟨rfl, rfl⟩ | ⟨_, hpoll⟩
    · obtain ⟨targetId, hmem, hjob, hdead, endpoint, hend, hcool⟩ :=
        hdue job rfl
      refine ⟨?_, hinv.installed.busJobs_bus hmem hjob, hdead, le_rfl, by simp, ?_⟩
      · rw [hinv.installed.jobs_placed hjob, hinv.installed.jobs_keyed hjob]
      · intro _ reached hreached
        have hsame : endpoint = reached :=
          Option.some_injective _ (hend.symm.trans hreached)
        rw [← hsame]
        exact hcool
    · exact (hlater other poll hpoll).later rfl le_rfl

variable {selectedAt started completed : ℚ}

theorem finishRead (hinv : state.DeadlineInvariant placement) {busId : String} {job : Job}
    {outcome : ReadOutcome} (hpoll : state.inFlight busId = some ⟨job, selectedAt, .reading⟩)
    (hcompleted : state.clock ≤ completed) :
    DeadlineInvariant placement
      { state.setPoll busId (some ⟨job, selectedAt, .finished started completed outcome⟩)
        with clock := completed } := by
  refine hinv.of_same_maps rfl rfl rfl rfl hcompleted ?_
  intro other poll hother
  rcases update_eq_some hother with ⟨rfl, rfl⟩ | ⟨_, hother⟩
  · have hvalid := (hinv.polls other _ hpoll).later
      (rfl : state.scheduler.endpoints = state.scheduler.endpoints) hcompleted
    refine ⟨hvalid.placed, hvalid.bus, hvalid.deadline, hvalid.selected, ?_, ?_⟩
    · intro _ reached _ hphase
      simp only [PollPhase.finished.injEq] at hphase
      rw [← hphase.2.1]
      exact ⟨hvalid.selected, le_rfl⟩
    · exact fun _ => hvalid.cooldown (by simp)
  · exact (hinv.polls other poll hother).later rfl hcompleted

theorem dropPoll (hinv : state.DeadlineInvariant placement)
    (busId : String) : (state.setPoll busId none).DeadlineInvariant placement := by
  refine hinv.of_same_maps rfl rfl rfl rfl le_rfl ?_
  intro other poll hother
  by_cases hsame : other = busId
  · subst hsame
    simp [SchedulerSystem.setPoll] at hother
  · simp only [SchedulerSystem.setPoll, Function.update_of_ne hsame] at hother
    exact hinv.polls other poll hother

theorem publish (hinv : state.DeadlineInvariant placement) (busId : String) (raised : Bool) :
    (state.publish busId raised).DeadlineInvariant placement := by
  have hidle := hinv.dropPoll busId
  unfold SchedulerSystem.publish
  dsimp only
  split_ifs
  · split
    next => exact hidle
    next metrics _ =>
      refine hidle.of_same_maps rfl rfl rfl rfl le_rfl ?_
      intro other poll hother
      exact (hidle.polls other poll hother).later rfl le_rfl
  · exact hidle

theorem bounded_of_breakerEffect (hinv : state.DeadlineInvariant placement)
    {busId : String} {poll : Poll}
    (hpoll : state.inFlight busId = some poll) (hphase : poll.phase ≠ .publishing)
    {recorded : Scheduler} (heff : Scheduler.BreakerEffect poll.job.target state.scheduler recorded)
    {targetId : String} {job : Job} {endpoint : Endpoint} (hjob : recorded.jobs targetId = some job)
    (hend : recorded.endpoints job.target.endpointKey = some endpoint)
    (hfresh : (state.history targetId).staleCompletion = false) :
    job.nextDeadline ≤ max endpoint.cooldownUntil (max state.clock
        ((state.history targetId).lastChange + job.target.intervalSeconds)) := by
  have hvalid := hinv.polls busId poll hpoll
  obtain ⟨old, hold, htarget, hdead⟩ :=
    heff.jobs_effect targetId job hjob
  obtain ⟨before, hbefore⟩ := hinv.installed.jobs_endpoint hold
  have hbound := hinv.bounded targetId old before hold hbefore hfresh
  rw [htarget] at hend ⊢
  by_cases hkey : old.target.endpointKey = poll.job.target.endpointKey
  · have hcool : before.cooldownUntil ≤ state.clock := by
      rw [hkey] at hbefore
      exact hvalid.cooldown hphase before hbefore
    have hpast : old.nextDeadline ≤ max state.clock
        ((state.history targetId).lastChange + old.target.intervalSeconds) :=
      hbound.trans (max_le (le_max_of_le_left hcool) le_rfl)
    rcases hdead with heq | ⟨_, _, reached, hreached, heq⟩
    · rw [heq]
      exact le_max_of_le_right hpast
    · have hsame : endpoint = reached := by
        rw [hkey] at hend
        exact Option.some_injective _ (hend.symm.trans hreached)
      rw [heq, hsame]
      exact max_le (le_max_of_le_right hpast) (le_max_left _ _)
  · have hsame : endpoint = before := by
      rw [heff.endpoints_frame _ hkey] at hend
      exact Option.some_injective _ (hend.symm.trans hbefore)
    rcases hdead with heq | ⟨hunit, hmem, _⟩
    · rw [heq, hsame]
      exact hbound
    · have hbus := hinv.installed.busJobs_bus hmem hold
      exact absurd (Prod.ext hbus hunit) hkey

theorem complete (hinv : state.DeadlineInvariant placement) {busId : String} {job : Job}
    {outcome : ReadOutcome}
    (hpoll : state.inFlight busId = some ⟨job, selectedAt, .finished started completed outcome⟩) :
    (state.complete busId ⟨job, selectedAt, .finished started completed outcome⟩
      started completed outcome).DeadlineInvariant placement := by
  have hvalid := hinv.polls busId _ hpoll
  obtain ⟨hsel, hcompleted⟩ := hvalid.finished _ _ _ rfl
  have hplaced : job.target.endpointKey = placement job.target.targetId :=
    hvalid.placed
  have hbus : job.target.busId = busId := hvalid.bus
  have hdead : job.nextDeadline ≤ completed :=
    hvalid.deadline.trans hsel
  cases hcomp : state.scheduler.complete job.target job.nextDeadline
      completed (max 0 (completed - started)) outcome.failed
      outcome.isCallbackError with
  | mk after raised =>
    obtain ⟨recorded, heff, hbusJobs, hends, hothers, hpolled⟩ :=
      Scheduler.complete_spec hdead hcomp
    have htargets : ∀ {targetId current}, after.jobs targetId = some current → ∃ old,
          state.scheduler.jobs targetId = some old ∧ current.target = old.target := by
      intro targetId current hcur
      by_cases hsame : raised = none ∧ targetId = job.target.targetId
      · obtain ⟨hraised, rfl⟩ := hsame
        obtain ⟨old, _, hold, htarget, _⟩ := hpolled hraised current hcur
        exact ⟨old, hold, htarget⟩
      · have hother : raised = none → targetId ≠ job.target.targetId :=
          fun hraised heq => hsame ⟨hraised, heq⟩
        rw [hothers targetId hother] at hcur
        obtain ⟨old, hold, htarget, _⟩ :=
          heff.jobs_effect targetId current hcur
        exact ⟨old, hold, htarget⟩
    have hinstd : after.Installed placement := by
      refine ⟨?_, ?_, ?_, ?_, ?_⟩
      · intro targetId current hcur
        obtain ⟨old, hold, htarget⟩ := htargets hcur
        rw [htarget]
        exact hinv.installed.jobs_keyed hold
      · intro targetId current hcur
        obtain ⟨old, hold, htarget⟩ := htargets hcur
        rw [htarget]
        exact hinv.installed.jobs_placed hold
      · intro targetId current hcur
        obtain ⟨old, hold, htarget⟩ := htargets hcur
        obtain ⟨endpoint, hend⟩ := hinv.installed.jobs_endpoint hold
        rw [htarget, hends]
        apply Option.isSome_iff_exists.mp
        apply heff.endpoints_present
        rw [hend]
        rfl
      · intro targetId current hcur
        obtain ⟨old, hold, htarget⟩ := htargets hcur
        rw [htarget]
        exact hinv.installed.jobs_interval hold
      · intro bus targetId current hmem hcur
        obtain ⟨old, hold, htarget⟩ := htargets hcur
        rw [hbusJobs, heff.busJobs_eq] at hmem
        rw [htarget]
        exact hinv.installed.busJobs_bus hmem hold
    have hotherPolls : ∀ other poll, other ≠ busId → state.inFlight other = some poll →
        poll.Valid placement after state.clock other := by
      intro other poll hother hinFlight
      have hotherValid := hinv.polls other poll hinFlight
      refine ⟨hotherValid.placed, hotherValid.bus, hotherValid.deadline,
        hotherValid.selected, hotherValid.finished, ?_⟩
      intro hphase endpoint hend
      have hkey : poll.job.target.endpointKey ≠ job.target.endpointKey := by
        intro heq
        apply hother
        rw [← hotherValid.bus, ← hbus]
        exact congrArg Prod.fst heq
      rw [hends, heff.endpoints_frame _ hkey] at hend
      exact hotherValid.cooldown hphase endpoint hend
    have hkept : ∀ targetId current endpoint, (raised = none → targetId ≠ job.target.targetId) →
        after.jobs targetId = some current →
        after.endpoints current.target.endpointKey = some endpoint →
        (state.history targetId).staleCompletion = false →
        current.nextDeadline ≤ max endpoint.cooldownUntil
          (max state.clock ((state.history targetId).lastChange +
            current.target.intervalSeconds)) := by
      intro targetId current endpoint hother hcur hend hfresh
      rw [hothers targetId hother] at hcur
      rw [hends] at hend
      exact hinv.bounded_of_breakerEffect hpoll (by simp) heff hcur hend hfresh
    unfold SchedulerSystem.complete
    simp only [hcomp]
    cases raised with
    | some error =>
      refine ⟨hinstd, hinv.clock_nonneg, ?_, ?_⟩
      · intro other poll hinFlight
        by_cases hother : other = busId
        · subst hother
          simp at hinFlight
        · simp only [Function.update_of_ne hother] at hinFlight
          exact hotherPolls other poll hother hinFlight
      · intro targetId current endpoint hcur hend hfresh
        exact hkept targetId current endpoint (by simp) hcur hend hfresh
    | none =>
      refine ⟨hinstd, hinv.clock_nonneg, ?_, ?_⟩
      · intro other poll hinFlight
        rcases update_eq_some hinFlight with ⟨rfl, rfl⟩ | ⟨hother, hinFlight⟩
        · exact ⟨hplaced, hbus, hvalid.deadline, hvalid.selected, by simp, by simp⟩
        · exact hotherPolls other poll hother hinFlight
      · intro targetId current endpoint hcur hend hfresh
        by_cases hsame : targetId = job.target.targetId
        · subst hsame
          obtain ⟨old, reached, hold, htarget, hreached, hnext⟩ :=
            hpolled rfl current hcur
          have hkey : current.target.endpointKey = job.target.endpointKey := by
            rw [hinstd.jobs_placed hcur, hplaced]
          have hendpointEq : endpoint = reached := by
            rw [hkey] at hend
            exact Option.some_injective _ (hend.symm.trans hreached)
          simp only [Function.update_self, hold, JobHistory.afterComplete,
            decide_eq_false_iff_not, not_lt] at hfresh
          simp only [Function.update_self, hold, JobHistory.afterComplete, JobHistory.lastChange]
          rw [← htarget] at hfresh
          rw [hendpointEq]
          refine hnext.trans (max_le ?_ (le_max_left _ _))
          refine le_max_of_le_right (le_max_of_le_right ?_)
          exact add_le_add (le_max_left _ _) hfresh
        · simp only [Function.update_of_ne hsame] at hfresh ⊢
          exact hkept targetId current endpoint (fun _ => hsame) hcur hend hfresh

theorem step (hinv : state.DeadlineInvariant placement)
    {action : SchedulerAction} (hplaced : action.PlacedBy placement)
    (hstep : state.step action = some next) :
    next.DeadlineInvariant placement := by
  cases action with
  | reconcile registry now wallNow lastAttempts =>
    simp only [SchedulerSystem.step] at hstep
    split_ifs at hstep with hnow
    rw [← Option.some_injective _ hstep]
    exact hinv.reconcile hplaced hnow wallNow lastAttempts
  | select busId now =>
    simp only [SchedulerSystem.step] at hstep
    split at hstep
    next => cases hstep
    next =>
      split_ifs at hstep with hnow
      rw [← Option.some_injective _ hstep]
      exact hinv.select busId hnow
  | finishRead busId started completed outcome =>
    simp only [SchedulerSystem.step] at hstep
    split at hstep
    next job selectedAt hpoll =>
      split_ifs at hstep with htimes
      rw [← Option.some_injective _ hstep]
      exact hinv.finishRead hpoll htimes.1
    next => cases hstep
  | persistFailed busId =>
    simp only [SchedulerSystem.step] at hstep
    split at hstep
    next =>
      rw [← Option.some_injective _ hstep]
      exact hinv.dropPoll busId
    next => cases hstep
  | complete busId =>
    simp only [SchedulerSystem.step] at hstep
    split at hstep
    next job selectedAt started completed outcome hpoll =>
      rw [← Option.some_injective _ hstep]
      exact hinv.complete hpoll
    next => cases hstep
  | publish busId raised =>
    simp only [SchedulerSystem.step] at hstep
    split at hstep
    next =>
      rw [← Option.some_injective _ hstep]
      exact hinv.publish busId raised
    next => cases hstep

end SchedulerSystem.DeadlineInvariant

/-- In every reachable state the deadline of a job lies within one interval of
its last completion or installation, unless it is already past or waits for the
cooldown of its endpoint.  Excepted is a job whose last completion was of a read
begun under a longer interval than the installed one. -/
theorem SchedulerSystem.nextDeadline_le
    {placement : String → String × ℕ} {policy : SchedulerPolicy}
    {registry : AcquisitionRegistry} (hplaced : registry.PlacedBy placement)
    {now wallNow : ℚ} {lastAttempts : String → Option LastAttempt}
    {initial : SchedulerSystem}
    (hstart : start policy registry now wallNow lastAttempts = some initial)
    {state : SchedulerSystem}
    (hreach : Reaches step (fun _ action => action.PlacedBy placement) initial state)
    {targetId : String} {job : Job}
    (hjob : state.scheduler.jobs targetId = some job)
    (hfresh : (state.history targetId).staleCompletion = false) :
    ∃ endpoint, state.scheduler.endpoints job.target.endpointKey = some endpoint ∧
      job.nextDeadline ≤ max endpoint.cooldownUntil
        (max state.clock ((state.history targetId).lastChange +
            job.target.intervalSeconds)) := by
  have hinv : state.DeadlineInvariant placement :=
    hreach.invariant (fun _ _ _ hbefore hguard hstep => hbefore.step hguard hstep)
      (DeadlineInvariant.start hplaced hstart)
  obtain ⟨endpoint, hend⟩ := hinv.installed.jobs_endpoint hjob
  exact ⟨endpoint, hend, hinv.bounded targetId job endpoint hjob hend hfresh⟩

/-! ## Two runs of a device with two channels -/

/-- Two active channels of one XJP60D unit, polled at one family interval. -/
def twoChannelDocument (revision : ℕ) (interval : ℚ) : RegistryDocument where
  revision
  devices := [⟨"xjp60d-7", "rs485-main", "xjp60d", 7, "active"⟩]
  targets := ["7-01", "7-02"].map fun channel =>
    { targetId := "xjp60d:" ++ channel
      deviceId := "xjp60d-7"
      key := channel
      telemetryChannelId := channel
      metric := "temperature.probe"
      unit := "degC"
      lifecycle := "active"
      function := 3 }
  cadence := ⟨[⟨"rs485-main", "xjp60d", interval⟩], []⟩

def twoChannelRegistry (revision : ℕ) (interval : ℚ)
    (hint : cadenceMinSeconds ≤ interval ∧ interval ≤ cadenceMaxSeconds) :
    AcquisitionRegistry where
  document := twoChannelDocument revision interval
  deviceIds_nodup := by simp [twoChannelDocument]
  targetIds_nodup := by simp [twoChannelDocument]
  intervals_bounded := by
    simpa [twoChannelDocument, CadencePolicy.intervals] using hint

def twoChannelPlacement (_targetId : String) : String × ℕ := ("rs485-main", 7)

theorem twoChannelRegistry_placed (revision : ℕ) (interval : ℚ)
    (hint : cadenceMinSeconds ≤ interval ∧ interval ≤ cadenceMaxSeconds) :
    (twoChannelRegistry revision interval hint).PlacedBy
      twoChannelPlacement := by
  intro target htarget device hdev
  have hdeviceId : target.deviceId = "xjp60d-7" := by
    simp only [twoChannelRegistry, twoChannelDocument, List.mem_map] at htarget
    obtain ⟨channel, _, rfl⟩ := htarget
    rfl
  rw [hdeviceId] at hdev
  have hfound : (twoChannelRegistry revision interval hint).device
      "xjp60d-7" = .ok ⟨"xjp60d-7", "rs485-main", "xjp60d", 7, "active"⟩ := rfl
  rw [hfound, Except.ok.injEq] at hdev
  rw [← hdev]
  rfl

def registryEveryTen : AcquisitionRegistry :=
  twoChannelRegistry 1 10 (by decide +kernel)

def registryEveryMinute : AcquisitionRegistry :=
  twoChannelRegistry 1 60 (by decide +kernel)

def registryRetimed : AcquisitionRegistry :=
  twoChannelRegistry 2 10 (by decide +kernel)

def tripAtOncePolicy : SchedulerPolicy where
  highIntervalSeconds := 10
  mediumIntervalSeconds := 10
  lowIntervalSeconds := 30
  failureThreshold := 1
  cooldownInitialSeconds := 60

def pollActions (selectedAt completed : ℚ) (failed : Bool) :
    List SchedulerAction :=
  [.select "rs485-main" selectedAt,
    .finishRead "rs485-main" selectedAt completed (.result failed),
    .complete "rs485-main", .publish "rs485-main" false]

/-- The first channel succeeds, the second trips the breaker they share, and
after the cooldown the first succeeds again. -/
def siblingActions : List SchedulerAction :=
  pollActions 4 4 false ++ pollActions 5 5 true ++ pollActions 66 66 false

/-- The interval is shortened from a minute to ten seconds during a read. -/
def retimedActions : List SchedulerAction :=
  [.select "rs485-main" 5,
    .reconcile registryRetimed 6 0 (fun _ => none),
    .finishRead "rs485-main" 5 7 (.result false), .complete "rs485-main"]

def runScheduler (registry : AcquisitionRegistry)
    (actions : List SchedulerAction) : Option SchedulerSystem := do
  let initial ← SchedulerSystem.start tripAtOncePolicy registry 0 0 fun _ => none
  runFrom SchedulerSystem.step initial actions

theorem runScheduler_eq_some {registry : AcquisitionRegistry}
    {actions : List SchedulerAction} {state : SchedulerSystem}
    (hrun : runScheduler registry actions = some state) :
    ∃ initial, SchedulerSystem.start tripAtOncePolicy registry 0 0 (fun _ => none) = some initial ∧
      runFrom SchedulerSystem.step initial actions = some state := by
  unfold runScheduler at hrun
  exact Option.bind_eq_some_iff.mp hrun

/-- The deadline exceeds both the cooldown of the endpoint and one interval
after the later of the last completion and the last installation change. -/
def SchedulerSystem.exceedsBound (state : SchedulerSystem) (targetId : String) : Bool :=
  match state.scheduler.jobs targetId with
  | none => false
  | some job =>
    match state.scheduler.endpoints job.target.endpointKey with
    | none => false
    | some endpoint =>
      max endpoint.cooldownUntil ((state.history targetId).lastChange +
          job.target.intervalSeconds) < job.nextDeadline

/-- After the first run the second channel still carries the cooldown its
endpoint has left; after the second run the first channel carries the minute of
the read that began before the change. -/
theorem deadlineBound_exceeded :
    (runScheduler registryEveryTen siblingActions).any
        (·.exceedsBound "xjp60d:7-02") = true ∧
      (runScheduler registryEveryMinute retimedActions).any
        (·.exceedsBound "xjp60d:7-01") = true := by
  constructor
  · decide +kernel
  · decide +kernel

theorem retimedActions_placed (action : SchedulerAction) (haction : action ∈ retimedActions) :
    action.PlacedBy twoChannelPlacement := by
  simp only [retimedActions, List.mem_cons, List.not_mem_nil, or_false] at haction
  rcases haction with rfl | rfl | rfl | rfl
  · trivial
  · exact twoChannelRegistry_placed _ _ _
  · trivial
  · trivial

/-- The bound at the second channel at the end of the second run. -/
theorem nextDeadline_le_afterRetiming :
    ∃ state job endpoint, runScheduler registryEveryMinute retimedActions = some state ∧
      state.scheduler.jobs "xjp60d:7-02" = some job ∧
      state.scheduler.endpoints job.target.endpointKey = some endpoint ∧
      job.nextDeadline ≤ max endpoint.cooldownUntil (max state.clock
          ((state.history "xjp60d:7-02").lastChange +
            job.target.intervalSeconds)) := by
  have hrun : (runScheduler registryEveryMinute retimedActions).any
      (fun state => (state.scheduler.jobs "xjp60d:7-02").isSome &&
        !(state.history "xjp60d:7-02").staleCompletion) = true := by
    decide +kernel
  obtain ⟨state, hstate, hfacts⟩ := (Option.any_eq_true _ _).mp hrun
  simp only [Bool.and_eq_true, Bool.not_eq_true'] at hfacts
  obtain ⟨hjobSome, hfresh⟩ := hfacts
  obtain ⟨job, hjob⟩ := Option.isSome_iff_exists.mp hjobSome
  obtain ⟨initial, hstart, hactions⟩ := runScheduler_eq_some hstate
  obtain ⟨endpoint, hend, hbound⟩ := SchedulerSystem.nextDeadline_le
    (twoChannelRegistry_placed _ _ _) hstart
    (.of_runFrom (fun _ => retimedActions_placed) hactions) hjob hfresh
  exact ⟨state, job, endpoint, hstate, hjob, hend, hbound⟩

end Nexolab
