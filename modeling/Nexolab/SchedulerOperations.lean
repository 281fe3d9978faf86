import Nexolab.FallibleList
import Nexolab.SchedulerRuns

/-!
# What each operation of the scheduler does

One specification for each of `install`, `beginRun` and `complete`, stated
through the maps they change.  The results about whole runs use these and do
not unfold the operations.
-/

namespace Nexolab

theorem initialDelay_le (policy : SchedulerPolicy) (wallNow : ℚ) (attempt : Option LastAttempt)
    {interval : ℚ} {groupSize index : ℕ} (hint : 1 / 20 ≤ interval) (hindex : index ≤ groupSize) :
    initialDelay policy wallNow attempt groupSize index interval ≤ interval := by
  have hpositive : (0 : ℚ) < groupSize + 1 := by positivity
  have hshare : min interval policy.startupSpreadSeconds * (index + 1) /
      (groupSize + 1) ≤ interval := by
    rw [div_le_iff₀ hpositive]
    have hspread : min interval policy.startupSpreadSeconds ≤ interval :=
      min_le_left _ _
    have hplace : (index : ℚ) + 1 ≤ groupSize + 1 := by
      exact_mod_cast Nat.succ_le_succ hindex
    calc min interval policy.startupSpreadSeconds * (index + 1)
        ≤ interval * (index + 1) := by gcongr
      _ ≤ interval * (groupSize + 1) := by
          apply mul_le_mul_of_nonneg_left hplace
          linarith
  have hspread : max (1 / 20) (min interval policy.startupSpreadSeconds *
      (index + 1) / (groupSize + 1)) ≤ interval := max_le hint hshare
  unfold initialDelay
  split
  next attempted =>
    dsimp only
    split_ifs
    · exact max_le hint (by linarith [le_max_left 0 (wallNow - attempted)])
    · exact hspread
  next => exact hspread
  next => exact hspread

variable {lastAttempts : String → Option LastAttempt} {policy : SchedulerPolicy}
  {spec : SchedulerTarget} {placement : String → String × ℕ}
  {registry : AcquisitionRegistry} {endpoint : Endpoint}
  {result : Except SchedulerError (BusSchedulerMetrics × Endpoint)}
  {scheduler after : Scheduler}

theorem initialDeadline_le {wallNow now : ℚ} {allSpecs : List SchedulerTarget}
    (hint : 1 / 20 ≤ spec.intervalSeconds) :
    initialDeadline policy wallNow lastAttempts allSpecs now spec ≤ now + spec.intervalSeconds := by
  unfold initialDeadline
  let group := allSpecs.filter fun other =>
    other.busId = spec.busId ∧ other.priority = spec.priority
  have hindex : group.findIdx (fun other => other.targetId = spec.targetId) ≤
      group.length := List.findIdx_le_length
  have hdelay := initialDelay_le policy wallNow (lastAttempts spec.targetId) hint hindex
  dsimp only
  linarith

theorem skipOverdue_le {interval completed : ℚ} {fuel skipped : ℕ} {nextDeadline : ℚ}
    (hnext : nextDeadline ≤ completed + interval) :
    (skipOverdue interval completed fuel nextDeadline skipped).1 ≤ completed + interval := by
  induction fuel generalizing nextDeadline skipped with
  | zero => exact hnext
  | succ fuel ih =>
    unfold skipOverdue
    split_ifs with hoverdue
    · exact ih (by linarith)
    · exact hnext

/-! ## What an installation builds -/

/-- The facts about an installed map which do not mention deadlines. -/
structure Scheduler.Installed (placement : String → String × ℕ) (scheduler : Scheduler) : Prop where
  jobs_keyed : ∀ {targetId job}, scheduler.jobs targetId = some job → job.target.targetId = targetId
  jobs_placed : ∀ {targetId job}, scheduler.jobs targetId = some job →
    job.target.endpointKey = placement targetId
  jobs_endpoint : ∀ {targetId job}, scheduler.jobs targetId = some job →
    ∃ endpoint, scheduler.endpoints job.target.endpointKey = some endpoint
  jobs_interval : ∀ {targetId job}, scheduler.jobs targetId = some job →
    cadenceMinSeconds ≤ job.target.intervalSeconds
  busJobs_bus : ∀ {busId targetId job}, targetId ∈ scheduler.busJobs busId →
    scheduler.jobs targetId = some job → job.target.busId = busId

theorem specOf_spec (hplaced : registry.PlacedBy placement)
    {target : RegistryTarget} (htarget : target ∈ registry.document.targets)
    (hspec : specOf policy registry target = .ok spec) :
    spec.endpointKey = placement spec.targetId ∧ cadenceMinSeconds ≤ spec.intervalSeconds := by
  unfold specOf at hspec
  rw [bind_eq_ok] at hspec
  obtain ⟨device, hdev, hspec⟩ := hspec
  rw [bind_eq_ok] at hspec
  obtain ⟨cadence, hcadence, hspec⟩ := hspec
  cases hspec
  refine ⟨hplaced target htarget device hdev, ?_⟩
  exact (AcquisitionRegistry.effectiveCadence_bounded hcadence).1

theorem specs_spec (hplaced : registry.PlacedBy placement) {allSpecs : List SchedulerTarget}
    (hspecs : specs policy registry = .ok allSpecs) (hspec : spec ∈ allSpecs) :
    spec.endpointKey = placement spec.targetId ∧ cadenceMinSeconds ≤ spec.intervalSeconds := by
  unfold specs at hspecs
  rw [bind_eq_ok] at hspecs
  obtain ⟨eligible, heligible, hspecs⟩ := hspecs
  rw [bind_eq_ok] at hspecs
  obtain ⟨result, hres, hspecs⟩ := hspecs
  cases hspecs
  obtain ⟨target, htarget, hof⟩ := exists_mem_of_mapM_ok hres
    ((List.perm_insertionSort _ _).mem_iff.mp hspec)
  exact specOf_spec hplaced (mem_of_filterM_ok heligible htarget) hof

/-- What the loop of `_install` has built after the specs in `processed`. -/
structure Scheduler.BuiltFrom (previous : String → Option Job)
    (previousEndpoints : String × ℕ → Option Endpoint)
    (deadline : SchedulerTarget → ℚ) (processed : List SchedulerTarget)
    (built : Scheduler) : Prop where
  jobs_target : ∀ {targetId job}, built.jobs targetId = some job →
    job.target ∈ processed ∧ job.target.targetId = targetId
  jobs_changed : ∀ {targetId job}, built.jobs targetId = some job →
    JobHistory.installationChanged (previous targetId) (some job) = true →
    job.nextDeadline = deadline job.target
  jobs_kept : ∀ {targetId job}, built.jobs targetId = some job →
    JobHistory.installationChanged (previous targetId) (some job) = false →
    ∃ old, previous targetId = some old ∧ old.target.intervalSeconds = job.target.intervalSeconds ∧
      job.nextDeadline = old.nextDeadline
  endpoints_present : ∀ spec ∈ processed, (built.endpoints spec.endpointKey).isSome
  endpoints_kept : ∀ {key endpoint}, built.endpoints key = some endpoint →
    endpoint = (previousEndpoints key).getD {}
  busJobs_spec : ∀ {busId targetId}, targetId ∈ built.busJobs busId →
    ∃ spec ∈ processed, spec.targetId = targetId ∧ spec.busId = busId

theorem installSpec_jobs_self (previous : String → Option Job)
    (previousEndpoints : String × ℕ → Option Endpoint)
    (deadline : SchedulerTarget → ℚ) (building : Scheduler) (spec : SchedulerTarget) :
    ∃ job, (installSpec previous previousEndpoints deadline building spec).jobs
        spec.targetId = some job ∧ job.target = spec ∧
      (JobHistory.installationChanged (previous spec.targetId) (some job) = true →
        job.nextDeadline = deadline spec) ∧
      (JobHistory.installationChanged (previous spec.targetId) (some job) = false →
        ∃ old, previous spec.targetId = some old ∧
          old.target.intervalSeconds = spec.intervalSeconds ∧
          job.nextDeadline = old.nextDeadline) := by
  cases hprev : previous spec.targetId with
  | none =>
    refine ⟨⟨spec, deadline spec, building.sequence + 1⟩,
      by simp [installSpec, hprev], rfl, fun _ => rfl, ?_⟩
    intro hunchanged
    simp [JobHistory.installationChanged] at hunchanged
  | some old =>
    refine ⟨⟨spec, if old.target.intervalSeconds ≠ spec.intervalSeconds
        then deadline spec else old.nextDeadline, old.sequence⟩,
      by simp [installSpec, hprev], rfl, ?_, ?_⟩
    · intro hchanged
      simp only [JobHistory.installationChanged, decide_eq_true_eq] at hchanged
      exact if_pos hchanged
    · intro hunchanged
      simp only [JobHistory.installationChanged, decide_eq_false_iff_not, not_not] at hunchanged
      exact ⟨old, rfl, hunchanged, if_neg (not_not.mpr hunchanged)⟩

namespace Scheduler.BuiltFrom

variable {previous : String → Option Job}
  {previousEndpoints : String × ℕ → Option Endpoint}
  {deadline : SchedulerTarget → ℚ}

variable {processed : List SchedulerTarget}

theorem installSpec {building : Scheduler}
    (hbuilt : BuiltFrom previous previousEndpoints deadline processed building)
    (spec : SchedulerTarget) :
    BuiltFrom previous previousEndpoints deadline (processed ++ [spec])
      (installSpec previous previousEndpoints deadline building spec) := by
  obtain ⟨made, hmade, hmadeTarget, hmadeChanged, hmadeKept⟩ :=
    installSpec_jobs_self previous previousEndpoints deadline building spec
  have hjobs : ∀ {targetId job}, (Nexolab.installSpec previous previousEndpoints deadline building
        spec).jobs targetId = some job →
      targetId = spec.targetId ∧ job = made ∨ building.jobs targetId = some job := by
    intro targetId job hjob
    by_cases hsame : targetId = spec.targetId
    · subst hsame
      exact .inl ⟨rfl, Option.some_injective _ (hjob.symm.trans hmade)⟩
    · right
      simpa [Nexolab.installSpec, Function.update_of_ne hsame] using hjob
  constructor
  · intro targetId job hjob
    rcases hjobs hjob with ⟨rfl, rfl⟩ | hold
    · rw [hmadeTarget]
      simp
    · obtain ⟨hmem, hkey⟩ := hbuilt.jobs_target hold
      exact ⟨List.mem_append_left _ hmem, hkey⟩
  · intro targetId job hjob hchanged
    rcases hjobs hjob with ⟨rfl, rfl⟩ | hold
    · rw [hmadeTarget]
      exact hmadeChanged hchanged
    · exact hbuilt.jobs_changed hold hchanged
  · intro targetId job hjob hunchanged
    rcases hjobs hjob with ⟨rfl, rfl⟩ | hold
    · rw [hmadeTarget]
      exact hmadeKept hunchanged
    · exact hbuilt.jobs_kept hold hunchanged
  · intro other hother
    by_cases hsame : other.endpointKey = spec.endpointKey
    · simp [Nexolab.installSpec, hsame]
    · have hmem : other ∈ processed := by
        rcases List.mem_append.mp hother with hmem | hlast
        · exact hmem
        · rw [List.mem_singleton.mp hlast] at hsame
          exact absurd rfl hsame
      simpa [Nexolab.installSpec, Function.update_of_ne hsame] using
        hbuilt.endpoints_present other hmem
  · intro key endpoint hend
    by_cases hsame : key = spec.endpointKey
    · subst hsame
      simpa [Nexolab.installSpec, eq_comm] using hend
    · exact hbuilt.endpoints_kept (by
        simpa [Nexolab.installSpec, Function.update_of_ne hsame] using hend)
  · intro busId targetId hmem
    by_cases hbus : busId = spec.busId
    · subst hbus
      simp only [Nexolab.installSpec, Function.update_self, List.mem_insert_iff] at hmem
      rcases hmem with rfl | hmem
      · exact ⟨spec, by simp, rfl, rfl⟩
      · obtain ⟨other, hother, hfacts⟩ := hbuilt.busJobs_spec hmem
        exact ⟨other, List.mem_append_left _ hother, hfacts⟩
    · obtain ⟨other, hother, hfacts⟩ := hbuilt.busJobs_spec (by
        simpa [Nexolab.installSpec, Function.update_of_ne hbus] using hmem)
      exact ⟨other, List.mem_append_left _ hother, hfacts⟩

theorem foldl {building : Scheduler}
    (hbuilt : BuiltFrom previous previousEndpoints deadline processed building)
    (remaining : List SchedulerTarget) :
    BuiltFrom previous previousEndpoints deadline (processed ++ remaining) (remaining.foldl
        (Nexolab.installSpec previous previousEndpoints deadline) building) := by
  induction remaining generalizing processed building with
  | nil => simpa using hbuilt
  | cons spec rest ih =>
    have hnext := ih (hbuilt.installSpec spec)
    simpa using hnext

end Scheduler.BuiltFrom

theorem Scheduler.install_spec
    {scheduler installed : Scheduler} (hplaced : registry.PlacedBy placement) {now wallNow : ℚ}
    (hinstall : scheduler.install registry now wallNow lastAttempts = .ok installed) :
    installed.Installed placement ∧
      (∀ {targetId job}, installed.jobs targetId = some job →
        JobHistory.installationChanged (scheduler.jobs targetId) (some job) = true →
        job.nextDeadline ≤ now + job.target.intervalSeconds) ∧
      (∀ {targetId job}, installed.jobs targetId = some job →
        JobHistory.installationChanged (scheduler.jobs targetId) (some job) = false →
        ∃ old, scheduler.jobs targetId = some old ∧
          old.target.intervalSeconds = job.target.intervalSeconds ∧
          job.nextDeadline = old.nextDeadline) ∧
      (∀ {key endpoint}, installed.endpoints key = some endpoint →
        endpoint = (scheduler.endpoints key).getD {}) := by
  unfold Scheduler.install at hinstall
  rw [bind_eq_ok] at hinstall
  obtain ⟨allSpecs, hspecs, hinstall⟩ := hinstall
  cases hinstall
  dsimp only
  have hempty : BuiltFrom scheduler.jobs scheduler.endpoints
      (initialDeadline scheduler.policy wallNow lastAttempts allSpecs now) []
      { scheduler with
        jobs := fun _ => none
        busJobs := fun _ => []
        endpoints := fun _ => none } := by
    constructor <;> simp
  have hbuilt := hempty.foldl allSpecs
  simp only [List.nil_append] at hbuilt
  have hspec := fun {spec} (hmem : spec ∈ allSpecs) =>
    specs_spec hplaced hspecs hmem
  refine ⟨⟨?_, ?_, ?_, ?_, ?_⟩, ?_, ?_, ?_⟩
  · intro targetId job hjob
    exact (hbuilt.jobs_target hjob).2
  · intro targetId job hjob
    obtain ⟨hmem, hkey⟩ := hbuilt.jobs_target hjob
    rw [(hspec hmem).1, hkey]
  · intro targetId job hjob
    exact Option.isSome_iff_exists.mp (hbuilt.endpoints_present _ (hbuilt.jobs_target hjob).1)
  · intro targetId job hjob
    exact (hspec (hbuilt.jobs_target hjob).1).2
  · intro busId targetId job hmem hjob
    obtain ⟨hjobMem, hkey⟩ := hbuilt.jobs_target hjob
    obtain ⟨spec, hspecMem, hspecKey, hspecBus⟩ := hbuilt.busJobs_spec hmem
    have hplace : job.target.endpointKey = spec.endpointKey := by
      rw [(hspec hjobMem).1, (hspec hspecMem).1, hkey, hspecKey]
    exact (congrArg Prod.fst hplace).trans hspecBus
  · intro targetId job hjob hchanged
    rw [hbuilt.jobs_changed hjob hchanged]
    have hminimum := (hspec (hbuilt.jobs_target hjob).1).2
    apply initialDeadline_le
    unfold cadenceMinSeconds at hminimum
    linarith
  · intro targetId job hjob hunchanged
    exact hbuilt.jobs_kept hjob hunchanged
  · intro key endpoint hend
    exact hbuilt.endpoints_kept hend

@[simp] theorem Scheduler.setMetrics_jobs (scheduler : Scheduler)
    (busId : String) (metrics : BusSchedulerMetrics) :
    (scheduler.setMetrics busId metrics).jobs = scheduler.jobs := rfl

@[simp] theorem Scheduler.setMetrics_endpoints (scheduler : Scheduler)
    (busId : String) (metrics : BusSchedulerMetrics) :
    (scheduler.setMetrics busId metrics).endpoints = scheduler.endpoints := rfl

@[simp] theorem Scheduler.setJob_self (scheduler : Scheduler)
    (targetId : String) (job : Option Job) :
    (scheduler.setJob targetId job).jobs targetId = job := by
  simp [Scheduler.setJob]

theorem Scheduler.setJob_of_ne (scheduler : Scheduler)
    {targetId other : String} (job : Option Job) (hother : other ≠ targetId) :
    (scheduler.setJob targetId job).jobs other = scheduler.jobs other := by
  simp [Scheduler.setJob, hother]

variable {target : SchedulerTarget}

theorem Scheduler.endpointOf_eq_ok {scheduler : Scheduler}
    (hend : scheduler.endpointOf target = .ok endpoint) :
    scheduler.endpoints target.endpointKey = some endpoint := by
  unfold Scheduler.endpointOf at hend
  split at hend
  next found hfound =>
    rw [Except.ok.injEq] at hend
    rw [hfound, hend]
  next => cases hend

/-- A job a bus may run at `now`: its own deadline and the cooldown of its
endpoint have passed. -/
def Scheduler.DueAt (scheduler : Scheduler) (busId : String) (now : ℚ) (job : Job) : Prop :=
  ∃ targetId ∈ scheduler.busJobs busId,
    scheduler.jobs targetId = some job ∧ job.nextDeadline ≤ now ∧
      ∃ endpoint, scheduler.endpoints job.target.endpointKey = some endpoint ∧
        endpoint.cooldownUntil ≤ now

theorem Scheduler.due_spec {scheduler : Scheduler} {busId : String} {now : ℚ}
    {items : List (Job × ℚ)} (hdue : scheduler.due busId now = .ok items)
    {item : Job × ℚ} (hitem : item ∈ items) :
    scheduler.DueAt busId now item.1 := by
  unfold Scheduler.due at hdue
  rw [bind_eq_ok] at hdue
  obtain ⟨timed, htimed, hdue⟩ := hdue
  cases hdue
  obtain ⟨hmem, hnow⟩ := List.mem_filter.mp hitem
  obtain ⟨job, hjobMem, hpair⟩ := exists_mem_of_mapM_ok htimed hmem
  rw [bind_eq_ok] at hpair
  obtain ⟨deadline, hdead, hpair⟩ := hpair
  cases hpair
  unfold Scheduler.effectiveDeadline at hdead
  rw [bind_eq_ok] at hdead
  obtain ⟨endpoint, hend, hdead⟩ := hdead
  cases hdead
  obtain ⟨targetId, htargetId, hjob⟩ := List.mem_filterMap.mp hjobMem
  simp only [decide_eq_true_eq, max_le_iff] at hnow
  exact ⟨targetId, htargetId, hjob, hnow.1,
    endpoint, Scheduler.endpointOf_eq_ok hend, hnow.2⟩

theorem earliestDue_mem (first : Job × ℚ) (rest : List (Job × ℚ)) :
    earliestDue first rest ∈ first :: rest := by
  unfold earliestDue
  induction rest generalizing first with
  | nil => simp
  | cons item others ih =>
    rw [List.foldl_cons]
    split_ifs
    · exact List.mem_cons_of_mem _ (ih item)
    · rcases List.mem_cons.mp (ih first) with hfirst | hmem
      · rw [hfirst]
        exact List.mem_cons_self
      · exact List.mem_cons_of_mem _ (List.mem_cons_of_mem _ hmem)

theorem chooseAfterHighBurst_mem (policy : SchedulerPolicy)
    (metrics : BusSchedulerMetrics) (first : Job × ℚ) (rest : List (Job × ℚ)) :
    (chooseAfterHighBurst policy metrics first rest).2 ∈ first :: rest := by
  unfold chooseAfterHighBurst
  dsimp only
  split
  next item others hnonHigh =>
    split_ifs
    · have hmem : item ∈ item :: others := List.mem_cons_self
      rw [← hnonHigh] at hmem
      exact (List.mem_filter.mp hmem).1
    · exact List.mem_cons_self
  next => exact List.mem_cons_self

theorem chooseDue_mem (policy : SchedulerPolicy) (metrics : BusSchedulerMetrics) (first : Job × ℚ)
    (rest : List (Job × ℚ)) :
    (chooseDue policy metrics first rest).2 ∈ first :: rest := by
  unfold chooseDue
  dsimp only
  split
  next item others hlow =>
    split_ifs
    · have hmem := earliestDue_mem item others
      rw [← hlow] at hmem
      exact (List.mem_filter.mp hmem).1
    · exact chooseAfterHighBurst_mem policy metrics first rest
  next => exact chooseAfterHighBurst_mem policy metrics first rest

theorem Scheduler.select_spec {scheduler selected : Scheduler} {busId : String} {now : ℚ}
    {choice : Option Job} (hselect : scheduler.select busId now = .ok (selected, choice)) :
    (∃ metrics, selected = scheduler.setMetrics busId metrics) ∧
      ∀ job, choice = some job → scheduler.DueAt busId now job := by
  unfold Scheduler.select at hselect
  rw [bind_eq_ok] at hselect
  obtain ⟨dueJobs, hdue, hselect⟩ := hselect
  rw [bind_eq_ok] at hselect
  obtain ⟨metrics, _, hselect⟩ := hselect
  dsimp only at hselect
  split at hselect
  next =>
    cases hselect
    exact ⟨⟨_, rfl⟩, by simp⟩
  next first rest hsorted =>
    cases hselect
    refine ⟨⟨_, rfl⟩, ?_⟩
    intro job hjob
    cases hjob
    have hmem := chooseDue_mem scheduler.policy (metrics.observeQueue dueJobs.length) first rest
    rw [← hsorted, (List.perm_insertionSort _ _).mem_iff] at hmem
    exact Scheduler.due_spec hdue hmem

theorem Scheduler.beginRun_spec {scheduler selected : Scheduler} {busId : String} {now : ℚ}
    {choice : Option Job} (hbegin : scheduler.beginRun busId now = .ok (selected, choice)) :
    (∃ metrics, selected = scheduler.setMetrics busId metrics) ∧
      ∀ job, choice = some job → scheduler.DueAt busId now job := by
  unfold Scheduler.beginRun at hbegin
  rw [bind_eq_ok] at hbegin
  obtain ⟨⟨chosen, option⟩, hselect, hbegin⟩ := hbegin
  obtain ⟨⟨metrics, rfl⟩, hdue⟩ := Scheduler.select_spec hselect
  cases option with
  | none =>
    cases hbegin
    exact ⟨⟨_, rfl⟩, by simp⟩
  | some job =>
    dsimp only at hbegin
    rw [bind_eq_ok] at hbegin
    obtain ⟨current, _, hbegin⟩ := hbegin
    cases hbegin
    refine ⟨⟨current.observeLag (max 0 (now - job.nextDeadline))
      scheduler.policy.deadlineToleranceSeconds, ?_⟩, hdue⟩
    simp [Scheduler.setMetrics]

/-! ## What a completion changes -/

/-- The effect of a completed poll of `target` on the maps.  A breaker trip
defers the jobs which share the endpoint to the end of the cooldown. -/
structure Scheduler.BreakerEffect (target : SchedulerTarget) (before after : Scheduler) : Prop where
  busJobs_eq : after.busJobs = before.busJobs
  endpoints_frame : ∀ key, key ≠ target.endpointKey → after.endpoints key = before.endpoints key
  endpoints_present : ∀ key, (before.endpoints key).isSome → (after.endpoints key).isSome
  jobs_effect : ∀ targetId job, after.jobs targetId = some job →
    ∃ old, before.jobs targetId = some old ∧ job.target = old.target ∧
      (job.nextDeadline = old.nextDeadline ∨ old.target.unitId = target.unitId ∧
          targetId ∈ before.busJobs target.busId ∧
          ∃ endpoint, after.endpoints target.endpointKey = some endpoint ∧
            job.nextDeadline = max old.nextDeadline endpoint.cooldownUntil)

theorem Scheduler.BreakerEffect.refl (target : SchedulerTarget)
    (scheduler : Scheduler) : BreakerEffect target scheduler scheduler :=
  ⟨rfl, fun _ _ => rfl, fun _ h => h, fun _ job hjob => ⟨job, hjob, rfl, .inl rfl⟩⟩

theorem Scheduler.BreakerEffect.setEndpoint (target : SchedulerTarget)
    (scheduler : Scheduler) (endpoint : Endpoint) :
    BreakerEffect target scheduler (scheduler.setEndpoint target.endpointKey endpoint) := by
  refine ⟨rfl, ?_, ?_, fun _ job hjob => ⟨job, hjob, rfl, .inl rfl⟩⟩
  · intro key hkey
    simp [Scheduler.setEndpoint, hkey]
  · intro key hsome
    by_cases hkey : key = target.endpointKey
    · simp [Scheduler.setEndpoint, hkey]
    · simpa [Scheduler.setEndpoint, hkey] using hsome

@[simp] theorem Scheduler.setEndpoint_self (scheduler : Scheduler)
    (key : String × ℕ) (endpoint : Endpoint) :
    (scheduler.setEndpoint key endpoint).endpoints key = some endpoint := by
  simp [Scheduler.setEndpoint]

theorem Scheduler.deferSiblings_spec {unitId : ℕ} {cooldownUntil : ℚ} {targetIds : List String}
    {current after : Scheduler} {deferred : ℕ} {result : Except SchedulerError ℕ}
    (hdefer : deferSiblings unitId cooldownUntil targetIds (current, deferred) = (after, result)) :
    after.busJobs = current.busJobs ∧ after.endpoints = current.endpoints ∧
      ∀ targetId job, after.jobs targetId = some job →
        ∃ old, current.jobs targetId = some old ∧ job.target = old.target ∧
          (job.nextDeadline = old.nextDeadline ∨ old.target.unitId = unitId ∧ targetId ∈ targetIds ∧
              job.nextDeadline = max old.nextDeadline cooldownUntil) := by
  induction targetIds generalizing current deferred with
  | nil =>
    simp only [deferSiblings, Prod.mk.injEq] at hdefer
    obtain ⟨rfl, rfl⟩ := hdefer
    exact ⟨rfl, rfl, fun _ job hjob => ⟨job, hjob, rfl, .inl rfl⟩⟩
  | cons first rest ih =>
    unfold deferSiblings at hdefer
    cases hfirst : current.jobs first with
    | none =>
      simp only [hfirst, Prod.mk.injEq] at hdefer
      obtain ⟨rfl, rfl⟩ := hdefer
      exact ⟨rfl, rfl, fun _ job hjob => ⟨job, hjob, rfl, .inl rfl⟩⟩
    | some candidate =>
      simp only [hfirst] at hdefer
      split_ifs at hdefer with hunit
      · obtain ⟨hbus, hends, hjobs⟩ := ih hdefer
        refine ⟨hbus, hends, ?_⟩
        intro targetId job hjob
        obtain ⟨old, hold, htarget, heff⟩ := hjobs targetId job hjob
        by_cases hsame : targetId = first
        · subst hsame
          rw [setJob_self] at hold
          cases hold
          refine ⟨candidate, hfirst, htarget, .inr ⟨hunit, List.mem_cons_self, ?_⟩⟩
          rcases heff with heq | ⟨_, _, heq⟩
          · exact heq
          · rw [heq, max_assoc, max_self]
        · rw [setJob_of_ne _ _ hsame] at hold
          refine ⟨old, hold, htarget, heff.imp_right ?_⟩
          rintro ⟨holdUnit, hmem, heq⟩
          exact ⟨holdUnit, List.mem_cons_of_mem _ hmem, heq⟩
      · obtain ⟨hbus, hends, hjobs⟩ := ih hdefer
        refine ⟨hbus, hends, ?_⟩
        intro targetId job hjob
        obtain ⟨old, hold, htarget, heff⟩ := hjobs targetId job hjob
        refine ⟨old, hold, htarget, heff.imp_right ?_⟩
        rintro ⟨holdUnit, hmem, heq⟩
        exact ⟨holdUnit, List.mem_cons_of_mem _ hmem, heq⟩

theorem Scheduler.trip_effect {scheduler deferredState : Scheduler}
    {cooling : Endpoint} {cooldownUntil : ℚ} {deferred : Except SchedulerError ℕ}
    (hdefer : deferSiblings target.unitId cooldownUntil
      ((scheduler.setEndpoint target.endpointKey cooling).busJobs target.busId)
      (scheduler.setEndpoint target.endpointKey cooling, 0) = (deferredState, deferred))
    (hcooling : cooling.cooldownUntil = cooldownUntil) :
    BreakerEffect target scheduler deferredState ∧
      deferredState.endpoints target.endpointKey = some cooling := by
  subst hcooling
  have hopened := BreakerEffect.setEndpoint target scheduler cooling
  obtain ⟨hbus, hends, hjobs⟩ := deferSiblings_spec hdefer
  have hreached : deferredState.endpoints target.endpointKey = some cooling := by
    rw [hends, setEndpoint_self]
  refine ⟨⟨hbus, ?_, ?_, ?_⟩, hreached⟩
  · intro key hkey
    rw [hends]
    exact hopened.endpoints_frame key hkey
  · intro key hsome
    rw [hends]
    exact hopened.endpoints_present key hsome
  · intro targetId job hjob
    obtain ⟨old, hold, htarget, hdead⟩ := hjobs targetId job hjob
    refine ⟨old, hold, htarget, hdead.imp_right ?_⟩
    rintro ⟨hunit, hmem, heq⟩
    exact ⟨hunit, hmem, cooling, hreached, heq⟩

theorem Scheduler.recordFailure_effect {metrics : BusSchedulerMetrics} {completed : ℚ}
    (hrec : scheduler.recordFailure target metrics endpoint completed = (after, result)) :
    BreakerEffect target scheduler after ∧ ∀ counters reached, result = .ok (counters, reached) →
        after.endpoints target.endpointKey = some reached := by
  unfold Scheduler.recordFailure at hrec
  dsimp only at hrec
  split_ifs at hrec with htrip
  · split at hrec
    next error hcool =>
      cases hrec
      exact ⟨.setEndpoint target scheduler _, by simp⟩
    next cooldown hcool =>
      split at hrec
      next deferredState error hdefer =>
        cases hrec
        exact ⟨(trip_effect hdefer rfl).1, by simp⟩
      next deferredState deferred hdefer =>
        cases hrec
        obtain ⟨heff, hreached⟩ := trip_effect hdefer rfl
        refine ⟨heff, ?_⟩
        intro counters reached hres
        simp only [Except.ok.injEq, Prod.mk.injEq] at hres
        rw [← hres.2]
        exact hreached
  · cases hrec
    refine ⟨.setEndpoint target scheduler _, ?_⟩
    intro counters reached hres
    simp only [Except.ok.injEq, Prod.mk.injEq] at hres
    rw [← hres.2, setEndpoint_self]

theorem Scheduler.recordOutcome_effect {metrics : BusSchedulerMetrics} {completed : ℚ}
    {failed : Bool}
    (hrec : scheduler.recordOutcome target metrics endpoint completed failed = (after, result)) :
    BreakerEffect target scheduler after ∧ ∀ counters reached, result = .ok (counters, reached) →
        after.endpoints target.endpointKey = some reached := by
  unfold Scheduler.recordOutcome at hrec
  split_ifs at hrec
  · exact recordFailure_effect hrec
  · cases hrec
    refine ⟨.setEndpoint target scheduler _, ?_⟩
    intro counters reached hres
    simp only [Except.ok.injEq, Prod.mk.injEq] at hres
    rw [← hres.2, setEndpoint_self]

theorem Scheduler.complete_spec {deadline completed duration : ℚ} {failed callbackError : Bool}
    {raised : Option SchedulerError} (hdead : deadline ≤ completed)
    (hcomp : scheduler.complete target deadline completed duration failed
      callbackError = (after, raised)) :
    ∃ recorded, BreakerEffect target scheduler recorded ∧ after.busJobs = recorded.busJobs ∧
      after.endpoints = recorded.endpoints ∧
      (∀ targetId, (raised = none → targetId ≠ target.targetId) →
        after.jobs targetId = recorded.jobs targetId) ∧
      (raised = none → ∀ job, after.jobs target.targetId = some job →
        ∃ old endpoint, scheduler.jobs target.targetId = some old ∧
          job.target = old.target ∧ after.endpoints target.endpointKey = some endpoint ∧
          job.nextDeadline ≤ max (completed + target.intervalSeconds) endpoint.cooldownUntil) := by
  unfold Scheduler.complete at hcomp
  split at hcomp
  next hnone =>
    cases hcomp
    refine ⟨scheduler, .refl target scheduler, rfl, rfl, fun _ _ => rfl, ?_⟩
    intro _ job hjob
    rw [hnone] at hjob
    cases hjob
  next current hcur =>
    split at hcomp
    next error hmetrics =>
      cases hcomp
      exact ⟨scheduler, .refl target scheduler, rfl, rfl, fun _ _ => rfl, by simp⟩
    next metrics hmetrics =>
      dsimp only at hcomp
      split at hcomp
      next error hend =>
        cases hcomp
        exact ⟨scheduler, .refl target scheduler, rfl, rfl, fun _ _ => rfl, by simp⟩
      next endpoint hend =>
        split at hcomp
        next recorded error hrec =>
          simp only [Prod.mk.injEq] at hcomp
          obtain ⟨rfl, rfl⟩ := hcomp
          obtain ⟨heff, _⟩ := recordOutcome_effect hrec
          exact ⟨recorded, ⟨heff.1, heff.2, heff.3, heff.4⟩, rfl,
            rfl, fun _ _ => rfl, by simp⟩
        next recorded counters reached hrec =>
          cases hcomp
          obtain ⟨heff, hreached⟩ := recordOutcome_effect hrec
          refine ⟨recorded, ⟨heff.1, heff.2, heff.3, heff.4⟩, rfl, rfl, ?_, ?_⟩
          · intro targetId hother
            simp [setJob_of_ne _ _ (hother rfl)]
          · intro _ job hjob
            simp only [setMetrics_jobs, setJob_self, Option.map_eq_some_iff] at hjob
            obtain ⟨waiting, hwaiting, rfl⟩ := hjob
            obtain ⟨old, hold, htarget, _⟩ :=
              heff.jobs_effect target.targetId waiting hwaiting
            refine ⟨old, reached, hold, htarget, hreached _ _ rfl, ?_⟩
            exact max_le_max (skipOverdue_le (by linarith)) le_rfl

end Nexolab
