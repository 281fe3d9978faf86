import Nexolab.PolicyEnvironment
import Nexolab.SchedulerOperations

/-!
# The backoff of a failing endpoint

A device which stays offline fails poll after poll.  Every `failure_threshold`
failures trip the breaker of its endpoint, and the cooldown doubles from trip
to trip until it reaches its maximum.  The doubling is computed before it is
capped, as an integer power which Python converts to a float.

A run of failing polls alternates completions on one endpoint with whatever
else happens to the scheduler, as long as the entry of the endpoint is left
alone.  The run records the errors of `_complete` and the cooldowns set.
-/

namespace Nexolab

/-- The maps `_complete` looks into for a bus are filled. -/
@[mk_iff] structure Scheduler.Serves (scheduler : Scheduler) (busId : String) : Prop where
  metrics : (scheduler.metrics busId).isSome
  jobs : ∀ targetId ∈ scheduler.busJobs busId, (scheduler.jobs targetId).isSome

instance (scheduler : Scheduler) (busId : String) :
    Decidable (scheduler.Serves busId) :=
  decidable_of_iff _ (scheduler.serves_iff busId).symm

structure FailingRun where
  scheduler : Scheduler
  raised : List SchedulerError
  cooldowns : List ℚ

/-- A failing poll of an installed target, or anything else which happens to
the scheduler between two of them. -/
inductive FailingAction where
  | poll (target : SchedulerTarget) (deadline completed duration : ℚ) (callbackError : Bool)
  | other (scheduler : Scheduler)

def FailingAction.isPoll : FailingAction → Bool
  | .poll .. => true
  | .other _ => false

def cooldownSet (before after : Option Endpoint) (completed : ℚ)
    (raised : Option SchedulerError) : List ℚ :=
  match before, after, raised with
  | some old, some new, none =>
    if old.tripCount < new.tripCount then [new.cooldownUntil - completed]
    else []
  | _, _, _ => []

namespace FailingRun

def step (key : String × ℕ) (run : FailingRun) :
    FailingAction → Option FailingRun
  | .poll target deadline completed duration callbackError =>
    if target.endpointKey = key ∧ (run.scheduler.jobs target.targetId).isSome then
      let result := run.scheduler.complete target deadline completed duration true callbackError
      some {
        scheduler := result.1
        raised := run.raised ++ result.2.toList
        cooldowns := run.cooldowns ++
          cooldownSet (run.scheduler.endpoints key) (result.1.endpoints key) completed result.2 }
    else none
  | .other scheduler =>
    if scheduler.policy = run.scheduler.policy ∧
        scheduler.endpoints key = run.scheduler.endpoints key ∧
        scheduler.Serves key.1 then
      some { run with scheduler }
    else none

structure Fresh (policy : SchedulerPolicy) (key : String × ℕ) (scheduler : Scheduler) : Prop where
  policy_eq : scheduler.policy = policy
  serves : scheduler.Serves key.1
  endpoint : scheduler.endpoints key = some {}

end FailingRun

def failingPolls (actions : List FailingAction) : ℕ :=
  actions.countP FailingAction.isPoll

theorem Scheduler.deferSiblings_ok {unitId : ℕ} {cooldownUntil : ℚ}
    {targetIds : List String} {current : Scheduler}
    (hjobs : ∀ targetId ∈ targetIds, (current.jobs targetId).isSome) (deferred : ℕ) :
    ∃ after count,
      deferSiblings unitId cooldownUntil targetIds (current, deferred) = (after, .ok count) ∧
      after.policy = current.policy ∧ after.metrics = current.metrics ∧
      after.busJobs = current.busJobs ∧ after.endpoints = current.endpoints ∧
      ∀ targetId, (current.jobs targetId).isSome → (after.jobs targetId).isSome := by
  induction targetIds generalizing current deferred with
  | nil => exact ⟨current, deferred, rfl, rfl, rfl, rfl, rfl, fun _ h => h⟩
  | cons first rest ih =>
    obtain ⟨candidate, hfirst⟩ :=
      Option.isSome_iff_exists.mp (hjobs first List.mem_cons_self)
    have hrest : ∀ targetId ∈ rest, (current.jobs targetId).isSome :=
      fun targetId hmem => hjobs targetId (List.mem_cons_of_mem _ hmem)
    unfold deferSiblings
    simp only [hfirst]
    split_ifs with hunit
    · let waiting : Job := { candidate with
        nextDeadline := max candidate.nextDeadline cooldownUntil }
      have hkept : ∀ targetId, (current.jobs targetId).isSome →
          ((current.setJob first (some waiting)).jobs targetId).isSome := by
        intro targetId hsome
        by_cases hsame : targetId = first
        · rw [hsame, setJob_self]
          rfl
        · rw [setJob_of_ne _ _ hsame]
          exact hsome
      have hlater : ∀ targetId ∈ rest,
          ((current.setJob first (some waiting)).jobs targetId).isSome :=
        fun targetId hmem => hkept targetId (hrest targetId hmem)
      obtain ⟨after, count, hdefer, hpolicy, hmetrics, hbus, hends, hjob⟩ :=
        ih hlater (deferred + 1)
      exact ⟨after, count, hdefer, hpolicy, hmetrics, hbus, hends,
        fun targetId hsome => hjob targetId (hkept targetId hsome)⟩
    · exact ih hrest deferred

/-- What a failing poll of an installed target does to the endpoint: it counts
a failure, trips the breaker, or raises. -/
inductive FailureOutcome (policy : SchedulerPolicy) (completed : ℚ)
    (before : Endpoint) (after : Option Endpoint) :
    Option SchedulerError → Prop
  | counted (hstreak : before.failureStreak + 1 < policy.failureThreshold)
      (hafter : after = some { before with failureStreak := before.failureStreak + 1 }) :
      FailureOutcome policy completed before after none
  | tripped (hstreak : policy.failureThreshold ≤ before.failureStreak + 1)
      (htrips : before.tripCount < 1024)
      (hafter : after = some {
        failureStreak := 0
        tripCount := before.tripCount + 1
        cooldownUntil := completed + min policy.cooldownMaxSeconds
          (policy.cooldownInitialSeconds * 2 ^ before.tripCount) }) :
      FailureOutcome policy completed before after none
  | raised (hstreak : policy.failureThreshold ≤ before.failureStreak + 1)
      (htrips : 1024 ≤ before.tripCount) :
      FailureOutcome policy completed before after (some .cooldownOverflow)

variable {scheduler : Scheduler} {target : SchedulerTarget} {failures : ℕ}

theorem Scheduler.recordFailure_outcome (hserves : scheduler.Serves target.busId)
    (metrics : BusSchedulerMetrics) (endpoint : Endpoint) (completed : ℚ) :
    ∃ recorded result, scheduler.recordFailure target metrics endpoint completed =
        (recorded, result) ∧
      recorded.policy = scheduler.policy ∧
      recorded.busJobs = scheduler.busJobs ∧
      recorded.metrics = scheduler.metrics ∧
      (∀ targetId, (scheduler.jobs targetId).isSome → (recorded.jobs targetId).isSome) ∧
      ((∃ counters reached, result = .ok (counters, reached) ∧
          recorded.endpoints target.endpointKey = some reached ∧
          FailureOutcome scheduler.policy completed endpoint (some reached) none) ∨
        result = .error .cooldownOverflow ∧ FailureOutcome scheduler.policy completed endpoint
            (recorded.endpoints target.endpointKey) (some .cooldownOverflow)) := by
  unfold Scheduler.recordFailure
  dsimp only
  split_ifs with hstreak
  · by_cases htrips : 1024 ≤ endpoint.tripCount
    · have hcool : cooldownFor scheduler.policy ((endpointAfterFailure endpoint).tripCount + 1) =
            .error .cooldownOverflow := by
        simp [cooldownFor, endpointAfterFailure, htrips]
      rw [hcool]
      exact ⟨_, _, rfl, rfl, rfl, rfl, fun _ h => h, .inr ⟨rfl, .raised hstreak htrips⟩⟩
    · have hcool : cooldownFor scheduler.policy ((endpointAfterFailure endpoint).tripCount + 1) =
            .ok (min scheduler.policy.cooldownMaxSeconds
              (scheduler.policy.cooldownInitialSeconds * 2 ^ endpoint.tripCount)) := by
        simp [cooldownFor, endpointAfterFailure, htrips]
      rw [hcool]
      dsimp only
      obtain ⟨after, count, hdefer, hpolicy, hmetrics, hbus, hends, hjobs⟩ :=
        @deferSiblings_ok target.unitId (completed + min scheduler.policy.cooldownMaxSeconds
              (scheduler.policy.cooldownInitialSeconds * 2 ^ endpoint.tripCount))
          _
          (scheduler.setEndpoint target.endpointKey
            { failureStreak := 0
              tripCount := endpoint.tripCount + 1
              cooldownUntil := completed + min scheduler.policy.cooldownMaxSeconds
                  (scheduler.policy.cooldownInitialSeconds * 2 ^ endpoint.tripCount) })
          hserves.jobs 0
      have hopened : (endpointAfterFailure endpoint).tripCount + 1 = endpoint.tripCount + 1 := rfl
      rw [hopened]
      have hbusJobs : (scheduler.setEndpoint target.endpointKey
            { failureStreak := 0
              tripCount := endpoint.tripCount + 1
              cooldownUntil := completed + min scheduler.policy.cooldownMaxSeconds
                  (scheduler.policy.cooldownInitialSeconds * 2 ^ endpoint.tripCount) }).busJobs =
          scheduler.busJobs := rfl
      rw [hbusJobs] at hbus ⊢
      rw [hdefer]
      refine ⟨_, _, rfl, hpolicy, hbus, hmetrics, hjobs, .inl ⟨_, _, rfl, ?_, ?_⟩⟩
      · rw [hends, setEndpoint_self]
      · exact .tripped hstreak (by omega) rfl
  · refine ⟨_, _, rfl, rfl, rfl, rfl, fun _ h => h,
      .inl ⟨_, _, rfl, setEndpoint_self _ _ _, .counted ?_ rfl⟩⟩
    simpa [endpointAfterFailure] using hstreak

theorem Scheduler.complete_failing {endpoint : Endpoint} (hserves : scheduler.Serves target.busId)
    (hjob : (scheduler.jobs target.targetId).isSome)
    (hendpoint : scheduler.endpoints target.endpointKey = some endpoint)
    (deadline completed duration : ℚ) (callbackError : Bool) :
    ∃ after raised, scheduler.complete target deadline completed duration true callbackError =
        (after, raised) ∧
      after.policy = scheduler.policy ∧ after.Serves target.busId ∧
      (after.jobs target.targetId).isSome ∧
      FailureOutcome scheduler.policy completed endpoint
        (after.endpoints target.endpointKey) raised := by
  obtain ⟨current, hcur⟩ := Option.isSome_iff_exists.mp hjob
  obtain ⟨metrics, hmetrics⟩ := Option.isSome_iff_exists.mp hserves.metrics
  let observed := metrics.observeCompletion target.priority completed duration
    target.intervalSeconds true callbackError
  let counted := scheduler.setMetrics target.busId observed
  have hcounted : counted.Serves target.busId :=
    ⟨by simp [counted, Scheduler.setMetrics], hserves.jobs⟩
  obtain ⟨recorded, result, hrec, hpolicy, hbus, hmetrics', hjobs, hout⟩ :=
    recordFailure_outcome hcounted observed endpoint completed
  have hrecorded : recorded.Serves target.busId := by
    constructor
    · rw [hmetrics']
      exact hcounted.metrics
    · rw [hbus]
      exact fun targetId hmem => hjobs targetId (hcounted.jobs targetId hmem)
  have hlookup : counted.endpointOf target = .ok endpoint := by
    unfold Scheduler.endpointOf
    rw [show counted.endpoints target.endpointKey = some endpoint from hendpoint]
  have hmetricsOf : scheduler.metricsOf target.busId = .ok metrics := by
    unfold Scheduler.metricsOf
    rw [hmetrics]
  unfold Scheduler.complete
  simp only [hcur, hmetricsOf, Scheduler.recordOutcome, reduceIte]
  rw [show (scheduler.setMetrics target.busId (metrics.observeCompletion
      target.priority completed duration target.intervalSeconds true
      callbackError)).endpointOf target = .ok endpoint from hlookup]
  dsimp only
  rw [hrec]
  rcases hout with ⟨counters, reached, rfl, hreached, hout⟩ |
    ⟨rfl, hout⟩
  · refine ⟨_, _, rfl, hpolicy, ⟨?_, ?_⟩, ?_, ?_⟩
    · simp [Scheduler.setMetrics]
    · intro targetId hmem
      have hsome := hrecorded.jobs targetId hmem
      by_cases hsame : targetId = target.targetId
      · subst hsame
        simpa [Scheduler.setMetrics, Scheduler.setJob] using hsome
      · simpa [Scheduler.setMetrics, Scheduler.setJob, hsame] using hsome
    · have hsome := hjobs target.targetId hjob
      simpa [Scheduler.setMetrics, Scheduler.setJob] using hsome
    · change FailureOutcome scheduler.policy completed endpoint
        (recorded.endpoints target.endpointKey) none
      rw [hreached]
      exact hout
  · exact ⟨recorded, _, rfl, hpolicy, hrecorded, hjobs target.targetId hjob, hout⟩

/-! ## Runs of failing polls -/

def SchedulerPolicy.backoff (policy : SchedulerPolicy) (trips : ℕ) : ℚ :=
  min policy.cooldownMaxSeconds (policy.cooldownInitialSeconds * 2 ^ trips)

variable {policy : SchedulerPolicy} {key : String × ℕ}

theorem SchedulerPolicy.Accepted.backoff_bounds (hacc : policy.Accepted) (trips : ℕ) :
    policy.cooldownInitialSeconds ≤ policy.backoff trips ∧
      policy.backoff trips ≤ policy.cooldownMaxSeconds := by
  have hpower : (1 : ℚ) ≤ 2 ^ trips := one_le_pow₀ (by norm_num)
  have hinitial := hacc.initial_ge
  constructor
  · apply le_min hacc.initial_le
    nlinarith
  · exact min_le_left _ _

theorem SchedulerPolicy.Accepted.backoff_le
    (hacc : policy.Accepted) {fewer more : ℕ} (hle : fewer ≤ more) :
    policy.backoff fewer ≤ policy.backoff more := by
  have hpower : (2 : ℚ) ^ fewer ≤ 2 ^ more :=
    pow_le_pow_right₀ (by norm_num) hle
  have hinitial := hacc.initial_ge
  apply min_le_min le_rfl
  nlinarith

/-- After `failures` failing polls the endpoint has tripped once for every
full streak, each time with the next cooldown of the backoff. -/
structure FailingRun.BackedOff (policy : SchedulerPolicy) (key : String × ℕ)
    (failures : ℕ) (run : FailingRun) : Prop where
  policy_eq : run.scheduler.policy = policy
  serves : run.scheduler.Serves key.1
  raised_nil : run.raised = []
  endpoint : ∃ endpoint, run.scheduler.endpoints key = some endpoint ∧
    endpoint.failureStreak = failures % policy.failureThreshold ∧
    endpoint.tripCount = failures / policy.failureThreshold
  cooldowns : run.cooldowns = (List.range (failures / policy.failureThreshold)).map policy.backoff

/-- The polls an endpoint can fail before the power of its backoff leaves the
range of a float. -/
def SchedulerPolicy.failureLimit (policy : SchedulerPolicy) : ℕ :=
  1025 * policy.failureThreshold

theorem FailingRun.BackedOff.other {run next : FailingRun}
    (hrun : run.BackedOff policy key failures)
    (hstep : run.step key (.other scheduler) = some next) :
    next.BackedOff policy key failures := by
  simp only [FailingRun.step] at hstep
  split_ifs at hstep with hsame
  obtain ⟨hpolicy, hendpoint, hserves⟩ := hsame
  cases hstep
  exact ⟨hpolicy.trans hrun.policy_eq, hserves, hrun.raised_nil,
    hendpoint ▸ hrun.endpoint, hrun.cooldowns⟩

theorem FailingRun.BackedOff.poll (hacc : policy.Accepted)
    {run next : FailingRun} (hrun : run.BackedOff policy key failures)
    (hlimit : failures < policy.failureLimit) {deadline completed duration : ℚ}
    {callbackError : Bool}
    (hstep : run.step key (.poll target deadline completed duration callbackError) = some next) :
    if failures + 1 < policy.failureLimit
    then next.BackedOff policy key (failures + 1)
    else next.raised ≠ [] := by
  simp only [FailingRun.step] at hstep
  split_ifs at hstep with hpolled
  obtain ⟨rfl, hjob⟩ := hpolled
  obtain ⟨endpoint, hendpoint, hstreak, htrips⟩ := hrun.endpoint
  obtain ⟨after, raised, hcomp, hpolicy, hserves, _, hout⟩ :=
    Scheduler.complete_failing hrun.serves hjob hendpoint deadline completed duration callbackError
  cases hstep
  rw [hcomp]
  rw [hrun.policy_eq] at hout hpolicy
  have hthreshold := hacc.threshold_pos
  have hdivided := Nat.div_add_mod failures policy.failureThreshold
  unfold SchedulerPolicy.failureLimit at hlimit ⊢
  rw [← hstreak, ← htrips] at hdivided
  cases hout with
  | counted hbelow hafter =>
    have hsplit : failures + 1 = policy.failureThreshold * endpoint.tripCount +
          (endpoint.failureStreak + 1) := by omega
    have hmod : (failures + 1) % policy.failureThreshold = endpoint.failureStreak + 1 := by
      rw [hsplit, Nat.mul_add_mod, Nat.mod_eq_of_lt hbelow]
    have hdiv : (failures + 1) / policy.failureThreshold = endpoint.tripCount := by
      rw [hsplit, Nat.mul_add_div hthreshold, Nat.div_eq_of_lt hbelow, add_zero]
    have hwithin : failures + 1 < 1025 * policy.failureThreshold := by
      have htripped : endpoint.tripCount < 1025 := by
        rw [htrips]
        exact Nat.div_lt_of_lt_mul (by omega)
      have hle : policy.failureThreshold * endpoint.tripCount ≤ policy.failureThreshold * 1024 :=
        Nat.mul_le_mul_left _ (by omega)
      omega
    rw [if_pos hwithin]
    constructor
    case policy_eq => exact hpolicy
    case serves => exact hserves
    case raised_nil => simp [hrun.raised_nil]
    case endpoint => exact ⟨_, hafter, hmod.symm, hdiv.symm⟩
    case cooldowns =>
      simp [hendpoint, hafter, cooldownSet, hrun.cooldowns, hdiv, htrips]
  | tripped habove hbelow hafter =>
    have hbound := Nat.mod_lt failures hthreshold
    have hsplit : failures + 1 = policy.failureThreshold * (endpoint.tripCount + 1) := by
      rw [Nat.mul_add, Nat.mul_one]
      omega
    have hmod : (failures + 1) % policy.failureThreshold = 0 := by
      rw [hsplit, Nat.mul_mod_right]
    have hdiv : (failures + 1) / policy.failureThreshold = endpoint.tripCount + 1 := by
      rw [hsplit, Nat.mul_div_cancel_left _ hthreshold]
    have hwithin : failures + 1 < 1025 * policy.failureThreshold := by
      rw [hsplit, Nat.mul_comm]
      exact Nat.mul_lt_mul_of_pos_right (by omega) hthreshold
    rw [if_pos hwithin]
    constructor
    case policy_eq => exact hpolicy
    case serves => exact hserves
    case raised_nil => simp [hrun.raised_nil]
    case endpoint => exact ⟨_, hafter, hmod.symm, hdiv.symm⟩
    case cooldowns =>
      simp [hendpoint, hafter, cooldownSet, hrun.cooldowns, hdiv, ← htrips,
        List.range_succ, SchedulerPolicy.backoff]
  | raised habove hmany =>
    have hexceeded : ¬ failures + 1 < 1025 * policy.failureThreshold := by
      have hle : policy.failureThreshold * 1024 ≤ policy.failureThreshold * endpoint.tripCount :=
        Nat.mul_le_mul_left _ hmany
      omega
    rw [if_neg hexceeded]
    simp

theorem FailingRun.raised_kept {run last : FailingRun}
    {actions : List FailingAction} (hraised : run.raised ≠ [])
    (hrun : runFrom (FailingRun.step key) run actions = some last) :
    last.raised ≠ [] := by
  induction actions generalizing run with
  | nil =>
    rw [runFrom_nil, Option.some.injEq] at hrun
    exact hrun ▸ hraised
  | cons action rest ih =>
    obtain ⟨next, hstep, hrest⟩ := runFrom_cons_eq_some hrun
    refine ih ?_ hrest
    cases action with
    | poll target deadline completed duration callbackError =>
      simp only [FailingRun.step] at hstep
      split_ifs at hstep
      cases hstep
      simp [hraised]
    | other scheduler =>
      simp only [FailingRun.step] at hstep
      split_ifs at hstep
      cases hstep
      exact hraised

theorem FailingRun.BackedOff.run (hacc : policy.Accepted)
    {run last : FailingRun} {actions : List FailingAction}
    (hbacked : run.BackedOff policy key failures) (hlimit : failures < policy.failureLimit)
    (hrun : runFrom (FailingRun.step key) run actions = some last) :
    if failures + failingPolls actions < policy.failureLimit
    then last.BackedOff policy key (failures + failingPolls actions)
    else last.raised ≠ [] := by
  induction actions generalizing run failures with
  | nil =>
    rw [runFrom_nil] at hrun
    cases hrun
    simpa [failingPolls, hlimit] using hbacked
  | cons action rest ih =>
    obtain ⟨next, hstep, hrest⟩ := runFrom_cons_eq_some hrun
    cases action with
    | other scheduler =>
      have hcount : failingPolls (.other scheduler :: rest) = failingPolls rest := by
        rw [failingPolls, List.countP_cons_of_neg Bool.false_ne_true, failingPolls]
      rw [hcount]
      exact ih (hbacked.other hstep) hlimit hrest
    | poll target deadline completed duration callbackError =>
      have hcount : failures + failingPolls
            (.poll target deadline completed duration callbackError :: rest) =
          failures + 1 + failingPolls rest := by
        rw [failingPolls, List.countP_cons_of_pos rfl, failingPolls]
        omega
      rw [hcount]
      have hpoll := hbacked.poll hacc hlimit hstep
      split_ifs at hpoll with hmore
      · exact ih hpoll hmore hrest
      · have hexceeded : ¬ failures + 1 + failingPolls rest < policy.failureLimit := by omega
        rw [if_neg hexceeded]
        exact raised_kept hpoll hrest

structure FailingRun.Orderly (policy : SchedulerPolicy) (run : FailingRun) :
    Prop where
  raised_nil : run.raised = []
  bounded : ∀ cooldown ∈ run.cooldowns, policy.cooldownInitialSeconds ≤ cooldown ∧
      cooldown ≤ policy.cooldownMaxSeconds
  nondecreasing : run.cooldowns.Pairwise (· ≤ ·)

theorem FailingRun.BackedOff.orderly (hacc : policy.Accepted)
    {run : FailingRun} (hbacked : run.BackedOff policy key failures) :
    run.Orderly policy := by
  constructor
  case raised_nil => exact hbacked.raised_nil
  case bounded =>
    intro cooldown hmem
    rw [hbacked.cooldowns] at hmem
    obtain ⟨trips, _, rfl⟩ := List.mem_map.mp hmem
    exact hacc.backoff_bounds trips
  case nondecreasing =>
    rw [hbacked.cooldowns, List.pairwise_map]
    exact List.pairwise_le_range.imp fun hle => hacc.backoff_le hle

theorem FailingRun.Fresh.backedOff (hfresh : FailingRun.Fresh policy key scheduler) :
    FailingRun.BackedOff policy key 0 ⟨scheduler, [], []⟩ :=
  ⟨hfresh.policy_eq, hfresh.serves, rfl, ⟨{}, hfresh.endpoint, by simp, by simp⟩, by simp⟩

/-- The completions of a run of failing polls are orderly exactly as long as
the endpoint has failed fewer than 1025 full streaks in a row. -/
theorem failingRun_orderly_iff
    {environment : PolicyEnvironment} {legacyIntervalSeconds : ℚ}
    {policy : SchedulerPolicy}
    (hread : SchedulerPolicy.fromEnvironment environment
      legacyIntervalSeconds = .ok policy)
    {key : String × ℕ} {scheduler : Scheduler}
    (hfresh : FailingRun.Fresh policy key scheduler)
    {actions : List FailingAction} {last : FailingRun}
    (hrun : runFrom (FailingRun.step key) ⟨scheduler, [], []⟩ actions = some last) :
    last.Orderly policy ↔
      failingPolls actions < 1025 * policy.failureThreshold := by
  have hacc := SchedulerPolicy.fromEnvironment_accepted hread
  have hthreshold := hacc.threshold_pos
  have hlimit : 0 < policy.failureLimit := by
    unfold SchedulerPolicy.failureLimit
    omega
  have hend := hfresh.backedOff.run hacc hlimit hrun
  rw [Nat.zero_add] at hend
  constructor
  · intro horderly
    by_contra hexceeded
    have hraised : last.raised ≠ [] := by
      rwa [if_neg (show ¬ _ < policy.failureLimit from hexceeded)] at hend
    exact hraised horderly.raised_nil
  · intro hwithin
    have hbacked : last.BackedOff policy key (failingPolls actions) := by
      rwa [if_pos (show _ < policy.failureLimit from hwithin)] at hend
    exact hbacked.orderly hacc

def offlineTarget : SchedulerTarget where
  targetId := "xjp60d:7-01"
  busId := "rs485-main"
  deviceId := "xjp60d-7"
  deviceFamily := "xjp60d"
  unitId := 7
  key := "7-01"
  telemetryChannelId := "7-01"
  metric := "temperature.probe"
  unit := "°C"
  priority := .high
  intervalSeconds := 10

def offlineBus (policy : SchedulerPolicy) : Scheduler where
  policy
  jobs := fun targetId =>
    if targetId = "xjp60d:7-01" then some ⟨offlineTarget, 0, 1⟩ else none
  busJobs := fun _ => ["xjp60d:7-01"]
  endpoints := fun _ => some {}
  metrics := fun _ => some {}
  sequence := 1
  registryRevision := 1

theorem offlineBus_fresh (policy : SchedulerPolicy) :
    FailingRun.Fresh policy ("rs485-main", 7) (offlineBus policy) :=
  ⟨rfl, ⟨rfl, by simp [offlineBus]⟩, rfl⟩

def offlinePoll : FailingAction := .poll offlineTarget 0 1 1 false

theorem FailingRun.BackedOff.offlinePolls (hacc : policy.Accepted) (polls : ℕ) {run : FailingRun}
    (hbacked : run.BackedOff policy ("rs485-main", 7) failures)
    (hjob : (run.scheduler.jobs "xjp60d:7-01").isSome)
    (hlimit : failures + polls ≤ policy.failureLimit) :
    ∃ last, runFrom (FailingRun.step ("rs485-main", 7)) run
      (List.replicate polls offlinePoll) = some last := by
  induction polls generalizing failures run with
  | zero => exact ⟨run, rfl⟩
  | succ polls ih =>
    obtain ⟨endpoint, hendpoint, _⟩ := hbacked.endpoint
    obtain ⟨after, raised, hcomp, _, _, hafter, _⟩ :=
      @Scheduler.complete_failing _ offlineTarget _ hbacked.serves hjob hendpoint 0 1 1 false
    have hstep : run.step ("rs485-main", 7) offlinePoll = some {
        scheduler := after
        raised := run.raised ++ raised.toList
        cooldowns := run.cooldowns ++ cooldownSet (run.scheduler.endpoints ("rs485-main", 7))
            (after.endpoints ("rs485-main", 7)) 1 raised } := by
      rw [offlinePoll, FailingRun.step, if_pos ⟨rfl, hjob⟩]
      simp only [hcomp]
    rw [List.replicate_succ, runFrom_cons_of_step hstep]
    cases polls with
    | zero => exact ⟨_, rfl⟩
    | succ remaining =>
      have hpoll := hbacked.poll hacc (by omega) hstep
      rw [if_pos (by omega)] at hpoll
      exact ih hpoll hafter (by omega)

def oneFailureEnvironment : PolicyEnvironment where
  asFloat := fun _ => .blank
  asInt := fun name =>
    if name = "ACQUISITION_FAILURE_THRESHOLD" then .number 1 else .blank

def oneFailurePolicy : SchedulerPolicy where
  highIntervalSeconds := 5
  mediumIntervalSeconds := 10
  lowIntervalSeconds := 30
  failureThreshold := 1

theorem oneFailureEnvironment_read :
    SchedulerPolicy.fromEnvironment oneFailureEnvironment 5 = .ok oneFailurePolicy := by
  decide +kernel

theorem failingRun_orderly_iff_one :
    ∃ last, runFrom (FailingRun.step ("rs485-main", 7))
        ⟨offlineBus oneFailurePolicy, [], []⟩ [offlinePoll] = some last ∧
      (last.Orderly oneFailurePolicy ↔ 1 < 1025 * 1) := by
  have hacc :=
    SchedulerPolicy.fromEnvironment_accepted oneFailureEnvironment_read
  have hfresh := offlineBus_fresh oneFailurePolicy
  obtain ⟨last, hrun⟩ := hfresh.backedOff.offlinePolls hacc 1 rfl (by decide +kernel)
  exact ⟨last, hrun, failingRun_orderly_iff oneFailureEnvironment_read hfresh hrun⟩

/-- The device fails 1025 polls in a row, each of which trips the breaker. -/
theorem failingRun_overflows :
    ¬ ∀ environment legacyIntervalSeconds policy key scheduler actions last,
      SchedulerPolicy.fromEnvironment environment legacyIntervalSeconds = .ok policy →
      FailingRun.Fresh policy key scheduler →
      runFrom (FailingRun.step key) ⟨scheduler, [], []⟩ actions = some last →
      last.Orderly policy := by
  intro hclaim
  have hacc :=
    SchedulerPolicy.fromEnvironment_accepted oneFailureEnvironment_read
  have hfresh := offlineBus_fresh oneFailurePolicy
  obtain ⟨polls, hpolls⟩ : ∃ polls, polls = oneFailurePolicy.failureLimit :=
    ⟨_, rfl⟩
  obtain ⟨last, hrun⟩ := hfresh.backedOff.offlinePolls hacc polls rfl (by omega)
  have hlimit : 0 < oneFailurePolicy.failureLimit := by decide +kernel
  have hend := hfresh.backedOff.run hacc hlimit hrun
  have hcount : failingPolls (List.replicate polls offlinePoll) = polls := by
    rw [failingPolls, List.countP_replicate]
    rfl
  rw [hcount, if_neg (by omega)] at hend
  have horderly := hclaim _ _ _ _ _ _ _ oneFailureEnvironment_read hfresh hrun
  exact hend horderly.raised_nil

end Nexolab
