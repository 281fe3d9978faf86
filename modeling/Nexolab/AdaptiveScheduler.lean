import Nexolab.SchedulerPolicy

/-!
# The adaptive acquisition scheduler

The scheduler keeps one job per eligible target, one circuit breaker per
endpoint and one set of counters per bus.  `install` rebuilds the three maps
from a registry, `select` chooses the next due job of a bus, and `complete`
moves the deadline of the job and the breaker of its endpoint once a read is
over.  Each of them runs inside one critical section.

Dictionaries are partial functions of their keys.  A lookup which raises
`KeyError` in the source is an `Except` here; `complete` returns the state it
has reached together with the error, since its updates are made in place.
-/

namespace Nexolab

structure Job where
  target : SchedulerTarget
  nextDeadline : ℚ
  sequence : ℕ
  deriving DecidableEq

structure Endpoint where
  failureStreak : ℕ := 0
  tripCount : ℕ := 0
  cooldownUntil : ℚ := 0
  deriving DecidableEq

inductive SchedulerError where
  | missingEndpoint (endpointKey : String × ℕ)
  | missingMetrics (busId : String)
  | missingJob (targetId : String)
  | cooldownOverflow
  deriving DecidableEq

structure Scheduler where
  policy : SchedulerPolicy
  jobs : String → Option Job
  busJobs : String → List String
  endpoints : String × ℕ → Option Endpoint
  metrics : String → Option BusSchedulerMetrics
  (sequence registryRevision : ℕ)

/-- What the latest-value store knows of the previous attempt on a target: an
ISO timestamp in seconds of wall-clock time, or a text which does not parse. -/
inductive LastAttempt where
  | unparsable
  | at (attempted : ℚ)

/-! ## Installing a registry -/

def specBefore (left right : SchedulerTarget) : Prop :=
  left.busId < right.busId ∨ left.busId = right.busId ∧
      (left.priority.rank < right.priority.rank ∨
        left.priority.rank = right.priority.rank ∧ left.targetId ≤ right.targetId)

instance : DecidableRel specBefore := fun _ _ =>
  inferInstanceAs (Decidable (_ ∨ _ ∧ (_ ∨ _ ∧ _)))

def specOf (policy : SchedulerPolicy) (registry : AcquisitionRegistry)
    (target : RegistryTarget) : Except RegistryError SchedulerTarget := do
  let device ← registry.device target.deviceId
  let cadence ← registry.effectiveCadenceForDevice device.deviceId
  return {
    targetId := target.targetId
    busId := device.busId
    deviceId := device.deviceId
    deviceFamily := device.deviceFamily
    unitId := device.unitId
    key := target.key
    telemetryChannelId := target.telemetryChannelId
    metric := target.metric
    unit := target.unit
    priority := policy.priorityFor target
    intervalSeconds := cadence.1 }

def specs (policy : SchedulerPolicy) (registry : AcquisitionRegistry) :
    Except RegistryError (List SchedulerTarget) := do
  let eligible ← registry.eligibleTargets
  let result ← eligible.mapM (specOf policy registry)
  return result.insertionSort specBefore

/-- The delay before the first poll of a target: its place in the startup
spread of its bus and priority, or what is left of its interval since the
attempt the latest-value store remembers. -/
def initialDelay (policy : SchedulerPolicy) (wallNow : ℚ)
    (attempt : Option LastAttempt) (groupSize index : ℕ) (intervalSeconds : ℚ) : ℚ :=
  let spread := min intervalSeconds policy.startupSpreadSeconds
  let delay := max (1 / 20) (spread * (index + 1) / (groupSize + 1))
  match attempt with
  | some (.at attempted) =>
    let age := max 0 (wallNow - attempted)
    if age < intervalSeconds then max (1 / 20) (intervalSeconds - age)
    else delay
  | some .unparsable => delay
  | none => delay

def initialDeadline (policy : SchedulerPolicy) (wallNow : ℚ)
    (lastAttempts : String → Option LastAttempt)
    (allSpecs : List SchedulerTarget) (now : ℚ) (spec : SchedulerTarget) : ℚ :=
  let group := allSpecs.filter fun other =>
    other.busId = spec.busId ∧ other.priority = spec.priority
  let index := group.findIdx fun other => other.targetId = spec.targetId
  now + initialDelay policy wallNow (lastAttempts spec.targetId)
    group.length index spec.intervalSeconds

/-- One iteration of the loop of `_install`: `previous` and
`previousEndpoints` are the maps before the installation, the accumulator
holds the maps being built. -/
def installSpec (previous : String → Option Job) (previousEndpoints : String × ℕ → Option Endpoint)
    (deadline : SchedulerTarget → ℚ) (building : Scheduler) (spec : SchedulerTarget) : Scheduler :=
  let sequence :=
    match previous spec.targetId with
    | none => building.sequence + 1
    | some _ => building.sequence
  let job : Job :=
    match previous spec.targetId with
    | none => ⟨spec, deadline spec, building.sequence + 1⟩
    | some job =>
      { target := spec
        nextDeadline :=
          if job.target.intervalSeconds ≠ spec.intervalSeconds
          then deadline spec
          else job.nextDeadline
        sequence := job.sequence }
  { building with
    sequence
    jobs := Function.update building.jobs spec.targetId (some job)
    busJobs := Function.update building.busJobs spec.busId
      ((building.busJobs spec.busId).insert spec.targetId)
    endpoints := Function.update building.endpoints spec.endpointKey
      (some ((previousEndpoints spec.endpointKey).getD {}))
    metrics := Function.update building.metrics spec.busId
      (some ((building.metrics spec.busId).getD {})) }

/-- `_install` with `preserve=True`.  A new scheduler installs its first
registry over empty maps, which is what `preserve=False` amounts to there. -/
def Scheduler.install (scheduler : Scheduler) (registry : AcquisitionRegistry)
    (now wallNow : ℚ) (lastAttempts : String → Option LastAttempt) :
    Except RegistryError Scheduler := do
  let allSpecs ← specs scheduler.policy registry
  let deadline :=
    initialDeadline scheduler.policy wallNow lastAttempts allSpecs now
  let building : Scheduler :=
    { scheduler with
      jobs := fun _ => none
      busJobs := fun _ => []
      endpoints := fun _ => none }
  let built := allSpecs.foldl (installSpec scheduler.jobs scheduler.endpoints deadline) building
  return { built with registryRevision := registry.revision }

def Scheduler.empty (policy : SchedulerPolicy) : Scheduler where
  policy
  jobs := fun _ => none
  busJobs := fun _ => []
  endpoints := fun _ => none
  metrics := fun _ => none
  sequence := 0
  registryRevision := 0

namespace Scheduler

variable (scheduler : Scheduler)

def endpointOf (target : SchedulerTarget) : Except SchedulerError Endpoint :=
  match scheduler.endpoints target.endpointKey with
  | some endpoint => .ok endpoint
  | none => .error (.missingEndpoint target.endpointKey)

def metricsOf (busId : String) : Except SchedulerError BusSchedulerMetrics :=
  match scheduler.metrics busId with
  | some metrics => .ok metrics
  | none => .error (.missingMetrics busId)

def setMetrics (busId : String) (metrics : BusSchedulerMetrics) : Scheduler :=
  { scheduler with
    metrics := Function.update scheduler.metrics busId (some metrics) }

def setJob (targetId : String) (job : Option Job) : Scheduler :=
  { scheduler with jobs := Function.update scheduler.jobs targetId job }

def effectiveDeadline (job : Job) : Except SchedulerError ℚ := do
  let endpoint ← scheduler.endpointOf job.target
  return max job.nextDeadline endpoint.cooldownUntil

def due (busId : String) (now : ℚ) :
    Except SchedulerError (List (Job × ℚ)) := do
  let known := (scheduler.busJobs busId).filterMap scheduler.jobs
  let timed ← known.mapM fun job => do
    let deadline ← scheduler.effectiveDeadline job
    return (job, deadline)
  return timed.filter fun item => item.2 ≤ now

end Scheduler

def dueBefore (left right : Job × ℚ) : Prop :=
  left.1.target.priority.rank < right.1.target.priority.rank ∨
    left.1.target.priority.rank = right.1.target.priority.rank ∧
      (left.2 < right.2 ∨ left.2 = right.2 ∧ left.1.sequence ≤ right.1.sequence)

instance : DecidableRel dueBefore := fun _ _ =>
  inferInstanceAs (Decidable (_ ∨ _ ∧ (_ ∨ _ ∧ _)))

/-- `min(low_due, key=(effective_deadline, sequence))`: the first minimal
element. -/
def earliestDue (first : Job × ℚ) (rest : List (Job × ℚ)) : Job × ℚ :=
  rest.foldl (fun best item =>
      if item.2 < best.2 ∨ item.2 = best.2 ∧ item.1.sequence < best.1.sequence
      then item else best)
    first

/-- The high-burst guard: after a burst of high-priority polls the first due
job of another class is preferred. -/
def chooseAfterHighBurst (policy : SchedulerPolicy)
    (metrics : BusSchedulerMetrics) (first : Job × ℚ)
    (rest : List (Job × ℚ)) : BusSchedulerMetrics × (Job × ℚ) :=
  let sortedDue := first :: rest
  match sortedDue.filter fun item => item.1.target.priority ≠ .high with
  | item :: _ =>
    if policy.fairnessHighBurst ≤ metrics.consecutiveHigh then
      (metrics.forceFairness false
        (sortedDue.countP fun item => item.1.target.priority = .high), item)
    else (metrics, first)
  | [] => (metrics, first)

/-- The choice among the sorted due jobs; the counters record a forced
choice. -/
def chooseDue (policy : SchedulerPolicy) (metrics : BusSchedulerMetrics)
    (first : Job × ℚ) (rest : List (Job × ℚ)) :
    BusSchedulerMetrics × (Job × ℚ) :=
  let sortedDue := first :: rest
  match sortedDue.filter fun item => item.1.target.priority = .low with
  | item :: others =>
    if policy.fairnessLowBurst ≤ metrics.consecutiveNonLow then
      (metrics.forceFairness true (sortedDue.length - 1), earliestDue item others)
    else chooseAfterHighBurst policy metrics first rest
  | [] => chooseAfterHighBurst policy metrics first rest

namespace Scheduler

variable (scheduler : Scheduler)

def select (busId : String) (now : ℚ) :
    Except SchedulerError (Scheduler × Option Job) := do
  let dueJobs ← scheduler.due busId now
  let metrics ← scheduler.metricsOf busId
  let observed := metrics.observeQueue dueJobs.length
  match dueJobs.insertionSort dueBefore with
  | [] => return (scheduler.setMetrics busId observed, none)
  | first :: rest =>
    let choice := chooseDue scheduler.policy observed first rest
    return (scheduler.setMetrics busId choice.1, some choice.2.1)

/-- The first critical section of `run_once`: the selected job and the
deadline it was selected with. -/
def beginRun (busId : String) (now : ℚ) :
    Except SchedulerError (Scheduler × Option Job) := do
  let (selected, choice) ← scheduler.select busId now
  match choice with
  | none => return (selected, none)
  | some job =>
    let metrics ← selected.metricsOf busId
    let lagged := metrics.observeLag (max 0 (now - job.nextDeadline))
      scheduler.policy.deadlineToleranceSeconds
    return (selected.setMetrics busId lagged, some job)

/-- `cooldown_initial_seconds * 2 ** (trip_count - 1)` capped by the maximum.
Python converts the integer power to a float first, which overflows from
`2 ** 1024` on. -/
def cooldownFor (policy : SchedulerPolicy) (tripCount : ℕ) :
    Except SchedulerError ℚ :=
  if 1024 ≤ tripCount - 1 then .error .cooldownOverflow
  else .ok (min policy.cooldownMaxSeconds
    (policy.cooldownInitialSeconds * 2 ^ (tripCount - 1)))

/-- The deferral loop of a breaker trip: every job of the bus with this unit
waits at least until the cooldown is over. -/
def deferSiblings (unitId : ℕ) (cooldownUntil : ℚ) :
    List String → Scheduler × ℕ → Scheduler × Except SchedulerError ℕ
  | [], (current, deferred) => (current, .ok deferred)
  | targetId :: rest, (current, deferred) =>
    match current.jobs targetId with
    | none => (current, .error (.missingJob targetId))
    | some candidate =>
      if candidate.target.unitId = unitId then
        let waiting : Job := { candidate with
          nextDeadline := max candidate.nextDeadline cooldownUntil }
        deferSiblings unitId cooldownUntil rest
          (current.setJob targetId (some waiting), deferred + 1)
      else
        deferSiblings unitId cooldownUntil rest (current, deferred)

end Scheduler

/-- `while next_deadline <= completed: next_deadline += interval`, with the
number of iterations bounded by the first argument. -/
def skipOverdue (interval completed : ℚ) : ℕ → ℚ → ℕ → ℚ × ℕ
  | 0, nextDeadline, skipped => (nextDeadline, skipped)
  | fuel + 1, nextDeadline, skipped =>
    if nextDeadline ≤ completed then
      skipOverdue interval completed fuel (nextDeadline + interval) (skipped + 1)
    else (nextDeadline, skipped)

def overdueFuel (interval completed nextDeadline : ℚ) : ℕ :=
  (⌊(completed - nextDeadline) / interval⌋ + 1).toNat

namespace Scheduler

def endpointAfterFailure (endpoint : Endpoint) : Endpoint :=
  { endpoint with failureStreak := endpoint.failureStreak + 1 }

def endpointAfterSuccess (_endpoint : Endpoint) : Endpoint :=
  { failureStreak := 0, tripCount := 0, cooldownUntil := 0 }

def setEndpoint (scheduler : Scheduler) (key : String × ℕ) (endpoint : Endpoint) : Scheduler :=
  { scheduler with
    endpoints := Function.update scheduler.endpoints key (some endpoint) }

def recordFailure (scheduler : Scheduler) (target : SchedulerTarget)
    (metrics : BusSchedulerMetrics) (endpoint : Endpoint) (completed : ℚ) :
    Scheduler × Except SchedulerError (BusSchedulerMetrics × Endpoint) :=
  let failing := endpointAfterFailure endpoint
  if scheduler.policy.failureThreshold ≤ failing.failureStreak then
    let tripped := { failing with tripCount := failing.tripCount + 1 }
    match cooldownFor scheduler.policy tripped.tripCount with
    | .error error =>
      (scheduler.setEndpoint target.endpointKey tripped, .error error)
    | .ok cooldown =>
      let cooling : Endpoint :=
        { tripped with
          cooldownUntil := completed + cooldown
          failureStreak := 0 }
      let opened := scheduler.setEndpoint target.endpointKey cooling
      match deferSiblings target.unitId cooling.cooldownUntil
          (opened.busJobs target.busId) (opened, 0) with
      | (deferredState, .error error) => (deferredState, .error error)
      | (deferredState, .ok deferred) =>
        (deferredState, .ok (metrics.observeCooldown deferred, cooling))
  else
    (scheduler.setEndpoint target.endpointKey failing, .ok (metrics, failing))

def recordOutcome (scheduler : Scheduler) (target : SchedulerTarget)
    (metrics : BusSchedulerMetrics) (endpoint : Endpoint) (completed : ℚ) (failed : Bool) :
    Scheduler × Except SchedulerError (BusSchedulerMetrics × Endpoint) :=
  if failed then scheduler.recordFailure target metrics endpoint completed
  else
    let recovered := endpointAfterSuccess endpoint
    (scheduler.setEndpoint target.endpointKey recovered, .ok (metrics, recovered))

/-- `_complete`.  The poll was of `target`, which need not be the target
installed under the same id by now. -/
def complete (scheduler : Scheduler) (target : SchedulerTarget)
    (deadline completed duration : ℚ) (failed callbackError : Bool) :
    Scheduler × Option SchedulerError :=
  match scheduler.jobs target.targetId with
  | none => (scheduler, none)
  | some _ =>
    match scheduler.metricsOf target.busId with
    | .error error => (scheduler, some error)
    | .ok metrics =>
      let observed := metrics.observeCompletion target.priority completed
        duration target.intervalSeconds failed callbackError
      let counted := scheduler.setMetrics target.busId observed
      match counted.endpointOf target with
      | .error error => (counted, some error)
      | .ok endpoint =>
        match counted.recordOutcome target observed endpoint completed
            failed with
        | (recorded, .error error) => (recorded, some error)
        | (recorded, .ok (metrics, endpoint)) =>
          let start := deadline + target.intervalSeconds
          let advanced := skipOverdue target.intervalSeconds completed
            (overdueFuel target.intervalSeconds completed start) start 0
          let counters := metrics.observeSkipped advanced.2
          let current := (recorded.jobs target.targetId).map fun job =>
            { job with
              nextDeadline := max advanced.1 endpoint.cooldownUntil }
          ((recorded.setJob target.targetId current).setMetrics target.busId counters, none)

end Scheduler

end Nexolab
