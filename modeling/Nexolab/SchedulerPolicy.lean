import Nexolab.AcquisitionRegistry

/-!
# Scheduler policy, targets and bus metrics

The policy fixes the priority class of a registry target, the startup spread,
the circuit breaker of an endpoint and the fairness bursts.  Times are rational
numbers of seconds.  `BusSchedulerMetrics` holds the counters of one bus; two of
them, `consecutiveHigh` and `consecutiveNonLow`, steer the selection.
-/

namespace Nexolab

inductive Priority where
  | high
  | medium
  | low
  deriving DecidableEq

def Priority.rank : Priority → ℕ
  | .high => 0
  | .medium => 1
  | .low => 2

def mediumLeKeys : List String :=
  ["voltage", "current", "frequency", "active_power", "power_factor"]

structure SchedulerPolicy where
  (highIntervalSeconds mediumIntervalSeconds lowIntervalSeconds : ℚ)
  startupSpreadSeconds : ℚ := 5
  failureThreshold : ℕ := 3
  cooldownInitialSeconds : ℚ := 30
  cooldownMaxSeconds : ℚ := 300
  fairnessHighBurst : ℕ := 8
  fairnessLowBurst : ℕ := 12
  deadlineToleranceSeconds : ℚ := 1 / 20
  deriving DecidableEq

def SchedulerPolicy.priorityFor (_policy : SchedulerPolicy) (target : RegistryTarget) : Priority :=
  if target.metric = "temperature.probe" then .high
  else if "le01mp-".toList.isPrefixOf target.deviceId.toList &&
      mediumLeKeys.contains target.key then .medium
  else .low

structure SchedulerTarget where
  (targetId busId deviceId deviceFamily : String)
  unitId : ℕ
  (key telemetryChannelId metric unit : String)
  priority : Priority
  intervalSeconds : ℚ
  deriving DecidableEq

def SchedulerTarget.endpointKey (target : SchedulerTarget) : String × ℕ :=
  (target.busId, target.unitId)

structure BusSchedulerMetrics where
  executionsTotal : ℕ := 0
  successesTotal : ℕ := 0
  communicationFailuresTotal : ℕ := 0
  callbackErrorsTotal : ℕ := 0
  missedDeadlineTotal : ℕ := 0
  deadlineSkippedTotal : ℕ := 0
  overrunTotal : ℕ := 0
  deferredTotal : ℕ := 0
  cooldownEnteredTotal : ℕ := 0
  fairnessForcedTotal : ℕ := 0
  fairnessForcedLowTotal : ℕ := 0
  maxQueueDepth : ℕ := 0
  lagLast : ℚ := 0
  lagMax : ℚ := 0
  consecutiveHigh : ℕ := 0
  consecutiveNonLow : ℕ := 0
  byPriority : Priority → ℕ := fun _ => 0
  busy : List (ℚ × ℚ) := []

namespace BusSchedulerMetrics

variable (metrics : BusSchedulerMetrics)

def observeQueue (queueDepth : ℕ) : BusSchedulerMetrics :=
  { metrics with maxQueueDepth := max metrics.maxQueueDepth queueDepth }

def observeLag (lag tolerance : ℚ) : BusSchedulerMetrics :=
  { metrics with
    lagLast := lag
    lagMax := max metrics.lagMax lag
    missedDeadlineTotal :=
      metrics.missedDeadlineTotal + if tolerance < lag then 1 else 0 }

def forceFairness (low : Bool) (deferred : ℕ) : BusSchedulerMetrics :=
  { metrics with
    fairnessForcedTotal := metrics.fairnessForcedTotal + 1
    fairnessForcedLowTotal :=
      metrics.fairnessForcedLowTotal + if low then 1 else 0
    deferredTotal := metrics.deferredTotal + deferred }

def observeCompletion (priority : Priority) (completed duration intervalSeconds : ℚ)
    (failed callbackError : Bool) : BusSchedulerMetrics :=
  { metrics with
    executionsTotal := metrics.executionsTotal + 1
    byPriority := Function.update metrics.byPriority priority (metrics.byPriority priority + 1)
    communicationFailuresTotal :=
      metrics.communicationFailuresTotal + if failed then 1 else 0
    successesTotal := metrics.successesTotal + if failed then 0 else 1
    callbackErrorsTotal :=
      metrics.callbackErrorsTotal + if callbackError then 1 else 0
    consecutiveHigh :=
      if priority = .high then metrics.consecutiveHigh + 1 else 0
    consecutiveNonLow :=
      if priority ≠ .low then metrics.consecutiveNonLow + 1 else 0
    overrunTotal :=
      metrics.overrunTotal + if intervalSeconds < duration then 1 else 0
    busy := metrics.busy ++ [(completed, duration)] }

def observeCallbackError : BusSchedulerMetrics :=
  { metrics with callbackErrorsTotal := metrics.callbackErrorsTotal + 1 }

def observeCooldown (deferred : ℕ) : BusSchedulerMetrics :=
  { metrics with
    cooldownEnteredTotal := metrics.cooldownEnteredTotal + 1
    deferredTotal := metrics.deferredTotal + deferred }

def observeSkipped (count : ℕ) : BusSchedulerMetrics :=
  { metrics with deadlineSkippedTotal := metrics.deadlineSkippedTotal + count }

end BusSchedulerMetrics

end Nexolab
