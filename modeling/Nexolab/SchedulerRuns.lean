import Nexolab.TransitionSystem
import Nexolab.AdaptiveScheduler

/-!
# Interleavings of reconciliation and polling

One worker per bus executes `run_once`: it selects a job in one critical
section, reads the target without holding the condition, stores the latest
value, reads the clock, completes the job in a second critical section and
publishes the result.  `reconcile` may run between any two of these points.
`SchedulerAction` names the points and `SchedulerSystem.step` executes one of
them; the monotonic clock never goes back.

`JobHistory` is not state of the source.  It records, for each target, the
instants the deadline of its job is compared with.
-/

namespace Nexolab

/-- What `_read_target` does: it returns a result or raises. -/
inductive ReadOutcome where
  | result (communicationFailed : Bool)
  | callbackError

def ReadOutcome.failed : ReadOutcome → Bool
  | .result communicationFailed => communicationFailed
  | .callbackError => true

def ReadOutcome.isCallbackError : ReadOutcome → Bool
  | .result _ => false
  | .callbackError => true

inductive PollPhase where
  | reading
  | finished (started completed : ℚ) (outcome : ReadOutcome)
  | publishing

/-- A poll in flight: the job as it was selected, and how far `run_once` is. -/
structure Poll where
  job : Job
  selectedAt : ℚ
  phase : PollPhase

structure JobHistory where
  /-- The last installation of the job or change of its interval. -/
  installedAt : ℚ
  completedAt : Option ℚ
  /-- The last completion was of a read begun under a longer interval than the
  one installed when it completed, and no installation has followed it. -/
  staleCompletion : Bool

namespace JobHistory

def lastChange (history : JobHistory) : ℚ :=
  match history.completedAt with
  | none => history.installedAt
  | some completed => max completed history.installedAt

/-- The interval installed for a target differs from the one before. -/
def installationChanged : Option Job → Option Job → Bool
  | _, none => false
  | none, some _ => true
  | some old, some new =>
    old.target.intervalSeconds ≠ new.target.intervalSeconds

def afterInstall (history : JobHistory) (before after : Option Job) (now : ℚ) : JobHistory :=
  if installationChanged before after then
    { history with installedAt := now, staleCompletion := false }
  else history

def afterComplete (history : JobHistory) (current : Option Job)
    (target : SchedulerTarget) (completed : ℚ) : JobHistory :=
  match current with
  | none => history
  | some job =>
    { history with
      completedAt := some completed
      staleCompletion :=
        job.target.intervalSeconds < target.intervalSeconds }

end JobHistory

structure SchedulerSystem where
  scheduler : Scheduler
  inFlight : String → Option Poll
  clock : ℚ
  history : String → JobHistory

inductive SchedulerAction where
  | reconcile (registry : AcquisitionRegistry) (now wallNow : ℚ)
      (lastAttempts : String → Option LastAttempt)
  | select (busId : String) (now : ℚ)
  | finishRead (busId : String) (started completed : ℚ) (outcome : ReadOutcome)
  | persistFailed (busId : String)
  | complete (busId : String)
  | publish (busId : String) (raised : Bool)

namespace SchedulerSystem

def start (policy : SchedulerPolicy) (registry : AcquisitionRegistry)
    (now wallNow : ℚ) (lastAttempts : String → Option LastAttempt) :
    Option SchedulerSystem :=
  if 0 ≤ now then
    match (Scheduler.empty policy).install registry now wallNow lastAttempts with
    | .error _ => none
    | .ok scheduler => some {
        scheduler
        inFlight := fun _ => none
        clock := now
        history := fun _ => ⟨now, none, false⟩ }
  else none

variable (state : SchedulerSystem)

def setPoll (busId : String) (poll : Option Poll) : SchedulerSystem :=
  { state with inFlight := Function.update state.inFlight busId poll }

def reconcile (registry : AcquisitionRegistry) (now wallNow : ℚ)
    (lastAttempts : String → Option LastAttempt) : SchedulerSystem :=
  match state.scheduler.install registry now wallNow lastAttempts with
  | .error _ => { state with clock := now }
  | .ok installed =>
    { state with
      scheduler := installed
      clock := now
      history := fun targetId =>
        (state.history targetId).afterInstall
          (state.scheduler.jobs targetId) (installed.jobs targetId) now }

/-- An error of the critical section ends the worker and leaves the scheduler
as it was. -/
def select (busId : String) (now : ℚ) : SchedulerSystem :=
  match state.scheduler.beginRun busId now with
  | .error _ => { state with clock := now }
  | .ok (selected, none) => { state with scheduler := selected, clock := now }
  | .ok (selected, some job) =>
    { state with
      scheduler := selected
      clock := now
      inFlight := Function.update state.inFlight busId (some ⟨job, now, .reading⟩) }

def complete (busId : String) (poll : Poll) (started completed : ℚ)
    (outcome : ReadOutcome) : SchedulerSystem :=
  let target := poll.job.target
  match state.scheduler.complete target poll.job.nextDeadline completed
      (max 0 (completed - started)) outcome.failed outcome.isCallbackError with
  | (raised, some _) =>
    { state with
      scheduler := raised
      inFlight := Function.update state.inFlight busId none }
  | (scheduler, none) =>
    { state with
      scheduler
      inFlight := Function.update state.inFlight busId (some { poll with phase := .publishing })
      history := Function.update state.history target.targetId
        ((state.history target.targetId).afterComplete
          (state.scheduler.jobs target.targetId) target completed) }

def publish (busId : String) (raised : Bool) : SchedulerSystem :=
  let idle := state.setPoll busId none
  if raised then
    match state.scheduler.metricsOf busId with
    | .error _ => idle
    | .ok metrics =>
      { idle with
        scheduler := state.scheduler.setMetrics busId metrics.observeCallbackError }
  else idle

def step : SchedulerAction → Option SchedulerSystem
  | .reconcile registry now wallNow lastAttempts =>
    if state.clock ≤ now
    then some (state.reconcile registry now wallNow lastAttempts)
    else none
  | .select busId now =>
    match state.inFlight busId with
    | some _ => none
    | none => if state.clock ≤ now then some (state.select busId now) else none
  | .finishRead busId started completed outcome =>
    match state.inFlight busId with
    | some ⟨job, selectedAt, .reading⟩ =>
      if state.clock ≤ completed ∧ selectedAt ≤ started ∧ started ≤ completed then
        some { state.setPoll busId (some ⟨job, selectedAt, .finished started completed outcome⟩)
          with clock := completed }
      else none
    | _ => none
  | .persistFailed busId =>
    match state.inFlight busId with
    | some ⟨_, _, .reading⟩ => some (state.setPoll busId none)
    | _ => none
  | .complete busId =>
    match state.inFlight busId with
    | some ⟨job, selectedAt, .finished started completed outcome⟩ =>
      some (state.complete busId ⟨job, selectedAt, .finished started completed outcome⟩
        started completed outcome)
    | _ => none
  | .publish busId raised =>
    match state.inFlight busId with
    | some ⟨_, _, .publishing⟩ => some (state.publish busId raised)
    | _ => none

end SchedulerSystem

/-- Registry commits keep the bus and the unit of a device, so every target
has one place. -/
def AcquisitionRegistry.PlacedBy (registry : AcquisitionRegistry)
    (placement : String → String × ℕ) : Prop :=
  ∀ target ∈ registry.document.targets, ∀ device, registry.device target.deviceId = .ok device →
      (device.busId, device.unitId) = placement target.targetId

def SchedulerAction.PlacedBy (placement : String → String × ℕ) :
    SchedulerAction → Prop
  | .reconcile registry _ _ _ => registry.PlacedBy placement
  | _ => True

end Nexolab
