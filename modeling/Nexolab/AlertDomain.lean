import Nexolab.TelemetryContract

/-!
# Alert rules and threshold evaluation

A rule version gives the thresholds and durations of one condition.  The
evaluator takes the snapshot of an evaluation series and one observation and
returns a decision with the next snapshot; it has no side effects.  Adding a
duration to an instant raises `OverflowError` past the last `datetime`.
-/

namespace Nexolab

inductive AlertState where
  | active
  | acknowledged
  | resolved
  | closed
  deriving DecidableEq

def AlertState.text : AlertState → String
  | .active => "active"
  | .acknowledged => "acknowledged"
  | .resolved => "resolved"
  | .closed => "closed"

def AlertState.isOpen : AlertState → Bool
  | .active => true
  | .acknowledged => true
  | .resolved => true
  | .closed => false

inductive AlertCondition where
  | thresholdHigh
  | thresholdLow

inductive AlertEvaluationDecision where
  | none
  | startTriggerPending
  | resetTriggerPending
  | trigger
  | startClearPending
  | resetClearPending
  | resolve
  | ignoreDuplicate
  | ignoreOutOfOrder
  | ignoreCooldown
  | ignoreInvalidValue
  deriving DecidableEq

def AlertEvaluationDecision.text : AlertEvaluationDecision → String
  | .none => "none"
  | .startTriggerPending => "start_trigger_pending"
  | .resetTriggerPending => "reset_trigger_pending"
  | .trigger => "trigger"
  | .startClearPending => "start_clear_pending"
  | .resetClearPending => "reset_clear_pending"
  | .resolve => "resolve"
  | .ignoreDuplicate => "ignore_duplicate"
  | .ignoreOutOfOrder => "ignore_out_of_order"
  | .ignoreCooldown => "ignore_cooldown"
  | .ignoreInvalidValue => "ignore_invalid_value"

inductive AlertProcessingError where
  | invalidConfiguration (message : String)
  | dateOverflow
  | uniqueViolation (constraint : String)

section Configuration

variable {F : Type} [PythonFloat F]

def thresholdsOrdered (condition : AlertCondition) (triggerThreshold clearThreshold : F) : Bool :=
  match condition with
  | .thresholdHigh => !PythonFloat.lt triggerThreshold clearThreshold
  | .thresholdLow => !PythonFloat.lt clearThreshold triggerThreshold

/-- A configuration which has passed `__post_init__`. -/
structure AlertRuleConfiguration (F : Type) [PythonFloat F] where
  condition : AlertCondition
  (triggerThreshold clearThreshold : F)
  (minimumDurationSeconds clearDurationSeconds debounceSeconds : ℤ)
  cooldownSeconds : ℤ
  minimum_nonneg : 0 ≤ minimumDurationSeconds
  clear_nonneg : 0 ≤ clearDurationSeconds
  debounce_nonneg : 0 ≤ debounceSeconds
  cooldown_nonneg : 0 ≤ cooldownSeconds
  thresholds_ordered :
    thresholdsOrdered condition triggerThreshold clearThreshold = true

structure AlertRuleVersion (F : Type) where
  (id ruleId : String)
  version : ℕ
  condition : AlertCondition
  (triggerThreshold clearThreshold : F)
  (minimumDurationSeconds clearDurationSeconds debounceSeconds : ℤ)
  cooldownSeconds : ℤ

def thresholdMessage : AlertCondition → String
  | .thresholdHigh => "high-threshold clear value must not exceed trigger value"
  | .thresholdLow => "low-threshold clear value must not be below trigger value"

def AlertRuleVersion.configuration (version : AlertRuleVersion F) :
    Except AlertProcessingError (AlertRuleConfiguration F) :=
  if hminimum : 0 ≤ version.minimumDurationSeconds then
    if hclear : 0 ≤ version.clearDurationSeconds then
      if hdebounce : 0 ≤ version.debounceSeconds then
        if hcool : 0 ≤ version.cooldownSeconds then
          if hord : thresholdsOrdered version.condition
              version.triggerThreshold version.clearThreshold = true then
            .ok {
              condition := version.condition
              triggerThreshold := version.triggerThreshold
              clearThreshold := version.clearThreshold
              minimumDurationSeconds := version.minimumDurationSeconds
              clearDurationSeconds := version.clearDurationSeconds
              debounceSeconds := version.debounceSeconds
              cooldownSeconds := version.cooldownSeconds
              minimum_nonneg := hminimum
              clear_nonneg := hclear
              debounce_nonneg := hdebounce
              cooldown_nonneg := hcool
              thresholds_ordered := hord }
          else .error (.invalidConfiguration (thresholdMessage version.condition))
        else .error (.invalidConfiguration
          "cooldown_seconds must be non-negative")
      else .error (.invalidConfiguration
        "debounce_seconds must be non-negative")
    else .error (.invalidConfiguration
      "clear_duration_seconds must be non-negative")
  else .error (.invalidConfiguration
    "minimum_duration_seconds must be non-negative")

namespace AlertRuleConfiguration

variable (configuration : AlertRuleConfiguration F)

def triggerDurationSeconds : ℤ :=
  max configuration.minimumDurationSeconds configuration.debounceSeconds

def isTriggered (value : F) : Bool :=
  match configuration.condition with
  | .thresholdHigh => PythonFloat.le configuration.triggerThreshold value
  | .thresholdLow => PythonFloat.le value configuration.triggerThreshold

def isClear (value : F) : Bool :=
  match configuration.condition with
  | .thresholdHigh => PythonFloat.le value configuration.clearThreshold
  | .thresholdLow => PythonFloat.le configuration.clearThreshold value

def deviation (value : F) : F :=
  match configuration.condition with
  | .thresholdHigh => PythonFloat.max PythonFloat.zero
      (PythonFloat.sub value configuration.triggerThreshold)
  | .thresholdLow => PythonFloat.max PythonFloat.zero
      (PythonFloat.sub configuration.triggerThreshold value)

end AlertRuleConfiguration

end Configuration

/-! ## Evaluation -/

structure TelemetryObservation (F : Type) where
  eventId : String
  capturedAt : Instant
  value : Option F

/-- Identifiers which `uuid4` draws are natural numbers in order of creation. -/
abbrev RowId := ℕ

structure AlertEvaluationSnapshot (F : Type) where
  lastEventId : Option String
  (lastCapturedAt triggerPendingSince clearPendingSince : Option Instant)
  activeAlertId : Option RowId
  cooldownUntil : Option Instant
  lastValue : Option F
  maximumDeviation : F

structure AlertEvaluationResult (F : Type) where
  decision : AlertEvaluationDecision
  snapshot : AlertEvaluationSnapshot F
  deviation : F

def addSeconds (instant : Instant) (seconds : ℤ) :
    Except AlertProcessingError Instant :=
  let sum := instant + seconds * microsPerSecond
  if sum ≤ maxInstant then .ok sum else .error .dateOverflow

section Evaluation

variable {F : Type} [PythonFloat F]

section

omit [PythonFloat F]

def acceptedSnapshot (snapshot : AlertEvaluationSnapshot F) (observation : TelemetryObservation F)
    (triggerPendingSince clearPendingSince : Option Instant)
    (maximumDeviation : F) : AlertEvaluationSnapshot F :=
  { snapshot with
    lastEventId := some observation.eventId
    lastCapturedAt := some observation.capturedAt
    lastValue := observation.value
    triggerPendingSince
    clearPendingSince
    maximumDeviation }

def beforeCooldownEnd (snapshot : AlertEvaluationSnapshot F) (capturedAt : Instant) : Bool :=
  match snapshot.cooldownUntil with
  | none => false
  | some cooldownUntil => capturedAt < cooldownUntil

def olderThanWatermark (snapshot : AlertEvaluationSnapshot F) (capturedAt : Instant) : Bool :=
  match snapshot.lastCapturedAt with
  | none => false
  | some lastCapturedAt => capturedAt < lastCapturedAt

end

def evaluateInactive (configuration : AlertRuleConfiguration F)
    (snapshot : AlertEvaluationSnapshot F) (observation : TelemetryObservation F) (value : F) :
    Except AlertProcessingError (AlertEvaluationResult F) :=
  let deviation := configuration.deviation value
  if beforeCooldownEnd snapshot observation.capturedAt then
    .ok ⟨.ignoreCooldown,
      acceptedSnapshot snapshot observation none none PythonFloat.zero, deviation⟩
  else if !configuration.isTriggered value then
    let decision :=
      if snapshot.triggerPendingSince.isSome
      then AlertEvaluationDecision.resetTriggerPending
      else AlertEvaluationDecision.none
    .ok ⟨decision, acceptedSnapshot snapshot observation none none PythonFloat.zero, deviation⟩
  else do
    let pendingSince :=
      snapshot.triggerPendingSince.getD observation.capturedAt
    let dueAt ← addSeconds pendingSince configuration.triggerDurationSeconds
    let maximumDeviation := PythonFloat.max snapshot.maximumDeviation deviation
    if dueAt ≤ observation.capturedAt then
      return ⟨.trigger, acceptedSnapshot snapshot observation none none maximumDeviation, deviation⟩
    else
      return ⟨.startTriggerPending, acceptedSnapshot snapshot observation (some pendingSince) none
          maximumDeviation, deviation⟩

def evaluateActive (configuration : AlertRuleConfiguration F) (snapshot : AlertEvaluationSnapshot F)
    (observation : TelemetryObservation F) (value : F) :
    Except AlertProcessingError (AlertEvaluationResult F) :=
  let deviation := configuration.deviation value
  let maximumDeviation := PythonFloat.max snapshot.maximumDeviation deviation
  if !configuration.isClear value then
    let decision :=
      if snapshot.clearPendingSince.isSome
      then AlertEvaluationDecision.resetClearPending
      else AlertEvaluationDecision.none
    .ok ⟨decision, acceptedSnapshot snapshot observation none none maximumDeviation, deviation⟩
  else do
    let clearSince := snapshot.clearPendingSince.getD observation.capturedAt
    let dueAt ← addSeconds clearSince configuration.clearDurationSeconds
    if dueAt ≤ observation.capturedAt then
      let cooldownUntil ←
        addSeconds observation.capturedAt configuration.cooldownSeconds
      return ⟨.resolve,
        { acceptedSnapshot snapshot observation none none maximumDeviation with
          activeAlertId := none
          cooldownUntil := some cooldownUntil }, deviation⟩
    else
      return ⟨.startClearPending, acceptedSnapshot snapshot observation none (some clearSince)
          maximumDeviation, deviation⟩

def evaluateThreshold (configuration : AlertRuleConfiguration F)
    (snapshot : AlertEvaluationSnapshot F) (observation : TelemetryObservation F) :
    Except AlertProcessingError (AlertEvaluationResult F) :=
  if snapshot.lastEventId = some observation.eventId then
    .ok ⟨.ignoreDuplicate, snapshot, PythonFloat.zero⟩
  else if olderThanWatermark snapshot observation.capturedAt then
    .ok ⟨.ignoreOutOfOrder, snapshot, PythonFloat.zero⟩
  else
    match observation.value with
    | none =>
      .ok ⟨.ignoreInvalidValue, acceptedSnapshot snapshot observation none none
          snapshot.maximumDeviation, PythonFloat.zero⟩
    | some value =>
      match snapshot.activeAlertId with
      | none => evaluateInactive configuration snapshot observation value
      | some _ => evaluateActive configuration snapshot observation value

end Evaluation

end Nexolab
