import Nexolab.AlertDomain

/-!
# Alert processing and the operator's lifecycle commands

`processPayload` evaluates one committed event against every matching rule and
writes evaluation states, alerts, transitions and evidence in one transaction.
`transition` is the operator's acknowledge or close; closing an alert releases
the evaluation state which refers to it.

Evaluation states are unique per rule and resource key and alerts per
identifier, so both tables are functions of their key.  Transitions and evidence
are append-only lists.  A violated unique constraint is an error and rolls the
transaction back.
-/

namespace Nexolab

structure AlertRule where
  id : String
  organizationId : CodePoints
  enabled : Bool
  severity : String
  (nodeId equipmentId channelId : Option String)
  metric : String
  sessionId : Option String

structure PersistedTelemetryContext where
  organizationId : CodePoints
  (sessionId stageId bindingId configSnapshotId : Option String)

abbrev EvaluationKey := String × CodePoints

structure AlertEvaluationState (F : Type) where
  id : RowId
  organizationId : CodePoints
  snapshot : AlertEvaluationSnapshot F
  updatedAt : Instant

structure AlertInstance (F : Type) where
  id : RowId
  organizationId : CodePoints
  (ruleId ruleVersionId : String)
  resourceKey : CodePoints
  (nodeId equipmentId channelId metric : String)
  state : AlertState
  severity : String
  triggerValue : Option F
  (triggerThreshold clearThreshold maximumDeviation : F)
  (firstEventId lastEventId : String)
  (sessionId stageId bindingId configSnapshotId : Option String)
  unit : String
  quality : Quality
  source : String
  triggeredAt : Instant
  (acknowledgedAt resolvedAt closedAt : Option Instant)
  lockVersion : ℕ
  updatedAt : Instant

inductive AlertEventType where
  | triggered
  | resolved
  | acknowledged
  | closed
  deriving DecidableEq

def AlertEventType.text : AlertEventType → String
  | .triggered => "alert_triggered"
  | .resolved => "alert_resolved"
  | .acknowledged => "alert_acknowledged"
  | .closed => "alert_closed"

structure AlertTransition (F : Type) where
  (id alertId : RowId)
  eventType : AlertEventType
  previousState : Option AlertState
  nextState : AlertState
  (actorId actorSource : CodePoints)
  reason : Option CodePoints
  idempotencyKey : CodePoints
  payload : JsonFields F
  occurredAt : Instant

structure AlertEvidenceSample (F : Type) where
  (id alertId : RowId)
  eventId : String
  capturedAt : Instant
  value : Option F
  (threshold deviation : F)
  reason : String
  quality : Quality
  unit : String
  alarm : Option Alarm

structure AlertTables (F : Type) where
  states : EvaluationKey → Option (AlertEvaluationState F)
  alerts : RowId → Option (AlertInstance F)
  transitions : List (AlertTransition F)
  evidence : List (AlertEvidenceSample F)
  /-- The identifiers drawn so far are the smaller ones. -/
  nextId : RowId

def AlertTables.empty (F : Type) : AlertTables F where
  states := fun _ => none
  alerts := fun _ => none
  transitions := []
  evidence := []
  nextId := 0

def systemActorId : String := "nexolab-alert-engine"

def systemActorSource : String := "system"

section Processing

variable {F : Type}

/-- `_context_for_event`: the context stored with the sample, or the
organization the payload names, or the default one. -/
def contextForEvent (stored : Option PersistedTelemetryContext)
    (defaultOrganizationId : CodePoints) (payload : JsonFields F) :
    PersistedTelemetryContext :=
  match stored with
  | some context => context
  | none =>
    let named :=
      match dictGet payload "organization_id" with
      | some (.string organizationId) =>
        if pythonStrip organizationId = [] then defaultOrganizationId
        else organizationId
      | _ => defaultOrganizationId
    ⟨pythonStrip named, none, none, none, none⟩

def matchesOptional (filter : Option String) (value : String) : Bool :=
  match filter with
  | none => true
  | some wanted => wanted = value

def matchesSession (rule : AlertRule) (context : PersistedTelemetryContext) :
    Bool :=
  match rule.sessionId with
  | none => true
  | some sessionId => context.sessionId = some sessionId

def ruleMatches (event : TelemetryEvent F)
    (context : PersistedTelemetryContext) (rule : AlertRule) : Bool :=
  rule.organizationId = context.organizationId && rule.enabled && rule.metric = event.metric.text &&
    matchesOptional rule.nodeId event.nodeId.text &&
    matchesOptional rule.equipmentId event.equipmentId.text &&
    matchesOptional rule.channelId event.channelId.text &&
    matchesSession rule context

abbrev RuleBase (F : Type) := List (AlertRule × AlertRuleVersion F)

def matchingRules (rules : RuleBase F) (event : TelemetryEvent F)
    (context : PersistedTelemetryContext) : RuleBase F :=
  (rules.filter fun record => ruleMatches event context record.1).insertionSort
    fun left right => left.1.id ≤ right.1.id

def sessionText (context : PersistedTelemetryContext) : String :=
  match context.sessionId with
  | none => "-"
  | some "" => "-"
  | some sessionId => sessionId

def resourceKey (event : TelemetryEvent F) (context : PersistedTelemetryContext) : CodePoints :=
  List.intercalate (codePoints "|")
    [context.organizationId, codePoints (sessionText context),
      codePoints event.nodeId.text, codePoints event.equipmentId.text,
      codePoints event.channelId.text, codePoints event.metric.text]

/-! ## Evaluating one rule -/

def AlertTables.setState (tables : AlertTables F) (key : EvaluationKey)
    (state : AlertEvaluationState F) : AlertTables F :=
  { tables with states := Function.update tables.states key (some state) }

def AlertTables.setAlert (tables : AlertTables F) (alert : AlertInstance F) :
    AlertTables F :=
  { tables with alerts := Function.update tables.alerts alert.id (some alert) }

def AlertTables.hasOpenAlert (tables : AlertTables F) (key : EvaluationKey) :
    Bool :=
  (List.range tables.nextId).any fun id =>
    match tables.alerts id with
    | none => false
    | some alert =>
      alert.ruleId = key.1 && alert.resourceKey = key.2 && alert.state.isOpen

def AlertTables.addTransition (tables : AlertTables F) (transition : RowId → AlertTransition F) :
    Except AlertProcessingError (AlertTables F) :=
  let row := transition tables.nextId
  if tables.transitions.any fun other =>
      other.alertId = row.alertId && other.idempotencyKey = row.idempotencyKey
  then .error (.uniqueViolation "uq_alert_transitions_alert_idempotency")
  else .ok { tables with
    transitions := tables.transitions ++ [row]
    nextId := tables.nextId + 1 }

def AlertTables.addEvidence (tables : AlertTables F) (evidence : RowId → AlertEvidenceSample F) :
    Except AlertProcessingError (AlertTables F) :=
  let row := evidence tables.nextId
  if tables.evidence.any fun other =>
      other.alertId = row.alertId && other.eventId = row.eventId
  then .error (.uniqueViolation "uq_alert_evidence_alert_event")
  else .ok { tables with
    evidence := tables.evidence ++ [row]
    nextId := tables.nextId + 1 }

def systemTransition (alertId : RowId) (eventType : AlertEventType)
    (previousState : Option AlertState) (nextState : AlertState)
    (event : TelemetryEvent F) (payload : JsonFields F) (id : RowId) :
    AlertTransition F where
  id
  alertId
  eventType
  previousState
  nextState
  actorId := codePoints systemActorId
  actorSource := codePoints systemActorSource
  reason := none
  idempotencyKey :=
    codePoints (eventType.text ++ ":" ++ event.eventId.text)
  payload
  occurredAt := event.capturedAt

def evidenceRow (alertId : RowId) (event : TelemetryEvent F)
    (threshold deviation : F) (reason : String) (id : RowId) :
    AlertEvidenceSample F where
  id
  alertId
  eventId := event.eventId.text
  capturedAt := event.capturedAt
  value := event.value
  threshold
  deviation
  reason
  quality := event.quality
  unit := event.unit.text
  alarm := event.alarm

def isClearDecision : AlertEvaluationDecision → Bool
  | .startClearPending => true
  | .resetClearPending => true
  | .resolve => true
  | _ => false

variable [PythonFloat F]

def shouldCaptureEvidence (decision : AlertEvaluationDecision)
    (deviation previousMaximum : F) : Bool :=
  isClearDecision decision || PythonFloat.lt previousMaximum deviation

def newEvaluationState (id : RowId) (context : PersistedTelemetryContext)
    (event : TelemetryEvent F) : AlertEvaluationState F where
  id
  organizationId := context.organizationId
  snapshot := ⟨none, none, none, none, none, none, none, PythonFloat.zero⟩
  updatedAt := event.capturedAt

/-- The tables and the state an evaluation starts from: the stored state, or a
new row. -/
def loadState (tables : AlertTables F) (key : EvaluationKey)
    (context : PersistedTelemetryContext) (event : TelemetryEvent F) :
    AlertTables F × AlertEvaluationState F :=
  match tables.states key with
  | some state => (tables, state)
  | none =>
    let state := newEvaluationState tables.nextId context event
    ({ tables.setState key state with nextId := tables.nextId + 1 }, state)

omit [PythonFloat F] in
def newAlert (id : RowId) (rule : AlertRule) (version : AlertRuleVersion F)
    (event : TelemetryEvent F) (context : PersistedTelemetryContext)
    (maximumDeviation : F) : AlertInstance F where
  id
  organizationId := context.organizationId
  ruleId := rule.id
  ruleVersionId := version.id
  resourceKey := resourceKey event context
  nodeId := event.nodeId.text
  equipmentId := event.equipmentId.text
  channelId := event.channelId.text
  metric := event.metric.text
  state := .active
  severity := rule.severity
  triggerValue := event.value
  triggerThreshold := version.triggerThreshold
  clearThreshold := version.clearThreshold
  maximumDeviation
  firstEventId := event.eventId.text
  lastEventId := event.eventId.text
  sessionId := context.sessionId
  stageId := context.stageId
  bindingId := context.bindingId
  configSnapshotId := context.configSnapshotId
  unit := event.unit.text
  quality := event.quality
  source := event.source.text
  triggeredAt := event.capturedAt
  acknowledgedAt := none
  resolvedAt := none
  closedAt := none
  lockVersion := 1
  updatedAt := event.capturedAt

omit [PythonFloat F] in
def triggerAlert (tables : AlertTables F) (rule : AlertRule)
    (version : AlertRuleVersion F) (event : TelemetryEvent F) (context : PersistedTelemetryContext)
    (result : AlertEvaluationResult F) :
    Except AlertProcessingError (AlertTables F × RowId) := do
  let alertId := tables.nextId
  if tables.hasOpenAlert (rule.id, resourceKey event context) then
    throw (.uniqueViolation "uq_alert_instances_open_identity")
  let alert := newAlert alertId rule version event context result.snapshot.maximumDeviation
  let created := { tables.setAlert alert with nextId := tables.nextId + 1 }
  let logged ← created.addTransition (systemTransition alertId .triggered none .active event
      [(codePoints "rule_id", .string (codePoints rule.id)),
        (codePoints "rule_version", .int version.version),
        (codePoints "trigger_threshold", .float version.triggerThreshold)])
  let evidenced ← logged.addEvidence
    (evidenceRow alertId event version.triggerThreshold result.deviation "triggered")
  return (evidenced, alertId)

def touchedAlert (event : TelemetryEvent F) (alert : AlertInstance F)
    (result : AlertEvaluationResult F) : AlertInstance F :=
  { alert with
    lastEventId := event.eventId.text
    maximumDeviation :=
      PythonFloat.max alert.maximumDeviation result.snapshot.maximumDeviation
    updatedAt := event.capturedAt }

omit [PythonFloat F] in
def evidenceThreshold (version : AlertRuleVersion F) (decision : AlertEvaluationDecision) : F :=
  if isClearDecision decision then version.clearThreshold
  else version.triggerThreshold

def touchAlert (tables : AlertTables F) (version : AlertRuleVersion F)
    (event : TelemetryEvent F) (alert : AlertInstance F)
    (previousMaximum : F) (result : AlertEvaluationResult F) :
    Except AlertProcessingError (AlertTables F × AlertInstance F) := do
  let touched := touchedAlert event alert result
  let updated := tables.setAlert touched
  if shouldCaptureEvidence result.decision result.deviation previousMaximum then
    let evidenced ← updated.addEvidence
      (evidenceRow alert.id event (evidenceThreshold version result.decision)
        result.deviation result.decision.text)
    return (evidenced, touched)
  else return (updated, touched)

section

omit [PythonFloat F]

def resolvedAlert (event : TelemetryEvent F) (alert : AlertInstance F) :
    AlertInstance F :=
  { alert with
    state := .resolved
    resolvedAt := some event.capturedAt
    lockVersion := alert.lockVersion + 1 }

def resolveAlert (tables : AlertTables F) (version : AlertRuleVersion F)
    (event : TelemetryEvent F) (alert : AlertInstance F) :
    Except AlertProcessingError (AlertTables F) :=
  (tables.setAlert (resolvedAlert event alert)).addTransition
    (systemTransition alert.id .resolved (some alert.state) .resolved event
      [(codePoints "clear_threshold", .float version.clearThreshold),
        (codePoints "maximum_deviation", .float alert.maximumDeviation)])

def applySnapshot (tables : AlertTables F) (key : EvaluationKey)
    (state : AlertEvaluationState F) (snapshot : AlertEvaluationSnapshot F)
    (updatedAt : Instant) : AlertTables F :=
  tables.setState key { state with
    snapshot
    updatedAt }

end

def applyResult (tables : AlertTables F) (rule : AlertRule)
    (version : AlertRuleVersion F) (event : TelemetryEvent F)
    (context : PersistedTelemetryContext) (state : AlertEvaluationState F)
    (result : AlertEvaluationResult F) :
    Except AlertProcessingError (AlertTables F) :=
  let key : EvaluationKey := (rule.id, resourceKey event context)
  if result.decision = .trigger then do
    let (triggered, alertId) ←
      triggerAlert tables rule version event context result
    return applySnapshot triggered key state
      { result.snapshot with activeAlertId := some alertId } event.capturedAt
  else
    match state.snapshot.activeAlertId.bind tables.alerts with
    | none =>
      .ok (applySnapshot tables key state result.snapshot event.capturedAt)
    | some alert => do
      let (touched, current) ← touchAlert tables version event alert
        state.snapshot.maximumDeviation result
      if result.decision = .resolve then
        let resolved ← resolveAlert touched version event current
        -- The resolved alert stays linked until an operator closes it.
        return applySnapshot resolved key state
          { result.snapshot with activeAlertId := some current.id }
          event.capturedAt
      else
        return applySnapshot touched key state result.snapshot event.capturedAt

omit [PythonFloat F] in
def observationOf (event : TelemetryEvent F) : TelemetryObservation F :=
  ⟨event.eventId.text, event.capturedAt, event.value⟩

def evaluateRule (event : TelemetryEvent F)
    (context : PersistedTelemetryContext) (tables : AlertTables F)
    (record : AlertRule × AlertRuleVersion F) :
    Except AlertProcessingError (AlertTables F) := do
  let (rule, version) := record
  let (loaded, state) :=
    loadState tables (rule.id, resourceKey event context) context event
  let configuration ← version.configuration
  let result ← evaluateThreshold configuration state.snapshot (observationOf event)
  if result.decision = .ignoreDuplicate ∨ result.decision = .ignoreOutOfOrder then
    return loaded
  else applyResult loaded rule version event context state result

def processEvent (rules : RuleBase F) (context : PersistedTelemetryContext)
    (tables : AlertTables F) (event : TelemetryEvent F) :
    Except AlertProcessingError (AlertTables F) :=
  (matchingRules rules event context).foldlM (evaluateRule event context) tables

end Processing

inductive LifecycleAction where
  | acknowledge
  | close
  deriving DecidableEq

structure LifecycleCommand where
  organizationId : CodePoints
  alertId : RowId
  action : LifecycleAction
  (actorId actorSource : CodePoints)
  reason : Option CodePoints
  idempotencyKey : CodePoints
  occurredAt : Instant

inductive LifecycleError where
  | missingIdempotencyKey
  | missingActorId
  | missingActorSource
  | alertNotFound
  | conflict (state : AlertState)

/-- The state an action expects, the state it leads to and its event. -/
def LifecycleAction.edge :
    LifecycleAction → AlertState × AlertState × AlertEventType
  | .acknowledge => (.active, .acknowledged, .acknowledged)
  | .close => (.resolved, .closed, .closed)

section Lifecycle

variable {F : Type} [PythonFloat F]

def releaseState (alertId : RowId) (state : AlertEvaluationState F) :
    AlertEvaluationState F :=
  if state.snapshot.activeAlertId = some alertId then
    { state with
      snapshot := { state.snapshot with
        activeAlertId := none
        triggerPendingSince := none
        clearPendingSince := none
        maximumDeviation := PythonFloat.zero } }
  else state

def releaseClosedAlertState (tables : AlertTables F) (alertId : RowId) :
    AlertTables F :=
  { tables with states := fun key => (tables.states key).map (releaseState alertId) }

section

omit [PythonFloat F]

def commandedAlert (command : LifecycleCommand) (alert : AlertInstance F) :
    AlertInstance F :=
  { alert with
    state := command.action.edge.2.1
    acknowledgedAt := if command.action = .acknowledge
      then some command.occurredAt else alert.acknowledgedAt
    closedAt := if command.action = .close
      then some command.occurredAt else alert.closedAt
    updatedAt := command.occurredAt
    lockVersion := alert.lockVersion + 1 }

def commandTransition (command : LifecycleCommand) (alert : AlertInstance F)
    (id : RowId) : AlertTransition F where
  id
  alertId := alert.id
  eventType := command.action.edge.2.2
  previousState := some alert.state
  nextState := command.action.edge.2.1
  actorId := pythonStrip command.actorId
  actorSource := pythonStrip command.actorSource
  reason := command.reason
  idempotencyKey := pythonStrip command.idempotencyKey
  payload := []
  occurredAt := command.occurredAt

def commandedTables (tables : AlertTables F) (command : LifecycleCommand)
    (alert : AlertInstance F) : AlertTables F :=
  { tables.setAlert (commandedAlert command alert) with
    transitions :=
      tables.transitions ++ [commandTransition command alert tables.nextId]
    nextId := tables.nextId + 1 }

end

/-- `_transition`.  A command whose key the alert has already logged changes
nothing. -/
def transition (tables : AlertTables F) (command : LifecycleCommand) :
    Except LifecycleError (AlertTables F) :=
  let key := pythonStrip command.idempotencyKey
  if key = [] then .error .missingIdempotencyKey
  else if pythonStrip command.actorId = [] then .error .missingActorId
  else if pythonStrip command.actorSource = [] then .error .missingActorSource
  else
    match tables.alerts command.alertId with
    | none => .error .alertNotFound
    | some alert =>
      if alert.organizationId ≠ command.organizationId then
        .error .alertNotFound
      else if tables.transitions.any fun row =>
          row.alertId = command.alertId && row.idempotencyKey = key then
        .ok tables
      else if alert.state ≠ command.action.edge.1 then
        .error (.conflict alert.state)
      else
        let logged := commandedTables tables command alert
        .ok (if command.action = .close
          then releaseClosedAlertState logged alert.id else logged)

end Lifecycle

end Nexolab
