import Nexolab.SessionRows
import Nexolab.TransitionSystem

/-!
# Commands on laboratory sessions

The session repository changes the sessions, channel bindings, configuration
snapshots, limits and stages by commands.  A command carries a time the client
chooses; the database stamps the rows it writes with that time.  Every command
is one transaction on a locked session, and ends with the unique indexes and
the check constraints of the tables.  A command which is refused leaves the
database as it is.
-/

namespace Nexolab

structure SessionCreate where
  sessionId : UuidText
  (organizationId sessionNumber nodeId : String)
  /-- The digest of the organization and the normalized key. -/
  scopedKey : String
  occurredAt : Instant

def SessionCreate.record (payload : SessionCreate) : SessionRecord where
  id := payload.sessionId.text
  nodeId := payload.nodeId
  startedAt := none
  completedAt := none
  cancelledAt := none
  organizationId := payload.organizationId
  sessionNumber := payload.sessionNumber
  state := .draft
  currentStageId := none
  activeConfigSnapshotId := none
  activeLimitVersion := none
  preparedAt := none
  pausedAt := none
  archivedAt := none

namespace SessionDatabase

def createEventByKey (database : SessionDatabase)
    (organizationId scopedKey : String) : Option SessionEvent :=
  database.events.find? fun event =>
    event.eventType = .sessionCreated ∧ event.idempotencyKey = scopedKey ∧
      ∃ record ∈ database.sessions,
        record.id = event.sessionId ∧ record.organizationId = organizationId

def replayCreate (database : SessionDatabase) (event : SessionEvent)
    (payload : SessionCreate) : Except SessionError SessionDatabase :=
  match database.sessions.find? fun record => record.id = event.sessionId with
  | none => .error .sessionCreateConflict
  | some record =>
    if record.sessionNumber = payload.sessionNumber ∧
        record.nodeId = payload.nodeId then .ok database
    else .error .idempotencyKeyReused

def create (database : SessionDatabase) (payload : SessionCreate) :
    Except SessionError SessionDatabase :=
  match database.createEventByKey payload.organizationId payload.scopedKey with
  | some event => database.replayCreate event payload
  | none =>
    let created := ({ database with
      sessions := database.sessions ++ [payload.record] } :
        SessionDatabase).recordEvent
      ⟨payload.sessionId.text, .sessionCreated, payload.scopedKey, payload.occurredAt⟩
    created.commit <|
      if ∃ record ∈ database.sessions,
          record.organizationId = payload.organizationId ∧
            record.sessionNumber = payload.sessionNumber then
        .sessionNumberConflict
      else .sessionCreateConflict

end SessionDatabase

structure SessionTransitionRequest where
  (organizationId sessionId : String)
  action : SessionAction
  idempotencyKey : String
  occurredAt : Instant
  reason : Option String
  /-- The identifier of the snapshot a start freezes. -/
  snapshotId : UuidText

def allowedTransition : SessionState → SessionAction → Option SessionState
  | .draft, .prepare => some .ready
  | .draft, .cancel => some .cancelled
  | .ready, .start => some .running
  | .ready, .cancel => some .cancelled
  | .running, .pause => some .paused
  | .running, .complete => some .completed
  | .paused, .resume => some .running
  | .paused, .cancel => some .cancelled
  | .completed, .archive => some .archived
  | .cancelled, .archive => some .archived
  | _, _ => none

def SessionState.immutable : SessionState → Bool
  | .completed => true
  | .cancelled => true
  | .archived => true
  | _ => false

def SessionState.active : SessionState → Bool
  | .running => true
  | .paused => true
  | _ => false

def transitionSession (current : SessionState) (action : SessionAction)
    (reason : Option String) : Except SessionError SessionState :=
  if action = .cancel ∧ reason = none then .error .transitionReasonRequired
  else
    match allowedTransition current action with
    | some next => .ok next
    | none =>
      .error (if current.immutable then .sessionImmutable
        else .invalidSessionTransition)

def applyTransitionTimestamp (record : SessionRecord) (action : SessionAction)
    (occurredAt : Instant) : SessionRecord :=
  match action with
  | .prepare => { record with preparedAt := some occurredAt }
  | .start => { record with startedAt := some occurredAt }
  | .pause => { record with pausedAt := some occurredAt }
  | .resume => { record with pausedAt := none }
  | .complete => { record with completedAt := some occurredAt }
  | .cancel => { record with cancelledAt := some occurredAt }
  | .archive => { record with archivedAt := some occurredAt }

def SessionChannelBinding.activate (binding : SessionChannelBinding)
    (occurredAt : Instant) : SessionChannelBinding :=
  match binding.activatedAt with
  | none => { binding with activatedAt := some occurredAt }
  | some _ => binding

/-- The removed row: a binding which was never active is stamped active and
released at once. -/
def SessionChannelBinding.release (binding : SessionChannelBinding)
    (occurredAt : Instant) : SessionChannelBinding :=
  { binding.activate occurredAt with releasedAt := some occurredAt }

namespace SessionDatabase

def activateBindings (database : SessionDatabase) (sessionId : String)
    (occurredAt : Instant) : SessionDatabase :=
  { database with
    bindings := database.bindings.map fun binding =>
      if binding.sessionId = sessionId ∧ binding.releasedAt = none then
        binding.activate occurredAt
      else binding }

def releaseBindings (database : SessionDatabase) (sessionId : String)
    (occurredAt : Instant) : Except SessionError SessionDatabase :=
  if ∃ binding ∈ database.bindings, binding.sessionId = sessionId ∧ binding.leased = true ∧
      ∃ activated ∈ binding.activatedAt, occurredAt < activated then
    .error .bindingReleaseTimeInvalid
  else
    .ok { database with
      bindings := database.bindings.map fun binding =>
        if binding.sessionId = sessionId ∧ binding.leased = true then
          { binding with releasedAt := some occurredAt }
        else binding }

def transitionConfiguration (database : SessionDatabase)
    (record : SessionRecord) (request : SessionTransitionRequest) :
    Except SessionError SessionDatabase :=
  match request.action with
  | .start =>
    .ok ((database.activateBindings record.id
      request.occurredAt).freezeConfiguration record request.snapshotId request.occurredAt)
  | .complete => database.releaseBindings record.id request.occurredAt
  | .cancel => database.releaseBindings record.id request.occurredAt
  | _ => .ok database

/-- `ConfiguredSessionRepository.transition`, with the check of the replayed
event by the audited repository. -/
def transition (database : SessionDatabase) (request : SessionTransitionRequest) :
    Except SessionError SessionDatabase := do
  let key ← normalizeIdempotencyKey request.idempotencyKey
  let record ← database.lockedSession request.organizationId request.sessionId
  match database.eventByKey record.id key with
  | some event => database.replayCommand event (.transition request.action)
  | none =>
    let next ← transitionSession record.state request.action request.reason
    let configured ← database.transitionConfiguration record request
    ((configured.updateSession record.id fun current =>
      applyTransitionTimestamp { current with state := next } request.action
        request.occurredAt).recordEvent
      ⟨record.id, .transition request.action, key, request.occurredAt⟩).commit
      (if request.action = .start then .activeChannelLeaseConflict
      else .sessionTransitionConflict)

end SessionDatabase

structure ProductionChannel where
  identity : SeriesKey
  unit : String

def xjpChannels : List ProductionChannel :=
  [⟨⟨"edge-01", "K106", "106-03", "temperature.probe"⟩, "degC"⟩,
    ⟨⟨"edge-01", "K106", "106-04", "temperature.probe"⟩, "degC"⟩]

def le01mpProductionRegisters : List (String × String × String) :=
  [("voltage", "electrical.voltage", "V"),
    ("current", "electrical.current", "A"),
    ("frequency", "electrical.frequency", "Hz"),
    ("active_power", "electrical.power.active", "W"),
    ("reactive_power", "electrical.power.reactive", "var"),
    ("apparent_power", "electrical.power.apparent", "VA"),
    ("power_factor", "electrical.power_factor", "ratio"),
    ("internal_temperature", "temperature.internal", "degC")]

def hyphenatedKey (key : String) : String :=
  String.ofList (key.toList.map fun char => if char = '_' then '-' else char)

def le01mpChannels : List ProductionChannel :=
  ["200", "201", "202", "203"].flatMap fun unitId =>
    le01mpProductionRegisters.map fun (key, metric, unit) =>
      ⟨⟨"edge-01", "LE01MP-" ++ unitId, unitId ++ "-" ++ hyphenatedKey key, metric⟩,
        unit⟩

def productionChannels : List ProductionChannel := xjpChannels ++ le01mpChannels

def productionChannelByIdentity (identity : SeriesKey) :
    Option ProductionChannel :=
  productionChannels.find? fun channel => channel.identity = identity

structure ConfigurationCommand where
  (organizationId sessionId idempotencyKey : String)
  occurredAt : Instant
  reason : Option String
  allowActiveChange : Bool
  /-- The identifier of the snapshot the change of an active session freezes. -/
  snapshotId : UuidText

def assertConfigurationChangeAllowed (record : SessionRecord)
    (command : ConfigurationCommand) : Except SessionError SessionState :=
  if record.state.immutable then .error .sessionImmutable
  else if record.state.active = true ∧
      (command.allowActiveChange = false ∨ command.reason.getD "" = "") then
    .error .activeConfigurationChangeRequiresAck
  else .ok record.state

namespace SessionDatabase

/-- The rows of a session change, and an active session is frozen anew. -/
def freezeIfActive (database : SessionDatabase) (record : SessionRecord)
    (command : ConfigurationCommand) : SessionDatabase :=
  if record.state.active then
    database.freezeConfiguration record command.snapshotId command.occurredAt
  else database

/-- The frame the configuration commands share: `change` writes the rows of the
command. -/
def configurationChange (database : SessionDatabase)
    (command : ConfigurationCommand) (eventType : SessionEventType) (error : SessionError)
    (change : SessionRecord → SessionState → Except SessionError SessionDatabase) :
    Except SessionError SessionDatabase := do
  let key ← normalizeIdempotencyKey command.idempotencyKey
  let record ← database.lockedSession command.organizationId command.sessionId
  match database.eventByKey record.id key with
  | some event => database.replayCommand event eventType
  | none =>
    let state ← assertConfigurationChangeAllowed record command
    let changed ← change record state
    ((changed.freezeIfActive record command).recordEvent
      ⟨record.id, eventType, key, command.occurredAt⟩).commit error

def bindingOf (database : SessionDatabase) (sessionId : String)
    (identity : SeriesKey) : Option SessionChannelBinding :=
  database.bindings.find? fun binding =>
    binding.sessionId = sessionId ∧ binding.identity = identity

def activationTime (state : SessionState) (occurredAt : Instant) :
    Option Instant :=
  if state.active then some occurredAt else none

def bindChannel (database : SessionDatabase) (sessionId : String)
    (channel : ProductionChannel) (bindingId : UuidText)
    (activatedAt : Option Instant) : SessionDatabase :=
  match database.bindingOf sessionId channel.identity with
  | none =>
    { database with bindings := database.bindings ++
      [⟨bindingId, sessionId, channel.identity, channel.unit, activatedAt, none⟩] }
  | some _ =>
    { database with bindings := database.bindings.map fun binding =>
        if binding.sessionId = sessionId ∧ binding.identity = channel.identity then
          { binding with
            unit := channel.unit
            activatedAt
            releasedAt := none }
        else binding }

def boundTo (database : SessionDatabase) (sessionId : String) (identity : SeriesKey) : Prop :=
  ∃ binding ∈ database.bindingOf sessionId identity, binding.releasedAt = none

instance (database : SessionDatabase) (sessionId : String)
    (identity : SeriesKey) : Decidable (database.boundTo sessionId identity) :=
  inferInstanceAs (Decidable (∃ binding ∈ database.bindingOf sessionId identity, _))

def addChannel (database : SessionDatabase) (channel : ProductionChannel)
    (bindingId : UuidText) (record : SessionRecord) (state : SessionState)
    (occurredAt : Instant) : Except SessionError SessionDatabase := do
  raiseIf (database.boundTo record.id channel.identity) .duplicateSessionBinding
  return database.bindChannel record.id channel bindingId (activationTime state occurredAt)

def addBinding (database : SessionDatabase) (command : ConfigurationCommand)
    (identity : SeriesKey) (unit : Option String) (bindingId : UuidText) :
    Except SessionError SessionDatabase := do
  let _ ← normalizeIdempotencyKey command.idempotencyKey
  match productionChannelByIdentity identity with
  | none => .error .unknownProductionChannel
  | some channel =>
    raiseIf (∃ given ∈ unit, given ≠ channel.unit) .bindingUnitMismatch
    database.configurationChange command .bindingAdded
      .activeChannelLeaseConflict fun record state =>
        database.addChannel channel bindingId record state command.occurredAt

/-- One iteration over the production channels: a channel which is bound is
left as it is. -/
def applyProductionChannel (sessionId : String)
    (activatedAt : Option Instant) (bindingIds : SeriesKey → UuidText)
    (database : SessionDatabase) (channel : ProductionChannel) :
    SessionDatabase :=
  if database.boundTo sessionId channel.identity then database
  else database.bindChannel sessionId channel (bindingIds channel.identity)
    activatedAt

def addProductionBindings (database : SessionDatabase)
    (command : ConfigurationCommand) (bindingIds : SeriesKey → UuidText) :
    Except SessionError SessionDatabase :=
  database.configurationChange command .productionBindingsApplied
    .activeChannelLeaseConflict fun record state =>
      .ok (productionChannels.foldl (applyProductionChannel record.id
          (activationTime state command.occurredAt) bindingIds) database)

def releaseChannel (database : SessionDatabase) (bindingId : UuidText)
    (occurredAt : Instant) (record : SessionRecord) :
    Except SessionError SessionDatabase :=
  match database.bindings.find? fun binding =>
      binding.id = bindingId ∧ binding.sessionId = record.id with
  | none => .error .sessionBindingNotFound
  | some binding => do
    raiseIf (binding.releasedAt ≠ none) .sessionBindingAlreadyRemoved
    raiseIf (∃ activated ∈ binding.activatedAt, occurredAt < activated) .bindingReleaseTimeInvalid
    return { database with bindings := database.bindings.map fun current =>
      if current.id = bindingId then (current.release occurredAt) else current }

def removeBinding (database : SessionDatabase) (command : ConfigurationCommand)
    (bindingId : UuidText) : Except SessionError SessionDatabase :=
  database.configurationChange command .bindingRemoved .integrity
    fun record _ => database.releaseChannel bindingId command.occurredAt record

def nextLimitVersion (database : SessionDatabase) (sessionId : String) : ℕ :=
  ((database.limits.filter fun limit => limit.sessionId = sessionId).map
    SessionLimit.version).foldr max 0 + 1

def addLimits (database : SessionDatabase)
    (rules : List (Option UuidText × String)) (record : SessionRecord) :
    Except SessionError SessionDatabase := do
  raiseIf (∃ rule ∈ rules, ∃ bindingId ∈ rule.1,
    ¬ ∃ binding ∈ database.bindings, binding.id = bindingId ∧
      binding.sessionId = record.id ∧ binding.releasedAt = none)
    .limitBindingNotFound
  let version := database.nextLimitVersion record.id
  let limits := rules.map fun rule =>
    (⟨record.id, rule.1, rule.2, version⟩ : SessionLimit)
  return ({ database with limits := database.limits ++ limits } :
    SessionDatabase).updateSession record.id fun current =>
      { current with activeLimitVersion := some version }

/-- `add_limit_set`; the rules are given by their binding and metric. -/
def addLimitSet (database : SessionDatabase) (command : ConfigurationCommand)
    (rules : List (Option UuidText × String)) :
    Except SessionError SessionDatabase := do
  raiseIf (¬ rules.Nodup) .duplicateLimitRules
  database.configurationChange command .limitVersionCreated .integrity
    fun record _ => database.addLimits rules record

end SessionDatabase

/-! ## Stages and notes -/

structure StageAdvanceRequest where
  (organizationId sessionId idempotencyKey : String)
  occurredAt : Instant
  sequenceIndex : ℕ
  stageType : SessionStageType
  name : String
  stageId : UuidText

def validateStageTransition (state : SessionState) (currentIndex : Option ℕ)
    (nextIndex stageCount : ℕ) : Except SessionError Unit := do
  raiseIf (state ≠ .running) .invalidStageTransition
  raiseIf (stageCount < 1) .invalidStageTransition
  raiseIf (∃ current ∈ currentIndex, stageCount ≤ current) .invalidStageTransition
  raiseIf (stageCount ≤ nextIndex) .invalidStageTransition
  raiseIf (nextIndex ≠ (currentIndex.map (· + 1)).getD 0) .invalidStageTransition

namespace SessionDatabase

def currentStage (database : SessionDatabase) (record : SessionRecord) :
    Option SessionStageRecord :=
  match record.currentStageId with
  | none => none
  | some stageId => database.stages.find? fun stage => stage.id = stageId

def stageCount (database : SessionDatabase) (sessionId : String) (sequenceIndex : ℕ) : ℕ :=
  max (((database.stages.filter fun stage =>
    stage.sessionId = sessionId).map fun stage =>
      stage.sequenceIndex + 1).foldr max 0) (sequenceIndex + 1)

def targetStage (database : SessionDatabase) (sessionId : String) (request : StageAdvanceRequest) :
    Except SessionError (SessionDatabase × SessionStageRecord) :=
  match database.stages.find? fun stage =>
      stage.sessionId = sessionId ∧ stage.sequenceIndex = request.sequenceIndex with
  | none =>
    let target : SessionStageRecord :=
      ⟨⟨request.stageId.text, sessionId, none, none⟩, request.sequenceIndex,
        request.stageType, request.name⟩
    .ok ({ database with stages := database.stages ++ [target] }, target)
  | some target =>
    if target.stageType ≠ request.stageType ∨ target.name ≠ request.name then
      .error .stageDefinitionConflict
    else .ok (database, target)

def moveStage (database : SessionDatabase)
    (current : Option SessionStageRecord) (target : SessionStageRecord)
    (occurredAt : Instant) : SessionDatabase :=
  { database with stages := database.stages.map fun stage =>
      if stage.id = target.id then
        { stage with enteredAt := some occurredAt }
      else if ∃ left ∈ current, stage.id = left.id then
        { stage with exitedAt := some occurredAt }
      else stage }

def advanceStage (database : SessionDatabase) (request : StageAdvanceRequest) :
    Except SessionError SessionDatabase := do
  let key ← normalizeIdempotencyKey request.idempotencyKey
  let record ← database.lockedSession request.organizationId request.sessionId
  match database.eventByKey record.id key with
  | some event => database.replayCommand event .stageChanged
  | none =>
    let current := database.currentStage record
    validateStageTransition record.state
      (current.map SessionStageRecord.sequenceIndex) request.sequenceIndex
      (database.stageCount record.id request.sequenceIndex)
    let (planned, target) ← database.targetStage record.id request
    raiseIf (target.enteredAt ≠ none) .stageAlreadyEntered
    (((planned.moveStage current target request.occurredAt).updateSession record.id fun session =>
        { session with currentStageId := some target.id }).recordEvent
      ⟨record.id, .stageChanged, key, request.occurredAt⟩).commit .stageTransitionConflict

/-- `add_note`: of the rows this model keeps it writes the event only. -/
def addNote (database : SessionDatabase) (organizationId sessionId : String)
    (idempotencyKey : String) (occurredAt : Instant) (stageId : Option String) :
    Except SessionError SessionDatabase := do
  let key ← normalizeIdempotencyKey idempotencyKey
  let record ← database.lockedSession organizationId sessionId
  match database.eventByKey record.id key with
  | some event => database.replayCommand event .noteAdded
  | none =>
    raiseIf (∃ wanted ∈ stageId, ¬ ∃ stage ∈ database.stages,
      stage.id = wanted ∧ stage.sessionId = record.id) .sessionStageNotFound
    (database.recordEvent ⟨record.id, .noteAdded, key, occurredAt⟩).commit .integrity

end SessionDatabase

inductive SessionCommand where
  | create (payload : SessionCreate)
  | transition (request : SessionTransitionRequest)
  | addBinding (command : ConfigurationCommand) (identity : SeriesKey)
      (unit : Option String) (bindingId : UuidText)
  | addProductionBindings (command : ConfigurationCommand) (bindingIds : SeriesKey → UuidText)
  | removeBinding (command : ConfigurationCommand) (bindingId : UuidText)
  | addLimitSet (command : ConfigurationCommand) (rules : List (Option UuidText × String))
  | advanceStage (request : StageAdvanceRequest)
  | addNote (organizationId sessionId idempotencyKey : String)
      (occurredAt : Instant) (stageId : Option String)

def SessionCommand.occurredAt : SessionCommand → Instant
  | .create payload => payload.occurredAt
  | .transition request => request.occurredAt
  | .addBinding command _ _ _ => command.occurredAt
  | .addProductionBindings command _ => command.occurredAt
  | .removeBinding command _ => command.occurredAt
  | .addLimitSet command _ => command.occurredAt
  | .advanceStage request => request.occurredAt
  | .addNote _ _ _ occurredAt _ => occurredAt

namespace SessionDatabase

def execute (database : SessionDatabase) :
    SessionCommand → Except SessionError SessionDatabase
  | .create payload => database.create payload
  | .transition request => database.transition request
  | .addBinding command identity unit bindingId =>
    database.addBinding command identity unit bindingId
  | .addProductionBindings command bindingIds =>
    database.addProductionBindings command bindingIds
  | .removeBinding command bindingId => database.removeBinding command bindingId
  | .addLimitSet command rules => database.addLimitSet command rules
  | .advanceStage request => database.advanceStage request
  | .addNote organizationId sessionId idempotencyKey occurredAt stageId =>
    database.addNote organizationId sessionId idempotencyKey occurredAt stageId

/-- A command which the database accepts; a refused one leaves it as it is. -/
def step (database : SessionDatabase) (command : SessionCommand) :
    Option SessionDatabase :=
  (database.execute command).toOption

def Reachable (database : SessionDatabase) : Prop :=
  Reaches step (fun _ _ => True) empty database

end SessionDatabase

def coldRoomSession : UuidText where
  text := "00000000-0000-4000-8000-0000000000a1"
  length_eq := by decide
  chars := by decide

def displayCaseSession : UuidText where
  text := "00000000-0000-4000-8000-0000000000b1"
  length_eq := by decide
  chars := by decide

def probeChannel : SeriesKey :=
  ⟨"edge-01", "K106", "106-03", "temperature.probe"⟩

def exampleTransition (sessionId : UuidText) (action : SessionAction)
    (idempotencyKey : String) (occurredAt : Instant) (snapshotId : UuidText) :
    SessionCommand :=
  .transition ⟨"laboratory", sessionId.text, action, idempotencyKey, occurredAt,
    some "test plan", snapshotId⟩

def exampleConfiguration (sessionId : UuidText) (idempotencyKey : String)
    (occurredAt : Instant) (snapshotId : UuidText) : ConfigurationCommand :=
  ⟨"laboratory", sessionId.text, idempotencyKey, occurredAt, some "test plan",
    true, snapshotId⟩

def startedSession (sessionId : UuidText) (sessionNumber : String)
    (bindingId : UuidText) (startedAt : Instant) : List SessionCommand :=
  [.create ⟨sessionId, "laboratory", sessionNumber, "edge-01", sessionNumber, 0⟩,
    .addBinding (exampleConfiguration sessionId "bind" 1 bindingId) probeChannel
      none bindingId,
    exampleTransition sessionId .prepare "prepare" 2 bindingId,
    exampleTransition sessionId .start "start" startedAt bindingId]

def probeReading (capturedAt : Instant)
    (hcapt : minInstant ≤ capturedAt ∧ capturedAt ≤ maxInstant) :
    TelemetryEvent FloatValue :=
  { exampleReading thirdEventId capturedAt (.finite 3) hcapt with
    nodeId := ⟨"edge-01", by decide, by decide⟩
    equipmentId := ⟨"K106", by decide, by decide⟩
    channelId := ⟨"106-03", by decide, by decide⟩ }

end Nexolab
