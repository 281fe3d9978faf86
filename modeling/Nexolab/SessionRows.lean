import Nexolab.FallibleList
import Nexolab.SessionAttribution

/-!
# Tables of the laboratory sessions

The rows of sessions, channel bindings, configuration snapshots, limits, stages
and events, the view the telemetry resolver has of them, the constraints of the
database, and the parts which all commands on a session share.
-/

namespace Nexolab

/-! ## Rows -/

inductive SessionState where
  | draft
  | ready
  | running
  | paused
  | completed
  | cancelled
  | archived
  deriving DecidableEq

inductive SessionAction where
  | prepare
  | start
  | pause
  | resume
  | complete
  | cancel
  | archive
  deriving DecidableEq

inductive SessionStageType where
  | preparation
  | preconditioning
  | stabilization
  | mainTest
  | defrost
  | recovery
  | completion
  | report
  deriving DecidableEq

/-- A row of `test_sessions`, with the columns the resolver reads. -/
structure SessionRecord extends TestSession where
  (organizationId sessionNumber : String)
  state : SessionState
  (currentStageId activeConfigSnapshotId : Option String)
  activeLimitVersion : Option ℕ
  (preparedAt pausedAt archivedAt : Option Instant)

structure SessionChannelBinding where
  id : UuidText
  sessionId : String
  identity : SeriesKey
  unit : String
  (activatedAt releasedAt : Option Instant)

def SessionChannelBinding.leased (binding : SessionChannelBinding) : Bool :=
  binding.activatedAt.isSome && binding.releasedAt.isNone

/-- One entry of the bindings list of a snapshot payload. -/
structure FrozenBinding where
  id : UuidText
  identity : SeriesKey
  unit : String

/-- A row of `session_config_snapshots`; the payload is kept as the values it
is built from. -/
structure ConfigSnapshotRecord where
  id : UuidText
  sessionId : String
  version : ℕ
  nodeId : String
  bindings : List FrozenBinding
  capturedAt : Instant

structure SessionLimit where
  sessionId : String
  bindingId : Option UuidText
  metric : String
  version : ℕ

structure SessionStageRecord extends SessionStage where
  sequenceIndex : ℕ
  stageType : SessionStageType
  name : String

inductive SessionEventType where
  | sessionCreated
  | transition (action : SessionAction)
  | bindingAdded
  | productionBindingsApplied
  | bindingRemoved
  | limitVersionCreated
  | stageChanged
  | noteAdded
  deriving DecidableEq

structure SessionEvent where
  sessionId : String
  eventType : SessionEventType
  idempotencyKey : String
  occurredAt : Instant

structure SessionDatabase where
  sessions : List SessionRecord
  bindings : List SessionChannelBinding
  snapshots : List ConfigSnapshotRecord
  limits : List SessionLimit
  stages : List SessionStageRecord
  events : List SessionEvent

namespace SessionDatabase

def empty : SessionDatabase := ⟨[], [], [], [], [], []⟩

end SessionDatabase

section Payload

variable {F : Type}

def FrozenBinding.toJson (binding : FrozenBinding) : JsonValue F :=
  .object [(codePoints "id", .string (codePoints binding.id.text)),
      (codePoints "node_id", .string (codePoints binding.identity.nodeId)),
      (codePoints "equipment_id",
        .string (codePoints binding.identity.equipmentId)),
      (codePoints "channel_id", .string (codePoints binding.identity.channelId)),
      (codePoints "metric", .string (codePoints binding.identity.metric)),
      (codePoints "unit", .string (codePoints binding.unit))]

def ConfigSnapshotRecord.payload (snapshot : ConfigSnapshotRecord) :
    JsonValue F :=
  .object [(codePoints "schema_version", .int 1),
      (codePoints "session_id", .string (codePoints snapshot.sessionId)),
      (codePoints "node_id", .string (codePoints snapshot.nodeId)),
      (codePoints "bindings",
        .array (snapshot.bindings.map FrozenBinding.toJson))]

def ConfigSnapshotRecord.row (snapshot : ConfigSnapshotRecord) :
    SessionConfigSnapshot F where
  id := snapshot.id.text
  sessionId := snapshot.sessionId
  version := snapshot.version
  payload := snapshot.payload
  capturedAt := snapshot.capturedAt

def SessionDatabase.tables (database : SessionDatabase) : SessionTables F where
  sessions := database.sessions.map SessionRecord.toTestSession
  snapshots := database.snapshots.map ConfigSnapshotRecord.row
  stages := database.stages.map SessionStageRecord.toSessionStage
  bindingIds := database.bindings.map fun binding => binding.id.text

end Payload

inductive SessionError where
  | sessionNotFound
  | invalidIdempotencyKey
  | idempotencyKeyReused
  | sessionNumberConflict
  | sessionCreateConflict
  | transitionReasonRequired
  | sessionImmutable
  | invalidSessionTransition
  | bindingReleaseTimeInvalid
  | activeChannelLeaseConflict
  | sessionTransitionConflict
  | unknownProductionChannel
  | bindingUnitMismatch
  | activeConfigurationChangeRequiresAck
  | duplicateSessionBinding
  | sessionBindingNotFound
  | sessionBindingAlreadyRemoved
  | duplicateLimitRules
  | limitBindingNotFound
  | invalidStageTransition
  | stageDefinitionConflict
  | stageAlreadyEntered
  | stageTransitionConflict
  | sessionStageNotFound
  /-- An `IntegrityError` the command does not translate. -/
  | integrity

def raiseIf (condition : Prop) [Decidable condition] (error : SessionError) :
    Except SessionError Unit :=
  if condition then .error error else .ok ()

theorem raiseIf_eq_ok {condition : Prop} [Decidable condition]
    {error : SessionError} {checked : Unit} :
    raiseIf condition error = .ok checked ↔ ¬ condition := by
  unfold raiseIf
  split_ifs with hcondition
  · simp [hcondition]
  · simp [hcondition]

def normalizeIdempotencyKey (value : String) : Except SessionError String :=
  let normalized := stripText value
  if normalized = "" then .error .invalidIdempotencyKey
  else if 128 < normalized.length then .error .invalidIdempotencyKey
  else .ok normalized

def SessionChannelBinding.ReleaseOrdered (binding : SessionChannelBinding) :
    Prop :=
  ∀ released ∈ binding.releasedAt, ∃ activated ∈ binding.activatedAt, activated ≤ released

def SessionStageRecord.ExitOrdered (stage : SessionStageRecord) : Prop :=
  ∀ exited ∈ stage.exitedAt, ∃ entered ∈ stage.enteredAt, entered ≤ exited

/-- The primary keys, unique indexes and check constraints of the tables. -/
@[mk_iff] structure SessionDatabase.Constraints (database : SessionDatabase) : Prop where
  sessionKeys : database.sessions.Pairwise fun left right => left.id ≠ right.id
  sessionNumbers : database.sessions.Pairwise fun left right =>
    left.organizationId = right.organizationId → left.sessionNumber ≠ right.sessionNumber
  bindingKeys : database.bindings.Pairwise fun left right => left.id ≠ right.id
  bindingIdentities : database.bindings.Pairwise fun left right =>
    left.sessionId = right.sessionId → left.identity ≠ right.identity
  channelLeases : database.bindings.Pairwise fun left right =>
    left.leased = true → right.leased = true → left.identity ≠ right.identity
  releaseOrder : ∀ binding ∈ database.bindings, binding.ReleaseOrdered
  snapshotKeys : database.snapshots.Pairwise fun left right =>
    left.id ≠ right.id
  snapshotVersions : database.snapshots.Pairwise fun left right =>
    left.sessionId = right.sessionId → left.version ≠ right.version
  stageKeys : database.stages.Pairwise fun left right => left.id ≠ right.id
  stageSequence : database.stages.Pairwise fun left right =>
    left.sessionId = right.sessionId → left.sequenceIndex ≠ right.sequenceIndex
  exitOrder : ∀ stage ∈ database.stages, stage.ExitOrdered
  eventKeys : database.events.Pairwise fun left right =>
    left.sessionId = right.sessionId → left.idempotencyKey ≠ right.idempotencyKey

instance (binding : SessionChannelBinding) :
    Decidable binding.ReleaseOrdered :=
  inferInstanceAs (Decidable (∀ released ∈ binding.releasedAt, _))

instance (stage : SessionStageRecord) : Decidable stage.ExitOrdered :=
  inferInstanceAs (Decidable (∀ exited ∈ stage.exitedAt, _))

instance (database : SessionDatabase) : Decidable database.Constraints :=
  decidable_of_iff _ database.constraints_iff.symm

namespace SessionDatabase

def commit (database : SessionDatabase) (error : SessionError) :
    Except SessionError SessionDatabase :=
  if database.Constraints then .ok database else .error error

def lockedSession (database : SessionDatabase) (organizationId : String)
    (sessionId : String) : Except SessionError SessionRecord :=
  match database.sessions.find? fun record =>
      record.id = sessionId ∧ record.organizationId = organizationId with
  | none => .error .sessionNotFound
  | some record => .ok record

/-- `_event_by_key`, on the events of a session of the organization. -/
def eventByKey (database : SessionDatabase) (sessionId idempotencyKey : String) :
    Option SessionEvent :=
  database.events.find? fun event =>
    event.sessionId = sessionId ∧ event.idempotencyKey = idempotencyKey

/-- A key which was used before is answered from the stored event, if that
event is of the same command. -/
def replayCommand (database : SessionDatabase) (event : SessionEvent)
    (eventType : SessionEventType) : Except SessionError SessionDatabase :=
  if event.eventType = eventType then .ok database
  else .error .idempotencyKeyReused

def updateSession (database : SessionDatabase) (sessionId : String)
    (update : SessionRecord → SessionRecord) : SessionDatabase :=
  { database with
    sessions := database.sessions.map fun record =>
      if record.id = sessionId then update record else record }

def recordEvent (database : SessionDatabase) (event : SessionEvent) :
    SessionDatabase :=
  { database with events := database.events ++ [event] }

def unreleasedBindings (database : SessionDatabase) (sessionId : String) :
    List SessionChannelBinding :=
  (database.bindings.filter fun binding =>
    binding.sessionId = sessionId && binding.releasedAt.isNone).insertionSort
    fun left right =>
      left.identity.equipmentId < right.identity.equipmentId ∨
        left.identity.equipmentId = right.identity.equipmentId ∧
          (left.identity.channelId < right.identity.channelId ∨
            left.identity.channelId = right.identity.channelId ∧
              left.identity.metric ≤ right.identity.metric)

def nextSnapshotVersion (database : SessionDatabase) (sessionId : String) : ℕ :=
  ((database.snapshots.filter fun snapshot => snapshot.sessionId = sessionId).map
    ConfigSnapshotRecord.version).foldr max 0 + 1

def freezeConfiguration (database : SessionDatabase) (record : SessionRecord)
    (snapshotId : UuidText) (capturedAt : Instant) : SessionDatabase :=
  let frozen := (database.unreleasedBindings record.id).map fun binding =>
    (⟨binding.id, binding.identity, binding.unit⟩ : FrozenBinding)
  let snapshot : ConfigSnapshotRecord :=
    ⟨snapshotId, record.id, database.nextSnapshotVersion record.id,
      record.nodeId, frozen, capturedAt⟩
  ({ database with snapshots := database.snapshots ++ [snapshot] } :
    SessionDatabase).updateSession record.id fun current =>
      { current with activeConfigSnapshotId := some snapshotId.text }

end SessionDatabase

end Nexolab
