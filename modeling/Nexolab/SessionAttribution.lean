import Nexolab.TelemetryDatabase

/-!
# Session attribution of telemetry

`SessionAwareDatabase.persist` inserts the sample as `Database.persist` does
and then resolves, in the same transaction, the test session whose snapshot
binds the series of the event.  An ambiguous or malformed resolution raises and
takes the sample with it.
-/

namespace Nexolab

structure TestSession where
  (id nodeId : String)
  (startedAt completedAt cancelledAt : Option Instant)

structure SessionConfigSnapshot (F : Type) where
  (id sessionId : String)
  version : ℕ
  payload : JsonValue F
  capturedAt : Instant

structure SessionStage where
  (id sessionId : String)
  (enteredAt exitedAt : Option Instant)

/-- The session tables an attribution reads; of the channel bindings only the
identifiers, which the context row refers to. -/
structure SessionTables (F : Type) where
  sessions : List TestSession
  snapshots : List (SessionConfigSnapshot F)
  stages : List SessionStage
  bindingIds : List String

structure ResolvedTelemetryContext where
  sessionId : String
  stageId : Option String
  (bindingId configSnapshotId : String)
  deriving DecidableEq

def attributionResolverVersion : String := "snapshot-timeline-v1"

def startedBy (instant : Option Instant) (capturedAt : Instant) : Bool :=
  match instant with
  | none => false
  | some started => started ≤ capturedAt

def endsAfter (instant : Option Instant) (capturedAt : Instant) : Bool :=
  match instant with
  | none => true
  | some ended => capturedAt < ended

section Resolution

variable {F : Type}

def openSessions (tables : SessionTables F) (event : TelemetryEvent F) :
    List String :=
  let matching := tables.sessions.filter fun session =>
    session.nodeId = event.nodeId.text && startedBy session.startedAt event.capturedAt &&
      endsAfter session.completedAt event.capturedAt &&
      endsAfter session.cancelledAt event.capturedAt
  let sorted := matching.insertionSort fun left right =>
    right.startedAt.getD 0 < left.startedAt.getD 0 ∨
      right.startedAt.getD 0 = left.startedAt.getD 0 ∧ right.id ≤ left.id
  sorted.map TestSession.id

def snapshotAt (tables : SessionTables F) (sessionId : String)
    (capturedAt : Instant) : Option (SessionConfigSnapshot F) :=
  let matching := tables.snapshots.filter fun snapshot =>
    snapshot.sessionId = sessionId ∧ snapshot.capturedAt ≤ capturedAt
  (matching.insertionSort fun left right =>
    right.capturedAt < left.capturedAt ∨ right.capturedAt = left.capturedAt ∧
        (right.version < left.version ∨
          right.version = left.version ∧ right.id ≤ left.id)).head?

def fieldIs (fields : JsonFields F) (key value : String) : Bool :=
  match dictGet fields key with
  | some (.string text) => text = codePoints value
  | _ => false

def matchBinding (event : TelemetryEvent F) (matchingIds : List CodePoints)
    (binding : JsonValue F) : Except AttributionError (List CodePoints) :=
  match binding with
  | .object fields =>
    if fieldIs fields "node_id" event.nodeId.text &&
        fieldIs fields "equipment_id" event.equipmentId.text &&
        fieldIs fields "channel_id" event.channelId.text &&
        fieldIs fields "metric" event.metric.text then
      match dictGet fields "id" with
      | some (.string []) => .error .noBindingIdentifier
      | some (.string bindingId) => .ok (matchingIds ++ [bindingId])
      | _ => .error .noBindingIdentifier
    else .ok matchingIds
  | _ => .error .malformedBinding

def snapshotBindingId (payload : JsonValue F) (event : TelemetryEvent F) :
    Except AttributionError (Option CodePoints) :=
  match payload with
  | .object fields =>
    match dictGet fields "bindings" with
    | some (.array bindings) => do
      let matchingIds ← bindings.foldlM (matchBinding event) []
      match matchingIds with
      | [] => return none
      | [bindingId] => return some bindingId
      | _ => throw .duplicateIdentities
    | _ => .error .noBindingsList
  | _ => .error .payloadNotObject

/-- One iteration over the open sessions: the session, binding and snapshot
of a match. -/
def matchSession (tables : SessionTables F) (event : TelemetryEvent F)
    (found : List (String × CodePoints × String)) (sessionId : String) :
    Except AttributionError (List (String × CodePoints × String)) :=
  match snapshotAt tables sessionId event.capturedAt with
  | none => .ok found
  | some snapshot => do
    match ← snapshotBindingId snapshot.payload event with
    | none => return found
    | some bindingId => return found ++ [(sessionId, bindingId, snapshot.id)]

def openStages (tables : SessionTables F) (sessionId : String)
    (capturedAt : Instant) : List String :=
  let matching := tables.stages.filter fun stage =>
    stage.sessionId = sessionId && startedBy stage.enteredAt capturedAt &&
      endsAfter stage.exitedAt capturedAt
  let sorted := matching.insertionSort fun left right =>
    right.enteredAt.getD 0 < left.enteredAt.getD 0 ∨
      right.enteredAt.getD 0 = left.enteredAt.getD 0 ∧ right.id ≤ left.id
  (sorted.map SessionStage.id).take 2

def textOf (points : CodePoints) : String :=
  String.ofList (points.map Char.ofNat)

def resolveTelemetryContext (tables : SessionTables F) (event : TelemetryEvent F) :
    Except AttributionError (Option ResolvedTelemetryContext) := do
  let found ← (openSessions tables event).foldlM (matchSession tables event) []
  match found with
  | [] => return none
  | [(sessionId, bindingId, snapshotId)] =>
    match openStages tables sessionId event.capturedAt with
    | [] => return some ⟨sessionId, none, textOf bindingId, snapshotId⟩
    | [stageId] =>
      return some ⟨sessionId, some stageId, textOf bindingId, snapshotId⟩
    | _ => throw .multipleActiveStages
  | _ => throw .multipleSessionSnapshots

def contextRow (event : TelemetryEvent F)
    (context : ResolvedTelemetryContext) : TelemetrySessionContext where
  telemetryEventId := event.eventId.text
  sessionId := context.sessionId
  stageId := context.stageId
  bindingId := context.bindingId
  configSnapshotId := context.configSnapshotId
  capturedAt := event.capturedAt
  resolverVersion := attributionResolverVersion

/-- The insert of the context row, with the keys the database checks: one row
per event, and a binding which exists.  Session, stage and snapshot have just
been read. -/
def insertContext (sessions : SessionTables F) (tables : TelemetryTables F)
    (row : TelemetrySessionContext) :
    Except PersistError (TelemetryTables F) :=
  if tables.contexts.any fun context =>
      context.telemetryEventId = row.telemetryEventId then
    .error .contextConstraint
  else if sessions.bindingIds.contains row.bindingId then
    .ok { tables with contexts := tables.contexts ++ [row] }
  else .error .contextConstraint

variable [PythonFloat F]

def SessionAwareDatabase.insertTelemetrySample (tables : TelemetryTables F)
    (allocation : Allocation) (event : TelemetryEvent F) (rawPayload : JsonFields F) :
    Except PersistError (TelemetryTables F × Bool) :=
  insertSample tables allocation event rawPayload

/-- What follows the insert of the sample: the attribution of the event. -/
def attributeSample (sessions : SessionTables F) (tables : TelemetryTables F)
    (event : TelemetryEvent F) : Except PersistError (TelemetryTables F) :=
  match resolveTelemetryContext sessions event with
  | .error error => .error (.attribution error)
  | .ok none => .ok tables
  | .ok (some context) => insertContext sessions tables (contextRow event context)

def SessionAwareDatabase.persist (sessions : SessionTables F)
    (tables : TelemetryTables F) (allocation : Allocation)
    (event : TelemetryEvent F) (rawPayload : JsonFields F) :
    Except PersistError (TelemetryTables F × Bool) := do
  let (inserted, isNew) ← SessionAwareDatabase.insertTelemetrySample tables
    allocation event rawPayload
  if isNew then
    let attributed ← attributeSample sessions inserted event
    return (attributed, true)
  else return (inserted, false)

end Resolution

end Nexolab
