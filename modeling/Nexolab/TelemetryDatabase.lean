import Nexolab.TelemetryContract

/-!
# The telemetry tables

The tables the ingestion writes: samples, the projection `telemetry_latest`
with one row per series, dead letters and session contexts.  Each function is
one transaction; an error rolls it back.  The identifiers and receive times of
inserted rows are chosen by the database and are arguments here.

The dialects of the source reach the same rows by different statements
(`ON CONFLICT` or a select before the write), so they share one definition.
-/

namespace Nexolab

structure TelemetrySample (F : Type) where
  id : ℕ
  event : TelemetryEvent F
  rawPayload : JsonFields F
  rawPayloadRetained : Bool
  receivedAt : Instant

structure TelemetryLatest (F : Type) where
  sampleId : ℕ
  event : TelemetryEvent F
  staleAfterSeconds : Option F
  receivedAt : Instant

structure DeadLetterEvent where
  id : ℕ
  topic : Option String
  (reasonCode reasonDetail : String)
  payload : List UInt8
  payloadSize : ℕ
  payloadTruncated : Bool
  receivedAt : Instant

structure TelemetrySessionContext where
  (telemetryEventId sessionId : String)
  stageId : Option String
  (bindingId configSnapshotId : String)
  capturedAt : Instant
  resolverVersion : String

structure TelemetryTables (F : Type) where
  samples : List (TelemetrySample F)
  latest : SeriesKey → Option (TelemetryLatest F)
  deadLetters : List DeadLetterEvent
  contexts : List TelemetrySessionContext

def TelemetryTables.empty (F : Type) : TelemetryTables F where
  samples := []
  latest := fun _ => none
  deadLetters := []
  contexts := []

inductive AttributionError where
  | multipleSessionSnapshots
  | multipleActiveStages
  | payloadNotObject
  | noBindingsList
  | malformedBinding
  | noBindingIdentifier
  | duplicateIdentities
  deriving DecidableEq

def AttributionError.message : AttributionError → String
  | .multipleSessionSnapshots =>
    "telemetry identity resolves to multiple session snapshots"
  | .multipleActiveStages =>
    "telemetry capture time resolves to multiple active session stages"
  | .payloadNotObject => "configuration snapshot payload is not an object"
  | .noBindingsList => "configuration snapshot payload has no bindings list"
  | .malformedBinding => "configuration snapshot contains a malformed binding"
  | .noBindingIdentifier =>
    "configuration snapshot binding has no valid identifier"
  | .duplicateIdentities =>
    "configuration snapshot contains duplicate telemetry identities"

inductive PersistError where
  /-- `float(value)` of an integer which is too large for a float. -/
  | floatOverflow
  | attribution (error : AttributionError)
  /-- The context row violates a key constraint. -/
  | contextConstraint

structure Allocation where
  id : ℕ
  receivedAt : Instant

section Persistence

variable {F : Type} [PythonFloat F]

def staleAfterSeconds (rawPayload : JsonFields F) :
    Except PersistError (Option F) :=
  let positive := fun resolved : F =>
    if PythonFloat.lt PythonFloat.zero resolved then some resolved else none
  match dictGet rawPayload "stale_after_seconds" with
  | some (.int value) =>
    match PythonFloat.ofInt value with
    | none => .error .floatOverflow
    | some resolved => .ok (positive resolved)
  | some (.float value) => .ok (positive value)
  | _ => .ok none

def latestValues (event : TelemetryEvent F) (sampleId : ℕ)
    (receivedAt : Instant) (rawPayload : JsonFields F) :
    Except PersistError (TelemetryLatest F) := do
  let stale ← staleAfterSeconds rawPayload
  return ⟨sampleId, event, stale, receivedAt⟩

section

omit [PythonFloat F]

def newer (excluded existing : TelemetryLatest F) : Prop :=
  existing.event.capturedAt < excluded.event.capturedAt ∨
    excluded.event.capturedAt = existing.event.capturedAt ∧ existing.sampleId < excluded.sampleId

instance (excluded existing : TelemetryLatest F) :
    Decidable (newer excluded existing) :=
  inferInstanceAs (Decidable (_ ∨ _ ∧ _))

def upsertLatest (tables : TelemetryTables F) (values : TelemetryLatest F) :
    TelemetryTables F :=
  let series := values.event.series
  match tables.latest series with
  | none =>
    { tables with
      latest := Function.update tables.latest series (some values) }
  | some existing =>
    if newer values existing then
      { tables with
        latest := Function.update tables.latest series (some values) }
    else tables

def TelemetryTables.stores (tables : TelemetryTables F) (eventId : UuidText) : Bool :=
  tables.samples.any fun sample => sample.event.eventId = eventId

end

/-- The insert both persistence paths make: nothing for a stored event id,
else the sample and the projection of its series. -/
def insertSample (tables : TelemetryTables F) (allocation : Allocation)
    (event : TelemetryEvent F) (rawPayload : JsonFields F) :
    Except PersistError (TelemetryTables F × Bool) :=
  if tables.stores event.eventId then .ok (tables, false)
  else do
    let sample : TelemetrySample F :=
      ⟨allocation.id, event, rawPayload, true, allocation.receivedAt⟩
    let values ← latestValues event allocation.id allocation.receivedAt rawPayload
    return (upsertLatest { tables with samples := tables.samples ++ [sample] } values, true)

def Database.persist (tables : TelemetryTables F) (allocation : Allocation)
    (event : TelemetryEvent F) (rawPayload : JsonFields F) :
    Except PersistError (TelemetryTables F × Bool) :=
  insertSample tables allocation event rawPayload

end Persistence

section Retention

variable {F : Type}

def Database.persistDeadLetter (tables : TelemetryTables F)
    (row : DeadLetterEvent) : TelemetryTables F :=
  { tables with deadLetters := tables.deadLetters ++ [row] }

structure RetentionPolicy where
  (telemetryRetentionDays rawPayloadRetentionDays deadLetterRetentionDays : ℕ)
  batchSize : ℕ

def batchIds (ids : List ℕ) (batchSize : ℕ) : List ℕ :=
  (ids.insertionSort (· ≤ ·)).take batchSize

/-- `Database.cleanup_retention`.  Deleting a sample deletes its context. -/
def Database.cleanupRetention (tables : TelemetryTables F) (now : Instant)
    (policy : RetentionPolicy) : TelemetryTables F :=
  let telemetryCutoff := now - policy.telemetryRetentionDays * microsPerDay
  let rawPayloadCutoff := now - policy.rawPayloadRetentionDays * microsPerDay
  let deadLetterCutoff := now - policy.deadLetterRetentionDays * microsPerDay
  let telemetryIds := batchIds ((tables.samples.filter fun sample =>
      sample.event.capturedAt < telemetryCutoff).map TelemetrySample.id)
    policy.batchSize
  let kept := tables.samples.filter fun sample =>
    ¬ telemetryIds.contains sample.id
  let rawPayloadIds := batchIds ((kept.filter fun sample => sample.receivedAt < rawPayloadCutoff ∧
      sample.rawPayloadRetained = true).map TelemetrySample.id)
    policy.batchSize
  let deadLetterIds := batchIds ((tables.deadLetters.filter fun row =>
      row.receivedAt < deadLetterCutoff).map DeadLetterEvent.id)
    policy.batchSize
  { tables with
    samples := kept.map fun sample =>
      if rawPayloadIds.contains sample.id
      then { sample with rawPayload := [], rawPayloadRetained := false }
      else sample
    contexts := tables.contexts.filter fun context =>
      kept.any fun sample =>
        sample.event.eventId.text = context.telemetryEventId
    deadLetters := tables.deadLetters.filter fun row =>
      ¬ deadLetterIds.contains row.id }

end Retention

end Nexolab
