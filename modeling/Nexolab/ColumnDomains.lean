import Nexolab.AlertIsolation
import Nexolab.IngestionDelivery

/-!
# Column domains

What the columns of the telemetry and alert tables accept, apart from the
validation of the contract: a `String` column takes texts up to its length
without NUL characters and lone surrogates, a `BigInteger` column signed 64-bit
integers, and a `JSON` column values whose numbers are finite.  A text which a
query only compares with a column has no length to keep to.  Every `float` and
every `datetime` fits its column, and so do the identifiers and counters the
service and the database choose.
-/

namespace Nexolab

variable {F : Type}

inductive ColumnValue (F : Type) where
  | varchar (length : ℕ) (value : CodePoints)
  /-- A text of a comparison or of a `Text` column. -/
  | text (value : CodePoints)
  | bigInteger (value : ℤ)
  | json (value : JsonValue F)

abbrev Row (F : Type) := List (String × ColumnValue F)

def isSurrogate (point : ℕ) : Bool := 0xD800 ≤ point && point ≤ 0xDFFF

def isEncodable (value : CodePoints) : Bool :=
  value.all fun point => point ≠ 0 && !isSurrogate point

def isSigned64 (value : ℤ) : Bool := -(2 ^ 63) ≤ value && value < 2 ^ 63

section Json

variable [PythonFloat F]

mutual

def JsonValue.isFinite : JsonValue F → Bool
  | .null => true
  | .bool _ => true
  | .int _ => true
  | .float value => PythonFloat.isFinite value
  | .string _ => true
  | .array items => finiteItems items
  | .object fields => finiteFields fields

def finiteItems : List (JsonValue F) → Bool
  | [] => true
  | item :: items => item.isFinite && finiteItems items

def finiteFields : List (CodePoints × JsonValue F) → Bool
  | [] => true
  | (_, value) :: fields => value.isFinite && finiteFields fields

end

end Json

variable [PythonFloat F]

def ColumnValue.accepted : ColumnValue F → Bool
  | .varchar length value => value.length ≤ length && isEncodable value
  | .text value => isEncodable value
  | .bigInteger value => isSigned64 value
  | .json value => value.isFinite

def Row.fits (row : Row F) : Bool := row.all fun column => column.2.accepted

/-! ## The columns of the tables -/

section

omit [PythonFloat F]

def nullable {α : Type} (name : String) (value : Option α) (column : α → ColumnValue F) : Row F :=
  value.toList.map fun present => (name, column present)

def varcharText (name : String) (length : ℕ) (value : String) :
    String × ColumnValue F :=
  (name, .varchar length (codePoints value))

/-- The columns `telemetry_samples` and `telemetry_latest` share. -/
def telemetryColumns (event : TelemetryEvent F) : Row F :=
  [varcharText "event_id" 36 event.eventId.text,
    varcharText "node_id" 128 event.nodeId.text,
    varcharText "metric" 128 event.metric.text,
    varcharText "unit" 32 event.unit.text,
    varcharText "quality" 32 event.quality.text,
    varcharText "source" 128 event.source.text,
    varcharText "equipment_id" 128 event.equipmentId.text,
    varcharText "channel_id" 128 event.channelId.text] ++
  nullable "alarm" event.alarm (fun alarm => .varchar 32 (codePoints alarm.text)) ++
  nullable "raw_value" event.rawValue .bigInteger ++
  nullable "raw_status" event.rawStatus .bigInteger

def sampleColumns (event : TelemetryEvent F) (rawPayload : JsonFields F) : Row F :=
  telemetryColumns event ++ [("raw_payload", .json (.object rawPayload))]

def stateColumns (key : EvaluationKey) (state : AlertEvaluationState F) : Row F :=
  [("organization_id", .varchar 36 state.organizationId),
    varcharText "rule_id" 36 key.1,
    ("resource_key", .varchar 512 key.2)] ++
  nullable "last_event_id" state.snapshot.lastEventId
    (fun eventId => .varchar 36 (codePoints eventId))

def jsonText (name value : String) : CodePoints × JsonValue F :=
  (codePoints name, .string (codePoints value))

def alertColumns (alert : AlertInstance F) : Row F :=
  [("organization_id", .varchar 36 alert.organizationId),
    varcharText "rule_id" 36 alert.ruleId,
    varcharText "rule_version_id" 36 alert.ruleVersionId,
    ("resource_key", .varchar 512 alert.resourceKey),
    varcharText "node_id" 128 alert.nodeId,
    varcharText "equipment_id" 128 alert.equipmentId,
    varcharText "channel_id" 128 alert.channelId,
    varcharText "metric" 128 alert.metric,
    varcharText "state" 32 alert.state.text,
    varcharText "severity" 32 alert.severity,
    varcharText "first_event_id" 36 alert.firstEventId,
    varcharText "last_event_id" 36 alert.lastEventId,
    ("context", .json (.object
      [(codePoints "config_snapshot_id",
          (alert.configSnapshotId.map fun id =>
            JsonValue.string (codePoints id)).getD .null),
        jsonText "unit" alert.unit, jsonText "quality" alert.quality.text,
        jsonText "source" alert.source]))] ++
  nullable "session_id" alert.sessionId (fun id => .varchar 36 (codePoints id)) ++
  nullable "stage_id" alert.stageId (fun id => .varchar 36 (codePoints id)) ++
  nullable "binding_id" alert.bindingId (fun id => .varchar 36 (codePoints id))

def transitionColumns (row : AlertTransition F) : Row F :=
  [varcharText "event_type" 64 row.eventType.text,
    varcharText "next_state" 32 row.nextState.text,
    ("actor_id", .varchar 128 row.actorId),
    ("actor_source", .varchar 64 row.actorSource),
    ("idempotency_key", .varchar 128 row.idempotencyKey),
    ("payload", .json (.object row.payload))] ++
  nullable "previous_state" row.previousState
    (fun state => .varchar 32 (codePoints state.text)) ++
  nullable "reason" row.reason .text

def evidenceColumns (row : AlertEvidenceSample F) : Row F :=
  [varcharText "event_id" 36 row.eventId,
    ("payload", .json (.object
      [jsonText "reason" row.reason, jsonText "quality" row.quality.text,
        jsonText "unit" row.unit,
        (codePoints "alarm", (row.alarm.map fun alarm =>
          JsonValue.string (codePoints alarm.text)).getD .null)]))]

def ruleColumns (record : AlertRule × AlertRuleVersion F) : Row F :=
  [varcharText "id" 36 record.1.id,
    ("organization_id", .varchar 36 record.1.organizationId),
    varcharText "severity" 32 record.1.severity,
    varcharText "rule_version_id" 36 record.2.id]

def queryColumns (event : TelemetryEvent F) (context : PersistedTelemetryContext) :
    Row F :=
  [("telemetry_event_id", .text (codePoints event.eventId.text)),
    ("organization_id", .text context.organizationId),
    ("metric", .text (codePoints event.metric.text)),
    ("node_id", .text (codePoints event.nodeId.text)),
    ("equipment_id", .text (codePoints event.equipmentId.text)),
    ("channel_id", .text (codePoints event.channelId.text))] ++
  nullable "session_id" context.sessionId (fun id => .text (codePoints id))

def contextColumns (context : PersistedTelemetryContext) : Row F :=
  ("organization_id", .varchar 36 context.organizationId) ::
  nullable "session_id" context.sessionId (fun id => .varchar 36 (codePoints id)) ++
  nullable "stage_id" context.stageId (fun id => .varchar 36 (codePoints id)) ++
  nullable "binding_id" context.bindingId (fun id => .varchar 36 (codePoints id)) ++
  nullable "config_snapshot_id" context.configSnapshotId
    (fun id => .varchar 36 (codePoints id))

end

/-- The rows of the alert tables are such as their columns accept. -/
structure AlertTables.Fits (tables : AlertTables F) : Prop where
  states : ∀ {key state}, tables.states key = some state → (stateColumns key state).fits = true
  alerts : ∀ {id alert}, tables.alerts id = some alert → (alertColumns alert).fits = true
  transitions : ∀ row ∈ tables.transitions, (transitionColumns row).fits = true
  evidence : ∀ row ∈ tables.evidence, (evidenceColumns row).fits = true

end Nexolab
