import Nexolab.TelemetryContract
import Nexolab.Utf8Decoder

/-!
# The durable ingestion spool

One SQLite table owns the ingestion work until its persistence succeeds.  Row
identifiers are drawn in order and never reused.  The event identifier and the
delivery key of a row are unique where present; an append under a known key is a
duplicate when the payload is the same and a conflict otherwise.  A row which
cannot be decoded is marked terminal and stays.

Every operation is one transaction, so an operation which SQLite refuses leaves
the table as it was.
-/

namespace Nexolab

inductive SpoolStatus where
  | pending
  | terminal
  deriving DecidableEq

inductive WorkType where
  | telemetry
  | deadLetter
  deriving DecidableEq

def WorkType.text : WorkType → String
  | .telemetry => "telemetry"
  | .deadLetter => "dead_letter"

/-- The columns an append fills, with the check constraint on them. -/
structure SpoolEntry where
  workType : WorkType
  (eventId deliveryKey : Option String)
  payload : Bytes
  topic : Option String
  receivedAt : Instant
  payloadSize : ℕ
  payloadTruncated : Bool
  (reasonCode reasonDetail : Option String)
  work_check : match workType with
    | .telemetry => eventId.isSome ∧ reasonCode = none
    | .deadLetter => eventId = none ∧ reasonCode.isSome

structure SpoolRecord extends SpoolEntry where
  recordId : ℕ
  status : SpoolStatus
  attempts : ℕ
  lastError : Option String

structure SpoolTable where
  records : List SpoolRecord
  nextId : ℕ

def SpoolTable.empty : SpoolTable := ⟨[], 1⟩

structure SpoolLimits where
  (maxRecords maxBytes : ℕ)
  records_pos : 1 ≤ maxRecords
  bytes_pos : 1 ≤ maxBytes

inductive DurableSpoolError where
  | recordCapacity (maxRecords : ℕ)
  | byteCapacity (maxBytes : ℕ)
  | conflict
  | sqlite (message : String)

def DurableSpoolError.text : DurableSpoolError → String
  | .recordCapacity maxRecords =>
    "ingestion spool record capacity " ++ toString maxRecords ++ " reached"
  | .byteCapacity maxBytes =>
    "ingestion spool byte capacity " ++ toString maxBytes ++
      " would be exceeded"
  | .conflict => "ingestion deduplication key was reused for a different payload"
  | .sqlite message => message

structure SpoolAppendResult where
  recordId : ℕ
  duplicate : Bool

/-- What SQLite decides: which of two rows that match different keys an
unordered query returns first, and whether it refuses the operation. -/
structure SqliteChoice where
  lastMatch : Bool
  failure : Option String

def SpoolRecord.isPending (record : SpoolRecord) : Bool :=
  record.status = .pending

def SpoolRecord.sharesKey (record : SpoolRecord) (entry : SpoolEntry) : Bool :=
  (entry.eventId.isSome && record.eventId = entry.eventId) ||
    (entry.deliveryKey.isSome && record.deliveryKey = entry.deliveryKey)

namespace SpoolTable

def payloadBytes (table : SpoolTable) : ℕ :=
  (table.records.map fun record => record.payload.length).sum

def entries (table : SpoolTable) : List (ℕ × SpoolEntry) :=
  table.records.map fun record => (record.recordId, record.toSpoolEntry)

def findExisting (table : SpoolTable) (lastMatch : Bool) (entry : SpoolEntry) :
    Option SpoolRecord :=
  let found := table.records.filter fun record => record.sharesKey entry
  if lastMatch then found.getLast? else found.head?

def newRecord (table : SpoolTable) (entry : SpoolEntry) : SpoolRecord :=
  { entry with
    recordId := table.nextId
    status := .pending
    attempts := 0
    lastError := none }

def append (limits : SpoolLimits) (choice : SqliteChoice) (table : SpoolTable)
    (entry : SpoolEntry) :
    Except DurableSpoolError (SpoolTable × SpoolAppendResult) :=
  match choice.failure with
  | some message =>
    .error (.sqlite ("failed to append ingestion work: " ++ message))
  | none =>
    match table.findExisting choice.lastMatch entry with
    | some existing =>
      if existing.payload = entry.payload then
        .ok (table, ⟨existing.recordId, true⟩)
      else .error .conflict
    | none =>
      if limits.maxRecords ≤ table.records.length then
        .error (.recordCapacity limits.maxRecords)
      else if limits.maxBytes < table.payloadBytes + entry.payload.length then
        .error (.byteCapacity limits.maxBytes)
      else
        .ok (⟨table.records ++ [table.newRecord entry], table.nextId + 1⟩,
          ⟨table.nextId, false⟩)

def oldestPending (table : SpoolTable) : Option SpoolRecord :=
  table.records.find? SpoolRecord.isPending

def delete (table : SpoolTable) (recordId : ℕ) : SpoolTable :=
  { table with
    records := table.records.filter fun record => record.recordId ≠ recordId }

def updatePending (table : SpoolTable) (recordId : ℕ)
    (change : SpoolRecord → SpoolRecord) : SpoolTable :=
  { table with
    records := table.records.map fun record =>
      if record.recordId = recordId ∧ record.isPending = true
      then change record else record }

def storedError (message : String) : String :=
  String.ofList (message.toList.take 4096)

def markAttempt (table : SpoolTable) (recordId : ℕ) (message : String) :
    SpoolTable :=
  table.updatePending recordId fun record => { record with
    attempts := record.attempts + 1
    lastError := some (storedError message) }

def markTerminal (table : SpoolTable) (recordId : ℕ) (message : String) :
    SpoolTable :=
  table.updatePending recordId fun record => { record with
    status := .terminal
    attempts := record.attempts + 1
    lastError := some (storedError message) }

end SpoolTable

/-! ## Entries -/

def normalizeDeliveryKey (deliveryKey : Option String) : Option String :=
  match deliveryKey with
  | none => none
  | some key => if stripText key = "" then none else some (stripText key)

def telemetryEntry (eventId : String) (payload : Bytes) (topic : Option String)
    (receivedAt : Instant) (deliveryKey : Option String) : SpoolEntry where
  workType := .telemetry
  eventId := some eventId
  deliveryKey := normalizeDeliveryKey deliveryKey
  payload
  topic
  receivedAt
  payloadSize := payload.length
  payloadTruncated := false
  reasonCode := none
  reasonDetail := none
  work_check := ⟨rfl, rfl⟩

def deadLetterEntry (payload : Bytes) (payloadSize : ℕ) (payloadTruncated : Bool)
    (reasonCode reasonDetail : String) (topic : Option String)
    (receivedAt : Instant) (deliveryKey : Option String) : SpoolEntry where
  workType := .deadLetter
  eventId := none
  deliveryKey := normalizeDeliveryKey deliveryKey
  payload
  topic
  receivedAt
  payloadSize
  payloadTruncated
  reasonCode := some reasonCode
  reasonDetail := some reasonDetail
  work_check := ⟨rfl, rfl⟩

/-- The entry `append_telemetry` passes on, or the message of its
`ValueError`. -/
def appendTelemetryEntry (eventId : String) (payload : Bytes)
    (topic : Option String) (receivedAt : Instant)
    (deliveryKey : Option String) : Except String SpoolEntry :=
  if stripText eventId = "" then .error "event_id is required"
  else .ok (telemetryEntry (stripText eventId) payload topic receivedAt deliveryKey)

def appendDeadLetterEntry (payload : Bytes) (payloadSize : ℕ)
    (payloadTruncated : Bool) (reasonCode reasonDetail : String)
    (topic : Option String) (receivedAt : Instant)
    (deliveryKey : Option String) : Except String SpoolEntry :=
  if payloadSize < payload.length then
    .error "payload_size cannot be smaller than retained payload"
  else if stripText reasonCode = "" then .error "reason_code is required"
  else .ok (deadLetterEntry payload payloadSize payloadTruncated
    (stripText reasonCode) reasonDetail topic receivedAt deliveryKey)

end Nexolab
