import Nexolab.JsonDecoder
import Nexolab.DurableSpool

/-!
# Decoding a submission

`decodeSubmission` turns the bytes of a message into telemetry or into a dead
letter with its reason; `workFromSpool` does the same for a staged record.  Both
read the event with the coercions of the validation library, which are
parameters, and the checks of the contract.  The live decoder handles the
library's validation error and `JSONDecodeError`; any other exception escapes.
-/

namespace Nexolab

def Quality.text : Quality → String
  | .valid => "valid"
  | .sensorError => "sensor_error"
  | .communicationError => "communication_error"
  | .unknown => "unknown"

def Alarm.text : Alarm → String
  | .low => "low"
  | .high => "high"

structure AwareDatetime where
  (wallTime offset : ℤ)
  wall_range : minInstant ≤ wallTime ∧ wallTime ≤ maxInstant
  offset_range : -microsPerDay < offset ∧ offset < microsPerDay

/-- The coercions of the validation library for the types of the contract, and
the text of its error for an object it rejects. -/
structure Coercions (F : Type) where
  uuid : JsonValue F → Option UuidText
  text : JsonValue F → Option String
  awareDatetime : JsonValue F → Option AwareDatetime
  number : JsonValue F → Option F
  integer : JsonValue F → Option ℤ
  describe : JsonFields F → String

section Contract

variable {F α : Type}

def requiredField (fields : JsonFields F) (key : String)
    (coerce : JsonValue F → Option α) : Option α :=
  (dictGet fields key).bind coerce

def coerceNullable (coerce : JsonValue F → Option α) :
    JsonValue F → Option (Option α)
  | .null => some none
  | value => (coerce value).map some

def defaultedField (fields : JsonFields F) (key : String)
    (coerce : JsonValue F → Option α) : Option (Option α) :=
  match dictGet fields key with
  | none => some none
  | some value => coerceNullable coerce value

def coerceBounded (coercions : Coercions F) (maxLength : ℕ)
    (value : JsonValue F) : Option (BoundedText maxLength) :=
  match coercions.text value with
  | none => none
  | some text =>
    if hlen : 1 ≤ text.length ∧ text.length ≤ maxLength then
      some ⟨text, hlen.1, hlen.2⟩
    else none

def coerceLiteral (literals : List (α × String)) : JsonValue F → Option α
  | .string value =>
    (literals.find? fun literal => codePoints literal.2 = value).map Prod.fst
  | _ => none

def coerceQuality : JsonValue F → Option Quality :=
  coerceLiteral ([.valid, .sensorError, .communicationError, .unknown].map
    fun quality => (quality, quality.text))

def coerceAlarm : JsonValue F → Option Alarm :=
  coerceLiteral ([.low, .high].map fun alarm => (alarm, alarm.text))

/-- `normalize_captured_at`; outside the range of `datetime` it raises. -/
def normalizeCapturedAt (captured : AwareDatetime) :
    Option { instant : Instant // minInstant ≤ instant ∧ instant ≤ maxInstant } :=
  let instant := captured.wallTime - captured.offset
  if hrange : minInstant ≤ instant ∧ instant ≤ maxInstant then
    some ⟨instant, hrange⟩
  else none

inductive ValidationFailure where
  | invalid (detail : String)
  | overflow

/-- The conversion of `captured_at` to UTC raises `OverflowError`, whatever the
other fields are. -/
def capturedAtOverflows (coercions : Coercions F) (fields : JsonFields F) :
    Bool :=
  match requiredField fields "captured_at" coercions.awareDatetime with
  | none => false
  | some captured => (normalizeCapturedAt captured).isNone

def validEvent (coercions : Coercions F) (fields : JsonFields F) :
    Option (TelemetryEvent F) := do
  let eventId ← requiredField fields "event_id" coercions.uuid
  let nodeId ← requiredField fields "node_id" (coerceBounded coercions 128)
  let captured ← requiredField fields "captured_at" coercions.awareDatetime
  let capturedAt ← normalizeCapturedAt captured
  let metric ← requiredField fields "metric" (coerceBounded coercions 128)
  let value ← requiredField fields "value" (coerceNullable coercions.number)
  let unit ← requiredField fields "unit" (coerceBounded coercions 32)
  let quality ← requiredField fields "quality" coerceQuality
  let source ← requiredField fields "source" (coerceBounded coercions 128)
  let equipmentId ←
    requiredField fields "equipment_id" (coerceBounded coercions 128)
  let channelId ← requiredField fields "channel_id" (coerceBounded coercions 128)
  let alarm ← defaultedField fields "alarm" coerceAlarm
  let rawValue ← defaultedField fields "raw_value" coercions.integer
  let rawStatus ← defaultedField fields "raw_status" coercions.integer
  -- `validate_value_quality`
  if hpresent : quality = .valid → value.isSome then
    some {
      eventId
      nodeId
      capturedAt := capturedAt.1
      metric
      value
      unit
      quality
      source
      equipmentId
      channelId
      alarm
      rawValue
      rawStatus
      captured_range := capturedAt.2
      value_present := hpresent }
  else none

def modelValidate (coercions : Coercions F) (fields : JsonFields F) :
    Except ValidationFailure (TelemetryEvent F) :=
  if capturedAtOverflows coercions fields then .error .overflow
  else
    match validEvent coercions fields with
    | none => .error (.invalid (coercions.describe fields))
    | some event => .ok event

end Contract

/-! ## Work -/

structure TelemetryWork (F : Type) where
  event : TelemetryEvent F
  raw : JsonFields F
  payload : Bytes
  topic : Option String
  receivedAt : Instant

structure DeadLetterWork where
  payload : Bytes
  payloadSize : ℕ
  payloadTruncated : Bool
  (reasonCode reasonDetail : String)
  topic : Option String
  receivedAt : Instant

inductive PersistenceWork (F : Type) where
  | telemetry (work : TelemetryWork F)
  | deadLetter (work : DeadLetterWork)

def telemetryOf {F ε : Type} (decoded : Except ε (PersistenceWork F)) :
    Option (TelemetryWork F) :=
  match decoded with
  | .ok (.telemetry work) => some work
  | _ => none

theorem telemetryOf_eq_some {F ε : Type} {decoded : Except ε (PersistenceWork F)}
    {work : TelemetryWork F} :
    telemetryOf decoded = some work ↔ decoded = .ok (.telemetry work) := by
  unfold telemetryOf
  split
  next => simp
  next hother =>
    constructor
    · intro hnone
      cases hnone
    · intro hdecoded
      exact absurd hdecoded (hother work)

structure IngestionSettings where
  (payloadMaxBytes deadLetterPayloadMaxBytes : ℕ)
  /-- How many containers `json.loads` may nest. -/
  recursionLimit : ℕ

inductive UncaughtError where
  | json (error : JsonError)
  | overflow
  | value (message : String)

def deadLetterWork (settings : IngestionSettings) (payload : Bytes)
    (topic : Option String) (receivedAt : Instant)
    (reasonCode reasonDetail : String) : DeadLetterWork :=
  let retained := payload.take settings.deadLetterPayloadMaxBytes
  { payload := retained
    payloadSize := payload.length
    payloadTruncated := retained.length ≠ payload.length
    reasonCode
    reasonDetail
    topic
    receivedAt }

section Decoding

variable {F : Type} [PythonFloat F]

def decodeSubmission (settings : IngestionSettings) (coercions : Coercions F)
    (payload : Bytes) (topic : Option String) (receivedAt : Instant) :
    Except UncaughtError (PersistenceWork F) :=
  let reject := fun reasonCode reasonDetail =>
    Except.ok (.deadLetter (deadLetterWork settings payload topic receivedAt
      reasonCode reasonDetail))
  if settings.payloadMaxBytes < payload.length then
    reject "payload_too_large"
      ("payload size " ++ toString payload.length ++ " exceeds " ++
        toString settings.payloadMaxBytes ++ " bytes")
  else
    match decodeUtf8 payload with
    | .error error => reject "invalid_utf8" error.text
    | .ok decoded =>
      match loads settings.recursionLimit decoded with
      | .error (.decode message left) =>
        reject "invalid_json" (jsonErrorText decoded message left)
      | .error error => .error (.json error)
      | .ok (.object raw) =>
        match modelValidate coercions raw with
        | .error .overflow => .error .overflow
        | .error (.invalid detail) => reject "schema_validation" detail
        | .ok event => .ok (.telemetry ⟨event, raw, payload, topic, receivedAt⟩)
      | .ok _ =>
        reject "payload_not_object" "telemetry payload must be a JSON object"

inductive SpoolDecodeError where
  | invalidRecord (message : String)
  | uncaught (error : UncaughtError)

/-- `str(error)` of the `ValueError` for a long integer literal. -/
def longIntegerText (digits : ℕ) : String :=
  "Exceeds the limit (" ++ toString maxStrDigits ++
    " digits) for integer string conversion: value has " ++ toString digits ++
    " digits; use sys.set_int_max_str_digits() to increase the limit"

def notDecodable (recordId : ℕ) (detail : String) : SpoolDecodeError :=
  .invalidRecord ("telemetry record " ++ toString recordId ++
    " is no longer decodable: " ++ detail)

/-- The event of a staged payload; a plain `ValueError` is handled here. -/
def telemetryFromSpool (settings : IngestionSettings) (coercions : Coercions F)
    (record : SpoolRecord) :
    Except SpoolDecodeError (TelemetryEvent F × JsonFields F) :=
  match decodeUtf8 record.payload with
  | .error error => .error (notDecodable record.recordId error.text)
  | .ok decoded =>
    match loads settings.recursionLimit decoded with
    | .error (.decode message left) =>
      .error (notDecodable record.recordId (jsonErrorText decoded message left))
    | .error (.longInteger digits) =>
      .error (notDecodable record.recordId (longIntegerText digits))
    | .error error => .error (.uncaught (.json error))
    | .ok (.object raw) =>
      match modelValidate coercions raw with
      | .error .overflow => .error (.uncaught .overflow)
      | .error (.invalid detail) =>
        .error (notDecodable record.recordId detail)
      | .ok event => .ok (event, raw)
    | .ok _ => .error (notDecodable record.recordId "telemetry payload must be a JSON object")

def workFromSpool (settings : IngestionSettings) (coercions : Coercions F)
    (record : SpoolRecord) : Except SpoolDecodeError (PersistenceWork F) :=
  match record.workType with
  | .deadLetter =>
    match record.reasonCode with
    | none => .error (.invalidRecord ("dead-letter record " ++
        toString record.recordId ++ " has no reason code"))
    | some reasonCode => .ok (.deadLetter {
        payload := record.payload
        payloadSize := record.payloadSize
        payloadTruncated := record.payloadTruncated
        reasonCode
        reasonDetail := record.reasonDetail.getD ""
        topic := record.topic
        receivedAt := record.receivedAt })
  | .telemetry =>
    match telemetryFromSpool settings coercions record with
    | .error error => .error error
    | .ok (event, raw) =>
      if record.eventId = some event.eventId.text then
        .ok (.telemetry ⟨event, raw, record.payload, record.topic, record.receivedAt⟩)
      else .error (.invalidRecord ("telemetry record " ++
        toString record.recordId ++ " event_id mismatch"))

def stagedEntry (deliveryKey : Option String) :
    PersistenceWork F → Except String SpoolEntry
  | .telemetry work => appendTelemetryEntry work.event.eventId.text work.payload
      work.topic work.receivedAt deliveryKey
  | .deadLetter work => appendDeadLetterEntry work.payload work.payloadSize
      work.payloadTruncated work.reasonCode work.reasonDetail work.topic
      work.receivedAt deliveryKey

/-! ## Staged work decodes to itself -/

def rejectionReasons : List String :=
  ["payload_too_large", "invalid_utf8", "invalid_json", "payload_not_object",
    "schema_validation"]

theorem rejectionReasons_stripped {reasonCode : String} (hreason : reasonCode ∈ rejectionReasons) :
    stripText reasonCode = reasonCode ∧ reasonCode ≠ "" := by
  have hall : ∀ reason ∈ rejectionReasons, stripText reason = reason ∧ reason ≠ "" := by
    decide +kernel
  exact hall reasonCode hreason

theorem UuidText.stripped (eventId : UuidText) :
    stripText eventId.text = eventId.text ∧ eventId.text ≠ "" := by
  have hspaces : ∀ char ∈ "0123456789abcdef-".toList,
      isPythonSpace char.toNat = false := by
    decide
  have hstrip : stripWith (fun char => isPythonSpace char.toNat)
      eventId.text.toList = eventId.text.toList := by
    apply stripWith_eq_self
    intro char hchar
    exact hspaces char (eventId.chars char hchar)
  constructor
  · unfold stripText
    rw [hstrip]
    exact String.ofList_toList
  · intro hempty
    have hlen := eventId.length_eq
    rw [hempty] at hlen
    cases hlen

variable {settings : IngestionSettings} {coercions : Coercions F}
  {payload : Bytes} {topic : Option String} {receivedAt : Instant}

structure DecodedTelemetry (settings : IngestionSettings)
    (coercions : Coercions F) (payload : Bytes) (topic : Option String)
    (receivedAt : Instant) (work : TelemetryWork F) : Prop where
  payload_eq : work.payload = payload
  topic_eq : work.topic = topic
  received_eq : work.receivedAt = receivedAt
  size_le : payload.length ≤ settings.payloadMaxBytes
  decoded : ∃ text, decodeUtf8 payload = .ok text ∧
    loads settings.recursionLimit text = .ok (.object work.raw) ∧
    modelValidate coercions work.raw = .ok work.event

/-- Accepted work is decoded telemetry or a dead letter with a known reason. -/
inductive DecodedWork (settings : IngestionSettings) (coercions : Coercions F)
    (payload : Bytes) (topic : Option String) (receivedAt : Instant) :
    PersistenceWork F → Prop
  | telemetry {work : TelemetryWork F} :
      DecodedTelemetry settings coercions payload topic receivedAt work →
      DecodedWork settings coercions payload topic receivedAt (.telemetry work)
  | deadLetter {reasonCode : String} (reasonDetail : String) :
      reasonCode ∈ rejectionReasons →
      DecodedWork settings coercions payload topic receivedAt
        (.deadLetter (deadLetterWork settings payload topic receivedAt reasonCode reasonDetail))

variable {work : PersistenceWork F}

theorem decodeSubmission_decoded
    (hdecode : decodeSubmission settings coercions payload topic receivedAt = .ok work) :
    DecodedWork settings coercions payload topic receivedAt work := by
  unfold decodeSubmission at hdecode
  dsimp only at hdecode
  by_cases hsize : settings.payloadMaxBytes < payload.length
  · rw [if_pos hsize, Except.ok.injEq] at hdecode
    rw [← hdecode]
    exact .deadLetter _ (by decide)
  rw [if_neg hsize] at hdecode
  cases hutf8 : decodeUtf8 payload with
  | error error =>
    rw [hutf8, Except.ok.injEq] at hdecode
    rw [← hdecode]
    exact .deadLetter _ (by decide)
  | ok text =>
    rw [hutf8] at hdecode
    dsimp only at hdecode
    split at hdecode
    next message left _ =>
      cases hdecode
      exact .deadLetter _ (by decide)
    next => cases hdecode
    next raw hloads =>
      split at hdecode
      next => cases hdecode
      next detail _ =>
        cases hdecode
        exact .deadLetter _ (by decide)
      next event hvalid =>
        cases hdecode
        exact .telemetry ⟨rfl, rfl, rfl, not_lt.mp hsize, text, hutf8, hloads, hvalid⟩
    next =>
      cases hdecode
      exact .deadLetter _ (by decide)

theorem decodeSubmission_restamp {work : TelemetryWork F}
    (hdecode : decodeSubmission settings coercions payload topic receivedAt =
      .ok (.telemetry work)) (later : Instant) :
    decodeSubmission settings coercions payload topic later =
      .ok (.telemetry { work with receivedAt := later }) := by
  cases decodeSubmission_decoded hdecode with
  | telemetry hdecoded =>
    obtain ⟨text, hutf8, hloads, hvalid⟩ := hdecoded.decoded
    obtain ⟨event, raw, workPayload, workTopic, workReceivedAt⟩ := work
    have hpayload : workPayload = payload := hdecoded.payload_eq
    have htopic : workTopic = topic := hdecoded.topic_eq
    subst hpayload
    subst htopic
    dsimp only at hloads hvalid
    unfold decodeSubmission
    dsimp only
    rw [if_neg (not_lt.mpr hdecoded.size_le), hutf8]
    dsimp only
    rw [hloads]
    dsimp only
    rw [hvalid]

theorem telemetryFromSpool_staged {work : TelemetryWork F}
    (hdecoded : DecodedTelemetry settings coercions payload topic receivedAt work)
    {record : SpoolRecord} (hpayload : record.payload = payload) :
    telemetryFromSpool settings coercions record = .ok (work.event, work.raw) := by
  obtain ⟨text, hutf8, hloads, hvalid⟩ := hdecoded.decoded
  unfold telemetryFromSpool
  rw [hpayload, hutf8]
  dsimp only
  rw [hloads]
  dsimp only
  rw [hvalid]

/-- The entry of work whose keys and reason are already normalized. -/
def entryOf (deliveryKey : Option String) : PersistenceWork F → SpoolEntry
  | .telemetry work => telemetryEntry work.event.eventId.text work.payload
      work.topic work.receivedAt deliveryKey
  | .deadLetter work => deadLetterEntry work.payload work.payloadSize
      work.payloadTruncated work.reasonCode work.reasonDetail work.topic
      work.receivedAt deliveryKey

omit [PythonFloat F] in
theorem appendDeadLetterEntry_eq {retained : Bytes} {payloadSize : ℕ}
    {payloadTruncated : Bool} {reasonCode reasonDetail : String}
    {deliveryKey : Option String} (hsize : retained.length ≤ payloadSize)
    (hstrip : stripText reasonCode = reasonCode) (hne : reasonCode ≠ "") :
    appendDeadLetterEntry retained payloadSize payloadTruncated reasonCode
        reasonDetail topic receivedAt deliveryKey =
      .ok (deadLetterEntry retained payloadSize payloadTruncated reasonCode
        reasonDetail topic receivedAt deliveryKey) := by
  unfold appendDeadLetterEntry
  rw [if_neg (not_lt.mpr hsize), hstrip, if_neg hne]

theorem stagedEntry_decoded
    (hdecoded : DecodedWork settings coercions payload topic receivedAt work)
    (deliveryKey : Option String) :
    stagedEntry deliveryKey work = .ok (entryOf deliveryKey work) := by
  cases hdecoded with
  | @telemetry work _ =>
    obtain ⟨hstrip, hne⟩ := work.event.eventId.stripped
    simp [stagedEntry, appendTelemetryEntry, entryOf, hstrip, hne]
  | @deadLetter reasonCode reasonDetail hreason =>
    obtain ⟨hstrip, hne⟩ := rejectionReasons_stripped hreason
    have hretained : (payload.take settings.deadLetterPayloadMaxBytes).length ≤ payload.length := by
      rw [List.length_take]
      omega
    exact appendDeadLetterEntry_eq hretained hstrip hne

theorem entryOf_payload_length_le
    (hdecoded : DecodedWork settings coercions payload topic receivedAt work)
    (deliveryKey : Option String) :
    (entryOf deliveryKey work).payload.length ≤ payload.length := by
  cases hdecoded with
  | telemetry hdecoded =>
    rw [← hdecoded.payload_eq]
    exact le_rfl
  | deadLetter =>
    change (payload.take settings.deadLetterPayloadMaxBytes).length ≤ _
    rw [List.length_take]
    omega

theorem workFromSpool_entryOf
    (hdecoded : DecodedWork settings coercions payload topic receivedAt work)
    {deliveryKey : Option String} {record : SpoolRecord}
    (hrec : record.toSpoolEntry = entryOf deliveryKey work) :
    workFromSpool settings coercions record = .ok work := by
  obtain ⟨entry, recordId, status, attempts, lastError⟩ := record
  dsimp only at hrec
  subst hrec
  cases hdecoded with
  | @telemetry work hdecoded =>
    have hevent : telemetryFromSpool settings coercions
        ⟨entryOf deliveryKey (.telemetry work), recordId, status, attempts,
          lastError⟩ = .ok (work.event, work.raw) :=
      telemetryFromSpool_staged hdecoded hdecoded.payload_eq
    unfold workFromSpool
    simp only [entryOf, telemetryEntry] at hevent ⊢
    rw [hevent]
    simp
  | @deadLetter reasonCode reasonDetail _ =>
    simp [workFromSpool, entryOf, deadLetterEntry, deadLetterWork]

/-- The payload stops neither the scanner with an exception it does not report
as a syntax error nor the conversion of `captured_at`. -/
def decodesWithoutException (settings : IngestionSettings)
    (coercions : Coercions F) (payload : Bytes) : Prop :=
  settings.payloadMaxBytes < payload.length ∨
    match decodeUtf8 payload with
    | .error _ => True
    | .ok text =>
      match (loads settings.recursionLimit text :
        Except JsonError (JsonValue F)) with
      | .error (.decode _ _) => True
      | .error _ => False
      | .ok (.object raw) => capturedAtOverflows coercions raw = false
      | .ok _ => True

omit [PythonFloat F] in
theorem modelValidate_eq_overflow_iff (coercions : Coercions F) (raw : JsonFields F) :
    modelValidate coercions raw = .error .overflow ↔ capturedAtOverflows coercions raw = true := by
  unfold modelValidate
  cases capturedAtOverflows coercions raw with
  | true => simp
  | false =>
    rw [if_neg (by simp)]
    cases validEvent coercions raw <;> simp

theorem decodeSubmission_ok_iff :
    (∃ work, decodeSubmission settings coercions payload topic receivedAt =
      .ok work) ↔ decodesWithoutException settings coercions payload := by
  unfold decodeSubmission decodesWithoutException
  dsimp only
  by_cases hsize : settings.payloadMaxBytes < payload.length
  · rw [if_pos hsize]
    exact ⟨fun _ => .inl hsize, fun _ => ⟨_, rfl⟩⟩
  rw [if_neg hsize]
  have hsimplify : ∀ condition : Prop,
      (settings.payloadMaxBytes < payload.length ∨ condition) ↔ condition := by
    intro condition
    exact or_iff_right hsize
  rw [hsimplify]
  cases hutf8 : decodeUtf8 payload with
  | error error => exact ⟨fun _ => trivial, fun _ => ⟨_, rfl⟩⟩
  | ok text =>
    dsimp only
    cases hloads : (loads settings.recursionLimit text :
        Except JsonError (JsonValue F)) with
    | error error =>
      cases error with
      | decode message left => exact ⟨fun _ => trivial, fun _ => ⟨_, rfl⟩⟩
      | longInteger digits => simp
      | recursion => simp
      | unfinished => simp
    | ok value =>
      cases value with
      | object raw =>
        dsimp only
        have hoverflow := modelValidate_eq_overflow_iff coercions raw
        cases hvalid : modelValidate coercions raw with
        | error failure =>
          cases failure with
          | overflow => simp [hoverflow.mp hvalid]
          | invalid detail =>
            rw [hvalid] at hoverflow
            simp only [Except.error.injEq, reduceCtorEq, false_iff, Bool.not_eq_true] at hoverflow
            simp [hoverflow]
        | ok event =>
          rw [hvalid] at hoverflow
          simp only [reduceCtorEq, false_iff, Bool.not_eq_true] at hoverflow
          simp [hoverflow]
      | null => exact ⟨fun _ => trivial, fun _ => ⟨_, rfl⟩⟩
      | bool _ => exact ⟨fun _ => trivial, fun _ => ⟨_, rfl⟩⟩
      | int _ => exact ⟨fun _ => trivial, fun _ => ⟨_, rfl⟩⟩
      | float _ => exact ⟨fun _ => trivial, fun _ => ⟨_, rfl⟩⟩
      | string _ => exact ⟨fun _ => trivial, fun _ => ⟨_, rfl⟩⟩
      | array _ => exact ⟨fun _ => trivial, fun _ => ⟨_, rfl⟩⟩

/-- Every payload is decoded, and its staged record decodes to the same work,
exactly when no exception escapes. -/
theorem decodeSubmission_staged_iff (settings : IngestionSettings)
    (coercions : Coercions F) (payload : Bytes) (topic : Option String)
    (receivedAt : Instant) (deliveryKey : Option String) :
    (∃ work entry, decodeSubmission settings coercions payload topic receivedAt =
        .ok work ∧ stagedEntry deliveryKey work = .ok entry ∧
      ∀ record : SpoolRecord, record.toSpoolEntry = entry →
        workFromSpool settings coercions record = .ok work) ↔
      decodesWithoutException settings coercions payload := by
  constructor
  · rintro ⟨work, entry, hdecode, _⟩
    exact decodeSubmission_ok_iff.mp ⟨work, hdecode⟩
  · intro hdecodes
    obtain ⟨work, hdecode⟩ := decodeSubmission_ok_iff.mpr hdecodes
    have hdecoded := decodeSubmission_decoded hdecode
    refine ⟨work, entryOf deliveryKey work, hdecode,
      stagedEntry_decoded hdecoded deliveryKey, ?_⟩
    intro record hrec
    exact workFromSpool_entryOf hdecoded hrec

end Decoding

def timestampDatetime (seconds : ℤ) (hrange : seconds.natAbs ≤ 20000000000) :
    AwareDatetime where
  wallTime := seconds * microsPerSecond
  offset := 0
  wall_range := by
    change (-62135596800000000 : ℤ) ≤ seconds * 1000000 ∧
      seconds * 1000000 ≤ (253402300799999999 : ℤ)
    omega
  offset_range := by decide

/-- The coercions of JSON strings, of numbers, and of an integer as seconds
since the epoch. -/
def exampleCoercions : Coercions FloatValue where
  uuid
    | .string value =>
      let text := String.ofList (value.map Char.ofNat)
      if hlen : text.length = 36 then
        if hchars : ∀ c ∈ text.toList, c ∈ "0123456789abcdef-".toList then
          some ⟨text, hlen, hchars⟩
        else none
      else none
    | _ => none
  text
    | .string value =>
      if value.any fun point => 0xD800 ≤ point && point ≤ 0xDFFF then none
      else some (String.ofList (value.map Char.ofNat))
    | _ => none
  awareDatetime
    | .int seconds =>
      if hrange : seconds.natAbs ≤ 20000000000 then
        some (timestampDatetime seconds hrange)
      else none
    | _ => none
  number
    | .int value => PythonFloat.ofInt value
    | .float value => some value
    | _ => none
  integer
    | .int value => some value
    | _ => none
  describe _ := "validation error for TelemetryEvent"

def exampleSettings : IngestionSettings := ⟨262144, 65536, 1000⟩

def asciiBytes (text : String) : Bytes :=
  text.toList.map fun char => UInt8.ofNat char.toNat

def examplePayload (eventId value : String) : Bytes :=
  (["\x7b\"event_id\":\"", eventId, "\",\"node_id\":\"node-1\"",
    ",\"captured_at\":1", ",\"metric\":\"temperature.probe\"", ",\"value\":",
    value, ",\"unit\":\"degC\"", ",\"quality\":\"valid\"",
    ",\"source\":\"modbus\"", ",\"equipment_id\":\"xjp60d-7\"",
    ",\"channel_id\":\"7-01\"\x7d"].map asciiBytes).flatten

theorem decodeSubmission_ones {F : Type} [PythonFloat F]
    (settings : IngestionSettings) (coercions : Coercions F) {digits : ℕ}
    (hlong : maxStrDigits < digits) (hsize : digits ≤ settings.payloadMaxBytes)
    (topic : Option String) (receivedAt : Instant) :
    decodeSubmission settings coercions (List.replicate digits 49) topic
      receivedAt = .error (.json (.longInteger digits)) := by
  have hlen : ¬ settings.payloadMaxBytes < (List.replicate digits (49 : UInt8)).length := by
    rw [List.length_replicate]
    omega
  have hutf8 : decodeUtf8 (List.replicate digits 49) = .ok (List.replicate digits 49) := by
    have hascii : ∀ byte ∈ List.replicate digits (49 : UInt8), byte.toNat < 0x80 := by
      intro byte hbyte
      rw [List.eq_of_mem_replicate hbyte]
      decide
    have hdecoded := decodeUtf8From_ascii hascii 0
    rw [List.map_replicate] at hdecoded
    exact hdecoded
  have hloads : (loads settings.recursionLimit (List.replicate digits 49) :
      Except JsonError (JsonValue F)) = .error (.longInteger digits) :=
    loads_longInteger _ hlong
  unfold decodeSubmission
  dsimp only
  rw [if_neg hlen, hutf8]
  dsimp only
  rw [hloads]

/-- A payload of 4301 digits is neither telemetry nor a dead letter. -/
theorem decodeSubmission_longInteger :
    ¬ ∃ work, decodeSubmission exampleSettings exampleCoercions
      (List.replicate 4301 49) none 0 = .ok work := by
  rintro ⟨work, hwork⟩
  rw [decodeSubmission_ones _ _ (by decide) (by decide)] at hwork
  cases hwork

/-- The scanner finishes: a message is decoded or one of three exceptions escapes, and from the
spool only two, since the error of a long integer is handled there. -/
theorem decoding_finishes {F : Type} [PythonFloat F] (settings : IngestionSettings)
    (coercions : Coercions F) :
    (∀ payload topic receivedAt,
      (∃ work, decodeSubmission settings coercions payload topic receivedAt = .ok work ∧
        DecodedWork settings coercions payload topic receivedAt work) ∨
      ∃ error, decodeSubmission settings coercions payload topic receivedAt = .error error ∧
        (error = .overflow ∨ error = .json .recursion ∨
          ∃ digits, error = .json (.longInteger digits))) ∧
    ∀ record error, workFromSpool settings coercions record = .error (.uncaught error) →
      record.workType = .telemetry ∧ (error = .overflow ∨ error = .json .recursion) := by
  constructor
  · intro payload topic receivedAt
    cases hdecode : decodeSubmission settings coercions payload topic receivedAt with
    | ok work => exact .inl ⟨work, rfl, decodeSubmission_decoded hdecode⟩
    | error error =>
      refine .inr ⟨error, rfl, ?_⟩
      unfold decodeSubmission at hdecode
      dsimp only at hdecode
      split at hdecode
      next => cases hdecode
      split at hdecode
      next => cases hdecode
      next text _ =>
        have hfinishes := loads_finishes (F := F) settings.recursionLimit text
        grind [Finishes, JsonError]
  · intro record error hwork
    unfold workFromSpool at hwork
    split at hwork
    next => split at hwork <;> cases hwork
    next htype =>
      refine ⟨htype, ?_⟩
      split at hwork
      next failure hevent =>
        cases hwork
        unfold telemetryFromSpool at hevent
        split at hevent
        next => cases hevent
        next text _ =>
          have hfinishes := loads_finishes (F := F) settings.recursionLimit text
          cases hloads : (loads settings.recursionLimit text : Except JsonError (JsonValue F)) with
          | error scanError => cases scanError <;> grind [Finishes, notDecodable]
          | ok value => grind [notDecodable]
      next => split at hwork <;> cases hwork

end Nexolab
