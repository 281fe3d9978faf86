import Nexolab.ReportDelivery

/-!
# The controlled send

An operator sends one approved snapshot while the worker is disabled.  An invocation
reads the snapshot and the outbox, opens the outbox, which may have to be migrated from
the table without threads, and claims the delivery by its state.  It makes one attempt.
-/

namespace Nexolab

variable {F : Type}

/-- The identifiers and the digests of the standard library. -/
structure SendLibrary (F : Type) extends ReportLibrary F where
  /-- `str(UUID(text.strip()))` -/
  uuidText : CodePoints → Option String
  /-- The SHA-256 of the canonical JSON. -/
  payloadDigest : JsonFields F → Option String

structure SendRequest where
  settings : ReportSettings
  telegramEnabled : Bool
  (snapshotId expectedPayloadSha256 : String)
  dryRun : Bool
  approval : Option String

def approvalPhrase : String := "SEND_EXACT_SNAPSHOT_ONCE"

def lowerHex (text : String) : String := String.ofList (text.toList.map Char.toLower)

def approvedDigest (value : String) : Except String String :=
  let normalized := lowerHex (stripText value)
  if normalized.length ≠ 64 ∨
      ¬ normalized.toList.all fun char => char ∈ "0123456789abcdef".toList then
    .error "expected_payload_sha256_invalid"
  else .ok normalized

variable [PythonFloat F]

/-- A snapshot with the approved content and its message. -/
structure VerifiedSend (library : SendLibrary F) where
  request : SendRequest
  (snapshotId digest : String)
  snapshot : ReportSnapshot F
  rendered : RenderedMessage
  is_approved : approvedDigest request.expectedPayloadSha256 = .ok digest
  payload_approved : library.payloadDigest snapshot.payload = some digest
  is_rendered : renderSnapshot request.settings library.toReportLibrary snapshot = .ok rendered

section Checks

variable (library : SendLibrary F)

def organizationText (value : CodePoints) : Except String String :=
  match library.uuidText value with
  | some organization => .ok organization
  | none => .error "organization_id_invalid"

/-- The payload has the approved digest, and the message is rendered from it. -/
def verifyPayload (request : SendRequest) (snapshotId digest : String)
    (happroved : approvedDigest request.expectedPayloadSha256 = .ok digest)
    (snapshot : ReportSnapshot F) : Except String (VerifiedSend library) :=
  match hdigest : library.payloadDigest snapshot.payload with
  | none => .error "snapshot_payload_not_canonical_json"
  | some payloadDigest =>
    if hsame : payloadDigest = digest then
      match hrender : renderSnapshot request.settings library.toReportLibrary
          snapshot with
      | .error _ => .error "controlled_send_internal_error"
      | .ok rendered => .ok
          { request, snapshotId, digest, snapshot, rendered
            is_approved := happroved
            payload_approved := hsame ▸ hdigest
            is_rendered := hrender }
    else .error "snapshot_payload_integrity_mismatch"

def verifySnapshot (request : SendRequest) (snapshotId digest : String)
    (happroved : approvedDigest request.expectedPayloadSha256 = .ok digest)
    (snapshot : ReportSnapshot F) : Except String (VerifiedSend library) := do
  if snapshot.id ≠ codePoints snapshotId then
    throw "snapshot_identity_mismatch"
  let actual ← organizationText library snapshot.organizationId
  let expected ← organizationText library request.settings.nexolabBackendOrganizationId
  if actual ≠ expected then
    throw "snapshot_organization_mismatch"
  if lowerHex snapshot.payloadSha256 ≠ digest then
    throw "snapshot_payload_sha256_mismatch"
  verifyPayload library request snapshotId digest happroved snapshot

def verifySend (request : SendRequest) (snapshot : ReportSnapshot F) :
    Except String (VerifiedSend library) := do
  if request.telegramEnabled then
    throw "persistent_delivery_must_remain_disabled"
  if request.dryRun ∧ request.approval.isSome then
    throw "dry_run_cannot_include_send_approval"
  if ¬ request.dryRun ∧ request.approval ≠ some approvalPhrase then
    throw "single_send_approval_required"
  match library.uuidText (codePoints request.snapshotId) with
  | none => throw "snapshot_id_invalid"
  | some snapshotId =>
    match happroved : approvedDigest request.expectedPayloadSha256 with
    | .error error => throw error
    | .ok digest => verifySnapshot library request snapshotId digest happroved snapshot

namespace VerifiedSend

variable {library} (send : VerifiedSend library)

def destination : String := stripText send.request.settings.telegramDestinationChatId

def threadId : ℕ := send.request.settings.telegramDestinationMessageThreadId

def key : String × String × ℕ := (send.snapshotId, send.destination, send.threadId)

def checkSendable (record : TelegramDelivery) : Except String Unit :=
  if record.duplicateRisk then
    .error "delivery_duplicate_risk_requires_manual_resolution"
  else if record.state ≠ .pending then .error "delivery_state_not_sendable"
  else if codePoints record.renderedText ≠ send.rendered.text ∨
      codePoints record.buttonUrl ≠ send.rendered.buttonUrl then
    .error "delivery_render_identity_mismatch"
  else .ok ()

/-- `_verify_delivery_identity`, and whether the delivery is still to be sent. -/
def checkRecord (record : TelegramDelivery) : Except String Bool := do
  if lowerHex record.snapshotSha256 ≠ send.digest then
    .error "delivery_payload_identity_mismatch"
  else if record.state = .sent then .ok false
  else do
    send.checkSendable record
    .ok true

end VerifiedSend

end Checks

/-- The table, which has no column of the thread before the migration; a delivery
without a thread is one of thread zero. -/
structure OutboxFile where
  rows : DeliveryOutbox
  legacy : Bool

def TelegramDelivery.key (delivery : TelegramDelivery) : String × String × ℕ :=
  (delivery.snapshotId, delivery.destinationChatId, delivery.destinationMessageThreadId)

/-- `_migrate_legacy_destination_identity`: the rows are copied without their threads,
under the unique key of the new table. -/
def OutboxFile.migrate (file : OutboxFile) : Option OutboxFile :=
  let rows := file.rows.map fun row => { row with destinationMessageThreadId := 0 }
  if (rows.map TelegramDelivery.key).Nodup then some ⟨rows, false⟩ else none

/-! ## Invocations -/

inductive SendPhase (library : SendLibrary F) where
  | idle
  | verified (send : VerifiedSend library)
  | inspected (send : VerifiedSend library)
  /-- The columns have been read. -/
  | opening (send : VerifiedSend library) (legacy : Bool)
  | opened (send : VerifiedSend library)
  | absent (send : VerifiedSend library)
  | ready (send : VerifiedSend library)
  | claimed (send : VerifiedSend library) (delivery : TelegramDelivery)
  | answered (send : VerifiedSend library) (delivery : TelegramDelivery)
      (response : TelegramResponse)

structure SentMessage (library : SendLibrary F) where
  send : VerifiedSend library
  delivery : TelegramDelivery

structure ControlledSystem (library : SendLibrary F) where
  file : OutboxFile
  phases : ℕ → SendPhase library
  sent : List (SentMessage library)

inductive SendAction (F : Type) where
  | begin (sender : ℕ) (request : SendRequest) (snapshot : ReportSnapshot F)
  | inspect (sender : ℕ)
  | openOutbox (sender : ℕ)
  | initializeOutbox (sender : ℕ)
  | look (sender : ℕ)
  | enqueue (sender : ℕ) (now : ℚ)
  | claim (sender : ℕ) (now : ℚ)
  | send (sender : ℕ) (response : TelegramResponse)
  | settle (sender : ℕ) (now : ℚ)
  /-- The process is lost, perhaps after the request went out. -/
  | crash (sender : ℕ) (sending : Bool)

def SendAction.sender : SendAction F → ℕ
  | .begin sender _ _ => sender
  | .inspect sender => sender
  | .openOutbox sender => sender
  | .initializeOutbox sender => sender
  | .look sender => sender
  | .enqueue sender _ => sender
  | .claim sender _ => sender
  | .send sender _ => sender
  | .settle sender _ => sender
  | .crash sender _ => sender

namespace ControlledSystem

variable {library : SendLibrary F} (system : ControlledSystem library)

def setPhase (sender : ℕ) (phase : SendPhase library) : ControlledSystem library :=
  { system with phases := Function.update system.phases sender phase }

def recordOf (send : VerifiedSend library) (destination : String) :
    Option TelegramDelivery :=
  system.file.rows.getBySnapshot send.snapshotId destination send.threadId

def inspect (sender : ℕ) (send : VerifiedSend library) : ControlledSystem library :=
  let proceed := if send.request.dryRun then SendPhase.idle else .inspected send
  match system.recordOf send send.destination with
  | none => system.setPhase sender proceed
  | some record =>
    match send.checkRecord record with
    | .ok true => system.setPhase sender proceed
    | _ => system.setPhase sender .idle

def initializeOutbox (sender : ℕ) (send : VerifiedSend library) (legacy : Bool) :
    ControlledSystem library :=
  if legacy then
    match system.file.migrate with
    | none => system.setPhase sender .idle
    | some file => { system with file }.setPhase sender (.opened send)
  else system.setPhase sender (.opened send)

/-- `get_by_snapshot`, which takes the chat as it is configured. -/
def look (sender : ℕ) (send : VerifiedSend library) : ControlledSystem library :=
  match system.recordOf send send.request.settings.telegramDestinationChatId with
  | none => system.setPhase sender (.absent send)
  | some record =>
    match send.checkRecord record with
    | .ok true => system.setPhase sender (.ready send)
    | _ => system.setPhase sender .idle

def enqueue (sender : ℕ) (send : VerifiedSend library) (now : ℚ) :
    ControlledSystem library :=
  match encodedText send.rendered.text, encodedText send.rendered.buttonUrl with
  | .ok text, .ok buttonUrl =>
    match system.file.rows.enqueue send.snapshotId send.snapshot.payloadSha256
        send.destination send.threadId text buttonUrl now with
    | .error _ => system.setPhase sender .idle
    | .ok rows =>
      match rows.getBySnapshot send.snapshotId send.destination send.threadId with
      | none => system.setPhase sender .idle
      | some record =>
        if record.state = .sent then
          { system with file := { system.file with rows } }.setPhase sender .idle
        else
          match send.checkSendable record with
          | .error _ => { system with
              file := { system.file with rows } }.setPhase sender .idle
          | .ok _ => { system with
              file := { system.file with rows } }.setPhase sender (.ready send)
  | _, _ => system.setPhase sender .idle

def claim (sender : ℕ) (send : VerifiedSend library) (now : ℚ) :
    ControlledSystem library :=
  match system.file.rows.claimExact send.snapshotId send.destination send.threadId
      now with
  | .error _ => system.setPhase sender .idle
  | .ok (delivery, rows) => { system with
      file := { system.file with rows } }.setPhase sender (.claimed send delivery)

def attempt (send : VerifiedSend library) (delivery : TelegramDelivery) :
    ControlledSystem library :=
  { system with sent := system.sent ++ [⟨send, delivery⟩] }

def settle (sender : ℕ) (delivery : TelegramDelivery) (response : TelegramResponse)
    (now : ℚ) : ControlledSystem library :=
  let saved := match response.outcome with
    | .ok messageId => system.file.rows.markSent delivery.id messageId now
    | .error error => system.file.rows.markFailed delivery.id error.code error.retryable now
  match saved with
  | .error _ => system.setPhase sender .idle
  | .ok rows => { system with file := { system.file with rows } }.setPhase sender .idle

def step (system : ControlledSystem library) (action : SendAction F) :
    Option (ControlledSystem library) :=
  match action, system.phases action.sender with
  | .begin sender request snapshot, .idle =>
    match verifySend library request snapshot with
    | .error _ => some system
    | .ok send => some (system.setPhase sender (.verified send))
  | .inspect sender, .verified send => some (system.inspect sender send)
  | .openOutbox sender, .inspected send =>
    some (system.setPhase sender (.opening send system.file.legacy))
  | .initializeOutbox sender, .opening send legacy =>
    some (system.initializeOutbox sender send legacy)
  | .look sender, .opened send => some (system.look sender send)
  | .enqueue sender now, .absent send => some (system.enqueue sender send now)
  | .claim sender now, .ready send => some (system.claim sender send now)
  | .send sender response, .claimed send delivery =>
    some ((system.attempt send delivery).setPhase sender (.answered send delivery response))
  | .settle sender now, .answered _ delivery response =>
    some (system.settle sender delivery response now)
  | .crash sender true, .claimed send delivery =>
    some ((system.attempt send delivery).setPhase sender .idle)
  | .crash sender _, _ => some (system.setPhase sender .idle)
  | _, _ => none

end ControlledSystem

end Nexolab
