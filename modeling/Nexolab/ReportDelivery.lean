import Nexolab.ReportRendering
import Nexolab.TransitionSystem

/-!
# The delivery worker

Each cycle takes back what is stuck in `sending`, lists the snapshots of the backend,
enqueues those which are due, and drains the outbox.  The discovery defers what the
backend and the renderer raise; the drain knows the errors of the Telegram client.
Whatever else is raised ends the thread.
-/

namespace Nexolab

variable {F : Type}

structure ReportSettings extends GatewaySettings where
  nexolabBackendOrganizationId : CodePoints
  (telegramSnapshotPageSize telegramSnapshotMaxPages : ℕ)
  telegramMaxDeliveriesPerRun : ℕ
  /-- In microseconds. -/
  telegramMaxSnapshotAge : ℤ
  telegramMessageMaxChars : ℕ
  telegramDestinationChatId : String
  /-- Zero when the destination has no thread. -/
  telegramDestinationMessageThreadId : ℕ
  telegramMiniAppUrlTemplate : UrlTemplate
  telegramDeliveryActivationCutoffUtc : Option Instant
  telegramDeliveryBootstrapSnapshotIds : List CodePoints

inductive TransportEvent where
  | response (response : TelegramResponse)
  | urlError
  /-- While connecting or while reading an answer. -/
  | osError
  | httpException
  | oversizedBody
  /-- While reading the body of an answer with an error status. -/
  | errorBodyOsError
  | errorBodyHttpException
  /-- A `retry_after` which is too large for a float. -/
  | retryAfterOverflow

def TransportEvent.received : TransportEvent → Except GatewayException TelegramResponse
  | .response answer => .ok answer
  | .urlError => .ok .networkError
  | .osError => .ok .networkError
  | .httpException => .error .httpException
  | .oversizedBody => .ok .networkError
  | .errorBodyOsError => .error .osError
  | .errorBodyHttpException => .error .httpException
  | .retryAfterOverflow => .error .overflowError

/-- What a call of the outbox meets besides the rows. -/
inductive OutboxEvent where
  | served
  | busy
  /-- Another program has changed the claimed row. -/
  | changed
  deriving DecidableEq

section Discovery

variable (settings : ReportSettings)

/-- The pages until the last or an old one; a page past the limit raises. -/
def gatherPages (page : ℕ → Except String (List (ReportSnapshot F))) (cutoff : Instant) :
    ℕ → ℕ → Except GatewayException (List (ReportSnapshot F))
  | 0, _ => .error (.backendError "backend_snapshot_page_limit_exceeded")
  | remaining + 1, number =>
    match page number with
    | .error code => .error (.backendError code)
    | .ok items =>
      if items.length < settings.telegramSnapshotPageSize then .ok items
      else if items.any fun item => item.scheduledFor < cutoff then .ok items
      else (gatherPages page cutoff remaining (number + 1)).map (items ++ ·)

def inScheduleOrder (snapshots : List (ReportSnapshot F)) : List (ReportSnapshot F) :=
  snapshots.insertionSort fun first second =>
    first.scheduledFor < second.scheduledFor ∨
      (first.scheduledFor = second.scheduledFor ∧ first.id ≤ second.id)

def cutoffAt (now : Instant) : Instant := now - settings.telegramMaxSnapshotAge

def ReportDue (now : Instant) (snapshot : ReportSnapshot F) : Prop :=
  snapshot.scheduledFor ≤ now ∧ cutoffAt settings now ≤ snapshot.scheduledFor ∧
    ∀ activation ∈ settings.telegramDeliveryActivationCutoffUtc,
      snapshot.scheduledFor ≤ activation →
        snapshot.id ∈ settings.telegramDeliveryBootstrapSnapshotIds

instance (now : Instant) (snapshot : ReportSnapshot F) :
    Decidable (ReportDue settings now snapshot) :=
  inferInstanceAs (Decidable (_ ∧ _ ∧ _))

def requiredDestination (value : String) (maximum : ℕ) : Except GatewayException String :=
  if stripText value = "" ∨ maximum < (stripText value).length then .error .valueError
  else .ok (stripText value)

def secondsOf (time : Instant) : ℚ := (time : ℚ) / 1000000

def enqueueReport (event : OutboxEvent) (outbox : DeliveryOutbox)
    (snapshot : ReportSnapshot F) (rendered : RenderedMessage) (now : Instant) :
    Except GatewayException DeliveryOutbox := do
  let destination ← requiredDestination settings.telegramDestinationChatId 64
  if event = .busy then .error .sqliteError
  else do
    let snapshotId ← encodedText snapshot.id
    match outbox.getBySnapshot snapshotId destination
        settings.telegramDestinationMessageThreadId with
    | some existing =>
      if existing.snapshotSha256 ≠ snapshot.payloadSha256 then
        .error (.outboxError .boundToOtherContent)
      else .ok outbox
    | none => do
      let text ← encodedText rendered.text
      let buttonUrl ← encodedText rendered.buttonUrl
      match outbox.enqueue snapshotId snapshot.payloadSha256 destination
          settings.telegramDestinationMessageThreadId text buttonUrl
          (secondsOf now) with
      | .ok outbox => .ok outbox
      | .error fault => .error (.outboxError fault)

variable [PythonFloat F] (library : ReportLibrary F)

def renderSnapshot (snapshot : ReportSnapshot F) : Except GatewayException RenderedMessage :=
  renderReport library snapshot settings.telegramMiniAppUrlTemplate
    settings.telegramMessageMaxChars

def discoverReport (event : OutboxEvent) (outbox : DeliveryOutbox) (now : Instant)
    (snapshot : ReportSnapshot F) : Except GatewayException DeliveryOutbox :=
  if snapshot.organizationId ≠ settings.nexolabBackendOrganizationId then
    .error (.backendError "backend_organization_mismatch")
  else if ¬ ReportDue settings now snapshot then .ok outbox
  else do
    let rendered ← renderSnapshot settings library snapshot
    enqueueReport settings event outbox snapshot rendered now

end Discovery

def GatewayException.deferred : GatewayException → Bool
  | .backendError _ => true
  | .valueError => true
  | _ => false

/-! ## The worker -/

inductive ReportPhase (F : Type) where
  /-- Before the first cycle. -/
  | idle
  /-- After a cycle. -/
  | waiting
  | listing
  | discovering (queue : List (ReportSnapshot F))
  | draining (left : ℕ)
  | claimed (left : ℕ) (delivery : TelegramDelivery)
  | answered (left : ℕ) (delivery : TelegramDelivery) (response : TelegramResponse)
  | stopped
  | died (exception : GatewayException)

/-- The worker with the time of its cycle, and what the cycle has listed and
attempted. -/
structure ReportWorker (F : Type) where
  outbox : DeliveryOutbox
  stopRequested : Bool
  phase : ReportPhase F
  now : Instant
  discovered : List (ReportSnapshot F)
  attempted : List ℕ

inductive ReportAction (F : Type) where
  | stop
  | cycle (now : Instant) (event : OutboxEvent)
  | list (page : ℕ → Except String (List (ReportSnapshot F)))
  | report (event : OutboxEvent)
  | claim (event : OutboxEvent)
  | send (event : TransportEvent)
  | save (event : OutboxEvent)

namespace ReportWorker

def initial (outbox : DeliveryOutbox) : ReportWorker F :=
  ⟨outbox, false, .idle, 0, [], []⟩

def die (worker : ReportWorker F) (exception : GatewayException) : ReportWorker F :=
  { worker with phase := .died exception }

variable (settings : ReportSettings)

def beginCycle (worker : ReportWorker F) (now : Instant) (event : OutboxEvent) :
    ReportWorker F :=
  if worker.stopRequested then { worker with phase := .stopped }
  else if event = .busy then worker.die .sqliteError
  else { worker with
    outbox := worker.outbox.recoverStaleSending settings.telegramStaleSendingSeconds (secondsOf now)
    phase := .listing, now, discovered := [], attempted := [] }

def beginDrain (worker : ReportWorker F) : ReportWorker F :=
  { worker with phase := .draining settings.telegramMaxDeliveriesPerRun }

/-- The snapshots of the backend; what the backend raises is deferred. -/
def listSnapshots (worker : ReportWorker F)
    (page : ℕ → Except String (List (ReportSnapshot F))) : ReportWorker F :=
  match gatherPages settings page (cutoffAt settings worker.now)
      settings.telegramSnapshotMaxPages 0 with
  | .error _ => worker.beginDrain settings
  | .ok snapshots => { worker with
      phase := .discovering (inScheduleOrder snapshots)
      discovered := inScheduleOrder snapshots }

def claimNext (worker : ReportWorker F) (left : ℕ) (event : OutboxEvent) :
    ReportWorker F :=
  match requiredDestination settings.telegramDestinationChatId 64 with
  | .error exception => worker.die exception
  | .ok destination =>
    if event = .busy then worker.die .sqliteError
    else
      match worker.outbox.claimNextForDestination destination
          settings.telegramDestinationMessageThreadId (secondsOf worker.now) with
      | none => { worker with phase := .waiting }
      | some (delivery, outbox) =>
        { worker with outbox, phase := .claimed left delivery }

def sendNext (worker : ReportWorker F) (left : ℕ) (delivery : TelegramDelivery)
    (event : TransportEvent) : ReportWorker F :=
  match event.received with
  | .error exception => worker.die exception
  | .ok response => { worker with
      phase := .answered left delivery response
      attempted := worker.attempted ++ [delivery.id] }

def saveNext (worker : ReportWorker F) (left : ℕ) (delivery : TelegramDelivery)
    (response : TelegramResponse) (event : OutboxEvent) : ReportWorker F :=
  match event with
  | .busy => worker.die .sqliteError
  | .changed => worker.die (.outboxError .notSending)
  | .served =>
    match TelegramGateway.saveOutcome settings.toGatewaySettings worker.outbox .drain
        delivery response (secondsOf worker.now) with
    | .ok outbox => { worker with outbox, phase := .draining left }
    | .error fault => worker.die (.outboxError fault)

variable [PythonFloat F] (library : ReportLibrary F)

def discoverNext (worker : ReportWorker F) (snapshot : ReportSnapshot F)
    (queue : List (ReportSnapshot F)) (event : OutboxEvent) : ReportWorker F :=
  match discoverReport settings library event worker.outbox worker.now snapshot with
  | .ok outbox => { worker with outbox, phase := .discovering queue }
  | .error exception =>
    if exception.deferred then worker.beginDrain settings else worker.die exception

def step (worker : ReportWorker F) (action : ReportAction F) :
    Option (ReportWorker F) :=
  match worker.phase, action with
  | .died _, _ => none
  | .stopped, _ => none
  | _, .stop => some { worker with stopRequested := true }
  | .idle, .cycle now event => some (worker.beginCycle settings now event)
  | .waiting, .cycle now event => some (worker.beginCycle settings now event)
  | .listing, .list page => some (worker.listSnapshots settings page)
  | .discovering [], .report _ => some (worker.beginDrain settings)
  | .discovering (snapshot :: queue), .report event =>
    some (worker.discoverNext settings library snapshot queue event)
  | .draining 0, .claim _ => some { worker with phase := .waiting }
  | .draining (left + 1), .claim event => some (worker.claimNext settings left event)
  | .claimed left delivery, .send event => some (worker.sendNext left delivery event)
  | .answered left delivery response, .save event =>
    some (worker.saveNext settings left delivery response event)
  | _, _ => none

end ReportWorker

def gatewaySettings : ReportSettings where
  telegramMaxAttempts := 6
  telegramRetryInitialSeconds := 5
  telegramRetryMaxSeconds := 300
  telegramStaleSendingSeconds := 60
  nexolabBackendOrganizationId := codePoints "org"
  telegramSnapshotPageSize := 100
  telegramSnapshotMaxPages := 20
  telegramMaxDeliveriesPerRun := 100
  telegramMaxSnapshotAge := 36 * 3600 * microsPerSecond
  telegramMessageMaxChars := 3900
  telegramDestinationChatId := "-1"
  telegramDestinationMessageThreadId := 0
  telegramMiniAppUrlTemplate := ⟨codePoints "https://t.me/n/r?startapp=report_", []⟩
  telegramDeliveryActivationCutoffUtc := none
  telegramDeliveryBootstrapSnapshotIds := []

def plainLibrary : ReportLibrary FloatValue where
  zoneInfo name :=
    if name = codePoints "Europe/Kyiv" then
      .found ⟨7200000000, [], .nil, fun wall => by simp [wallOffsetAmong, dayLength]⟩
    else if name.head? = some 47 then .valueError
    else .notFound
  fromIsoFormat _ := none
  strftime wall := intText wall
  fixed _ _ := codePoints "0.0"
  signedFixed _ _ := codePoints "+0.0"
  general _ := codePoints "0"
  sixtieth value := value
  closeWhole _ := none

def zonedSnapshot (id zone : String) : ReportSnapshot FloatValue where
  id := codePoints id
  organizationId := codePoints "org"
  scheduledFor := 0
  payloadSha256 := id
  payload := [(codePoints "report",
    .object [(codePoints "timezone", .string (codePoints zone))])]

end Nexolab
