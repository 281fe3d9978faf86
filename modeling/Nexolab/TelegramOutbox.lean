import Mathlib.Tactic

/-!
# The Telegram outbox

Reports wait in a table of the gateway until they are sent to Telegram.  A sender
claims a delivery by its state alone, sends it outside any transaction and saves
the result.  Deliveries which are in `sending` for too long are taken back for
another attempt.  The drain worker retries; the controlled send makes one
attempt and never retries.
-/

namespace Nexolab

inductive TelegramDeliveryState where
  | pending
  | sending
  | sent
  | retryWait
  | failed
  deriving DecidableEq

structure TelegramDelivery where
  id : ℕ
  (snapshotId snapshotSha256 destinationChatId : String)
  destinationMessageThreadId : ℕ
  (renderedText buttonUrl : String)
  state : TelegramDeliveryState
  attempts : ℕ
  availableAt : ℚ
  (lockedAt lastAttemptAt : Option ℚ)
  lastErrorCode : Option String
  telegramMessageId : Option ℤ
  sentAt : Option ℚ
  duplicateRisk : Bool
  deriving DecidableEq

structure TelegramApiError where
  code : String
  retryable : Bool
  retryAfterSeconds : Option ℚ

structure GatewaySettings where
  telegramMaxAttempts : ℕ
  (telegramRetryInitialSeconds telegramRetryMaxSeconds : ℚ)
  telegramStaleSendingSeconds : ℚ

/-! ## The table -/

abbrev DeliveryOutbox := List TelegramDelivery

inductive OutboxFault where
  | boundToOtherContent
  | notFound
  | notPending
  | notAvailable
  | notSending
  deriving DecidableEq

namespace DeliveryOutbox

variable (outbox : DeliveryOutbox)

def get? (deliveryId : ℕ) : Option TelegramDelivery :=
  outbox.find? fun delivery => delivery.id = deliveryId

def update (deliveryId : ℕ) (change : TelegramDelivery → TelegramDelivery) :
    DeliveryOutbox :=
  outbox.map fun delivery =>
    if delivery.id = deliveryId then change delivery else delivery

def getBySnapshot (snapshotId destinationChatId : String) (threadId : ℕ) :
    Option TelegramDelivery :=
  outbox.find? fun delivery => delivery.snapshotId = snapshotId ∧
    delivery.destinationChatId = destinationChatId ∧
    delivery.destinationMessageThreadId = threadId

def enqueue (snapshotId payloadSha256 destinationChatId : String) (threadId : ℕ)
    (text buttonUrl : String) (now : ℚ) : Except OutboxFault DeliveryOutbox :=
  match outbox.getBySnapshot snapshotId destinationChatId threadId with
  | some existing =>
    if existing.snapshotSha256 ≠ payloadSha256 then .error .boundToOtherContent
    else .ok outbox
  | none => .ok (outbox ++ [{
      id := outbox.length + 1
      snapshotId
      snapshotSha256 := payloadSha256
      destinationChatId
      destinationMessageThreadId := threadId
      renderedText := text
      buttonUrl
      state := .pending
      attempts := 0
      availableAt := now
      lockedAt := none
      lastAttemptAt := none
      lastErrorCode := none
      telegramMessageId := none
      sentAt := none
      duplicateRisk := false }])

def Stale (staleBefore : ℚ) (delivery : TelegramDelivery) : Prop :=
  delivery.state = .sending ∧ ∃ lockedAt ∈ delivery.lockedAt, lockedAt ≤ staleBefore

instance (staleBefore : ℚ) (delivery : TelegramDelivery) :
    Decidable (Stale staleBefore delivery) :=
  inferInstanceAs (Decidable (_ ∧ _))

def recovered (staleBefore now : ℚ) (delivery : TelegramDelivery) :
    TelegramDelivery :=
  if Stale staleBefore delivery then
    { delivery with
      state := .retryWait
      availableAt := now
      lockedAt := none
      lastErrorCode := some "delivery_outcome_unknown_after_restart"
      duplicateRisk := true }
  else delivery

def recoverStaleSending (staleAfter now : ℚ) : DeliveryOutbox :=
  outbox.map (recovered (now - staleAfter) now)

def claimed (now : ℚ) (delivery : TelegramDelivery) : TelegramDelivery :=
  { delivery with
    state := .sending
    attempts := delivery.attempts + 1
    lockedAt := some now
    lastAttemptAt := some now
    lastErrorCode := none }

def Ready (destinationChatId : String) (threadId : ℕ) (now : ℚ)
    (delivery : TelegramDelivery) : Prop :=
  (delivery.state = .pending ∨ delivery.state = .retryWait) ∧ delivery.availableAt ≤ now ∧
    delivery.destinationChatId = destinationChatId ∧
    delivery.destinationMessageThreadId = threadId

instance (destinationChatId : String) (threadId : ℕ) (now : ℚ) (delivery : TelegramDelivery) :
    Decidable (Ready destinationChatId threadId now delivery) :=
  inferInstanceAs (Decidable (_ ∧ _ ∧ _ ∧ _))

def firstReady (destinationChatId : String) (threadId : ℕ) (now : ℚ) :
    Option TelegramDelivery :=
  ((outbox.filter fun delivery =>
    Ready destinationChatId threadId now delivery).insertionSort
      fun first second => first.availableAt < second.availableAt ∨
        (first.availableAt = second.availableAt ∧ first.id ≤ second.id)).head?

def claimNextForDestination (destinationChatId : String) (threadId : ℕ)
    (now : ℚ) : Option (TelegramDelivery × DeliveryOutbox) :=
  (outbox.firstReady destinationChatId threadId now).map fun delivery =>
    (claimed now delivery, outbox.update delivery.id (claimed now))

def claimExact (snapshotId destinationChatId : String) (threadId : ℕ) (now : ℚ) :
    Except OutboxFault (TelegramDelivery × DeliveryOutbox) :=
  match outbox.getBySnapshot snapshotId destinationChatId threadId with
  | none => .error .notFound
  | some delivery =>
    if delivery.state ≠ .pending then .error .notPending
    else if now < delivery.availableAt then .error .notAvailable
    else .ok (claimed now delivery, outbox.update delivery.id (claimed now))

def transitionFromSending (deliveryId : ℕ) (state : TelegramDeliveryState)
    (availableAt : ℚ) (errorCode : Option String) (telegramMessageId : Option ℤ)
    (sentAt : Option ℚ) (duplicateRisk : Bool) :
    Except OutboxFault DeliveryOutbox :=
  match outbox.get? deliveryId with
  | none => .error .notFound
  | some delivery =>
    if delivery.state ≠ .sending then .error .notSending
    else .ok (outbox.update deliveryId fun delivery => { delivery with
      state
      availableAt
      lockedAt := none
      lastErrorCode := errorCode
      telegramMessageId
      sentAt
      duplicateRisk := delivery.duplicateRisk || duplicateRisk })

def markSent (deliveryId : ℕ) (telegramMessageId : ℤ) (now : ℚ) :
    Except OutboxFault DeliveryOutbox :=
  outbox.transitionFromSending deliveryId .sent now none (some telegramMessageId) (some now) false

def markRetry (deliveryId : ℕ) (delay : ℚ) (errorCode : String) (now : ℚ) :
    Except OutboxFault DeliveryOutbox :=
  outbox.transitionFromSending deliveryId .retryWait (now + delay) (some errorCode) none none false

def markFailed (deliveryId : ℕ) (errorCode : String) (duplicateRisk : Bool)
    (now : ℚ) : Except OutboxFault DeliveryOutbox :=
  outbox.transitionFromSending deliveryId .failed now (some errorCode) none none duplicateRisk

end DeliveryOutbox

/-- The response of the transport, as far as `send_message` looks at it. -/
inductive TelegramResponse where
  | networkError
  | rateLimited (retryAfter : Option ℚ)
  | serverError
  | httpStatus (status : ℕ)
  | malformed
  | rejected (errorCode : Option ℤ) (retryAfter : Option ℚ)
  | withoutMessageId
  | message (messageId : ℤ)
  deriving DecidableEq

def TelegramResponse.outcome : TelegramResponse → Except TelegramApiError ℤ
  | .networkError => .error ⟨"telegram_network_error", true, none⟩
  | .rateLimited retryAfter =>
    .error ⟨"telegram_rate_limited", true, retryAfter⟩
  | .serverError => .error ⟨"telegram_server_error", true, none⟩
  | .httpStatus status =>
    .error ⟨"telegram_http_" ++ toString status, false, none⟩
  | .malformed => .error ⟨"telegram_contract_error", true, none⟩
  | .rejected errorCode retryAfter =>
    if errorCode = some 429 then
      .error ⟨"telegram_rate_limited", true, retryAfter⟩
    else .error ⟨"telegram_api_rejected",
      decide (∃ code ∈ errorCode, 500 ≤ code), none⟩
  | .withoutMessageId => .error ⟨"telegram_contract_error", true, none⟩
  | .message messageId => .ok messageId

/-- Telegram may have accepted the message.  It has not when it says that it
refuses the request or that there are too many of them. -/
def TelegramResponse.mayHaveAccepted : TelegramResponse → Bool
  | .rateLimited _ => false
  | .httpStatus _ => false
  | .rejected errorCode _ => decide (∃ code ∈ errorCode, 500 ≤ code)
  | _ => true

inductive SenderKind where
  | drain
  | controlled

inductive SenderPhase where
  | idle
  | claimed (kind : SenderKind) (delivery : TelegramDelivery)
  | answered (kind : SenderKind) (delivery : TelegramDelivery) (response : TelegramResponse)

/-- One attempt to send a delivery, without a response when the sender was lost
before it saw one. -/
structure SendAttempt where
  deliveryId : ℕ
  response : Option TelegramResponse
  deriving DecidableEq

def SendAttempt.mayHaveAccepted (attempt : SendAttempt) : Bool :=
  match attempt.response with
  | none => true
  | some response => response.mayHaveAccepted

/-- The database, the senders, and every attempt in the order it was made. -/
structure TelegramGateway where
  outbox : DeliveryOutbox
  phases : ℕ → SenderPhase
  attempts : List SendAttempt

inductive GatewayAction where
  | enqueue (snapshotId payloadSha256 destinationChatId : String) (threadId : ℕ)
      (text buttonUrl : String) (now : ℚ)
  | recover (now : ℚ)
  | drainClaim (sender : ℕ) (destinationChatId : String) (threadId : ℕ) (now : ℚ)
  | controlledClaim (sender : ℕ) (snapshotId destinationChatId : String) (threadId : ℕ) (now : ℚ)
  | send (sender : ℕ) (response : TelegramResponse)
  | settle (sender : ℕ) (now : ℚ)
  | crash (sender : ℕ) (sending : Bool)

namespace TelegramGateway

def initial : TelegramGateway := ⟨[], fun _ => .idle, []⟩

variable (settings : GatewaySettings)

def retryDelay (attempts : ℕ) (retryAfter : Option ℚ) : ℚ :=
  let delay := min (settings.telegramRetryInitialSeconds * 2 ^ (attempts - 1))
    settings.telegramRetryMaxSeconds
  let delay := match retryAfter with
    | none => delay
    | some retryAfter => max delay retryAfter
  min delay settings.telegramRetryMaxSeconds

def Retries (delivery : TelegramDelivery) (error : TelegramApiError) : Prop :=
  error.retryable = true ∧ delivery.attempts < settings.telegramMaxAttempts

instance (delivery : TelegramDelivery) (error : TelegramApiError) :
    Decidable (Retries settings delivery error) :=
  inferInstanceAs (Decidable (_ ∧ _))

def saveOutcome (outbox : DeliveryOutbox) (kind : SenderKind)
    (delivery : TelegramDelivery) (response : TelegramResponse) (now : ℚ) :
    Except OutboxFault DeliveryOutbox :=
  match response.outcome, kind with
  | .ok messageId, _ => outbox.markSent delivery.id messageId now
  | .error error, .drain =>
    if Retries settings delivery error then
      outbox.markRetry delivery.id (retryDelay settings delivery.attempts error.retryAfterSeconds)
        error.code now
    else outbox.markFailed delivery.id error.code false now
  | .error error, .controlled =>
    outbox.markFailed delivery.id error.code error.retryable now

def setPhase (gateway : TelegramGateway) (sender : ℕ) (phase : SenderPhase) :
    TelegramGateway :=
  { gateway with phases := Function.update gateway.phases sender phase }

def step : TelegramGateway → GatewayAction → Option TelegramGateway
  | gateway, .enqueue snapshotId payloadSha256 destinationChatId threadId text buttonUrl now =>
      match gateway.outbox.enqueue snapshotId payloadSha256 destinationChatId
          threadId text buttonUrl now with
      | .error _ => none
      | .ok outbox => some { gateway with outbox }
  | gateway, .recover now => some { gateway with
      outbox := gateway.outbox.recoverStaleSending
        settings.telegramStaleSendingSeconds now }
  | gateway, .drainClaim sender destinationChatId threadId now =>
    match gateway.phases sender with
    | .idle =>
      (gateway.outbox.claimNextForDestination destinationChatId threadId now).map fun claim =>
          { gateway with outbox := claim.2 }.setPhase sender (.claimed .drain claim.1)
    | _ => none
  | gateway, .controlledClaim sender snapshotId destinationChatId threadId now =>
    match gateway.phases sender, gateway.outbox.claimExact snapshotId
        destinationChatId threadId now with
    | .idle, .ok (delivery, outbox) =>
      some ({ gateway with outbox }.setPhase sender (.claimed .controlled delivery))
    | _, _ => none
  | gateway, .send sender response =>
    match gateway.phases sender with
    | .claimed kind delivery =>
      some ({ gateway with
        attempts := gateway.attempts ++ [({ deliveryId := delivery.id, response := some response }
            : SendAttempt)] }.setPhase sender
          (.answered kind delivery response))
    | _ => none
  | gateway, .settle sender now =>
    match gateway.phases sender with
    | .answered kind delivery response =>
      match saveOutcome settings gateway.outbox kind delivery response now with
      | .error _ => some (gateway.setPhase sender .idle)
      | .ok outbox =>
        some ({ gateway with outbox }.setPhase sender .idle)
    | _ => none
  | gateway, .crash sender sending =>
    match gateway.phases sender, sending with
    | .claimed _ delivery, true =>
      some ({ gateway with
        attempts := gateway.attempts ++ [({ deliveryId := delivery.id, response := none }
            : SendAttempt)] }.setPhase sender .idle)
    | _, _ => some (gateway.setPhase sender .idle)

end TelegramGateway

end Nexolab
