import Nexolab.TransitionSystem

/-!
# Shared physical requests

`TelemetryRequestCoordinator` lets the consumers of one key share a physical
request.  A consumer leaves when its signal aborts, and the physical request is
aborted with its last consumer; the entry stays registered until the callbacks
of the settled promise have run.  Requests and consumers are numbered in order
of creation, and every synchronous stretch of the code is one step: a call, an
abort, the start of the factory, its completion and each callback of its
promise.
-/

namespace Nexolab

/-- How the promise of a factory settles.  `aborted` is the rejection of a
factory whose signal was aborted. -/
inductive PhysicalOutcome (V E : Type) where
  | value (value : V)
  | failure (error : E)
  | aborted

inductive RequestPhase (V E : Type) where
  | scheduled
  | started
  | settled (outcome : PhysicalOutcome V E)

/-- How a consumer is settled: by the physical request, or with the error of
`abortedError`. -/
inductive ConsumerSettlement (V E : Type) where
  | physical (outcome : PhysicalOutcome V E)
  | abortedError

def ConsumerSettlement.isAbort {V E : Type} : ConsumerSettlement V E → Bool
  | .physical .aborted => true
  | .abortedError => true
  | _ => false

/-- A consumer, with what was done to it: whether its signal aborted,
whether `abortAll` was called while it waited, and every settlement of its
promise. -/
structure RequestConsumer (V E : Type) where
  request : Option ℕ
  (signalAborted disposed : Bool)
  settlements : List (ConsumerSettlement V E)

/-- An `InFlightRequest`: `aborted` is the state of its controller, and
`consumers` the tokens of its map in insertion order. -/
structure InFlightRequest (K V E : Type) where
  key : K
  phase : RequestPhase V E
  aborted : Bool
  consumers : List ℕ

structure RequestCoordinator (K V E : Type) where
  requests : ℕ → Option (InFlightRequest K V E)
  nextRequest : ℕ
  entries : List (K × ℕ)
  consumers : ℕ → Option (RequestConsumer V E)
  (nextConsumer consumerCount : ℕ)

inductive CoordinatorAction (K V E : Type) where
  | request (key : K) (signalAborted : Bool)
  | start (request : ℕ)
  | settle (request : ℕ) (outcome : PhysicalOutcome V E)
  | removeSettled (request : ℕ)
  | deliver (request : ℕ) (token : ℕ)
  | abortSignal (token : ℕ)
  | abortAll

namespace RequestCoordinator

variable {K V E : Type} [DecidableEq K]

def initial : RequestCoordinator K V E :=
  ⟨fun _ => none, 0, [], fun _ => none, 0, 0⟩

def entry? (coordinator : RequestCoordinator K V E) (key : K) : Option ℕ :=
  coordinator.entries.lookup key

def setRequest (coordinator : RequestCoordinator K V E) (id : ℕ)
    (request : InFlightRequest K V E) : RequestCoordinator K V E :=
  { coordinator with
    requests := Function.update coordinator.requests id (some request) }

def setConsumer (coordinator : RequestCoordinator K V E) (token : ℕ)
    (consumer : RequestConsumer V E) : RequestCoordinator K V E :=
  { coordinator with
    consumers := Function.update coordinator.consumers token (some consumer) }

/-- The call of `request` with a signal which is already aborted. -/
def rejectAborted (coordinator : RequestCoordinator K V E) :
    RequestCoordinator K V E :=
  { coordinator.setConsumer coordinator.nextConsumer
      ⟨none, true, false, [.abortedError]⟩ with
    nextConsumer := coordinator.nextConsumer + 1 }

def openEntry (coordinator : RequestCoordinator K V E) (key : K) :
    RequestCoordinator K V E × ℕ :=
  match coordinator.entry? key with
  | some id => (coordinator, id)
  | none =>
    let id := coordinator.nextRequest
    ({ coordinator.setRequest id ⟨key, .scheduled, false, []⟩ with
        nextRequest := id + 1
        entries := coordinator.entries ++ [(key, id)] }, id)

def joined (coordinator : RequestCoordinator K V E) (id : ℕ)
    (request : InFlightRequest K V E) : RequestCoordinator K V E :=
  let token := coordinator.nextConsumer
  let registered := coordinator.setRequest id
    { request with consumers := request.consumers ++ [token] }
  { registered.setConsumer token ⟨some id, false, false, []⟩ with
    nextConsumer := token + 1
    consumerCount := coordinator.consumerCount + 1 }

def join (coordinator : RequestCoordinator K V E) (id : ℕ) :
    Option (RequestCoordinator K V E) := do
  let request ← coordinator.requests id
  return coordinator.joined id request

def release (coordinator : RequestCoordinator K V E) (id : ℕ)
    (request : InFlightRequest K V E) (token : ℕ)
    (consumer : RequestConsumer V E) : RequestCoordinator K V E :=
  { (coordinator.setRequest id
      { request with consumers := request.consumers.erase token }).setConsumer
      token consumer with
    consumerCount := coordinator.consumerCount - 1 }

def settleConsumer (coordinator : RequestCoordinator K V E) (id token : ℕ) :
    Option (RequestCoordinator K V E) := do
  let request ← coordinator.requests id
  match request.phase with
  | .settled outcome =>
    if token ∈ request.consumers then
      let consumer ← coordinator.consumers token
      return coordinator.release id request token
        { consumer with
          settlements := consumer.settlements ++ [.physical outcome] }
    else return coordinator
  | _ => none

def abortController (coordinator : RequestCoordinator K V E) (id : ℕ) :
    RequestCoordinator K V E :=
  match coordinator.requests id with
  | none => coordinator
  | some request => coordinator.setRequest id { request with aborted := true }

def abortConsumer (coordinator : RequestCoordinator K V E) (id token : ℕ)
    (disposes : Bool) : RequestCoordinator K V E :=
  match coordinator.requests id, coordinator.consumers token with
  | some request, some consumer =>
    if token ∈ request.consumers then
      let released := coordinator.release id request token
        { consumer with
          signalAborted := consumer.signalAborted || !disposes
          disposed := consumer.disposed || disposes
          settlements := consumer.settlements ++ [.abortedError] }
      if request.consumers.erase token = [] then released.abortController id
      else released
    else coordinator
  | _, _ => coordinator

def abortEntry (coordinator : RequestCoordinator K V E) (id : ℕ) :
    RequestCoordinator K V E :=
  match coordinator.requests id with
  | none => coordinator
  | some request =>
    (request.consumers.foldl (fun current token => current.abortConsumer id token true)
      coordinator).abortController id

def abortAll (coordinator : RequestCoordinator K V E) :
    RequestCoordinator K V E :=
  { (coordinator.entries.map Prod.snd).foldl abortEntry coordinator with
    entries := [] }

def removeSettledEntry (coordinator : RequestCoordinator K V E) (id : ℕ)
    (key : K) : RequestCoordinator K V E :=
  if coordinator.entry? key = some id then
    { coordinator with
      entries := coordinator.entries.filter fun entry => entry.1 ≠ key }
  else coordinator

def abortSignal (coordinator : RequestCoordinator K V E) (token : ℕ) :
    Option (RequestCoordinator K V E) := do
  let consumer ← coordinator.consumers token
  match consumer.request with
  | none => return coordinator
  | some id => return coordinator.abortConsumer id token false

/-- The factory starts with the request scheduled, and its promise settles once;
it is rejected as aborted only after its signal was aborted. -/
def step (coordinator : RequestCoordinator K V E) :
    CoordinatorAction K V E → Option (RequestCoordinator K V E)
  | .request key signalAborted =>
    if signalAborted then some coordinator.rejectAborted
    else
      let opened := coordinator.openEntry key
      opened.1.join opened.2
  | .start id => do
    let request ← coordinator.requests id
    match request.phase with
    | .scheduled =>
      return coordinator.setRequest id { request with phase := .started }
    | _ => none
  | .settle id outcome => do
    let request ← coordinator.requests id
    match request.phase, outcome with
    | .started, .aborted =>
      if request.aborted then
        return coordinator.setRequest id
          { request with phase := .settled .aborted }
      else none
    | .started, outcome =>
      return coordinator.setRequest id
        { request with phase := .settled outcome }
    | _, _ => none
  | .removeSettled id => do
    let request ← coordinator.requests id
    match request.phase with
    | .settled _ => return coordinator.removeSettledEntry id request.key
    | _ => none
  | .deliver id token => coordinator.settleConsumer id token
  | .abortSignal token => coordinator.abortSignal token
  | .abortAll => some coordinator.abortAll

end RequestCoordinator

end Nexolab
