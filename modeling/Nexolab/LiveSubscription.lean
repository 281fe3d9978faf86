import Nexolab.TelemetryHistory
import Nexolab.TransitionSystem

/-!
# A live subscription

The service publishes committed telemetry to the clients which are registered, and the
browser keeps one subscription over connections which come and go.  A connection which
is made again names the time of the last message, and the endpoint registers the client
and repeats the history from there.
-/

namespace Nexolab

inductive ConnectionState where
  | idle
  | connecting
  | connected
  | reconnecting
  | offline
  | unauthorized
  | forbidden
  | configurationError
  deriving DecidableEq

def lowerChars (text : String) : List Char := text.toList.map Char.toLower

def containsWord (text : List Char) (word : String) : Bool :=
  decide (word.toList <:+: text)

def serverErrorState (code detail : String) : Option ConnectionState :=
  let normalized := lowerChars code ++ ' ' :: lowerChars detail
  if containsWord normalized "organization_header_required" ||
      containsWord normalized "organization required" ||
      containsWord normalized "configuration" then some .configurationError
  else if containsWord normalized "membership" ||
      containsWord normalized "permission" ||
      containsWord normalized "forbidden" ||
      containsWord normalized "access denied" then some .forbidden
  else if containsWord normalized "token" ||
      containsWord normalized "authentication" ||
      containsWord normalized "unauthorized" ||
      containsWord normalized "session" then some .unauthorized
  else none

def closeState (code : ℕ) (reason : String) : Option ConnectionState :=
  if code = 4400 ∨ code = 4004 then some .configurationError
  else if code = 4401 ∨ code = 4001 then some .unauthorized
  else if code = 4403 ∨ code = 4003 then some .forbidden
  else if code = 1008 then
    some ((serverErrorState "policy_violation" reason).getD .forbidden)
  else none

/-- What a payload with a `type` of its own is read as. -/
inductive TypedMessage where
  | authenticated (organizationId : String)
  | heartbeat
  | error (code : Option String) (detail : String)
  | unreadable
  deriving DecidableEq

/-- A committed event; its further fields are part of the payload. -/
structure LiveEvent (ι : Type) extends HistorySample ι where
  typed : Option TypedMessage
  deriving DecidableEq

instance {ι : Type} [LinearOrder ι] : LawfulBEq (LiveEvent ι) := inferInstance

inductive LiveFrame (ι : Type) where
  | typed (message : TypedMessage)
  | sample (event : LiveEvent ι)
  | close (code : ℕ) (reason : String)

def LiveEvent.frame {ι : Type} (event : LiveEvent ι) : LiveFrame ι :=
  match event.typed with
  | some message => .typed message
  | none => .sample event

structure LiveSettings where
  filters : TelemetryFilters
  authenticationRequired : Bool
  organizationId : String
  /-- `reconnectDelaysMs.length` -/
  (reconnectAttempts maxSeenEventIds queueMaxsize resumeLimit : ℕ)

def allowedQualities : List String :=
  ["valid", "sensor_error", "communication_error", "unknown"]

def allowedAlarms : List String := ["low", "high"]

def LiveSettings.FiltersValid (settings : LiveSettings) : Prop :=
  (∀ quality ∈ settings.filters.quality, quality ∈ allowedQualities) ∧
    ∀ alarm ∈ settings.filters.alarm, alarm ∈ allowedAlarms

instance (settings : LiveSettings) : Decidable settings.FiltersValid :=
  inferInstanceAs (Decidable (_ ∧ _))

inductive AuthenticationAnswer where
  | accepted
  | timeout
  | denied (code detail : String)
  deriving DecidableEq

inductive LiveItem (ι : Type) where
  | event (event : LiveEvent ι)
  | overflow
  | shutdown

structure LiveSession (ι : Type) where
  queue : List (LiveItem ι)
  closed : Bool
  replay : List (LiveEvent ι)
  replayedEventIds : List ι

inductive EndpointPhase (ι : Type) where
  /-- Before the authentication has ended. -/
  | accepting
  | admitted
  | registered (session : LiveSession ι)
  /-- The resume result exceeds the limit. -/
  | refusing (session : LiveSession ι)
  | ended

section Endpoint

variable {ι : Type} (settings : LiveSettings)

def authenticate : AuthenticationAnswer → List (LiveFrame ι) × EndpointPhase ι
  | .accepted =>
    ([.typed (.authenticated (stripText settings.organizationId))], .admitted)
  | .timeout =>
    ([.typed (.error (some "websocket_authentication_timeout")
        "Telemetry authentication message was not received in time"),
      .close 1008 "authentication timeout"], .ended)
  | .denied code detail =>
    ([.typed (.error (some code) detail), .close 1008 "access denied"], .ended)

variable [LinearOrder ι]

def resumeRows (rows : List (LiveEvent ι)) (after : Instant) (limit : ℕ) :
    List (LiveEvent ι) :=
  ((rows.filter fun row => settings.filters.matches row.toHistorySample &&
      decide (after ≤ row.capturedAt)).insertionSort fun first second =>
    NewerFirst first.toHistorySample second.toHistorySample).take limit

def registerClient (rows : List (LiveEvent ι)) (after : Option Instant) :
    EndpointPhase ι :=
  match after with
  | none => .registered ⟨[], false, [], []⟩
  | some after =>
    let found := resumeRows settings rows after (settings.resumeLimit + 1)
    if settings.resumeLimit < found.length then .refusing ⟨[], false, [], []⟩
    else .registered ⟨[], false, found.reverse, []⟩

def openSession (rows : List (LiveEvent ι)) (after : Option Instant) :
    List (LiveFrame ι) × EndpointPhase ι :=
  if ¬ ∀ quality ∈ settings.filters.quality, quality ∈ allowedQualities then
    ([.typed (.error none "unsupported quality filter"),
      .close 1008 "invalid quality filter"], .ended)
  else if ¬ ∀ alarm ∈ settings.filters.alarm, alarm ∈ allowedAlarms then
    ([.typed (.error none "unsupported alarm filter"),
      .close 1008 "invalid alarm filter"], .ended)
  else ([], registerClient settings rows after)

def LiveSession.publish (session : LiveSession ι) (event : LiveEvent ι) : LiveSession ι :=
  if session.closed then session
  else if settings.filters.matches event.toHistorySample then
    if session.queue.length < settings.queueMaxsize then
      { session with queue := session.queue ++ [.event event] }
    else { session with queue := [.overflow], closed := true }
  else session

def LiveSession.stop (session : LiveSession ι) : LiveSession ι :=
  if session.closed then session
  else { session with queue := [.shutdown], closed := true }

def LiveSession.sendNext (session : LiveSession ι) :
    Option (List (LiveFrame ι) × EndpointPhase ι) :=
  match session.replay, session.queue with
  | event :: rest, _ => some ([event.frame], .registered { session with
      replay := rest
      replayedEventIds := event.eventId :: session.replayedEventIds })
  | [], .event event :: rest =>
    if event.eventId ∈ session.replayedEventIds then
      some ([], .registered { session with queue := rest })
    else some ([event.frame], .registered { session with queue := rest })
  | [], .overflow :: _ => some ([.close 1013 "slow consumer"], .ended)
  | [], .shutdown :: _ => some ([.close 1012 "service restart"], .ended)
  | [], [] => none

def resumeRefused : List (LiveFrame ι) :=
  [.typed (.error none "resume result exceeds limit; reconnect with a newer after timestamp"),
   .close 1008 "resume limit exceeded"]

end Endpoint

inductive SocketPhase where
  | opening
  | opened
  /-- The browser has called `close`. -/
  | closing
  deriving DecidableEq

/-- The socket of the subscription with the endpoint behind it. -/
structure LiveLink (ι : Type) where
  phase : SocketPhase
  /-- The `after` of the URL. -/
  after : Option Instant
  authenticationTimer : Bool
  endpoint : EndpointPhase ι
  frames : List (LiveFrame ι)

inductive ClientPhase (ι : Type) where
  /-- The credentials are awaited. -/
  | connecting
  | socket (link : LiveLink ι)
  /-- The reconnect timer runs. -/
  | waiting
  | offline
  | terminal (state : ConnectionState)

structure LiveClient (ι : Type) where
  phase : ClientPhase ι
  lastState : ConnectionState
  reconnectAttempt : ℕ
  lastCommittedCapturedAt : Option Instant
  /-- `seenEventIds` has the same identifiers. -/
  seenOrder : List ι
  /-- The calls of `onSample`. -/
  passed : List (LiveEvent ι)

namespace LiveClient

variable {ι : Type} (settings : LiveSettings) (client : LiveClient ι)

def terminalState : Option ConnectionState :=
  match client.phase with
  | .terminal state => some state
  | _ => none

def isWaiting : Bool :=
  match client.phase with
  | .waiting => true
  | _ => false

def connect : LiveClient ι := { client with
  phase := .connecting
  lastState := if client.reconnectAttempt = 0 then .connecting else .reconnecting }

def scheduleReconnect : LiveClient ι :=
  if settings.reconnectAttempts ≤ client.reconnectAttempt then
    { client with phase := .offline, lastState := .offline }
  else { client with
    phase := .waiting
    lastState := .reconnecting
    reconnectAttempt := client.reconnectAttempt + 1 }

def failTerminal (state : ConnectionState) : LiveClient ι :=
  { client with phase := .terminal state, lastState := state }

def socketClosed (code : ℕ) (reason : String) : LiveClient ι :=
  match closeState code reason with
  | some state => client.failTerminal state
  | none => client.scheduleReconnect settings

def markConnected (link : LiveLink ι) : LiveClient ι := { client with
  phase := .socket { link with authenticationTimer := false }
  reconnectAttempt := 0
  lastState := .connected }

/-- `markConnected` for a message which is not an acknowledgement -/
def touch (link : LiveLink ι) : LiveClient ι :=
  if client.lastState = .connected then { client with phase := .socket link }
  else client.markConnected link

def expectedOrganization : Option String :=
  if settings.authenticationRequired then some settings.organizationId else none

variable [DecidableEq ι]

def handleSample (event : LiveEvent ι) : LiveClient ι :=
  if event.eventId ∈ client.seenOrder then client
  else { client with
    passed := client.passed ++ [event]
    seenOrder := (client.seenOrder ++ [event.eventId]).rtake settings.maxSeenEventIds
    lastCommittedCapturedAt := some event.capturedAt }

/-- The handler of `message`, and of `close` for the last frame. -/
def receive (link : LiveLink ι) : LiveFrame ι → LiveClient ι
  | .typed (.authenticated organizationId) =>
    if ∀ expected ∈ expectedOrganization settings,
        expected = "" ∨ organizationId = expected then
      client.markConnected link
    else client.failTerminal .forbidden
  | .typed .heartbeat => client.touch link
  | .typed (.error code detail) =>
    match serverErrorState (code.getD "websocket_error") detail with
    | some state => client.failTerminal state
    | none => { client with phase := .socket link }
  | .typed .unreadable => { client with phase := .socket link }
  | .sample event => (client.touch link).handleSample settings event
  | .close code reason => client.socketClosed settings code reason

end LiveClient

/-! ## Steps -/

structure LiveSystem (ι : Type) where
  /-- The committed events, oldest commit first. -/
  rows : List (LiveEvent ι)
  /-- Committed events which are still to be published. -/
  pending : List (LiveEvent ι)
  client : LiveClient ι
  /-- The events which were committed before the first registration. -/
  since : Option ℕ

inductive LiveAction (ι : Type) where
  | commit (event : LiveEvent ι)
  | publish (event : LiveEvent ι)
  /-- The service stops; what is not published is lost. -/
  | restart
  | createSocket (created : Bool)
  | open
  | connectionTimeout
  | authenticationTimeout
  | heartbeatTimeout
  | authenticate (answer : AuthenticationAnswer)
  | register
  | sendNext
  | sendHeartbeat
  | refuse
  /-- A send takes too long, and the frame arrives or not. -/
  | sendTimeout (sent : Bool)
  /-- Another exception ends the endpoint. -/
  | fail
  | deliver
  /-- The connection is lost. -/
  | drop
  | reconnect

namespace LiveSystem

section Phases

variable {ι : Type} (system : LiveSystem ι)

def setPhase (phase : ClientPhase ι) : LiveSystem ι :=
  { system with client := { system.client with phase } }

def answer (link : LiveLink ι) (frames : List (LiveFrame ι)) (endpoint : EndpointPhase ι) :
    LiveSystem ι :=
  system.setPhase (.socket { link with frames := link.frames ++ frames, endpoint })

def startSocket : LiveLink ι where
  phase := .opening
  after := system.client.lastCommittedCapturedAt
  authenticationTimer := false
  endpoint := .accepting
  frames := []

def restart (endpoint : EndpointPhase ι) : EndpointPhase ι :=
  match endpoint with
  | .registered session => .registered session.stop
  | .refusing session => .refusing session.stop
  | _ => .ended

end Phases

section Steps

variable {ι : Type} [LinearOrder ι] (settings : LiveSettings) (system : LiveSystem ι)

def stepEndpoint (link : LiveLink ι) : LiveAction ι → Option (LiveSystem ι)
  | .authenticate answer =>
    match link.endpoint with
    | .accepting =>
      if settings.authenticationRequired then
        if link.phase ≠ .opening ∨ answer = .timeout then
          let (frames, endpoint) := authenticate settings answer
          some (system.answer link frames endpoint)
        else none
      else some (system.answer link [] .admitted)
    | _ => none
  | .register =>
    match link.endpoint with
    | .admitted =>
      let (frames, endpoint) := openSession settings system.rows link.after
      some { system.answer link frames endpoint with
        since := some (system.since.getD system.rows.length) }
    | _ => none
  | .sendNext =>
    match link.endpoint with
    | .registered session =>
      session.sendNext.map fun (frames, endpoint) =>
        system.answer link frames endpoint
    | _ => none
  | .sendHeartbeat =>
    match link.endpoint with
    | .registered session =>
      if session.replay = [] ∧ session.queue = [] then
        some (system.answer link [.typed .heartbeat] link.endpoint)
      else none
    | _ => none
  | .refuse =>
    match link.endpoint with
    | .refusing _ => some (system.answer link resumeRefused .ended)
    | _ => none
  | .sendTimeout sent =>
    match link.endpoint with
    | .registered session =>
      match session.sendNext with
      | some ([frame], .registered _) =>
        some (system.answer link ((if sent then [frame] else []) ++
          [.close 1013 "send timeout"]) .ended)
      | none =>
        some (system.answer link ((if sent then [.typed .heartbeat] else []) ++
          [.close 1013 "send timeout"]) .ended)
      | _ => none
    | .refusing _ =>
      some (system.answer link ((if sent then resumeRefused.take 1 else []) ++
        [.close 1013 "send timeout"]) .ended)
    | _ => none
  | .fail =>
    match link.endpoint with
    | .ended => none
    | _ => some (system.answer link [.close 1011 ""] .ended)
  | _ => none

def stepSocket (link : LiveLink ι) : LiveAction ι → Option (LiveSystem ι)
  | .open =>
    if link.phase = .opening then
      some (system.setPhase (.socket { link with
        phase := .opened
        authenticationTimer := settings.authenticationRequired }))
    else none
  | .connectionTimeout =>
    if link.phase = .opening then
      some (system.setPhase (.socket { link with phase := .closing }))
    else none
  | .authenticationTimeout =>
    if link.phase = .opened ∧ link.authenticationTimer then
      some { system with client := system.client.failTerminal .unauthorized }
    else none
  | .heartbeatTimeout =>
    if link.phase = .opened then
      some { system with client := { system.client with
        phase := .socket { link with phase := .closing }
        lastState := .reconnecting } }
    else none
  | .deliver =>
    match link.frames with
    | frame :: rest =>
      if link.phase = .opened then
        some { system with client :=
          system.client.receive settings { link with frames := rest } frame }
      else none
    | [] => none
  | .drop => some { system with client := system.client.socketClosed settings 1006 "" }
  | action => system.stepEndpoint settings link action

/-- The event is published to the registered session, if there is one. -/
def publishTo (event : LiveEvent ι) : LiveSystem ι :=
  match system.client.phase with
  | .socket link =>
    match link.endpoint with
    | .registered session => system.answer link [] (.registered (session.publish settings event))
    | .refusing session => system.answer link [] (.refusing (session.publish settings event))
    | _ => system
  | _ => system

def step : LiveAction ι → Option (LiveSystem ι)
  | .commit event =>
    if event.eventId ∈ system.rows.map (·.eventId) then some system
    else some { system with
      rows := system.rows ++ [event], pending := system.pending ++ [event] }
  | .publish event =>
    if event ∈ system.pending then
      some { system.publishTo settings event with
        pending := system.pending.erase event }
    else none
  | .restart =>
    match system.client.phase with
    | .socket link => some { system.setPhase (.socket { link with
        endpoint := restart link.endpoint }) with pending := [] }
    | _ => some { system with pending := [] }
  | .createSocket created =>
    match system.client.phase with
    | .connecting =>
      if created then some (system.setPhase (.socket system.startSocket))
      else some { system with client := system.client.scheduleReconnect settings }
    | _ => none
  | .reconnect =>
    match system.client.phase with
    | .waiting => some { system with client := system.client.connect }
    | _ => none
  | action =>
    match system.client.phase with
    | .socket link => system.stepSocket settings link action
    | _ => none

end Steps

def subscribe {ι : Type} (rows : List (LiveEvent ι)) : LiveSystem ι where
  rows
  pending := []
  since := none
  client := LiveClient.connect
    { phase := .connecting, lastState := .idle, reconnectAttempt := 0
      lastCommittedCapturedAt := none, seenOrder := [], passed := [] }

end LiveSystem

/-- A subscription to all telemetry, whose resume results have at most two
events. -/
def plainSettings : LiveSettings where
  filters := .none
  authenticationRequired := false
  organizationId := "org"
  reconnectAttempts := 5
  maxSeenEventIds := 10000
  queueMaxsize := 256
  resumeLimit := 2

def plainEvent (eventId : ℕ) (capturedAt : Instant) : LiveEvent ℕ where
  eventId
  nodeId := "node"
  equipmentId := "bench"
  channelId := "channel"
  metric := "temperature"
  unit := "C"
  quality := "valid"
  alarm := none
  capturedAt
  typed := none

def connects : List (LiveAction ℕ) :=
  [.createSocket true, .open, .authenticate .accepted, .register]

def receives (event : LiveEvent ℕ) : List (LiveAction ℕ) :=
  [.commit event, .publish event, .sendNext, .deliver]

end Nexolab
