import Nexolab.LiveSubscription

/-!
# The sockets of a subscription

`TelemetryWebSocketClient.subscribe` connects, connects again after a delay, and
reports to the handlers of its caller until the subscription is closed.  A
connection is set up after the credentials have been awaited, so every
synchronous stretch of the code is one step: the end of such a wait, an event of
a socket, the expiry of a timer and the call of `close`.  Sockets are numbered in
order of creation, and a socket may deliver its events at any time.
-/

namespace Nexolab

/-- What the callback of a timer does, with the socket it was started for. -/
inductive TimerCallback where
  | reconnect
  | connectionTimeout (socket : ℕ)
  | authenticationTimeout (socket : ℕ)
  | heartbeatTimeout (socket : ℕ)
  deriving DecidableEq

structure SocketTimer where
  id : ℕ
  callback : TimerCallback
  deriving DecidableEq

/-- The running timers and the variables of `subscribe` which name them. -/
structure TimerTable where
  running : List SocketTimer
  nextId : ℕ
  (reconnectTimer connectionTimer authenticationTimer : Option SocketTimer)
  heartbeatTimer : Option SocketTimer

namespace TimerTable

variable (table : TimerTable)

def empty : TimerTable := ⟨[], 0, none, none, none, none⟩

def stop (timer : Option SocketTimer) : List SocketTimer :=
  table.running.filter fun other => decide (timer ≠ some other)

def clearReconnect : TimerTable := { table with
  running := table.stop table.reconnectTimer
  reconnectTimer := none }

def clearConnection : TimerTable := { table with
  running := table.stop table.connectionTimer
  connectionTimer := none }

def clearAuthentication : TimerTable := { table with
  running := table.stop table.authenticationTimer
  authenticationTimer := none }

def clearHeartbeat : TimerTable := { table with
  running := table.stop table.heartbeatTimer
  heartbeatTimer := none }

def clearAttempt : TimerTable :=
  table.clearConnection.clearAuthentication.clearHeartbeat

def started (callback : TimerCallback) : SocketTimer := ⟨table.nextId, callback⟩

def start (callback : TimerCallback) : TimerTable := { table with
  running := table.running ++ [table.started callback]
  nextId := table.nextId + 1 }

def startReconnect : TimerTable :=
  { table.start .reconnect with
    reconnectTimer := some (table.started .reconnect) }

def startConnection (socket : ℕ) : TimerTable :=
  { table.start (.connectionTimeout socket) with
    connectionTimer := some (table.started (.connectionTimeout socket)) }

def startAuthentication (socket : ℕ) : TimerTable :=
  { table.start (.authenticationTimeout socket) with
    authenticationTimer := some (table.started (.authenticationTimeout socket)) }

def startHeartbeat (socket : ℕ) : TimerTable :=
  { table.start (.heartbeatTimeout socket) with
    heartbeatTimer := some (table.started (.heartbeatTimeout socket)) }

def expire (timer : SocketTimer) : TimerTable :=
  let table := { table with running := table.stop (some timer) }
  match timer.callback with
  | .reconnect => { table with reconnectTimer := none }
  | .connectionTimeout _ => { table with connectionTimer := none }
  | .authenticationTimeout _ => { table with authenticationTimer := none }
  | .heartbeatTimeout _ => { table with heartbeatTimer := none }

def reconnects : List SocketTimer :=
  table.running.filter fun timer => decide (timer.callback = .reconnect)

end TimerTable

/-! ## The subscription -/

structure CredentialSnapshot where
  (accessToken organizationId : Option String)
  deriving DecidableEq

/-- How the promise of the credential provider settles. -/
inductive CredentialAnswer where
  | resolved (snapshot : CredentialSnapshot)
  | rejected (message : String)

structure WebSocketClientOptions where
  /-- `credentials` is given. -/
  (credentialProvider authenticationRequired : Bool)
  reconnectDelaysMs : List ℕ
  (connectionTimeoutMs heartbeatTimeoutMs : ℤ)
  maxSeenEventIds : ℕ

inductive MessageKind where
  | authenticated
  | heartbeat
  | sample
  | error

inductive DiagnosticEvent where
  | connectStart (reconnectAttempt : ℕ) (organizationId : Option String)
  | connected (reconnectAttempt : ℕ) (organizationId : Option String)
  | message (kind : MessageKind)
  | heartbeatTimeout (timeoutMs : ℤ)
  | reconnectScheduled (reconnectAttempt delayMs : ℕ)
  | closed (code : ℕ) (reason : String) (state : ConnectionState)

/-- A call of one of the handlers of the subscription. -/
inductive HandlerCall (ι : Type) where
  | onStateChange (state : ConnectionState)
  | onError (message : String)
  | onDiagnostic (event : DiagnosticEvent)
  | onHeartbeat
  | onSample (event : LiveEvent ι)

/-- What the listeners of a socket remember of its connection attempt. -/
structure SocketListeners where
  attempt : ℕ
  credentials : Option CredentialSnapshot
  deriving DecidableEq

def SocketListeners.organizationId (listeners : SocketListeners) : Option String :=
  listeners.credentials.bind (·.organizationId)

def SocketListeners.Acknowledges (listeners : SocketListeners) (organizationId : String) : Prop :=
  ∀ expected ∈ listeners.organizationId, expected = "" ∨ organizationId = expected

instance (listeners : SocketListeners) (organizationId : String) :
    Decidable (listeners.Acknowledges organizationId) :=
  inferInstanceAs (Decidable (∀ expected ∈ listeners.organizationId, _))

/-- The events of a socket; a message is given as it is parsed. -/
inductive SocketEvent (ι : Type) where
  | opened
  | message (message : TypedMessage)
  | sample (event : LiveEvent ι)
  | failed
  | closed (code : ℕ) (reason : String)

/-- The variables of `subscribe`, the connection attempts which await their
credentials, the sockets which were created, and the handlers' calls. -/
structure SocketSubscription (ι : Type) where
  socket : Option ℕ
  timers : TimerTable
  reconnectAttempt : ℕ
  closed : Bool
  (terminalState lastState : Option ConnectionState)
  lastCommittedCapturedAt : Option Instant
  /-- `seenEventIds` has the same identifiers. -/
  seenOrder : List ι
  attempts : List ℕ
  sockets : List SocketListeners
  /-- The calls of `close` on a socket, with their codes. -/
  closeCalls : List (ℕ × ℕ)
  /-- The sockets whose `close` event has been handled. -/
  endedSockets : List ℕ
  calls : List (HandlerCall ι)

inductive SubscriptionAction (ι : Type) where
  /-- An attempt has its credentials; `created` is the error of
  `createSocket`. -/
  | setUp (index : ℕ) (answer : CredentialAnswer) (creationError : Option String)
  | socketEvent (socket : ℕ) (event : SocketEvent ι)
  | expire (timer : SocketTimer)
  | close

def closeCodeFor : ConnectionState → ℕ
  | .unauthorized => 4001
  | .forbidden => 4003
  | _ => 4004

def isFilled (text : Option String) : Bool := text.any fun text => decide (text ≠ "")

def CredentialSnapshot.isComplete (snapshot : CredentialSnapshot) : Bool :=
  isFilled snapshot.accessToken && isFilled snapshot.organizationId

def credentialsError (snapshot : CredentialSnapshot) :
    Option (ConnectionState × String) :=
  if isFilled snapshot.accessToken = false then
    some (.unauthorized, "Telemetry WebSocket requires an authenticated user session")
  else if isFilled snapshot.organizationId = false then
    some (.configurationError, "Telemetry WebSocket requires a selected organization")
  else none

/-- The credentials of a connection attempt, or the terminal state it ends
in. -/
def connectionCredentials (options : WebSocketClientOptions) (answer : CredentialAnswer) :
    Except (ConnectionState × String) (Option CredentialSnapshot) :=
  if options.authenticationRequired = false then .ok none
  else if options.credentialProvider = false then
    .error (.configurationError,
      "Telemetry WebSocket authentication is enabled without a credential provider")
  else
    match answer with
    | .rejected message => .error (.unauthorized, message)
    | .resolved snapshot =>
      match credentialsError snapshot with
      | some issue => .error issue
      | none => .ok (some snapshot)

namespace SocketSubscription

variable {ι : Type} (options : WebSocketClientOptions)

def call (sub : SocketSubscription ι) (call : HandlerCall ι) : SocketSubscription ι :=
  { sub with calls := sub.calls ++ [call] }

def setState (sub : SocketSubscription ι) (state : ConnectionState) :
    SocketSubscription ι :=
  if sub.lastState = some state then sub
  else { sub with lastState := some state }.call (.onStateChange state)

def closeSocket (sub : SocketSubscription ι) (socket code : ℕ) :
    SocketSubscription ι :=
  { sub with closeCalls := sub.closeCalls ++ [(socket, code)] }

def armHeartbeatTimeout (sub : SocketSubscription ι) (nextSocket : ℕ) :
    SocketSubscription ι :=
  let cleared := sub.timers.clearHeartbeat
  if options.heartbeatTimeoutMs ≤ 0 ∨ sub.closed = true ∨
      sub.socket ≠ some nextSocket then { sub with timers := cleared }
  else { sub with timers := cleared.startHeartbeat nextSocket }

def markConnected (sub : SocketSubscription ι) (nextSocket : ℕ)
    (organizationId : Option String) (attempt : ℕ) : SocketSubscription ι :=
  if sub.closed = true ∨ sub.socket ≠ some nextSocket then sub
  else
    (({ sub with
        timers := sub.timers.clearReconnect.clearConnection.clearAuthentication
        reconnectAttempt := 0 }.setState .connected).call
      (.onDiagnostic (.connected attempt organizationId))).armHeartbeatTimeout
      options nextSocket

def failTerminal (sub : SocketSubscription ι) (state : ConnectionState)
    (error : String) (nextSocket : Option ℕ) : SocketSubscription ι :=
  let failed :=
    ({ sub with
      terminalState := some state
      timers := sub.timers.clearReconnect.clearAttempt }.setState state).call
      (.onError error)
  match nextSocket with
  | some socket =>
    if failed.socket = some socket then
      failed.closeSocket socket (closeCodeFor state)
    else failed
  | none => failed

def scheduleReconnect (sub : SocketSubscription ι) : SocketSubscription ι :=
  if sub.closed = true ∨ sub.terminalState ≠ none ∨ sub.timers.reconnectTimer ≠ none then sub
  else
    match options.reconnectDelaysMs[sub.reconnectAttempt]? with
    | none =>
      (sub.setState .offline).call (.onError "Telemetry WebSocket reconnect limit reached")
    | some delayMs =>
      let scheduled :=
        ({ sub with reconnectAttempt := sub.reconnectAttempt + 1 }.setState .reconnecting).call
          (.onDiagnostic (.reconnectScheduled (sub.reconnectAttempt + 1) delayMs))
      { scheduled with timers := sub.timers.startReconnect }

def connect (sub : SocketSubscription ι) : SocketSubscription ι :=
  if sub.closed = true ∨ sub.terminalState ≠ none then sub
  else
    { sub with
      timers := sub.timers.clearReconnect.clearAttempt
      attempts := sub.attempts ++ [sub.reconnectAttempt] }.setState
      (if sub.reconnectAttempt = 0 then .connecting else .reconnecting)

def adoptSocket (sub : SocketSubscription ι) (listeners : SocketListeners) :
    SocketSubscription ι :=
  let nextSocket := sub.sockets.length
  let adopted := { sub with
    socket := some nextSocket
    sockets := sub.sockets ++ [listeners] }
  let superseding :=
    match sub.socket with
    | some previousSocket => adopted.closeSocket previousSocket 1000
    | none => adopted
  if 0 < options.connectionTimeoutMs then
    { superseding with timers := superseding.timers.startConnection nextSocket }
  else superseding

/-- The part of `connect` which follows the wait for the credentials. -/
def setUp (sub : SocketSubscription ι) (attempt : ℕ) (answer : CredentialAnswer)
    (creationError : Option String) : SocketSubscription ι :=
  match connectionCredentials options answer with
  | .error (state, message) => sub.failTerminal state message none
  | .ok credentials =>
    if sub.closed = true ∨ sub.terminalState ≠ none then sub
    else
      let begun := sub.call (.onDiagnostic (.connectStart attempt
        (credentials.bind (·.organizationId))))
      match creationError with
      | some message => (begun.call (.onError message)).scheduleReconnect options
      | none => begun.adoptSocket options ⟨attempt, credentials⟩

/-! ### Listeners -/

def handleOpen (sub : SocketSubscription ι) (nextSocket : ℕ)
    (listeners : SocketListeners) : SocketSubscription ι :=
  let cleared := { sub with timers := sub.timers.clearConnection }
  if options.authenticationRequired = false then
    cleared.armHeartbeatTimeout options nextSocket
  else if listeners.credentials.any CredentialSnapshot.isComplete = true then
    { cleared with
      timers := cleared.timers.clearAuthentication.startAuthentication nextSocket }
  else
    cleared.failTerminal .configurationError
      "Telemetry credentials disappeared before connect" (some nextSocket)

def touch (sub : SocketSubscription ι) (nextSocket : ℕ) (listeners : SocketListeners) :
    SocketSubscription ι :=
  if sub.lastState = some .connected then sub.armHeartbeatTimeout options nextSocket
  else
    sub.markConnected options nextSocket listeners.organizationId listeners.attempt

variable [DecidableEq ι]

def handleSample (sub : SocketSubscription ι) (event : LiveEvent ι) :
    SocketSubscription ι :=
  if event.eventId ∈ sub.seenOrder then sub
  else
    { sub.call (.onSample event) with
      seenOrder := (sub.seenOrder ++ [event.eventId]).rtake options.maxSeenEventIds
      lastCommittedCapturedAt := some event.capturedAt }

def markMessage (sub : SocketSubscription ι) (kind : MessageKind) :
    SocketSubscription ι :=
  sub.call (.onDiagnostic (.message kind))

/-- The listener of `message` for a payload with a type of its own -/
def handleTyped (sub : SocketSubscription ι) (nextSocket : ℕ)
    (listeners : SocketListeners) : TypedMessage → SocketSubscription ι
  | .unreadable => sub.call (.onError "Invalid WebSocket telemetry message")
  | .authenticated organizationId =>
    let marked := sub.markMessage .authenticated
    if listeners.Acknowledges organizationId then
      marked.markConnected options nextSocket (some organizationId) listeners.attempt
    else
      marked.failTerminal .forbidden
        ("Telemetry WebSocket organization acknowledgement does not match " ++
          "the selected organization") (some nextSocket)
  | .heartbeat =>
    ((sub.markMessage .heartbeat).touch options nextSocket listeners).call .onHeartbeat
  | .error code detail =>
    let marked := sub.markMessage .error
    match serverErrorState (code.getD "websocket_error") detail with
    | some state => marked.failTerminal state detail (some nextSocket)
    | none => (marked.call (.onError detail)).armHeartbeatTimeout options nextSocket

def handleClose (sub : SocketSubscription ι) (socket code : ℕ) (reason : String) :
    SocketSubscription ι :=
  let left := { sub with
    socket := none
    timers := sub.timers.clearAttempt
    endedSockets := sub.endedSockets ++ [socket] }
  if sub.closed = true then left.setState .idle
  else
    match sub.terminalState with
    | some state =>
      (left.call (.onDiagnostic (.closed code reason state))).setState state
    | none =>
      match closeState code reason with
      | some state =>
        (({ left with terminalState := some state }.setState state).call
          (.onDiagnostic (.closed code reason state))).call
          (.onError (if reason = "" then "Telemetry WebSocket access was denied"
            else reason))
      | none =>
        (left.call (.onDiagnostic (.closed code reason .reconnecting))).scheduleReconnect options

def handleSampleMessage (sub : SocketSubscription ι) (nextSocket : ℕ)
    (listeners : SocketListeners) (event : LiveEvent ι) : SocketSubscription ι :=
  ((sub.markMessage .sample).touch options nextSocket listeners).handleSample options event

def handleEvent (sub : SocketSubscription ι) (nextSocket : ℕ)
    (listeners : SocketListeners) : SocketEvent ι → SocketSubscription ι
  | .opened =>
    if sub.closed = true then sub
    else sub.handleOpen options nextSocket listeners
  | .message message =>
    if sub.closed = true then sub
    else sub.handleTyped options nextSocket listeners message
  | .sample event =>
    if sub.closed = true then sub
    else sub.handleSampleMessage options nextSocket listeners event
  | .failed =>
    if sub.closed = true then sub
    else sub.call (.onError "Telemetry WebSocket transport error")
  | .closed code reason => sub.handleClose options nextSocket code reason

/-! ### Timers and steps -/

/-- The callbacks of the timers of a socket ask whether it is the current one
and the subscription still runs. -/
def IsActive (sub : SocketSubscription ι) (socket : ℕ) : Prop :=
  sub.closed = false ∧ sub.terminalState = none ∧ sub.socket = some socket

instance (sub : SocketSubscription ι) (socket : ℕ) : Decidable (sub.IsActive socket) :=
  inferInstanceAs (Decidable (_ ∧ _))

def handleExpiry (sub : SocketSubscription ι) (timer : SocketTimer) :
    SocketSubscription ι :=
  let sub := { sub with timers := sub.timers.expire timer }
  match timer.callback with
  | .reconnect => sub.connect
  | .connectionTimeout nextSocket =>
    if sub.IsActive nextSocket then
      (sub.call (.onError "Telemetry WebSocket connection timed out")).closeSocket
        nextSocket 4002
    else sub
  | .authenticationTimeout nextSocket =>
    if sub.IsActive nextSocket then
      sub.failTerminal .unauthorized "Telemetry WebSocket authentication acknowledgement timed out"
        (some nextSocket)
    else sub
  | .heartbeatTimeout nextSocket =>
    if sub.IsActive nextSocket then
      ((sub.call (.onDiagnostic (.heartbeatTimeout
        options.heartbeatTimeoutMs))).setState .reconnecting).closeSocket
        nextSocket 4000
    else sub

def close (sub : SocketSubscription ι) : SocketSubscription ι :=
  if sub.closed = true then sub
  else
    let ended := { sub with
      closed := true
      terminalState := none
      timers := sub.timers.clearReconnect.clearAttempt
      socket := none }
    let left :=
      match sub.socket with
      | some currentSocket => ended.closeSocket currentSocket 1000
      | none => ended
    left.setState .idle

def subscribe : SocketSubscription ι :=
  ({ socket := none
     timers := .empty
     reconnectAttempt := 0
     closed := false
     terminalState := none
     lastState := none
     lastCommittedCapturedAt := none
     seenOrder := []
     attempts := []
     sockets := []
     closeCalls := []
     endedSockets := []
     calls := [] : SocketSubscription ι }.setState .idle).connect

def step (sub : SocketSubscription ι) :
    SubscriptionAction ι → Option (SocketSubscription ι)
  | .setUp index answer creationError => do
    let attempt ← sub.attempts[index]?
    return { sub with attempts := sub.attempts.eraseIdx index }.setUp options
      attempt answer creationError
  | .socketEvent socket event => do
    let listeners ← sub.sockets[socket]?
    return if sub.socket = some socket then
      sub.handleEvent options socket listeners event
    else sub
  | .expire timer =>
    if timer ∈ sub.timers.running then some (sub.handleExpiry options timer)
    else none
  | .close => some sub.close

end SocketSubscription

end Nexolab
