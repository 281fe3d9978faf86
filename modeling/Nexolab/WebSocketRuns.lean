import Nexolab.TelemetryWebSocketClient

/-!
# Runs of a subscription's sockets

A connection attempt awaits its credentials only while there is no socket and no
reconnect timer, and a reconnect timer runs only while there is no socket; so at
most one reconnect is pending.  The listeners keep this since they only serve
the current socket.  What a terminal state and a closed subscription need is that
nothing arrives which ends in a call of `failTerminal` or `markConnected`.
-/

namespace Nexolab

namespace TimerTable

/-- The running reconnect timer is the one the variable names, and the other
variables name timers of other callbacks. -/
structure Consistent (table : TimerTable) : Prop where
  pending : table.reconnects = table.reconnectTimer.toList
  connection : ∀ timer, table.connectionTimer = some timer → timer.callback ≠ .reconnect
  authentication : ∀ timer, table.authenticationTimer = some timer → timer.callback ≠ .reconnect
  heartbeat : ∀ timer, table.heartbeatTimer = some timer → timer.callback ≠ .reconnect

variable {table : TimerTable}

theorem not_reconnect_of_none (timer : SocketTimer) (hsome : none = some timer) :
    timer.callback ≠ .reconnect := by
  cases hsome

theorem filter_stop_of_ne {stopped : Option SocketTimer}
    (hstopped : ∀ timer, stopped = some timer → timer.callback ≠ .reconnect) :
    (table.stop stopped).filter (fun timer => decide (timer.callback = .reconnect)) =
      table.reconnects := by
  rw [stop, reconnects, List.filter_filter]
  apply List.filter_congr
  intro timer hmem
  by_cases hcallback : timer.callback = .reconnect
  · have hne : stopped ≠ some timer := fun heq => hstopped timer heq hcallback
    simp [hcallback, hne]
  · simp [hcallback]

theorem filter_stop_reconnect {stopped : SocketTimer} (hreconnects : table.reconnects = [stopped]) :
    (table.stop (some stopped)).filter
      (fun timer => decide (timer.callback = .reconnect)) = [] := by
  rw [stop, List.filter_comm]
  have hfilter : table.running.filter
      (fun timer => decide (timer.callback = .reconnect)) = [stopped] := hreconnects
  rw [hfilter]
  simp

namespace Consistent

theorem clearReconnect (h : table.Consistent) : table.clearReconnect.Consistent := by
  have hnone : table.clearReconnect.reconnects = [] := by
    have hreconnects := h.pending
    rw [reconnects, TimerTable.clearReconnect]
    cases htimer : table.reconnectTimer with
    | none =>
      rw [filter_stop_of_ne (by simp), hreconnects, htimer]
      rfl
    | some timer =>
      rw [htimer] at hreconnects
      exact filter_stop_reconnect hreconnects
  exact ⟨hnone, h.connection, h.authentication, h.heartbeat⟩

theorem clearConnection (h : table.Consistent) : table.clearConnection.Consistent :=
  ⟨(filter_stop_of_ne h.connection).trans h.pending, not_reconnect_of_none,
    h.authentication, h.heartbeat⟩

theorem clearAuthentication (h : table.Consistent) :
    table.clearAuthentication.Consistent :=
  ⟨(filter_stop_of_ne h.authentication).trans h.pending, h.connection,
    not_reconnect_of_none, h.heartbeat⟩

theorem clearHeartbeat (h : table.Consistent) : table.clearHeartbeat.Consistent :=
  ⟨(filter_stop_of_ne h.heartbeat).trans h.pending, h.connection,
    h.authentication, not_reconnect_of_none⟩

theorem clearAttempt (h : table.Consistent) : table.clearAttempt.Consistent :=
  h.clearConnection.clearAuthentication.clearHeartbeat

theorem startReconnect (h : table.Consistent) (hnone : table.reconnectTimer = none) :
    table.startReconnect.Consistent := by
  refine ⟨?_, h.connection, h.authentication, h.heartbeat⟩
  have hreconnects := h.pending
  rw [hnone] at hreconnects
  have hfilter : table.running.filter
      (fun timer => decide (timer.callback = .reconnect)) = [] := hreconnects
  rw [reconnects, TimerTable.startReconnect, start, List.filter_append, hfilter]
  rfl

theorem reconnects_start (h : table.Consistent) {callback : TimerCallback}
    (hcallback : callback ≠ .reconnect) :
    (table.start callback).reconnects = table.reconnectTimer.toList := by
  have hfilter : table.running.filter (fun timer => decide (timer.callback = .reconnect)) =
        table.reconnectTimer.toList := h.pending
  rw [reconnects, start, List.filter_append, hfilter]
  simp [started, hcallback]

theorem startConnection (h : table.Consistent) (socket : ℕ) :
    (table.startConnection socket).Consistent := by
  refine ⟨h.reconnects_start (by simp), ?_, h.authentication, h.heartbeat⟩
  intro timer hsome
  cases hsome
  simp [started]

theorem startAuthentication (h : table.Consistent) (socket : ℕ) :
    (table.startAuthentication socket).Consistent := by
  refine ⟨h.reconnects_start (by simp), h.connection, ?_, h.heartbeat⟩
  intro timer hsome
  cases hsome
  simp [started]

theorem startHeartbeat (h : table.Consistent) (socket : ℕ) :
    (table.startHeartbeat socket).Consistent := by
  refine ⟨h.reconnects_start (by simp), h.connection, h.authentication, ?_⟩
  intro timer hsome
  cases hsome
  simp [started]

theorem expire (h : table.Consistent) {timer : SocketTimer}
    (hmem : timer ∈ table.running) : (table.expire timer).Consistent := by
  have hother (hne : timer.callback ≠ .reconnect) :
      (table.stop (some timer)).filter (fun timer => decide (timer.callback = .reconnect)) =
          table.reconnectTimer.toList := by
    refine (filter_stop_of_ne ?_).trans h.pending
    intro stopped hsome
    cases hsome
    exact hne
  rw [TimerTable.expire]
  cases hcallback : timer.callback with
  | reconnect =>
    refine ⟨?_, h.connection, h.authentication, h.heartbeat⟩
    have hmemPending : timer ∈ table.reconnects := by
      simp [reconnects, hmem, hcallback]
    rw [h.pending, Option.mem_toList] at hmemPending
    have hreconnects := h.pending
    rw [hmemPending] at hreconnects
    exact filter_stop_reconnect hreconnects
  | connectionTimeout socket =>
    exact ⟨hother (by simp [hcallback]), not_reconnect_of_none, h.authentication, h.heartbeat⟩
  | authenticationTimeout socket =>
    exact ⟨hother (by simp [hcallback]), h.connection, not_reconnect_of_none, h.heartbeat⟩
  | heartbeatTimeout socket =>
    exact ⟨hother (by simp [hcallback]), h.connection, h.authentication, not_reconnect_of_none⟩

end Consistent

theorem empty_consistent : TimerTable.empty.Consistent :=
  ⟨rfl, not_reconnect_of_none, not_reconnect_of_none, not_reconnect_of_none⟩

end TimerTable

namespace SocketSubscription

variable {ι : Type} {options : WebSocketClientOptions}

/-! ## What the parts of the listeners keep -/

structure Keeps (before after : SocketSubscription ι) : Prop where
  socket : after.socket = before.socket
  closed : after.closed = before.closed
  attempts : after.attempts = before.attempts
  sockets : after.sockets = before.sockets
  endedSockets : after.endedSockets = before.endedSockets
  closeCalls : ∀ call ∈ before.closeCalls, call ∈ after.closeCalls
  timers : before.timers.Consistent → after.timers.Consistent
  reconnectTimer : before.timers.reconnectTimer = none → after.timers.reconnectTimer = none

theorem Keeps.refl (sub : SocketSubscription ι) : Keeps sub sub :=
  ⟨rfl, rfl, rfl, rfl, rfl, fun _ h => h, id, id⟩

variable {first second third : SocketSubscription ι} {nextSocket : ℕ}
  {before after : SocketSubscription ι} {action : SubscriptionAction ι}

theorem Keeps.trans (hfirst : Keeps first second) (hsecond : Keeps second third) :
    Keeps first third where
  socket := hsecond.socket.trans hfirst.socket
  closed := hsecond.closed.trans hfirst.closed
  attempts := hsecond.attempts.trans hfirst.attempts
  sockets := hsecond.sockets.trans hfirst.sockets
  endedSockets := hsecond.endedSockets.trans hfirst.endedSockets
  closeCalls := fun call h => hsecond.closeCalls call (hfirst.closeCalls call h)
  timers := fun h => hsecond.timers (hfirst.timers h)
  reconnectTimer := fun h => hsecond.reconnectTimer (hfirst.reconnectTimer h)

theorem keeps_timers (sub : SocketSubscription ι) {timers : TimerTable}
    (htimers : sub.timers.Consistent → timers.Consistent)
    (hreconnect : sub.timers.reconnectTimer = none → timers.reconnectTimer = none) :
    Keeps sub { sub with timers } :=
  ⟨rfl, rfl, rfl, rfl, rfl, fun _ h => h, htimers, hreconnect⟩

theorem keeps_call (sub : SocketSubscription ι) (call : HandlerCall ι) :
    Keeps sub (sub.call call) :=
  ⟨rfl, rfl, rfl, rfl, rfl, fun _ h => h, id, id⟩

theorem keeps_setState (sub : SocketSubscription ι) (state : ConnectionState) :
    Keeps sub (sub.setState state) := by
  unfold setState
  split
  next => exact .refl sub
  next => exact ⟨rfl, rfl, rfl, rfl, rfl, fun _ h => h, id, id⟩

theorem keeps_closeSocket (sub : SocketSubscription ι) (socket code : ℕ) :
    Keeps sub (sub.closeSocket socket code) :=
  ⟨rfl, rfl, rfl, rfl, rfl, fun _ h => List.mem_append_left _ h, id, id⟩

theorem keeps_armHeartbeatTimeout (sub : SocketSubscription ι) (nextSocket : ℕ) :
    Keeps sub (sub.armHeartbeatTimeout options nextSocket) := by
  unfold armHeartbeatTimeout
  dsimp only
  split
  next => exact keeps_timers sub (·.clearHeartbeat) id
  next => exact keeps_timers sub (·.clearHeartbeat.startHeartbeat nextSocket) id

theorem keeps_markConnected (sub : SocketSubscription ι) (nextSocket : ℕ)
    (organizationId : Option String) (attempt : ℕ) :
    Keeps sub (sub.markConnected options nextSocket organizationId attempt) := by
  unfold markConnected
  split
  next => exact .refl sub
  next =>
    have hcleared : Keeps sub { sub with
        timers := sub.timers.clearReconnect.clearConnection.clearAuthentication
        reconnectAttempt := 0 } :=
      ⟨rfl, rfl, rfl, rfl, rfl, fun _ h => h,
        (·.clearReconnect.clearConnection.clearAuthentication), fun _ => rfl⟩
    exact ((hcleared.trans (keeps_setState _ _)).trans (keeps_call _ _)).trans
      (keeps_armHeartbeatTimeout _ nextSocket)

theorem keeps_failTerminal (sub : SocketSubscription ι) (state : ConnectionState)
    (error : String) (nextSocket : Option ℕ) :
    Keeps sub (sub.failTerminal state error nextSocket) := by
  have hcleared : Keeps sub { sub with
      terminalState := some state
      timers := sub.timers.clearReconnect.clearAttempt } :=
    ⟨rfl, rfl, rfl, rfl, rfl, fun _ h => h, (·.clearReconnect.clearAttempt), fun _ => rfl⟩
  have hfailed := (hcleared.trans (keeps_setState _ state)).trans (keeps_call _ (.onError error))
  unfold failTerminal
  dsimp only
  split
  next socket =>
    split
    next => exact hfailed.trans (keeps_closeSocket _ _ _)
    next => exact hfailed
  next => exact hfailed

theorem keeps_touch (sub : SocketSubscription ι) (nextSocket : ℕ) (listeners : SocketListeners) :
    Keeps sub (sub.touch options nextSocket listeners) := by
  unfold touch
  split
  next => exact keeps_armHeartbeatTimeout sub nextSocket
  next => exact keeps_markConnected sub _ _ _

theorem keeps_handleOpen (sub : SocketSubscription ι) (nextSocket : ℕ)
    (listeners : SocketListeners) :
    Keeps sub (sub.handleOpen options nextSocket listeners) := by
  have hcleared : Keeps sub { sub with timers := sub.timers.clearConnection } :=
    keeps_timers sub (·.clearConnection) id
  unfold handleOpen
  dsimp only
  split
  next => exact hcleared.trans (keeps_armHeartbeatTimeout _ _)
  next =>
    split
    next =>
      exact hcleared.trans (keeps_timers _
        (·.clearAuthentication.startAuthentication nextSocket) id)
    next => exact hcleared.trans (keeps_failTerminal _ _ _ _)

theorem keeps_handleTyped (sub : SocketSubscription ι) (nextSocket : ℕ)
    (listeners : SocketListeners) (message : TypedMessage) :
    Keeps sub (sub.handleTyped options nextSocket listeners message) := by
  cases message with
  | unreadable => exact keeps_call sub _
  | authenticated organizationId =>
    simp only [handleTyped]
    split
    next => exact (keeps_call _ _).trans (keeps_markConnected _ _ _ _)
    next => exact (keeps_call _ _).trans (keeps_failTerminal _ _ _ _)
  | heartbeat =>
    exact ((keeps_call _ _).trans (keeps_touch _ _ _)).trans (keeps_call _ _)
  | error code detail =>
    simp only [handleTyped]
    split
    next => exact (keeps_call _ _).trans (keeps_failTerminal _ _ _ _)
    next =>
      exact ((keeps_call _ _).trans (keeps_call _ _)).trans (keeps_armHeartbeatTimeout _ _)

theorem keeps_handleSampleMessage [DecidableEq ι] (sub : SocketSubscription ι)
    (nextSocket : ℕ) (listeners : SocketListeners) (event : LiveEvent ι) :
    Keeps sub (sub.handleSampleMessage options nextSocket listeners event) := by
  have htouched : Keeps sub ((sub.markMessage .sample).touch options nextSocket
      listeners) := (keeps_call _ _).trans (keeps_touch _ _ _)
  unfold handleSampleMessage handleSample
  split
  next => exact htouched
  next => exact htouched.trans ⟨rfl, rfl, rfl, rfl, rfl, fun _ h => h, id, id⟩

variable (options) in
theorem handleEvent_cases [DecidableEq ι] (sub : SocketSubscription ι) (socket : ℕ)
    (listeners : SocketListeners) (event : SocketEvent ι) :
    Keeps sub (sub.handleEvent options socket listeners event) ∨
      ∃ code reason, sub.handleEvent options socket listeners event =
        sub.handleClose options socket code reason := by
  cases event with
  | opened =>
    simp only [handleEvent]
    split
    next => exact .inl (.refl sub)
    next => exact .inl (keeps_handleOpen _ _ _)
  | message message =>
    simp only [handleEvent]
    split
    next => exact .inl (.refl sub)
    next => exact .inl (keeps_handleTyped _ _ _ _)
  | sample event =>
    simp only [handleEvent]
    split
    next => exact .inl (.refl sub)
    next => exact .inl (keeps_handleSampleMessage _ _ _ _)
  | failed =>
    simp only [handleEvent]
    split
    next => exact .inl (.refl sub)
    next => exact .inl (keeps_call _ _)
  | closed code reason => exact .inr ⟨code, reason, rfl⟩

/-! ## Sockets and attempts -/

structure AttemptInvariant (sub : SocketSubscription ι) : Prop where
  timers : sub.timers.Consistent
  alone : sub.attempts.length ≤ 1
  awaiting : sub.attempts ≠ [] → sub.socket = none ∧ sub.timers.reconnectTimer = none
  connected : sub.socket ≠ none → sub.timers.reconnectTimer = none
  left : ∀ socket < sub.sockets.length, sub.socket ≠ some socket →
    socket ∈ sub.endedSockets ∨ ∃ code, (socket, code) ∈ sub.closeCalls

namespace AttemptInvariant

variable {sub : SocketSubscription ι}

theorem keeps (h : sub.AttemptInvariant) {after : SocketSubscription ι}
    (hkeeps : Keeps sub after) : after.AttemptInvariant where
  timers := hkeeps.timers h.timers
  alone := by
    rw [hkeeps.attempts]
    exact h.alone
  awaiting := by
    rw [hkeeps.attempts, hkeeps.socket]
    intro hatts
    exact ⟨(h.awaiting hatts).1, hkeeps.reconnectTimer (h.awaiting hatts).2⟩
  connected := by
    rw [hkeeps.socket]
    exact fun hsock => hkeeps.reconnectTimer (h.connected hsock)
  left := by
    rw [hkeeps.sockets, hkeeps.socket, hkeeps.endedSockets]
    intro socket hlt hne
    rcases h.left socket hlt hne with hended | ⟨code, hclosed⟩
    · exact .inl hended
    · exact .inr ⟨code, hkeeps.closeCalls _ hclosed⟩

theorem attempts_of_socket (h : sub.AttemptInvariant) {socket : ℕ}
    (hsock : sub.socket = some socket) : sub.attempts = [] := by
  by_contra hatts
  rw [(h.awaiting hatts).1] at hsock
  cases hsock

theorem setUp_last (h : sub.AttemptInvariant) {index attempt : ℕ}
    (hatt : sub.attempts[index]? = some attempt) :
    sub.attempts ≠ [] ∧ sub.attempts.eraseIdx index = [] := by
  have hlt := (List.getElem?_eq_some_iff.mp hatt).1
  have halone := h.alone
  constructor
  · exact List.ne_nil_of_length_pos (by omega)
  · apply List.eq_nil_of_length_eq_zero
    rw [List.length_eraseIdx]
    split <;> omega

theorem scheduleReconnect (h : sub.AttemptInvariant) (hatts : sub.attempts = [])
    (hsock : sub.socket = none) :
    (sub.scheduleReconnect options).AttemptInvariant := by
  unfold SocketSubscription.scheduleReconnect
  split
  next => exact h
  next hopen =>
    push Not at hopen
    split
    next => exact h.keeps ((keeps_setState _ _).trans (keeps_call _ _))
    next delayMs hdelay =>
      have hkeeps : Keeps sub (({ sub with
          reconnectAttempt := sub.reconnectAttempt + 1 }.setState .reconnecting).call
          (.onDiagnostic (.reconnectScheduled (sub.reconnectAttempt + 1) delayMs))) := by
        have hcounted : Keeps sub { sub with
            reconnectAttempt := sub.reconnectAttempt + 1 } :=
          ⟨rfl, rfl, rfl, rfl, rfl, fun _ h => h, id, id⟩
        exact (hcounted.trans (keeps_setState _ _)).trans (keeps_call _ _)
      have hscheduled := h.keeps hkeeps
      exact {
        timers := h.timers.startReconnect hopen.2.2
        alone := hscheduled.alone
        awaiting := fun hne => absurd (hkeeps.attempts.trans hatts) hne
        connected := fun hne => absurd (hkeeps.socket.trans hsock) hne
        left := hscheduled.left }

theorem connect (h : sub.AttemptInvariant) (hatts : sub.attempts = [])
    (hsock : sub.socket = none) : sub.connect.AttemptInvariant := by
  unfold SocketSubscription.connect
  split
  next => exact h
  next =>
    have hbegun : AttemptInvariant { sub with
        timers := sub.timers.clearReconnect.clearAttempt
        attempts := sub.attempts ++ [sub.reconnectAttempt] } := {
      timers := h.timers.clearReconnect.clearAttempt
      alone := by simp [hatts]
      awaiting := fun _ => ⟨hsock, rfl⟩
      connected := fun _ => rfl
      left := h.left }
    exact hbegun.keeps (keeps_setState _ _)

theorem adoptSocket (h : sub.AttemptInvariant) (hatts : sub.attempts = [])
    (hreconnect : sub.timers.reconnectTimer = none) (listeners : SocketListeners) :
    (sub.adoptSocket options listeners).AttemptInvariant := by
  have hadopted (closeCalls : List (ℕ × ℕ))
      (hcalls : ∀ call ∈ sub.closeCalls, call ∈ closeCalls)
      (hprev : ∀ previous, sub.socket = some previous → (previous, 1000) ∈ closeCalls) :
      AttemptInvariant { sub with
        socket := some sub.sockets.length
        sockets := sub.sockets ++ [listeners]
        closeCalls := closeCalls } := {
    timers := h.timers
    alone := h.alone
    awaiting := fun hne => absurd hatts hne
    connected := fun _ => hreconnect
    left := by
      intro socket hlt hne
      have hold : socket < sub.sockets.length := by
        have hlen : socket < sub.sockets.length + 1 := by simpa using hlt
        have hnew : socket ≠ sub.sockets.length := fun heq => hne (by rw [heq])
        omega
      by_cases hcur : sub.socket = some socket
      · exact .inr ⟨1000, hprev socket hcur⟩
      · rcases h.left socket hold hcur with hended | ⟨code, hclosed⟩
        · exact .inl hended
        · exact .inr ⟨code, hcalls _ hclosed⟩ }
  have hstarted {superseding : SocketSubscription ι}
      (hsup : superseding.AttemptInvariant) :
      AttemptInvariant (if 0 < options.connectionTimeoutMs then
          { superseding with
            timers := superseding.timers.startConnection sub.sockets.length }
        else superseding) := by
    split
    next => exact hsup.keeps (keeps_timers _ (·.startConnection sub.sockets.length) id)
    next => exact hsup
  apply hstarted
  cases hsock : sub.socket with
  | none =>
    refine hadopted sub.closeCalls (fun _ h => h) ?_
    intro previous hprev
    rw [hsock] at hprev
    cases hprev
  | some previousSocket =>
    refine hadopted _ (fun _ h => List.mem_append_left _ h) ?_
    intro previous hprev
    rw [hsock] at hprev
    cases hprev
    simp

theorem setUp (h : sub.AttemptInvariant) (hatts : sub.attempts = [])
    (hsock : sub.socket = none) (hreconnect : sub.timers.reconnectTimer = none)
    (attempt : ℕ) (answer : CredentialAnswer) (creationError : Option String) :
    (sub.setUp options attempt answer creationError).AttemptInvariant := by
  unfold SocketSubscription.setUp
  split
  next => exact h.keeps (keeps_failTerminal _ _ _ _)
  next credentials hcreds =>
    split
    next => exact h
    next =>
      have hbegun := h.keeps (keeps_call sub (.onDiagnostic (.connectStart attempt
        (credentials.bind (·.organizationId)))))
      dsimp only
      split
      next message =>
        exact (hbegun.keeps (keeps_call _ (.onError message))).scheduleReconnect hatts hsock
      next => exact hbegun.adoptSocket hatts hreconnect _

theorem handleClose (h : sub.AttemptInvariant) {socket : ℕ}
    (hsock : sub.socket = some socket) (code : ℕ) (reason : String) :
    (sub.handleClose options socket code reason).AttemptInvariant := by
  have hatts := h.attempts_of_socket hsock
  have hleft : AttemptInvariant { sub with
      socket := none
      timers := sub.timers.clearAttempt
      endedSockets := sub.endedSockets ++ [socket] } := {
    timers := h.timers.clearAttempt
    alone := h.alone
    awaiting := fun hne => absurd hatts hne
    connected := fun hne => absurd rfl hne
    left := by
      intro other hlt hne
      by_cases heq : other = socket
      · exact .inl (by simp [heq])
      · have hother : sub.socket ≠ some other := by
          rw [hsock]
          exact fun hsome => heq (Option.some.inj hsome).symm
        rcases h.left other hlt hother with hended | hclosed
        · exact .inl (List.mem_append_left _ hended)
        · exact .inr hclosed }
  unfold SocketSubscription.handleClose
  dsimp only
  split
  next => exact hleft.keeps (keeps_setState _ _)
  next =>
    split
    next => exact hleft.keeps ((keeps_call _ _).trans (keeps_setState _ _))
    next =>
      split
      next state hstate =>
        have hfailed : Keeps { sub with
            socket := none
            timers := sub.timers.clearAttempt
            endedSockets := sub.endedSockets ++ [socket] }
            { sub with
              socket := none
              timers := sub.timers.clearAttempt
              endedSockets := sub.endedSockets ++ [socket]
              terminalState := some state } :=
          ⟨rfl, rfl, rfl, rfl, rfl, fun _ h => h, id, id⟩
        exact hleft.keeps (((hfailed.trans (keeps_setState _ _)).trans
          (keeps_call _ _)).trans (keeps_call _ _))
      next =>
        exact (hleft.keeps (keeps_call _ _)).scheduleReconnect hatts rfl

theorem handleEvent [DecidableEq ι] (h : sub.AttemptInvariant) {socket : ℕ}
    (hsock : sub.socket = some socket) (listeners : SocketListeners) (event : SocketEvent ι) :
    (sub.handleEvent options socket listeners event).AttemptInvariant := by
  rcases handleEvent_cases options sub socket listeners event with
    hkeeps | ⟨code, reason, hclose⟩
  · exact h.keeps hkeeps
  · rw [hclose]
    exact h.handleClose hsock code reason

theorem handleExpiry (h : sub.AttemptInvariant) {timer : SocketTimer}
    (hmem : timer ∈ sub.timers.running) :
    (sub.handleExpiry options timer).AttemptInvariant := by
  have hexpired : Keeps sub { sub with timers := sub.timers.expire timer } := by
    refine keeps_timers sub (·.expire hmem) fun hnone => ?_
    unfold TimerTable.expire
    dsimp only
    split <;> first | rfl | exact hnone
  have hkept := h.keeps hexpired
  unfold SocketSubscription.handleExpiry
  dsimp only
  split
  next hcallback =>
    have hpend : sub.timers.reconnectTimer = some timer := by
      have hrun : timer ∈ sub.timers.reconnects := by
        simp [TimerTable.reconnects, hmem, hcallback]
      rwa [h.timers.pending, Option.mem_toList] at hrun
    have hne : sub.timers.reconnectTimer ≠ none := by simp [hpend]
    apply hkept.connect
    · by_contra hatts
      exact hne (h.awaiting hatts).2
    · by_contra hsock
      exact hne (h.connected hsock)
  next nextSocket hcallback =>
    split
    next => exact hkept.keeps ((keeps_call _ _).trans (keeps_closeSocket _ _ _))
    next => exact hkept
  next nextSocket hcallback =>
    split
    next => exact hkept.keeps (keeps_failTerminal _ _ _ _)
    next => exact hkept
  next nextSocket hcallback =>
    split
    next =>
      exact hkept.keeps (((keeps_call _ _).trans (keeps_setState _ _)).trans
        (keeps_closeSocket _ _ _))
    next => exact hkept

theorem close (h : sub.AttemptInvariant) : sub.close.AttemptInvariant := by
  unfold SocketSubscription.close
  split
  next => exact h
  next =>
    have hended (closeCalls : List (ℕ × ℕ))
        (hcalls : ∀ call ∈ sub.closeCalls, call ∈ closeCalls)
        (hcur : ∀ socket, sub.socket = some socket → (socket, 1000) ∈ closeCalls) :
        AttemptInvariant { sub with
          closed := true
          terminalState := none
          timers := sub.timers.clearReconnect.clearAttempt
          socket := none
          closeCalls := closeCalls } := {
      timers := h.timers.clearReconnect.clearAttempt
      alone := h.alone
      awaiting := fun _ => ⟨rfl, rfl⟩
      connected := fun _ => rfl
      left := by
        intro socket hlt hne
        by_cases hsock : sub.socket = some socket
        · exact .inr ⟨1000, hcur socket hsock⟩
        · rcases h.left socket hlt hsock with hended | ⟨code, hclosed⟩
          · exact .inl hended
          · exact .inr ⟨code, hcalls _ hclosed⟩ }
    dsimp only
    cases hsock : sub.socket with
    | none =>
      refine (hended sub.closeCalls (fun _ h => h) ?_).keeps (keeps_setState _ _)
      intro socket hsome
      rw [hsock] at hsome
      cases hsome
    | some currentSocket =>
      refine (hended _ (fun _ h => List.mem_append_left _ h) ?_).keeps (keeps_setState _ _)
      intro socket hsome
      rw [hsock] at hsome
      cases hsome
      simp

theorem step [DecidableEq ι] (h : sub.AttemptInvariant)
    {action : SubscriptionAction ι} {after : SocketSubscription ι}
    (hstep : sub.step options action = some after) : after.AttemptInvariant := by
  cases action with
  | setUp index answer creationError =>
    obtain ⟨attempt, hatt, hstep⟩ := Option.bind_eq_some_iff.mp hstep
    cases hstep
    obtain ⟨hne, hempty⟩ := h.setUp_last hatt
    have htaken : AttemptInvariant { sub with
        attempts := sub.attempts.eraseIdx index } := {
      timers := h.timers
      alone := by simp [hempty]
      awaiting := fun _ => h.awaiting hne
      connected := h.connected
      left := h.left }
    exact htaken.setUp hempty (h.awaiting hne).1 (h.awaiting hne).2 _ _ _
  | socketEvent socket event =>
    obtain ⟨listeners, hlisteners, hstep⟩ := Option.bind_eq_some_iff.mp hstep
    cases hstep
    split
    next hsock => exact h.handleEvent hsock listeners event
    next => exact h
  | expire timer =>
    simp only [SocketSubscription.step] at hstep
    split at hstep
    next hmem =>
      cases hstep
      exact h.handleExpiry hmem
    next => cases hstep
  | close =>
    cases hstep
    exact h.close

theorem subscribe : (subscribe : SocketSubscription ι).AttemptInvariant := by
  unfold SocketSubscription.subscribe
  refine AttemptInvariant.connect ⟨TimerTable.empty_consistent, by simp [setState, call],
    fun hne => absurd rfl hne, fun hne => absurd rfl hne, fun socket hlt => ?_⟩ rfl rfl
  simp [setState, call] at hlt

theorem pending_le (h : sub.AttemptInvariant) :
    sub.timers.reconnects.length + sub.attempts.length ≤ 1 := by
  rw [h.timers.pending]
  by_cases hatts : sub.attempts = []
  · cases sub.timers.reconnectTimer <;> simp [hatts]
  · simpa [(h.awaiting hatts).2] using h.alone

end AttemptInvariant

/-! ## Terminal states -/

def messageState (listeners : SocketListeners) :
    SocketEvent ι → Option ConnectionState
  | .message (.authenticated organizationId) =>
    if listeners.Acknowledges organizationId then some .connected
    else some .forbidden
  | .message .heartbeat => some .connected
  | .message (.error code detail) =>
    serverErrorState (code.getD "websocket_error") detail
  | .sample _ => some .connected
  | _ => none

/-- No connection attempt fails in a subscription which was closed, and the
current socket asks for no other state after a terminal one. -/
def Undisturbed (options : WebSocketClientOptions) (sub : SocketSubscription ι) :
    SubscriptionAction ι → Prop
  | .setUp _ answer _ =>
    sub.closed = true → (connectionCredentials options answer).isOk = true
  | .socketEvent socket event =>
    sub.socket = some socket → ∀ listeners ∈ sub.sockets[socket]?, ∀ terminal ∈ sub.terminalState,
        ∀ state ∈ messageState listeners event, state = terminal
  | _ => True

instance (options : WebSocketClientOptions) (sub : SocketSubscription ι) :
    DecidablePred (Undisturbed options sub)
  | .setUp _ _ _ => inferInstanceAs (Decidable (_ → _))
  | .socketEvent _ _ => inferInstanceAs (Decidable (_ → _))
  | .expire _ | .close => .isTrue trivial

@[simp] theorem setState_lastState (sub : SocketSubscription ι)
    (state : ConnectionState) : (sub.setState state).lastState = some state := by
  unfold setState
  split
  next heq => exact heq
  next => rfl

@[simp] theorem setState_terminalState (sub : SocketSubscription ι) (state : ConnectionState) :
    (sub.setState state).terminalState = sub.terminalState := by
  unfold setState
  split <;> rfl

@[simp] theorem armHeartbeatTimeout_lastState (sub : SocketSubscription ι) (nextSocket : ℕ) :
    (sub.armHeartbeatTimeout options nextSocket).lastState = sub.lastState := by
  unfold armHeartbeatTimeout
  dsimp only
  split <;> rfl

@[simp] theorem armHeartbeatTimeout_terminalState (sub : SocketSubscription ι) (nextSocket : ℕ) :
    (sub.armHeartbeatTimeout options nextSocket).terminalState = sub.terminalState := by
  unfold armHeartbeatTimeout
  dsimp only
  split <;> rfl

theorem failTerminal_states (sub : SocketSubscription ι) (state : ConnectionState)
    (error : String) (nextSocket : Option ℕ) :
    (sub.failTerminal state error nextSocket).terminalState = some state ∧
      (sub.failTerminal state error nextSocket).lastState = some state := by
  unfold failTerminal
  dsimp only
  split
  next => split <;> simp [call, closeSocket]
  next => simp [call]

variable (options) in
theorem markConnected_states (sub : SocketSubscription ι)
    (hopen : sub.closed = false) (hsock : sub.socket = some nextSocket)
    (organizationId : Option String) (attempt : ℕ) :
    (sub.markConnected options nextSocket organizationId attempt).lastState = some .connected ∧
      (sub.markConnected options nextSocket organizationId attempt).terminalState =
        sub.terminalState := by
  unfold markConnected
  simp [hopen, hsock, call]

variable (options) in
theorem touch_states (sub : SocketSubscription ι)
    (hopen : sub.closed = false) (hsock : sub.socket = some nextSocket)
    (listeners : SocketListeners) :
    (sub.touch options nextSocket listeners).lastState = some .connected ∧
      (sub.touch options nextSocket listeners).terminalState = sub.terminalState := by
  unfold touch
  split
  next hconnected => simp [hconnected]
  next => exact markConnected_states options sub hopen hsock _ _

theorem scheduleReconnect_terminalState (sub : SocketSubscription ι) :
    (sub.scheduleReconnect options).terminalState = sub.terminalState := by
  unfold scheduleReconnect
  split
  next => rfl
  next => split <;> simp [call]

/-- How a listener changes the terminal and the reported state: not at all, or to
the state which was asked for. -/
inductive StateEffect (before after : SocketSubscription ι) :
    Option ConnectionState → Prop
  | unchanged (hterm : after.terminalState = before.terminalState)
      (hlast : after.lastState = before.lastState) : StateEffect before after none
  | reported {state : ConnectionState}
      (hterm : after.terminalState = before.terminalState)
      (hlast : after.lastState = some state) : StateEffect before after (some state)
  | failed {state : ConnectionState} (hterm : after.terminalState = some state)
      (hlast : after.lastState = some state) : StateEffect before after (some state)

theorem handleTyped_effect (sub : SocketSubscription ι)
    (hopen : sub.closed = false) (hsock : sub.socket = some nextSocket)
    (listeners : SocketListeners) (message : TypedMessage) :
    StateEffect sub (sub.handleTyped options nextSocket listeners message)
      (messageState listeners (SocketEvent.message message : SocketEvent ι)) := by
  have hfails (marked : SocketSubscription ι) (state : ConnectionState)
      (error : String) : StateEffect sub
        (marked.failTerminal state error (some nextSocket)) (some state) :=
    .failed (failTerminal_states _ _ _ _).1 (failTerminal_states _ _ _ _).2
  cases message with
  | unreadable => exact .unchanged rfl rfl
  | authenticated organizationId =>
    simp only [handleTyped, messageState]
    split
    next =>
      obtain ⟨hlast, hterm⟩ := markConnected_states options
        (sub.markMessage .authenticated) hopen hsock (some organizationId)
        listeners.attempt
      exact .reported hterm hlast
    next => exact hfails _ _ _
  | heartbeat =>
    obtain ⟨hlast, hterm⟩ := touch_states options (sub.markMessage .heartbeat) hopen hsock listeners
    exact .reported hterm hlast
  | error code detail =>
    simp only [handleTyped, messageState]
    cases serverErrorState (code.getD "websocket_error") detail with
    | none =>
      refine .unchanged ?_ ?_
      · simp [call, markMessage]
      · simp [call, markMessage]
    | some state => exact hfails _ _ _

theorem handleSampleMessage_effect [DecidableEq ι] (sub : SocketSubscription ι)
    (hopen : sub.closed = false)
    (hsock : sub.socket = some nextSocket) (listeners : SocketListeners) (event : LiveEvent ι) :
    StateEffect sub (sub.handleSampleMessage options nextSocket listeners event)
      (some .connected) := by
  obtain ⟨hlast, hterm⟩ := touch_states options (sub.markMessage .sample) hopen hsock listeners
  unfold handleSampleMessage handleSample
  split
  next => exact .reported hterm hlast
  next => exact .reported hterm hlast

variable (options) in
theorem handleOpen_effect (sub : SocketSubscription ι) (nextSocket : ℕ)
    {listeners : SocketListeners}
    (hcomp : options.authenticationRequired = true →
      listeners.credentials.any CredentialSnapshot.isComplete = true) :
    StateEffect sub (sub.handleOpen options nextSocket listeners) none := by
  unfold handleOpen
  dsimp only
  split
  next => exact .unchanged (by simp) (by simp)
  next hrequired =>
    rw [if_pos (hcomp (by simpa using hrequired))]
    exact .unchanged rfl rfl

/-- A terminal state stays, and is the state which was reported last. -/
structure KeepsTerminal (before after : SocketSubscription ι) : Prop where
  kept : ∀ state, before.terminalState = some state → after.terminalState = some state
  reported : ∀ state, after.terminalState = some state → after.lastState = some state

theorem StateEffect.keepsTerminal
    {asked : Option ConnectionState} (heff : StateEffect before after asked)
    (hreported : ∀ state, before.terminalState = some state →
      before.lastState = some state)
    (hasked : ∀ terminal, before.terminalState = some terminal →
      ∀ state, asked = some state → state = terminal) :
    KeepsTerminal before after := by
  cases heff with
  | unchanged hterm hlast =>
    rw [← hterm, ← hlast] at hreported
    exact ⟨fun state hstate => hterm.trans hstate, hreported⟩
  | reported hterm hlast =>
    refine ⟨fun state hstate => hterm.trans hstate, fun state hstate => ?_⟩
    rw [hterm] at hstate
    rw [hlast, hasked state hstate _ rfl]
  | failed hterm hlast =>
    refine ⟨fun state hstate => ?_, fun state hstate => ?_⟩
    · rw [hterm, hasked state hstate _ rfl]
    · rw [hlast, ← hstate, hterm]

theorem handleClose_keepsTerminal (sub : SocketSubscription ι)
    (hopen : sub.closed = false) (socket code : ℕ) (reason : String) :
    KeepsTerminal sub (sub.handleClose options socket code reason) := by
  unfold handleClose
  simp only [hopen, Bool.false_eq_true, if_false]
  split
  next terminal hterm =>
    constructor
    · intro state hstate
      simpa [call] using hstate
    · intro state hstate
      simp only [setState_terminalState, call, hterm] at hstate
      cases hstate
      simp
  next hterm =>
    split
    next failure hfailure =>
      constructor
      · intro state hstate
        rw [hterm] at hstate
        cases hstate
      · intro state hstate
        simp only [setState_terminalState, call] at hstate
        cases hstate
        simp [call]
    next =>
      constructor
      · intro state hstate
        rw [hterm] at hstate
        cases hstate
      · intro state hstate
        rw [scheduleReconnect_terminalState] at hstate
        exact absurd (hterm.symm.trans hstate) (by simp)

/-! ## Steps -/

/-- What the pending attempts, the terminal state and the end of a subscription
have in common with the state it reports. -/
structure StateInvariant (options : WebSocketClientOptions)
    (sub : SocketSubscription ι) : Prop where
  complete : options.authenticationRequired = true → ∀ listeners ∈ sub.sockets,
    listeners.credentials.any CredentialSnapshot.isComplete = true
  reported : ∀ state, sub.terminalState = some state → sub.lastState = some state
  awaiting : sub.attempts ≠ [] → sub.terminalState = none
  ended : sub.closed = true →
    sub.socket = none ∧ sub.terminalState = none ∧ sub.lastState = some .idle

/-- A part of a step which neither creates a socket nor begins an attempt. -/
structure KeepsAttempts (before after : SocketSubscription ι) : Prop where
  closed : after.closed = before.closed
  attempts : after.attempts = before.attempts
  sockets : after.sockets = before.sockets

theorem Keeps.keepsAttempts (hkeeps : Keeps before after) : KeepsAttempts before after :=
  ⟨hkeeps.closed, hkeeps.attempts, hkeeps.sockets⟩

theorem KeepsAttempts.trans
    (hfirst : KeepsAttempts first second) (hsecond : KeepsAttempts second third) :
    KeepsAttempts first third :=
  ⟨hsecond.closed.trans hfirst.closed, hsecond.attempts.trans hfirst.attempts,
    hsecond.sockets.trans hfirst.sockets⟩

variable (options) in
theorem scheduleReconnect_keepsAttempts (sub : SocketSubscription ι) :
    KeepsAttempts sub (sub.scheduleReconnect options) := by
  unfold scheduleReconnect
  split
  next => exact ⟨rfl, rfl, rfl⟩
  next =>
    split
    next => exact ((keeps_setState _ _).trans (keeps_call _ _)).keepsAttempts
    next =>
      have hstate := keeps_setState
        { sub with reconnectAttempt := sub.reconnectAttempt + 1 } .reconnecting
      exact ⟨hstate.closed, hstate.attempts, hstate.sockets⟩

theorem handleClose_keepsAttempts (sub : SocketSubscription ι) (socket code : ℕ) (reason : String) :
    KeepsAttempts sub (sub.handleClose options socket code reason) := by
  have hstate (left : SocketSubscription ι) (state : ConnectionState) :=
    (keeps_setState left state).keepsAttempts
  have hcall (left : SocketSubscription ι) (call : HandlerCall ι) :=
    (keeps_call left call).keepsAttempts
  have hleft (terminal : Option ConnectionState) : KeepsAttempts sub { sub with
      socket := none
      timers := sub.timers.clearAttempt
      endedSockets := sub.endedSockets ++ [socket]
      terminalState := terminal } := ⟨rfl, rfl, rfl⟩
  unfold handleClose
  dsimp only
  split
  next => exact (hleft sub.terminalState).trans (hstate _ _)
  next =>
    split
    next =>
      exact ((hleft sub.terminalState).trans (hcall _ _)).trans (hstate _ _)
    next =>
      split
      next state hclose =>
        exact (((hleft (some state)).trans (hstate _ _)).trans (hcall _ _)).trans (hcall _ _)
      next =>
        exact ((hleft sub.terminalState).trans (hcall _ _)).trans
          (scheduleReconnect_keepsAttempts options _)

variable (options) in
theorem handleEvent_keepsAttempts [DecidableEq ι] (sub : SocketSubscription ι)
    (socket : ℕ) (listeners : SocketListeners) (event : SocketEvent ι) :
    KeepsAttempts sub (sub.handleEvent options socket listeners event) := by
  rcases handleEvent_cases options sub socket listeners event with
    hkeeps | ⟨code, reason, hclose⟩
  · exact hkeeps.keepsAttempts
  · rw [hclose]
    exact handleClose_keepsAttempts sub socket code reason

theorem handleEvent_keepsTerminal [DecidableEq ι] {sub : SocketSubscription ι}
    (hinv : sub.StateInvariant options) (hopen : sub.closed = false) {socket : ℕ}
    (hsock : sub.socket = some socket) {listeners : SocketListeners}
    (hlisteners : listeners ∈ sub.sockets) (event : SocketEvent ι)
    (hasked : ∀ terminal, sub.terminalState = some terminal →
      ∀ state, messageState listeners event = some state → state = terminal) :
    KeepsTerminal sub (sub.handleEvent options socket listeners event) := by
  have hnever : ∀ terminal, sub.terminalState = some terminal →
      ∀ state, none = some state → state = terminal := by
    intro terminal _ state hstate
    cases hstate
  cases event with
  | opened =>
    simp only [handleEvent, hopen, Bool.false_eq_true, if_false]
    have heff := handleOpen_effect options sub socket
      fun hrequired => hinv.complete hrequired listeners hlisteners
    exact heff.keepsTerminal hinv.reported hnever
  | message message =>
    simp only [handleEvent, hopen, Bool.false_eq_true, if_false]
    exact (handleTyped_effect sub hopen hsock listeners message).keepsTerminal hinv.reported hasked
  | sample event =>
    simp only [handleEvent, hopen, Bool.false_eq_true, if_false]
    exact (handleSampleMessage_effect sub hopen hsock listeners
      event).keepsTerminal hinv.reported hasked
  | failed =>
    simp only [handleEvent, hopen, Bool.false_eq_true, if_false]
    have heff : StateEffect sub (sub.call (.onError "Telemetry WebSocket transport error")) none :=
      .unchanged rfl rfl
    exact heff.keepsTerminal hinv.reported hnever
  | closed code reason => exact handleClose_keepsTerminal sub hopen socket code reason

theorem connectionCredentials_complete {answer : CredentialAnswer}
    {credentials : Option CredentialSnapshot}
    (hok : connectionCredentials options answer = .ok credentials)
    (hrequired : options.authenticationRequired = true) :
    credentials.any CredentialSnapshot.isComplete = true := by
  unfold connectionCredentials at hok
  simp only [hrequired, Bool.true_eq_false, if_false] at hok
  split at hok
  next => cases hok
  next =>
    cases answer with
    | rejected message => cases hok
    | resolved snapshot =>
      simp only [credentialsError] at hok
      by_cases htoken : isFilled snapshot.accessToken = false
      · simp [htoken] at hok
      · by_cases horg : isFilled snapshot.organizationId = false
        · simp [htoken, horg] at hok
        · simp only [htoken, horg] at hok
          cases hok
          simp only [Bool.not_eq_false] at htoken horg
          simp [CredentialSnapshot.isComplete, htoken, horg]

variable (options) in
theorem setUp_effect (sub : SocketSubscription ι) (hopen : sub.closed = false)
    (hterm : sub.terminalState = none) (attempt : ℕ) (answer : CredentialAnswer)
    (creationError : Option String) :
    let after := sub.setUp options attempt answer creationError
    after.closed = false ∧ after.attempts = sub.attempts ∧ KeepsTerminal sub after ∧
      ∀ listeners ∈ after.sockets, listeners ∉ sub.sockets →
        connectionCredentials options answer = .ok listeners.credentials := by
  have hold {after : SocketSubscription ι} (hkeeps : KeepsAttempts sub after) :
      ∀ listeners ∈ after.sockets, listeners ∉ sub.sockets →
        connectionCredentials options answer = .ok listeners.credentials := by
    intro listeners hmem hnot
    rw [hkeeps.sockets] at hmem
    exact absurd hmem hnot
  have hnone {after : SocketSubscription ι} (hafter : after.terminalState = none) :
      KeepsTerminal sub after := by
    constructor
    · intro state hstate
      rw [hterm] at hstate
      cases hstate
    · intro state hstate
      rw [hafter] at hstate
      cases hstate
  unfold setUp
  dsimp only
  split
  next state message herror =>
    have hkeeps := (keeps_failTerminal sub state message none).keepsAttempts
    obtain ⟨hfailed, hlast⟩ := failTerminal_states sub state message none
    refine ⟨hkeeps.closed.trans hopen, hkeeps.attempts, ?_, hold hkeeps⟩
    constructor
    · intro other hother
      rw [hterm] at hother
      cases hother
    · intro other hother
      rw [hlast, ← hother, hfailed]
  next credentials hcreds =>
    simp only [hopen, hterm, Bool.false_eq_true, ne_eq, not_true_eq_false, or_self, if_false]
    cases creationError with
    | some message =>
      have hkeeps := (((keeps_call sub (.onDiagnostic (.connectStart attempt
        (credentials.bind (·.organizationId))))).trans
        (keeps_call _ (.onError message))).keepsAttempts).trans
        (scheduleReconnect_keepsAttempts options _)
      refine ⟨hkeeps.closed.trans hopen, hkeeps.attempts, hnone ?_, hold hkeeps⟩
      exact (scheduleReconnect_terminalState _).trans hterm
    | none =>
      dsimp only
      have hadopted : ∀ (timers : TimerTable) (closeCalls : List (ℕ × ℕ)),
          let after : SocketSubscription ι :=
            { sub.call (.onDiagnostic (.connectStart attempt
                (credentials.bind (·.organizationId)))) with
              socket := some sub.sockets.length
              sockets := sub.sockets ++ [⟨attempt, credentials⟩]
              timers
              closeCalls }
          after.closed = false ∧ after.attempts = sub.attempts ∧ KeepsTerminal sub after ∧
            ∀ listeners ∈ after.sockets, listeners ∉ sub.sockets →
              connectionCredentials options answer = .ok listeners.credentials := by
        intro timers closeCalls
        refine ⟨hopen, rfl, hnone hterm, ?_⟩
        intro listeners hmem hnot
        rcases List.mem_append.mp hmem with hin | hnew
        · exact absurd hin hnot
        · rw [List.mem_singleton.mp hnew]
          exact hcreds
      unfold adoptSocket
      dsimp only
      split
      next =>
        split
        next => exact hadopted _ _
        next => exact hadopted _ _
      next =>
        split
        next => exact hadopted _ _
        next => exact hadopted _ _

theorem close_ended {sub : SocketSubscription ι} (hopen : sub.closed = false) :
    sub.close.closed = true ∧ sub.close.socket = none ∧
      sub.close.terminalState = none ∧ sub.close.lastState = some .idle ∧
      sub.close.sockets = sub.sockets := by
  unfold close
  simp only [hopen, Bool.false_eq_true, if_false, setState_lastState,
    setState_terminalState, true_and]
  split
  next =>
    have hkeeps (left : SocketSubscription ι) := keeps_setState left .idle
    exact ⟨(hkeeps _).closed, (hkeeps _).socket, rfl, (hkeeps _).sockets⟩
  next =>
    have hkeeps (left : SocketSubscription ι) := keeps_setState left .idle
    exact ⟨(hkeeps _).closed, (hkeeps _).socket, rfl, (hkeeps _).sockets⟩

theorem connect_effect (sub : SocketSubscription ι) (hopen : sub.closed = false)
    (hreported : ∀ state, sub.terminalState = some state → sub.lastState = some state) :
    sub.connect.closed = false ∧ sub.connect.sockets = sub.sockets ∧ KeepsTerminal sub sub.connect ∧
      (sub.connect.attempts ≠ sub.attempts → sub.connect.terminalState = none) ∧
      sub.connect.terminalState = sub.terminalState := by
  unfold connect
  split
  next =>
    exact ⟨hopen, rfl, ⟨fun _ h => h, hreported⟩, fun hne => absurd rfl hne, rfl⟩
  next hrun =>
    push Not at hrun
    have hkeeps := keeps_setState { sub with
        timers := sub.timers.clearReconnect.clearAttempt
        attempts := sub.attempts ++ [sub.reconnectAttempt] }
      (if sub.reconnectAttempt = 0 then .connecting else .reconnecting)
    refine ⟨hkeeps.closed.trans hopen, hkeeps.sockets, ⟨?_, ?_⟩, fun _ => ?_,
      setState_terminalState _ _⟩
    · intro state hstate
      rw [hrun.2] at hstate
      cases hstate
    · intro state hstate
      rw [setState_terminalState] at hstate
      exact absurd (hrun.2.symm.trans hstate) (by simp)
    · rw [setState_terminalState]
      exact hrun.2

variable (options) in
theorem handleExpiry_effect {sub : SocketSubscription ι} (hopen : sub.closed = false)
    (hreported : ∀ state, sub.terminalState = some state →
      sub.lastState = some state) (timer : SocketTimer) :
    let after := sub.handleExpiry options timer
    after.closed = false ∧ after.sockets = sub.sockets ∧ KeepsTerminal sub after ∧
      (after.attempts ≠ sub.attempts → after.terminalState = none) ∧
      (sub.socket = none → after.terminalState = sub.terminalState) := by
  have hsame : KeepsTerminal sub { sub with timers := sub.timers.expire timer } :=
    ⟨fun _ h => h, hreported⟩
  have hstays {after : SocketSubscription ι} (hkeeps : KeepsAttempts sub after)
      (hterm : KeepsTerminal sub after)
      (hsock : sub.socket = none → after.terminalState = sub.terminalState) :
      after.closed = false ∧ after.sockets = sub.sockets ∧ KeepsTerminal sub after ∧
        (after.attempts ≠ sub.attempts → after.terminalState = none) ∧
        (sub.socket = none → after.terminalState = sub.terminalState) :=
    ⟨hkeeps.closed.trans hopen, hkeeps.sockets, hterm, fun hne => absurd hkeeps.attempts hne, hsock⟩
  have hnone {after : SocketSubscription ι} (hbefore : sub.terminalState = none)
      (hafter : after.terminalState = none) : KeepsTerminal sub after := by
    constructor
    · intro state hstate
      rw [hbefore] at hstate
      cases hstate
    · intro state hstate
      rw [hafter] at hstate
      cases hstate
  dsimp only
  unfold handleExpiry
  dsimp only
  split
  next =>
    obtain ⟨hclosed, hsockets, hterm, hatts, hstate⟩ := connect_effect
      { sub with timers := sub.timers.expire timer } hopen hreported
    exact ⟨hclosed, hsockets, ⟨hterm.kept, hterm.reported⟩, hatts, fun _ => hstate⟩
  next nextSocket hcallback =>
    split
    next hact =>
      exact hstays ⟨rfl, rfl, rfl⟩ (hnone hact.2.1 hact.2.1) fun _ => rfl
    next => exact hstays ⟨rfl, rfl, rfl⟩ hsame fun _ => rfl
  next nextSocket hcallback =>
    split
    next hact =>
      obtain ⟨hfailed, hlast⟩ := failTerminal_states
        { sub with timers := sub.timers.expire timer } .unauthorized
        "Telemetry WebSocket authentication acknowledgement timed out"
        (some nextSocket)
      have hkeeps := (keeps_failTerminal
        { sub with timers := sub.timers.expire timer } .unauthorized
        "Telemetry WebSocket authentication acknowledgement timed out"
        (some nextSocket)).keepsAttempts
      refine hstays ⟨hkeeps.closed, hkeeps.attempts, hkeeps.sockets⟩ ⟨?_, ?_⟩ ?_
      · intro state hstate
        exact absurd (hact.2.1.symm.trans hstate) (by simp)
      · intro state hstate
        rw [hlast, ← hstate, hfailed]
      · intro hsock
        exact absurd (hact.2.2.symm.trans hsock) (by simp)
    next => exact hstays ⟨rfl, rfl, rfl⟩ hsame fun _ => rfl
  next nextSocket hcallback =>
    split
    next hact =>
      have hkeeps := ((keeps_setState
        ({ sub with timers := sub.timers.expire timer }.call (.onDiagnostic
          (.heartbeatTimeout options.heartbeatTimeoutMs))) .reconnecting).trans
        (keeps_closeSocket _ nextSocket 4000)).keepsAttempts
      have hterm := setState_terminalState
        ({ sub with timers := sub.timers.expire timer }.call (.onDiagnostic
          (.heartbeatTimeout options.heartbeatTimeoutMs))) .reconnecting
      exact hstays ⟨hkeeps.closed, hkeeps.attempts, hkeeps.sockets⟩
        (hnone hact.2.1 (hterm.trans hact.2.1)) fun _ => hterm
    next => exact hstays ⟨rfl, rfl, rfl⟩ hsame fun _ => rfl

theorem step_closed [DecidableEq ι] {sub after : SocketSubscription ι}
    (hinv : sub.StateInvariant options) (hclosed : sub.closed = true)
    (hguard : Undisturbed options sub action) (hstep : sub.step options action = some after) :
    after.StateInvariant options ∧ after.closed = true ∧ after.calls = sub.calls := by
  obtain ⟨hsock, hterm, hlast⟩ := hinv.ended hclosed
  have hsame (timers : TimerTable) (attempts : List ℕ) :
      StateInvariant options { sub with timers, attempts } :=
    ⟨hinv.complete, hinv.reported, fun _ => hterm, hinv.ended⟩
  have hinact (timers : TimerTable) (socket : ℕ) :
      ¬ IsActive { sub with timers } socket := by
    rintro ⟨hopen, _⟩
    exact absurd (hclosed.symm.trans hopen) (by simp)
  cases action with
  | setUp index answer creationError =>
    obtain ⟨attempt, _, hstep⟩ := Option.bind_eq_some_iff.mp hstep
    cases hstep
    obtain ⟨credentials, hcreds⟩ : ∃ credentials,
        connectionCredentials options answer = .ok credentials := by
      have hok := hguard hclosed
      cases hanswer : connectionCredentials options answer with
      | error issue =>
        rw [hanswer] at hok
        cases hok
      | ok credentials => exact ⟨credentials, rfl⟩
    have hreturned : ({ sub with attempts := sub.attempts.eraseIdx index }.setUp
        options attempt answer creationError) =
        { sub with attempts := sub.attempts.eraseIdx index } := by
      unfold setUp
      rw [hcreds]
      exact if_pos (.inl hclosed)
    rw [hreturned]
    exact ⟨hsame sub.timers _, hclosed, rfl⟩
  | socketEvent socket event =>
    obtain ⟨listeners, _, hstep⟩ := Option.bind_eq_some_iff.mp hstep
    cases hstep
    rw [if_neg (by simp [hsock])]
    exact ⟨hinv, hclosed, rfl⟩
  | expire timer =>
    simp only [step] at hstep
    split at hstep
    next =>
      cases hstep
      unfold handleExpiry
      dsimp only
      split
      next =>
        have hreturned : connect { sub with timers := sub.timers.expire timer } =
            { sub with timers := sub.timers.expire timer } :=
          if_pos (.inl hclosed)
        rw [hreturned]
        exact ⟨hsame _ _, hclosed, rfl⟩
      next =>
        rw [if_neg (hinact _ _)]
        exact ⟨hsame _ _, hclosed, rfl⟩
      next =>
        rw [if_neg (hinact _ _)]
        exact ⟨hsame _ _, hclosed, rfl⟩
      next =>
        rw [if_neg (hinact _ _)]
        exact ⟨hsame _ _, hclosed, rfl⟩
    next => cases hstep
  | close =>
    cases hstep
    simp only [close, hclosed, if_true]
    exact ⟨hinv, trivial, trivial⟩

theorem step_open [DecidableEq ι] {sub after : SocketSubscription ι}
    (hatt : sub.AttemptInvariant) (hinv : sub.StateInvariant options) (hopen : sub.closed = false)
    (hguard : Undisturbed options sub action) (hstep : sub.step options action = some after) :
    after.StateInvariant options ∧ (after.closed = false → KeepsTerminal sub after) := by
  have hstill {next : SocketSubscription ι} (hclosed : next.closed = false)
      (hcomp : options.authenticationRequired = true → ∀ listeners ∈ next.sockets,
          listeners.credentials.any CredentialSnapshot.isComplete = true)
      (hkeeps : KeepsTerminal sub next)
      (hawaiting : next.attempts ≠ [] → next.terminalState = none) :
      next.StateInvariant options ∧ (next.closed = false → KeepsTerminal sub next) := by
    refine ⟨⟨hcomp, hkeeps.reported, hawaiting, ?_⟩, fun _ => hkeeps⟩
    intro hended
    rw [hclosed] at hended
    cases hended
  cases action with
  | setUp index answer creationError =>
    obtain ⟨attempt, hatts, hstep⟩ := Option.bind_eq_some_iff.mp hstep
    cases hstep
    obtain ⟨hne, hempty⟩ := hatt.setUp_last hatts
    obtain ⟨hclosed, hsame, hkeeps, hcreated⟩ := setUp_effect options
      { sub with attempts := sub.attempts.eraseIdx index } hopen
      (hinv.awaiting hne) attempt answer creationError
    refine hstill hclosed ?_ ⟨hkeeps.kept, hkeeps.reported⟩ ?_
    · intro hrequired listeners hmem
      by_cases hold : listeners ∈ sub.sockets
      · exact hinv.complete hrequired listeners hold
      · exact connectionCredentials_complete (hcreated listeners hmem hold) hrequired
    · exact fun hpend => absurd (hsame.trans hempty) hpend
  | socketEvent socket event =>
    obtain ⟨listeners, hlisteners, hstep⟩ := Option.bind_eq_some_iff.mp hstep
    cases hstep
    split
    next hsock =>
      have hsame := handleEvent_keepsAttempts options sub socket listeners event
      refine hstill (hsame.closed.trans hopen) ?_ ?_ ?_
      · rw [hsame.sockets]
        exact hinv.complete
      · exact handleEvent_keepsTerminal hinv hopen hsock (List.mem_of_getElem? hlisteners) event
          (hguard hsock listeners hlisteners)
      · rw [hsame.attempts, hatt.attempts_of_socket hsock]
        exact fun hne => absurd rfl hne
    next => exact ⟨hinv, fun _ => ⟨fun _ h => h, hinv.reported⟩⟩
  | expire timer =>
    simp only [step] at hstep
    split at hstep
    next =>
      cases hstep
      obtain ⟨hclosed, hsockets, hkeeps, hatts, hstate⟩ := handleExpiry_effect
        options hopen hinv.reported timer
      refine hstill hclosed ?_ hkeeps ?_
      · rw [hsockets]
        exact hinv.complete
      · intro hpend
        by_cases hsame : (sub.handleExpiry options timer).attempts = sub.attempts
        · rw [hsame] at hpend
          exact (hstate (hatt.awaiting hpend).1).trans (hinv.awaiting hpend)
        · exact hatts hsame
    next => cases hstep
  | close =>
    cases hstep
    obtain ⟨hclosed, hsock, hterm, hlast, hsockets⟩ := close_ended hopen
    constructor
    · refine ⟨?_, ?_, fun _ => hterm, fun _ => ⟨hsock, hterm, hlast⟩⟩
      · rw [hsockets]
        exact hinv.complete
      · intro state hstate
        rw [hterm] at hstate
        cases hstate
    · intro hrun
      rw [hclosed] at hrun
      cases hrun

theorem subscribe_stateInvariant :
    (subscribe : SocketSubscription ι).StateInvariant options := by
  refine ⟨?_, ?_, fun _ => rfl, ?_⟩
  · intro _ listeners hmem
    cases hmem
  · intro state hstate
    cases hstate
  · intro hclosed
    cases hclosed

structure RunLaws (options : WebSocketClientOptions) (before after :
    SocketSubscription ι) : Prop where
  /-- No handler is called after `close`. -/
  silent : before.closed = true → after.calls = before.calls
  /-- A terminal state is left only by `close`. -/
  terminal : ∀ state, before.terminalState = some state → after.closed = false →
    after.terminalState = some state ∧ after.lastState = some state
  /-- A socket which is not the current one has ended or was closed. -/
  single : ∀ socket < after.sockets.length, after.socket ≠ some socket →
    socket ∈ after.endedSockets ∨ ∃ code, (socket, code) ∈ after.closeCalls
  pending : after.timers.reconnects.length + after.attempts.length ≤ 1

variable [DecidableEq ι]

/-- Both invariants, and what they keep of a state of the run -/
structure Follows (options : WebSocketClientOptions) (before sub :
    SocketSubscription ι) : Prop where
  attempt : sub.AttemptInvariant
  state : sub.StateInvariant options
  closed : before.closed = true → sub.closed = true ∧ sub.calls = before.calls
  terminal : ∀ state, before.terminalState = some state → sub.closed = false →
    sub.terminalState = some state

theorem Follows.step {before sub after : SocketSubscription ι} (h : Follows options before sub)
    (hguard : Undisturbed options sub action)
    (hstep : sub.step options action = some after) : Follows options before after := by
  have hatt := h.attempt.step hstep
  cases hclosed : sub.closed with
  | false =>
    obtain ⟨hstate, hterm⟩ := step_open h.attempt h.state hclosed hguard hstep
    refine ⟨hatt, hstate, ?_, ?_⟩
    · intro hbefore
      rw [(h.closed hbefore).1] at hclosed
      cases hclosed
    · intro state hbefore hrun
      exact (hterm hrun).kept state (h.terminal state hbefore hclosed)
  | true =>
    obtain ⟨hstate, hstill, hcalls⟩ := step_closed h.state hclosed hguard hstep
    refine ⟨hatt, hstate, ?_, ?_⟩
    · intro hbefore
      exact ⟨hstill, hcalls.trans (h.closed hbefore).2⟩
    · intro state _ hrun
      rw [hstill] at hrun
      cases hrun

omit [DecidableEq ι] in
theorem Follows.laws {before sub : SocketSubscription ι}
    (h : Follows options before sub) : RunLaws options before sub where
  silent := fun hclosed => (h.closed hclosed).2
  terminal := fun state hstate hrun =>
    have hterm := h.terminal state hstate hrun
    ⟨hterm, h.state.reported state hterm⟩
  single := h.attempt.left
  pending := h.attempt.pending_le

/-- Once a subscription is closed it calls no handler, a terminal state is left
only by `close`, the other sockets have been left and have no effect, and at most
one reconnect is pending, in every run in which no connection attempt fails after
the end and a socket asks for no other state after a terminal one. -/
theorem run_obeysLaws {done rest : List (SubscriptionAction ι)}
    {middle last : SocketSubscription ι}
    (hmeet : StepsMeet (step options) (Undisturbed options) subscribe (done ++ rest))
    (hdone : runFrom (step options) subscribe done = some middle)
    (hrest : runFrom (step options) middle rest = some last) :
    RunLaws options middle last ∧
      ∀ socket event, last.socket ≠ some socket → socket < last.sockets.length →
        last.step options (.socketEvent socket event) = some last := by
  obtain ⟨hfirst, hsecond⟩ := hmeet.split
  have hbegun : Follows options (subscribe : SocketSubscription ι) subscribe :=
    ⟨.subscribe, subscribe_stateInvariant, fun hclosed => (by cases hclosed),
      fun _ hstate _ => hstate⟩
  have hmiddle : Follows options subscribe middle :=
    (Reaches.of_stepsMeet hfirst hdone).invariant
      (fun _ _ _ h hguard hstep => h.step hguard hstep) hbegun
  have hself : Follows options middle middle :=
    ⟨hmiddle.attempt, hmiddle.state, fun hclosed => ⟨hclosed, rfl⟩,
      fun _ hstate _ => hstate⟩
  have hlast : Follows options middle last :=
    (Reaches.of_stepsMeet (hsecond middle hdone) hrest).invariant
      (fun _ _ _ h hguard hstep => h.step hguard hstep) hself
  refine ⟨hlast.laws, ?_⟩
  intro socket event hother hlt
  simp only [SocketSubscription.step, List.getElem?_eq_getElem hlt,
    Option.bind_eq_bind, Option.bind_some, if_neg hother, Option.pure_def]

/-! ### A rejection after the end -/

def requiringOptions : WebSocketClientOptions where
  credentialProvider := true
  authenticationRequired := true
  reconnectDelaysMs := [500, 1000]
  connectionTimeoutMs := 15000
  heartbeatTimeoutMs := 45000
  maxSeenEventIds := 10000

def operatorCredentials : CredentialAnswer := .resolved ⟨some "token", some "plant"⟩

def refusedRun : List (SubscriptionAction ℕ) :=
  [.setUp 0 operatorCredentials none, .socketEvent 0 .opened,
    .socketEvent 0 (.message (.authenticated "plant")),
    .socketEvent 0 (.closed 1006 ""),
    .expire ⟨3, .reconnect⟩, .setUp 0 operatorCredentials none,
    .socketEvent 1 (.message (.error (some "session_expired") "sign in again"))]

def closingRun : List (SubscriptionAction ℕ) :=
  [.socketEvent 0 (.message .heartbeat), .socketEvent 1 (.closed 4001 "sign in again"),
    .close]

theorem run_obeysLaws_refusedAndClosed :
    ∃ middle last : SocketSubscription ℕ,
      runFrom (step requiringOptions) subscribe refusedRun = some middle ∧
      runFrom (step requiringOptions) middle closingRun = some last ∧
      middle.terminalState = some .unauthorized ∧ last.closed = true ∧
      RunLaws requiringOptions middle last ∧
      last.step requiringOptions (.socketEvent 1 .failed) = some last := by
  obtain ⟨middle, hmiddle, hterm⟩ : ∃ middle : SocketSubscription ℕ,
      runFrom (step requiringOptions) subscribe refusedRun = some middle ∧
      middle.terminalState = some .unauthorized := ⟨_, rfl, by decide +kernel⟩
  obtain ⟨last, hlast, hclosed, hsock, hcreated⟩ :
      ∃ last : SocketSubscription ℕ,
        runFrom (step requiringOptions) middle closingRun = some last ∧
        last.closed = true ∧ last.socket = none ∧ last.sockets.length = 2 := by
    cases hmiddle
    exact ⟨_, rfl, by decide +kernel, by decide +kernel, by decide +kernel⟩
  have hmeet : StepsMeet (step requiringOptions) (Undisturbed requiringOptions)
      (subscribe : SocketSubscription ℕ) (refusedRun ++ closingRun) := by
    decide +kernel
  obtain ⟨hlaws, hsuperseded⟩ := run_obeysLaws hmeet hmiddle hlast
  exact ⟨middle, last, hmiddle, hlast, hterm, hclosed, hlaws,
    hsuperseded 1 .failed (by simp [hsock]) (by simp [hcreated])⟩

theorem rejectedAfterClose_reports :
    ∃ middle last : SocketSubscription ℕ,
      runFrom (step requiringOptions) subscribe [.close] = some middle ∧
      runFrom (step requiringOptions) middle
        [.setUp 0 (.rejected "the session has expired") none] = some last ∧
      ¬ RunLaws requiringOptions middle last := by
  refine ⟨_, _, rfl, rfl, fun hlaws => ?_⟩
  have hcalls := congrArg List.length (hlaws.silent rfl)
  exact absurd hcalls (by decide +kernel)

end SocketSubscription

end Nexolab
