import Nexolab.LiveSteps

/-!
# Outages of a live subscription

A client which has lost its connection makes it again or goes offline.  It is lost for
good when the endpoint closes for a resume result which is too long, and when an event
has a `type` which reads as an error or as an acknowledgement.
-/

namespace Nexolab

section Outages

variable {ι : Type} (settings : LiveSettings)

def LiveFrame.harmless : LiveFrame ι → Bool
  | .typed (.authenticated organizationId) =>
    (LiveClient.expectedOrganization settings).all fun expected =>
      expected = "" || organizationId = expected
  | .typed (.error code detail) =>
    (serverErrorState (code.getD "websocket_error") detail).isNone
  | .close code reason => (closeState code reason).isNone
  | _ => true

def LiveEvent.harmless (event : LiveEvent ι) : Bool :=
  !settings.filters.matches event.toHistorySample || event.frame.harmless settings

/-- The filters are valid, and the organization of the credentials is trimmed. -/
structure LiveSettings.Subscribable : Prop where
  filters : settings.FiltersValid
  organization : stripText settings.organizationId = settings.organizationId

structure LiveSession.Online (session : LiveSession ι) : Prop where
  replay : ∀ event ∈ session.replay, event.frame.harmless settings = true
  queue : ∀ event, .event event ∈ session.queue → event.frame.harmless settings = true

def EndpointPhase.Online : EndpointPhase ι → Prop
  | .registered session => session.Online settings
  | .refusing _ => False
  | _ => True

structure LiveLink.Online (link : LiveLink ι) : Prop where
  frames : ∀ frame ∈ link.frames, frame.harmless settings = true
  endpoint : link.endpoint.Online settings

/-- The client is connected, on the way to it, or has reported that it is offline. -/
def LiveClient.Online (client : LiveClient ι) : Prop :=
  match client.phase with
  | .connecting => client.lastState = .connecting ∨ client.lastState = .reconnecting
  | .socket link => (client.lastState = .connecting ∨ client.lastState = .reconnecting ∨
      client.lastState = .connected) ∧ link.Online settings
  | .waiting => client.lastState = .reconnecting
  | .offline => client.lastState = .offline
  | .terminal _ => False

structure LiveSystem.Online (system : LiveSystem ι) : Prop where
  events : ∀ event ∈ system.rows, event.harmless settings = true
  pending : ∀ event ∈ system.pending, event ∈ system.rows
  client : system.client.Online settings

variable {settings}

theorem LiveClient.Online.terminalState {client : LiveClient ι}
    (honline : client.Online settings) : client.terminalState = none := by
  unfold LiveClient.Online at honline
  unfold LiveClient.terminalState
  cases hphase : client.phase with
  | terminal state =>
    rw [hphase] at honline
    exact honline.elim
  | _ => rfl

theorem LiveEvent.harmless_frame {event : LiveEvent ι} (hharmless : event.harmless settings = true)
    (hmatches : settings.filters.matches event.toHistorySample = true) :
    event.frame.harmless settings = true := by
  unfold LiveEvent.harmless at hharmless
  simpa [hmatches] using hharmless

theorem LiveSession.Online.publish {session : LiveSession ι}
    (hsess : session.Online settings) {event : LiveEvent ι}
    (hevent : event.harmless settings = true) :
    (session.publish settings event).Online settings := by
  unfold LiveSession.publish
  split_ifs with hclosed hmatches hroom
  · exact hsess
  · refine ⟨hsess.replay, fun found hfound => ?_⟩
    rcases List.mem_append.mp hfound with hold | hnew
    · exact hsess.queue found hold
    · cases List.mem_singleton.mp hnew
      exact LiveEvent.harmless_frame hevent hmatches
  · exact ⟨hsess.replay, by simp⟩
  · exact hsess

theorem LiveSession.Online.stop {session : LiveSession ι}
    (hsess : session.Online settings) : session.stop.Online settings := by
  unfold LiveSession.stop
  split_ifs
  · exact hsess
  · exact ⟨hsess.replay, by simp⟩

theorem authenticate_accepted_online (hsettings : settings.Subscribable) :
    (∀ frame ∈ (authenticate (ι := ι) settings .accepted).1, frame.harmless settings = true) ∧
      (authenticate (ι := ι) settings .accepted).2.Online settings := by
  refine ⟨?_, trivial⟩
  intro frame hframe
  cases List.mem_singleton.mp hframe
  unfold LiveFrame.harmless LiveClient.expectedOrganization
  rw [hsettings.organization]
  split_ifs
  · simp
  · rfl

variable [LinearOrder ι]

theorem LiveSession.Online.sendNext {session : LiveSession ι}
    (hsess : session.Online settings) {frames : List (LiveFrame ι)}
    {endpoint : EndpointPhase ι} (hsent : session.sendNext = some (frames, endpoint)) :
    (∀ frame ∈ frames, frame.harmless settings = true) ∧ endpoint.Online settings := by
  unfold LiveSession.sendNext at hsent
  split at hsent
  next event rest hreplay =>
    cases hsent
    have hmem : ∀ found ∈ event :: rest, found.frame.harmless settings = true :=
      hreplay ▸ hsess.replay
    refine ⟨?_, fun found hfound => hmem found (List.mem_cons_of_mem _ hfound), hsess.queue⟩
    intro frame hframe
    cases List.mem_singleton.mp hframe
    exact hmem event List.mem_cons_self
  next event rest _ hqueue =>
    have hrest : ∀ found, LiveItem.event found ∈ rest →
        found.frame.harmless settings = true := fun found hfound =>
      hsess.queue found (hqueue ▸ List.mem_cons_of_mem _ hfound)
    split_ifs at hsent
    · cases hsent
      exact ⟨by simp, hsess.replay, hrest⟩
    · cases hsent
      refine ⟨?_, hsess.replay, hrest⟩
      intro frame hframe
      cases List.mem_singleton.mp hframe
      exact hsess.queue event (hqueue ▸ List.mem_cons_self)
  next =>
    cases hsent
    exact ⟨by simp [LiveFrame.harmless, closeState], trivial⟩
  next =>
    cases hsent
    exact ⟨by simp [LiveFrame.harmless, closeState], trivial⟩
  next => cases hsent

theorem openSession_online (hsettings : settings.Subscribable) {rows : List (LiveEvent ι)}
    (hrows : ∀ event ∈ rows, event.harmless settings = true) {after : Option Instant}
    (hresumable : settings.resumable rows after = true) :
    (∀ frame ∈ (openSession settings rows after).1, frame.harmless settings = true) ∧
      (openSession settings rows after).2.Online settings := by
  rw [openSession_of_valid hsettings.filters, registerClient_of_resumable hresumable]
  refine ⟨by simp, ?_, by simp⟩
  intro event hevent
  cases after with
  | none => cases hevent
  | some after =>
    obtain ⟨hmem, hmatches, _⟩ := mem_resumeRows (List.mem_reverse.mp hevent)
    exact LiveEvent.harmless_frame (hrows event hmem) hmatches

namespace LiveSystem

variable {system next : LiveSystem ι} {action : LiveAction ι}

omit [LinearOrder ι] in
theorem connect_online (client : LiveClient ι) : client.connect.Online settings := by
  unfold LiveClient.connect LiveClient.Online
  dsimp only
  split_ifs
  · exact .inl rfl
  · exact .inr rfl

omit [LinearOrder ι] in
theorem scheduleReconnect_online (client : LiveClient ι) :
    (client.scheduleReconnect settings).Online settings := by
  unfold LiveClient.scheduleReconnect
  split_ifs
  · exact rfl
  · exact rfl

omit [LinearOrder ι] in
theorem socketClosed_online (client : LiveClient ι) {code : ℕ} {reason : String}
    (hclose : closeState code reason = none) :
    (client.socketClosed settings code reason).Online settings := by
  unfold LiveClient.socketClosed
  rw [hclose]
  exact scheduleReconnect_online client

omit [LinearOrder ι] in
theorem touch_online {client : LiveClient ι} {link : LiveLink ι}
    (hlink : link.Online settings) : (client.touch link).Online settings := by
  unfold LiveClient.touch
  split_ifs with hconnected
  · exact ⟨.inr (.inr hconnected), hlink⟩
  · exact ⟨.inr (.inr rfl), hlink.frames, hlink.endpoint⟩

theorem handleSample_online {client : LiveClient ι} (hclient : client.Online settings)
    (event : LiveEvent ι) : (client.handleSample settings event).Online settings := by
  unfold LiveClient.handleSample
  split_ifs
  · exact hclient
  · exact hclient

theorem receive_online {client : LiveClient ι} {link : LiveLink ι}
    {frame : LiveFrame ι} (hlink : link.Online settings)
    (hstate : client.lastState = .connecting ∨ client.lastState = .reconnecting ∨
      client.lastState = .connected) (hframe : frame.harmless settings = true) :
    (client.receive settings link frame).Online settings := by
  cases frame with
  | typed message =>
    cases message with
    | authenticated organizationId =>
      dsimp only [LiveClient.receive]
      rw [if_pos]
      · exact ⟨.inr (.inr rfl), hlink.frames, hlink.endpoint⟩
      · intro expected hexpected
        dsimp only [LiveFrame.harmless] at hframe
        rw [hexpected] at hframe
        simpa using hframe
    | heartbeat => exact touch_online hlink
    | error code detail =>
      dsimp only [LiveFrame.harmless] at hframe
      dsimp only [LiveClient.receive]
      rw [Option.isNone_iff_eq_none.mp hframe]
      exact ⟨hstate, hlink⟩
    | unreadable => exact ⟨hstate, hlink⟩
  | sample event => exact handleSample_online (touch_online hlink) event
  | close code reason =>
    unfold LiveFrame.harmless at hframe
    exact socketClosed_online client (Option.isNone_iff_eq_none.mp hframe)

/-! ## Runs -/

/-- The endpoint accepts in time, no event reads as an error, and the resume results are
within the limit. -/
def staysOnline (settings : LiveSettings) (system : LiveSystem ι) :
    LiveAction ι → Bool
  | .commit event => event.harmless settings
  | .authenticate answer => answer = .accepted
  | .authenticationTimeout => false
  | .register =>
    match system.client.phase with
    | .socket link => settings.resumable system.rows link.after
    | _ => true
  | _ => true

theorem EndpointEffect.online (hsettings : settings.Subscribable)
    (honline : system.Online settings) {link : LiveLink ι}
    (hsock : system.client.phase = .socket link)
    (hguard : system.staysOnline settings action = true)
    {frames : List (LiveFrame ι)} {endpoint : EndpointPhase ι}
    (heff : EndpointEffect settings system.rows link action frames endpoint) :
    (∀ frame ∈ frames, frame.harmless settings = true) ∧ endpoint.Online settings := by
  have hend : link.endpoint.Online settings := by
    have hclient := honline.client
    unfold LiveClient.Online at hclient
    rw [hsock] at hclient
    exact hclient.2.endpoint
  cases heff with
  | admits => exact ⟨by simp, trivial⟩
  | answers =>
    cases of_decide_eq_true hguard
    exact authenticate_accepted_online hsettings
  | opens _ =>
    unfold staysOnline at hguard
    rw [hsock] at hguard
    exact openSession_online hsettings honline.events hguard
  | sends hreg hsent =>
    rw [hreg] at hend
    exact LiveSession.Online.sendNext hend hsent
  | beats hreg => exact ⟨by simp [LiveFrame.harmless], hend⟩
  | refuses hrefusing =>
    rw [hrefusing] at hend
    exact hend.elim
  | timesOut hreg hnext =>
    refine ⟨?_, trivial⟩
    intro frame hframe
    rcases List.mem_append.mp hframe with hsent | hclose
    · rcases hnext with rfl | rfl | ⟨after, hafter⟩
      · cases hsent
      · cases List.mem_singleton.mp hsent
        rfl
      · rw [hreg] at hend
        exact (LiveSession.Online.sendNext hend hafter).1 frame hsent
    · cases List.mem_singleton.mp hclose
      rfl
  | refusalTimesOut hrefusing =>
    rw [hrefusing] at hend
    exact hend.elim
  | fails => exact ⟨by simp [LiveFrame.harmless, closeState], trivial⟩

omit [LinearOrder ι] in
theorem Online.link (honline : system.Online settings) {link : LiveLink ι}
    (hsock : system.client.phase = .socket link) :
    (system.client.lastState = .connecting ∨ system.client.lastState = .reconnecting ∨
      system.client.lastState = .connected) ∧ link.Online settings := by
  have hclient := honline.client
  unfold LiveClient.Online at hclient
  rw [hsock] at hclient
  exact hclient

omit [LinearOrder ι] in
theorem publishTo_online (honline : system.Online settings) {event : LiveEvent ι}
    (hevent : event.harmless settings = true) :
    (system.publishTo settings event).client.Online settings := by
  unfold publishTo
  split
  next link hsock =>
    obtain ⟨hstate, hlink⟩ := honline.link hsock
    have hend := hlink.endpoint
    split
    next session hreg =>
      rw [hreg] at hend
      refine ⟨hstate, ?_, LiveSession.Online.publish hend hevent⟩
      intro frame hframe
      exact hlink.frames frame (by simpa using hframe)
    next session hrefusing =>
      rw [hrefusing] at hend
      exact hend.elim
    next => exact honline.client
  next => exact honline.client

omit [LinearOrder ι] in
theorem restart_online {endpoint : EndpointPhase ι} (honline : endpoint.Online settings) :
    (restart endpoint).Online settings := by
  cases endpoint with
  | registered session => exact LiveSession.Online.stop honline
  | refusing session => exact honline.elim
  | _ => exact trivial

theorem Online.step (hsettings : settings.Subscribable) (honline : system.Online settings)
    (hguard : system.staysOnline settings action = true)
    (heff : LiveEffect settings system action next) : next.Online settings := by
  obtain ⟨hevents, hpend, hclient⟩ := honline
  have honline : system.Online settings := ⟨hevents, hpend, hclient⟩
  cases heff with
  | same => exact honline
  | commits hfresh =>
    refine ⟨?_, ?_, hclient⟩
    · intro found hfound
      rcases List.mem_append.mp hfound with hold | hnew
      · exact hevents found hold
      · cases List.mem_singleton.mp hnew
        exact hguard
    · intro found hfound
      rcases List.mem_append.mp hfound with hold | hnew
      · exact List.mem_append_left _ (hpend found hold)
      · exact List.mem_append_right _ hnew
  | @publishes event hmem =>
    have hrows := publishTo_rows settings system event
    refine ⟨?_, ?_, publishTo_online honline (hevents _ (hpend _ hmem))⟩
    · rw [hrows]
      exact hevents
    · rw [hrows]
      exact fun found hfound => hpend found (List.mem_of_mem_erase hfound)
  | restartsApart _ => exact ⟨hevents, by simp, hclient⟩
  | restarts hsock =>
    obtain ⟨hstate, hlink⟩ := honline.link hsock
    exact ⟨hevents, by simp, hstate, hlink.frames, restart_online hlink.endpoint⟩
  | creates hconnecting =>
    unfold LiveClient.Online at hclient
    rw [hconnecting] at hclient
    refine ⟨hevents, hpend, ?_, by simp [startSocket], trivial⟩
    exact hclient.elim .inl fun hreconnecting => .inr (.inl hreconnecting)
  | misses hconnecting => exact ⟨hevents, hpend, scheduleReconnect_online _⟩
  | reconnects hwaiting => exact ⟨hevents, hpend, connect_online _⟩
  | turns hsock hstate =>
    obtain ⟨hold, hlink⟩ := honline.link hsock
    refine ⟨hevents, hpend, ?_, hlink.frames, hlink.endpoint⟩
    rcases hstate with rfl | rfl
    · exact hold
    · exact .inr (.inl rfl)
  | timesOut => cases hguard
  | drops hsock => exact ⟨hevents, hpend, socketClosed_online _ rfl⟩
  | delivers hsock hframes =>
    obtain ⟨hstate, hlink⟩ := honline.link hsock
    have hall := hlink.frames
    rw [hframes] at hall
    refine ⟨hevents, hpend, receive_online ⟨?_, hlink.endpoint⟩ hstate (hall _ List.mem_cons_self)⟩
    exact fun frame hframe => hall frame (List.mem_cons_of_mem _ hframe)
  | answers hsock heff hfirst =>
    obtain ⟨hstate, hlink⟩ := honline.link hsock
    obtain ⟨hframes, hend⟩ := heff.online hsettings honline hsock hguard
    refine ⟨hevents, hpend, hstate, ?_, hend⟩
    intro frame hframe
    rcases List.mem_append.mp hframe with hold | hnew
    · exact hlink.frames frame hold
    · exact hframes frame hnew

theorem resumes (hsettings : settings.Subscribable) (hwaiting : system.client.phase = .waiting)
    (hresumable : settings.resumable system.rows system.client.lastCommittedCapturedAt = true) :
    ∃ next link session, runFrom (LiveSystem.step settings) system
        [.reconnect, .createSocket true, .open, .authenticate .accepted, .register] = some next ∧
      next.client.phase = .socket link ∧ link.endpoint = .registered session ∧
        ∀ after ∈ system.client.lastCommittedCapturedAt, ∀ event ∈ system.rows,
          settings.filters.matches event.toHistorySample = true →
            after ≤ event.capturedAt → event ∈ session.replay := by
  obtain ⟨session, hopen, hreplay⟩ := openSession_replays hsettings.filters hresumable
  cases hrequired : settings.authenticationRequired with
  | true =>
    simp [runFrom, step, hwaiting, stepSocket, stepEndpoint, setPhase, startSocket,
      answer, LiveClient.connect, authenticate, hrequired, hopen]
    exact hreplay
  | false =>
    simp [runFrom, step, hwaiting, stepSocket, stepEndpoint, setPhase, startSocket,
      answer, LiveClient.connect, hrequired, hopen]
    exact hreplay

/-- As long as the resume results are within the limit, no run ends the subscription:
after an outage it is made again, or the client has reported that it is offline. -/
theorem live_outages (hsettings : settings.Subscribable) {rows : List (LiveEvent ι)}
    (hrows : ∀ event ∈ rows, event.harmless settings = true)
    {actions : List (LiveAction ι)}
    (hmeet : StepsMeet (LiveSystem.step settings)
      (fun system action => system.staysOnline settings action = true)
      (subscribe rows) actions)
    (hrun : runFrom (LiveSystem.step settings) (subscribe rows) actions = some system) :
    system.client.terminalState = none ∧ system.client.Online settings ∧
      (system.client.phase = .waiting →
        settings.resumable system.rows system.client.lastCommittedCapturedAt = true →
        ∃ next link session, runFrom (LiveSystem.step settings) system
            [.reconnect, .createSocket true, .open, .authenticate .accepted, .register] =
              some next ∧
          next.client.phase = .socket link ∧ link.endpoint = .registered session ∧
            ∀ after ∈ system.client.lastCommittedCapturedAt, ∀ event ∈ system.rows,
              settings.filters.matches event.toHistorySample = true →
                after ≤ event.capturedAt → event ∈ session.replay) := by
  have hstart : (subscribe rows : LiveSystem ι).Online settings :=
    ⟨hrows, by simp [subscribe], connect_online _⟩
  have honline : system.Online settings := (Reaches.of_stepsMeet hmeet hrun).invariant
    (P := fun system => system.Online settings)
    (fun _ _ _ honline hguard hstep => honline.step hsettings hguard (step_effect hstep))
    hstart
  exact ⟨honline.client.terminalState, honline.client, resumes hsettings⟩

theorem live_outages_plain :
    ∃ system ∈ runFrom (LiveSystem.step plainSettings) (subscribe [])
        (connects ++ receives (plainEvent 1 10) ++ [.drop]),
      system.client.Online plainSettings ∧
        ∃ next link session, runFrom (LiveSystem.step plainSettings) system
            [.reconnect, .createSocket true, .open, .authenticate .accepted, .register] =
              some next ∧
          next.client.phase = .socket link ∧ link.endpoint = .registered session ∧
            plainEvent 1 10 ∈ session.replay := by
  have hrun : ∃ system ∈ runFrom (LiveSystem.step plainSettings) (subscribe [])
      (connects ++ receives (plainEvent 1 10) ++ [.drop]),
      system.client.isWaiting = true ∧
        system.rows = [plainEvent 1 10] ∧
          system.client.lastCommittedCapturedAt = some 10 := by
    decide +kernel
  obtain ⟨system, hsystem, hphase, hrows, hlast⟩ := hrun
  have hwaiting : system.client.phase = .waiting := by
    unfold LiveClient.isWaiting at hphase
    cases hclient : system.client.phase with
    | waiting => rfl
    | _ => simp [hclient] at hphase
  have hnone : ∀ event ∈ ([] : List (LiveEvent ℕ)),
      event.harmless plainSettings = true := by
    simp
  have hmeet : StepsMeet (LiveSystem.step plainSettings)
      (fun system action => system.staysOnline plainSettings action = true)
      (subscribe []) (connects ++ receives (plainEvent 1 10) ++ [.drop]) := by
    decide +kernel
  have hlive := live_outages ⟨by decide, by decide +kernel⟩ hnone hmeet hsystem
  obtain ⟨next, link, session, hnext, hsock, hreg, hreplay⟩ :=
    hlive.2.2 hwaiting (by rw [hrows, hlast]; decide +kernel)
  refine ⟨system, hsystem, hlive.2.1, next, link, session, hnext, hsock, hreg, ?_⟩
  exact hreplay 10 hlast (plainEvent 1 10) (by simp [hrows]) (by decide) le_rfl

theorem forbidden_after_outage :
    ∃ system ∈ runFrom (LiveSystem.step plainSettings) (subscribe [])
        (connects ++ receives (plainEvent 1 10) ++
          [.drop, .commit (plainEvent 2 20), .commit (plainEvent 3 30), .reconnect] ++
          connects ++ [.refuse, .deliver, .deliver]),
      system.client.terminalState = some .forbidden := by
  decide +kernel

end LiveSystem

end Outages

end Nexolab
