import Nexolab.LiveSubscription

/-!
# What a step of a live subscription can do

A step commits or publishes an event, moves the client to another phase, changes the
socket, or lets the endpoint send frames.
-/

namespace Nexolab

section Resume

variable {ι : Type} [LinearOrder ι]

/-! ## The resume result -/

variable {rows : List (LiveEvent ι)}

theorem mem_resumeRows {settings : LiveSettings} {after : Instant} {limit : ℕ}
    {event : LiveEvent ι} (hevent : event ∈ resumeRows settings rows after limit) :
    event ∈ rows ∧ settings.filters.matches event.toHistorySample = true ∧
      after ≤ event.capturedAt := by
  have hsorted := List.mem_of_mem_take hevent
  rw [List.mem_insertionSort, List.mem_filter] at hsorted
  simpa using hsorted

theorem mem_resumeRows_of_le {settings : LiveSettings} {after : Instant} {limit : ℕ}
    (hle : (resumeRows settings rows after (limit + 1)).length ≤ limit)
    {event : LiveEvent ι} (hevent : event ∈ rows)
    (hmatches : settings.filters.matches event.toHistorySample = true)
    (hafter : after ≤ event.capturedAt) :
    event ∈ resumeRows settings rows after (limit + 1) := by
  unfold resumeRows at hle ⊢
  rw [List.length_take] at hle
  rw [List.take_of_length_le (by omega), List.mem_insertionSort, List.mem_filter]
  exact ⟨hevent, by simp [hmatches, hafter]⟩

def LiveSettings.resumable (settings : LiveSettings) (rows : List (LiveEvent ι))
    (after : Option Instant) : Bool :=
  after.all fun after =>
    (resumeRows settings rows after (settings.resumeLimit + 1)).length ≤
      settings.resumeLimit

theorem registerClient_of_resumable {settings : LiveSettings} {after : Option Instant}
    (hresumable : settings.resumable rows after = true) :
    registerClient settings rows after = .registered ⟨[], false, (after.elim [] fun after =>
        (resumeRows settings rows after (settings.resumeLimit + 1)).reverse), []⟩ := by
  unfold registerClient
  cases after with
  | none => rfl
  | some after =>
    have hle : (resumeRows settings rows after (settings.resumeLimit + 1)).length ≤
        settings.resumeLimit := of_decide_eq_true hresumable
    dsimp only
    rw [if_neg (not_lt.mpr hle)]
    rfl

theorem openSession_of_valid {settings : LiveSettings} (hfilters : settings.FiltersValid)
    (rows : List (LiveEvent ι)) (after : Option Instant) :
    openSession settings rows after = ([], registerClient settings rows after) := by
  unfold openSession
  rw [if_neg (not_not.mpr hfilters.1), if_neg (not_not.mpr hfilters.2)]

theorem openSession_replays {settings : LiveSettings} (hfilters : settings.FiltersValid)
    {after : Option Instant} (hresumable : settings.resumable rows after = true) :
    ∃ session, openSession settings rows after = ([], .registered session) ∧
      ∀ time ∈ after, ∀ event ∈ rows,
        settings.filters.matches event.toHistorySample = true →
          time ≤ event.capturedAt → event ∈ session.replay := by
  have hopen := openSession_of_valid hfilters rows after
  rw [registerClient_of_resumable hresumable] at hopen
  refine ⟨_, hopen, ?_⟩
  intro time htime event hevent hmatches hle
  rw [htime] at hresumable
  have hmem := mem_resumeRows_of_le (of_decide_eq_true hresumable) hevent hmatches hle
  simpa [Option.mem_def.mp htime] using hmem

end Resume

namespace LiveSystem

variable {ι : Type} [LinearOrder ι]

/-- The frames which the endpoint sends, and what becomes of it. -/
inductive EndpointEffect (settings : LiveSettings) (rows : List (LiveEvent ι))
    (link : LiveLink ι) : LiveAction ι → List (LiveFrame ι) → EndpointPhase ι → Prop
  | admits {answer : AuthenticationAnswer} :
      EndpointEffect settings rows link (.authenticate answer) [] .admitted
  | answers {answer : AuthenticationAnswer} :
      EndpointEffect settings rows link (.authenticate answer)
        (authenticate settings answer).1 (authenticate settings answer).2
  | opens (admitted : link.endpoint = .admitted) :
      EndpointEffect settings rows link .register
        (openSession settings rows link.after).1 (openSession settings rows link.after).2
  | sends {session : LiveSession ι} {frames : List (LiveFrame ι)}
      {endpoint : EndpointPhase ι} (registered : link.endpoint = .registered session)
      (sent : session.sendNext = some (frames, endpoint)) :
      EndpointEffect settings rows link .sendNext frames endpoint
  | beats {session : LiveSession ι} (registered : link.endpoint = .registered session) :
      EndpointEffect settings rows link .sendHeartbeat [.typed .heartbeat] link.endpoint
  | refuses {session : LiveSession ι} (refusing : link.endpoint = .refusing session) :
      EndpointEffect settings rows link .refuse resumeRefused .ended
  /-- The frame of a send which takes too long may have arrived. -/
  | timesOut {session : LiveSession ι} {sent : Bool} {frames : List (LiveFrame ι)}
      (registered : link.endpoint = .registered session)
      (next : frames = [] ∨ frames = [.typed .heartbeat] ∨
        ∃ after, session.sendNext = some (frames, .registered after)) :
      EndpointEffect settings rows link (.sendTimeout sent)
        (frames ++ [.close 1013 "send timeout"]) .ended
  | refusalTimesOut {session : LiveSession ι} {sent : Bool}
      (refusing : link.endpoint = .refusing session) :
      EndpointEffect settings rows link (.sendTimeout sent)
        ((if sent then resumeRefused.take 1 else []) ++ [.close 1013 "send timeout"])
        .ended
  | fails : EndpointEffect settings rows link .fail [.close 1011 ""] .ended

def firstAfter (system : LiveSystem ι) : LiveAction ι → Option ℕ
  | .register => some (system.since.getD system.rows.length)
  | _ => system.since

inductive LiveEffect (settings : LiveSettings) (system : LiveSystem ι) :
    LiveAction ι → LiveSystem ι → Prop
  | same {event : LiveEvent ι} : LiveEffect settings system (.commit event) system
  | commits {event : LiveEvent ι} (fresh : event.eventId ∉ system.rows.map (·.eventId)) :
      LiveEffect settings system (.commit event) { system with
        rows := system.rows ++ [event], pending := system.pending ++ [event] }
  | publishes {event : LiveEvent ι} (pending : event ∈ system.pending) :
      LiveEffect settings system (.publish event)
        { system.publishTo settings event with pending := system.pending.erase event }
  | restartsApart (apart : ∀ link, system.client.phase ≠ .socket link) :
      LiveEffect settings system .restart { system with pending := [] }
  | restarts {link : LiveLink ι} (phase : system.client.phase = .socket link) :
      LiveEffect settings system .restart { system.setPhase (.socket { link with
        endpoint := restart link.endpoint }) with pending := [] }
  | creates (phase : system.client.phase = .connecting) :
      LiveEffect settings system (.createSocket true) (system.setPhase (.socket system.startSocket))
  | misses (phase : system.client.phase = .connecting) :
      LiveEffect settings system (.createSocket false)
        { system with client := system.client.scheduleReconnect settings }
  | reconnects (phase : system.client.phase = .waiting) :
      LiveEffect settings system .reconnect { system with client := system.client.connect }
  /-- The browser changes its side of the socket. -/
  | turns {action : LiveAction ι} {link : LiveLink ι} {phase : SocketPhase} {timer : Bool}
      {lastState : ConnectionState} (socket : system.client.phase = .socket link)
      (state : lastState = system.client.lastState ∨ lastState = .reconnecting) :
      LiveEffect settings system action { system with client := { system.client with
        phase := .socket { link with phase, authenticationTimer := timer }
        lastState := lastState } }
  | timesOut : LiveEffect settings system .authenticationTimeout
      { system with client := system.client.failTerminal .unauthorized }
  | drops {link : LiveLink ι} (socket : system.client.phase = .socket link) :
      LiveEffect settings system .drop
        { system with client := system.client.socketClosed settings 1006 "" }
  | delivers {link : LiveLink ι} {frame : LiveFrame ι} {rest : List (LiveFrame ι)}
      (socket : system.client.phase = .socket link) (frames : link.frames = frame :: rest) :
      LiveEffect settings system .deliver
        { system with
          client := system.client.receive settings { link with frames := rest } frame }
  | answers {action : LiveAction ι} {link : LiveLink ι} {frames : List (LiveFrame ι)}
      {endpoint : EndpointPhase ι} {since : Option ℕ}
      (socket : system.client.phase = .socket link)
      (effect : EndpointEffect settings system.rows link action frames endpoint)
      (first : since = system.firstAfter action) :
      LiveEffect settings system action
        { system.answer link frames endpoint with since }

variable {settings : LiveSettings} {system next : LiveSystem ι} {action : LiveAction ι}

theorem stepEndpoint_effect {link : LiveLink ι} (hsock : system.client.phase = .socket link)
    (hstep : system.stepEndpoint settings link action = some next) :
    LiveEffect settings system action next := by
  cases action with
  | authenticate answer =>
    dsimp only [stepEndpoint] at hstep
    split at hstep
    next =>
      split_ifs at hstep
      · cases hstep
        exact .answers hsock .answers rfl
      · cases hstep
        exact .answers hsock .admits rfl
    next => cases hstep
  | register =>
    dsimp only [stepEndpoint] at hstep
    split at hstep
    next hadmitted =>
      cases hstep
      exact .answers hsock (.opens hadmitted) rfl
    next => cases hstep
  | sendNext =>
    dsimp only [stepEndpoint] at hstep
    split at hstep
    next session hreg =>
      obtain ⟨⟨frames, endpoint⟩, hsent, rfl⟩ := Option.map_eq_some_iff.mp hstep
      exact .answers hsock (.sends hreg hsent) rfl
    next => cases hstep
  | sendHeartbeat =>
    dsimp only [stepEndpoint] at hstep
    split at hstep
    next session hreg =>
      split_ifs at hstep
      cases hstep
      exact .answers hsock (.beats hreg) rfl
    next => cases hstep
  | refuse =>
    dsimp only [stepEndpoint] at hstep
    split at hstep
    next session hrefusing =>
      cases hstep
      exact .answers hsock (.refuses hrefusing) rfl
    next => cases hstep
  | sendTimeout sent =>
    dsimp only [stepEndpoint] at hstep
    split at hstep
    next session hreg =>
      split at hstep
      next frame after hsent =>
        cases hstep
        refine .answers hsock (.timesOut hreg ?_) rfl
        cases sent with
        | false => exact .inl rfl
        | true => exact .inr (.inr ⟨after, hsent⟩)
      next =>
        cases hstep
        refine .answers hsock (.timesOut hreg ?_) rfl
        cases sent with
        | false => exact .inl rfl
        | true => exact .inr (.inl rfl)
      next => cases hstep
    next session hrefusing =>
      cases hstep
      exact .answers hsock (.refusalTimesOut hrefusing) rfl
    next => cases hstep
  | fail =>
    dsimp only [stepEndpoint] at hstep
    split at hstep
    next => cases hstep
    next =>
      cases hstep
      exact .answers hsock .fails rfl
  | _ => cases hstep

theorem stepSocket_effect {link : LiveLink ι} (hsock : system.client.phase = .socket link)
    (hstep : system.stepSocket settings link action = some next) :
    LiveEffect settings system action next := by
  cases action with
  | «open» =>
    dsimp only [stepSocket] at hstep
    split_ifs at hstep
    cases hstep
    exact .turns hsock (.inl rfl)
  | connectionTimeout =>
    dsimp only [stepSocket] at hstep
    split_ifs at hstep
    cases hstep
    exact .turns hsock (.inl rfl)
  | authenticationTimeout =>
    dsimp only [stepSocket] at hstep
    split_ifs at hstep
    cases hstep
    exact .timesOut
  | heartbeatTimeout =>
    dsimp only [stepSocket] at hstep
    split_ifs at hstep
    cases hstep
    exact .turns hsock (.inr rfl)
  | deliver =>
    dsimp only [stepSocket] at hstep
    split at hstep
    next frame rest hframes =>
      split_ifs at hstep
      cases hstep
      exact .delivers hsock hframes
    next => cases hstep
  | drop =>
    cases hstep
    exact .drops hsock
  | _ => exact stepEndpoint_effect hsock hstep

theorem stepAtSocket_effect
    (hstep : (match system.client.phase with
      | .socket link => system.stepSocket settings link action
      | _ => none) = some next) : LiveEffect settings system action next := by
  split at hstep
  next hsock => exact stepSocket_effect hsock hstep
  next => cases hstep

theorem step_effect (hstep : system.step settings action = some next) :
    LiveEffect settings system action next := by
  cases action with
  | commit event =>
    dsimp only [step] at hstep
    split_ifs at hstep with hknown
    · cases hstep
      exact .same
    · cases hstep
      exact .commits hknown
  | publish event =>
    dsimp only [step] at hstep
    split_ifs at hstep with hpend
    cases hstep
    exact .publishes hpend
  | restart =>
    dsimp only [step] at hstep
    split at hstep
    next hsock =>
      cases hstep
      exact .restarts hsock
    next hapart =>
      cases hstep
      exact .restartsApart hapart
  | createSocket created =>
    dsimp only [step] at hstep
    split at hstep
    next hconnecting =>
      cases created with
      | true =>
        cases hstep
        exact .creates hconnecting
      | false =>
        cases hstep
        exact .misses hconnecting
    next => cases hstep
  | reconnect =>
    dsimp only [step] at hstep
    split at hstep
    next hwaiting =>
      cases hstep
      exact .reconnects hwaiting
    next => cases hstep
  | _ => exact stepAtSocket_effect hstep

omit [LinearOrder ι] in
@[simp] theorem publishTo_rows (settings : LiveSettings) (system : LiveSystem ι)
    (event : LiveEvent ι) : (system.publishTo settings event).rows = system.rows := by
  unfold publishTo
  split
  next => split <;> rfl
  next => rfl

end LiveSystem

end Nexolab
