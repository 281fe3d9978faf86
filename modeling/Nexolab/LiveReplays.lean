import Nexolab.LiveSteps

/-!
# Replays of a live subscription

What the endpoint has is sent from its queue, and what a connection has missed is
repeated from the time of the last message.  An event which was captured before that
time and committed after it is not repeated.
-/

namespace Nexolab

section LastSeen

variable {α : Type*}

theorem rtake_rtake_append (items : List α) (count : ℕ) (item : α) :
    (items.rtake count ++ [item]).rtake count = (items ++ [item]).rtake count := by
  cases count with
  | zero => simp
  | succ count =>
    rw [List.rtake_concat_succ, List.rtake_concat_succ]
    simp [List.rtake_eq_reverse_take_reverse, List.take_take]

theorem mem_of_mem_rtake {items : List α} {count : ℕ} {item : α}
    (hitem : item ∈ items.rtake count) : item ∈ items :=
  List.mem_of_mem_drop hitem

end LastSeen

variable {ι : Type}

namespace LiveSystem

variable (settings : LiveSettings) (system : LiveSystem ι)

def due : List (LiveEvent ι) :=
  match system.since with
  | none => []
  | some count => (system.rows.drop count).filter fun event =>
    settings.filters.matches event.toHistorySample

end LiveSystem

/-! ## What a session has -/

structure SessionKept (rows passed pending due : List (LiveEvent ι))
    (frames : List (LiveFrame ι)) (session : LiveSession ι) : Prop where
  replay : ∀ event ∈ session.replay, event ∈ rows
  queue : ∀ event, .event event ∈ session.queue → event ∈ rows
  resent : ∀ eventId ∈ session.replayedEventIds, ∃ event ∈ rows, event.eventId = eventId ∧
    (event.typed = none → event ∈ passed ∨ .sample event ∈ frames)
  tracked : session.closed = false → ∀ event ∈ due, event ∈ passed ∨
    .sample event ∈ frames ∨ event ∈ session.replay ∨ .event event ∈ session.queue ∨ event ∈ pending

section Sessions

variable {rows rows' passed passed' pending pending' due due' : List (LiveEvent ι)}
  {frames frames' : List (LiveFrame ι)} {session : LiveSession ι}

theorem SessionKept.weaken (hkept : SessionKept rows passed pending due frames session)
    (hrows : rows ⊆ rows') (hpend : pending ⊆ pending')
    (hreceived : ∀ event ∈ rows, event ∈ passed ∨ .sample event ∈ frames →
      event ∈ passed' ∨ .sample event ∈ frames')
    (hold : ∀ event ∈ due, event ∈ rows) (hdue : ∀ event ∈ due', event ∈ due ∨ event ∈ pending') :
    SessionKept rows' passed' pending' due' frames' session := by
  constructor
  case replay => exact fun event hevent => hrows (hkept.replay event hevent)
  case queue => exact fun event hevent => hrows (hkept.queue event hevent)
  case resent =>
    intro eventId heventId
    obtain ⟨event, hmem, hid, hsent⟩ := hkept.resent eventId heventId
    exact ⟨event, hrows hmem, hid, fun htyped => hreceived event hmem (hsent htyped)⟩
  case tracked =>
    intro hopen event hevent
    rcases hdue event hevent with hbefore | hnew
    · rcases hkept.tracked hopen event hbefore with hpassed | hframe | hrest
      · exact (hreceived event (hold event hbefore) (.inl hpassed)).imp_right .inl
      · exact (hreceived event (hold event hbefore) (.inr hframe)).imp_right .inl
      · exact .inr (.inr (hrest.imp_right (Or.imp_right (hpend ·))))
    · exact .inr (.inr (.inr (.inr hnew)))

theorem SessionKept.stop (hkept : SessionKept rows passed pending due frames session) :
    SessionKept rows passed pending' due frames session.stop := by
  unfold LiveSession.stop
  split_ifs with hclosed
  · refine ⟨hkept.replay, hkept.queue, hkept.resent, fun hopen => ?_⟩
    rw [hclosed] at hopen
    cases hopen
  · exact ⟨hkept.replay, by simp, hkept.resent, nofun⟩

theorem SessionKept.publish [DecidableEq ι] {settings : LiveSettings} {event : LiveEvent ι}
    (hkept : SessionKept rows passed pending due frames session) (hevent : event ∈ rows)
    (hdue : ∀ found ∈ due, settings.filters.matches found.toHistorySample = true) :
    SessionKept rows passed (pending.erase event) due frames (session.publish settings event) := by
  have hothers : ∀ {queue : List (LiveItem ι)}, session.queue ⊆ queue →
      (event ∈ due → .event event ∈ queue) → session.closed = false →
      ∀ found ∈ due, found ∈ passed ∨ .sample found ∈ frames ∨ found ∈ session.replay ∨
        .event found ∈ queue ∨ found ∈ pending.erase event := by
    intro queue hqueue hpubd hopen found hfound
    rcases hkept.tracked hopen found hfound with hold | hold | hold | hold | hold
    · exact .inl hold
    · exact .inr (.inl hold)
    · exact .inr (.inr (.inl hold))
    · exact .inr (.inr (.inr (.inl (hqueue hold))))
    · by_cases hsame : found = event
      · exact .inr (.inr (.inr (.inl (hsame ▸ hpubd (hsame ▸ hfound)))))
      · exact .inr (.inr (.inr (.inr ((List.mem_erase_of_ne hsame).mpr hold))))
  unfold LiveSession.publish
  split_ifs with hclosed hmatches hroom
  · refine ⟨hkept.replay, hkept.queue, hkept.resent, fun hopen => ?_⟩
    rw [hclosed] at hopen
    cases hopen
  · refine ⟨hkept.replay, ?_, hkept.resent, ?_⟩
    · intro found hfound
      rcases List.mem_append.mp hfound with hold | hnew
      · exact hkept.queue found hold
      · cases List.mem_singleton.mp hnew
        exact hevent
    · exact hothers (List.subset_append_left _ _)
        fun _ => List.mem_append_right _ (List.mem_singleton_self _)
  · exact ⟨hkept.replay, by simp, hkept.resent, nofun⟩
  · exact ⟨hkept.replay, hkept.queue, hkept.resent, hothers (List.Subset.refl _)
      fun hmem => absurd (hdue event hmem) hmatches⟩

theorem SessionKept.sendNext [LinearOrder ι] {after : LiveSession ι} {sent : List (LiveFrame ι)}
    (hkept : SessionKept rows passed pending due frames session)
    (hunique : (rows.map (·.eventId)).Nodup) (hplain : ∀ event ∈ due, event.typed = none)
    (hsent : session.sendNext = some (sent, .registered after)) :
    SessionKept rows passed pending due (frames ++ sent) after ∧
      ∀ event, .sample event ∈ sent → event ∈ rows := by
  have hmono : ∀ {event : LiveEvent ι}, event ∈ passed ∨ .sample event ∈ frames →
      event ∈ passed ∨ .sample event ∈ frames ++ sent := fun hreceived =>
    hreceived.imp_right (List.mem_append_left _)
  have hresent : ∀ eventId ∈ session.replayedEventIds, ∃ event ∈ rows, event.eventId = eventId ∧
        (event.typed = none → event ∈ passed ∨ .sample event ∈ frames ++ sent) := by
    intro eventId heventId
    obtain ⟨event, hmem, hid, hbefore⟩ := hkept.resent eventId heventId
    exact ⟨event, hmem, hid, fun htyped => hmono (hbefore htyped)⟩
  have hframe : ∀ {event : LiveEvent ι}, event.typed = none → event.frame = .sample event := by
    intro event htyped
    unfold LiveEvent.frame
    rw [htyped]
  have hsamp : ∀ {event found : LiveEvent ι}, event ∈ rows →
      .sample found ∈ [event.frame] → found ∈ rows := by
    intro event found hevent hfound
    have hsame := List.mem_singleton.mp hfound
    unfold LiveEvent.frame at hsame
    split at hsame
    next => cases hsame
    next =>
      cases hsame
      exact hevent
  unfold LiveSession.sendNext at hsent
  split at hsent
  next event rest hreplay =>
    cases hsent
    have hmem : event ∈ rows := hkept.replay event (hreplay ▸ List.mem_cons_self)
    refine ⟨⟨?_, hkept.queue, ?_, ?_⟩, fun found => hsamp hmem⟩
    · intro found hfound
      exact hkept.replay found (hreplay ▸ List.mem_cons_of_mem _ hfound)
    · intro eventId heventId
      rcases List.mem_cons.mp heventId with rfl | hold
      · refine ⟨event, hmem, rfl, fun htyped => .inr (List.mem_append_right _ ?_)⟩
        rw [hframe htyped]
        exact List.mem_singleton_self _
      · exact hresent eventId hold
    · intro hopen found hfound
      rcases hkept.tracked hopen found hfound with hold | hold | hold | hold | hold
      · exact .inl hold
      · exact .inr (.inl (List.mem_append_left _ hold))
      · rw [hreplay] at hold
        rcases List.mem_cons.mp hold with rfl | hrest
        · refine .inr (.inl (List.mem_append_right _ ?_))
          rw [hframe (hplain found hfound)]
          exact List.mem_singleton_self _
        · exact .inr (.inr (.inl hrest))
      · exact .inr (.inr (.inr (.inl hold)))
      · exact .inr (.inr (.inr (.inr hold)))
  next event rest hreplay hqueue =>
    have hmem : event ∈ rows := hkept.queue event (hqueue ▸ List.mem_cons_self)
    have hrest : ∀ found, .event found ∈ rest → found ∈ rows := fun found hfound =>
      hkept.queue found (hqueue ▸ List.mem_cons_of_mem _ hfound)
    have htracked : (event ∈ due → event ∈ passed ∨ .sample event ∈ frames ++ sent) →
        session.closed = false → ∀ found ∈ due, found ∈ passed ∨
          .sample found ∈ frames ++ sent ∨ found ∈ session.replay ∨
            .event found ∈ rest ∨ found ∈ pending := by
      intro hhead hopen found hfound
      rcases hkept.tracked hopen found hfound with hold | hold | hold | hold | hold
      · exact .inl hold
      · exact .inr (.inl (List.mem_append_left _ hold))
      · exact .inr (.inr (.inl hold))
      · rw [hqueue] at hold
        rcases List.mem_cons.mp hold with hsame | hlater
        · cases hsame
          exact (hhead hfound).imp_right .inl
        · exact .inr (.inr (.inr (.inl hlater)))
      · exact .inr (.inr (.inr (.inr hold)))
    split_ifs at hsent with hrepeated
    · cases hsent
      refine ⟨⟨hkept.replay, hrest, hresent, htracked fun hdueEvent => ?_⟩, by simp⟩
      obtain ⟨other, hother, hid, hreceived⟩ := hresent event.eventId hrepeated
      have hsame : other = event := List.inj_on_of_nodup_map hunique hother hmem hid
      rw [hsame] at hreceived
      exact hreceived (hplain event hdueEvent)
    · cases hsent
      refine ⟨⟨hkept.replay, hrest, hresent, htracked fun hdueEvent => .inr ?_⟩,
        fun found => hsamp hmem⟩
      rw [hframe (hplain event hdueEvent)]
      exact List.mem_append_right _ (List.mem_singleton_self _)
  next => cases hsent
  next => cases hsent
  next => cases hsent

end Sessions

namespace LiveSystem

structure LinkKept (settings : LiveSettings) (system : LiveSystem ι) (link : LiveLink ι) :
    Prop where
  frames : ∀ event, .sample event ∈ link.frames → event ∈ system.rows
  session : ∀ session, link.endpoint = .registered session →
    SessionKept system.rows system.client.passed system.pending (system.due settings)
      link.frames session

/-- No event is passed while its identifier is among the last ones. -/
def PassedApart (settings : LiveSettings) (client : LiveClient ι) : Prop :=
  ∀ before event after, client.passed = before ++ event :: after →
    event.eventId ∉ (before.map (·.eventId)).rtake settings.maxSeenEventIds

structure PassedOnce (settings : LiveSettings) (client : LiveClient ι) : Prop where
  seen : client.seenOrder = (client.passed.map (·.eventId)).rtake settings.maxSeenEventIds
  apart : PassedApart settings client

structure Kept (settings : LiveSettings) (system : LiveSystem ι) : Prop where
  unique : (system.rows.map (·.eventId)).Nodup
  passed : ∀ event ∈ system.client.passed, event ∈ system.rows
  pending : ∀ event ∈ system.pending, event ∈ system.rows
  plain : ∀ event ∈ system.due settings, event.typed = none
  once : PassedOnce settings system.client
  link : ∀ link, system.client.phase = .socket link → system.LinkKept settings link

variable {settings : LiveSettings} {system next : LiveSystem ι}

theorem mem_due {event : LiveEvent ι} (hevent : event ∈ system.due settings) :
    event ∈ system.rows ∧ settings.filters.matches event.toHistorySample = true := by
  unfold due at hevent
  split at hevent
  next => cases hevent
  next =>
    obtain ⟨hmem, hmatches⟩ := List.mem_filter.mp hevent
    exact ⟨List.mem_of_mem_drop hmem, hmatches⟩

theorem due_congr (hrows : next.rows = system.rows) (hsince : next.since = system.since) :
    next.due settings = system.due settings := by
  unfold due
  rw [hrows, hsince]

theorem mem_due_commit {event found : LiveEvent ι}
    (hfound : found ∈ ({ system with
      rows := system.rows ++ [event]
      pending := system.pending ++ [event] } : LiveSystem ι).due settings) :
    found ∈ system.due settings ∨
      (found = event ∧ settings.filters.matches event.toHistorySample = true) := by
  obtain ⟨_, hmatches⟩ := mem_due hfound
  unfold due at hfound ⊢
  cases hsince : system.since with
  | none =>
    simp only [hsince] at hfound
    cases hfound
  | some count =>
    simp only [hsince] at hfound
    rw [List.drop_append, List.filter_append] at hfound
    rcases List.mem_append.mp hfound with hold | hnew
    · exact .inl hold
    · have hsame := List.mem_of_mem_drop (List.mem_of_mem_filter hnew)
      cases List.mem_singleton.mp hsame
      exact .inr ⟨rfl, hmatches⟩

section Browser

variable {client : LiveClient ι} {link : LiveLink ι} {code : ℕ} {reason : String}

theorem scheduleReconnect_fields (settings : LiveSettings) (client : LiveClient ι) :
    (client.scheduleReconnect settings).passed = client.passed ∧
      (client.scheduleReconnect settings).seenOrder = client.seenOrder ∧
        ∀ link, (client.scheduleReconnect settings).phase ≠ .socket link := by
  unfold LiveClient.scheduleReconnect
  split_ifs
  · exact ⟨rfl, rfl, by simp⟩
  · exact ⟨rfl, rfl, by simp⟩

theorem socketClosed_fields (settings : LiveSettings) (client : LiveClient ι) (code : ℕ)
    (reason : String) :
    (client.socketClosed settings code reason).passed = client.passed ∧
      (client.socketClosed settings code reason).seenOrder = client.seenOrder ∧
        ∀ link, (client.socketClosed settings code reason).phase ≠ .socket link := by
  unfold LiveClient.socketClosed
  split
  next => exact ⟨rfl, rfl, by simp [LiveClient.failTerminal]⟩
  next => exact scheduleReconnect_fields settings client

def SameLink (link : LiveLink ι) (phase : ClientPhase ι) : Prop :=
  ∀ other, phase = .socket other → other.endpoint = link.endpoint ∧ other.frames = link.frames

theorem markConnected_fields :
    (client.markConnected link).passed = client.passed ∧
      (client.markConnected link).seenOrder = client.seenOrder ∧
        SameLink link (client.markConnected link).phase := by
  refine ⟨rfl, rfl, ?_⟩
  intro other hother
  cases hother
  exact ⟨rfl, rfl⟩

theorem sameLink_self (link : LiveLink ι) : SameLink link (.socket link) := by
  intro other hother
  cases hother
  exact ⟨rfl, rfl⟩

theorem touch_fields (client : LiveClient ι) (link : LiveLink ι) :
    (client.touch link).passed = client.passed ∧ (client.touch link).seenOrder = client.seenOrder ∧
        SameLink link (client.touch link).phase := by
  unfold LiveClient.touch
  split_ifs
  · exact ⟨rfl, rfl, sameLink_self link⟩
  · exact markConnected_fields

variable [LinearOrder ι]

theorem receive_fields (settings : LiveSettings) (client : LiveClient ι)
    (link : LiveLink ι) {frame : LiveFrame ι} (hframe : ∀ event, frame ≠ .sample event) :
    (client.receive settings link frame).passed = client.passed ∧
      (client.receive settings link frame).seenOrder = client.seenOrder ∧
        SameLink link (client.receive settings link frame).phase := by
  have hterm : ∀ state, SameLink link (client.failTerminal state).phase := by
    intro state other hother
    cases hother
  cases frame with
  | typed message =>
    cases message with
    | authenticated organizationId =>
      dsimp only [LiveClient.receive]
      split_ifs
      · exact markConnected_fields
      · exact ⟨rfl, rfl, hterm _⟩
    | heartbeat => exact touch_fields client link
    | error code detail =>
      dsimp only [LiveClient.receive]
      split
      next => exact ⟨rfl, rfl, hterm _⟩
      next => exact ⟨rfl, rfl, sameLink_self link⟩
    | unreadable => exact ⟨rfl, rfl, sameLink_self link⟩
  | sample event => exact absurd rfl (hframe event)
  | close code reason =>
    obtain ⟨hpassed, hseen, hphase⟩ := socketClosed_fields settings client code reason
    exact ⟨hpassed, hseen, fun other hother => absurd hother (hphase other)⟩

omit [LinearOrder ι] in
theorem PassedOnce.same {after : LiveClient ι} (honce : PassedOnce settings client)
    (hpassed : after.passed = client.passed) (hseen : after.seenOrder = client.seenOrder) :
    PassedOnce settings after := by
  constructor
  case seen => rw [hseen, hpassed, honce.seen]
  case apart =>
    unfold PassedApart
    rw [hpassed]
    exact honce.apart

omit [LinearOrder ι] in
theorem PassedOnce.append {after : LiveClient ι} {event : LiveEvent ι}
    (honce : PassedOnce settings client) (hfresh : event.eventId ∉ client.seenOrder)
    (hpassed : after.passed = client.passed ++ [event])
    (hseen : after.seenOrder =
      (client.seenOrder ++ [event.eventId]).rtake settings.maxSeenEventIds) :
    PassedOnce settings after := by
  constructor
  case seen =>
    rw [hseen, hpassed, honce.seen, rtake_rtake_append, List.map_append, List.map_singleton]
  case apart =>
    intro before found rest hsplit
    rw [hpassed] at hsplit
    rcases List.eq_nil_or_concat rest with rfl | ⟨rest, last, rfl⟩
    · obtain ⟨rfl, hsame⟩ := List.append_inj' hsplit rfl
      cases hsame
      rw [← honce.seen]
      exact hfresh
    · apply honce.apart before found rest
      rw [List.concat_eq_append, ← List.cons_append, ← List.append_assoc] at hsplit
      exact (List.append_inj' hsplit rfl).1

theorem PassedOnce.receive (honce : PassedOnce settings client) (link : LiveLink ι)
    (frame : LiveFrame ι) : PassedOnce settings (client.receive settings link frame) := by
  by_cases hsamp : ∃ event, frame = .sample event
  · obtain ⟨event, rfl⟩ := hsamp
    obtain ⟨hpassed, hseen, _⟩ := touch_fields client link
    dsimp only [LiveClient.receive, LiveClient.handleSample]
    split_ifs with hknown
    · exact honce.same hpassed hseen
    · exact honce.append (hseen ▸ hknown) (congrArg (· ++ [event]) hpassed) (by rw [hseen])
  · obtain ⟨hpassed, hseen, _⟩ := receive_fields settings client link
      fun event hevent => hsamp ⟨event, hevent⟩
    exact honce.same hpassed hseen

end Browser

/-! ## Steps -/

variable [LinearOrder ι] {action : LiveAction ι}

/-- No matching event has a `type` of its own, and when the client is registered again,
what it has missed was captured at the resume point or later. -/
def coversMissed (settings : LiveSettings) (system : LiveSystem ι) :
    LiveAction ι → Bool
  | .commit event =>
    !settings.filters.matches event.toHistorySample || event.typed.isNone
  | .register =>
    match system.client.phase with
    | .socket link => (system.due settings).all fun event =>
      event ∈ system.client.passed || event ∈ system.pending ||
        link.after.any (· ≤ event.capturedAt)
    | _ => true
  | _ => true

section

omit [LinearOrder ι]

theorem Kept.of_client (hkept : system.Kept settings) (hrows : next.rows = system.rows)
    (hpend : ∀ event ∈ next.pending, event ∈ system.pending) (hsince : next.since = system.since)
    (hpassed : next.client.passed = system.client.passed)
    (hseen : next.client.seenOrder = system.client.seenOrder)
    (hlink : ∀ link, next.client.phase = .socket link → next.LinkKept settings link) :
    next.Kept settings := by
  constructor
  case unique => exact hrows ▸ hkept.unique
  case passed => exact hrows ▸ hpassed ▸ hkept.passed
  case pending => exact hrows ▸ fun event hevent => hkept.pending event (hpend event hevent)
  case plain => exact due_congr hrows hsince ▸ hkept.plain
  case once => exact hkept.once.same hpassed hseen
  case link => exact hlink

theorem LinkKept.change {link other : LiveLink ι} (hlink : system.LinkKept settings link)
    (hrows : next.rows = system.rows) (hsince : next.since = system.since)
    (hpassed : next.client.passed = system.client.passed) (hpend : next.pending = system.pending)
    (hend : other.endpoint = link.endpoint) (hframes : other.frames = link.frames) :
    next.LinkKept settings other := by
  constructor
  case frames => rw [hrows, hframes]; exact hlink.frames
  case session =>
    rw [hrows, hframes, hend, hpassed, hpend, due_congr hrows hsince]
    exact hlink.session

theorem LinkKept.commit {link : LiveLink ι} (hlink : system.LinkKept settings link)
    (event : LiveEvent ι) :
    ({ system with
      rows := system.rows ++ [event]
      pending := system.pending ++ [event] } : LiveSystem ι).LinkKept settings link := by
  constructor
  case frames =>
    exact fun found hfound => List.mem_append_left _ (hlink.frames found hfound)
  case session =>
    intro session hreg
    refine (hlink.session session hreg).weaken (List.subset_append_left _ _)
      (List.subset_append_left _ _) (fun _ _ => id) (fun found hfound => (mem_due hfound).1)
      ?_
    intro found hfound
    refine (mem_due_commit hfound).imp_right ?_
    rintro ⟨rfl, _⟩
    exact List.mem_append_right _ (List.mem_singleton_self _)

theorem publishTo_fields (settings : LiveSettings) (system : LiveSystem ι) (event : LiveEvent ι) :
    (system.publishTo settings event).since = system.since ∧
      (system.publishTo settings event).client.passed = system.client.passed ∧
        (system.publishTo settings event).client.seenOrder = system.client.seenOrder := by
  unfold publishTo
  split
  next => split <;> exact ⟨rfl, rfl, rfl⟩
  next => exact ⟨rfl, rfl, rfl⟩

end

theorem LinkKept.publish (hkept : system.Kept settings) {event : LiveEvent ι}
    (hpend : event ∈ system.pending) {link : LiveLink ι}
    (hphase : (system.publishTo settings event).client.phase = .socket link) :
    LinkKept settings { system.publishTo settings event with
      pending := system.pending.erase event } link := by
  have hmatches : ∀ found ∈ system.due settings,
      settings.filters.matches found.toHistorySample = true :=
    fun found hfound => (mem_due hfound).2
  have hevent : event ∈ system.rows := hkept.pending event hpend
  unfold publishTo at hphase ⊢
  split at hphase
  next before hsock =>
    have hbefore := hkept.link before hsock
    split at hphase
    next session hreg =>
      cases hphase
      simp only [answer, setPhase]
      refine ⟨by simpa using hbefore.frames, fun found hfound => ?_⟩
      cases hfound
      rw [List.append_nil]
      exact (hbefore.session session hreg).publish hevent hmatches
    next session hrefusing =>
      cases hphase
      simp only [answer, setPhase]
      exact ⟨by simpa using hbefore.frames, nofun⟩
    next hunregistered _ =>
      rw [hsock] at hphase
      cases hphase
      exact ⟨hbefore.frames, fun session hreg => absurd hreg (hunregistered session)⟩
  next hapart => exact absurd hphase (hapart link)

theorem registerClient_eq {rows : List (LiveEvent ι)} {after : Option Instant}
    {session : LiveSession ι} (hregr : registerClient settings rows after = .registered session) :
    session.queue = [] ∧ session.replayedEventIds = [] ∧ (∀ event ∈ session.replay, event ∈ rows) ∧
        ∀ time ∈ after, ∀ event ∈ rows,
          settings.filters.matches event.toHistorySample = true →
            time ≤ event.capturedAt → event ∈ session.replay := by
  unfold registerClient at hregr
  cases after with
  | none =>
    cases hregr
    exact ⟨rfl, rfl, by simp, by simp⟩
  | some time =>
    dsimp only at hregr
    split_ifs at hregr with hlong
    cases hregr
    refine ⟨rfl, rfl, ?_, ?_⟩
    · exact fun event hevent => (mem_resumeRows (List.mem_reverse.mp hevent)).1
    · intro found hfound event hevent hmatches hle
      cases hfound
      exact List.mem_reverse.mpr (mem_resumeRows_of_le (not_lt.mp hlong) hevent hmatches hle)

theorem openSession_eq_registered {rows : List (LiveEvent ι)} {after : Option Instant}
    {session : LiveSession ι} (hopen : (openSession settings rows after).2 = .registered session) :
    (openSession settings rows after).1 = [] ∧
      registerClient settings rows after = .registered session := by
  unfold openSession at hopen ⊢
  split_ifs at hopen ⊢
  exact ⟨rfl, hopen⟩

theorem SessionKept.register {link : LiveLink ι} (hsock : system.client.phase = .socket link)
    (hguard : system.coversMissed settings .register = true) {session : LiveSession ι}
    (hopen : (openSession settings system.rows link.after).2 = .registered session) :
    SessionKept system.rows system.client.passed system.pending (system.due settings)
      (link.frames ++ (openSession settings system.rows link.after).1) session := by
  obtain ⟨hframes, hregr⟩ := openSession_eq_registered hopen
  obtain ⟨hqueue, hreplayed, hreplay, hcovered⟩ := registerClient_eq hregr
  rw [hframes, List.append_nil]
  refine ⟨hreplay, by simp [hqueue], by simp [hreplayed], fun _ event hevent => ?_⟩
  obtain ⟨hmem, hmatches⟩ := mem_due hevent
  unfold coversMissed at hguard
  rw [hsock] at hguard
  have hmissed := List.all_eq_true.mp hguard event hevent
  simp only [Bool.or_eq_true, decide_eq_true_eq, Option.any_eq_true] at hmissed
  rcases hmissed with (hpassed | hpend) | ⟨time, htime, hle⟩
  · exact .inl hpassed
  · exact .inr (.inr (.inr (.inr hpend)))
  · exact .inr (.inr (.inl (hcovered time htime event hmem hmatches hle)))

omit [LinearOrder ι] in
theorem LinkKept.received {link other : LiveLink ι}
    {frame : LiveFrame ι} {rest : List (LiveFrame ι)} {client : LiveClient ι}
    (hlink : system.LinkKept settings link) (hframes : link.frames = frame :: rest)
    (hpassed : ∀ event ∈ system.client.passed, event ∈ client.passed)
    (hevent : ∀ event, frame = .sample event → event ∈ client.passed)
    (hend : other.endpoint = link.endpoint) (hrest : other.frames = rest) :
    LinkKept settings { system with client } other := by
  constructor
  case frames =>
    intro event hmem
    exact hlink.frames event (hframes ▸ List.mem_cons_of_mem _ (hrest ▸ hmem))
  case session =>
    intro session hreg
    rw [hrest]
    refine (hlink.session session (hend ▸ hreg)).weaken (List.Subset.refl _)
      (List.Subset.refl _) ?_ (fun event hdue => (mem_due hdue).1) fun _ => .inl
    rintro event _ (hold | hold)
    · exact .inl (hpassed event hold)
    · rw [hframes] at hold
      rcases List.mem_cons.mp hold with hsame | hlater
      · exact .inl (hevent event hsame.symm)
      · exact .inr hlater

theorem Kept.receive (hkept : system.Kept settings) {link : LiveLink ι}
    {frame : LiveFrame ι} {rest : List (LiveFrame ι)}
    (hsock : system.client.phase = .socket link) (hframes : link.frames = frame :: rest) :
    Kept settings { system with
      client := system.client.receive settings { link with frames := rest } frame } := by
  have hlink := hkept.link link hsock
  by_cases hsamp : ∃ event, frame = .sample event
  · obtain ⟨event, rfl⟩ := hsamp
    have hevent : event ∈ system.rows :=
      hlink.frames event (hframes ▸ List.mem_cons_self)
    obtain ⟨hpassed, hseen, hphase⟩ := touch_fields system.client
      { link with frames := rest }
    dsimp only [LiveClient.receive, LiveClient.handleSample]
    split_ifs with hknown
    · -- The event has been passed: its identifier is one of the last ones.
      have hold : event ∈ system.client.passed := by
        rw [hseen, hkept.once.seen] at hknown
        obtain ⟨other, hother, hid⟩ := List.mem_map.mp (mem_of_mem_rtake hknown)
        have hsame : other = event :=
          List.inj_on_of_nodup_map hkept.unique (hkept.passed other hother) hevent hid
        exact hsame ▸ hother
      refine hkept.of_client rfl (fun _ => id) rfl hpassed hseen fun other hother => ?_
      obtain ⟨hend, hrest⟩ := hphase other hother
      refine hlink.received hframes ?_ ?_ hend hrest
      · rw [hpassed]
        exact fun _ => id
      · rintro found hfound
        cases hfound
        rw [hpassed]
        exact hold
    · refine { hkept with passed := ?passed, once := ?once, link := ?link }
      case passed =>
        rw [hpassed]
        intro found hfound
        rcases List.mem_append.mp hfound with hold | hnew
        · exact hkept.passed found hold
        · exact List.mem_singleton.mp hnew ▸ hevent
      case once =>
        exact hkept.once.append (hseen ▸ hknown) (congrArg (· ++ [event]) hpassed) (by rw [hseen])
      case link =>
        intro other hother
        obtain ⟨hend, hrest⟩ := hphase other hother
        refine hlink.received hframes ?_ ?_ hend hrest
        · rw [hpassed]
          exact fun found hfound => List.mem_append_left _ hfound
        · rintro found hfound
          cases hfound
          exact List.mem_append_right _ (List.mem_singleton_self _)
  · have hother : ∀ event, frame ≠ .sample event :=
      fun event hevent => hsamp ⟨event, hevent⟩
    obtain ⟨hpassed, hseen, hphase⟩ := receive_fields settings system.client
      { link with frames := rest } hother
    refine hkept.of_client rfl (fun _ => id) rfl hpassed hseen fun other hsame => ?_
    obtain ⟨hend, hrest⟩ := hphase other hsame
    refine hlink.received hframes ?_ ?_ hend hrest
    · rw [hpassed]
      exact fun _ => id
    · exact fun event hevent => absurd hevent (hother event)

variable {endpoint : EndpointPhase ι}

omit [LinearOrder ι] in
theorem LinkKept.unregistered {link : LiveLink ι} {frames : List (LiveFrame ι)}
    (hlink : system.LinkKept settings link)
    (hframes : ∀ event, .sample event ∈ frames → event ∈ system.rows)
    (hend : ∀ session, endpoint ≠ .registered session) :
    system.LinkKept settings
      { link with frames := link.frames ++ frames, endpoint } := by
  refine ⟨?_, fun session hreg => absurd hreg (hend session)⟩
  intro event hevent
  exact (List.mem_append.mp hevent).elim (hlink.frames event) (hframes event)

theorem sendNext_frames {session : LiveSession ι} {frames : List (LiveFrame ι)}
    (hsent : session.sendNext = some (frames, endpoint))
    (hended : ∀ after, endpoint ≠ .registered after) :
    ∀ event, .sample event ∉ frames := by
  unfold LiveSession.sendNext at hsent
  split at hsent
  next =>
    cases hsent
    exact absurd rfl (hended _)
  next =>
    split_ifs at hsent
    · cases hsent
      exact absurd rfl (hended _)
    · cases hsent
      exact absurd rfl (hended _)
  next =>
    cases hsent
    simp
  next =>
    cases hsent
    simp
  next => cases hsent

theorem EndpointEffect.linkKept (hkept : system.Kept settings) {link : LiveLink ι}
    {frames : List (LiveFrame ι)} (hguard : system.coversMissed settings action = true)
    (hsock : system.client.phase = .socket link)
    (heff : EndpointEffect settings system.rows link action frames endpoint) :
    system.LinkKept settings
      { link with frames := link.frames ++ frames, endpoint } := by
  have hlink := hkept.link link hsock
  cases heff with
  | admits => exact hlink.unregistered (by simp) (by simp)
  | @answers answer =>
    apply hlink.unregistered
    · cases answer <;> simp [authenticate]
    · cases answer <;> simp [authenticate]
  | opens hadmitted =>
    by_cases hreg : ∃ session, (openSession settings system.rows link.after).2 = .registered session
    · obtain ⟨session, hopen⟩ := hreg
      constructor
      case frames =>
        rw [(openSession_eq_registered hopen).1, List.append_nil]
        exact hlink.frames
      case session =>
        intro found hfound
        cases hopen.symm.trans hfound
        exact SessionKept.register hsock hguard hopen
    · refine hlink.unregistered ?_ fun session hopen => hreg ⟨session, hopen⟩
      unfold openSession
      split_ifs <;> simp
  | @sends session frames endpoint hreg hsent =>
    have hsess := hlink.session session hreg
    by_cases hafter : ∃ after, endpoint = .registered after
    · obtain ⟨after, rfl⟩ := hafter
      obtain ⟨hkeptAfter, hmem⟩ := hsess.sendNext hkept.unique hkept.plain hsent
      constructor
      case frames =>
        intro event hevent
        exact (List.mem_append.mp hevent).elim (hlink.frames event) (hmem event)
      case session =>
        intro found hfound
        cases hfound
        exact hkeptAfter
    · have hended : ∀ after, endpoint ≠ .registered after :=
        fun after hsame => hafter ⟨after, hsame⟩
      exact hlink.unregistered
        (fun event hevent => absurd hevent (sendNext_frames hsent hended event)) hended
  | beats hreg =>
    constructor
    case frames =>
      intro event hevent
      exact (List.mem_append.mp hevent).elim (hlink.frames event) (by simp)
    case session =>
      intro session hsess
      exact (hlink.session session hsess).weaken (List.Subset.refl _)
        (List.Subset.refl _) (fun _ _ => Or.imp_right (List.mem_append_left _))
        (fun event hdue => (mem_due hdue).1) fun _ => .inl
  | refuses _ => exact hlink.unregistered (by simp [resumeRefused]) (by simp)
  | @timesOut session sent frames hreg hnext =>
    refine hlink.unregistered ?_ (by simp)
    intro event hevent
    rcases List.mem_append.mp hevent with hsent | hclose
    · rcases hnext with rfl | rfl | ⟨after, hafter⟩
      · cases hsent
      · simp at hsent
      · exact ((hlink.session session hreg).sendNext hkept.unique hkept.plain hafter).2 event hsent
    · simp at hclose
  | @refusalTimesOut session sent hrefusing =>
    refine hlink.unregistered ?_ (by simp)
    cases sent <;> simp [resumeRefused]
  | fails => exact hlink.unregistered (by simp) (by simp)

omit [LinearOrder ι] in
theorem due_answer {link : LiveLink ι} {frames : List (LiveFrame ι)} :
    due settings { system.answer link frames endpoint with
      since := system.firstAfter action } = system.due settings := by
  unfold firstAfter
  split
  next =>
    cases hsince : system.since with
    | none => simp [due, hsince, answer, setPhase]
    | some count => simp [due, hsince, answer, setPhase]
  next => rfl

theorem Kept.answer (hkept : system.Kept settings) {link : LiveLink ι} {frames : List (LiveFrame ι)}
    (hguard : system.coversMissed settings action = true)
    (hsock : system.client.phase = .socket link)
    (heff : EndpointEffect settings system.rows link action frames endpoint) :
    Kept settings { system.answer link frames endpoint with
      since := system.firstAfter action } := by
  have hlink := heff.linkKept hkept hguard hsock
  refine { hkept with plain := ?plain, once := ?once, link := ?link }
  case plain =>
    rw [due_answer]
    exact hkept.plain
  case once => exact hkept.once.same rfl rfl
  case link =>
    intro other hother
    cases hother
    refine ⟨hlink.frames, fun session hreg => ?_⟩
    rw [due_answer]
    exact hlink.session session hreg

theorem Kept.step (hkept : system.Kept settings)
    (hguard : system.coversMissed settings action = true)
    (heff : LiveEffect settings system action next) : next.Kept settings := by
  cases heff with
  | same => exact hkept
  | @commits event hfresh =>
    constructor
    case unique =>
      rw [List.map_append, List.map_singleton]
      exact hkept.unique.append (List.nodup_singleton _) fun eventId hold hnew => by
        cases List.mem_singleton.mp hnew
        exact hfresh hold
    case passed =>
      exact fun found hfound => List.mem_append_left _ (hkept.passed found hfound)
    case pending =>
      intro found hfound
      exact (List.mem_append.mp hfound).elim
        (fun hold => List.mem_append_left _ (hkept.pending found hold))
        (List.mem_append_right _)
    case plain =>
      intro found hfound
      rcases mem_due_commit hfound with hold | ⟨rfl, hmatches⟩
      · exact hkept.plain found hold
      · unfold coversMissed at hguard
        simpa [hmatches] using hguard
    case once => exact hkept.once
    case link =>
      exact fun link hlink => (hkept.link link hlink).commit event
  | @publishes event hpend =>
    obtain ⟨hsince, hpassed, hseen⟩ := publishTo_fields settings system event
    exact hkept.of_client (publishTo_rows ..) (fun _ => List.mem_of_mem_erase) hsince
      hpassed hseen fun link hlink => LinkKept.publish hkept hpend hlink
  | restartsApart hapart =>
    exact hkept.of_client rfl (by simp) rfl rfl rfl fun link hlink => absurd hlink (hapart link)
  | restarts hsock =>
    have hbefore := hkept.link _ hsock
    refine hkept.of_client rfl (by simp) rfl rfl rfl fun link hlink => ?_
    cases hlink
    refine ⟨hbefore.frames, fun session hreg => ?_⟩
    unfold restart at hreg
    split at hreg
    next before hend =>
      cases hreg
      exact (hbefore.session before hend).stop
    next => cases hreg
    next => cases hreg
  | creates hconnecting =>
    refine hkept.of_client rfl (fun _ => id) rfl rfl rfl fun link hlink => ?_
    cases hlink
    exact ⟨by simp [startSocket], by simp [startSocket]⟩
  | misses hconnecting =>
    obtain ⟨hpassed, hseen, hphase⟩ := scheduleReconnect_fields settings system.client
    exact hkept.of_client rfl (fun _ => id) rfl hpassed hseen
      fun link hlink => absurd hlink (hphase link)
  | reconnects hwaiting =>
    exact hkept.of_client rfl (fun _ => id) rfl rfl rfl fun link hlink => by cases hlink
  | turns hsock hstate =>
    refine hkept.of_client rfl (fun _ => id) rfl rfl rfl fun link hlink => ?_
    cases hlink
    exact (hkept.link _ hsock).change rfl rfl rfl rfl rfl rfl
  | timesOut =>
    exact hkept.of_client rfl (fun _ => id) rfl rfl rfl fun link hlink => by cases hlink
  | drops hsock =>
    obtain ⟨hpassed, hseen, hphase⟩ := socketClosed_fields settings system.client 1006 ""
    exact hkept.of_client rfl (fun _ => id) rfl hpassed hseen
      fun link hlink => absurd hlink (hphase link)
  | delivers hsock hframes => exact hkept.receive hsock hframes
  | answers hsock heff hfirst =>
    cases hfirst
    exact hkept.answer hguard hsock heff

def settled (system : LiveSystem ι) : Bool :=
  match system.client.phase with
  | .socket link =>
    match link.endpoint with
    | .registered session => system.client.lastState = .connected &&
        link.phase = .opened && !session.closed && session.replay.isEmpty &&
          session.queue.isEmpty && link.frames.isEmpty && system.pending.isEmpty
    | _ => false
  | _ => false

omit [LinearOrder ι] in
theorem passedOnce_subscribe (rows : List (LiveEvent ι)) :
    PassedOnce settings (subscribe rows).client :=
  ⟨by simp [subscribe, LiveClient.connect], by simp [PassedApart, subscribe, LiveClient.connect]⟩

omit [LinearOrder ι] in
theorem kept_subscribe {rows : List (LiveEvent ι)}
    (hunique : (rows.map (·.eventId)).Nodup) : (subscribe rows).Kept settings := by
  constructor
  case unique => exact hunique
  case passed => simp [subscribe, LiveClient.connect]
  case pending => simp [subscribe]
  case plain => simp [due, subscribe]
  case once => exact passedOnce_subscribe rows
  case link => simp [subscribe, LiveClient.connect]

theorem PassedOnce.step (honce : PassedOnce settings system.client)
    (heff : LiveEffect settings system action next) :
    PassedOnce settings next.client := by
  cases heff with
  | same => exact honce
  | commits _ => exact honce
  | @publishes event _ =>
    obtain ⟨_, hpassed, hseen⟩ := publishTo_fields settings system event
    exact honce.same hpassed hseen
  | restartsApart _ => exact honce
  | restarts _ => exact honce.same rfl rfl
  | creates _ => exact honce.same rfl rfl
  | misses _ =>
    exact honce.same (scheduleReconnect_fields _ _).1 (scheduleReconnect_fields _ _).2.1
  | reconnects _ => exact honce.same rfl rfl
  | turns _ _ => exact honce.same rfl rfl
  | timesOut => exact honce.same rfl rfl
  | drops _ => exact honce.same (socketClosed_fields _ _ _ _).1 (socketClosed_fields _ _ _ _).2.1
  | delivers _ _ => exact honce.receive _ _
  | answers _ _ _ => exact honce.same rfl rfl

/-- While the client is registered each matching event since the first registration has
been passed or is on its way, so that nothing is missing when nothing is on its way; and
no event is passed twice while its identifier is among the last ones. -/
theorem live_replays {rows : List (LiveEvent ι)} (hunique : (rows.map (·.eventId)).Nodup)
    {actions : List (LiveAction ι)}
    (hrun : runFrom (LiveSystem.step settings) (subscribe rows) actions = some system) :
    PassedApart settings system.client ∧
      (StepsMeet (LiveSystem.step settings)
          (fun system action => system.coversMissed settings action = true)
          (subscribe rows) actions →
        (∀ link session, system.client.phase = .socket link →
            link.endpoint = .registered session → session.closed = false →
              ∀ event ∈ system.due settings, event ∈ system.client.passed ∨
                .sample event ∈ link.frames ∨ event ∈ session.replay ∨
                  .event event ∈ session.queue ∨ event ∈ system.pending) ∧
          (system.settled = true →
            ∀ event ∈ system.due settings, event ∈ system.client.passed)) := by
  constructor
  · have hreach : Reaches (LiveSystem.step settings) (fun _ _ => True) (subscribe rows)
        system := .of_runFrom (fun _ _ _ => trivial) hrun
    have honce : PassedOnce settings system.client := hreach.invariant
      (P := fun system => PassedOnce settings system.client)
      (fun _ _ _ honce _ hstep => honce.step (step_effect hstep))
      (passedOnce_subscribe rows)
    exact honce.apart
  · intro hmeet
    have hkept : system.Kept settings := (Reaches.of_stepsMeet hmeet hrun).invariant
      (P := fun system => system.Kept settings)
      (fun _ _ _ hkept hguard hstep => hkept.step hguard (step_effect hstep))
      (kept_subscribe hunique)
    have htracked : ∀ link session, system.client.phase = .socket link →
        link.endpoint = .registered session → session.closed = false →
          ∀ event ∈ system.due settings, event ∈ system.client.passed ∨
            .sample event ∈ link.frames ∨ event ∈ session.replay ∨
              .event event ∈ session.queue ∨ event ∈ system.pending :=
      fun link session hsock hreg hopen =>
        ((hkept.link link hsock).session session hreg).tracked hopen
    refine ⟨htracked, fun hsettled event hevent => ?_⟩
    unfold settled at hsettled
    split at hsettled
    next link hsock =>
      split at hsettled
      next session hreg =>
        simp only [Bool.and_eq_true, Bool.not_eq_true', List.isEmpty_iff] at hsettled
        obtain ⟨⟨⟨⟨⟨_, hopen⟩, hreplay⟩, hqueue⟩, hframes⟩, hpend⟩ := hsettled
        have hway := htracked link session hsock hreg hopen event hevent
        rw [hframes, hreplay, hqueue, hpend] at hway
        simpa using hway
      next => cases hsettled
    next => cases hsettled

theorem live_replays_plain :
    ∃ system ∈ runFrom (LiveSystem.step plainSettings) (subscribe [])
        (connects ++ receives (plainEvent 1 10) ++
          [.drop, .commit (plainEvent 2 20), .publish (plainEvent 2 20), .reconnect] ++
          connects ++ [.sendNext, .deliver, .sendNext, .deliver]),
      plainEvent 2 20 ∈ system.due plainSettings ∧
        plainEvent 2 20 ∈ system.client.passed := by
  have hsystem : ∃ system ∈ runFrom (LiveSystem.step plainSettings) (subscribe [])
      (connects ++ receives (plainEvent 1 10) ++
        [.drop, .commit (plainEvent 2 20), .publish (plainEvent 2 20), .reconnect] ++
        connects ++ [.sendNext, .deliver, .sendNext, .deliver]),
      system.settled = true ∧ plainEvent 2 20 ∈ system.due plainSettings := by
    decide +kernel
  obtain ⟨system, hrun, hsettled, hdue⟩ := hsystem
  have hunique : (([] : List (LiveEvent ℕ)).map (·.eventId)).Nodup := .nil
  have hreplays := live_replays hunique hrun
  exact ⟨system, hrun, hdue, (hreplays.2 (by decide +kernel)).2 hsettled _ hdue⟩

theorem late_event_lost :
    ∃ system ∈ runFrom (LiveSystem.step plainSettings) (subscribe [])
        (connects ++ receives (plainEvent 1 20) ++
          [.drop, .commit (plainEvent 2 10), .publish (plainEvent 2 10), .reconnect] ++
          connects ++ [.sendNext, .deliver]),
      system.settled = true ∧ plainEvent 2 10 ∈ system.due plainSettings ∧
        plainEvent 2 10 ∉ system.client.passed := by
  decide +kernel

end LiveSystem

end Nexolab
