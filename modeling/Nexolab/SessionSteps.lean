import Nexolab.SessionEffects

/-!
# The effects of the session commands

Each command is inverted once: when it is accepted its key was answered from a
stored event, or it has an effect of the list and the constraints hold after it.
-/

namespace Nexolab

namespace SessionDatabase

variable {before after : SessionDatabase}

def Outcome (before after : SessionDatabase) (command : SessionCommand) : Prop :=
  after = before ∨ after.Constraints ∧ SessionEffect before after command

theorem replayCreate_eq_ok {event : SessionEvent} {payload : SessionCreate}
    (hreplay : before.replayCreate event payload = .ok after) :
    after = before := by
  unfold replayCreate at hreplay
  split at hreplay
  next => cases hreplay
  next record _ =>
    split_ifs at hreplay
    cases hreplay
    rfl

theorem create_outcome {payload : SessionCreate} (hcreate : before.create payload = .ok after) :
    before.Outcome after (.create payload) := by
  unfold create at hcreate
  split at hcreate
  next event _ => exact .inl (replayCreate_eq_ok hcreate)
  next =>
    obtain ⟨hctrs, rfl⟩ := commit_eq_ok hcreate
    exact .inr ⟨hctrs, .created payload rfl ⟨_, rfl, rfl⟩ rfl rfl rfl⟩

variable {sessionId : String} {record : SessionRecord} {time : Instant}
  {request : SessionTransitionRequest} {configuration : ConfigurationCommand}

theorem mem_unreleasedBindings {binding : SessionChannelBinding} :
    binding ∈ before.unreleasedBindings sessionId ↔
      binding ∈ before.bindings ∧ binding.sessionId = sessionId ∧ binding.releasedAt = none := by
  unfold unreleasedBindings
  simp [List.mem_insertionSort, List.mem_filter]

theorem unreleasedBindings_nodup
    (hidentities : before.bindings.Pairwise fun left right =>
      left.sessionId = right.sessionId → left.identity ≠ right.identity)
    (sessionId : String) :
    ((before.unreleasedBindings sessionId).map SessionChannelBinding.identity).Nodup := by
  unfold unreleasedBindings
  refine ((List.perm_insertionSort _ _).map _).nodup_iff.mpr ?_
  rw [List.Nodup, List.pairwise_map]
  refine (hidentities.filter _).imp_of_mem ?_
  intro left right hleft hright hdiffer
  have hsess : ∀ binding ∈ before.bindings.filter (fun binding =>
      binding.sessionId = sessionId && binding.releasedAt.isNone),
      binding.sessionId = sessionId := by
    intro binding hbind
    rw [List.mem_filter, Bool.and_eq_true, decide_eq_true_eq] at hbind
    exact hbind.2.1
  exact hdiffer ((hsess left hleft).trans (hsess right hright).symm)

def frozenSnapshot (database : SessionDatabase) (record : SessionRecord)
    (snapshotId : UuidText) (capturedAt : Instant) : ConfigSnapshotRecord :=
  ⟨snapshotId, record.id, database.nextSnapshotVersion record.id,
    record.nodeId, (database.unreleasedBindings record.id).map fun binding =>
      ⟨binding.id, binding.identity, binding.unit⟩, capturedAt⟩

variable {changed : SessionDatabase} {action : SessionAction}
  {database released : SessionDatabase} {state next : SessionState} {key : String}
  {command : SessionCommand}

theorem frozenSnapshot_frozen {snapshotId : UuidText}
    (hsnaps : changed.snapshots = before.snapshots) (hbinds : after.bindings = changed.bindings)
    (happended : after.snapshots = changed.snapshots ++
      [changed.frozenSnapshot record snapshotId time])
    (hctrs : after.Constraints) :
    FrozenSnapshot before after record (changed.frozenSnapshot record snapshotId time) time := by
  constructor
  case sessionId => rfl
  case version =>
    unfold frozenSnapshot nextSnapshotVersion
    rw [hsnaps]
  case capturedAt => rfl
  case bindings =>
    intro entry hent
    obtain ⟨binding, hbind, rfl⟩ := List.mem_map.mp hent
    obtain ⟨hmem, hsess, hrel⟩ := mem_unreleasedBindings.mp hbind
    exact ⟨binding, hbinds ▸ hmem, hsess, hrel, rfl, rfl⟩
  case distinct =>
    have hidentities := hctrs.bindingIdentities
    rw [hbinds] at hidentities
    have hnodup := unreleasedBindings_nodup hidentities record.id
    unfold frozenSnapshot
    rw [List.map_map]
    exact hnodup
  case appended => rw [happended, hsnaps]

/-! ## Transitions -/

theorem transitionSession_eq_ok {current next : SessionState} {reason : Option String}
    (htrans : transitionSession current action reason = .ok next) :
    allowedTransition current action = some next := by
  unfold transitionSession at htrans
  split at htrans
  next => cases htrans
  next =>
    split at htrans
    next allowed hallowed =>
      cases htrans
      exact hallowed
    next => cases htrans

@[simp] theorem applyTransitionTimestamp_id (record : SessionRecord)
    (action : SessionAction) (time : Instant) :
    (applyTransitionTimestamp record action time).id = record.id := by
  cases action <;> rfl

@[simp] theorem applyTransitionTimestamp_state (record : SessionRecord)
    (action : SessionAction) (time : Instant) :
    (applyTransitionTimestamp record action time).state = record.state := by
  cases action <;> rfl

@[simp] theorem applyTransitionTimestamp_nodeId (record : SessionRecord)
    (action : SessionAction) (time : Instant) :
    (applyTransitionTimestamp record action time).nodeId = record.nodeId := by
  cases action <;> rfl

@[simp] theorem applyTransitionTimestamp_currentStageId (record : SessionRecord)
    (action : SessionAction) (time : Instant) :
    (applyTransitionTimestamp record action time).currentStageId = record.currentStageId := by
  cases action <;> rfl

@[simp] theorem applyTransitionTimestamp_activeConfigSnapshotId
    (record : SessionRecord) (action : SessionAction) (time : Instant) :
    (applyTransitionTimestamp record action time).activeConfigSnapshotId =
      record.activeConfigSnapshotId := by
  cases action <;> rfl

theorem activate_releasedAt (binding : SessionChannelBinding) (time : Instant) :
    (binding.activate time).releasedAt = binding.releasedAt := by
  unfold SessionChannelBinding.activate
  split <;> rfl

theorem activate_isSome (binding : SessionChannelBinding) (time : Instant) :
    (binding.activate time).activatedAt.isSome = true := by
  unfold SessionChannelBinding.activate
  split
  next => rfl
  next hsome => rw [hsome]; rfl

theorem activate_keys (binding : SessionChannelBinding) (time : Instant) :
    (binding.activate time).id = binding.id ∧
      (binding.activate time).sessionId = binding.sessionId ∧
      (binding.activate time).identity = binding.identity := by
  unfold SessionChannelBinding.activate
  split <;> exact ⟨rfl, rfl, rfl⟩

theorem bindingsChanged_map {active : Bool} {bindings : List SessionChannelBinding}
    {selected : SessionChannelBinding → Prop} [DecidablePred selected]
    (rewrite : SessionChannelBinding → SessionChannelBinding)
    (hkeys : ∀ binding, (rewrite binding).id = binding.id ∧
      (rewrite binding).sessionId = binding.sessionId ∧
      (rewrite binding).identity = binding.identity)
    (hrows : ∀ binding ∈ bindings, selected binding → binding.sessionId = sessionId ∧
        ((rewrite binding).releasedAt = none ∧ (rewrite binding).activatedAt.isSome = active ∨
          (rewrite binding).releasedAt = some time ∧
            (rewrite binding).activatedAt.isSome = true)) :
    BindingsChanged sessionId active time bindings (bindings.map fun binding =>
        if selected binding then rewrite binding else binding) := by
  constructor
  case rows =>
    intro binding hbind
    obtain ⟨source, hsrc, rfl⟩ := List.mem_map.mp hbind
    split_ifs with hsel
    · obtain ⟨hsess, hrow⟩ := hrows source hsrc hsel
      exact .inr ⟨(hkeys source).2.1.trans hsess, hrow⟩
    · exact .inl hsrc
  case persists =>
    intro binding hbind
    refine ⟨_, List.mem_map.mpr ⟨binding, hbind, rfl⟩, ?_⟩
    split_ifs with hsel
    · exact hkeys binding
    · exact ⟨rfl, rfl, rfl⟩

theorem activateBindings_changed (database : SessionDatabase)
    (sessionId : String) (time : Instant) :
    BindingsChanged sessionId true time database.bindings
      (database.activateBindings sessionId time).bindings := by
  refine bindingsChanged_map (fun binding => binding.activate time)
    (fun binding => activate_keys binding time) ?_
  rintro binding _ ⟨hsess, hrel⟩
  exact ⟨hsess, .inl ⟨(activate_releasedAt binding time).trans hrel, activate_isSome binding time⟩⟩

theorem activateBindings_settled {database : SessionDatabase} {binding : SessionChannelBinding}
    (hbind : binding ∈ (database.activateBindings sessionId time).bindings)
    (hsess : binding.sessionId = sessionId) (hrel : binding.releasedAt = none) :
    binding.activatedAt.isSome = true ∧ ∃ other ∈ database.bindings, other.sessionId = sessionId ∧
        other.releasedAt = none ∧ other.identity = binding.identity := by
  obtain ⟨source, hsrc, rfl⟩ := List.mem_map.mp hbind
  split_ifs at hsess hrel ⊢ with hsel
  · exact ⟨activate_isSome source time, source, hsrc, hsel.1,
      hsel.2, ((activate_keys source time).2.2).symm⟩
  · exact absurd ⟨hsess, hrel⟩ hsel

theorem releaseBindings_eq_ok (hrelease : database.releaseBindings sessionId time = .ok released) :
    released = { database with
      bindings := database.bindings.map fun binding =>
        if binding.sessionId = sessionId ∧ binding.leased = true then
          { binding with releasedAt := some time }
        else binding } := by
  unfold releaseBindings at hrelease
  split_ifs at hrelease
  cases hrelease
  rfl

theorem releaseBindings_changed
    (hrelease : database.releaseBindings sessionId time = .ok released) :
    BindingsChanged sessionId true time database.bindings released.bindings := by
  rw [releaseBindings_eq_ok hrelease]
  refine bindingsChanged_map (fun binding =>
    { binding with releasedAt := some time }) (fun _ => ⟨rfl, rfl, rfl⟩) ?_
  rintro binding _ ⟨hsess, hleased⟩
  unfold SessionChannelBinding.leased at hleased
  rw [Bool.and_eq_true] at hleased
  exact ⟨hsess, .inr ⟨rfl, hleased.1⟩⟩

theorem releaseBindings_released
    (hrelease : database.releaseBindings sessionId time = .ok released) :
    ∀ binding ∈ released.bindings, binding.sessionId = sessionId → binding.leased = false := by
  rw [releaseBindings_eq_ok hrelease]
  intro binding hbind hsess
  obtain ⟨source, _, rfl⟩ := List.mem_map.mp hbind
  split_ifs at hsess ⊢ with hsel
  · simp [SessionChannelBinding.leased]
  · have hnot : ¬ source.leased = true :=
      fun hleased => hsel ⟨hsess, hleased⟩
    simpa using hnot

theorem allowedTransition_quiet (hnext : allowedTransition state action = some next)
    (hstart : action ≠ .start) (hcomp : action ≠ .complete) (hcancel : action ≠ .cancel) :
    next.active = state.active ∧ next.immutable = state.immutable := by
  cases action <;> cases state <;> simp_all [allowedTransition]
  all_goals
    subst hnext
    exact ⟨rfl, rfl⟩

theorem allowedTransition_close (hnext : allowedTransition state action = some next)
    (haction : action = .complete ∨ action = .cancel) :
    state.immutable = false ∧ next.immutable = true := by
  rcases haction with rfl | rfl
  all_goals
    cases state <;> simp_all [allowedTransition]
  all_goals
    subst hnext
    exact ⟨rfl, rfl⟩

theorem allowedTransition_start (hnext : allowedTransition state .start = some next) :
    state = .ready ∧ next = .running := by
  cases state <;> simp_all [allowedTransition]

def transitioned (record : SessionRecord) (request : SessionTransitionRequest)
    (next : SessionState) : SessionRecord :=
  applyTransitionTimestamp { record with state := next } request.action request.occurredAt

theorem transitioned_change {configured : SessionDatabase}
    {next : SessionState} (hbefore : before.Constraints) (hrec : record ∈ before.sessions)
    (hsessions : configured.sessions = before.sessions)
    (hevents : configured.events = before.events) :
    SessionChange before ((configured.updateSession record.id fun current =>
        transitioned current request next).recordEvent
        ⟨record.id, .transition request.action, key, request.occurredAt⟩)
      record (transitioned record request next) request.occurredAt := by
  constructor
  case mem => exact hrec
  case sessions =>
    change (configured.updateSession record.id _).sessions = _
    rw [updateSession_sessions (by rw [hsessions]; exact hbefore.sessionKeys)
      (by rw [hsessions]; exact hrec)
      (applyTransitionTimestamp_id _ _ _), hsessions]
  case id => exact applyTransitionTimestamp_id _ _ _
  case node => exact applyTransitionTimestamp_nodeId _ _ _
  case event =>
    refine ⟨⟨record.id, .transition request.action, key, request.occurredAt⟩,
      rfl, rfl, ?_⟩
    change configured.events ++ _ = _
    rw [hevents]

theorem start_effect (hbefore : before.Constraints)
    (hrec : record ∈ before.sessions) (hid : record.id = request.sessionId)
    (hanswers : before.answers record.id request.idempotencyKey = false)
    (haction : request.action = .start) (hready : record.state = .ready)
    (hafter : after = (((before.activateBindings record.id
        request.occurredAt).freezeConfiguration record request.snapshotId
          request.occurredAt).updateSession record.id fun current =>
        transitioned current request .running).recordEvent
        ⟨record.id, .transition request.action, key, request.occurredAt⟩)
    (hctrs : after.Constraints) :
    SessionEffect before after (.transition request) := by
  have hbinds : after.bindings = (before.activateBindings record.id
      request.occurredAt).bindings := by
    rw [hafter]
    rfl
  refine .frozen record (transitioned { record with
      activeConfigSnapshotId := some request.snapshotId.text } request .running)
    ((before.activateBindings record.id request.occurredAt).frozenSnapshot record
      request.snapshotId request.occurredAt)
    ⟨hrec, ?_, ?_, ?_, ?_⟩ ?_ (.inl ⟨hready, ?_⟩) ?_ ?_ ?_ ?_ ?_ ?_ ?_ ?_ ?_ ?_
  · rw [hafter]
    change ((SessionDatabase.updateSession _ record.id _).updateSession record.id _).sessions = _
    rw [updateSession_updateSession, updateSession_sessions]
    · rfl
    · exact hbefore.sessionKeys
    · exact hrec
    · exact applyTransitionTimestamp_id _ _ _
    · exact fun _ => rfl
  · exact applyTransitionTimestamp_id _ _ _
  · exact applyTransitionTimestamp_nodeId _ _ _
  · rw [hafter]
    exact ⟨_, rfl, rfl, rfl⟩
  · rw [hid] at hanswers
    simp [SessionCommand.freezes, hid, haction, hready, hanswers]
  · simp [transitioned, haction, applyTransitionTimestamp, SessionCommand.occurredAt]
  · simp [transitioned, SessionState.active]
  · simp [transitioned, haction, applyTransitionTimestamp]
  · simp [transitioned, haction, applyTransitionTimestamp]
  · simp [transitioned]
  · simp [transitioned, frozenSnapshot]
  · rw [hbinds]
    exact activateBindings_changed before record.id request.occurredAt
  · rw [hbinds]
    intro binding hbind hsess hrel
    exact .inl (activateBindings_settled hbind hsess hrel).1
  · rw [hbinds]
    intro binding hbind hsess hrel
    exact .inr (activateBindings_settled hbind hsess hrel).2
  · refine frozenSnapshot_frozen rfl hbinds ?_ hctrs
    rw [hafter]
    rfl
  · rw [hafter]
    rfl

theorem close_effect {next : SessionState}
    {configured : SessionDatabase} (hbefore : before.Constraints) (hrec : record ∈ before.sessions)
    (haction : request.action = .complete ∨ request.action = .cancel)
    (hnext : allowedTransition record.state request.action = some next)
    (hrel : before.releaseBindings record.id request.occurredAt = .ok configured) :
    SessionEffect before ((configured.updateSession record.id fun current =>
        transitioned current request next).recordEvent
        ⟨record.id, .transition request.action, key, request.occurredAt⟩)
      (.transition request) := by
  have hparts := releaseBindings_eq_ok hrel
  have hchanged := releaseBindings_changed hrel
  have hrows := releaseBindings_released hrel
  obtain ⟨hmutable, himm⟩ := allowedTransition_close hnext haction
  refine .closed record (transitioned record request next)
    (transitioned_change hbefore hrec (by rw [hparts]) (by rw [hparts]))
    hmutable ?_ ?_ ?_ (applyTransitionTimestamp_currentStageId _ _ _)
    (applyTransitionTimestamp_activeConfigSnapshotId _ _ _)
    hchanged hrows ?_ ?_
  · rw [transitioned, applyTransitionTimestamp_state]
    exact himm
  · rcases haction with haction | haction
    all_goals
      rw [transitioned, haction]
      rfl
  · rcases haction with haction | haction
    · left
      rw [transitioned, haction]
      exact ⟨rfl, rfl⟩
    · right
      rw [transitioned, haction]
      exact ⟨rfl, rfl⟩
  · change configured.snapshots = before.snapshots
    rw [hparts]
  · change configured.stages = before.stages
    rw [hparts]

theorem quiet_effect {next : SessionState}
    (hbefore : before.Constraints) (hrec : record ∈ before.sessions)
    (hstart : request.action ≠ .start) (hcomp : request.action ≠ .complete)
    (hcancel : request.action ≠ .cancel)
    (hnext : allowedTransition record.state request.action = some next) :
    SessionEffect before ((before.updateSession record.id fun current =>
        transitioned current request next).recordEvent
        ⟨record.id, .transition request.action, key, request.occurredAt⟩)
      (.transition request) := by
  obtain ⟨hact, himm⟩ :=
    allowedTransition_quiet hnext hstart hcomp hcancel
  refine .recorded record (transitioned record request next)
    (transitioned_change hbefore hrec rfl rfl) ?_
    (applyTransitionTimestamp_activeConfigSnapshotId _ _ _) rfl rfl rfl
  cases haction : request.action with
  | start => exact absurd haction hstart
  | complete => exact absurd haction hcomp
  | cancel => exact absurd haction hcancel
  | prepare | pause | resume | archive =>
    rw [transitioned, haction]
    exact ⟨rfl, rfl, rfl, rfl, hact, himm⟩

theorem transition_outcome (hbefore : before.Constraints)
    (htrans : before.transition request = .ok after) :
    before.Outcome after (.transition request) := by
  simp only [transition, bind_eq_ok] at htrans
  obtain ⟨key, hkey, record, hlocked, hout⟩ := htrans
  obtain ⟨hrec, hid⟩ := lockedSession_eq_ok hlocked
  split at hout
  next event _ => exact .inl (replayCommand_eq_ok hout)
  next hnone =>
    simp only [bind_eq_ok] at hout
    obtain ⟨next, hnext, configured, hconfigured, hcommit⟩ := hout
    have hallowed := transitionSession_eq_ok hnext
    obtain ⟨hctrs, hafter⟩ := commit_eq_ok hcommit
    rw [← hafter] at hctrs
    refine .inr ⟨hctrs, ?_⟩
    unfold transitionConfiguration at hconfigured
    split at hconfigured
    next hstart =>
      rw [hstart] at hallowed
      obtain ⟨hready, rfl⟩ := allowedTransition_start hallowed
      cases hconfigured
      exact start_effect hbefore hrec hid (answers_eq_false hkey hnone) hstart hready hafter hctrs
    next hcomp =>
      rw [hafter]
      exact close_effect hbefore hrec (.inl hcomp) hallowed hconfigured
    next hcancel =>
      rw [hafter]
      exact close_effect hbefore hrec (.inr hcancel) hallowed hconfigured
    next hstart hcomp hcancel =>
      cases hconfigured
      rw [hafter]
      exact quiet_effect hbefore hrec hstart hcomp hcancel hallowed

structure ConfigurationRows (before changed : SessionDatabase)
    (record next : SessionRecord) (channels : List SeriesKey) (time : Instant) :
    Prop where
  sessions : changed.sessions = replaceSession before.sessions next
  id : next.id = record.id
  node : next.nodeId = record.nodeId
  course : record.SameCourse next
  configuration : next.activeConfigSnapshotId = record.activeConfigSnapshotId
  bindings : BindingsChanged record.id record.state.active time before.bindings
    changed.bindings
  listed : ∀ binding ∈ changed.bindings, binding.sessionId = record.id →
    binding.releasedAt = none → binding.identity ∈ channels ∨
      ∃ other ∈ before.bindings, other.sessionId = record.id ∧
        other.releasedAt = none ∧ other.identity = binding.identity
  snapshots : changed.snapshots = before.snapshots
  stages : changed.stages = before.stages
  events : changed.events = before.events

theorem assertConfigurationChangeAllowed_eq_ok
    {command : ConfigurationCommand} {state : SessionState}
    (hallowed : assertConfigurationChangeAllowed record command = .ok state) :
    state = record.state ∧ record.state.immutable = false := by
  unfold assertConfigurationChangeAllowed at hallowed
  split_ifs at hallowed with himm
  cases hallowed
  exact ⟨rfl, by simpa using himm⟩

theorem map_replaceSession {sessions : List SessionRecord}
    {next : SessionRecord} (update : SessionRecord → SessionRecord)
    (hid : (update next).id = next.id) :
    ((replaceSession sessions next).map fun record =>
      if record.id = next.id then update record else record) =
        replaceSession sessions (update next) := by
  unfold replaceSession
  rw [List.map_map]
  apply List.map_congr_left
  intro record _
  rw [hid]
  by_cases hsame : record.id = next.id
  · simp [hsame]
  · simp [hsame]

theorem configuration_effect {record next : SessionRecord} {eventType : SessionEventType}
    (hrec : record ∈ before.sessions) (htime : command.occurredAt = configuration.occurredAt)
    (hfreezes : record.state.active = true → command.freezes before record = true)
    (hmutable : record.state.immutable = false)
    (hrows : ConfigurationRows before changed record next command.channels configuration.occurredAt)
    (hafter : after = (changed.freezeIfActive record configuration).recordEvent
      ⟨record.id, eventType, key, configuration.occurredAt⟩)
    (hctrs : after.Constraints) :
    SessionEffect before after command := by
  have hevents : ∃ event, event.sessionId = record.id ∧ event.occurredAt = command.occurredAt ∧
      after.events = before.events ++ [event] := by
    refine ⟨⟨record.id, eventType, key, configuration.occurredAt⟩, rfl, htime.symm, ?_⟩
    rw [hafter]
    unfold freezeIfActive
    split_ifs
    all_goals
      change changed.events ++ _ = _
      rw [hrows.events]
  by_cases hact : record.state.active = true
  · unfold freezeIfActive at hafter
    rw [if_pos hact] at hafter
    have hbinds : after.bindings = changed.bindings := by
      rw [hafter]
      rfl
    have hcourse := hrows.course
    refine .frozen record
      { next with
        activeConfigSnapshotId := some configuration.snapshotId.text }
      (changed.frozenSnapshot record configuration.snapshotId configuration.occurredAt)
      ⟨hrec, ?_, hrows.id, hrows.node, hevents⟩ (hfreezes hact)
      (.inr ⟨hact, hcourse.startedAt⟩) (hcourse.active.trans hact)
      hcourse.completedAt hcourse.cancelledAt hcourse.currentStageId rfl ?_ ?_
      ?_ ?_ ?_
    · rw [hafter]
      change changed.sessions.map _ = _
      rw [hrows.sessions, ← hrows.id]
      exact map_replaceSession (fun current : SessionRecord =>
        { current with
          activeConfigSnapshotId := some configuration.snapshotId.text }) rfl
    · have hchanged := hrows.bindings
      rw [hact, ← hbinds, ← htime] at hchanged
      exact hchanged
    · rw [hbinds]
      intro binding hbind hsess hrel
      rcases hrows.bindings.rows binding hbind with hold | ⟨_, hadded | hremoved⟩
      · exact .inr ⟨hact, hold⟩
      · exact .inl (hadded.2.trans hact)
      · rw [hremoved.1] at hrel
        cases hrel
    · rw [hbinds]
      exact hrows.listed
    · rw [htime]
      refine frozenSnapshot_frozen hrows.snapshots hbinds ?_ hctrs
      rw [hafter]
      rfl
    · rw [hafter]
      exact hrows.stages
  · unfold freezeIfActive at hafter
    rw [if_neg hact] at hafter
    have hinact : record.state.active = false := by simpa using hact
    have hchanged := hrows.bindings
    rw [hinact, ← htime] at hchanged
    rw [hafter] at hevents ⊢
    exact .configured record next
      ⟨hrec, hrows.sessions, hrows.id, hrows.node, hevents⟩ hrows.course
      hrows.configuration hinact hmutable hchanged hrows.snapshots hrows.stages

theorem configurationChange_outcome {eventType : SessionEventType} {error : SessionError}
    {change : SessionRecord → SessionState → Except SessionError SessionDatabase}
    (htime : command.occurredAt = configuration.occurredAt)
    (hfreezes : ∀ record : SessionRecord, record.id = configuration.sessionId →
      record.state.active = true →
      before.answers record.id configuration.idempotencyKey = false →
      command.freezes before record = true)
    (hchange : ∀ record ∈ before.sessions, ∀ changed,
      change record record.state = .ok changed →
      ∃ next, ConfigurationRows before changed record next command.channels
        configuration.occurredAt)
    (hcmd : before.configurationChange configuration eventType error change = .ok after) :
    before.Outcome after command := by
  simp only [configurationChange, bind_eq_ok] at hcmd
  obtain ⟨key, hkey, record, hlocked, hout⟩ := hcmd
  obtain ⟨hrec, hid⟩ := lockedSession_eq_ok hlocked
  split at hout
  next event _ => exact .inl (replayCommand_eq_ok hout)
  next hnone =>
    simp only [bind_eq_ok] at hout
    obtain ⟨state, hstate, changed, hchanged, hcommit⟩ := hout
    obtain ⟨rfl, hmutable⟩ := assertConfigurationChangeAllowed_eq_ok hstate
    obtain ⟨hctrs, hafter⟩ := commit_eq_ok hcommit
    rw [← hafter] at hctrs
    obtain ⟨next, hrows⟩ := hchange record hrec changed hchanged
    exact .inr ⟨hctrs, configuration_effect hrec htime
      (fun hact => hfreezes record hid hact (answers_eq_false hkey hnone))
      hmutable hrows hafter hctrs⟩

/-! ## Row changes -/

theorem replaceSession_self {sessions : List SessionRecord}
    (hkeys : sessions.Pairwise fun left right => left.id ≠ right.id)
    (hrec : record ∈ sessions) : replaceSession sessions record = sessions := by
  refine (List.map_congr_left ?_).trans (List.map_id sessions)
  intro other hother
  split_ifs with hid
  · exact (eq_of_key hkeys hother hrec hid).symm
  · rfl

theorem configurationRows_of_bindings {channels : List SeriesKey}
    (hbefore : before.Constraints) (hrec : record ∈ before.sessions)
    (hchanged : changed = { before with bindings := changed.bindings })
    (hbinds : BindingsChanged record.id record.state.active time before.bindings changed.bindings)
    (hlisted : ∀ binding ∈ changed.bindings, binding.sessionId = record.id →
      binding.releasedAt = none → binding.identity ∈ channels ∨
        ∃ other ∈ before.bindings, other.sessionId = record.id ∧
          other.releasedAt = none ∧ other.identity = binding.identity) :
    ConfigurationRows before changed record record channels time := by
  refine ⟨?_, rfl, rfl, .refl record, rfl, hbinds, hlisted, ?_, ?_, ?_⟩
  · rw [hchanged]
    exact (replaceSession_self hbefore.sessionKeys hrec).symm
  all_goals rw [hchanged]

theorem activationTime_isSome (state : SessionState) (time : Instant) :
    (activationTime state time).isSome = state.active := by
  unfold activationTime
  split_ifs with hact
  · exact hact.symm
  · simpa using hact

theorem bindChannel_eq (database : SessionDatabase) (sessionId : String)
    (channel : ProductionChannel) (bindingId : UuidText) (activatedAt : Option Instant) :
    database.bindChannel sessionId channel bindingId activatedAt =
      { database with bindings := (database.bindChannel sessionId channel
        bindingId activatedAt).bindings } := by
  unfold bindChannel
  split <;> rfl

theorem bindChannel_changed (database : SessionDatabase)
    (record : SessionRecord) (channel : ProductionChannel)
    (bindingId : UuidText) (time : Instant) {activatedAt : Option Instant}
    (hact : activatedAt.isSome = record.state.active) :
    BindingsChanged record.id record.state.active time database.bindings
        (database.bindChannel record.id channel bindingId activatedAt).bindings ∧
      ∀ binding ∈ (database.bindChannel record.id channel bindingId activatedAt).bindings,
        binding.identity = channel.identity ∨ binding ∈ database.bindings := by
  unfold bindChannel
  split
  next =>
    refine ⟨⟨?_, ?_⟩, ?_⟩
    · intro binding hbind
      rcases List.mem_append.mp hbind with hold | hnew
      · exact .inl hold
      · rw [List.mem_singleton] at hnew
        subst hnew
        exact .inr ⟨rfl, .inl ⟨rfl, hact⟩⟩
    · intro binding hbind
      exact ⟨binding, List.mem_append_left _ hbind, rfl, rfl, rfl⟩
    · intro binding hbind
      rcases List.mem_append.mp hbind with hold | hnew
      · exact .inr hold
      · rw [List.mem_singleton] at hnew
        subst hnew
        exact .inl rfl
  next =>
    constructor
    · refine bindingsChanged_map (fun binding =>
        { binding with
          unit := channel.unit
          activatedAt
          releasedAt := none }) (fun _ => ⟨rfl, rfl, rfl⟩) ?_
      rintro binding _ ⟨hsess, _⟩
      exact ⟨hsess, .inl ⟨rfl, hact⟩⟩
    · intro binding hbind
      obtain ⟨source, hsrc, rfl⟩ := List.mem_map.mp hbind
      split_ifs with hsel
      · exact .inl hsel.2
      · exact .inr hsrc

theorem addBinding_outcome {identity : SeriesKey} {unit : Option String} {bindingId : UuidText}
    (hbefore : before.Constraints)
    (hadd : before.addBinding configuration identity unit bindingId = .ok after) :
    before.Outcome after (.addBinding configuration identity unit bindingId) := by
  simp only [addBinding, bind_eq_ok] at hadd
  obtain ⟨_, _, hadd⟩ := hadd
  split at hadd
  next => cases hadd
  next channel hchannel =>
    have hidentity : channel.identity = identity := by
      have hsome := List.find?_some hchannel
      exact of_decide_eq_true hsome
    simp only [bind_eq_ok] at hadd
    obtain ⟨_, _, hcmd⟩ := hadd
    refine configurationChange_outcome rfl ?_ ?_ hcmd
    · intro record hid hact hanswers
      simp [SessionCommand.freezes, ← hid, hact, hanswers]
    · intro record hrec changed hchanged
      simp only [addChannel, bind_eq_ok, pure_eq_ok] at hchanged
      obtain ⟨_, _, rfl⟩ := hchanged
      obtain ⟨hrows, hothers⟩ := bindChannel_changed before record channel
        bindingId configuration.occurredAt
        (activationTime_isSome record.state configuration.occurredAt)
      refine ⟨record, configurationRows_of_bindings hbefore hrec
        (bindChannel_eq _ _ _ _ _) hrows ?_⟩
      intro binding hbind hsess hrel
      rcases hothers binding hbind with hnew | hold
      · exact .inl (by simp [SessionCommand.channels, hnew, hidentity])
      · exact .inr ⟨binding, hold, hsess, hrel, rfl⟩

theorem applyProductionChannels_changed (record : SessionRecord)
    (time : Instant) (bindingIds : SeriesKey → UuidText)
    (channels : List ProductionChannel) (database : SessionDatabase) :
    let changed := channels.foldl (applyProductionChannel record.id
      (activationTime record.state time) bindingIds) database
    changed = { database with bindings := changed.bindings } ∧
      BindingsChanged record.id record.state.active time database.bindings
        changed.bindings ∧
      ∀ binding ∈ changed.bindings, binding.identity ∈ channels.map ProductionChannel.identity ∨
          binding ∈ database.bindings := by
  induction channels generalizing database with
  | nil => exact ⟨rfl, .refl _ _ _ _, fun _ hbind => .inr hbind⟩
  | cons channel rest ih =>
    have hone : ∃ bindings, applyProductionChannel record.id
          (activationTime record.state time) bindingIds database channel =
        { database with bindings } ∧
        BindingsChanged record.id record.state.active time database.bindings bindings ∧
        ∀ binding ∈ bindings, binding.identity = channel.identity ∨
          binding ∈ database.bindings := by
      unfold applyProductionChannel
      split_ifs
      · exact ⟨_, rfl, .refl _ _ _ _, fun _ hbind => .inr hbind⟩
      · obtain ⟨hrows, hothers⟩ := bindChannel_changed database record channel
          (bindingIds channel.identity) time
          (activationTime_isSome record.state time)
        exact ⟨_, bindChannel_eq _ _ _ _ _, hrows, hothers⟩
    obtain ⟨bindings, hfirst, hrows, hothers⟩ := hone
    obtain ⟨hframe, hrest, hlisted⟩ := ih { database with bindings }
    rw [← hfirst] at hframe hrest hlisted
    refine ⟨?_, ?_, ?_⟩
    · rw [List.foldl_cons]
      refine hframe.trans ?_
      rw [hfirst]
    · rw [hfirst] at hrest
      rw [List.foldl_cons, hfirst]
      exact hrows.trans hrest
    · intro binding hbind
      rcases hlisted binding hbind with hnamed | hold
      · exact .inl (List.mem_cons_of_mem _ hnamed)
      · rw [hfirst] at hold
        rcases hothers binding hold with hchannel | hbefore
        · exact .inl (by rw [hchannel]; exact List.mem_cons_self)
        · exact .inr hbefore

theorem addProductionBindings_outcome
    {bindingIds : SeriesKey → UuidText} (hbefore : before.Constraints)
    (hadd : before.addProductionBindings configuration bindingIds = .ok after) :
    before.Outcome after (.addProductionBindings configuration bindingIds) := by
  refine configurationChange_outcome rfl ?_ ?_ hadd
  · intro record hid hact hanswers
    simp [SessionCommand.freezes, ← hid, hact, hanswers]
  · intro record hrec changed hchanged
    rw [Except.ok.injEq] at hchanged
    subst hchanged
    obtain ⟨hframe, hrows, hothers⟩ := applyProductionChannels_changed record
      configuration.occurredAt bindingIds productionChannels before
    refine ⟨record, configurationRows_of_bindings hbefore hrec hframe hrows ?_⟩
    intro binding hbind hsess hrel
    rcases hothers binding hbind with hnew | hold
    · exact .inl hnew
    · exact .inr ⟨binding, hold, hsess, hrel, rfl⟩

theorem removeBinding_outcome {bindingId : UuidText} (hbefore : before.Constraints)
    (hremove : before.removeBinding configuration bindingId = .ok after) :
    before.Outcome after (.removeBinding configuration bindingId) := by
  refine configurationChange_outcome rfl ?_ ?_ hremove
  · intro record hid hact hanswers
    simp [SessionCommand.freezes, ← hid, hact, hanswers]
  · intro record hrec changed hchanged
    unfold releaseChannel at hchanged
    split at hchanged
    next => cases hchanged
    next binding hfound =>
      simp only [bind_eq_ok, pure_eq_ok] at hchanged
      obtain ⟨_, _, _, _, rfl⟩ := hchanged
      have hbind := List.mem_of_find?_eq_some hfound
      have hsome := List.find?_some hfound
      have hkeys := of_decide_eq_true hsome
      have hrows : BindingsChanged record.id record.state.active
          configuration.occurredAt before.bindings
          (before.bindings.map fun current => if current.id = bindingId then
            current.release configuration.occurredAt else current) := by
        refine bindingsChanged_map (fun binding => binding.release configuration.occurredAt)
          (fun binding => activate_keys binding _) ?_
        intro current hcur hid
        have hsame := eq_of_key hbefore.bindingKeys hcur hbind (hid.trans hkeys.1.symm)
        rw [hsame]
        exact ⟨hkeys.2, .inr ⟨rfl, activate_isSome binding _⟩⟩
      refine ⟨record, configurationRows_of_bindings hbefore hrec rfl hrows ?_⟩
      intro changed hchanged hsess hrel
      obtain ⟨source, hsrc, rfl⟩ := List.mem_map.mp hchanged
      split_ifs at hsess hrel ⊢ with hid
      · cases hrel
      · exact .inr ⟨source, hsrc, hsess, hrel, rfl⟩

theorem addLimitSet_outcome {rules : List (Option UuidText × String)} (hbefore : before.Constraints)
    (hadd : before.addLimitSet configuration rules = .ok after) :
    before.Outcome after (.addLimitSet configuration rules) := by
  simp only [addLimitSet, bind_eq_ok] at hadd
  obtain ⟨_, _, hcmd⟩ := hadd
  refine configurationChange_outcome rfl ?_ ?_ hcmd
  · intro record hid hact hanswers
    simp [SessionCommand.freezes, ← hid, hact, hanswers]
  · intro record hrec changed hchanged
    simp only [addLimits, bind_eq_ok, pure_eq_ok] at hchanged
    obtain ⟨_, _, rfl⟩ := hchanged
    refine ⟨{ record with
      activeLimitVersion := some (before.nextLimitVersion record.id) },
      ?_, rfl, rfl, ⟨rfl, rfl, rfl, rfl, rfl, rfl⟩, rfl, .refl _ _ _ _, ?_, rfl,
      rfl, rfl⟩
    · exact updateSession_sessions hbefore.sessionKeys hrec rfl
    · intro binding hbind hsess hrel
      exact .inr ⟨binding, hbind, hsess, hrel, rfl⟩

theorem validateStageTransition_eq_ok {state : SessionState}
    {currentIndex : Option ℕ} {nextIndex stageCount : ℕ} {checked : Unit}
    (hvalid : validateStageTransition state currentIndex nextIndex stageCount = .ok checked) :
    state = .running ∧ nextIndex = (currentIndex.map (· + 1)).getD 0 := by
  simp only [validateStageTransition, bind_eq_ok, raiseIf_eq_ok] at hvalid
  obtain ⟨_, hrun, _, _, _, _, _, _, hnext⟩ := hvalid
  exact ⟨not_not.mp hrun, not_not.mp hnext⟩

theorem targetStage_frame {request : StageAdvanceRequest}
    {planned : SessionDatabase} {target : SessionStageRecord}
    (htarget : before.targetStage sessionId request = .ok (planned, target)) :
    planned = { before with stages := planned.stages } := by
  unfold targetStage at htarget
  split at htarget
  next =>
    cases htarget
    rfl
  next =>
    split_ifs at htarget
    cases htarget
    rfl

theorem advanceStage_outcome {request : StageAdvanceRequest} (hbefore : before.Constraints)
    (hadv : before.advanceStage request = .ok after) :
    before.Outcome after (.advanceStage request) := by
  simp only [advanceStage, bind_eq_ok] at hadv
  obtain ⟨key, _, record, hlocked, hout⟩ := hadv
  obtain ⟨hrec, _⟩ := lockedSession_eq_ok hlocked
  split at hout
  next event _ => exact .inl (replayCommand_eq_ok hout)
  next =>
    simp only [bind_eq_ok, raiseIf_eq_ok] at hout
    obtain ⟨_, hvalid, ⟨planned, target⟩, htarget, _, hunentered, hcommit⟩ :=
      hout
    obtain ⟨hrun, hindex⟩ := validateStageTransition_eq_ok hvalid
    obtain ⟨hctrs, rfl⟩ := commit_eq_ok hcommit
    have hframe := targetStage_frame htarget
    refine .inr ⟨hctrs, .staged record
      { record with currentStageId := some target.id } target
      ⟨hrec, ?_, rfl, rfl, ?_⟩ hrun planned ⟨request, rfl, htarget, ?_⟩
      (not_not.mp hunentered) rfl rfl ?_ ?_⟩
    · change ((planned.moveStage _ _ _).updateSession record.id _).sessions = _
      have hsessions : (planned.moveStage (before.currentStage record) target
          request.occurredAt).sessions = before.sessions := by
        rw [hframe]
        rfl
      rw [updateSession_sessions (by rw [hsessions]; exact hbefore.sessionKeys)
        (by rw [hsessions]; exact hrec) rfl, hsessions]
    · refine ⟨⟨record.id, .stageChanged, key, request.occurredAt⟩, rfl, rfl, ?_⟩
      rw [hframe]
      rfl
    · rw [hindex, Option.map_map]
      rfl
    · rw [hframe]
      rfl
    · rw [hframe]
      rfl

theorem addNote_outcome {organizationId sessionId idempotencyKey : String}
    {occurredAt : Instant} {stageId : Option String} (hbefore : before.Constraints)
    (hnote : before.addNote organizationId sessionId idempotencyKey occurredAt
      stageId = .ok after) :
    before.Outcome after (.addNote organizationId sessionId idempotencyKey occurredAt stageId) := by
  simp only [addNote, bind_eq_ok] at hnote
  obtain ⟨key, _, record, hlocked, hout⟩ := hnote
  obtain ⟨hrec, _⟩ := lockedSession_eq_ok hlocked
  split at hout
  next event _ => exact .inl (replayCommand_eq_ok hout)
  next =>
    simp only [bind_eq_ok] at hout
    obtain ⟨_, _, hcommit⟩ := hout
    obtain ⟨hctrs, rfl⟩ := commit_eq_ok hcommit
    refine .inr ⟨hctrs, .recorded record record
      ⟨hrec, ?_, rfl, rfl, _, rfl, rfl, rfl⟩ (.refl record) rfl rfl rfl rfl⟩
    exact (replaceSession_self hbefore.sessionKeys hrec).symm

theorem execute_outcome (hbefore : before.Constraints)
    (hexecute : before.execute command = .ok after) :
    before.Outcome after command := by
  cases command with
  | create payload => exact create_outcome hexecute
  | transition request => exact transition_outcome hbefore hexecute
  | addBinding command identity unit bindingId =>
    exact addBinding_outcome hbefore hexecute
  | addProductionBindings command bindingIds =>
    exact addProductionBindings_outcome hbefore hexecute
  | removeBinding command bindingId =>
    exact removeBinding_outcome hbefore hexecute
  | addLimitSet command rules => exact addLimitSet_outcome hbefore hexecute
  | advanceStage request => exact advanceStage_outcome hbefore hexecute
  | addNote organizationId sessionId idempotencyKey occurredAt stageId =>
    exact addNote_outcome hbefore hexecute

theorem step_outcome (hbefore : before.Constraints) (hstep : before.step command = some after) :
    before.Outcome after command := by
  apply execute_outcome hbefore
  unfold step at hstep
  cases hexecute : before.execute command with
  | error error =>
    rw [hexecute] at hstep
    cases hstep
  | ok result =>
    rw [hexecute] at hstep
    cases hstep
    rfl

end SessionDatabase

end Nexolab
