import Nexolab.SessionCommands

/-!
# What a session command does

Every accepted command either is answered from a stored event, which leaves the
database as it is, or has one of the effects listed here.  The invariants of the
session database are proved from this list.
-/

namespace Nexolab

def replaceSession (sessions : List SessionRecord) (next : SessionRecord) :
    List SessionRecord :=
  sessions.map fun record => if record.id = next.id then next else record

variable {sessions : List SessionRecord}

theorem mem_replaceSession
    {next session : SessionRecord} (hmem : session ∈ replaceSession sessions next) :
    session = next ∨ session ∈ sessions ∧ session.id ≠ next.id := by
  obtain ⟨record, hrec, hvalue⟩ := List.mem_map.mp hmem
  split_ifs at hvalue with hid
  · exact .inl hvalue.symm
  · subst hvalue
    exact .inr ⟨hrec, hid⟩

theorem next_mem_replaceSession {record next : SessionRecord} (hrec : record ∈ sessions)
    (hid : next.id = record.id) : next ∈ replaceSession sessions next := by
  refine List.mem_map.mpr ⟨record, hrec, ?_⟩
  rw [if_pos hid.symm]

theorem exists_mem_replaceSession
    {session : SessionRecord} (next : SessionRecord) (hmem : session ∈ sessions) :
    ∃ other ∈ replaceSession sessions next, other.id = session.id := by
  refine ⟨_, List.mem_map.mpr ⟨session, hmem, rfl⟩, ?_⟩
  split_ifs with hid
  · exact hid.symm
  · rfl

theorem eq_of_pairwise {α : Type} {R : α → α → Prop}
    (hsymm : ∀ left right, R left right → R right left) {items : List α}
    (hpairwise : items.Pairwise R) {left right : α} (hleft : left ∈ items)
    (hright : right ∈ items) (hnot : ¬ R left right) : left = right := by
  have : Std.Symm R := ⟨hsymm⟩
  by_contra hne
  exact hnot (hpairwise.forall hleft hright hne)

theorem eq_of_key {α κ : Type} {key : α → κ} {items : List α}
    (hkeys : items.Pairwise fun left right => key left ≠ key right)
    {left right : α} (hleft : left ∈ items) (hright : right ∈ items)
    (hequal : key left = key right) : left = right :=
  eq_of_pairwise (fun _ _ hdiffer => Ne.symm hdiffer) hkeys hleft hright (not_not_intro hequal)

theorem updateSession_sessions {database : SessionDatabase}
    (hkeys : database.sessions.Pairwise fun left right => left.id ≠ right.id)
    {record : SessionRecord} (hrec : record ∈ database.sessions)
    {update : SessionRecord → SessionRecord} (hid : (update record).id = record.id) :
    (database.updateSession record.id update).sessions =
      replaceSession database.sessions (update record) := by
  unfold SessionDatabase.updateSession replaceSession
  apply List.map_congr_left
  intro other hother
  rw [hid]
  by_cases hsame : other.id = record.id
  · rw [if_pos hsame, if_pos hsame, eq_of_key hkeys hother hrec hsame]
  · rw [if_neg hsame, if_neg hsame]

namespace SessionDatabase

theorem updateSession_updateSession (database : SessionDatabase)
    (sessionId : String) {first second : SessionRecord → SessionRecord}
    (hfirst : ∀ record, (first record).id = record.id) :
    (database.updateSession sessionId first).updateSession sessionId second =
      database.updateSession sessionId fun record => second (first record) := by
  unfold updateSession
  simp only [List.map_map]
  congr 1
  apply List.map_congr_left
  intro record _
  by_cases hid : record.id = sessionId
  · simp [hid, hfirst record]
  · simp [hid]

theorem lockedSession_eq_ok {database : SessionDatabase}
    {organizationId sessionId : String} {record : SessionRecord}
    (hlocked : database.lockedSession organizationId sessionId = .ok record) :
    record ∈ database.sessions ∧ record.id = sessionId := by
  unfold lockedSession at hlocked
  split at hlocked
  next => cases hlocked
  next found hfound =>
    cases hlocked
    have hsome := List.find?_some hfound
    exact ⟨List.mem_of_find?_eq_some hfound, (of_decide_eq_true hsome).1⟩

variable {database after : SessionDatabase}

theorem commit_eq_ok {error : SessionError} (hcommit : database.commit error = .ok after) :
    database.Constraints ∧ after = database := by
  unfold commit at hcommit
  split_ifs at hcommit with hctrs
  cases hcommit
  exact ⟨hctrs, rfl⟩

theorem replayCommand_eq_ok {event : SessionEvent} {eventType : SessionEventType}
    (hreplay : database.replayCommand event eventType = .ok after) :
    after = database := by
  unfold replayCommand at hreplay
  split_ifs at hreplay
  cases hreplay
  rfl

def answers (database : SessionDatabase) (sessionId idempotencyKey : String) :
    Bool :=
  match normalizeIdempotencyKey idempotencyKey with
  | .error _ => true
  | .ok key => (database.eventByKey sessionId key).isSome

theorem answers_eq_false {database : SessionDatabase} {sessionId idempotencyKey key : String}
    (hkey : normalizeIdempotencyKey idempotencyKey = .ok key)
    (hnone : database.eventByKey sessionId key = none) :
    database.answers sessionId idempotencyKey = false := by
  unfold answers
  rw [hkey]
  simp [hnone]

end SessionDatabase

/-! ## The effects -/

/-- What a row change of the bindings of one session leaves: rows as they were,
rows added or reactivated, and rows released at the time of the command. -/
structure BindingsChanged (sessionId : String) (active : Bool) (time : Instant)
    (before after : List SessionChannelBinding) : Prop where
  rows : ∀ binding ∈ after, binding ∈ before ∨ binding.sessionId = sessionId ∧
      (binding.releasedAt = none ∧ binding.activatedAt.isSome = active ∨
        binding.releasedAt = some time ∧ binding.activatedAt.isSome = true)
  persists : ∀ binding ∈ before, ∃ other ∈ after, other.id = binding.id ∧
    other.sessionId = binding.sessionId ∧ other.identity = binding.identity

theorem BindingsChanged.refl (sessionId : String) (active : Bool)
    (time : Instant) (bindings : List SessionChannelBinding) :
    BindingsChanged sessionId active time bindings bindings :=
  ⟨fun _ hbind => .inl hbind, fun binding hbind => ⟨binding, hbind, rfl, rfl, rfl⟩⟩

theorem BindingsChanged.trans {sessionId : String} {active : Bool}
    {time : Instant} {first second third : List SessionChannelBinding}
    (hfirst : BindingsChanged sessionId active time first second)
    (hsecond : BindingsChanged sessionId active time second third) :
    BindingsChanged sessionId active time first third := by
  constructor
  case rows =>
    intro binding hbind
    rcases hsecond.rows binding hbind with hold | hnew
    · exact hfirst.rows binding hold
    · exact .inr hnew
  case persists =>
    intro binding hbind
    obtain ⟨middle, hmiddle, hid, hsess, hidentity⟩ :=
      hfirst.persists binding hbind
    obtain ⟨last, hlast, hid', hsess', hidentity'⟩ :=
      hsecond.persists middle hmiddle
    exact ⟨last, hlast, hid'.trans hid, hsess'.trans hsess, hidentity'.trans hidentity⟩

/-- The session row keeps what the resolver and the lease depend on. -/
structure SessionRecord.SameCourse (record next : SessionRecord) : Prop where
  startedAt : next.startedAt = record.startedAt
  completedAt : next.completedAt = record.completedAt
  cancelledAt : next.cancelledAt = record.cancelledAt
  currentStageId : next.currentStageId = record.currentStageId
  active : next.state.active = record.state.active
  immutable : next.state.immutable = record.state.immutable

theorem SessionRecord.SameCourse.refl (record : SessionRecord) :
    record.SameCourse record :=
  ⟨rfl, rfl, rfl, rfl, rfl, rfl⟩

/-- One session row changes and one event is recorded. -/
structure SessionChange (before after : SessionDatabase)
    (record next : SessionRecord) (time : Instant) : Prop where
  mem : record ∈ before.sessions
  sessions : after.sessions = replaceSession before.sessions next
  id : next.id = record.id
  node : next.nodeId = record.nodeId
  event : ∃ event, event.sessionId = record.id ∧ event.occurredAt = time ∧
    after.events = before.events ++ [event]

def SessionCommand.channels : SessionCommand → List SeriesKey
  | .addBinding _ identity _ _ => [identity]
  | .addProductionBindings _ _ =>
    productionChannels.map ProductionChannel.identity
  | _ => []

/-- The command freezes the configuration of the session: it starts a ready
session, or changes the configuration of an active one. -/
def SessionCommand.freezes (command : SessionCommand)
    (database : SessionDatabase) (record : SessionRecord) : Bool :=
  let changes (configuration : ConfigurationCommand) : Bool :=
    configuration.sessionId = record.id && record.state.active &&
      !database.answers record.id configuration.idempotencyKey
  match command with
  | .transition request =>
    request.sessionId = record.id && request.action = .start && record.state = .ready &&
      !database.answers record.id request.idempotencyKey
  | .addBinding configuration _ _ _ => changes configuration
  | .addProductionBindings configuration _ => changes configuration
  | .removeBinding configuration _ => changes configuration
  | .addLimitSet configuration _ => changes configuration
  | _ => false

/-- The snapshot lists the unreleased bindings of the session. -/
structure FrozenSnapshot (before after : SessionDatabase)
    (record : SessionRecord) (snapshot : ConfigSnapshotRecord) (time : Instant) : Prop where
  sessionId : snapshot.sessionId = record.id
  version : snapshot.version = before.nextSnapshotVersion record.id
  capturedAt : snapshot.capturedAt = time
  bindings : ∀ entry ∈ snapshot.bindings, ∃ binding ∈ after.bindings,
    binding.sessionId = record.id ∧ binding.releasedAt = none ∧
      binding.id = entry.id ∧ binding.identity = entry.identity
  distinct : (snapshot.bindings.map FrozenBinding.identity).Nodup
  appended : after.snapshots = before.snapshots ++ [snapshot]

inductive SessionEffect (before after : SessionDatabase) (command : SessionCommand) : Prop
  /-- A new draft. -/
  | created (payload : SessionCreate)
      (sessions : after.sessions = before.sessions ++ [payload.record])
      (events : ∃ event, event.sessionId = payload.record.id ∧
        after.events = before.events ++ [event])
      (bindings : after.bindings = before.bindings)
      (snapshots : after.snapshots = before.snapshots)
      (stages : after.stages = before.stages)
  /-- A change of the session row alone. -/
  | recorded (record next : SessionRecord)
      (change : SessionChange before after record next command.occurredAt)
      (course : record.SameCourse next)
      (configuration : next.activeConfigSnapshotId = record.activeConfigSnapshotId)
      (bindings : after.bindings = before.bindings)
      (snapshots : after.snapshots = before.snapshots)
      (stages : after.stages = before.stages)
  /-- A change of the configuration of a session which is not started. -/
  | configured (record next : SessionRecord)
      (change : SessionChange before after record next command.occurredAt)
      (course : record.SameCourse next)
      (configuration : next.activeConfigSnapshotId = record.activeConfigSnapshotId)
      (inactive : record.state.active = false)
      (mutable : record.state.immutable = false)
      (bindings : BindingsChanged record.id false command.occurredAt before.bindings after.bindings)
      (snapshots : after.snapshots = before.snapshots)
      (stages : after.stages = before.stages)
  /-- A start, or a change of the configuration of an active session. -/
  | frozen (record next : SessionRecord) (snapshot : ConfigSnapshotRecord)
      (change : SessionChange before after record next command.occurredAt)
      (freezes : command.freezes before record = true)
      (course : record.state = .ready ∧ next.startedAt = some command.occurredAt ∨
        record.state.active = true ∧ next.startedAt = record.startedAt)
      (state : next.state.active = true)
      (completedAt : next.completedAt = record.completedAt)
      (cancelledAt : next.cancelledAt = record.cancelledAt)
      (currentStageId : next.currentStageId = record.currentStageId)
      (configuration : next.activeConfigSnapshotId = some snapshot.id.text)
      (bindings : BindingsChanged record.id true command.occurredAt before.bindings after.bindings)
      (settled : ∀ binding ∈ after.bindings, binding.sessionId = record.id →
        binding.releasedAt = none → binding.activatedAt.isSome = true ∨
          record.state.active = true ∧ binding ∈ before.bindings)
      (listed : ∀ binding ∈ after.bindings, binding.sessionId = record.id →
        binding.releasedAt = none → binding.identity ∈ command.channels ∨
          ∃ other ∈ before.bindings, other.sessionId = record.id ∧
            other.releasedAt = none ∧ other.identity = binding.identity)
      (snapshots : FrozenSnapshot before after record snapshot command.occurredAt)
      (stages : after.stages = before.stages)
  /-- A completion or a cancellation. -/
  | closed (record next : SessionRecord)
      (change : SessionChange before after record next command.occurredAt)
      (mutable : record.state.immutable = false)
      (state : next.state.immutable = true)
      (startedAt : next.startedAt = record.startedAt)
      (ended : next.completedAt = some command.occurredAt ∧ next.cancelledAt = record.cancelledAt ∨
        next.cancelledAt = some command.occurredAt ∧
          next.completedAt = record.completedAt)
      (currentStageId : next.currentStageId = record.currentStageId)
      (configuration : next.activeConfigSnapshotId = record.activeConfigSnapshotId)
      (bindings : BindingsChanged record.id true command.occurredAt before.bindings after.bindings)
      (released : ∀ binding ∈ after.bindings, binding.sessionId = record.id →
        binding.leased = false)
      (snapshots : after.snapshots = before.snapshots)
      (stages : after.stages = before.stages)
  /-- A step to the next stage. -/
  | staged (record next : SessionRecord) (target : SessionStageRecord)
      (change : SessionChange before after record next command.occurredAt)
      (running : record.state = .running)
      (planned : SessionDatabase)
      (found : ∃ request, command = .advanceStage request ∧
        before.targetStage record.id request = .ok (planned, target) ∧
        request.sequenceIndex = ((before.currentStage record).map (·.sequenceIndex + 1)).getD 0)
      (unentered : target.enteredAt = none)
      (row : next = { record with currentStageId := some target.id })
      (moved : after.stages = (planned.moveStage (before.currentStage record)
        target command.occurredAt).stages)
      (bindings : after.bindings = before.bindings)
      (snapshots : after.snapshots = before.snapshots)

end Nexolab
