import Nexolab.SessionResolution
import Nexolab.SessionSteps

/-!
# Invariants of the session database

What holds in every reachable state of the session tables, whatever times the
clients give their commands: the times of a session row follow its state, an
unreleased binding of an active session is leased, a snapshot lists bindings of
its session, and the row of a released binding records the time of the snapshot
which no longer lists the channel.
-/

namespace Nexolab

def ConfigSnapshotRecord.Lists (snapshot : ConfigSnapshotRecord) (identity : SeriesKey) : Prop :=
  ∃ entry ∈ snapshot.bindings, entry.identity = identity

theorem lists_of_bindingOf {snapshot : ConfigSnapshotRecord}
    {series : SeriesKey} {binding : FrozenBinding}
    (hbind : snapshot.bindingOf series = some binding) :
    binding ∈ snapshot.bindings ∧ binding.identity = series := by
  have hsome := List.find?_some hbind
  exact ⟨List.mem_of_find?_eq_some hbind, of_decide_eq_true hsome⟩

structure SessionRecord.Coherent (session : SessionRecord) : Prop where
  unstarted : session.state.active = false → session.state.immutable = false →
    session.startedAt = none
  started : session.state.active = true → session.startedAt.isSome = true
  unended : session.state.immutable = false →
    session.completedAt = none ∧ session.cancelledAt = none

/-- A released binding was released by the end of its session, or every
snapshot with the channel is older than one captured at the release. -/
def SessionDatabase.ReleaseRecorded (database : SessionDatabase)
    (binding : SessionChannelBinding) (released : Instant) : Prop :=
  (∃ session ∈ database.sessions, session.id = binding.sessionId ∧
    (session.completedAt = some released ∨ session.cancelledAt = some released)) ∨
  ∀ snapshot ∈ database.snapshots, snapshot.sessionId = binding.sessionId →
    snapshot.Lists binding.identity →
    ∃ later ∈ database.snapshots, later.sessionId = binding.sessionId ∧
      later.capturedAt = released ∧ snapshot.version < later.version

def SessionDatabase.LastSnapshot (database : SessionDatabase)
    (session : SessionRecord) (last : ConfigSnapshotRecord) : Prop :=
  last ∈ database.snapshots ∧ last.sessionId = session.id ∧
    session.activeConfigSnapshotId = some last.id.text ∧
    ∀ other ∈ database.snapshots, other.sessionId = session.id → other.version ≤ last.version

structure SessionDatabase.Consistent (database : SessionDatabase) : Prop where
  constraints : database.Constraints
  coherent : ∀ session ∈ database.sessions, session.Coherent
  bindingSession : ∀ binding ∈ database.bindings,
    ∃ session ∈ database.sessions, session.id = binding.sessionId
  leased : ∀ binding ∈ database.bindings, binding.releasedAt = none →
    ∀ session ∈ database.sessions, session.id = binding.sessionId →
      binding.activatedAt.isSome = session.state.active
  held : ∀ binding ∈ database.bindings, binding.releasedAt = none →
    ∀ session ∈ database.sessions, session.id = binding.sessionId →
      session.startedAt.isSome = true → session.state.active = true
  snapshotSession : ∀ snapshot ∈ database.snapshots,
    ∃ session ∈ database.sessions, session.id = snapshot.sessionId ∧ session.startedAt.isSome = true
  entries : ∀ snapshot ∈ database.snapshots, ∀ entry ∈ snapshot.bindings,
    ∃ binding ∈ database.bindings, binding.id = entry.id ∧ binding.sessionId = snapshot.sessionId ∧
      binding.identity = entry.identity
  distinct : ∀ snapshot ∈ database.snapshots, snapshot.Distinct
  lastSnapshot : ∀ session ∈ database.sessions,
    session.startedAt.isSome = true → ∃ last, database.LastSnapshot session last
  captured : ∀ snapshot ∈ database.snapshots, ∃ event ∈ database.events,
    event.sessionId = snapshot.sessionId ∧ event.occurredAt = snapshot.capturedAt
  released : ∀ binding ∈ database.bindings,
    ∀ released ∈ binding.releasedAt, database.ReleaseRecorded binding released

namespace SessionDatabase.Consistent

variable {before after : SessionDatabase}

theorem empty : SessionDatabase.empty.Consistent := by
  constructor
  case constraints => decide
  all_goals simp [SessionDatabase.empty]

theorem eq_session (hcons : before.Consistent)
    {left right : SessionRecord} (hleft : left ∈ before.sessions)
    (hright : right ∈ before.sessions) (hid : left.id = right.id) :
    left = right :=
  eq_of_key hcons.constraints.sessionKeys hleft hright hid

theorem started_of_snapshot (hcons : before.Consistent)
    {snapshot : ConfigSnapshotRecord} (hsnap : snapshot ∈ before.snapshots)
    {session : SessionRecord} (hsess : session ∈ before.sessions)
    (hid : snapshot.sessionId = session.id) :
    session.startedAt.isSome = true := by
  obtain ⟨other, hother, hotherId, hstarted⟩ :=
    hcons.snapshotSession snapshot hsnap
  rw [hcons.eq_session hsess hother (hid.symm.trans hotherId.symm)]
  exact hstarted

end SessionDatabase.Consistent

theorem lt_nextSnapshotVersion {database : SessionDatabase} {sessionId : String}
    {snapshot : ConfigSnapshotRecord} (hsnap : snapshot ∈ database.snapshots)
    (hsess : snapshot.sessionId = sessionId) :
    snapshot.version < database.nextSnapshotVersion sessionId := by
  have hle : ∀ versions : List ℕ, ∀ version ∈ versions, version ≤ versions.foldr max 0 := by
    intro versions
    induction versions with
    | nil => simp
    | cons first rest ih =>
      intro version hver
      rcases List.mem_cons.mp hver with rfl | hrest
      · exact le_max_left _ _
      · exact (ih version hrest).trans (le_max_right _ _)
  unfold SessionDatabase.nextSnapshotVersion
  apply Nat.lt_succ_of_le
  apply hle
  apply List.mem_map_of_mem
  simp [hsnap, hsess]

/-! ## Steps -/

section Steps

variable {before after : SessionDatabase} {record next : SessionRecord}
  {time : Instant}

namespace SessionChange

variable {session : SessionRecord}

theorem cases (hchange : SessionChange before after record next time)
    (hsess : session ∈ after.sessions) :
    session = next ∨ session ∈ before.sessions ∧ session.id ≠ record.id := by
  rw [hchange.sessions] at hsess
  rw [← hchange.id]
  exact mem_replaceSession hsess

theorem next_mem (hchange : SessionChange before after record next time) :
    next ∈ after.sessions := by
  rw [hchange.sessions]
  exact next_mem_replaceSession hchange.mem hchange.id

theorem mem_of_ne (hchange : SessionChange before after record next time)
    (hsess : session ∈ before.sessions)
    (hne : session.id ≠ record.id) : session ∈ after.sessions := by
  rw [hchange.sessions]
  refine List.mem_map.mpr ⟨session, hsess, ?_⟩
  rw [hchange.id, if_neg hne]

theorem exists_session (hchange : SessionChange before after record next time)
    (hsess : session ∈ before.sessions) :
    ∃ other ∈ after.sessions, other.id = session.id := by
  rw [hchange.sessions]
  exact exists_mem_replaceSession next hsess

theorem event_mem (hchange : SessionChange before after record next time)
    {event : SessionEvent} (hevent : event ∈ before.events) :
    event ∈ after.events := by
  obtain ⟨_, _, _, hevents⟩ := hchange.event
  rw [hevents]
  exact List.mem_append_left _ hevent

end SessionChange

variable {binding : SessionChannelBinding}

theorem BindingsChanged.other {sessionId : String} {active : Bool}
    {rows changed : List SessionChannelBinding}
    (hchanged : BindingsChanged sessionId active time rows changed) (hbind : binding ∈ changed)
    (hother : binding.sessionId ≠ sessionId) : binding ∈ rows := by
  rcases hchanged.rows binding hbind with hold | ⟨hsame, _⟩
  · exact hold
  · exact absurd hsame hother

variable {added : List ConfigSnapshotRecord} {snapshot : ConfigSnapshotRecord}

theorem SessionDatabase.ReleaseRecorded.other
    (hchange : SessionChange before after record next time)
    (hsnaps : after.snapshots = before.snapshots ++ added)
    (hadded : ∀ snapshot ∈ added, snapshot.sessionId = record.id) {released : Instant}
    (hrecorded : before.ReleaseRecorded binding released) (hother : binding.sessionId ≠ record.id) :
    after.ReleaseRecorded binding released := by
  rcases hrecorded with ⟨session, hsess, hid, hended⟩ | hsuperseded
  · exact .inl ⟨session, hchange.mem_of_ne hsess (by rw [hid]; exact hother), hid, hended⟩
  · right
    intro snapshot hsnap hid hlists
    rw [hsnaps] at hsnap
    rcases List.mem_append.mp hsnap with hold | hnew
    · obtain ⟨later, hlater, hparts⟩ := hsuperseded snapshot hold hid hlists
      refine ⟨later, ?_, hparts⟩
      rw [hsnaps]
      exact List.mem_append_left _ hlater
    · exact absurd (hid.symm.trans (hadded snapshot hnew)) hother

theorem SessionDatabase.Consistent.change {active : Bool} (hbefore : before.Consistent)
    (hctrs : after.Constraints) (hchange : SessionChange before after record next time)
    (hbinds : BindingsChanged record.id active time before.bindings after.bindings)
    (hsnaps : after.snapshots = before.snapshots ++ added)
    (hadded : ∀ snapshot ∈ added, snapshot.sessionId = record.id ∧
      snapshot.capturedAt = time ∧ snapshot.Distinct ∧ next.startedAt.isSome = true ∧
      ∀ entry ∈ snapshot.bindings, ∃ binding ∈ after.bindings,
        binding.id = entry.id ∧ binding.sessionId = snapshot.sessionId ∧
          binding.identity = entry.identity)
    (hnext : next.Coherent)
    (hstarted : record.startedAt.isSome = true → next.startedAt.isSome = true)
    (hlast : next.startedAt.isSome = true → ∃ last, after.LastSnapshot next last)
    (hleased : ∀ binding ∈ after.bindings, binding.sessionId = record.id →
      binding.releasedAt = none → binding.activatedAt.isSome = next.state.active)
    (hheld : ∀ binding ∈ after.bindings, binding.sessionId = record.id →
      binding.releasedAt = none → next.startedAt.isSome = true →
        next.state.active = true)
    (hrel : ∀ binding ∈ after.bindings, binding.sessionId = record.id →
      ∀ released ∈ binding.releasedAt, after.ReleaseRecorded binding released) :
    after.Consistent := by
  have hold : ∀ snapshot ∈ before.snapshots, snapshot ∈ after.snapshots := by
    intro snapshot hsnap
    rw [hsnaps]
    exact List.mem_append_left _ hsnap
  have hcases : ∀ snapshot ∈ after.snapshots, snapshot ∈ before.snapshots ∨ snapshot ∈ added := by
    intro snapshot hsnap
    rw [hsnaps] at hsnap
    exact List.mem_append.mp hsnap
  constructor
  case constraints => exact hctrs
  case coherent =>
    intro session hsess
    rcases hchange.cases hsess with rfl | ⟨hmem, _⟩
    · exact hnext
    · exact hbefore.coherent session hmem
  case bindingSession =>
    intro binding hbind
    rcases hbinds.rows binding hbind with hmem | ⟨hid, _⟩
    · obtain ⟨session, hsess, hid⟩ := hbefore.bindingSession binding hmem
      obtain ⟨other, hother, hsame⟩ := hchange.exists_session hsess
      exact ⟨other, hother, hsame.trans hid⟩
    · exact ⟨next, hchange.next_mem, hchange.id.trans hid.symm⟩
  case leased =>
    intro binding hbind hunrel session hsess hid
    rcases hchange.cases hsess with rfl | ⟨hmem, hne⟩
    · exact hleased binding hbind (hid.symm.trans hchange.id) hunrel
    · exact hbefore.leased binding (hbinds.other hbind (hid ▸ hne)) hunrel session hmem hid
  case held =>
    intro binding hbind hunrel session hsess hid
    rcases hchange.cases hsess with rfl | ⟨hmem, hne⟩
    · exact hheld binding hbind (hid.symm.trans hchange.id) hunrel
    · exact hbefore.held binding (hbinds.other hbind (hid ▸ hne)) hunrel session hmem hid
  case snapshotSession =>
    intro snapshot hsnap
    rcases hcases snapshot hsnap with hmem | hnew
    · obtain ⟨session, hsess, hid, hisSome⟩ :=
        hbefore.snapshotSession snapshot hmem
      by_cases hsame : session.id = record.id
      · refine ⟨next, hchange.next_mem, ?_, hstarted ?_⟩
        · rw [hchange.id, ← hsame, hid]
        · rw [← hbefore.eq_session hsess hchange.mem hsame]
          exact hisSome
      · exact ⟨session, hchange.mem_of_ne hsess hsame, hid, hisSome⟩
    · obtain ⟨hid, _, _, hisSome, _⟩ := hadded snapshot hnew
      exact ⟨next, hchange.next_mem, hchange.id.trans hid.symm, hisSome⟩
  case entries =>
    intro snapshot hsnap entry hent
    rcases hcases snapshot hsnap with hmem | hnew
    · obtain ⟨binding, hbind, hid, hsess, hidentity⟩ :=
        hbefore.entries snapshot hmem entry hent
      obtain ⟨other, hother, hid', hsess', hidentity'⟩ :=
        hbinds.persists binding hbind
      exact ⟨other, hother, hid'.trans hid, hsess'.trans hsess, hidentity'.trans hidentity⟩
    · exact (hadded snapshot hnew).2.2.2.2 entry hent
  case distinct =>
    intro snapshot hsnap
    rcases hcases snapshot hsnap with hmem | hnew
    · exact hbefore.distinct snapshot hmem
    · exact (hadded snapshot hnew).2.2.1
  case lastSnapshot =>
    intro session hsess hisSome
    rcases hchange.cases hsess with rfl | ⟨hmem, hne⟩
    · exact hlast hisSome
    · have hforeign : ∀ other ∈ after.snapshots, other.sessionId = session.id →
          other ∈ before.snapshots := by
        intro other hother hotherId
        rcases hcases other hother with hmem' | hnew
        · exact hmem'
        · exact absurd (hotherId.symm.trans (hadded other hnew).1) hne
      obtain ⟨last, hlastMem, hlastId, hnamed, hlargest⟩ :=
        hbefore.lastSnapshot session hmem hisSome
      exact ⟨last, hold last hlastMem, hlastId, hnamed, fun other hother hotherId =>
          hlargest other (hforeign other hother hotherId) hotherId⟩
  case captured =>
    intro snapshot hsnap
    rcases hcases snapshot hsnap with hmem | hnew
    · obtain ⟨event, hevent, hparts⟩ := hbefore.captured snapshot hmem
      exact ⟨event, hchange.event_mem hevent, hparts⟩
    · obtain ⟨event, hid, htime, hevents⟩ := hchange.event
      obtain ⟨hsess, hcapt, _⟩ := hadded snapshot hnew
      refine ⟨event, ?_, hid.trans hsess.symm, htime.trans hcapt.symm⟩
      rw [hevents]
      simp
  case released =>
    intro binding hbind released hrelAt
    by_cases hsame : binding.sessionId = record.id
    · exact hrel binding hbind hsame released hrelAt
    · exact (hbefore.released binding (hbinds.other hbind hsame) released
        hrelAt).other hchange hsnaps (fun snapshot hnew => (hadded snapshot hnew).1) hsame

theorem SessionDatabase.ReleaseRecorded.kept (hbefore : before.Consistent)
    (hchange : SessionChange before after record next time)
    (hsnaps : after.snapshots = before.snapshots ++ added)
    (hends : ∀ ended, record.completedAt = some ended ∨ record.cancelledAt = some ended →
      next.completedAt = some ended ∨ next.cancelledAt = some ended) {released : Instant}
    (hrecorded : before.ReleaseRecorded binding released) (hown : binding.sessionId = record.id)
    (hadded : ∀ snapshot ∈ added, ¬ snapshot.Lists binding.identity) :
    after.ReleaseRecorded binding released := by
  rcases hrecorded with ⟨session, hsess, hid, hended⟩ | hsuperseded
  · left
    rw [hbefore.eq_session hsess hchange.mem (hid.trans hown)] at hended
    exact ⟨next, hchange.next_mem, hchange.id.trans hown.symm, hends released hended⟩
  · right
    intro snapshot hsnap hid hlists
    rw [hsnaps] at hsnap
    rcases List.mem_append.mp hsnap with hold | hnew
    · obtain ⟨later, hlater, hparts⟩ := hsuperseded snapshot hold hid hlists
      refine ⟨later, ?_, hparts⟩
      rw [hsnaps]
      exact List.mem_append_left _ hlater
    · exact absurd hlists (hadded snapshot hnew)

theorem SessionDatabase.Consistent.lastSnapshot_kept (hbefore : before.Consistent)
    (hchange : SessionChange before after record next time)
    (hsnaps : after.snapshots = before.snapshots) (hstarted : next.startedAt = record.startedAt)
    (hconf : next.activeConfigSnapshotId =
      record.activeConfigSnapshotId) (hisSome : next.startedAt.isSome = true) :
    ∃ last, after.LastSnapshot next last := by
  rw [hstarted] at hisSome
  obtain ⟨last, hlast, hlastId, hnamed, hlargest⟩ :=
    hbefore.lastSnapshot record hchange.mem hisSome
  refine ⟨last, ?_, hlastId.trans hchange.id.symm, hconf.trans hnamed, ?_⟩
  · rw [hsnaps]
    exact hlast
  · rw [hsnaps, hchange.id]
    exact hlargest

theorem SessionDatabase.Consistent.sessionRow (hbefore : before.Consistent)
    (hctrs : after.Constraints) (hchange : SessionChange before after record next time)
    (hstarted : next.startedAt = record.startedAt)
    (hcompleted : next.completedAt = record.completedAt)
    (hcanc : next.cancelledAt = record.cancelledAt) (hact : next.state.active = record.state.active)
    (himm : next.state.immutable = record.state.immutable)
    (hconf : next.activeConfigSnapshotId = record.activeConfigSnapshotId)
    (hbinds : after.bindings = before.bindings)
    (hsnaps : after.snapshots = before.snapshots) : after.Consistent := by
  have hcoherent := hbefore.coherent record hchange.mem
  have hends : ∀ ended, record.completedAt = some ended ∨ record.cancelledAt = some ended →
      next.completedAt = some ended ∨ next.cancelledAt = some ended := by
    rw [hcompleted, hcanc]
    exact fun _ hended => hended
  have happ : after.snapshots = before.snapshots ++ [] := by
    rw [hsnaps, List.append_nil]
  have hrows : BindingsChanged record.id record.state.active time before.bindings
      after.bindings := by
    rw [hbinds]
    exact .refl _ _ _ _
  refine hbefore.change hctrs hchange hrows happ (by simp) ?_ ?_ ?_ ?_ ?_ ?_
  · constructor
    case unstarted =>
      rw [hact, himm, hstarted]
      exact hcoherent.unstarted
    case started =>
      rw [hact, hstarted]
      exact hcoherent.started
    case unended =>
      rw [himm, hcompleted, hcanc]
      exact hcoherent.unended
  · rw [hstarted]
    exact id
  · exact hbefore.lastSnapshot_kept hchange hsnaps hstarted hconf
  · rw [hbinds, hact]
    intro binding hbind hid hunrel
    exact hbefore.leased binding hbind hunrel record hchange.mem hid.symm
  · rw [hbinds, hact, hstarted]
    intro binding hbind hid hunrel
    exact hbefore.held binding hbind hunrel record hchange.mem hid.symm
  · rw [hbinds]
    intro binding hbind hid released hrel
    exact (hbefore.released binding hbind released hrel).kept hbefore
      hchange happ hends hid (by simp)

theorem SessionDatabase.Consistent.no_snapshot (hbefore : before.Consistent)
    (hrec : record ∈ before.sessions) (hact : record.state.active = false)
    (hmutable : record.state.immutable = false) (hsnap : snapshot ∈ before.snapshots) :
    snapshot.sessionId ≠ record.id := by
  intro hid
  have hstarted := hbefore.started_of_snapshot hsnap hrec hid
  rw [(hbefore.coherent record hrec).unstarted hact hmutable] at hstarted
  cases hstarted

theorem SessionDatabase.Consistent.configured (hbefore : before.Consistent)
    (hctrs : after.Constraints) (hchange : SessionChange before after record next time)
    (hcourse : record.SameCourse next)
    (hconf : next.activeConfigSnapshotId = record.activeConfigSnapshotId)
    (hinact : record.state.active = false) (hmutable : record.state.immutable = false)
    (hbinds : BindingsChanged record.id false time before.bindings after.bindings)
    (hsnaps : after.snapshots = before.snapshots) : after.Consistent := by
  have hcoherent := hbefore.coherent record hchange.mem
  have hunstarted := hcoherent.unstarted hinact hmutable
  have happ : after.snapshots = before.snapshots ++ [] := by
    rw [hsnaps, List.append_nil]
  refine hbefore.change hctrs hchange hbinds happ (by simp) ?_ ?_ ?_ ?_ ?_ ?_
  · constructor
    case unstarted =>
      rw [hcourse.startedAt]
      exact fun _ _ => hunstarted
    case started =>
      rw [hcourse.active, hinact]
      exact fun hact => absurd hact (by simp)
    case unended =>
      rw [hcourse.immutable, hcourse.completedAt, hcourse.cancelledAt]
      exact hcoherent.unended
  · rw [hcourse.startedAt]
    exact id
  · exact hbefore.lastSnapshot_kept hchange hsnaps hcourse.startedAt hconf
  · intro binding hbind hid hunrel
    rw [hcourse.active]
    rcases hbinds.rows binding hbind with hold | ⟨_, hadded | hremoved⟩
    · exact hbefore.leased binding hold hunrel record hchange.mem hid.symm
    · exact hadded.2.trans hinact.symm
    · rw [hremoved.1] at hunrel
      cases hunrel
  · intro binding _ _ _ hstarted
    rw [hcourse.startedAt, hunstarted] at hstarted
    cases hstarted
  · intro binding _ hid released _
    right
    intro snapshot hsnap hsess
    rw [hsnaps] at hsnap
    exact absurd (hsess.trans hid) (hbefore.no_snapshot hchange.mem hinact hmutable hsnap)

theorem SessionState.active_of_immutable {state : SessionState}
    (himm : state.immutable = true) : state.active = false := by
  cases state <;> simp_all [SessionState.immutable, SessionState.active]

theorem SessionDatabase.Consistent.closed (hbefore : before.Consistent) (hctrs : after.Constraints)
    (hchange : SessionChange before after record next time)
    (hmutable : record.state.immutable = false) (himm : next.state.immutable = true)
    (hstarted : next.startedAt = record.startedAt)
    (hended : next.completedAt = some time ∧ next.cancelledAt = record.cancelledAt ∨
      next.cancelledAt = some time ∧ next.completedAt = record.completedAt)
    (hconf : next.activeConfigSnapshotId = record.activeConfigSnapshotId)
    (hbinds : BindingsChanged record.id true time before.bindings after.bindings)
    (hrel : ∀ binding ∈ after.bindings, binding.sessionId = record.id →
      binding.leased = false)
    (hsnaps : after.snapshots = before.snapshots) : after.Consistent := by
  have hcoherent := hbefore.coherent record hchange.mem
  have hinact := SessionState.active_of_immutable himm
  have happ : after.snapshots = before.snapshots ++ [] := by
    rw [hsnaps, List.append_nil]
  have hunleased : ∀ binding ∈ after.bindings, binding.sessionId = record.id →
      binding.releasedAt = none → binding.activatedAt.isSome = false := by
    intro binding hbind hid hunrel
    simpa [SessionChannelBinding.leased, hunrel] using hrel binding hbind hid
  refine hbefore.change hctrs hchange hbinds happ (by simp) ?_ ?_ ?_ ?_ ?_ ?_
  · constructor
    case unstarted => simp [himm]
    case started => simp [hinact]
    case unended => simp [himm]
  · rw [hstarted]
    exact id
  · exact hbefore.lastSnapshot_kept hchange hsnaps hstarted hconf
  · intro binding hbind hid hunrel
    rw [hinact]
    exact hunleased binding hbind hid hunrel
  · intro binding hbind hid hunrel hisSome
    have hnone := hunleased binding hbind hid hunrel
    rcases hbinds.rows binding hbind with hold | ⟨_, hadded | hremoved⟩
    · -- A row of a started session which is not released is leased.
      rw [hstarted] at hisSome
      have hact := hbefore.held binding hold hunrel record hchange.mem hid.symm hisSome
      have hleased := hbefore.leased binding hold hunrel record hchange.mem hid.symm
      rw [hact, hnone] at hleased
      cases hleased
    · rw [hadded.2] at hnone
      cases hnone
    · rw [hremoved.1] at hunrel
      cases hunrel
  · intro binding hbind hid released hrelAt
    rcases hbinds.rows binding hbind with hold | ⟨_, hadded | hremoved⟩
    · refine (hbefore.released binding hold released hrelAt).kept hbefore
        hchange happ ?_ hid (by simp)
      obtain ⟨hcompleted, hcanc⟩ := hcoherent.unended hmutable
      rw [hcompleted, hcanc]
      simp
    · rw [hadded.1] at hrelAt
      cases hrelAt
    · rw [hremoved.1, Option.mem_some_iff] at hrelAt
      subst hrelAt
      left
      refine ⟨next, hchange.next_mem, hchange.id.trans hid.symm, ?_⟩
      rcases hended with ⟨hcompleted, _⟩ | ⟨hcanc, _⟩
      · exact .inl hcompleted
      · exact .inr hcanc

theorem FrozenSnapshot.not_lists (hfrozen : FrozenSnapshot before after record snapshot time)
    (hctrs : after.Constraints)
    (hbind : binding ∈ after.bindings) (hid : binding.sessionId = record.id)
    (hrel : binding.releasedAt ≠ none) :
    ¬ snapshot.Lists binding.identity := by
  rintro ⟨entry, hent, hidentity⟩
  obtain ⟨other, hother, hotherId, hunrel, _, hsame⟩ :=
    hfrozen.bindings entry hent
  have hequal : other = binding := by
    refine eq_of_pairwise (fun left right hdiffer hsess hequal =>
      hdiffer hsess.symm hequal.symm) hctrs.bindingIdentities hother
      hbind ?_
    intro hdiffer
    exact hdiffer (hotherId.trans hid.symm) (hsame.trans hidentity)
  subst hequal
  exact hrel hunrel

theorem SessionDatabase.Consistent.frozen (hbefore : before.Consistent) (hctrs : after.Constraints)
    (hchange : SessionChange before after record next time)
    (hcourse : record.state = .ready ∧ next.startedAt = some time ∨
      record.state.active = true ∧ next.startedAt = record.startedAt)
    (hact : next.state.active = true) (hcompleted : next.completedAt = record.completedAt)
    (hcanc : next.cancelledAt = record.cancelledAt)
    (hconf : next.activeConfigSnapshotId = some snapshot.id.text)
    (hbinds : BindingsChanged record.id true time before.bindings after.bindings)
    (hsettled : ∀ binding ∈ after.bindings, binding.sessionId = record.id →
      binding.releasedAt = none → binding.activatedAt.isSome = true ∨
        record.state.active = true ∧ binding ∈ before.bindings)
    (hfrozen : FrozenSnapshot before after record snapshot time) :
    after.Consistent := by
  have hcoherent := hbefore.coherent record hchange.mem
  have hmutable : record.state.immutable = false := by
    rcases hcourse with ⟨hready, _⟩ | ⟨hact, _⟩
    · rw [hready]
      rfl
    · by_contra himm
      rw [Bool.not_eq_false] at himm
      rw [SessionState.active_of_immutable himm] at hact
      cases hact
  have hstarted : next.startedAt.isSome = true := by
    rcases hcourse with ⟨_, hstart⟩ | ⟨hwas, hsame⟩
    · rw [hstart]
      rfl
    · rw [hsame]
      exact hcoherent.started hwas
  obtain ⟨huncompleted, huncancelled⟩ := hcoherent.unended hmutable
  have hnew : snapshot ∈ after.snapshots := by
    rw [hfrozen.appended]
    simp
  refine hbefore.change hctrs hchange hbinds hfrozen.appended ?_ ?_
    (fun _ => hstarted) ?_ ?_ (fun _ _ _ _ _ => hact) ?_
  · intro added hadded
    rw [List.mem_singleton] at hadded
    subst hadded
    refine ⟨hfrozen.sessionId, hfrozen.capturedAt, hfrozen.distinct, hstarted, ?_⟩
    intro entry hent
    obtain ⟨binding, hbind, hid, _, hentryId, hidentity⟩ :=
      hfrozen.bindings entry hent
    exact ⟨binding, hbind, hentryId, hid.trans hfrozen.sessionId.symm, hidentity⟩
  · constructor
    case unstarted => simp [hact]
    case started => exact fun _ => hstarted
    case unended =>
      rw [hcompleted, hcanc]
      exact fun _ => ⟨huncompleted, huncancelled⟩
  · intro _
    refine ⟨snapshot, hnew, hfrozen.sessionId.trans hchange.id.symm, hconf, ?_⟩
    intro other hother hid
    rw [hfrozen.appended] at hother
    rcases List.mem_append.mp hother with hold | hsame
    · rw [hfrozen.version]
      exact (lt_nextSnapshotVersion hold (hid.trans hchange.id)).le
    · rw [List.mem_singleton.mp hsame]
  · intro binding hbind hid hunrel
    rw [hact]
    rcases hsettled binding hbind hid hunrel with hisSome | ⟨hwas, hold⟩
    · exact hisSome
    · rw [← hwas]
      exact hbefore.leased binding hold hunrel record hchange.mem hid.symm
  · intro binding hbind hid released hrelAt
    have hnot := hfrozen.not_lists hctrs hbind hid (by
      intro hnone
      rw [hnone] at hrelAt
      cases hrelAt)
    rcases hbinds.rows binding hbind with hold | ⟨_, hadded | hremoved⟩
    · refine (hbefore.released binding hold released hrelAt).kept hbefore
        hchange hfrozen.appended ?_ hid ?_
      · rw [huncompleted, huncancelled]
        simp
      · intro added hadded
        rw [List.mem_singleton.mp hadded]
        exact hnot
    · rw [hadded.1] at hrelAt
      cases hrelAt
    · -- The binding is released now, so the new snapshot is the later one.
      rw [hremoved.1, Option.mem_some_iff] at hrelAt
      subst hrelAt
      right
      intro earlier hearlier hsess hlists
      rw [hfrozen.appended] at hearlier
      rcases List.mem_append.mp hearlier with hold | hsame
      · refine ⟨snapshot, hnew, hfrozen.sessionId.trans hid.symm, hfrozen.capturedAt, ?_⟩
        rw [hfrozen.version]
        exact lt_nextSnapshotVersion hold (hsess.trans hid)
      · rw [List.mem_singleton.mp hsame] at hlists
        exact absurd hlists hnot

theorem SessionDatabase.Consistent.created {payload : SessionCreate}
    (hbefore : before.Consistent) (hctrs : after.Constraints)
    (hsessions : after.sessions = before.sessions ++ [payload.record])
    (hevents : ∃ event, event.sessionId = payload.record.id ∧
      after.events = before.events ++ [event])
    (hbinds : after.bindings = before.bindings)
    (hsnaps : after.snapshots = before.snapshots) : after.Consistent := by
  have hcases : ∀ session ∈ after.sessions,
      session ∈ before.sessions ∨ session = payload.record := by
    intro session hsess
    rw [hsessions] at hsess
    rcases List.mem_append.mp hsess with hold | hnew
    · exact .inl hold
    · exact .inr (List.mem_singleton.mp hnew)
  have hold : ∀ session ∈ before.sessions, session ∈ after.sessions := by
    intro session hsess
    rw [hsessions]
    exact List.mem_append_left _ hsess
  -- No row refers to the new session yet.
  have hfresh : ∀ session ∈ before.sessions, session.id ≠ payload.record.id := by
    intro session hsess
    have hkeys := hctrs.sessionKeys
    rw [hsessions, List.pairwise_append] at hkeys
    exact hkeys.2.2 session hsess payload.record (by simp)
  constructor
  case constraints => exact hctrs
  case coherent =>
    intro session hsess
    rcases hcases session hsess with hmem | rfl
    · exact hbefore.coherent session hmem
    · exact ⟨fun _ _ => rfl, by simp [SessionCreate.record, SessionState.active],
        fun _ => ⟨rfl, rfl⟩⟩
  case bindingSession =>
    rw [hbinds]
    intro binding hbind
    obtain ⟨session, hsess, hid⟩ := hbefore.bindingSession binding hbind
    exact ⟨session, hold session hsess, hid⟩
  case leased =>
    rw [hbinds]
    intro binding hbind hunrel session hsess hid
    rcases hcases session hsess with hmem | rfl
    · exact hbefore.leased binding hbind hunrel session hmem hid
    · obtain ⟨other, hother, hotherId⟩ := hbefore.bindingSession binding hbind
      exact absurd (hotherId.trans hid.symm) (hfresh other hother)
  case held =>
    rw [hbinds]
    intro binding hbind hunrel session hsess hid
    rcases hcases session hsess with hmem | rfl
    · exact hbefore.held binding hbind hunrel session hmem hid
    · simp [SessionCreate.record]
  case snapshotSession =>
    rw [hsnaps]
    intro snapshot hsnap
    obtain ⟨session, hsess, hparts⟩ := hbefore.snapshotSession snapshot hsnap
    exact ⟨session, hold session hsess, hparts⟩
  case entries =>
    rw [hsnaps, hbinds]
    exact hbefore.entries
  case distinct =>
    rw [hsnaps]
    exact hbefore.distinct
  case lastSnapshot =>
    unfold SessionDatabase.LastSnapshot
    rw [hsnaps]
    intro session hsess hisSome
    rcases hcases session hsess with hmem | rfl
    · exact hbefore.lastSnapshot session hmem hisSome
    · cases hisSome
  case captured =>
    rw [hsnaps]
    intro snapshot hsnap
    obtain ⟨event, hevent, hparts⟩ := hbefore.captured snapshot hsnap
    obtain ⟨_, _, happended⟩ := hevents
    refine ⟨event, ?_, hparts⟩
    rw [happended]
    exact List.mem_append_left _ hevent
  case released =>
    unfold SessionDatabase.ReleaseRecorded
    rw [hbinds, hsnaps]
    intro binding hbind released hrel
    rcases hbefore.released binding hbind released hrel with
      ⟨session, hsess, hparts⟩ | hsuperseded
    · exact .inl ⟨session, hold session hsess, hparts⟩
    · exact .inr hsuperseded

theorem SessionDatabase.Consistent.effect {command : SessionCommand}
    (hbefore : before.Consistent) (hctrs : after.Constraints)
    (heff : SessionEffect before after command) : after.Consistent := by
  cases heff with
  | created payload hsessions hevents hbinds hsnaps _ =>
    exact hbefore.created hctrs hsessions hevents hbinds hsnaps
  | recorded record next hchange hcourse hconf hbinds hsnaps _ =>
    exact hbefore.sessionRow hctrs hchange hcourse.startedAt
      hcourse.completedAt hcourse.cancelledAt hcourse.active hcourse.immutable
      hconf hbinds hsnaps
  | configured record next hchange hcourse hconf hinact hmutable hbinds hsnaps _ =>
      exact hbefore.configured hctrs hchange hcourse hconf hinact hmutable hbinds hsnaps
  | frozen record next snapshot hchange _ hcourse hact hcompleted hcanc _
      hconf hbinds hsettled _ hfrozen _ =>
      exact hbefore.frozen hctrs hchange hcourse hact hcompleted hcanc hconf hbinds hsettled hfrozen
  | closed record next hchange hmutable himm hstarted hended _ hconf hbinds hrel hsnaps _ =>
      exact hbefore.closed hctrs hchange hmutable himm hstarted hended hconf hbinds hrel hsnaps
  | staged record next target hchange _ planned _ _ hrow _ hbinds hsnaps =>
    subst hrow
    exact hbefore.sessionRow hctrs hchange rfl rfl rfl rfl rfl rfl hbinds hsnaps

theorem SessionDatabase.Consistent.step {command : SessionCommand} (hbefore : before.Consistent)
    (hstep : before.step command = some after) : after.Consistent := by
  rcases step_outcome hbefore.constraints hstep with rfl | ⟨hctrs, heff⟩
  · exact hbefore
  · exact hbefore.effect hctrs heff

end Steps

theorem consistent_of_reaches {guard : SessionDatabase → SessionCommand → Prop}
    {database : SessionDatabase} (hreach : Reaches SessionDatabase.step guard .empty database) :
    database.Consistent :=
  hreach.invariant (fun _ _ _ hbefore _ hstep => hbefore.step hstep) .empty

end Nexolab
