import Nexolab.SessionStages

/-!
# The active snapshot and the snapshot in force

A session names the snapshot which was committed last, while the resolver
prefers the snapshot captured last.  The two orders are the same as long as a
session is frozen at times which do not go back.  The commands check a removal
against the activation of its binding only, so a command dated before an earlier
snapshot of the session is accepted.
-/

namespace Nexolab

/-- A start, or a change of an active session, is dated no earlier than the
snapshots the session has. -/
def SnapshotsNotPredated (database : SessionDatabase) (command : SessionCommand) : Prop :=
  ∀ record ∈ database.sessions, command.freezes database record = true →
    ∀ snapshot ∈ database.snapshots, snapshot.sessionId = record.id →
      snapshot.capturedAt ≤ command.occurredAt

instance (database : SessionDatabase) (command : SessionCommand) :
    Decidable (SnapshotsNotPredated database command) :=
  inferInstanceAs (Decidable (∀ record ∈ database.sessions, _))

def SessionDatabase.CapturedInOrder (database : SessionDatabase) : Prop :=
  ∀ first ∈ database.snapshots, ∀ second ∈ database.snapshots,
    first.sessionId = second.sessionId → first.version < second.version →
    first.capturedAt ≤ second.capturedAt

section Steps

variable {before after : SessionDatabase}

theorem SessionDatabase.CapturedInOrder.effect {command : SessionCommand}
    (hbefore : before.CapturedInOrder) (hguard : SnapshotsNotPredated before command)
    (heff : SessionEffect before after command) : after.CapturedInOrder := by
  have hsame : after.snapshots = before.snapshots → after.CapturedInOrder := by
    intro hsnaps
    unfold SessionDatabase.CapturedInOrder
    rw [hsnaps]
    exact hbefore
  cases heff with
  | created _ _ _ _ hsnaps _ => exact hsame hsnaps
  | recorded _ _ _ _ _ _ hsnaps _ => exact hsame hsnaps
  | configured _ _ _ _ _ _ _ _ hsnaps _ => exact hsame hsnaps
  | closed _ _ _ _ _ _ _ _ _ _ _ hsnaps _ => exact hsame hsnaps
  | staged _ _ _ _ _ _ _ _ _ _ _ hsnaps => exact hsame hsnaps
  | frozen record next snapshot hchange hfreezes _ _ _ _ _ _ _ _ _ hfrozen _ =>
    intro first hfirst second hsecond hsess hver
    rw [hfrozen.appended] at hfirst hsecond
    rcases List.mem_append.mp hsecond with hold | hnew
    · rcases List.mem_append.mp hfirst with hfirstOld | hfirstNew
      · exact hbefore first hfirstOld second hold hsess hver
      · -- The new snapshot has the largest version.
        rw [List.mem_singleton.mp hfirstNew] at hsess hver
        rw [hfrozen.version] at hver
        have hlt := lt_nextSnapshotVersion hold (hsess.symm.trans hfrozen.sessionId)
        omega
    · rw [List.mem_singleton.mp hnew] at hsess ⊢
      rw [hfrozen.capturedAt]
      rcases List.mem_append.mp hfirst with hfirstOld | hfirstNew
      · exact hguard record hchange.mem hfreezes first hfirstOld (hsess.trans hfrozen.sessionId)
      · rw [List.mem_singleton.mp hfirstNew]
        exact hfrozen.capturedAt.le

end Steps

theorem capturedInOrder_of_reaches {database : SessionDatabase}
    (hreach : Reaches SessionDatabase.step SnapshotsNotPredated .empty database) :
    database.Consistent ∧ database.CapturedInOrder := by
  refine hreach.invariant (P := fun state =>
    state.Consistent ∧ state.CapturedInOrder) ?_ ⟨.empty, ?_⟩
  · rintro before command after ⟨hcons, hord⟩ hguard hstep
    refine ⟨hcons.step hstep, ?_⟩
    rcases SessionDatabase.step_outcome hcons.constraints hstep with rfl |
      ⟨_, heff⟩
    · exact hord
    · exact hord.effect hguard heff
  · intro first hfirst
    cases hfirst

theorem not_inForce_of_later {database : SessionDatabase} {sessionId : String}
    {time : Instant} {snapshot later : ConfigSnapshotRecord}
    (hforce : database.snapshotInForce sessionId time = some snapshot)
    (hlater : later ∈ database.snapshots) (hsess : later.sessionId = sessionId)
    (hstarted : later.capturedAt ≤ time) (hcapt : snapshot.capturedAt ≤ later.capturedAt)
    (hver : snapshot.version < later.version) : False := by
  have hmem : later ∈ database.snapshotsOf sessionId := by
    simp [SessionDatabase.snapshotsOf, hlater, hsess]
  have hrank : snapshotRank snapshot < snapshotRank later := by
    unfold snapshotRank
    rw [Prod.Lex.toLex_lt_toLex, Prod.Lex.toLex_lt_toLex]
    rcases hcapt.lt_or_eq with hlt | hequal
    · exact .inl hlt
    · exact .inr ⟨hequal, .inl hver⟩
  exact InForce.not_of_rank_lt hmem hstarted hrank (snapshotInForce_inForce hforce)

section Resolution

variable {F : Type} {database : SessionDatabase}

/-- What the resolver finds for a running session, once all its commands have
taken place, is the snapshot the session names. -/
def SessionDatabase.ResolvesActiveSnapshot (database : SessionDatabase) : Prop :=
  ∀ session ∈ database.sessions, session.state.active = true →
    ∀ time, (∀ event ∈ database.events, event.sessionId = session.id →
      event.occurredAt ≤ time) →
    ∃ snapshot, database.snapshotInForce session.id time = some snapshot ∧
      session.activeConfigSnapshotId = some snapshot.id.text

theorem resolvesActiveSnapshot (hcons : database.Consistent)
    (hord : database.CapturedInOrder) : database.ResolvesActiveSnapshot := by
  intro session hsess hact time hcommands
  have hstarted := (hcons.coherent session hsess).started hact
  obtain ⟨last, hlast, hlastId, hnamed, hlargest⟩ :=
    hcons.lastSnapshot session hsess hstarted
  have hlastTime : last.capturedAt ≤ time := by
    obtain ⟨event, hevent, hid, hcapt⟩ := hcons.captured last hlast
    rw [← hcapt]
    exact hcommands event hevent (hid.trans hlastId)
  cases hforce : database.snapshotInForce session.id time with
  | none =>
    have hlater := snapshotInForce_eq_none.mp hforce last (by
      simp [SessionDatabase.snapshotsOf, hlast, hlastId])
    exact absurd hlastTime (not_le.mpr hlater)
  | some snapshot =>
    obtain ⟨hmem, hid⟩ := snapshotInForce_mem hforce
    refine ⟨snapshot, rfl, ?_⟩
    rw [hnamed]
    have hver : snapshot.version = last.version := by
      refine le_antisymm (hlargest snapshot hmem hid) ?_
      by_contra hsmaller
      rw [not_le] at hsmaller
      exact not_inForce_of_later hforce hlast hlastId hlastTime
        (hord snapshot hmem last hlast (hid.trans hlastId.symm) hsmaller)
        hsmaller
    have hequal : snapshot = last := by
      refine eq_of_pairwise (fun left right hdiffer hsess hequal =>
        hdiffer hsess.symm hequal.symm)
        hcons.constraints.snapshotVersions hmem hlast ?_
      exact fun hdiffer => hdiffer (hid.trans hlastId.symm) hver
    rw [hequal]

theorem released_not_held (hcons : database.Consistent)
    (hord : database.CapturedInOrder) {binding : SessionChannelBinding}
    (hbind : binding ∈ database.bindings) {released time : Instant}
    (hrel : binding.releasedAt = some released) (htime : released ≤ time) :
    ¬ database.Holds binding.sessionId binding.identity time := by
  rintro ⟨session, hsess, hid, _, hopen, snapshot, hforce, entry, hent⟩
  rcases hcons.released binding hbind released hrel with
    ⟨other, hother, hotherId, hended⟩ | hsuperseded
  · have hsame := hcons.eq_session hsess hother (hid.trans hotherId.symm)
    subst hsame
    unfold TestSession.openAt at hopen
    rw [Bool.and_eq_true, Bool.and_eq_true] at hopen
    rcases hended with hcompleted | hcanc
    · have hends := hopen.1.2
      rw [hcompleted] at hends
      exact absurd htime (not_le.mpr (of_decide_eq_true hends))
    · have hends := hopen.2
      rw [hcanc] at hends
      exact absurd htime (not_le.mpr (of_decide_eq_true hends))
  · obtain ⟨hmem, hsnapshotId⟩ := snapshotInForce_mem hforce
    obtain ⟨later, hlater, hlaterId, hcapt, hver⟩ :=
      hsuperseded snapshot hmem hsnapshotId
        ⟨entry, lists_of_bindingOf hent⟩
    refine not_inForce_of_later hforce hlater hlaterId ?_ ?_ hver
    · rw [hcapt]
      exact htime
    · exact hord snapshot hmem later hlater (hsnapshotId.trans hlaterId.symm) hver

theorem holds_of_resolved (hcons : database.Consistent)
    {event : TelemetryEvent F} {context : ResolvedTelemetryContext}
    (hresd : resolveTelemetryContext (database.tables : SessionTables F)
      event = .ok (some context)) :
    database.Holds context.sessionId event.series event.capturedAt := by
  obtain ⟨hopen, snapshot, binding, hsnap, hbind, _⟩ :=
    resolved_context hcons.distinct hresd
  obtain ⟨session, hsess, hid, hnode, hopenAt⟩ := mem_openSessions.mp hopen
  obtain ⟨record, hrec, rfl⟩ := List.mem_map.mp hsess
  exact ⟨record, hrec, hid, hnode, hopenAt, snapshot, hsnap, binding, hbind⟩

/-- In a run whose freezing commands are not dated before a snapshot of their
session, the resolver uses the active snapshot of a running session from its
last command on, and does not attribute a channel to a session from the release
of its binding on. -/
theorem activeSnapshot_resolved
    (hreach : Reaches SessionDatabase.step SnapshotsNotPredated .empty database) :
    database.ResolvesActiveSnapshot ∧
      (∀ session ∈ database.sessions, session.state.active = true →
        ∀ event : TelemetryEvent F,
        (∀ command ∈ database.events, command.sessionId = session.id →
          command.occurredAt ≤ event.capturedAt) →
        ∀ context, resolveTelemetryContext database.tables event = .ok (some context) →
          context.sessionId = session.id →
          session.activeConfigSnapshotId = some context.configSnapshotId) ∧
      ∀ binding ∈ database.bindings, ∀ released ∈ binding.releasedAt,
        ∀ event : TelemetryEvent F, event.series = binding.identity →
        released ≤ event.capturedAt →
        ∀ context, resolveTelemetryContext database.tables event = .ok (some context) →
          context.sessionId ≠ binding.sessionId := by
  obtain ⟨hcons, hord⟩ := capturedInOrder_of_reaches hreach
  have hact := resolvesActiveSnapshot hcons hord
  refine ⟨hact, ?_, ?_⟩
  · intro session hsess hstate event hcommands context hresd hid
    obtain ⟨snapshot, hforce, hnamed⟩ :=
      hact session hsess hstate event.capturedAt hcommands
    obtain ⟨_, other, _, hother, _, hver, _⟩ :=
      resolved_context hcons.distinct hresd
    rw [hid, hforce, Option.some.injEq] at hother
    rw [hnamed, hver, hother]
  · intro binding hbind released hrel event hseries htime context hresd hid
    have hholds := holds_of_resolved hcons hresd
    rw [hid, hseries] at hholds
    exact released_not_held hcons hord hbind hrel htime hholds

end Resolution

/-! ## A removal dated before a snapshot -/

/-- The session starts at 10 and its limits are changed at 20; then the probe
channel is removed with a time given by the client. -/
def removalAt (removedAt : Instant) : List SessionCommand :=
  startedSession coldRoomSession "T-1" firstEventId 10 ++
    [.addLimitSet (exampleConfiguration coldRoomSession "limits" 20
        secondEventId) [(none, "temperature.probe")],
      .removeBinding (exampleConfiguration coldRoomSession "remove" removedAt
        thirdEventId) firstEventId]

theorem activeSnapshot_resolved_removal :
    ∃ database, runFrom SessionDatabase.step .empty (removalAt 25) = some database ∧
      StepsMeet SessionDatabase.step SnapshotsNotPredated .empty (removalAt 25) ∧
      database.ResolvesActiveSnapshot := by
  have hrun : (runFrom SessionDatabase.step .empty (removalAt 25)).isSome =
      true := by
    decide +kernel
  have hmeet : StepsMeet SessionDatabase.step SnapshotsNotPredated .empty
      (removalAt 25) := by
    decide +kernel
  obtain ⟨database, hdb⟩ := Option.isSome_iff_exists.mp hrun
  exact ⟨database, hdb, hmeet, (activeSnapshot_resolved (F := FloatValue)
      (Reaches.of_stepsMeet hmeet hdb)).1⟩

/-- A removal dated 15 is accepted.  A reading of the channel captured at 30,
after every command, is attributed to the running session with the snapshot of
the limit change, which is not the active one. -/
theorem removal_predated :
    ∃ database : SessionDatabase, database.Reachable ∧
      (∃ session ∈ database.sessions, session.state = .running ∧
        session.id = coldRoomSession.text ∧
        (∀ event ∈ database.events, event.sessionId = session.id →
          event.occurredAt ≤ 30) ∧
        session.activeConfigSnapshotId = some thirdEventId.text) ∧
      (∃ binding ∈ database.bindings, binding.identity = probeChannel ∧
        binding.sessionId = coldRoomSession.text ∧ binding.releasedAt = some 15) ∧
      resolveTelemetryContext database.tables (probeReading 30 (by decide)) =
        .ok (some ⟨coldRoomSession.text, none, firstEventId.text,
          secondEventId.text⟩) :=
  Reaches.exists_of_runFrom (removalAt 15) (fun _ _ _ => trivial) (by decide +kernel)

end Nexolab
