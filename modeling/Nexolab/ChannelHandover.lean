import Nexolab.SnapshotOrder

/-!
# The handover of a channel between sessions

The lease index keeps one active binding of a channel at a time, in the order
the commands are committed.  The resolver looks at the times the clients gave.
A channel is held by one session at every time as long as no session takes it
over at a time before the one at which the session which had it gave it up.
-/

namespace Nexolab

instance (snapshot : ConfigSnapshotRecord) (identity : SeriesKey) :
    Decidable (snapshot.Lists identity) :=
  inferInstanceAs (Decidable (∃ entry ∈ snapshot.bindings, _))

/-- By a time, a session has given up the channel of its released binding: the
session has ended, or the binding is released and no snapshot captured after the
release lists the channel. -/
def SessionDatabase.GivenUp (database : SessionDatabase) (session : SessionRecord)
    (binding : SessionChannelBinding) (time : Instant) : Prop :=
  (∃ ended ∈ session.completedAt, ended ≤ time) ∨
  (∃ ended ∈ session.cancelledAt, ended ≤ time) ∨
  ∃ released ∈ binding.releasedAt, released ≤ time ∧
    ∀ snapshot ∈ database.snapshots, snapshot.sessionId = session.id →
      snapshot.Lists binding.identity → snapshot.capturedAt ≤ released

instance (database : SessionDatabase) (session : SessionRecord)
    (binding : SessionChannelBinding) (time : Instant) :
    Decidable (database.GivenUp session binding time) :=
  inferInstanceAs (Decidable (_ ∨ _ ∨ _))

/-- The command puts the channel into the configuration of the session, or
keeps it there. -/
def SessionDatabase.TakesChannel (database : SessionDatabase)
    (command : SessionCommand) (record : SessionRecord) (identity : SeriesKey) :
    Prop :=
  identity ∈ command.channels ∨ ∃ own ∈ database.bindings,
    own.sessionId = record.id ∧ own.releasedAt = none ∧ own.identity = identity

instance (database : SessionDatabase) (command : SessionCommand)
    (record : SessionRecord) (identity : SeriesKey) :
    Decidable (database.TakesChannel command record identity) :=
  inferInstanceAs (Decidable (_ ∨ _))

/-- A start, or a change of an active session, is dated no earlier than the
time at which another session of the node gave up one of its channels. -/
def HandoverNotPredated (database : SessionDatabase) (command : SessionCommand) :
    Prop :=
  ∀ record ∈ database.sessions, command.freezes database record = true →
    ∀ other ∈ database.sessions, other.id ≠ record.id →
    ∀ binding ∈ database.bindings, binding.sessionId = other.id → binding.releasedAt ≠ none →
      record.nodeId = binding.identity.nodeId →
      other.nodeId = binding.identity.nodeId →
      database.TakesChannel command record binding.identity →
      (∃ snapshot ∈ database.snapshots, snapshot.sessionId = other.id ∧
        snapshot.Lists binding.identity) →
      database.GivenUp other binding command.occurredAt

instance (database : SessionDatabase) (command : SessionCommand) :
    Decidable (HandoverNotPredated database command) :=
  inferInstanceAs (Decidable (∀ record ∈ database.sessions, _))

def SessionDatabase.Exclusive (database : SessionDatabase) : Prop :=
  ∀ first second series time, database.Holds first series time →
    database.Holds second series time → first = second

section Steps

variable {before after : SessionDatabase} {record next : SessionRecord}
  {sessionId : String} {series : SeriesKey} {time : Instant}

theorem snapshotInForce_congr (hsame : before.snapshotsOf sessionId = after.snapshotsOf sessionId) :
    before.snapshotInForce sessionId time = after.snapshotInForce sessionId time := by
  have hfilter : ∀ database : SessionDatabase, (database.snapshots.filter fun snapshot =>
        snapshot.sessionId = sessionId ∧ snapshot.capturedAt ≤ time) =
      (database.snapshotsOf sessionId).filter fun snapshot =>
        snapshot.capturedAt ≤ time := by
    intro database
    unfold SessionDatabase.snapshotsOf
    rw [List.filter_filter]
    apply List.filter_congr
    intro snapshot _
    simp [Bool.and_comm]
  unfold SessionDatabase.snapshotInForce
  rw [hfilter before, hfilter after, hsame]

variable {instant : Instant} {command : SessionCommand}

theorem SessionDatabase.Holds.of_sessionRow (hchange : SessionChange before after record next time)
    (hsnaps : after.snapshots = before.snapshots)
    (hopen : next.toTestSession.openAt instant = true →
      record.toTestSession.openAt instant = true)
    (hholds : after.Holds sessionId series instant) :
    before.Holds sessionId series instant := by
  obtain ⟨session, hsess, hid, hnode, hopenAt, snapshot, hforce, hbind⟩ :=
    hholds
  have hforceBefore : before.snapshotInForce sessionId instant = some snapshot := by
    rw [← hforce]
    apply snapshotInForce_congr
    unfold SessionDatabase.snapshotsOf
    rw [hsnaps]
  rcases hchange.cases hsess with rfl | ⟨hmem, _⟩
  · exact ⟨record, hchange.mem, hchange.id.symm.trans hid,
      hchange.node.symm.trans hnode, hopen hopenAt, snapshot, hforceBefore, hbind⟩
  · exact ⟨session, hmem, hid, hnode, hopenAt, snapshot, hforceBefore, hbind⟩

theorem SessionDatabase.Holds.of_frozen {snapshot : ConfigSnapshotRecord}
    (hcons : before.Consistent) (hchange : SessionChange before after record next time)
    (hcourse : record.state = .ready ∧ next.startedAt = some time ∨
      record.state.active = true ∧ next.startedAt = record.startedAt)
    (hcompleted : next.completedAt = record.completedAt)
    (hcanc : next.cancelledAt = record.cancelledAt)
    (hfrozen : FrozenSnapshot before after record snapshot time)
    (hholds : after.Holds sessionId series instant) :
    before.Holds sessionId series instant ∨
      sessionId = record.id ∧ time ≤ instant ∧ snapshot.Lists series ∧
        record.nodeId = series.nodeId := by
  obtain ⟨session, hsess, hid, hnode, hopenAt, found, hforce, entry, hent⟩ :=
    hholds
  rcases hchange.cases hsess with rfl | ⟨hmem, hne⟩
  · have hown : sessionId = record.id := hid.symm.trans hchange.id
    have hinForce := snapshotInForce_inForce hforce
    have happended : after.snapshotsOf sessionId = before.snapshotsOf sessionId ++ [snapshot] := by
      unfold SessionDatabase.snapshotsOf
      rw [hfrozen.appended, List.filter_append]
      simp [hfrozen.sessionId, hown]
    rw [happended] at hinForce
    rcases hinForce.of_append with ⟨rfl, hstarted⟩ | hold
    · right
      rw [hfrozen.capturedAt] at hstarted
      exact ⟨hown, hstarted, ⟨entry, lists_of_bindingOf hent⟩, hchange.node.symm.trans hnode⟩
    · left
      have hfound : found ∈ before.snapshots ∧ found.sessionId = sessionId := by
        simpa [SessionDatabase.snapshotsOf] using hold.mem
      have hstarted : session.startedAt = record.startedAt := by
        rcases hcourse with ⟨hready, _⟩ | ⟨_, hsame⟩
        · exact absurd (hfound.2.trans hown) (hcons.no_snapshot hchange.mem
            (by rw [hready]; rfl) (by rw [hready]; rfl) hfound.1)
        · exact hsame
      have hforceBefore : before.snapshotInForce sessionId instant = some found := by
        cases hbefore : before.snapshotInForce sessionId instant with
        | none =>
          exact absurd hold.started (not_le.mpr (snapshotInForce_eq_none.mp hbefore found hold.mem))
        | some other =>
          have hother := snapshotInForce_inForce hbefore
          have hrank := hold.rank_eq hother
          obtain ⟨hotherMem, hotherId⟩ := snapshotInForce_mem hbefore
          have hver : found.version = other.version := by
            unfold snapshotRank at hrank
            exact congrArg (fun rank => (ofLex (ofLex rank).2).1) hrank
          refine congrArg some (eq_of_pairwise (fun left right hdiffer hsess hequal =>
              hdiffer hsess.symm hequal.symm)
            hcons.constraints.snapshotVersions hotherMem hfound.1 ?_)
          exact fun hdiffer =>
            hdiffer (hotherId.trans hfound.2.symm) hver.symm
      refine ⟨record, hchange.mem, hown.symm, hchange.node.symm.trans hnode, ?_,
        found, hforceBefore, entry, hent⟩
      unfold TestSession.openAt at hopenAt ⊢
      rw [← hstarted, ← hcompleted, ← hcanc]
      exact hopenAt
  · left
    refine ⟨session, hmem, hid, hnode, hopenAt, found, ?_, entry, hent⟩
    rw [← hforce]
    apply snapshotInForce_congr
    unfold SessionDatabase.snapshotsOf
    rw [hfrozen.appended, List.filter_append]
    have hforeign : ¬ snapshot.sessionId = sessionId := by
      rw [hfrozen.sessionId, ← hid]
      exact hne.symm
    simp [hforeign]

theorem SessionDatabase.Holds.of_effect (hcons : before.Consistent)
    (heff : SessionEffect before after command) (hholds : after.Holds sessionId series instant) :
    before.Holds sessionId series instant ∨
      ∃ (record next : SessionRecord) (snapshot : ConfigSnapshotRecord),
        SessionChange before after record next command.occurredAt ∧
        FrozenSnapshot before after record snapshot command.occurredAt ∧
        command.freezes before record = true ∧
        BindingsChanged record.id true command.occurredAt before.bindings after.bindings ∧
        next.state.active = true ∧
        (∀ binding ∈ after.bindings, binding.sessionId = record.id → binding.releasedAt = none →
          before.TakesChannel command record binding.identity) ∧
        sessionId = record.id ∧ command.occurredAt ≤ instant ∧
        snapshot.Lists series ∧ record.nodeId = series.nodeId := by
  have hsame : ∀ record next : SessionRecord,
      SessionChange before after record next command.occurredAt →
      next.startedAt = record.startedAt →
      next.completedAt = record.completedAt →
      next.cancelledAt = record.cancelledAt →
      after.snapshots = before.snapshots →
      before.Holds sessionId series instant := by
    intro record next hchange hstarted hcompleted hcanc hsnaps
    refine hholds.of_sessionRow hchange hsnaps ?_
    unfold TestSession.openAt
    rw [hstarted, hcompleted, hcanc]
    exact id
  cases heff with
  | created payload hsessions _ _ hsnaps _ =>
    left
    obtain ⟨session, hsess, hid, hnode, hopenAt, snapshot, hforce, hbind⟩ :=
      hholds
    rw [hsessions] at hsess
    rcases List.mem_append.mp hsess with hold | hnew
    · refine ⟨session, hold, hid, hnode, hopenAt, snapshot, ?_, hbind⟩
      rw [← hforce]
      apply snapshotInForce_congr
      unfold SessionDatabase.snapshotsOf
      rw [hsnaps]
    · rw [List.mem_singleton.mp hnew] at hopenAt
      cases hopenAt
  | recorded record next hchange hcourse _ _ hsnaps _ =>
    exact .inl (hsame record next hchange hcourse.startedAt
      hcourse.completedAt hcourse.cancelledAt hsnaps)
  | configured record next hchange hcourse _ _ _ _ hsnaps _ =>
    exact .inl (hsame record next hchange hcourse.startedAt
      hcourse.completedAt hcourse.cancelledAt hsnaps)
  | frozen record next snapshot hchange hfreezes hcourse hact hcompleted
      hcanc _ _ hbinds _ hlisted hfrozen _ =>
      rcases hholds.of_frozen hcons hchange hcourse hcompleted hcanc hfrozen with hold | hnew
      · exact .inl hold
      · exact .inr ⟨record, next, snapshot, hchange, hfrozen, hfreezes, hbinds, hact, hlisted, hnew⟩
  | closed record next hchange hmutable _ hstarted _ _ _ _ _ hsnaps _ =>
    left
    refine hholds.of_sessionRow hchange hsnaps ?_
    obtain ⟨huncompleted, huncancelled⟩ :=
      (hcons.coherent record hchange.mem).unended hmutable
    unfold TestSession.openAt
    rw [hstarted, huncompleted, huncancelled]
    simp [endsAfter]
    tauto
  | staged record next target hchange _ planned _ _ hrow _ _ hsnaps =>
    subst hrow
    exact .inl (hsame record _ hchange rfl rfl rfl hsnaps)

theorem SessionDatabase.Holds.not_of_givenUp (hcons : before.Consistent)
    {session : SessionRecord} (hsess : session ∈ before.sessions)
    {binding : SessionChannelBinding} (hbind : binding ∈ before.bindings)
    (hid : binding.sessionId = session.id) (hgiven : before.GivenUp session binding time)
    (htime : time ≤ instant) :
    ¬ before.Holds session.id binding.identity instant := by
  rintro ⟨other, hother, hotherId, _, hopen, snapshot, hforce, entry, hent⟩
  have hsame := hcons.eq_session hother hsess hotherId
  subst hsame
  have hopenParts := hopen
  unfold TestSession.openAt at hopenParts
  rw [Bool.and_eq_true, Bool.and_eq_true] at hopenParts
  rcases hgiven with ⟨ended, hended, hle⟩ | ⟨ended, hended, hle⟩ |
    ⟨released, hrel, hle, hcapt⟩
  · have hends := hopenParts.1.2
    rw [hended] at hends
    exact absurd (hle.trans htime) (not_le.mpr (of_decide_eq_true hends))
  · have hends := hopenParts.2
    rw [hended] at hends
    exact absurd (hle.trans htime) (not_le.mpr (of_decide_eq_true hends))
  · obtain ⟨hmem, hsnapshotId⟩ := snapshotInForce_mem hforce
    have hlists : snapshot.Lists binding.identity :=
      ⟨entry, lists_of_bindingOf hent⟩
    rcases hcons.released binding hbind released hrel with
      ⟨ending, hending, hendingId, hended⟩ | hsuperseded
    · have hsame := hcons.eq_session hother hending (hid.symm.trans hendingId.symm)
      subst hsame
      rcases hended with hcompleted | hcanc
      · have hends := hopenParts.1.2
        rw [hcompleted] at hends
        exact absurd (hle.trans htime) (not_le.mpr (of_decide_eq_true hends))
      · have hends := hopenParts.2
        rw [hcanc] at hends
        exact absurd (hle.trans htime) (not_le.mpr (of_decide_eq_true hends))
    · obtain ⟨later, hlater, hlaterId, hlaterAt, hver⟩ :=
        hsuperseded snapshot hmem (hsnapshotId.trans hid.symm) hlists
      refine not_inForce_of_later hforce hlater (hlaterId.trans hid) ?_ ?_ hver
      · rw [hlaterAt]
        exact hle.trans htime
      · rw [hlaterAt]
        exact hcapt snapshot hmem hsnapshotId hlists

theorem SessionDatabase.Holds.not_of_taken
    {snapshot : ConfigSnapshotRecord} (hcons : before.Consistent) (hafter : after.Consistent)
    (hguard : HandoverNotPredated before command)
    (hchange : SessionChange before after record next command.occurredAt)
    (hfrozen : FrozenSnapshot before after record snapshot command.occurredAt)
    (hfreezes : command.freezes before record = true)
    (hbinds : BindingsChanged record.id true command.occurredAt before.bindings after.bindings)
    (hact : next.state.active = true)
    (hlisted : ∀ binding ∈ after.bindings, binding.sessionId = record.id →
      binding.releasedAt = none → before.TakesChannel command record binding.identity)
    (hlists : snapshot.Lists series) (hnode : record.nodeId = series.nodeId)
    (htime : command.occurredAt ≤ instant) (hholds : before.Holds sessionId series instant) :
    sessionId = record.id := by
  by_contra hne
  have hkept := hholds
  obtain ⟨session, hsess, rfl, hsessionNode, hopen, found, hforce, entry, hent⟩ := hholds
  obtain ⟨hfoundMem, hfoundId⟩ := snapshotInForce_mem hforce
  obtain ⟨hentryMem, rfl⟩ := lists_of_bindingOf hent
  -- The rows of the two sessions for the channel.
  obtain ⟨binding, hbind, _, hbindingSession, hidentity⟩ :=
    hcons.entries found hfoundMem entry hentryMem
  have hforeign : binding.sessionId = session.id := hbindingSession.trans hfoundId
  obtain ⟨other, hother, hotherId, hotherSession, hotherIdentity⟩ :=
    hbinds.persists binding hbind
  have hotherMem : other ∈ before.bindings := by
    refine hbinds.other hother ?_
    rw [hotherSession, hforeign]
    exact hne
  have hsame := eq_of_key hcons.constraints.bindingKeys hotherMem hbind hotherId
  subst hsame
  obtain ⟨taken, htaken, hentryIdentity⟩ := hlists
  obtain ⟨own, hown, hownSession, hunrel, _, hownIdentity⟩ :=
    hfrozen.bindings taken htaken
  have hequalIdentity : own.identity = other.identity := by
    rw [hownIdentity, hentryIdentity, hidentity]
  by_cases hrel : other.releasedAt = none
  · have hstarted : session.startedAt.isSome = true := by
      unfold TestSession.openAt startedBy at hopen
      cases hstart : session.startedAt with
      | none =>
        rw [hstart] at hopen
        cases hopen
      | some started => rfl
    have hother' := hcons.leased other hbind hrel session hsess hforeign.symm
    rw [hcons.held other hbind hrel session hsess hforeign.symm hstarted] at hother'
    have hown' := hafter.leased own hown hunrel next hchange.next_mem
      (hchange.id.trans hownSession.symm)
    rw [hact] at hown'
    have hclash : own = other := by
      refine eq_of_pairwise (fun left right hdiffer hleft hright hequal =>
        hdiffer hright hleft hequal.symm) hafter.constraints.channelLeases hown
        hother ?_
      intro hdiffer
      refine hdiffer ?_ ?_ hequalIdentity
      · simp [SessionChannelBinding.leased, hown', hunrel]
      · simp [SessionChannelBinding.leased, hother', hrel]
    rw [hclash, hforeign] at hownSession
    exact hne hownSession
  · have hgiven := hguard record hchange.mem hfreezes session hsess hne other
      hbind hforeign hrel (by rw [hidentity]; exact hnode)
      (by rw [hidentity]; exact hsessionNode)
      (hequalIdentity ▸ hlisted own hown hownSession hunrel)
      ⟨found, hfoundMem, hfoundId, entry, hentryMem, hidentity.symm⟩
    refine Holds.not_of_givenUp hcons hsess hbind hforeign hgiven htime ?_
    rw [hidentity]
    exact hkept

theorem SessionDatabase.Exclusive.effect (hbefore : before.Exclusive) (hcons : before.Consistent)
    (hafter : after.Consistent) (hguard : HandoverNotPredated before command)
    (heff : SessionEffect before after command) : after.Exclusive := by
  intro first second series instant hfirst hsecond
  rcases Holds.of_effect hcons heff hfirst with hfirstOld |
    ⟨record, next, snapshot, hchange, hfrozen, hfreezes, hbinds, hact,
      hlisted, hid, htime, hlists, hnode⟩
  · rcases Holds.of_effect hcons heff hsecond with hsecondOld |
      ⟨record, next, snapshot, hchange, hfrozen, hfreezes, hbinds, hact,
        hlisted, hid, htime, hlists, hnode⟩
    · exact hbefore first second series instant hfirstOld hsecondOld
    · rw [hid]
      exact Holds.not_of_taken hcons hafter hguard hchange hfrozen hfreezes
        hbinds hact hlisted hlists hnode htime hfirstOld
  · rcases Holds.of_effect hcons heff hsecond with hsecondOld |
      ⟨record', next', snapshot', hchange', _, _, _, _, _, hid', _⟩
    · rw [hid]
      exact (Holds.not_of_taken hcons hafter hguard hchange hfrozen hfreezes
        hbinds hact hlisted hlists hnode htime hsecondOld).symm
    · -- One command freezes one session.
      obtain ⟨event, hevent, _, hevents⟩ := hchange.event
      obtain ⟨event', hevent', _, hevents'⟩ := hchange'.event
      have hequal : event = event' := by
        rw [hevents] at hevents'
        simpa using hevents'
      rw [hid, hid', ← hevent, ← hevent', hequal]

end Steps

theorem openStages_length_le_one {F : Type} {database : SessionDatabase}
    (hctrs : database.Constraints) (hord : database.StagesOrdered)
    (sessionId : String) (time : Instant) :
    (openStages (database.tables : SessionTables F) sessionId time).length ≤ 1 := by
  have hopen : ∀ stage : SessionStageRecord,
      (stage.sessionId = sessionId && startedBy stage.enteredAt time &&
        endsAfter stage.exitedAt time) = true →
      stage.sessionId = sessionId ∧ startedBy stage.enteredAt time = true ∧
        endsAfter stage.exitedAt time = true := by
    intro stage hsel
    simpa [and_assoc] using hsel
  -- An earlier stage is left before a later one is entered.
  have hearlier : ∀ first ∈ database.stages, ∀ second ∈ database.stages,
      first.sessionId = second.sessionId →
      endsAfter first.exitedAt time = true →
      startedBy second.enteredAt time = true →
      ¬ first.sequenceIndex < second.sequenceIndex := by
    intro first hfirst second hsecond hsess hends hstarted hindex
    obtain ⟨exited, hexited, entered, hentered, hle⟩ :=
      hord.order first hfirst second hsecond hsess hindex
    rw [hexited] at hends
    rw [hentered] at hstarted
    have hbefore : time < exited := of_decide_eq_true hends
    have hafter : entered ≤ time := of_decide_eq_true hstarted
    exact absurd (hbefore.trans_le (hle.trans hafter)) (lt_irrefl time)
  have hmatching : ((database.stages.map SessionStageRecord.toSessionStage).filter
      fun stage => stage.sessionId = sessionId &&
        startedBy stage.enteredAt time && endsAfter stage.exitedAt time).length ≤
      1 := by
    apply length_le_one_of_nodup
    · refine List.Nodup.filter _ ?_
      rw [List.Nodup, List.pairwise_map]
      exact hctrs.stageKeys.imp fun hdiffer hequal =>
        hdiffer (congrArg SessionStage.id hequal)
    · intro left hleft right hright
      obtain ⟨hleftMem, hleftOpen⟩ := List.mem_filter.mp hleft
      obtain ⟨hrightMem, hrightOpen⟩ := List.mem_filter.mp hright
      obtain ⟨first, hfirst, rfl⟩ := List.mem_map.mp hleftMem
      obtain ⟨second, hsecond, rfl⟩ := List.mem_map.mp hrightMem
      obtain ⟨hfirstId, hfirstStarted, hfirstEnds⟩ := hopen first hleftOpen
      obtain ⟨hsecondId, hsecondStarted, hsecondEnds⟩ := hopen second hrightOpen
      have hsess := hfirstId.trans hsecondId.symm
      have hindex : first.sequenceIndex = second.sequenceIndex :=
        le_antisymm (not_lt.mp (hearlier second hsecond first hfirst hsess.symm
            hsecondEnds hfirstStarted))
          (not_lt.mp (hearlier first hfirst second hsecond hsess hfirstEnds hsecondStarted))
      have hsame : first = second := eq_of_pairwise (fun left right hdiffer hsess hequal =>
          hdiffer hsess.symm hequal.symm)
        hctrs.stageSequence hfirst hsecond
        (fun hdiffer => hdiffer hsess hindex)
      rw [hsame]
  unfold openStages SessionDatabase.tables
  rw [List.length_take, List.length_map, List.length_insertionSort]
  exact (min_le_right _ _).trans hmatching

/-! ## Every event resolves -/

theorem exclusive_of_reaches {database : SessionDatabase}
    (hreach : Reaches SessionDatabase.step HandoverNotPredated .empty database) :
    database.Consistent ∧ database.Exclusive := by
  refine hreach.invariant (P := fun state =>
    state.Consistent ∧ state.Exclusive) ?_ ⟨.empty, ?_⟩
  · rintro before command after ⟨hcons, hexcl⟩ hguard hstep
    have hafter := hcons.step hstep
    refine ⟨hafter, ?_⟩
    rcases SessionDatabase.step_outcome hcons.constraints hstep with rfl |
      ⟨_, heff⟩
    · exact hexcl
    · exact hexcl.effect hcons hafter hguard heff
  · rintro first second series time ⟨session, hsess, _⟩
    cases hsess

/-- In a run in which no channel is taken over before it was given up, every
telemetry event resolves to one context or to none. -/
theorem telemetryContext_resolves {F : Type} {database : SessionDatabase}
    (hreach : Reaches SessionDatabase.step HandoverNotPredated .empty database)
    (event : TelemetryEvent F) :
    ∃ context, resolveTelemetryContext (database.tables : SessionTables F) event =
      .ok context := by
  obtain ⟨hcons, hexcl⟩ := exclusive_of_reaches hreach
  have hord := stagesOrdered_of_reaches hreach
  refine resolveTelemetryContext_ok hcons.distinct ?_ ?_ ?_
  · rw [List.Nodup, List.pairwise_map]
    exact hcons.constraints.sessionKeys
  · intro first second hfirst hsecond
    exact hexcl first second event.series event.capturedAt hfirst hsecond
  · intro sessionId
    exact openStages_length_le_one hcons.constraints hord sessionId event.capturedAt

/-- A session runs on the probe channel from 10 to 20; then a second session
starts on it with a time given by the client. -/
def handoverAt (startedAt : Instant) : List SessionCommand :=
  startedSession coldRoomSession "T-1" firstEventId 10 ++
    exampleTransition coldRoomSession .complete "complete" 20 firstEventId ::
    startedSession displayCaseSession "T-2" secondEventId startedAt

theorem telemetryContext_resolves_handover :
    ∃ database, runFrom SessionDatabase.step .empty (handoverAt 20) = some database ∧
      StepsMeet SessionDatabase.step HandoverNotPredated .empty (handoverAt 20) ∧
      ∃ context, resolveTelemetryContext database.tables
        (probeReading 17 (by decide)) = .ok context := by
  have hrun : (runFrom SessionDatabase.step .empty (handoverAt 20)).isSome =
      true := by
    decide +kernel
  have hmeet : StepsMeet SessionDatabase.step HandoverNotPredated .empty
      (handoverAt 20) := by
    decide +kernel
  obtain ⟨database, hdb⟩ := Option.isSome_iff_exists.mp hrun
  exact ⟨database, hdb, hmeet, telemetryContext_resolves
    (Reaches.of_stepsMeet hmeet hdb) (probeReading 17 (by decide))⟩

/-- A start dated 15 is accepted after the completion of the first session at
20.  A reading captured at 17 belongs to both sessions and is refused. -/
theorem start_predated :
    ∃ database : SessionDatabase, database.Reachable ∧
      resolveTelemetryContext database.tables (probeReading 17 (by decide)) =
        .error .multipleSessionSnapshots :=
  Reaches.exists_of_runFrom (handoverAt 15) (fun _ _ _ => trivial) (by decide +kernel)

end Nexolab
