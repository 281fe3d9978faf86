import Nexolab.SessionStages

/-!
# Late telemetry

Every command stamps what it writes with its time, and the resolver compares
the stamps with the capture time.  So an event captured before the time of a
command is attributed as if the command had not been given yet, whenever the
event arrives.
-/

namespace Nexolab

/-! ## Sorted selections -/

section Selections

variable {α κ : Type} {key : α → κ} {selected : α → Bool}
  {R : α → α → Prop} {left right : List α}

theorem filter_map_eq_of_forall₂ (hrelated : List.Forall₂ R left right)
    (hsel : ∀ first second, R first second → selected first = selected second)
    (hkey : ∀ first second, R first second → selected first = true →
      key first = key second) :
    (left.filter selected).map key = (right.filter selected).map key := by
  induction hrelated with
  | nil => rfl
  | @cons first second _ _ hhead _ ih =>
    cases hsame : selected first with
    | false =>
      rw [List.filter_cons_of_neg (by simp [hsame]),
        List.filter_cons_of_neg (by simp [← hsel _ _ hhead, hsame])]
      exact ih
    | true =>
      rw [List.filter_cons_of_pos hsame, List.filter_cons_of_pos (by rw [← hsel _ _ hhead, hsame]),
        List.map_cons, List.map_cons, hkey _ _ hhead hsame, ih]

theorem insertionSort_map_eq {r : α → α → Prop} {s : κ → κ → Prop} [DecidableRel r] [DecidableRel s]
    (hkey : ∀ first second, r first second ↔ s (key first) (key second))
    (hsame : left.map key = right.map key) :
    (left.insertionSort r).map key = (right.insertionSort r).map key := by
  rw [List.map_insertionSort r s key left fun _ _ _ _ => hkey _ _,
    List.map_insertionSort r s key right fun _ _ _ _ => hkey _ _, hsame]

end Selections

section Resolution

variable {F : Type} {first second : SessionTables F} {event : TelemetryEvent F}

def laterFirst (left right : Instant × String) : Prop :=
  right.1 < left.1 ∨ right.1 = left.1 ∧ right.2 ≤ left.2

instance : DecidableRel laterFirst := fun left right =>
  inferInstanceAs (Decidable (right.1 < left.1 ∨ right.1 = left.1 ∧ right.2 ≤ left.2))

/-- At a time two rows of a session are the same for the resolver. -/
structure TestSession.SameAt (time : Instant) (left right : TestSession) : Prop where
  id : left.id = right.id
  nodeId : left.nodeId = right.nodeId
  openAt : left.openAt time = right.openAt time
  startedAt : left.openAt time = true → left.startedAt = right.startedAt

theorem TestSession.SameAt.refl (time : Instant) (session : TestSession) :
    session.SameAt time session :=
  ⟨rfl, rfl, rfl, fun _ => rfl⟩

theorem openSessions_congr
    (hsame : (first.sessions.filter fun session =>
        session.nodeId = event.nodeId.text && session.openAt event.capturedAt).map
          (fun session => (session.startedAt.getD 0, session.id)) =
      (second.sessions.filter fun session =>
        session.nodeId = event.nodeId.text && session.openAt event.capturedAt).map
          fun session => (session.startedAt.getD 0, session.id)) :
    openSessions first event = openSessions second event := by
  have hselect : ∀ sessions : List TestSession, (sessions.filter fun session =>
      session.nodeId = event.nodeId.text && startedBy session.startedAt event.capturedAt &&
        endsAfter session.completedAt event.capturedAt &&
        endsAfter session.cancelledAt event.capturedAt) =
      sessions.filter fun session => session.nodeId = event.nodeId.text &&
        session.openAt event.capturedAt := by
    intro sessions
    simp only [TestSession.openAt, Bool.and_assoc]
  unfold openSessions
  simp only [hselect]
  have hsorted := insertionSort_map_eq (r := fun left right : TestSession =>
    right.startedAt.getD 0 < left.startedAt.getD 0 ∨
      right.startedAt.getD 0 = left.startedAt.getD 0 ∧ right.id ≤ left.id)
    (s := laterFirst) (fun _ _ => Iff.rfl) hsame
  simpa [List.map_map, Function.comp_def] using
    congrArg (List.map Prod.snd) hsorted

theorem openSessions_eq_of_forall₂
    (hrelated : List.Forall₂ (TestSession.SameAt event.capturedAt)
      first.sessions second.sessions) :
    openSessions first event = openSessions second event := by
  apply openSessions_congr
  apply filter_map_eq_of_forall₂ hrelated
  · intro left right hsame
    rw [hsame.nodeId, hsame.openAt]
  · intro left right hsame hsel
    rw [Bool.and_eq_true] at hsel
    rw [hsame.startedAt hsel.2, hsame.id]

def SessionStage.openAt (stage : SessionStage) (time : Instant) : Bool :=
  startedBy stage.enteredAt time && endsAfter stage.exitedAt time

theorem openStages_congr {sessionId : String} {time : Instant}
    (hsame : (first.stages.filter fun stage =>
        stage.sessionId = sessionId && stage.openAt time).map
          (fun stage => (stage.enteredAt.getD 0, stage.id)) =
      (second.stages.filter fun stage =>
        stage.sessionId = sessionId && stage.openAt time).map
          fun stage => (stage.enteredAt.getD 0, stage.id)) :
    openStages first sessionId time = openStages second sessionId time := by
  have hselect : ∀ stages : List SessionStage, (stages.filter fun stage =>
      stage.sessionId = sessionId && startedBy stage.enteredAt time &&
        endsAfter stage.exitedAt time) =
      stages.filter fun stage => stage.sessionId = sessionId && stage.openAt time := by
    intro stages
    simp only [SessionStage.openAt, Bool.and_assoc]
  unfold openStages
  simp only [hselect]
  have hsorted := insertionSort_map_eq (r := fun left right : SessionStage =>
    right.enteredAt.getD 0 < left.enteredAt.getD 0 ∨
      right.enteredAt.getD 0 = left.enteredAt.getD 0 ∧ right.id ≤ left.id)
    (s := laterFirst) (fun _ _ => Iff.rfl) hsame
  have hids := congrArg (List.map Prod.snd) hsorted
  simp only [List.map_map, Function.comp_def] at hids
  exact congrArg (List.take 2) hids

theorem resolveTelemetryContext_congr
    (hsessions : openSessions first event = openSessions second event)
    (hsnaps : ∀ sessionId, snapshotAt first sessionId event.capturedAt =
      snapshotAt second sessionId event.capturedAt)
    (hstages : ∀ sessionId, openStages first sessionId event.capturedAt =
      openStages second sessionId event.capturedAt) :
    resolveTelemetryContext first event = resolveTelemetryContext second event := by
  have hmatch : matchSession first event = matchSession second event := by
    funext found sessionId
    unfold matchSession
    rw [hsnaps]
  unfold resolveTelemetryContext
  simp only [hsessions, hmatch, hstages]

end Resolution

section Steps

variable {before after : SessionDatabase} {record next : SessionRecord}
  {time capturedAt : Instant}

theorem SessionChange.sameAt (hcons : before.Consistent)
    (hchange : SessionChange before after record next time)
    (hrec : record.SameAt capturedAt next.toTestSession) :
    List.Forall₂ (TestSession.SameAt capturedAt) (before.sessions.map SessionRecord.toTestSession)
      (after.sessions.map SessionRecord.toTestSession) := by
  rw [hchange.sessions, replaceSession, List.map_map, List.forall₂_map_left_iff,
    List.forall₂_map_right_iff, List.forall₂_same]
  intro session hsess
  change session.toTestSession.SameAt capturedAt (SessionRecord.toTestSession
    (if session.id = next.id then next else session))
  split_ifs with hid
  · rw [hcons.eq_session hsess hchange.mem (hid.trans hchange.id)]
    exact hrec
  · exact .refl _ _

theorem startedBy_some_of_lt (hlate : capturedAt < time) :
    startedBy (some time) capturedAt = false := by
  simp [startedBy, hlate]

theorem endsAfter_some_of_lt (hlate : capturedAt < time) :
    endsAfter (some time) capturedAt = true := by
  simp [endsAfter, hlate]

variable {command : SessionCommand}

theorem openSessions_of_effect {F : Type} {event : TelemetryEvent F} (hcons : before.Consistent)
    (heff : SessionEffect before after command) (hlate : event.capturedAt < command.occurredAt) :
    openSessions (before.tables : SessionTables F) event =
      openSessions (after.tables : SessionTables F) event := by
  have hsame : ∀ record next : SessionRecord,
      SessionChange before after record next command.occurredAt →
      next.startedAt = record.startedAt →
      next.completedAt = record.completedAt →
      next.cancelledAt = record.cancelledAt →
      openSessions (before.tables : SessionTables F) event =
        openSessions (after.tables : SessionTables F) event := by
    intro record next hchange hstarted hcompleted hcanc
    refine openSessions_eq_of_forall₂ (hchange.sameAt hcons
      ⟨hchange.id.symm, hchange.node.symm, ?_, fun _ => hstarted.symm⟩)
    unfold TestSession.openAt
    rw [hstarted, hcompleted, hcanc]
  cases heff with
  | created payload hsessions _ _ _ _ =>
    apply openSessions_congr
    unfold SessionDatabase.tables
    rw [hsessions, List.map_append, List.filter_append, List.map_append]
    simp [SessionCreate.record, TestSession.openAt, startedBy]
  | recorded record next hchange hcourse _ _ _ _ =>
    exact hsame record next hchange hcourse.startedAt hcourse.completedAt hcourse.cancelledAt
  | configured record next hchange hcourse _ _ _ _ _ _ =>
    exact hsame record next hchange hcourse.startedAt hcourse.completedAt hcourse.cancelledAt
  | frozen record next snapshot hchange _ hcourse _ hcompleted hcanc _ _ _ _
      _ _ _ =>
      rcases hcourse with ⟨hready, hstart⟩ | ⟨_, hstarted⟩
      · -- The session starts after the capture.
        have hunstarted := (hcons.coherent record hchange.mem).unstarted
          (by rw [hready]; rfl) (by rw [hready]; rfl)
        have hbefore : record.toTestSession.openAt event.capturedAt = false := by
          unfold TestSession.openAt
          rw [hunstarted]
          rfl
        have hafter : next.toTestSession.openAt event.capturedAt = false := by
          unfold TestSession.openAt
          rw [hstart, startedBy_some_of_lt hlate]
          rfl
        refine openSessions_eq_of_forall₂ (hchange.sameAt hcons
          ⟨hchange.id.symm, hchange.node.symm, hbefore.trans hafter.symm, ?_⟩)
        intro hopen
        rw [hbefore] at hopen
        cases hopen
      · exact hsame record next hchange hstarted hcompleted hcanc
  | closed record next hchange hmutable _ hstarted hended _ _ _ _ _ _ =>
    -- The session ends after the capture.
    obtain ⟨huncompleted, huncancelled⟩ :=
      (hcons.coherent record hchange.mem).unended hmutable
    refine openSessions_eq_of_forall₂ (hchange.sameAt hcons
      ⟨hchange.id.symm, hchange.node.symm, ?_, fun _ => hstarted.symm⟩)
    unfold TestSession.openAt
    rw [hstarted, huncompleted, huncancelled]
    rcases hended with ⟨hcompleted, hcanc⟩ | ⟨hcanc, hcompleted⟩
    · rw [hcompleted, hcanc, huncancelled, endsAfter_some_of_lt hlate]
      rfl
    · rw [hcanc, hcompleted, huncompleted, endsAfter_some_of_lt hlate]
      rfl
  | staged record next target hchange _ planned _ _ hrow _ _ _ =>
    subst hrow
    exact hsame record _ hchange rfl rfl rfl

theorem snapshots_of_effect (heff : SessionEffect before after command) :
    ∃ added, after.snapshots = before.snapshots ++ added ∧
      ∀ snapshot ∈ added, snapshot.capturedAt = command.occurredAt := by
  cases heff with
  | frozen record next snapshot _ _ _ _ _ _ _ _ _ _ _ hfrozen _ =>
    refine ⟨[snapshot], hfrozen.appended, ?_⟩
    intro added hadded
    rw [List.mem_singleton.mp hadded]
    exact hfrozen.capturedAt
  | created _ _ _ _ hsnaps _ => exact ⟨[], by simpa using hsnaps, by simp⟩
  | recorded _ _ _ _ _ _ hsnaps _ =>
    exact ⟨[], by simpa using hsnaps, by simp⟩
  | configured _ _ _ _ _ _ _ _ hsnaps _ =>
    exact ⟨[], by simpa using hsnaps, by simp⟩
  | closed _ _ _ _ _ _ _ _ _ _ _ hsnaps _ =>
    exact ⟨[], by simpa using hsnaps, by simp⟩
  | staged _ _ _ _ _ _ _ _ _ _ _ hsnaps =>
    exact ⟨[], by simpa using hsnaps, by simp⟩

theorem snapshotAt_of_effect {F : Type} (heff : SessionEffect before after command)
    (hlate : capturedAt < command.occurredAt) (sessionId : String) :
    snapshotAt (before.tables : SessionTables F) sessionId capturedAt =
      snapshotAt (after.tables : SessionTables F) sessionId capturedAt := by
  obtain ⟨added, hsnaps, hadded⟩ := snapshots_of_effect heff
  rw [snapshotAt_tables, snapshotAt_tables]
  unfold SessionDatabase.snapshotInForce
  have hnone : (added.filter fun snapshot =>
      snapshot.sessionId = sessionId ∧ snapshot.capturedAt ≤ capturedAt) = [] := by
    rw [List.filter_eq_nil_iff]
    intro snapshot hsnap hsel
    have hle := (of_decide_eq_true hsel).2
    rw [hadded snapshot hsnap] at hle
    exact absurd hlate (not_lt.mpr hle)
  rw [hsnaps, List.filter_append, hnone, List.append_nil]

theorem openStages_of_moved {F : Type} {current : Option SessionStageRecord}
    {entered : SessionStageRecord} (hmoved : StageMoved before after record current entered time)
    (hkeys : before.Constraints)
    (hunexited : ∀ stage ∈ current, stage ∈ before.stages ∧ stage.exitedAt = none)
    (hlate : capturedAt < time) (sessionId : String) :
    openStages (before.tables : SessionTables F) sessionId capturedAt =
      openStages (after.tables : SessionTables F) sessionId capturedAt := by
  apply openStages_congr
  unfold SessionDatabase.tables
  have hentered : ([entered.toSessionStage].filter fun stage =>
      stage.sessionId = sessionId && stage.openAt capturedAt) = [] := by
    simp [SessionStage.openAt, hmoved.enteredAt, startedBy_some_of_lt hlate]
  rw [hmoved.stages, List.map_append, List.filter_append, List.map_singleton,
    hentered, List.append_nil, List.map_map]
  apply filter_map_eq_of_forall₂ (R := fun left right : SessionStage =>
    left.id = right.id ∧ left.sessionId = right.sessionId ∧ left.enteredAt = right.enteredAt ∧
      left.openAt capturedAt = right.openAt capturedAt)
  · rw [List.forall₂_map_left_iff, List.forall₂_map_right_iff, List.forall₂_same]
    intro stage hstage
    refine ⟨?_, ?_, ?_, ?_⟩
    all_goals
      simp only [Function.comp_apply]
      split_ifs with hleft
    any_goals rfl
    -- The stage is left after the capture.
    obtain ⟨left, hmem, hid⟩ := hleft
    obtain ⟨hleftMem, hnone⟩ := hunexited left hmem
    have hsame := eq_of_key hkeys.stageKeys hstage hleftMem hid
    subst hsame
    unfold SessionStage.openAt
    rw [hnone, endsAfter_some_of_lt hlate]
    rfl
  · rintro left right ⟨_, hsess, _, hopen⟩
    rw [hsess, hopen]
  · rintro left right ⟨hid, _, hsame, _⟩ _
    rw [hid, hsame]

theorem openStages_of_effect {F : Type} (hcons : before.Consistent) (hord : before.StagesOrdered)
    (hctrs : after.Constraints) (heff : SessionEffect before after command)
    (hlate : capturedAt < command.occurredAt) (sessionId : String) :
    openStages (before.tables : SessionTables F) sessionId capturedAt =
      openStages (after.tables : SessionTables F) sessionId capturedAt := by
  have hsame : after.stages = before.stages →
      openStages (before.tables : SessionTables F) sessionId capturedAt =
        openStages (after.tables : SessionTables F) sessionId capturedAt := by
    intro hstages
    unfold openStages SessionDatabase.tables
    rw [hstages]
  cases heff with
  | created _ _ _ _ _ hstages => exact hsame hstages
  | recorded _ _ _ _ _ _ _ hstages => exact hsame hstages
  | configured _ _ _ _ _ _ _ _ _ hstages => exact hsame hstages
  | frozen _ _ _ _ _ _ _ _ _ _ _ _ _ _ _ hstages => exact hsame hstages
  | closed _ _ _ _ _ _ _ _ _ _ _ _ hstages => exact hsame hstages
  | staged record next target hchange _ planned hfound hunentered _ hmoved =>
    obtain ⟨request, _, htarget, hindex⟩ := hfound
    obtain ⟨entered, _, hrows⟩ :=
      hord.moved hctrs htarget hindex hunentered hmoved
    refine openStages_of_moved hrows hcons.constraints ?_ hlate sessionId
    intro stage hstage
    rcases hord.currentStage_eq hcons.constraints hchange.mem with
      ⟨hnone, _⟩ | ⟨current, hsome, hcur⟩
    · rw [hnone] at hstage
      cases hstage
    · rw [hsome, Option.mem_some_iff] at hstage
      exact hstage ▸ ⟨hcur.mem, hcur.unexited⟩

end Steps

section Attribution

variable {F : Type} {before after : SessionDatabase} {event : TelemetryEvent F}

theorem resolve_of_effect {command : SessionCommand}
    (hcons : before.Consistent) (hord : before.StagesOrdered) (hctrs : after.Constraints)
    (heff : SessionEffect before after command) (hlate : event.capturedAt < command.occurredAt) :
    resolveTelemetryContext (before.tables : SessionTables F) event =
      resolveTelemetryContext (after.tables : SessionTables F) event :=
  resolveTelemetryContext_congr (openSessions_of_effect hcons heff hlate)
    (snapshotAt_of_effect heff hlate)
    (openStages_of_effect hcons hord hctrs heff hlate)

theorem bindingIds_of_effect {command : SessionCommand}
    (heff : SessionEffect before after command) {bindingId : String}
    (hbind : bindingId ∈ (before.tables : SessionTables F).bindingIds) :
    bindingId ∈ (after.tables : SessionTables F).bindingIds := by
  have hpersists : ∀ {sessionId : String} {active : Bool} {time : Instant},
      BindingsChanged sessionId active time before.bindings after.bindings →
      bindingId ∈ (after.tables : SessionTables F).bindingIds := by
    intro sessionId active time hchanged
    obtain ⟨binding, hmem, hid⟩ := List.mem_map.mp hbind
    obtain ⟨other, hother, hsame, _⟩ := hchanged.persists binding hmem
    exact List.mem_map.mpr ⟨other, hother, by rw [hsame]; exact hid⟩
  have hequal : after.bindings = before.bindings →
      bindingId ∈ (after.tables : SessionTables F).bindingIds := by
    intro hbinds
    unfold SessionDatabase.tables
    rw [hbinds]
    exact hbind
  cases heff with
  | created _ _ _ hbinds _ _ => exact hequal hbinds
  | recorded _ _ _ _ _ hbinds _ _ => exact hequal hbinds
  | configured _ _ _ _ _ _ _ hbinds _ _ => exact hpersists hbinds
  | frozen _ _ _ _ _ _ _ _ _ _ _ hbinds _ _ _ _ => exact hpersists hbinds
  | closed _ _ _ _ _ _ _ _ _ hbinds _ _ _ => exact hpersists hbinds
  | staged _ _ _ _ _ _ _ _ _ _ hbinds _ => exact hequal hbinds

theorem resolved_binding_mem {context : ResolvedTelemetryContext} (hcons : before.Consistent)
    (hresd : resolveTelemetryContext (before.tables : SessionTables F) event = .ok (some context)) :
    context.bindingId ∈ (before.tables : SessionTables F).bindingIds := by
  obtain ⟨_, snapshot, binding, hsnap, hbind, _, hid⟩ :=
    resolved_context hcons.distinct hresd
  obtain ⟨row, hrow, hrowId, _⟩ := hcons.entries snapshot
    (snapshotInForce_mem hsnap).1 binding (lists_of_bindingOf hbind).1
  exact List.mem_map.mpr ⟨row, hrow, by rw [hrowId]; exact hid.symm⟩

theorem attributeSample_of_effect [PythonFloat F] {command : SessionCommand}
    (hcons : before.Consistent) (hord : before.StagesOrdered) (hctrs : after.Constraints)
    (heff : SessionEffect before after command) (hlate : event.capturedAt < command.occurredAt)
    (tables : TelemetryTables F) :
    attributeSample before.tables tables event = attributeSample after.tables tables event := by
  have hresv := resolve_of_effect hcons hord hctrs heff hlate
  unfold attributeSample
  rw [← hresv]
  split
  next => rfl
  next => rfl
  next context hcontext =>
    have hbefore := resolved_binding_mem hcons hcontext
    have hafter := bindingIds_of_effect heff hbefore
    unfold insertContext
    have hcontains : (before.tables : SessionTables F).bindingIds.contains
        (contextRow event context).bindingId = true := by
      simpa [contextRow] using hbefore
    have hcontains' : (after.tables : SessionTables F).bindingIds.contains
        (contextRow event context).bindingId = true := by
      simpa [contextRow] using hafter
    rw [hcontains, hcontains']

/-- An event captured before the time of an accepted command is attributed
after the command as it was before: it resolves to the same session, stage,
binding and snapshot, and persisting it has the same result. -/
theorem lateTelemetry_unaffected [PythonFloat F] {command : SessionCommand}
    (hreach : before.Reachable) (hstep : before.step command = some after)
    (hlate : event.capturedAt < command.occurredAt) :
    resolveTelemetryContext (after.tables : SessionTables F) event =
        resolveTelemetryContext before.tables event ∧
      ∀ (tables : TelemetryTables F) (allocation : Allocation)
        (rawPayload : JsonFields F),
        SessionAwareDatabase.persist after.tables tables allocation event rawPayload =
          SessionAwareDatabase.persist before.tables tables allocation event
            rawPayload := by
  have hcons := consistent_of_reaches hreach
  have hord := stagesOrdered_of_reaches hreach
  rcases SessionDatabase.step_outcome hcons.constraints hstep with rfl |
    ⟨hctrs, heff⟩
  · exact ⟨rfl, fun _ _ _ => rfl⟩
  · refine ⟨(resolve_of_effect hcons hord hctrs heff hlate).symm, ?_⟩
    intro tables allocation rawPayload
    unfold SessionAwareDatabase.persist
    have hattr := fun inserted : TelemetryTables F =>
      attributeSample_of_effect hcons hord hctrs heff hlate inserted
    simp only [hattr]

end Attribution

/-- The completion of a session at 20 does not change the attribution of a
reading captured at 12. -/
theorem lateTelemetry_unaffected_completed :
    ∃ before after : SessionDatabase, runFrom SessionDatabase.step .empty
        (startedSession coldRoomSession "T-1" firstEventId 10) = some before ∧
      before.step (exampleTransition coldRoomSession .complete "complete" 20
        firstEventId) = some after ∧
      resolveTelemetryContext after.tables (probeReading 12 (by decide)) =
        resolveTelemetryContext before.tables (probeReading 12 (by decide)) := by
  have hrun : (runFrom SessionDatabase.step .empty
      (startedSession coldRoomSession "T-1" firstEventId 10)).isSome = true := by
    decide +kernel
  obtain ⟨before, hbefore⟩ := Option.isSome_iff_exists.mp hrun
  have hstep : ((runFrom SessionDatabase.step .empty
      (startedSession coldRoomSession "T-1" firstEventId 10)).bind fun database =>
        database.step (exampleTransition coldRoomSession .complete "complete" 20
          firstEventId)).isSome = true := by
    decide +kernel
  rw [hbefore, Option.bind_some] at hstep
  obtain ⟨after, hafter⟩ := Option.isSome_iff_exists.mp hstep
  exact ⟨before, after, hbefore, hafter, (lateTelemetry_unaffected
      (.of_runFrom (fun _ _ _ => trivial) hbefore) hafter (by decide)).1⟩

end Nexolab
