import Nexolab.CommissioningWorkflow

/-!
# What a step of the commissioning workflow does

Every operation is inverted once.  The invariants of the workflow are proved from
the effects listed here.
-/

namespace Nexolab

namespace CommissioningDatabase

variable {before after : CommissioningDatabase} {settings : CommissioningSettings}
  {now : Instant} {organizationId sessionId idempotencyKey attemptId : String}
  {expectedVersion : ℕ}

theorem lockedCommissioning_eq_ok {row : CommissioningSession}
    (hlocked : before.lockedCommissioning organizationId sessionId = .ok row) :
    row ∈ before.sessions ∧ row.id = sessionId ∧ row.organizationId = organizationId := by
  obtain ⟨hmem, htest⟩ := mem_and_eq_of_find? (orReject_eq_ok.mp hlocked)
  rw [Bool.and_eq_true, decide_eq_true_eq, decide_eq_true_eq] at htest
  exact ⟨hmem, htest⟩

theorem activationByKey_eq_some {attempt : ActivationAttempt} {key : String}
    (hfound : before.activationByKey organizationId sessionId key = some attempt) :
    attempt ∈ before.activations ∧ attempt.organizationId = organizationId ∧
      attempt.sessionId = sessionId ∧ attempt.idempotencyKey = key := by
  obtain ⟨hmem, htest⟩ := mem_and_eq_of_find? hfound
  simp only [Bool.and_eq_true, decide_eq_true_eq] at htest
  exact ⟨hmem, htest.1.1, htest.1.2, htest.2⟩

theorem activationByKey_eq_none {key : String}
    (hnone : before.activationByKey organizationId sessionId key = none) :
    ∀ attempt ∈ before.activations, attempt.organizationId = organizationId →
      attempt.sessionId = sessionId → attempt.idempotencyKey ≠ key := by
  intro attempt hmem horg hsess hkey
  have htest := List.find?_eq_none.mp hnone attempt hmem
  simp [horg, hsess, hkey] at htest

theorem preflightByKey_eq_some {attempt : PreflightAttempt} {key : String}
    (hfound : before.preflightByKey organizationId sessionId key = some attempt) :
    attempt ∈ before.preflights ∧ attempt.organizationId = organizationId ∧
      attempt.sessionId = sessionId := by
  obtain ⟨hmem, htest⟩ := mem_and_eq_of_find? hfound
  simp only [Bool.and_eq_true, decide_eq_true_eq] at htest
  exact ⟨hmem, htest.1.1, htest.1.2⟩

def CompletedPreflight (database : CommissioningDatabase)
    (organizationId sessionId : String) (attempt : PreflightAttempt) : Prop :=
  attempt ∈ database.preflights ∧ attempt.organizationId = organizationId ∧
    attempt.sessionId = sessionId ∧ attempt.outcome.isSome = true

theorem latestPreflight_eq_some {attempt : PreflightAttempt}
    (hlat : before.latestPreflight organizationId sessionId = some attempt) :
    before.CompletedPreflight organizationId sessionId attempt ∧
      ∀ other, before.CompletedPreflight organizationId sessionId other →
        other.rank ≤ attempt.rank := by
  unfold latestPreflight at hlat
  have : Std.Total fun left right : PreflightAttempt => right.rank ≤ left.rank :=
    ⟨fun left right => le_total right.rank left.rank⟩
  have : IsTrans PreflightAttempt fun left right => right.rank ≤ left.rank :=
    ⟨fun _ _ _ hfirst hsecond => hsecond.trans hfirst⟩
  obtain ⟨hmem, hlast⟩ := mem_and_le_of_head?_insertionSort hlat
  have hmember : ∀ other, other ∈ before.preflights.filter (fun attempt =>
      attempt.organizationId = organizationId && attempt.sessionId = sessionId &&
        attempt.outcome.isSome) ↔
      before.CompletedPreflight organizationId sessionId other := by
    intro other
    simp [CompletedPreflight, List.mem_filter, and_assoc]
  refine ⟨(hmember attempt).mp hmem, ?_⟩
  intro other hother
  rcases hlast other ((hmember other).mpr hother) with rfl | hle
  · exact le_rfl
  · exact hle

theorem exists_latestPreflight {attempt : PreflightAttempt}
    (hcompleted : before.CompletedPreflight organizationId sessionId attempt) :
    ∃ latest, before.latestPreflight organizationId sessionId = some latest := by
  obtain ⟨hmem, horg, hsess, hout⟩ := hcompleted
  cases hlat : before.latestPreflight organizationId sessionId with
  | some latest => exact ⟨latest, rfl⟩
  | none =>
    have hempty := head?_insertionSort_eq_none.mp hlat
    have hkept : attempt ∈ before.preflights.filter (fun attempt =>
        attempt.organizationId = organizationId &&
          attempt.sessionId = sessionId && attempt.outcome.isSome) := by
      simp [List.mem_filter, hmem, horg, hsess, hout]
    rw [hempty] at hkept
    cases hkept

end CommissioningDatabase

/-- What a key of an activation is compared by, as the session stands. -/
def CommissioningSession.commandIdentity (row : CommissioningSession)
    (preflightAttemptId : String) : Option ActivationCommandIdentity := do
  let profile ← supportedProfile row.profileId
  let intent ← row.intent
  some {
    sessionId := row.id
    sessionVersion := row.version
    preflightAttemptId
    nodeId := intent.nodeId
    busId := intent.busId
    stableTransportIdentifier := intent.stableTransportIdentifier
    unitId := intent.unitId
    profileId := profile.id
    profileVersion := profile.version }

/-- The controller binding an activation makes is for the profile and the intent
of its session. -/
structure ActivationPlan.Targets (plan : ActivationPlan)
    (profile : SupportedDeviceProfile) (intent : CommissioningIntent) : Prop where
  nodeId : plan.nodeId = intent.nodeId
  unitId : plan.unitId = intent.unitId
  profileVersion : plan.profileVersion = profile.version
  targetEquipmentKey : plan.targetEquipmentKey = intent.targetEquipmentKey
  telemetryEquipmentId : plan.telemetryEquipmentId =
    Nexolab.telemetryEquipmentId profile.deviceFamily intent.unitId
  bindingKind : plan.bindingKind = if profile.deviceFamily = .embraco then
    .refrigerationController else .commissioningTarget

def CommissioningSession.Planned (row : CommissioningSession) (plan : ActivationPlan) : Prop :=
  ∃ profile ∈ supportedProfile row.profileId, ∃ intent ∈ row.intent, plan.Targets profile intent

namespace CommissioningDatabase

variable {before after : CommissioningDatabase} {settings : CommissioningSettings}
  {now : Instant} {organizationId sessionId idempotencyKey attemptId : String}
  {expectedVersion : ℕ} {row : CommissioningSession}

/-- The equipment of a session is available, no other active session has it or
the Modbus identity, and its controller binding is the session's own. -/
structure Unobstructed (database : CommissioningDatabase)
    (row : CommissioningSession) (profile : SupportedDeviceProfile)
    (intent : CommissioningIntent) : Prop where
  available : database.tables.available row.organizationId intent.targetEquipmentKey = true
  conflict : ¬ database.Conflicted row
  binding : ∀ binding ∈ database.tables.activeBinding row.organizationId
    intent.targetEquipmentKey, profile.controlsTemperature = true →
      binding.matchesReplay profile intent = true

def Plannable (database : CommissioningDatabase) (row : CommissioningSession) :
    Prop :=
  row.lifecycle.activatable = true ∧
    ∃ profile ∈ supportedProfile row.profileId, ∃ intent ∈ row.intent,
      row.profileVersion = some profile.version ∧
      profile.activationSupported = true ∧
      database.Unobstructed row profile intent

theorem activationPlan_eq_ok {preflight : PreflightAttempt}
    {outcome : PreflightOutcome} {plan : ActivationPlan}
    (hplan : before.activationPlan row preflight outcome = .ok plan) :
    before.Plannable row ∧ row.commandIdentity preflight.id =
      some plan.toActivationCommandIdentity ∧ row.Planned plan := by
  simp only [activationPlan, bind_eq_ok, rejectIf_eq_ok, orReject_eq_ok,
    pure_eq_ok] at hplan
  obtain ⟨_, hactivatable, profile, hprofile, _, hver, _, hsupported, intent,
    hintent, _, havail, _, hconflict, _, hbind, rfl⟩ := hplan
  refine ⟨?_, ?_, profile, hprofile, intent, hintent, rfl, rfl, rfl, rfl, rfl, rfl⟩
  · refine ⟨by simpa using hactivatable, profile, hprofile, intent, hintent,
      not_not.mp hver, by simpa using hsupported, not_not.mp havail,
      hconflict, ?_⟩
    intro binding hfound hcontrols
    by_contra hmatches
    exact hbind ⟨hcontrols, binding, hfound, by simpa using hmatches⟩
  · unfold CommissioningSession.commandIdentity
    rw [hprofile, hintent]
    rfl

theorem exists_activationPlan (preflight : PreflightAttempt)
    (outcome : PreflightOutcome) (hplannable : before.Plannable row) :
    ∃ plan, before.activationPlan row preflight outcome = .ok plan := by
  obtain ⟨hactivatable, profile, hprofile, intent, hintent, hver, hsupported,
    havail, hconflict, hbind⟩ := hplannable
  have hfits : ¬ (profile.controlsTemperature = true ∧
      ∃ binding ∈ before.tables.activeBinding row.organizationId
        intent.targetEquipmentKey, binding.matchesReplay profile intent = false) := by
    rintro ⟨hcontrols, binding, hfound, hmatches⟩
    rw [hbind binding hfound hcontrols] at hmatches
    cases hmatches
  simp only [activationPlan, bind_eq_ok, rejectIf_eq_ok, orReject_eq_ok,
    pure_eq_ok]
  exact ⟨_, (), by simp [hactivatable], profile, hprofile, (),
    not_not.mpr hver, (), by simp [hsupported], intent, hintent, (),
    not_not.mpr havail, (), hconflict, (), hfits, rfl⟩

theorem currentPreflight_eq_ok {attempt : PreflightAttempt} {outcome : PreflightOutcome} :
    before.currentPreflight settings now row = .ok (attempt, outcome) ↔
      before.latestPreflight row.organizationId row.id = some attempt ∧
        attempt.outcome = some outcome ∧ outcome.passed = true ∧
        attempt.sessionVersion = row.version ∧
        now ≤ outcome.completedAt + settings.freshness ∧
        row.matchesEvidence outcome.identity = true := by
  simp only [currentPreflight, bind_eq_ok, rejectIf_eq_ok, orReject_eq_ok,
    pure_eq_ok]
  constructor
  · rintro ⟨found, hlat, result, hout, _, hpassed, _, hfresh, _, hevidence, hequal⟩
    cases hequal
    simp only [not_or, Bool.not_eq_false, not_not] at hpassed hevidence
    exact ⟨hlat, hout, hpassed.1, hpassed.2, not_lt.mp hfresh, hevidence⟩
  · rintro ⟨hlat, hout, hpassed, hver, hfresh, hevidence⟩
    exact ⟨attempt, hlat, outcome, hout, (), by simp [hpassed, hver], (),
      not_lt.mpr hfresh, (), not_not.mpr hevidence, rfl⟩

/-! ## Operations -/

structure Keyed (database : CommissioningDatabase) : Prop where
  sessions : (database.sessions.map (·.id)).Nodup
  preflights : (database.preflights.map (·.id)).Nodup
  activations : (database.activations.map (·.id)).Nodup
  activationKeys : (database.activations.map fun attempt =>
    (attempt.organizationId, attempt.sessionId, attempt.idempotencyKey)).Nodup

theorem createSession_eq_ok {payload : CommissioningValues}
    (hcreate : before.createSession organizationId idempotencyKey sessionId payload = .ok after) :
    after = before ∨ ∃ row : CommissioningSession, (∀ other ∈ before.sessions, other.id ≠ row.id) ∧
      row.lifecycle.described = true ∧
      after = { before with sessions := before.sessions ++ [row] } := by
  simp only [createSession, bind_eq_ok] at hcreate
  obtain ⟨key, _, hcreate⟩ := hcreate
  split at hcreate
  next existing _ =>
    simp only [bind_eq_ok, pure_eq_ok] at hcreate
    obtain ⟨_, _, rfl⟩ := hcreate
    exact .inl rfl
  next =>
    simp only [bind_eq_ok, rejectIf_eq_ok, pure_eq_ok] at hcreate
    obtain ⟨_, _, _, hfresh, rfl⟩ := hcreate
    refine .inr ⟨_, ?_, ?_, rfl⟩
    · exact fun other hother hid => hfresh ⟨other, hother, hid⟩
    · exact resolveValues_described payload

/-- What an edit or a cancellation makes of a session. -/
structure Edited (record next : CommissioningSession) : Prop where
  id : next.id = record.id
  organizationId : next.organizationId = record.organizationId
  version : next.version = record.version + 1
  editable : record.lifecycle ≠ .pendingActivation ∧ record.lifecycle ≠ .active
  lifecycle : next.lifecycle.described = true ∨ next.lifecycle = .cancelled

theorem updateSession_eq_ok {patch : CommissioningPatch}
    (hupdate : before.updateSession organizationId sessionId expectedVersion patch = .ok after) :
    ∃ record ∈ before.sessions, ∃ next, record.id = sessionId ∧
      Edited record next ∧ after = before.setSession next := by
  simp only [updateSession, bind_eq_ok, rejectIf_eq_ok, orReject_eq_ok,
    pure_eq_ok] at hupdate
  obtain ⟨_, _, record, hlocked, _, _, _, _, _, heditable, merged, _, _, _, rfl⟩ :=
    hupdate
  obtain ⟨hmem, hid, _⟩ := lockedCommissioning_eq_ok hlocked
  refine ⟨record, hmem, _, hid, ?_, rfl⟩
  constructor
  case id => rfl
  case organizationId => rfl
  case version => rfl
  case editable => exact not_or.mp heditable
  case lifecycle => exact .inl (resolveValues_described merged)

theorem cancelSession_eq_ok
    (hcancel : before.cancelSession organizationId sessionId expectedVersion = .ok after) :
    after = before ∨ ∃ record ∈ before.sessions, ∃ next, record.id = sessionId ∧
      Edited record next ∧ after = before.setSession next := by
  simp only [cancelSession, bind_eq_ok, rejectIf_eq_ok] at hcancel
  obtain ⟨record, hlocked, _, _, hcancel⟩ := hcancel
  obtain ⟨hmem, hid, _⟩ := lockedCommissioning_eq_ok hlocked
  split at hcancel
  next =>
    rw [pure_eq_ok] at hcancel
    exact .inl hcancel.symm
  next =>
    simp only [bind_eq_ok, rejectIf_eq_ok, pure_eq_ok] at hcancel
    obtain ⟨_, heditable, rfl⟩ := hcancel
    refine .inr ⟨record, hmem, _, hid, ?_, rfl⟩
    constructor
    case id => rfl
    case organizationId => rfl
    case version => rfl
    case editable => exact not_or.mp heditable
    case lifecycle => exact .inr rfl

/-- The rows a preflight has before the device agent is asked. -/
inductive PreflightPrepared (now : Instant) (before : CommissioningDatabase)
    (row : CommissioningSession) (attempt : PreflightAttempt) :
    CommissioningDatabase → Prop
  | restarted (existing : PreflightAttempt) (hmem : existing ∈ before.preflights)
      (hsess : existing.sessionId = row.id) (hrunning : existing.outcome = none)
      (hatt : attempt = { existing with startedAt := now }) :
      PreflightPrepared now before row attempt (before.setPreflight attempt)
  | added (hfresh : ∀ other ∈ before.preflights, other.id ≠ attempt.id)
      (horg : attempt.organizationId = row.organizationId)
      (hsess : attempt.sessionId = row.id)
      (hver : attempt.sessionVersion = row.version)
      (hrunning : attempt.outcome = none) :
      PreflightPrepared now before row attempt
        { before with preflights := before.preflights ++ [attempt] }

theorem preparePreflight_eq_ok {attempt : PreflightAttempt} {replayed : Bool}
    (hprep : before.preparePreflight settings now organizationId sessionId
      expectedVersion idempotencyKey attemptId = .ok (after, attempt, replayed)) :
    replayed = true ∧ after = before ∨
      replayed = false ∧ ∃ row ∈ before.sessions, row.id = sessionId ∧
        PreflightPrepared now before row attempt after := by
  simp only [preparePreflight, bind_eq_ok, rejectIf_eq_ok] at hprep
  obtain ⟨key, _, row, hlocked, _, _, command, _, hprep⟩ := hprep
  obtain ⟨hmem, hid, horg⟩ := lockedCommissioning_eq_ok hlocked
  split at hprep
  next existing hexisting =>
    simp only [bind_eq_ok, rejectIf_eq_ok] at hprep
    obtain ⟨_, _, hprep⟩ := hprep
    split at hprep
    next =>
      cases pure_eq_ok.mp hprep
      exact .inl ⟨rfl, rfl⟩
    next hrunning =>
      simp only [bind_eq_ok, rejectIf_eq_ok, pure_eq_ok] at hprep
      obtain ⟨_, _, hres⟩ := hprep
      cases hres
      obtain ⟨hfound, _, hsess⟩ := preflightByKey_eq_some hexisting
      refine .inr ⟨rfl, row, hmem, hid, .restarted existing hfound (hsess.trans hid.symm) ?_ rfl⟩
      simpa using hrunning
  next =>
    simp only [bind_eq_ok, rejectIf_eq_ok, pure_eq_ok] at hprep
    obtain ⟨_, _, _, hfresh, hres⟩ := hprep
    cases hres
    refine .inr ⟨rfl, row, hmem, hid, .added ?_ horg.symm hid.symm rfl rfl⟩
    exact fun other hother hequal => hfresh ⟨other, hother, hequal⟩

/-- The session rows after a preflight attempt is completed: its session changes
if it still has the version of the attempt. -/
inductive PreflightReported (before : CommissioningDatabase)
    (attempt : PreflightAttempt) (passed : Bool) :
    List CommissioningSession → Prop
  | outdated (hver : ∀ record ∈ before.sessions, record.id = attempt.sessionId →
      record.organizationId = attempt.organizationId →
      record.version ≠ attempt.sessionVersion) :
      PreflightReported before attempt passed before.sessions
  | current (record : CommissioningSession) (hmem : record ∈ before.sessions)
      (hid : record.id = attempt.sessionId)
      (horg : record.organizationId = attempt.organizationId)
      (hver : record.version = attempt.sessionVersion) :
      PreflightReported before attempt passed (replaceRow (·.id)
        (record.setLifecycle (preflightLifecycle record.lifecycle passed))
        before.sessions)

theorem completePreflight_eq_ok (hkeyed : before.Keyed) {command : PreflightCommand}
    {answer : PreflightAnswer}
    (hcomp : before.completePreflight now organizationId attemptId command answer = .ok after) :
    after = before ∧ (∀ attempt ∈ before.preflights, attempt.id = attemptId →
        attempt.outcome.isSome = true) ∨
      ∃ attempt ∈ before.preflights, attempt.id = attemptId ∧ attempt.outcome = none ∧ ∃ sessions,
        PreflightReported before attempt answer.passed sessions ∧
        after = { before.setPreflight { attempt with
          outcome := some { answer with identity := command, completedAt := now } }
          with sessions } := by
  simp only [completePreflight, bind_eq_ok, orReject_eq_ok] at hcomp
  obtain ⟨attempt, hfound, hcomp⟩ := hcomp
  obtain ⟨hmem, htest⟩ := mem_and_eq_of_find? hfound
  rw [Bool.and_eq_true, decide_eq_true_eq, decide_eq_true_eq] at htest
  obtain ⟨hid, horg⟩ := htest
  split at hcomp
  next hcompleted =>
    rw [pure_eq_ok] at hcomp
    refine .inl ⟨hcomp.symm, ?_⟩
    intro other hother hotherId
    rwa [row_eq_of_key hkeyed.preflights hother hmem (hotherId.trans hid.symm)]
  next hrunning =>
    refine .inr ⟨attempt, hmem, hid, by simpa using hrunning, ?_⟩
    split at hcomp
    next hnone =>
      rw [pure_eq_ok] at hcomp
      refine ⟨before.sessions, .outdated ?_, hcomp.symm⟩
      intro record hrec hsess horganizations
      have htest := List.find?_eq_none.mp hnone record hrec
      simp [hsess, horganizations, horg] at htest
    next record hrec =>
      obtain ⟨hrecordMem, htest⟩ := mem_and_eq_of_find? hrec
      rw [Bool.and_eq_true, decide_eq_true_eq, decide_eq_true_eq] at htest
      split_ifs at hcomp with hver
      · rw [pure_eq_ok] at hcomp
        exact ⟨_, .current record hrecordMem htest.1 (htest.2.trans horg.symm) hver, hcomp.symm⟩
      · rw [pure_eq_ok] at hcomp
        refine ⟨before.sessions, .outdated ?_, hcomp.symm⟩
        intro other hother hsess _
        rwa [row_eq_of_key hkeyed.sessions hother hrecordMem (hsess.trans htest.1.symm)]

/-- The attempt an activation goes on with, and the attempts after it: an
unfinished one of the same command, or a new one. -/
inductive ActivationPrepared (before : CommissioningDatabase)
    (row : CommissioningSession) (preflight : PreflightAttempt)
    (attempt : ActivationAttempt) : List ActivationAttempt → Prop
  | retried (hmem : attempt ∈ before.activations)
      (hsess : attempt.sessionId = row.id)
      (hunfin : attempt.unfinished = true) :
      ActivationPrepared before row preflight attempt before.activations
  | added (hfresh : ∀ other ∈ before.activations, other.id ≠ attempt.id)
      (hkey : ∀ other ∈ before.activations, other.organizationId = attempt.organizationId →
        other.sessionId = attempt.sessionId →
        other.idempotencyKey ≠ attempt.idempotencyKey)
      (hnormal : normalizeCommissioningKey attempt.idempotencyKey = .ok attempt.idempotencyKey)
      (hcompeting : ¬ before.competing row.organizationId row.id)
      (horg : attempt.organizationId = row.organizationId)
      (hsess : attempt.sessionId = row.id)
      (hpref : attempt.preflightAttemptId = preflight.id)
      (hver : attempt.sessionVersion = row.version)
      (hplan : row.Planned attempt.plan)
      (hstate : attempt.state = .pendingActivation) :
      ActivationPrepared before row preflight attempt (before.activations ++ [attempt])

theorem normalizeCommissioningKey_idem {value key : String}
    (hkey : normalizeCommissioningKey value = .ok key) :
    normalizeCommissioningKey key = .ok key := by
  unfold normalizeCommissioningKey at hkey ⊢
  dsimp only at hkey ⊢
  split_ifs at hkey with hlen
  cases hkey
  rw [stripText_idem, if_neg hlen]

theorem prepareActivation_eq_ok {attempt : ActivationAttempt} {replayed : Bool}
    (hprep : before.prepareActivation settings now organizationId sessionId
      expectedVersion idempotencyKey attemptId = .ok (after, attempt, replayed)) :
    replayed = true ∧ after = before ∧ attempt.unfinished = false ∧
        before.activationByKey organizationId sessionId (stripText idempotencyKey) = some attempt ∨
      replayed = false ∧ ∃ row ∈ before.sessions, row.id = sessionId ∧
        row.organizationId = organizationId ∧ ∃ preflight outcome,
        before.currentPreflight settings now row = .ok (preflight, outcome) ∧
        before.Plannable row ∧
        row.commandIdentity preflight.id = some attempt.command ∧
        before.activationByKey organizationId sessionId (stripText idempotencyKey) =
          (if attempt ∈ before.activations then some attempt else none) ∧
        ∃ activations,
        ActivationPrepared before row preflight attempt activations ∧
        after = { before.setSession (row.setLifecycle .pendingActivation) with
          activations } := by
  simp only [prepareActivation, bind_eq_ok, rejectIf_eq_ok] at hprep
  obtain ⟨key, hkey, row, hlocked, _, _, ⟨preflight, outcome⟩, hcur, plan, hplan, hprep⟩ := hprep
  obtain ⟨hmem, hid, horg⟩ := lockedCommissioning_eq_ok hlocked
  obtain ⟨hplannable, hidentity, hplanned⟩ := activationPlan_eq_ok hplan
  have hnormal := normalizeCommissioningKey_idem hkey
  have hstripped : key = stripText idempotencyKey := by
    unfold normalizeCommissioningKey at hkey
    dsimp only at hkey
    split_ifs at hkey
    exact (Except.ok.inj hkey).symm
  split at hprep
  next existing hexisting =>
    simp only [bind_eq_ok, rejectIf_eq_ok, not_not] at hprep
    obtain ⟨_, hcmd, hprep⟩ := hprep
    split at hprep
    next hunfin =>
      cases pure_eq_ok.mp hprep
      obtain ⟨hfound, _, hsess, _⟩ := activationByKey_eq_some hexisting
      exact .inr ⟨rfl, row, hmem, hid, horg, preflight, outcome, hcur,
        hplannable, hcmd ▸ hidentity, by rw [if_pos hfound, ← hstripped, hexisting],
        before.activations,
        .retried hfound (hsess.trans hid.symm) hunfin, rfl⟩
    next hfinished =>
      cases pure_eq_ok.mp hprep
      exact .inl ⟨rfl, rfl, by simpa using hfinished, hstripped ▸ hexisting⟩
  next hnone =>
    simp only [bind_eq_ok, rejectIf_eq_ok, pure_eq_ok] at hprep
    obtain ⟨_, hcompeting, _, hfresh, hres⟩ := hprep
    cases hres
    have hnew : ∀ other ∈ before.activations, other.id ≠ attemptId :=
      fun other hother hequal => hfresh ⟨other, hother, hequal⟩
    refine .inr ⟨rfl, row, hmem, hid, horg, preflight, outcome, hcur, hplannable, hidentity, ?_, _,
      .added hnew ?_ hnormal ?_ horg.symm hid.symm rfl rfl hplanned rfl, rfl⟩
    · rw [← hstripped, hnone, if_neg]
      exact fun hold => hnew _ hold rfl
    · exact activationByKey_eq_none hnone
    · rwa [horg, hid]

theorem completeActivation_eq_ok {state : AttemptState}
    (hcomp : before.completeActivation now organizationId attemptId state = .ok after) :
    ∃ attempt ∈ before.activations, attempt.id = attemptId ∧
      ∃ record ∈ before.sessions, record.id = attempt.sessionId ∧
      after = { before with
        sessions := replaceRow (·.id)
          (record.setLifecycle (activationLifecycle state)) before.sessions
        activations := replaceRow (·.id)
          { attempt with state, completedAt := some now } before.activations
        completions := before.completions ++
          [⟨attempt.sessionId, attempt.id, state, attempt.sessionVersion⟩] } := by
  simp only [completeActivation, bind_eq_ok, orReject_eq_ok,
    pure_eq_ok] at hcomp
  obtain ⟨attempt, hfound, record, hlocked, rfl⟩ := hcomp
  obtain ⟨hmem, htest⟩ := mem_and_eq_of_find? hfound
  rw [Bool.and_eq_true, decide_eq_true_eq, decide_eq_true_eq] at htest
  obtain ⟨hrec, hid, _⟩ := lockedCommissioning_eq_ok hlocked
  exact ⟨attempt, hmem, htest.1, record, hrec, hid, rfl⟩

end CommissioningDatabase

/-! ## Steps -/

def WorkflowAction.sessionId : WorkflowAction → Option String
  | .update _ sessionId _ _ => some sessionId
  | .cancel _ sessionId _ => some sessionId
  | .preflight _ _ sessionId _ _ _ => some sessionId
  | .activate _ _ sessionId _ _ _ => some sessionId
  | _ => none

def ServiceRun.activationId : ServiceRun → Option String
  | .preflight _ => none
  | .activation attempt _ => some attempt.id

namespace CommissioningSystem

def completes (system : CommissioningSystem) :
    WorkflowAction → Option (ActivationAttempt × AttemptState)
  | .answerActivation worker answer =>
    match system.runOf worker, answer with
    | some (.activation attempt .executing), .failed =>
      some (attempt, .recoveryRequired)
    | some (.activation attempt .executing), .recoveryRequired =>
      some (attempt, .recoveryRequired)
    | some (.activation attempt .executing), .rolledBack =>
      some (attempt, .rolledBack)
    | _, _ => none
  | .answerRollback worker rolledBack =>
    match system.runOf worker with
    | some (.activation attempt .rollingBack) =>
      some (attempt, if rolledBack then .rolledBack else .recoveryRequired)
    | _ => none
  | .finishActivation worker =>
    match system.runOf worker with
    | some (.activation attempt .bound) => some (attempt, .active)
    | _ => none
  | _ => none

def reports (system : CommissioningSystem) :
    WorkflowAction → Option (PreflightAttempt × Bool)
  | .answerPreflight worker answer =>
    match system.runOf worker with
    | some (.preflight attempt) => some (attempt, answer.passed)
    | _ => none
  | _ => none

def retries (system : CommissioningSystem) :
    WorkflowAction → Option ActivationAttempt
  | .activate _ organizationId sessionId _ idempotencyKey _ =>
    system.database.activationByKey organizationId sessionId (stripText idempotencyKey)
  | _ => none

/-- The action neither completes an attempt nor activates with a known key. -/
structure Plain (system : CommissioningSystem) (action : WorkflowAction) : Prop where
  completes : system.completes action = none
  reports : system.reports action = none
  retries : system.retries action = none

def RunsFrom (before : CommissioningSystem) (runs : List (ℕ × ServiceRun)) : Prop :=
  ∀ entry ∈ runs, entry ∈ before.runs ∨ ∃ other ∈ before.runs,
    other.2.activationId ≠ none ∧ entry.2.activationId = other.2.activationId

inductive WorkflowEffect (settings : CommissioningSettings)
    (before : CommissioningSystem) (action : WorkflowAction) :
    CommissioningSystem → Prop
  /-- No row of the workflow changes. -/
  | idle (tables : EquipmentTables) (now : Instant) (runs : List (ℕ × ServiceRun))
      (htables : tables = before.database.tables ∨
        action = .elsewhere tables ∨ ∃ entry ∈ before.runs, entry.2.activationId ≠ none)
      (hnow : before.now ≤ now) (hruns : before.RunsFrom runs)
      (hcomps : before.completes action = none)
      (hreports : ∀ run ∈ before.reports action,
        ∀ attempt ∈ before.database.preflights, attempt.id = run.1.id →
          attempt.outcome.isSome = true)
      (hretries : ∀ attempt ∈ before.retries action, attempt.unfinished = false) :
      WorkflowEffect settings before action
        ⟨{ before.database with tables }, now, runs⟩
  | created (hplain : before.Plain action) (row : CommissioningSession)
      (hfresh : ∀ other ∈ before.database.sessions, other.id ≠ row.id)
      (hdescribed : row.lifecycle.described = true) :
      WorkflowEffect settings before action { before with
        database := { before.database with
          sessions := before.database.sessions ++ [row] } }
  | edited (hplain : before.Plain action) (record next : CommissioningSession)
      (hsess : action.sessionId = some record.id)
      (hmem : record ∈ before.database.sessions)
      (hedited : CommissioningDatabase.Edited record next) :
      WorkflowEffect settings before action
        { before with database := before.database.setSession next }
  | preflightPrepared (hplain : before.Plain action) (worker : ℕ)
      (row : CommissioningSession) (attempt : PreflightAttempt)
      (database : CommissioningDatabase)
      (hsess : action.sessionId = some row.id)
      (hrow : row ∈ before.database.sessions)
      (hprepared : CommissioningDatabase.PreflightPrepared before.now
        before.database row attempt database) :
      WorkflowEffect settings before action
        ({ before with database }.withRun worker (.preflight attempt))
  | preflightCompleted (worker : ℕ) (run attempt : PreflightAttempt)
      (answer : PreflightAnswer) (sessions : List CommissioningSession)
      (hcomps : before.completes action = none)
      (hretries : before.retries action = none)
      (hreports : before.reports action = some (run, answer.passed))
      (hmem : attempt ∈ before.database.preflights) (hid : attempt.id = run.id)
      (hrunning : attempt.outcome = none)
      (hreported : CommissioningDatabase.PreflightReported before.database attempt
        answer.passed sessions) :
      WorkflowEffect settings before action { before with
        database := { before.database.setPreflight { attempt with
          outcome := some { answer with
            identity := run.command
            completedAt := before.now } } with sessions }
        runs := before.othersOf worker }
  | activationPrepared (worker : ℕ) (row : CommissioningSession)
      (preflight : PreflightAttempt) (outcome : PreflightOutcome)
      (attempt : ActivationAttempt) (activations : List ActivationAttempt)
      (hsess : action.sessionId = some row.id)
      (hrow : row ∈ before.database.sessions)
      (hcur : before.database.currentPreflight settings before.now row = .ok (preflight, outcome))
      (hplannable : before.database.Plannable row)
      (hcmd : row.commandIdentity preflight.id = some attempt.command)
      (hcomps : before.completes action = none)
      (hreports : before.reports action = none)
      (hretries : before.retries action =
        if attempt ∈ before.database.activations then some attempt else none)
      (hprepared : CommissioningDatabase.ActivationPrepared before.database row
        preflight attempt activations) :
      WorkflowEffect settings before action ({ before with database :=
            { before.database.setSession (row.setLifecycle .pendingActivation) with
              activations } }.withRun worker (.activation attempt .executing))
  | activationCompleted (worker : ℕ) (run attempt : ActivationAttempt)
      (record : CommissioningSession) (state : AttemptState)
      (hreports : before.reports action = none)
      (hretries : before.retries action = none)
      (hcomps : before.completes action = some (run, state))
      (hmem : attempt ∈ before.database.activations) (hid : attempt.id = run.id)
      (hrec : record ∈ before.database.sessions)
      (hsess : record.id = attempt.sessionId) :
      WorkflowEffect settings before action { before with
        database := { before.database with
          sessions := replaceRow (·.id)
            (record.setLifecycle (CommissioningDatabase.activationLifecycle state))
            before.database.sessions
          activations := replaceRow (·.id)
            { attempt with state, completedAt := some before.now }
            before.database.activations
          completions := before.database.completions ++
            [⟨attempt.sessionId, attempt.id, state, attempt.sessionVersion⟩] }
        runs := before.othersOf worker }

section Steps

variable {before after : CommissioningSystem} {action : WorkflowAction}
  {settings : CommissioningSettings} {worker : ℕ}

theorem runOf_eq_some {run : ServiceRun} (hrun : before.runOf worker = some run) :
    ∃ entry ∈ before.runs, entry.2 = run := by
  unfold runOf at hrun
  rw [Option.map_eq_some_iff] at hrun
  obtain ⟨entry, hfound, rfl⟩ := hrun
  exact ⟨entry, List.mem_of_find?_eq_some hfound, rfl⟩

theorem othersOf_runsFrom : before.RunsFrom (before.othersOf worker) :=
  fun _ hent => .inl (List.mem_filter.mp hent).1

theorem withRun_runsFrom {attempt : ActivationAttempt} {progress next : ActivationProgress}
    (hrun : before.runOf worker = some (.activation attempt progress)) :
    before.RunsFrom (before.withRun worker (.activation attempt next)).runs := by
  intro entry hent
  rcases List.mem_cons.mp hent with rfl | hother
  · obtain ⟨other, hother, hequal⟩ := runOf_eq_some hrun
    refine .inr ⟨other, hother, ?_, ?_⟩
    · rw [hequal]
      exact Option.some_ne_none _
    · rw [hequal]
      rfl
  · exact othersOf_runsFrom entry hother

theorem same_runsFrom : before.RunsFrom before.runs :=
  fun _ hent => .inl hent

theorem database_eq_ok {database : Except CommissioningError CommissioningDatabase}
    {next : CommissioningDatabase → CommissioningSystem}
    (hstep : database.toOption.map next = some after) :
    ∃ result, database = .ok result ∧ after = next result := by
  cases database with
  | error error => cases hstep
  | ok result =>
    cases hstep
    exact ⟨result, rfl, rfl⟩

theorem begin_eq_some {attempt : Type} {run : attempt → ServiceRun}
    {prepared : Except CommissioningError (CommissioningDatabase × attempt × Bool)}
    (hbegin : before.begin worker run prepared = some after) :
    ∃ database found replayed, prepared = .ok (database, found, replayed) ∧
      after = if replayed then { before with database }
        else { before with database }.withRun worker (run found) := by
  unfold begin at hbegin
  split_ifs at hbegin
  cases prepared with
  | error error => cases hbegin
  | ok result =>
    cases hbegin
    exact ⟨result.1, result.2.1, result.2.2, rfl, rfl⟩

theorem completeRun_effect {attempt : ActivationAttempt} {state : AttemptState}
    (hreports : before.reports action = none) (hretries : before.retries action = none)
    (hcomps : before.completes action = some (attempt, state))
    (hstep : before.completeRun worker attempt state = some after) :
    WorkflowEffect settings before action after := by
  obtain ⟨database, hcomp, rfl⟩ := database_eq_ok hstep
  obtain ⟨found, hmem, hid, record, hrec, hsess, rfl⟩ :=
    CommissioningDatabase.completeActivation_eq_ok hcomp
  exact .activationCompleted worker attempt found record state hreports hretries
    hcomps hmem hid hrec hsess

theorem Plain.idle (hplain : before.Plain action) {tables : EquipmentTables}
    {now : Instant} {runs : List (ℕ × ServiceRun)}
    (htables : tables = before.database.tables ∨ action = .elsewhere tables ∨
      ∃ entry ∈ before.runs, entry.2.activationId ≠ none)
    (hnow : before.now ≤ now) (hruns : before.RunsFrom runs) :
    WorkflowEffect settings before action
      ⟨{ before.database with tables }, now, runs⟩ := by
  refine .idle tables now runs htables hnow hruns hplain.completes ?_ ?_
  · rw [hplain.reports]
    exact fun _ hsome => absurd hsome (Option.not_mem_none _)
  · rw [hplain.retries]
    exact fun _ hsome => absurd hsome (Option.not_mem_none _)

theorem Plain.unchanged (hplain : before.Plain action) :
    WorkflowEffect settings before action before :=
  hplain.idle (.inl rfl) le_rfl same_runsFrom

theorem Plain.progress (hplain : before.Plain action)
    {attempt : ActivationAttempt} {progress next : ActivationProgress} {tables : EquipmentTables}
    (hrun : before.runOf worker = some (.activation attempt progress)) :
    WorkflowEffect settings before action
      ({ before with database := { before.database with tables } }.withRun worker
        (.activation attempt next)) := by
  obtain ⟨entry, hent, hequal⟩ := runOf_eq_some hrun
  refine hplain.idle (.inr (.inr ⟨entry, hent, ?_⟩)) le_rfl (withRun_runsFrom hrun)
  rw [hequal]
  exact Option.some_ne_none _

theorem step_effect (hkeyed : before.database.Keyed)
    (hstep : before.step settings action = some after) :
    WorkflowEffect settings before action after := by
  cases action with
  | elapse duration =>
    cases hstep
    have hplain : before.Plain (.elapse duration) := ⟨rfl, rfl, rfl⟩
    exact hplain.idle (.inl rfl)
      (le_add_of_nonneg_right (Int.natCast_nonneg duration)) same_runsFrom
  | elsewhere tables =>
    cases hstep
    have hplain : before.Plain (.elsewhere tables) := ⟨rfl, rfl, rfl⟩
    exact hplain.idle (.inr (.inl rfl)) le_rfl same_runsFrom
  | create organizationId idempotencyKey sessionId payload =>
    have hplain : before.Plain
      (.create organizationId idempotencyKey sessionId payload) := ⟨rfl, rfl, rfl⟩
    obtain ⟨database, hcreate, rfl⟩ := database_eq_ok hstep
    rcases CommissioningDatabase.createSession_eq_ok hcreate with
      rfl | ⟨row, hfresh, hdescribed, rfl⟩
    · exact hplain.unchanged
    · exact .created hplain row hfresh hdescribed
  | update organizationId sessionId expectedVersion patch =>
    have hplain : before.Plain
      (.update organizationId sessionId expectedVersion patch) := ⟨rfl, rfl, rfl⟩
    obtain ⟨database, hupdate, rfl⟩ := database_eq_ok hstep
    obtain ⟨record, hmem, next, hid, hedited, rfl⟩ :=
      CommissioningDatabase.updateSession_eq_ok hupdate
    exact .edited hplain record next (congrArg some hid.symm) hmem hedited
  | cancel organizationId sessionId expectedVersion =>
    have hplain : before.Plain (.cancel organizationId sessionId expectedVersion) :=
      ⟨rfl, rfl, rfl⟩
    obtain ⟨database, hcancel, rfl⟩ := database_eq_ok hstep
    rcases CommissioningDatabase.cancelSession_eq_ok hcancel with
      rfl | ⟨record, hmem, next, hid, hedited, rfl⟩
    · exact hplain.unchanged
    · exact .edited hplain record next (congrArg some hid.symm) hmem hedited
  | preflight worker organizationId sessionId expectedVersion key attemptId =>
    have hplain : before.Plain (.preflight worker organizationId sessionId
      expectedVersion key attemptId) := ⟨rfl, rfl, rfl⟩
    obtain ⟨database, attempt, replayed, hprep, rfl⟩ := begin_eq_some hstep
    rcases CommissioningDatabase.preparePreflight_eq_ok hprep with
      ⟨rfl, rfl⟩ | ⟨rfl, row, hrow, hid, hprepared⟩
    · exact hplain.unchanged
    · exact .preflightPrepared hplain worker row attempt database
        (congrArg some hid.symm) hrow hprepared
  | answerPreflight worker answer =>
    dsimp only [step] at hstep
    split at hstep
    next run hrun =>
      have hreports : before.reports (.answerPreflight worker answer) =
          some (run, answer.passed) := by
        simp only [reports, hrun]
      obtain ⟨database, hcomp, rfl⟩ := database_eq_ok hstep
      rcases CommissioningDatabase.completePreflight_eq_ok hkeyed hcomp with
        ⟨rfl, hcompleted⟩ | ⟨attempt, hmem, hid, hrunning, sessions, hreported, rfl⟩
      · refine .idle before.database.tables before.now _ (.inl rfl) le_rfl
          othersOf_runsFrom rfl ?_ ?_
        · rw [hreports]
          rintro _ ⟨⟩
          exact hcompleted
        · exact fun _ hsome => absurd hsome (Option.not_mem_none _)
      · exact .preflightCompleted worker run attempt answer sessions rfl rfl hreports
          hmem hid hrunning hreported
    next => cases hstep
  | activate worker organizationId sessionId expectedVersion key attemptId =>
    dsimp only [step] at hstep
    obtain ⟨database, attempt, replayed, hprep, rfl⟩ := begin_eq_some hstep
    rcases CommissioningDatabase.prepareActivation_eq_ok hprep with
      ⟨rfl, rfl, hfinished, hfound⟩ | ⟨rfl, row, hrow, hid, _, preflight, outcome,
        hcur, hplannable, hcmd, hretries, activations, hprepared, rfl⟩
    · refine .idle before.database.tables before.now before.runs (.inl rfl) le_rfl
        same_runsFrom rfl ?_ ?_
      · exact fun _ hsome => absurd hsome (Option.not_mem_none _)
      · intro other hother
        dsimp only [retries] at hother
        rw [hfound, Option.mem_some_iff] at hother
        rw [← hother]
        exact hfinished
    · exact .activationPrepared worker row preflight outcome attempt activations
        (congrArg some hid.symm) hrow hcur hplannable hcmd rfl rfl hretries
        hprepared
  | answerActivation worker answer =>
    dsimp only [step] at hstep
    split at hstep
    next attempt hrun =>
      cases answer with
      | failed =>
        refine completeRun_effect rfl rfl ?_ hstep
        simp only [completes, hrun]
      | recoveryRequired =>
        refine completeRun_effect rfl rfl ?_ hstep
        simp only [completes, hrun]
      | rolledBack =>
        refine completeRun_effect rfl rfl ?_ hstep
        simp only [completes, hrun]
      | active telemetryIdentity evidence =>
        have hplain : before.Plain (.answerActivation worker
            (.active telemetryIdentity evidence)) := by
          refine ⟨?_, rfl, rfl⟩
          simp only [completes, hrun]
        cases evidence with
        | true =>
          cases hstep
          exact hplain.progress hrun
        | false =>
          cases hstep
          exact hplain.progress hrun
    next => cases hstep
  | persistBinding worker =>
    have hplain : before.Plain (.persistBinding worker) := ⟨rfl, rfl, rfl⟩
    dsimp only [step] at hstep
    split at hstep
    next attempt telemetryIdentity hrun =>
      cases hstep
      unfold stepBinding
      split
      next tables _ => exact hplain.progress hrun
      next => exact hplain.progress hrun
    next => cases hstep
  | answerRollback worker rolledBack =>
    dsimp only [step] at hstep
    split at hstep
    next attempt hrun =>
      refine completeRun_effect rfl rfl ?_ hstep
      simp only [completes, hrun]
    next => cases hstep
  | finishActivation worker =>
    dsimp only [step] at hstep
    split at hstep
    next attempt hrun =>
      refine completeRun_effect rfl rfl ?_ hstep
      simp only [completes, hrun]
    next => cases hstep
  | crash worker =>
    cases hstep
    have hplain : before.Plain (.crash worker) := ⟨rfl, rfl, rfl⟩
    exact hplain.idle (.inl rfl) le_rfl othersOf_runsFrom

end Steps

end CommissioningSystem

end Nexolab
