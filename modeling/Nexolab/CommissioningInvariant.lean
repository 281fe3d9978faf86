import Nexolab.CommissioningEffects

/-!
# What holds in every state of the commissioning workflow

A session keeps the values of a version, and a completed preflight is never
changed.  So an activation attempt keeps what it was prepared with for as long as
its session has the version of the attempt.
-/

namespace Nexolab

/-- What a row of a session becomes: a later version, or the same values in
another lifecycle. -/
structure CommissioningSession.Precedes (row next : CommissioningSession) : Prop where
  id : next.id = row.id
  organizationId : next.organizationId = row.organizationId
  version : row.version < next.version ∨ next.version = row.version ∧
      next.toCommissioningValues = row.toCommissioningValues ∧
      next.profileVersion = row.profileVersion ∧
      (row.lifecycle.activatable = true → next.lifecycle.activatable = true)

namespace CommissioningSession

variable {row next : CommissioningSession}

theorem Precedes.refl (row : CommissioningSession) : row.Precedes row :=
  ⟨rfl, rfl, .inr ⟨rfl, rfl, rfl, fun hactivatable => hactivatable⟩⟩

theorem Precedes.setLifecycle (row : CommissioningSession) {lifecycle : CommissioningLifecycle}
    (hkept : row.lifecycle.activatable = true → lifecycle.activatable = true) :
    row.Precedes (row.setLifecycle lifecycle) :=
  ⟨rfl, rfl, .inr ⟨rfl, rfl, rfl, hkept⟩⟩

theorem Precedes.version_le (hprecedes : row.Precedes next) :
    row.version ≤ next.version := by
  rcases hprecedes.version with hlater | ⟨hsame, _⟩
  · exact hlater.le
  · exact hsame.ge

theorem commandIdentity_congr {preflightAttemptId : String} (hid : next.id = row.id)
    (hver : next.version = row.version)
    (hvalues : next.toCommissioningValues = row.toCommissioningValues) :
    next.commandIdentity preflightAttemptId = row.commandIdentity preflightAttemptId := by
  unfold commandIdentity
  rw [hid, hver, hvalues]

theorem matchesEvidence_congr {evidence : PreflightCommand}
    (hvalues : next.toCommissioningValues = row.toCommissioningValues)
    (hprofile : next.profileVersion = row.profileVersion) :
    next.matchesEvidence evidence = row.matchesEvidence evidence := by
  unfold matchesEvidence
  rw [hvalues, hprofile]

theorem commandIdentity_eq_some {preflightAttemptId : String} {command : ActivationCommandIdentity}
    (hcmd : row.commandIdentity preflightAttemptId = some command) :
    command.sessionVersion = row.version ∧ command.preflightAttemptId = preflightAttemptId := by
  unfold commandIdentity at hcmd
  cases hprofile : supportedProfile row.profileId with
  | none => simp [hprofile] at hcmd
  | some profile =>
    cases hintent : row.intent with
    | none => simp [hprofile, hintent] at hcmd
    | some intent =>
      simp only [hprofile, hintent, Option.bind_eq_bind, Option.bind_some,
        Option.some.injEq] at hcmd
      subst hcmd
      exact ⟨rfl, rfl⟩

end CommissioningSession

@[simp] theorem activatable_activationLifecycle (state : AttemptState) :
    (CommissioningDatabase.activationLifecycle state).activatable = true := by
  cases state <;> rfl

theorem activatable_preflightLifecycle {lifecycle : CommissioningLifecycle}
    (passed : Bool) (hactivatable : lifecycle.activatable = true) :
    (CommissioningDatabase.preflightLifecycle lifecycle passed).activatable = true := by
  unfold CommissioningDatabase.preflightLifecycle
  split_ifs
  · rfl
  · rfl
  · exact hactivatable

/-- An activation attempt with the session and the preflight it was prepared
for. -/
structure ActivationAttempt.Stands (attempt : ActivationAttempt)
    (row : CommissioningSession) (preflight : PreflightAttempt)
    (outcome : PreflightOutcome) : Prop where
  session : row.id = attempt.sessionId
  organization : row.organizationId = attempt.organizationId
  version : attempt.sessionVersion ≤ row.version
  preflightId : preflight.id = attempt.preflightAttemptId
  preflightSession : preflight.sessionId = attempt.sessionId
  preflightOrganization : preflight.organizationId = attempt.organizationId
  preflightVersion : preflight.sessionVersion = attempt.sessionVersion
  reported : preflight.outcome = some outcome
  passed : outcome.passed = true
  current : attempt.sessionVersion = row.version → row.lifecycle.activatable = true ∧
    row.commandIdentity attempt.preflightAttemptId = some attempt.command ∧
    row.matchesEvidence outcome.identity = true ∧ row.Planned attempt.plan

namespace CommissioningDatabase

structure AttemptSound (database : CommissioningDatabase) (attempt : ActivationAttempt) : Prop where
  commandVersion : attempt.command.sessionVersion = attempt.sessionVersion
  commandPreflight : attempt.command.preflightAttemptId = attempt.preflightAttemptId
  normal : normalizeCommissioningKey attempt.idempotencyKey = .ok attempt.idempotencyKey
  stands : ∃ row ∈ database.sessions, ∃ preflight ∈ database.preflights,
    ∃ outcome, attempt.Stands row preflight outcome

structure Consistent (database : CommissioningDatabase) : Prop where
  keyed : database.Keyed
  attempts : ∀ attempt ∈ database.activations, database.AttemptSound attempt
  completions : ∀ completion ∈ database.completions,
    ∃ attempt ∈ database.activations, attempt.id = completion.attemptId ∧
      attempt.sessionId = completion.sessionId

theorem Consistent.empty (tables : EquipmentTables) :
    (CommissioningDatabase.empty tables).Consistent where
  keyed := ⟨List.nodup_nil, List.nodup_nil, List.nodup_nil, List.nodup_nil⟩
  attempts := fun _ hmem => absurd hmem List.not_mem_nil
  completions := fun _ hmem => absurd hmem List.not_mem_nil

end CommissioningDatabase

/-! ## Steps -/

section Steps

open CommissioningDatabase

variable {settings : CommissioningSettings} {before after : CommissioningSystem}
  {action : WorkflowAction}

theorem exists_precedes_replaceRow {rows : List CommissioningSession}
    (hkeys : (rows.map (·.id)).Nodup) {record next : CommissioningSession}
    (hrec : record ∈ rows) (hprecedes : record.Precedes next)
    {row : CommissioningSession} (hrow : row ∈ rows) :
    ∃ later ∈ replaceRow (·.id) next rows, row.Precedes later := by
  obtain ⟨later, hlater, hid, rfl | rfl⟩ :=
    exists_mem_replaceRow CommissioningSession.id next hrow
  · have hsame : row = record :=
      row_eq_of_key hkeys hrow hrec (hid.symm.trans hprecedes.id)
    subst hsame
    exact ⟨later, hlater, hprecedes⟩
  · exact ⟨later, hlater, .refl later⟩

variable {database : CommissioningDatabase} {attempt : ActivationAttempt}

theorem CommissioningDatabase.PreflightReported.precedes
    {attempt : PreflightAttempt} {passed : Bool} {sessions : List CommissioningSession}
    (hkeyed : database.Keyed) (hreported : PreflightReported database attempt passed sessions)
    {row : CommissioningSession} (hrow : row ∈ database.sessions) :
    ∃ later ∈ sessions, row.Precedes later := by
  cases hreported with
  | outdated _ => exact ⟨row, hrow, .refl row⟩
  | current record hmem _ _ _ =>
    exact exists_precedes_replaceRow hkeyed.sessions hmem
      (.setLifecycle record (activatable_preflightLifecycle passed)) hrow

theorem CommissioningSystem.WorkflowEffect.precedes (hkeyed : before.database.Keyed)
    (heff : before.WorkflowEffect settings action after)
    {row : CommissioningSession} (hrow : row ∈ before.database.sessions) :
    ∃ later ∈ after.database.sessions, row.Precedes later := by
  cases heff with
  | idle => exact ⟨row, hrow, .refl row⟩
  | created _ new _ _ =>
    exact ⟨row, List.mem_append_left _ hrow, .refl row⟩
  | edited _ record next _ hmem hedited =>
    exact exists_precedes_replaceRow hkeyed.sessions hmem
      ⟨hedited.id, hedited.organizationId, .inl (by rw [hedited.version]; omega)⟩
      hrow
  | preflightPrepared _ worker _ attempt database _ _ hprepared =>
    cases hprepared <;> exact ⟨row, hrow, .refl row⟩
  | preflightCompleted worker run attempt answer sessions _ _ _ _ _ _ hreported =>
    exact hreported.precedes hkeyed hrow
  | activationPrepared worker record =>
    exact exists_precedes_replaceRow hkeyed.sessions ‹_› (.setLifecycle record fun _ => rfl) hrow
  | activationCompleted worker run attempt record state _ _ _ _ _ hrec _ =>
    exact exists_precedes_replaceRow hkeyed.sessions hrec
      (.setLifecycle record fun _ => activatable_activationLifecycle state) hrow

theorem CommissioningSystem.WorkflowEffect.completed (hkeyed : before.database.Keyed)
    (heff : before.WorkflowEffect settings action after)
    {preflight : PreflightAttempt} (hmem : preflight ∈ before.database.preflights)
    (hcompleted : preflight.outcome.isSome = true) :
    preflight ∈ after.database.preflights := by
  have hkept : ∀ existing ∈ before.database.preflights, existing.outcome = none →
      ∀ next : PreflightAttempt, next.id = existing.id →
      preflight ∈ replaceRow (·.id) next before.database.preflights := by
    intro existing hexisting hrun next hid
    refine mem_replaceRow.mpr (.inr ⟨hmem, ?_⟩)
    intro hsame
    have hequal := row_eq_of_key hkeyed.preflights hmem hexisting (hsame.trans hid)
    rw [hequal, hrun] at hcompleted
    cases hcompleted
  cases heff with
  | idle => exact hmem
  | created => exact hmem
  | edited => exact hmem
  | preflightPrepared _ worker _ attempt database _ _ hprepared =>
    cases hprepared with
    | restarted existing hexisting _ hrun hatt =>
      exact hkept existing hexisting hrun attempt (by rw [hatt])
    | added => exact List.mem_append_left _ hmem
  | preflightCompleted worker run attempt answer sessions _ _ _ hatt _ hrun _ =>
    exact hkept attempt hatt hrun _ rfl
  | activationPrepared => exact hmem
  | activationCompleted => exact hmem

theorem CommissioningSystem.WorkflowEffect.keyed (hkeyed : before.database.Keyed)
    (heff : before.WorkflowEffect settings action after) :
    after.database.Keyed := by
  obtain ⟨hsessions, hpreflights, hactns, hkeys⟩ := hkeyed
  cases heff with
  | idle => exact ⟨hsessions, hpreflights, hactns, hkeys⟩
  | created _ row hfresh _ =>
    exact ⟨nodup_keys_append hsessions hfresh, hpreflights, hactns, hkeys⟩
  | edited _ record next _ _ _ =>
    refine ⟨?_, hpreflights, hactns, hkeys⟩
    exact (keys_replaceRow CommissioningSession.id next _).symm ▸ hsessions
  | preflightPrepared _ worker _ attempt database _ _ hprepared =>
    cases hprepared with
    | restarted =>
      refine ⟨hsessions, ?_, hactns, hkeys⟩
      exact (keys_replaceRow PreflightAttempt.id attempt _).symm ▸ hpreflights
    | added hfresh =>
      exact ⟨hsessions, nodup_keys_append hpreflights hfresh, hactns, hkeys⟩
  | preflightCompleted worker run attempt answer sessions _ _ _ _ _ _ hreported =>
    refine ⟨?_, ?_, hactns, hkeys⟩
    · cases hreported with
      | outdated => exact hsessions
      | current record =>
        exact (keys_replaceRow CommissioningSession.id _ _).symm ▸ hsessions
    · exact (keys_replaceRow PreflightAttempt.id _ _).symm ▸ hpreflights
  | activationPrepared worker row preflight outcome attempt activations _ _ _ _ _ _ _ _ hprepared =>
      have hreplaced : ((replaceRow (·.id) (row.setLifecycle .pendingActivation)
          before.database.sessions).map (·.id)).Nodup :=
        (keys_replaceRow CommissioningSession.id _ _).symm ▸ hsessions
      cases hprepared with
      | retried => exact ⟨hreplaced, hpreflights, hactns, hkeys⟩
      | added hfresh hkey =>
        refine ⟨hreplaced, hpreflights, nodup_keys_append hactns hfresh, nodup_keys_append hkeys ?_⟩
        intro other hother hequal
        simp only [Prod.mk.injEq] at hequal
        exact hkey other hother hequal.1 hequal.2.1 hequal.2.2
  | activationCompleted worker run attempt record state _ _ _ hmem _ _ _ =>
    refine ⟨?_, hpreflights, ?_, ?_⟩
    · exact (keys_replaceRow CommissioningSession.id _ _).symm ▸ hsessions
    · exact (keys_replaceRow ActivationAttempt.id _ _).symm ▸ hactns
    · suffices hsame : (replaceRow (·.id)
          { attempt with state, completedAt := some before.now }
          before.database.activations).map (fun attempt =>
            (attempt.organizationId, attempt.sessionId, attempt.idempotencyKey)) =
          before.database.activations.map fun attempt =>
            (attempt.organizationId, attempt.sessionId, attempt.idempotencyKey) by
        exact hsame.symm ▸ hkeys
      unfold replaceRow
      rw [List.map_map]
      apply List.map_congr_left
      intro other hother
      rw [Function.comp_apply]
      split_ifs with hid
      · rw [row_eq_of_key hactns hother hmem hid]
      · rfl

theorem CommissioningDatabase.AttemptSound.frame {before after : CommissioningDatabase}
    (hsessions : ∀ row ∈ before.sessions, ∃ later ∈ after.sessions, row.Precedes later)
    (hpreflights : ∀ preflight ∈ before.preflights, preflight.outcome.isSome = true →
      preflight ∈ after.preflights)
    (hsound : before.AttemptSound attempt) : after.AttemptSound attempt := by
  obtain ⟨hver, hpref, hnormal, row, hrow, preflight, hmem, outcome, hstands⟩ := hsound
  obtain ⟨later, hlater, hprecedes⟩ := hsessions row hrow
  refine ⟨hver, hpref, hnormal, later, hlater, preflight,
    hpreflights preflight hmem (by rw [hstands.reported]; rfl), outcome, ?_⟩
  refine { hstands with
    session := hprecedes.id.trans hstands.session
    organization := hprecedes.organizationId.trans hstands.organization
    version := hstands.version.trans hprecedes.version_le
    current := ?_ }
  intro hcur
  have hle := hstands.version
  rcases hprecedes.version with hlater | ⟨hsame, hvalues, hprofile, hactivatable⟩
  · omega
  · obtain ⟨hold, hcmd, hevidence, hplanned⟩ :=
      hstands.current (hcur.trans hsame)
    refine ⟨hactivatable hold, ?_, ?_, ?_⟩
    · rw [CommissioningSession.commandIdentity_congr hprecedes.id hsame hvalues]
      exact hcmd
    · rw [CommissioningSession.matchesEvidence_congr hvalues hprofile]
      exact hevidence
    · unfold CommissioningSession.Planned
      rw [hvalues]
      exact hplanned

theorem CommissioningDatabase.AttemptSound.added
    {now : Instant} {row : CommissioningSession} {preflight : PreflightAttempt}
    {outcome : PreflightOutcome} (hrow : row ∈ database.sessions)
    (hcur : database.currentPreflight settings now row = .ok (preflight, outcome))
    (hplannable : database.Plannable row)
    (hcmd : row.commandIdentity preflight.id = some attempt.command)
    (hnormal : normalizeCommissioningKey attempt.idempotencyKey = .ok attempt.idempotencyKey)
    (horg : attempt.organizationId = row.organizationId) (hsess : attempt.sessionId = row.id)
    (hpref : attempt.preflightAttemptId = preflight.id)
    (hver : attempt.sessionVersion = row.version)
    (hplan : row.Planned attempt.plan) : database.AttemptSound attempt := by
  obtain ⟨hlat, hout, hpassed, htested, _, hevidence⟩ :=
    currentPreflight_eq_ok.mp hcur
  obtain ⟨⟨hmem, hpreflightOrganization, hpreflightSession, _⟩, _⟩ :=
    latestPreflight_eq_some hlat
  obtain ⟨hcommandVersion, hcommandPreflight⟩ :=
    CommissioningSession.commandIdentity_eq_some hcmd
  refine ⟨hcommandVersion.trans hver.symm,
    hcommandPreflight.trans hpref.symm, hnormal, row, hrow, preflight, hmem,
    outcome, ?_⟩
  constructor
  case session => exact hsess.symm
  case organization => exact horg.symm
  case version => exact hver.le
  case preflightId => exact hpref.symm
  case preflightSession => exact hpreflightSession.trans hsess.symm
  case preflightOrganization =>
    exact hpreflightOrganization.trans horg.symm
  case preflightVersion => exact htested.trans hver.symm
  case reported => exact hout
  case passed => exact hpassed
  case current =>
    intro _
    rw [hpref]
    exact ⟨hplannable.1, hcmd, hevidence, hplan⟩

theorem CommissioningSystem.WorkflowEffect.attempts (hcons : before.database.Consistent)
    (heff : before.WorkflowEffect settings action after) :
    ∀ attempt ∈ after.database.activations, after.database.AttemptSound attempt := by
  intro attempt hatt
  have hframe : ∀ {old : ActivationAttempt}, before.database.AttemptSound old →
      after.database.AttemptSound old :=
    AttemptSound.frame (fun row hrow => heff.precedes hcons.keyed hrow)
      (fun preflight hmem => heff.completed hcons.keyed hmem)
  have hold : ∀ old ∈ before.database.activations, after.database.AttemptSound old :=
    fun old hmem => hframe (hcons.attempts old hmem)
  cases heff with
  | idle => exact hold attempt hatt
  | created => exact hold attempt hatt
  | edited => exact hold attempt hatt
  | preflightPrepared _ worker _ preflight database _ _ hprepared =>
    cases hprepared with
    | restarted => exact hold attempt hatt
    | added => exact hold attempt hatt
  | preflightCompleted => exact hold attempt hatt
  | activationPrepared worker row preflight outcome new activations _ hrow hcur
      hplannable hcmd _ _ _ hprepared =>
      cases hprepared with
      | retried => exact hold attempt hatt
      | added _ _ hnormal _ horg hsess hpref hver hplan _ =>
        rcases List.mem_append.mp hatt with hmem | hnew
        · exact hold attempt hmem
        · rw [List.mem_singleton] at hnew
          subst hnew
          exact hframe (.added hrow hcur hplannable hcmd hnormal horg hsess hpref hver hplan)
  | activationCompleted worker run old record state _ _ _ hmem _ _ _ =>
    rcases mem_replaceRow.mp hatt with ⟨rfl, _⟩ | ⟨hother, _⟩
    · obtain ⟨hver, hpref, hnormal, row, hrow, preflight, hpreflightMem,
        outcome, hstands⟩ := hold old hmem
      exact ⟨hver, hpref, hnormal, row, hrow, preflight, hpreflightMem, outcome, { hstands with }⟩
    · exact hold attempt hother

theorem CommissioningSystem.WorkflowEffect.exists_attempt
    (heff : before.WorkflowEffect settings action after) (hkeyed : before.database.Keyed)
    (hmem : attempt ∈ before.database.activations) :
    ∃ later ∈ after.database.activations, later.id = attempt.id ∧
      later.sessionId = attempt.sessionId := by
  cases heff with
  | idle => exact ⟨attempt, hmem, rfl, rfl⟩
  | created => exact ⟨attempt, hmem, rfl, rfl⟩
  | edited => exact ⟨attempt, hmem, rfl, rfl⟩
  | preflightPrepared _ worker _ preflight database _ _ hprepared =>
    cases hprepared <;> exact ⟨attempt, hmem, rfl, rfl⟩
  | preflightCompleted => exact ⟨attempt, hmem, rfl, rfl⟩
  | activationPrepared worker row preflight outcome new activations _ _ _ _ _ _ _ _ hprepared =>
      cases hprepared with
      | retried => exact ⟨attempt, hmem, rfl, rfl⟩
      | added => exact ⟨attempt, List.mem_append_left _ hmem, rfl, rfl⟩
  | activationCompleted worker run old record state _ _ _ hold _ _ _ =>
    obtain ⟨later, hlater, hid, rfl | rfl⟩ := exists_mem_replaceRow ActivationAttempt.id
      { old with state, completedAt := some before.now } hmem
    · have hsame : attempt = old :=
        row_eq_of_key hkeyed.activations hmem hold hid.symm
      subst hsame
      exact ⟨_, hlater, rfl, rfl⟩
    · exact ⟨later, hlater, rfl, rfl⟩

theorem CommissioningSystem.WorkflowEffect.completions (hcons : before.database.Consistent)
    (heff : before.WorkflowEffect settings action after) :
    ∀ completion ∈ after.database.completions,
      ∃ attempt ∈ after.database.activations, attempt.id = completion.attemptId ∧
        attempt.sessionId = completion.sessionId := by
  intro completion hcompletion
  have hlater : ∀ attempt ∈ before.database.activations,
      attempt.id = completion.attemptId → attempt.sessionId = completion.sessionId →
      ∃ later ∈ after.database.activations, later.id = completion.attemptId ∧
        later.sessionId = completion.sessionId := by
    intro attempt hmem hid hsess
    obtain ⟨later, hlater, hlaterId, hlaterSession⟩ :=
      heff.exists_attempt hcons.keyed hmem
    exact ⟨later, hlater, hlaterId.trans hid, hlaterSession.trans hsess⟩
  have hcases : completion ∈ before.database.completions ∨
      ∃ attempt ∈ before.database.activations, attempt.id = completion.attemptId ∧
        attempt.sessionId = completion.sessionId := by
    cases heff with
    | idle => exact .inl hcompletion
    | created => exact .inl hcompletion
    | edited => exact .inl hcompletion
    | preflightPrepared _ worker _ preflight database _ _ hprepared =>
      cases hprepared <;> exact .inl hcompletion
    | preflightCompleted => exact .inl hcompletion
    | activationPrepared => exact .inl hcompletion
    | activationCompleted worker run attempt record state _ _ _ hmem _ _ _ =>
      rcases List.mem_append.mp hcompletion with hold | hnew
      · exact .inl hold
      · rw [List.mem_singleton] at hnew
        subst hnew
        exact .inr ⟨attempt, hmem, rfl, rfl⟩
  rcases hcases with hold | ⟨attempt, hmem, hid, hsess⟩
  · obtain ⟨attempt, hmem, hid, hsess⟩ := hcons.completions completion hold
    exact hlater attempt hmem hid hsess
  · exact hlater attempt hmem hid hsess

theorem CommissioningDatabase.Consistent.step (hcons : before.database.Consistent)
    (hstep : before.step settings action = some after) :
    after.database.Consistent := by
  have heff := CommissioningSystem.step_effect hcons.keyed hstep
  exact ⟨heff.keyed hcons.keyed, heff.attempts hcons, heff.completions hcons⟩

end Steps

theorem consistent_of_reachable {settings : CommissioningSettings}
    {guard : CommissioningSystem → WorkflowAction → Prop} {tables : EquipmentTables}
    {start : Instant} {system : CommissioningSystem}
    (hreach : system.Reachable settings guard tables start) :
    system.database.Consistent := by
  refine hreach.invariant (P := fun system => system.database.Consistent) ?_ (.empty tables)
  exact fun _ _ _ hcons _ hstep => hcons.step hstep

end Nexolab
