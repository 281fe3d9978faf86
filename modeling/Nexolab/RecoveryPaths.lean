import Nexolab.CommissioningInvariant

/-!
# Recovery of interrupted activations

An activation which was interrupted is finished by the same request again.  The
request is accepted only while nothing it was prepared with has changed: the
version of the session, its latest preflight, the freshness of that preflight and
the equipment.  No other request gets the attempt out of its state.
-/

namespace Nexolab

namespace CommissioningSystem

variable (system : CommissioningSystem)

/-- A request on one session, which the device agent answers as it should; time may
pass. -/
def OwnRequest (sessionId : String) (action : WorkflowAction) : Prop :=
  (∀ requested ∈ action.sessionId, requested = sessionId) ∧
  match action with
  | .create .. => False
  | .elsewhere _ => False
  | .crash _ => False
  | .answerActivation worker answer =>
    ∀ attempt progress, system.runOf worker = some (.activation attempt progress) →
      answer = .active attempt.plan.telemetryEquipmentId true
  | .answerRollback _ rolledBack => rolledBack = true
  | _ => True

/-- Every activation attempt of the session is active or rolled back. -/
def Settled (sessionId : String) : Prop :=
  ∀ attempt ∈ system.database.activations, attempt.sessionId = sessionId →
    attempt.unfinished = false

variable (settings : CommissioningSettings)

def CanSettle (sessionId : String) : Prop :=
  ∃ after, Reaches (fun system action => system.step settings action)
    (OwnRequest · sessionId) system after ∧ after.Quiescent ∧ after.Settled sessionId

/-- The attempt can be prepared again: the session has its version, the preflight
it was prepared with is the latest one and still fresh, and the plan is
accepted. -/
def Retriable (row : CommissioningSession) (attempt : ActivationAttempt) : Prop :=
  attempt.sessionVersion = row.version ∧
    (∃ preflight ∈ system.database.latestPreflight row.organizationId row.id,
      preflight.id = attempt.preflightAttemptId ∧ ∃ outcome ∈ preflight.outcome,
        system.now ≤ outcome.completedAt + settings.freshness) ∧
    system.database.Plannable row

/-- Every unfinished attempt of the session can be prepared again. -/
def Recoverable (row : CommissioningSession) : Prop :=
  ∀ attempt ∈ system.database.activations, attempt.sessionId = row.id →
    attempt.unfinished = true → system.Retriable settings row attempt

/-! ## Dead ends -/

def OwnPreflights (sessionId : String) : Prop :=
  ∀ entry ∈ system.runs, ∃ attempt, entry.2 = .preflight attempt ∧
    ∀ row ∈ system.database.preflights, row.id = attempt.id → row.sessionId = sessionId

inductive Obstacle (attempt : ActivationAttempt) : Prop
  | outdated (row : CommissioningSession) (hrow : row ∈ system.database.sessions)
      (hid : row.id = attempt.sessionId)
      (hver : attempt.sessionVersion < row.version)
  | superseded (preflight later : PreflightAttempt)
      (hmem : preflight ∈ system.database.preflights)
      (hid : preflight.id = attempt.preflightAttemptId)
      (hlater : system.database.CompletedPreflight attempt.organizationId attempt.sessionId later)
      (hrank : preflight.rank < later.rank)
  | stale (preflight : PreflightAttempt) (outcome : PreflightOutcome)
      (hmem : preflight ∈ system.database.preflights)
      (hid : preflight.id = attempt.preflightAttemptId)
      (hout : preflight.outcome = some outcome)
      (hstale : outcome.completedAt + settings.freshness < system.now)
  | blocked (row : CommissioningSession) (hrow : row ∈ system.database.sessions)
      (hid : row.id = attempt.sessionId)
      (hver : attempt.sessionVersion = row.version)
      (hblocked : ¬ system.database.Plannable row)
      (hruns : system.OwnPreflights attempt.sessionId)

/-- An unfinished attempt which no request gets out of its state. -/
structure Stuck (attempt : ActivationAttempt) : Prop where
  consistent : system.database.Consistent
  mem : attempt ∈ system.database.activations
  unfinished : attempt.unfinished = true
  idle : ∀ entry ∈ system.runs, entry.2.activationId ≠ some attempt.id
  obstacle : system.Obstacle settings attempt

end CommissioningSystem

section Steps

open CommissioningDatabase CommissioningSystem

variable {settings : CommissioningSettings} {before after : CommissioningSystem}
  {action : WorkflowAction} {attempt : ActivationAttempt} {sessionId : String}

theorem CommissioningSystem.Stuck.not_prepared
    (hstuck : before.Stuck settings attempt) {row : CommissioningSession}
    {preflight : PreflightAttempt} {outcome : PreflightOutcome}
    (hrow : row ∈ before.database.sessions) (hsess : attempt.sessionId = row.id)
    (hcur : before.database.currentPreflight settings before.now row = .ok (preflight, outcome))
    (hplannable : before.database.Plannable row)
    (hcmd : row.commandIdentity preflight.id = some attempt.command) : False := by
  have hkeyed := hstuck.consistent.keyed
  obtain ⟨hcommandVersion, hcommandPreflight, _, own, hown, _, _, _, hstands⟩ :=
    hstuck.consistent.attempts attempt hstuck.mem
  have hsame : own = row :=
    row_eq_of_key hkeyed.sessions hown hrow (hstands.session.trans hsess)
  subst hsame
  obtain ⟨hver, hpref⟩ :=
    CommissioningSession.commandIdentity_eq_some hcmd
  rw [hcommandVersion] at hver
  rw [hcommandPreflight] at hpref
  obtain ⟨hlat, hout, _, _, hfresh, _⟩ := currentPreflight_eq_ok.mp hcur
  obtain ⟨hcompleted, hlast⟩ := latestPreflight_eq_some hlat
  cases hstuck.obstacle with
  | outdated other hother hid hlt =>
    have hequal : other = own :=
      row_eq_of_key hkeyed.sessions hother hrow (hid.trans hsess)
    rw [hequal] at hlt
    omega
  | superseded other later hmem hid hlater hrank =>
    have hequal : other = preflight :=
      row_eq_of_key hkeyed.preflights hmem hcompleted.1 (hid.trans hpref)
    rw [← hstands.organization, hsess] at hlater
    rw [hequal] at hrank
    exact absurd (hlast later hlater) (not_le.mpr hrank)
  | stale other found hmem hid hfound hstale =>
    have hequal : other = preflight :=
      row_eq_of_key hkeyed.preflights hmem hcompleted.1 (hid.trans hpref)
    rw [hequal, hout, Option.some.injEq] at hfound
    rw [← hfound] at hstale
    exact absurd hfresh (not_le.mpr hstale)
  | blocked other hother hid _ hblocked _ =>
    have hequal : other = own :=
      row_eq_of_key hkeyed.sessions hother hrow (hid.trans hsess)
    rw [hequal] at hblocked
    exact hblocked hplannable

theorem completes_mem {completed : ActivationAttempt × AttemptState}
    (hcomps : before.completes action = some completed) :
    ∃ entry ∈ before.runs, entry.2.activationId = some completed.1.id := by
  have hrun : ∀ (worker : ℕ) (progress : ActivationProgress),
      before.runOf worker = some (.activation completed.1 progress) →
      ∃ entry ∈ before.runs, entry.2.activationId = some completed.1.id := by
    intro worker progress hrun
    obtain ⟨entry, hent, hequal⟩ := runOf_eq_some hrun
    exact ⟨entry, hent, by rw [hequal]; rfl⟩
  cases action with
  | answerActivation worker answer =>
    simp only [completes] at hcomps
    split at hcomps
    next run hworker =>
      cases hcomps
      exact hrun worker _ hworker
    next run hworker =>
      cases hcomps
      exact hrun worker _ hworker
    next run hworker =>
      cases hcomps
      exact hrun worker _ hworker
    next => cases hcomps
  | answerRollback worker rolledBack =>
    simp only [completes] at hcomps
    split at hcomps
    next run hworker =>
      cases hcomps
      exact hrun worker _ hworker
    next => cases hcomps
  | finishActivation worker =>
    simp only [completes] at hcomps
    split at hcomps
    next run hworker =>
      cases hcomps
      exact hrun worker _ hworker
    next => cases hcomps
  | _ => cases hcomps

theorem CommissioningSystem.WorkflowEffect.mem_activations
    (heff : before.WorkflowEffect settings action after)
    (hmem : attempt ∈ before.database.activations)
    (hidle : ∀ entry ∈ before.runs, entry.2.activationId ≠ some attempt.id) :
    attempt ∈ after.database.activations := by
  cases heff with
  | idle => exact hmem
  | created => exact hmem
  | edited => exact hmem
  | preflightPrepared _ worker _ preflight database _ _ hprepared =>
    cases hprepared <;> exact hmem
  | preflightCompleted => exact hmem
  | activationPrepared worker row preflight outcome new activations _ _ _ _ _ _ _ _ hprepared =>
      cases hprepared with
      | retried => exact hmem
      | added => exact List.mem_append_left _ hmem
  | activationCompleted worker run other record state _ _ hcomps _ hid _ _ =>
    refine mem_replaceRow.mpr (.inr ⟨hmem, ?_⟩)
    intro hsame
    obtain ⟨entry, hent, hrun⟩ := completes_mem hcomps
    refine hidle entry hent ?_
    rw [hrun, ← hid, hsame]

theorem CommissioningSystem.WorkflowEffect.now_le
    (heff : before.WorkflowEffect settings action after) :
    before.now ≤ after.now := by
  cases heff with
  | idle _ _ _ _ hnow => exact hnow
  | _ => exact le_rfl

theorem CommissioningSystem.Stuck.idle_after (hstuck : before.Stuck settings attempt)
    (heff : before.WorkflowEffect settings action after) :
    ∀ entry ∈ after.runs, entry.2.activationId ≠ some attempt.id := by
  have hothers : ∀ {worker : ℕ}, ∀ entry ∈ before.othersOf worker,
      entry.2.activationId ≠ some attempt.id :=
    fun entry hent => hstuck.idle entry (List.mem_filter.mp hent).1
  intro entry hent
  cases heff with
  | idle tables now runs _ _ hruns =>
    rcases hruns entry hent with hold | ⟨other, hother, _, hsame⟩
    · exact hstuck.idle entry hold
    · rw [hsame]
      exact hstuck.idle other hother
  | created => exact hstuck.idle entry hent
  | edited => exact hstuck.idle entry hent
  | preflightPrepared _ worker _ preflight database _ _ _ =>
    rcases List.mem_cons.mp hent with rfl | hother
    · exact fun hequal => nomatch hequal
    · exact hothers entry hother
  | preflightCompleted => exact hothers entry hent
  | activationPrepared worker row preflight outcome new activations _ hrow hcur
      hplannable hcmd _ _ _ hprepared =>
      rcases List.mem_cons.mp hent with rfl | hother
      · intro hequal
        have hid : new.id = attempt.id := Option.some.inj hequal
        cases hprepared with
        | retried hmem hsess _ =>
          have hsame : new = attempt := row_eq_of_key
            hstuck.consistent.keyed.activations hmem hstuck.mem hid
          subst hsame
          exact hstuck.not_prepared hrow hsess hcur hplannable hcmd
        | added hfresh => exact hfresh attempt hstuck.mem hid.symm
      · exact hothers entry hother
  | activationCompleted => exact hothers entry hent

theorem reports_mem {report : PreflightAttempt × Bool}
    (hreports : before.reports action = some report) :
    ∃ entry ∈ before.runs, entry.2 = .preflight report.1 := by
  cases action with
  | answerPreflight worker answer =>
    simp only [reports] at hreports
    split at hreports
    next attempt hrun =>
      cases hreports
      exact runOf_eq_some hrun
    next => cases hreports
  | _ => cases hreports

section Blocked

variable (hown : before.OwnPreflights sessionId)
  (hreq : before.OwnRequest sessionId action)
  (heff : before.WorkflowEffect settings action after)

include hown in
theorem CommissioningSystem.OwnPreflights.not_activation {entry : ℕ × ServiceRun}
    (hent : entry ∈ before.runs) : entry.2.activationId = none := by
  obtain ⟨attempt, hrun, _⟩ := hown entry hent
  rw [hrun]
  rfl

include hown in
theorem CommissioningSystem.OwnPreflights.completes_none :
    before.completes action = none := by
  cases hcomps : before.completes action with
  | none => rfl
  | some completed =>
    obtain ⟨entry, hent, hrun⟩ := completes_mem hcomps
    rw [hown.not_activation hent] at hrun
    cases hrun

include hown hreq heff in
theorem CommissioningSystem.OwnPreflights.others_kept
    {other : CommissioningSession} (hother : other ∈ before.database.sessions)
    (hne : other.id ≠ sessionId) : other ∈ after.database.sessions := by
  have hrequested : ∀ {requested : String}, action.sessionId = some requested →
      other.id ≠ requested := by
    intro requested hsess
    rw [hreq.1 requested hsess]
    exact hne
  cases heff with
  | idle => exact hother
  | created => exact List.mem_append_left _ hother
  | edited _ record next hsess _ hedited =>
    refine mem_replaceRow.mpr (.inr ⟨hother, ?_⟩)
    rw [hedited.id]
    exact hrequested hsess
  | preflightPrepared _ worker row attempt database _ _ hprepared =>
    cases hprepared <;> exact hother
  | preflightCompleted worker run attempt answer sessions _ _ hreports hmem hid _ hreported =>
      obtain ⟨entry, hent, hrun⟩ := reports_mem hreports
      obtain ⟨found, hfound, hsess⟩ := hown entry hent
      rw [hrun] at hfound
      cases hfound
      cases hreported with
      | outdated => exact hother
      | current record _ hrec _ _ =>
        refine mem_replaceRow.mpr (.inr ⟨hother, ?_⟩)
        rw [CommissioningSession.setLifecycle_id, hrec, hsess attempt hmem hid]
        exact hne
  | activationPrepared worker row preflight outcome attempt activations hsess =>
    exact mem_replaceRow.mpr (.inr ⟨hother, hrequested hsess⟩)
  | activationCompleted worker run attempt record state _ _ hcomps =>
    rw [hown.completes_none] at hcomps
    cases hcomps

include hown hreq heff in
theorem CommissioningSystem.OwnPreflights.tables_kept :
    after.database.tables = before.database.tables := by
  cases heff with
  | idle tables now runs htables =>
    rcases htables with hsame | hwritten | ⟨entry, hent, hactn⟩
    · exact hsame
    · rw [hwritten] at hreq
      exact hreq.2.elim
    · exact absurd (hown.not_activation hent) hactn
  | preflightPrepared _ worker row attempt database _ _ hprepared =>
    cases hprepared <;> rfl
  | _ => rfl

include hown hreq heff in
theorem CommissioningSystem.OwnPreflights.step
    (hunprepared : ∀ row ∈ before.database.sessions, row.id = sessionId →
      ¬ before.database.Plannable row) :
    after.OwnPreflights sessionId := by
  have hrequested : ∀ {requested : String}, action.sessionId = some requested →
      requested = sessionId := fun hsess => hreq.1 _ hsess
  cases heff with
  | idle tables now runs _ _ hruns =>
    intro entry hent
    rcases hruns entry hent with hold | ⟨other, hother, hactn, _⟩
    · exact hown entry hold
    · exact absurd (hown.not_activation hother) hactn
  | created => exact hown
  | edited => exact hown
  | preflightPrepared _ worker row attempt database hsess _ hprepared =>
    have hrows : ∀ other ∈ database.preflights, other.sessionId = sessionId ∨
        other ∈ before.database.preflights ∧ other.id ≠ attempt.id := by
      intro other hother
      cases hprepared with
      | restarted existing _ hexisting _ hatt =>
        rcases mem_replaceRow.mp hother with ⟨rfl, _⟩ | hold
        · left
          rw [hatt, ← hrequested hsess]
          exact hexisting
        · exact .inr hold
      | added hfresh _ hatt =>
        rcases List.mem_append.mp hother with hold | hnew
        · exact .inr ⟨hold, hfresh other hold⟩
        · left
          rw [List.mem_singleton.mp hnew, hatt]
          exact hrequested hsess
    intro entry hent
    rcases List.mem_cons.mp hent with rfl | hrest
    · refine ⟨attempt, rfl, ?_⟩
      intro other hother hid
      rcases hrows other hother with hsame | ⟨_, hne⟩
      · exact hsame
      · exact absurd hid hne
    · obtain ⟨found, hfound, hsessions⟩ := hown entry (List.mem_filter.mp hrest).1
      refine ⟨found, hfound, ?_⟩
      intro other hother hid
      rcases hrows other hother with hsame | ⟨hold, _⟩
      · exact hsame
      · exact hsessions other hold hid
  | preflightCompleted worker run attempt answer sessions _ _ _ hmem _ _ _ =>
    intro entry hent
    obtain ⟨found, hfound, hsessions⟩ := hown entry (List.mem_filter.mp hent).1
    refine ⟨found, hfound, ?_⟩
    intro other hother hid
    rcases mem_replaceRow.mp hother with ⟨rfl, _⟩ | ⟨hold, _⟩
    · exact hsessions attempt hmem hid
    · exact hsessions other hold hid
  | activationPrepared worker row preflight outcome attempt activations hsess hrow
      _ hplannable =>
      exact absurd hplannable (hunprepared row hrow (hrequested hsess))
  | activationCompleted worker run attempt record state _ _ hcomps =>
    rw [hown.completes_none] at hcomps
    cases hcomps

end Blocked

theorem CommissioningDatabase.Plannable.of_kept {database next : CommissioningDatabase}
    {row later : CommissioningSession} (hid : later.id = row.id)
    (horg : later.organizationId = row.organizationId)
    (hvalues : later.toCommissioningValues = row.toCommissioningValues)
    (hprofile : later.profileVersion = row.profileVersion)
    (hactivatable : row.lifecycle.activatable = true)
    (hothers : ∀ other ∈ database.sessions, other.id ≠ row.id → other ∈ next.sessions)
    (htables : next.tables = database.tables) (hplannable : next.Plannable later) :
    database.Plannable row := by
  obtain ⟨_, profile, hfound, intent, hintent, hver, hsupported, havail,
    hconflict, hbinding⟩ := hplannable
  rw [hvalues] at hfound hintent
  rw [htables, horg] at havail hbinding
  refine ⟨hactivatable, profile, hfound, intent, hintent, hprofile ▸ hver,
    hsupported, havail, ?_, hbinding⟩
  rintro ⟨other, hother, hsame, hne, hact, hshares⟩
  refine hconflict ⟨other, hothers other hother hne, hsame.trans horg.symm, hid ▸ hne, hact, ?_⟩
  unfold CommissioningSession.SharesEquipment CommissioningSession.SharesIdentity
  rw [hvalues]
  exact hshares

theorem CommissioningSystem.Stuck.step (hstuck : before.Stuck settings attempt)
    (hreq : before.OwnRequest attempt.sessionId action)
    (hstep : before.step settings action = some after) :
    after.Stuck settings attempt := by
  have hcons := hstuck.consistent
  have hkeyed := hcons.keyed
  have heff := step_effect hkeyed hstep
  obtain ⟨_, _, _, own, hown, tested, htested, outcome, hstands⟩ :=
    hcons.attempts attempt hstuck.mem
  refine ⟨hcons.step hstep, heff.mem_activations hstuck.mem hstuck.idle,
    hstuck.unfinished, hstuck.idle_after heff, ?_⟩
  have hkept : ∀ preflight ∈ before.database.preflights, preflight.id = attempt.preflightAttemptId →
      preflight ∈ after.database.preflights := by
    intro preflight hmem hid
    have hsame : preflight = tested :=
      row_eq_of_key hkeyed.preflights hmem htested (hid.trans hstands.preflightId.symm)
    subst hsame
    exact heff.completed hkeyed hmem (by rw [hstands.reported]; rfl)
  cases hstuck.obstacle with
  | outdated row hrow hid hver =>
    obtain ⟨later, hlater, hprecedes⟩ := heff.precedes hkeyed hrow
    exact .outdated later hlater (hprecedes.id.trans hid) (hver.trans_le hprecedes.version_le)
  | superseded preflight later hmem hid hlater hrank =>
    obtain ⟨hlaterMem, horg, hsess, hcompleted⟩ := hlater
    exact .superseded preflight later (hkept preflight hmem hid) hid
      ⟨heff.completed hkeyed hlaterMem hcompleted, horg, hsess, hcompleted⟩ hrank
  | stale preflight found hmem hid hout hstale =>
    exact .stale preflight found (hkept preflight hmem hid) hid hout (hstale.trans_le heff.now_le)
  | blocked row hrow hid hver hblocked hruns =>
    have hsame : own = row :=
      row_eq_of_key hkeyed.sessions hown hrow (hstands.session.trans hid.symm)
    subst hsame
    obtain ⟨later, hlater, hprecedes⟩ := heff.precedes hkeyed hrow
    rcases hprecedes.version with hnewer | ⟨hsame, hvalues, hprofile, _⟩
    · exact .outdated later hlater (hprecedes.id.trans hid) (hver ▸ hnewer)
    · refine .blocked later hlater (hprecedes.id.trans hid) (hver.trans hsame.symm) ?_ ?_
      · intro hplannable
        refine hblocked (.of_kept hprecedes.id hprecedes.organizationId hvalues
          hprofile (hstands.current hver).1 ?_ (hruns.tables_kept hreq heff) hplannable)
        intro other hother hne
        exact hruns.others_kept hreq heff hother (hid ▸ hne)
      · refine hruns.step hreq heff ?_
        intro other hother hotherId
        rwa [row_eq_of_key hkeyed.sessions hother hrow (hotherId.trans hid.symm)]

theorem CommissioningSystem.Stuck.of_reaches
    (hreach : Reaches (fun system action => system.step settings action)
      (OwnRequest · attempt.sessionId) before after)
    (hstuck : before.Stuck settings attempt) : after.Stuck settings attempt :=
  hreach.invariant (P := fun system => system.Stuck settings attempt)
    (fun _ _ _ hbefore hguard hstep => hbefore.step hguard hstep) hstuck

theorem retriable_or_obstacle (hcons : before.database.Consistent)
    (hquiescent : before.Quiescent) {row : CommissioningSession}
    (hrow : row ∈ before.database.sessions) (hmem : attempt ∈ before.database.activations)
    (hsess : attempt.sessionId = row.id) :
    before.Retriable settings row attempt ∨ before.Obstacle settings attempt := by
  have hkeyed := hcons.keyed
  obtain ⟨_, _, _, own, hown, preflight, hpref, outcome, hstands⟩ :=
    hcons.attempts attempt hmem
  have hsame : own = row :=
    row_eq_of_key hkeyed.sessions hown hrow (hstands.session.trans hsess)
  subst hsame
  by_cases hver : attempt.sessionVersion = own.version
  · have hcompleted : before.database.CompletedPreflight own.organizationId own.id
        preflight := by
      refine ⟨hpref, ?_, ?_, by rw [hstands.reported]; rfl⟩
      · rw [hstands.preflightOrganization, hstands.organization]
      · rw [hstands.preflightSession, hsess]
    obtain ⟨latest, hlat⟩ := exists_latestPreflight hcompleted
    obtain ⟨hlatestCompleted, hlast⟩ := latestPreflight_eq_some hlat
    by_cases hid : latest.id = preflight.id
    · have hequal : latest = preflight :=
        row_eq_of_key hkeyed.preflights hlatestCompleted.1 hpref hid
      subst hequal
      by_cases hfresh : before.now ≤ outcome.completedAt + settings.freshness
      · by_cases hplannable : before.database.Plannable own
        · exact .inl ⟨hver, ⟨latest, hlat, hstands.preflightId, outcome,
            hstands.reported, hfresh⟩, hplannable⟩
        · refine .inr (.blocked own hrow hsess.symm hver hplannable ?_)
          intro entry hent
          rw [hquiescent] at hent
          cases hent
      · exact .inr (.stale latest outcome hpref hstands.preflightId
          hstands.reported (not_le.mp hfresh))
    · refine .inr (.superseded preflight latest hpref hstands.preflightId ?_ ?_)
      · rw [← hstands.organization, hsess]
        exact hlatestCompleted
      · refine lt_of_le_of_ne (hlast preflight hcompleted) ?_
        intro hrank
        refine hid ?_
        unfold PreflightAttempt.rank at hrank
        exact (congrArg (fun rank => (ofLex rank).2) hrank).symm
  · exact .inr (.outdated own hrow hsess.symm (lt_of_le_of_ne hstands.version hver))

/-! ## Recovery -/

section Recovery

variable {database : CommissioningDatabase} {row : CommissioningSession}
  {now : Instant}

theorem lockedCommissioning_of_mem (hkeyed : database.Keyed) (hrow : row ∈ database.sessions) :
    database.lockedCommissioning row.organizationId row.id = .ok row := by
  refine orReject_eq_ok.mpr (find?_eq_some_of_unique hrow (by simp) ?_)
  intro other hother htest
  rw [Bool.and_eq_true, decide_eq_true_eq] at htest
  exact row_eq_of_key hkeyed.sessions hother hrow htest.1

theorem activationByKey_of_mem (hkeyed : database.Keyed) (hmem : attempt ∈ database.activations) :
    database.activationByKey attempt.organizationId attempt.sessionId
      attempt.idempotencyKey = some attempt := by
  refine find?_eq_some_of_unique hmem (by simp) ?_
  intro other hother htest
  simp only [Bool.and_eq_true, decide_eq_true_eq] at htest
  refine row_eq_of_key hkeyed.activationKeys hother hmem ?_
  simp [htest.1.1, htest.1.2, htest.2]

theorem prepareActivation_retried (hcons : before.database.Consistent)
    (hrow : row ∈ before.database.sessions) (hmem : attempt ∈ before.database.activations)
    (hsess : attempt.sessionId = row.id) (hunfin : attempt.unfinished = true)
    (hretriable : before.Retriable settings row attempt) (attemptId : String) :
    before.database.prepareActivation settings before.now row.organizationId row.id
      row.version attempt.idempotencyKey attemptId =
      .ok (before.database.setSession (row.setLifecycle .pendingActivation), attempt, false) := by
  have hkeyed := hcons.keyed
  obtain ⟨_, _, hnormal, own, hown, tested, htested, outcome, hstands⟩ :=
    hcons.attempts attempt hmem
  have hsame : own = row :=
    row_eq_of_key hkeyed.sessions hown hrow (hstands.session.trans hsess)
  subst hsame
  obtain ⟨hver, ⟨preflight, hlat, hid, found, hfound, hfresh⟩, hplannable⟩ :=
    hretriable
  obtain ⟨_, hcmd, hevidence, _⟩ := hstands.current hver
  have hequal : preflight = tested := row_eq_of_key hkeyed.preflights
    (latestPreflight_eq_some hlat).1.1 htested (hid.trans hstands.preflightId.symm)
  subst hequal
  have hreported := hstands.reported
  rw [hfound, Option.some.injEq] at hreported
  subst hreported
  have hcur : before.database.currentPreflight settings before.now own = .ok (preflight, found) :=
    currentPreflight_eq_ok.mpr ⟨hlat, hfound, hstands.passed,
      hstands.preflightVersion.trans hver, hfresh, hevidence⟩
  obtain ⟨plan, hplan⟩ := exists_activationPlan preflight found hplannable
  have hidentity := (activationPlan_eq_ok hplan).2.1
  rw [hid, hcmd, Option.some.injEq] at hidentity
  have hkey := activationByKey_of_mem hkeyed hmem
  rw [hsess, ← hstands.organization] at hkey
  have hlocked := lockedCommissioning_of_mem hkeyed hrow
  have hversions : rejectIf (own.version ≠ own.version)
      (.versionConflict own.version own.version) = .ok () :=
    rejectIf_eq_ok.mpr (not_not_intro rfl)
  have hcommands : rejectIf (attempt.command ≠ plan.toActivationCommandIdentity)
      (.idempotencyConflict "Idempotency-Key was already used for a different activation plan") =
      .ok () := rejectIf_eq_ok.mpr (not_not_intro hidentity)
  unfold prepareActivation
  simp only [hnormal, hlocked, hversions, hcur, hplan, ok_bind, hkey, hcommands]
  rw [if_pos hunfin]
  rfl

theorem completeActivation_pending (now : Instant) (hkeyed : database.Keyed)
    (hrow : row ∈ database.sessions) (hmem : attempt ∈ database.activations)
    (hsess : row.id = attempt.sessionId) (horg : row.organizationId = attempt.organizationId)
    (tables : EquipmentTables) (state : AttemptState) :
    ({ database.setSession (row.setLifecycle .pendingActivation) with tables } :
      CommissioningDatabase).completeActivation now attempt.organizationId attempt.id
        state = .ok {
      sessions := replaceRow (·.id) (row.setLifecycle (activationLifecycle state)) database.sessions
      preflights := database.preflights
      activations := replaceRow (·.id)
        { attempt with state, completedAt := some now } database.activations
      completions := database.completions ++
        [⟨attempt.sessionId, attempt.id, state, attempt.sessionVersion⟩]
      tables } := by
  have hfound : orReject (.activationNotFound attempt.id) (database.activations.find? fun other =>
        other.id = attempt.id && other.organizationId = attempt.organizationId) =
      .ok attempt := by
    refine orReject_eq_ok.mpr (find?_eq_some_of_unique hmem (by simp) ?_)
    intro other hother htest
    rw [Bool.and_eq_true, decide_eq_true_eq] at htest
    exact row_eq_of_key hkeyed.activations hother hmem htest.1
  have hlocked : ({ database.setSession (row.setLifecycle .pendingActivation) with
      tables } : CommissioningDatabase).lockedCommissioning attempt.organizationId
        attempt.sessionId = .ok (row.setLifecycle .pendingActivation) := by
    rw [← horg, ← hsess]
    refine @lockedCommissioning_of_mem _ (row.setLifecycle .pendingActivation)
      ⟨?_, hkeyed.preflights, hkeyed.activations, hkeyed.activationKeys⟩ ?_
    · exact (keys_replaceRow CommissioningSession.id _ _).symm ▸ hkeyed.sessions
    · exact mem_replaceRow.mpr (.inl ⟨rfl, row, hrow, rfl⟩)
  have hsessions : replaceRow CommissioningSession.id (row.setLifecycle (activationLifecycle state))
      (replaceRow CommissioningSession.id (row.setLifecycle .pendingActivation) database.sessions) =
      replaceRow CommissioningSession.id
        (row.setLifecycle (activationLifecycle state)) database.sessions := by
    apply replaceRow_replaceRow
    rfl
  unfold completeActivation
  refine Eq.trans (congrArg (· >>= _) hfound) ?_
  dsimp only
  rw [ok_bind, hlocked, ok_bind]
  refine congrArg Except.ok ?_
  rw [CommissioningDatabase.mk.injEq]
  exact ⟨hsessions, rfl, rfl, rfl, rfl⟩

theorem persistBinding_equipment {tables bound : EquipmentTables} {tid : String}
    (hpers : tables.persistBinding attempt tid = .ok bound) :
    bound.equipment = tables.equipment := by
  unfold EquipmentTables.persistBinding at hpers
  split at hpers
  next =>
    cases hpers
    rfl
  next =>
    unfold EquipmentTables.replaceActive at hpers
    split at hpers
    next => cases hpers
    next =>
      split_ifs at hpers <;> cases hpers <;> rfl

theorem persistBinding_fits {tables bound : EquipmentTables}
    {profile : SupportedDeviceProfile} {intent : CommissioningIntent}
    (htargets : attempt.plan.Targets profile intent)
    (hfits : ∀ binding ∈ tables.activeBinding attempt.organizationId
      intent.targetEquipmentKey, profile.controlsTemperature = true →
        binding.matchesReplay profile intent = true)
    (hpers : tables.persistBinding attempt attempt.plan.telemetryEquipmentId = .ok bound) :
    ∀ binding ∈ bound.activeBinding attempt.organizationId
      intent.targetEquipmentKey, profile.controlsTemperature = true →
        binding.matchesReplay profile intent = true := by
  unfold EquipmentTables.persistBinding at hpers
  cases hkind : attempt.plan.bindingKind with
  | commissioningTarget =>
    rw [hkind] at hpers
    cases hpers
    exact hfits
  | refrigerationController =>
    have hfam : profile.deviceFamily = .embraco := by
      by_contra hother
      rw [htargets.bindingKind, if_neg hother] at hkind
      cases hkind
    rw [hkind] at hpers
    dsimp only [EquipmentTables.replaceActive] at hpers
    split at hpers
    next => cases hpers
    next equipment _ =>
      split_ifs at hpers
      · cases hpers
        exact hfits
      · cases hpers
        intro binding hbinding _
        unfold EquipmentTables.activeBinding at hbinding
        dsimp only at hbinding
        rw [List.find?_append, htargets.targetEquipmentKey, List.find?_eq_none.mpr,
          Option.none_or] at hbinding
        · rw [List.find?_cons_of_pos (by simp), Option.mem_some_iff] at hbinding
          subst hbinding
          simp [ControllerBinding.matchesReplay, hfam, htargets.nodeId,
            htargets.unitId, htargets.profileVersion, htargets.telemetryEquipmentId]
        · intro released hrel
          obtain ⟨old, _, rfl⟩ := List.mem_map.mp hrel
          split_ifs with hsame
          · simp
          · simp only [Bool.and_eq_true, decide_eq_true_eq, not_and]
            exact fun hboth => absurd hboth hsame

def working (database : CommissioningDatabase) (now : Instant) (run : ServiceRun) :
    CommissioningSystem :=
  ⟨database, now, [(0, run)]⟩

theorem step_persistBinding {telemetryIdentity : String} :
    (working database now (.activation attempt (.verified telemetryIdentity))).step
      settings (.persistBinding 0) =
      some (CommissioningSystem.stepBinding
        (working database now (.activation attempt (.verified telemetryIdentity))) 0
        attempt telemetryIdentity) := rfl

theorem exists_settled_attempt (hcons : before.database.Consistent)
    (hquiescent : before.Quiescent) (hrow : row ∈ before.database.sessions)
    (hmem : attempt ∈ before.database.activations)
    (hsess : attempt.sessionId = row.id) (hunfin : attempt.unfinished = true)
    (hretriable : before.Retriable settings row attempt) :
    ∃ (state : AttemptState) (tables : EquipmentTables) (after : CommissioningSystem),
      (state = .active ∨ state = .rolledBack) ∧
      Reaches (fun system action => system.step settings action)
        (OwnRequest · row.id) before after ∧
      after = ⟨{
        sessions := replaceRow (·.id)
          (row.setLifecycle (activationLifecycle state)) before.database.sessions
        preflights := before.database.preflights
        activations := replaceRow (·.id)
          { attempt with state, completedAt := some before.now }
          before.database.activations
        completions := before.database.completions ++
          [⟨attempt.sessionId, attempt.id, state, attempt.sessionVersion⟩]
        tables }, before.now, []⟩ ∧
      tables.equipment = before.database.tables.equipment ∧
      ∀ profile ∈ supportedProfile row.profileId, ∀ intent ∈ row.intent,
        (∀ binding ∈ before.database.tables.activeBinding row.organizationId
          intent.targetEquipmentKey, profile.controlsTemperature = true →
            binding.matchesReplay profile intent = true) →
        ∀ binding ∈ tables.activeBinding row.organizationId
          intent.targetEquipmentKey, profile.controlsTemperature = true →
            binding.matchesReplay profile intent = true := by
  obtain ⟨database, now, runs⟩ := before
  change runs = [] at hquiescent
  subst hquiescent
  have hkeyed := hcons.keyed
  obtain ⟨_, _, _, own, hown, _, _, _, hstands⟩ := hcons.attempts attempt hmem
  have hsame : own = row :=
    row_eq_of_key hkeyed.sessions hown hrow (hstands.session.trans hsess)
  subst hsame
  have hprep := prepareActivation_retried hcons hrow hmem hsess hunfin hretriable ""
  have hcomp := completeActivation_pending now hkeyed hrow hmem hsess.symm hstands.organization
  let pending := database.setSession (own.setLifecycle .pendingActivation)
  let tid := attempt.plan.telemetryEquipmentId
  have hunrequested : ∀ requested ∈ (none : Option String), requested = own.id :=
    fun _ hnone => absurd hnone (Option.not_mem_none _)
  -- The request is accepted and the device agent answers.
  have hverd : Reaches (fun system action =>
      CommissioningSystem.step system settings action) (OwnRequest · own.id)
      ⟨database, now, []⟩
      (working pending now (.activation attempt (.verified tid))) := by
    have hactivate : CommissioningSystem.step ⟨database, now, []⟩ settings
        (.activate 0 own.organizationId own.id own.version attempt.idempotencyKey
          "") = some (working pending now (.activation attempt .executing)) := by
      dsimp only [CommissioningSystem.step, begin, runOf]
      rw [hprep]
      rfl
    refine .tail (.single ?_ hactivate) ?_ (show CommissioningSystem.step _ settings
        (.answerActivation 0 (.active tid true)) = _ from rfl)
    · refine ⟨?_, trivial⟩
      rintro _ ⟨⟩
      rfl
    · refine ⟨hunrequested, ?_⟩
      rintro _ _ ⟨⟩
      rfl
  have hpend : ∀ {result : Except ControllerBindingError EquipmentTables},
      database.tables.persistBinding attempt tid = result →
      pending.tables.persistBinding attempt tid = result := fun hpers => hpers
  cases hpers : database.tables.persistBinding attempt tid with
  | ok tables =>
    have hbind : CommissioningSystem.step
        (working pending now (.activation attempt (.verified tid))) settings
        (.persistBinding 0) =
        some (working { pending with tables } now (.activation attempt .bound)) := by
      rw [step_persistBinding, stepBinding, working, hpend hpers]
      rfl
    have hfinish : CommissioningSystem.step
        (working { pending with tables } now (.activation attempt .bound)) settings
        (.finishActivation 0) = some _ :=
      congrArg (CommissioningSystem.finish _ 0) (hcomp tables .active)
    have hbound := hverd.tail
      (show OwnRequest _ own.id (.persistBinding 0) from ⟨hunrequested, trivial⟩) hbind
    refine ⟨.active, tables, _, .inl rfl, hbound.tail
      (show OwnRequest _ own.id (.finishActivation 0) from ⟨hunrequested, trivial⟩)
      hfinish, rfl, persistBinding_equipment hpers, ?_⟩
    intro profile hprofile intent hintent hbefore
    obtain ⟨found, hfound, goal, hgoal, htargets⟩ :=
      (hstands.current hretriable.1).2.2.2
    rw [Option.mem_def.mp hprofile, Option.mem_some_iff] at hfound
    rw [Option.mem_def.mp hintent, Option.mem_some_iff] at hgoal
    subst hfound hgoal
    rw [hstands.organization] at hbefore ⊢
    exact persistBinding_fits htargets hbefore hpers
  | error error =>
    have hbind : CommissioningSystem.step
        (working pending now (.activation attempt (.verified tid))) settings
        (.persistBinding 0) =
        some (working pending now (.activation attempt .rollingBack)) := by
      rw [step_persistBinding, stepBinding, working, hpend hpers]
      rfl
    have hfinish : CommissioningSystem.step
        (working pending now (.activation attempt .rollingBack)) settings
        (.answerRollback 0 true) = some _ :=
      congrArg (CommissioningSystem.finish _ 0) (hcomp database.tables .rolledBack)
    have hrefused := hverd.tail
      (show OwnRequest _ own.id (.persistBinding 0) from ⟨hunrequested, trivial⟩) hbind
    exact ⟨.rolledBack, database.tables, _, .inr rfl, hrefused.tail
      (show OwnRequest _ own.id (.answerRollback 0 true) from ⟨hunrequested, rfl⟩)
      hfinish, rfl, rfl, fun _ _ _ _ hbefore => hbefore⟩

theorem CommissioningSystem.Retriable.of_settled {tables : EquipmentTables}
    {other : ActivationAttempt} {state : AttemptState} {activations : List ActivationAttempt}
    {completions : List ActivationCompletion}
    (hequipment : tables.equipment = database.tables.equipment)
    (hfits : ∀ profile ∈ supportedProfile row.profileId, ∀ intent ∈ row.intent,
      (∀ binding ∈ database.tables.activeBinding row.organizationId
        intent.targetEquipmentKey, profile.controlsTemperature = true →
          binding.matchesReplay profile intent = true) →
      ∀ binding ∈ tables.activeBinding row.organizationId
        intent.targetEquipmentKey, profile.controlsTemperature = true →
          binding.matchesReplay profile intent = true)
    (hretriable : Retriable ⟨database, now, []⟩ settings row other) :
    Retriable ⟨{
      sessions := replaceRow (·.id) (row.setLifecycle (activationLifecycle state)) database.sessions
      preflights := database.preflights
      activations
      completions
      tables }, now, []⟩ settings (row.setLifecycle (activationLifecycle state))
        other := by
  obtain ⟨hver, hlat, _, profile, hprofile, intent, hintent, hcur,
    hsupported, havail, hconflict, hbinding⟩ := hretriable
  refine ⟨hver, hlat, activatable_activationLifecycle state, profile, hprofile,
    intent, hintent, hcur, hsupported, ?_, ?_, hfits profile hprofile intent hintent hbinding⟩
  · unfold EquipmentTables.available at havail ⊢
    rwa [hequipment]
  · rintro ⟨active, hact, horg, hne, hothers⟩
    rcases mem_replaceRow.mp hact with ⟨rfl, _⟩ | ⟨hold, _⟩
    · exact hne rfl
    · exact hconflict ⟨active, hold, horg, hne, hothers⟩

theorem canSettle_of_recoverable (ids : List String)
    (hcons : before.database.Consistent) (hquiescent : before.Quiescent)
    (hrow : row ∈ before.database.sessions)
    (hids : ∀ attempt ∈ before.database.activations, attempt.sessionId = row.id →
      attempt.unfinished = true → attempt.id ∈ ids)
    (hrecoverable : before.Recoverable settings row) :
    before.CanSettle settings row.id := by
  induction ids generalizing before row with
  | nil =>
    refine ⟨before, .refl before, hquiescent, ?_⟩
    intro attempt hmem hsess
    by_contra hunfin
    exact absurd (hids attempt hmem hsess (by simpa using hunfin)) List.not_mem_nil
  | cons id rest ih =>
    by_cases hfound : ∃ attempt ∈ before.database.activations,
        attempt.sessionId = row.id ∧ attempt.unfinished = true ∧ attempt.id = id
    · obtain ⟨attempt, hmem, hsess, hunfin, rfl⟩ := hfound
      obtain ⟨state, tables, after, hstate, hreach, hafter, hequipment, hfits⟩ :=
        exists_settled_attempt hcons hquiescent hrow hmem hsess hunfin
          (hrecoverable attempt hmem hsess hunfin)
      have hconsistentAfter : after.database.Consistent :=
        hreach.invariant (P := fun system => system.database.Consistent)
          (fun _ _ _ hbefore _ hstep => hbefore.step hstep) hcons
      obtain ⟨database, now, runs⟩ := before
      change runs = [] at hquiescent
      subst hquiescent hafter
      have holder : ∀ other ∈ replaceRow ActivationAttempt.id
          { attempt with state, completedAt := some now } database.activations,
          other.unfinished = true →
          other ∈ database.activations ∧ other.id ≠ attempt.id := by
        intro other hother hopen
        rcases mem_replaceRow.mp hother with ⟨rfl, _⟩ | hold
        · rcases hstate with rfl | rfl <;> cases hopen
        · exact hold
      obtain ⟨last, hlast, hidle, hsettled⟩ := @ih _
        (row.setLifecycle (activationLifecycle state)) hconsistentAfter rfl
        (mem_replaceRow.mpr (.inl ⟨rfl, row, hrow, rfl⟩)) (by
          intro other hother hsame hopen
          obtain ⟨hold, hne⟩ := holder other hother hopen
          exact List.mem_of_ne_of_mem hne (hids other hold hsame hopen)) (by
          intro other hother hsame hopen
          exact .of_settled hequipment hfits
            (hrecoverable other (holder other hother hopen).1 hsame hopen))
      exact ⟨last, hreach.trans hlast, hidle, hsettled⟩
    · refine ih hcons hquiescent hrow ?_ hrecoverable
      intro attempt hmem hsess hunfin
      refine List.mem_of_ne_of_mem ?_ (hids attempt hmem hsess hunfin)
      exact fun hid => hfound ⟨attempt, hmem, hsess, hunfin, hid⟩

theorem recoverable_of_canSettle (hcons : before.database.Consistent)
    (hquiescent : before.Quiescent) (hrow : row ∈ before.database.sessions)
    (hsettle : before.CanSettle settings row.id) :
    before.Recoverable settings row := by
  intro attempt hmem hsess hunfin
  rcases retriable_or_obstacle hcons hquiescent hrow hmem hsess with
    hretriable | hobstacle
  · exact hretriable
  · obtain ⟨after, hreach, _, hsettled⟩ := hsettle
    have hstuck : before.Stuck settings attempt := by
      refine ⟨hcons, hmem, hunfin, ?_, hobstacle⟩
      intro entry hent
      rw [hquiescent] at hent
      cases hent
    rw [← hsess] at hreach hsettled
    have hlast := hstuck.of_reaches hreach
    have hfinished := hsettled attempt hlast.mem rfl
    rw [hunfin] at hfinished
    cases hfinished

end Recovery

end Steps

/-- In every state a run reaches in which no request is in progress, requests on a
session bring its attempts to an end exactly when every unfinished one can be
prepared again. -/
theorem session_canSettle_iff {settings : CommissioningSettings}
    {tables : EquipmentTables} {start : Instant} {system : CommissioningSystem}
    (hreach : system.Reachable settings (fun _ _ => True) tables start)
    (hquiescent : system.Quiescent) {row : CommissioningSession}
    (hrow : row ∈ system.database.sessions) :
    system.CanSettle settings row.id ↔ system.Recoverable settings row := by
  have hcons := consistent_of_reachable hreach
  constructor
  · exact recoverable_of_canSettle hcons hquiescent hrow
  · refine canSettle_of_recoverable (system.database.activations.map (·.id))
      hcons hquiescent hrow ?_
    exact fun attempt hmem _ _ => List.mem_map_of_mem hmem

def interruptedSession : List WorkflowAction :=
  verifiedSession "S" 3 ++ [.activate 0 "org" "S" 1 "go" "S-go", .crash 0]

theorem session_canSettle_iff_interrupted :
    ∃ system ∈ runWorkflow interruptedSession, system.Quiescent ∧
      ∃ row ∈ system.database.sessions, row.lifecycle = .pendingActivation ∧
        (system.CanSettle usualSettings row.id ↔
          system.Recoverable usualSettings row) := by
  have hrun : ∃ system ∈ runWorkflow interruptedSession, system.Quiescent ∧
      ∃ row ∈ system.database.sessions, row.lifecycle = .pendingActivation := by
    decide +kernel
  obtain ⟨system, hsystem, hquiescent, row, hrow, hpend⟩ := hrun
  exact ⟨system, hsystem, hquiescent, row, hrow, hpend,
    session_canSettle_iff (.of_runFrom (fun _ _ _ => trivial) hsystem) hquiescent hrow⟩

/-- Five minutes after the worker died the preflight is too old for the same
request, and the attempt is in the way of every other one. -/
theorem session_deadEnd :
    ¬ ∀ system : CommissioningSystem,
      system.Reachable usualSettings (fun _ _ => True) fridgeTables 0 →
      system.Quiescent → ∀ row ∈ system.database.sessions,
      system.CanSettle usualSettings row.id := by
  intro hclaim
  have hrun : ∃ system ∈ runWorkflow (interruptedSession ++ [.elapse 300000001]),
      system.Quiescent ∧ ∃ row ∈ system.database.sessions,
        row.lifecycle = .pendingActivation ∧
        ∃ attempt ∈ system.database.activations, attempt.sessionId = row.id ∧
          attempt.unfinished = true ∧
          ∃ preflight ∈ system.database.latestPreflight row.organizationId row.id,
            ∀ outcome ∈ preflight.outcome,
              outcome.completedAt + usualSettings.freshness < system.now := by
    decide +kernel
  obtain ⟨system, hsystem, hquiescent, row, hrow, _, attempt, hmem, hsess,
    hunfin, preflight, hlat, hstale⟩ := hrun
  have hreach : system.Reachable usualSettings (fun _ _ => True) fridgeTables 0 :=
    .of_runFrom (fun _ _ _ => trivial) hsystem
  obtain ⟨_, ⟨found, hfound, _, outcome, hout, hfresh⟩, _⟩ :=
    recoverable_of_canSettle (consistent_of_reachable hreach) hquiescent hrow
      (hclaim system hreach hquiescent row hrow) attempt hmem hsess hunfin
  rw [Option.mem_def.mp hlat, Option.mem_some_iff] at hfound
  subst hfound
  exact absurd hfresh (not_le.mpr (hstale outcome hout))

end Nexolab
