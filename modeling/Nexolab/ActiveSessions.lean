import Nexolab.CommissioningInvariant

/-!
# Active commissioning sessions

The lifecycle of a session is written by its preflight attempts and by its
activation attempts, each when it is completed.  A session is active exactly when
the attempt completed last is active for its version, as long as no attempt of an
active session is completed or prepared again behind its back.
-/

namespace Nexolab

namespace CommissioningDatabase

variable (database : CommissioningDatabase)

def completedLast (sessionId : String) : Option String :=
  (database.completions.filter fun completion =>
    completion.sessionId = sessionId).getLast?.map ActivationCompletion.attemptId

def Activated (row : CommissioningSession) : Prop :=
  ∃ attempt ∈ database.activations,
    database.completedLast row.id = some attempt.id ∧ attempt.state = .active ∧
      attempt.sessionVersion = row.version

/-- A session is active if and only if its latest attempt says so. -/
def LifecycleAgrees : Prop :=
  ∀ row ∈ database.sessions, row.lifecycle = .active ↔ database.Activated row

end CommissioningDatabase

namespace CommissioningSystem

variable (system : CommissioningSystem)

/-- The action completes a preflight, or an activation attempt other than the one
the session has its state from. -/
def CompletesAnother (action : WorkflowAction) (row : CommissioningSession) : Prop :=
  system.reports action ≠ none ∨ ∃ completed ∈ system.completes action,
    system.database.completedLast row.id ≠ some completed.1.id

instance (action : WorkflowAction) (row : CommissioningSession) :
    Decidable (system.CompletesAnother action row) :=
  inferInstanceAs (Decidable (_ ∨ _))

/-- The completion of another attempt leaves an active session active. -/
def KeepsActive (action : WorkflowAction) (after : CommissioningSystem) : Prop :=
  ∀ row ∈ system.database.sessions, row.lifecycle = .active → system.CompletesAnother action row →
    ∃ later ∈ after.database.sessions, later.id = row.id ∧ later.lifecycle = .active

instance (action : WorkflowAction) (after : CommissioningSystem) :
    Decidable (system.KeepsActive action after) :=
  inferInstanceAs (Decidable (∀ row ∈ system.database.sessions, _))

def PreflightInTime (action : WorkflowAction) : Prop :=
  ∀ report ∈ system.reports action, report.2 = true →
    ∀ attempt ∈ system.database.preflights, attempt.id = report.1.id → attempt.outcome = none →
    ∀ row ∈ system.database.sessions, row.id = attempt.sessionId →
      row.organizationId = attempt.organizationId →
      row.version = attempt.sessionVersion → row.lifecycle ≠ .active

/-- An attempt becomes active for the version its session has, and no attempt is
completed otherwise while another one holds its session active. -/
def ActivationInTime (action : WorkflowAction) : Prop :=
  ∀ completed ∈ system.completes action,
    ∀ attempt ∈ system.database.activations, attempt.id = completed.1.id →
    ∀ row ∈ system.database.sessions, row.id = attempt.sessionId →
      if completed.2 = .active then attempt.sessionVersion = row.version
      else row.lifecycle = .active → system.database.completedLast row.id = some attempt.id

/-- No unfinished attempt of an active session is prepared again. -/
def RetryInTime (action : WorkflowAction) : Prop :=
  ∀ attempt ∈ system.retries action, attempt.unfinished = true →
    ∀ row ∈ system.database.sessions, row.id = attempt.sessionId → row.lifecycle ≠ .active

def InTime (action : WorkflowAction) : Prop :=
  system.PreflightInTime action ∧ system.ActivationInTime action ∧ system.RetryInTime action

instance (action : WorkflowAction) : Decidable (system.InTime action) :=
  inferInstanceAs (Decidable ((∀ report ∈ system.reports action, _) ∧
    (∀ completed ∈ system.completes action, _) ∧
    ∀ attempt ∈ system.retries action, _))

end CommissioningSystem

/-! ## Steps -/

section Steps

open CommissioningDatabase CommissioningSystem

variable {settings : CommissioningSettings} {before after : CommissioningSystem}
  {action : WorkflowAction} {database : CommissioningDatabase}
  {row : CommissioningSession}

theorem completedLast_mem {sessionId attemptId : String}
    (hlast : database.completedLast sessionId = some attemptId) :
    ∃ completion ∈ database.completions, completion.sessionId = sessionId ∧
      completion.attemptId = attemptId := by
  unfold completedLast at hlast
  rw [Option.map_eq_some_iff] at hlast
  obtain ⟨completion, hlast, hatt⟩ := hlast
  have hmem := List.mem_of_getLast? hlast
  rw [List.mem_filter, decide_eq_true_eq] at hmem
  exact ⟨completion, hmem.1, hmem.2, hatt⟩

variable {attempt : ActivationAttempt} {next : CommissioningSession}
  {activations : List ActivationAttempt}

theorem CommissioningDatabase.Consistent.completedLast_session
    (hcons : database.Consistent) {sessionId : String} (hmem : attempt ∈ database.activations)
    (hlast : database.completedLast sessionId = some attempt.id) :
    attempt.sessionId = sessionId := by
  obtain ⟨completion, hcompletion, hsess, hid⟩ := completedLast_mem hlast
  obtain ⟨other, hother, hotherId, hotherSession⟩ :=
    hcons.completions completion hcompletion
  have hsame : other = attempt :=
    row_eq_of_key hcons.keyed.activations hother hmem (hotherId.trans hid)
  rw [← hsame, hotherSession, hsess]

theorem CommissioningDatabase.Consistent.activated_attempt
    (hcons : database.Consistent) {sessionId attemptId : String}
    (hlast : database.completedLast sessionId = some attemptId) :
    ∃ attempt ∈ database.activations, attempt.id = attemptId ∧ attempt.sessionId = sessionId ∧
      ∃ row ∈ database.sessions, row.id = sessionId ∧ row.organizationId = attempt.organizationId ∧
        attempt.sessionVersion ≤ row.version := by
  obtain ⟨completion, hcompletion, hsess, hid⟩ := completedLast_mem hlast
  obtain ⟨attempt, hmem, hattemptId, hattemptSession⟩ :=
    hcons.completions completion hcompletion
  obtain ⟨_, _, _, row, hrow, _, _, _, hstands⟩ := hcons.attempts attempt hmem
  have hatt : attempt.sessionId = sessionId := hattemptSession.trans hsess
  exact ⟨attempt, hmem, hattemptId.trans hid, hatt, row, hrow,
    hstands.session.trans hatt, hstands.organization, hstands.version⟩

variable {sessions : List CommissioningSession}

theorem lifecycleAgrees_replaceRow {activated : CommissioningSession → Prop}
    (hagrees : ∀ row ∈ sessions, row.lifecycle = .active ↔ activated row)
    (hnext : next.lifecycle = .active ↔ activated next) :
    ∀ row ∈ replaceRow (·.id) next sessions, row.lifecycle = .active ↔ activated row := by
  intro row hrow
  rcases mem_replaceRow.mp hrow with ⟨rfl, _⟩ | ⟨hold, _⟩
  · exact hnext
  · exact hagrees row hold

theorem activated_congr {other : CommissioningDatabase} (hid : next.id = row.id)
    (hver : next.version = row.version)
    (hlast : other.completedLast row.id = database.completedLast row.id)
    (hatts : ∀ attempt : ActivationAttempt, database.completedLast row.id = some attempt.id →
      (attempt ∈ other.activations ↔ attempt ∈ database.activations)) :
    other.Activated next ↔ database.Activated row := by
  unfold CommissioningDatabase.Activated
  rw [hid, hver, hlast]
  constructor
  · rintro ⟨attempt, hmem, hcompleted, hact⟩
    exact ⟨attempt, (hatts attempt hcompleted).mp hmem, hcompleted, hact⟩
  · rintro ⟨attempt, hmem, hcompleted, hact⟩
    exact ⟨attempt, (hatts attempt hcompleted).mpr hmem, hcompleted, hact⟩

theorem not_activated_of_described (hcons : database.Consistent)
    (hversions : ∀ row ∈ database.sessions, row.id = next.id →
      row.version < next.version) : ¬ database.Activated next := by
  rintro ⟨attempt, hmem, hlast, _, hver⟩
  obtain ⟨other, hother, hid, _, row, hrow, hrowId, _, hle⟩ :=
    hcons.activated_attempt hlast
  have hsame : other = attempt :=
    row_eq_of_key hcons.keyed.activations hother hmem hid
  have hlt := hversions row hrow hrowId
  rw [hsame, hver] at hle
  omega

theorem CommissioningDatabase.LifecycleAgrees.created (hcons : database.Consistent)
    (hagrees : database.LifecycleAgrees) (hfresh : ∀ other ∈ database.sessions, other.id ≠ row.id)
    (hdescribed : row.lifecycle.described = true) :
    ({ database with sessions := database.sessions ++ [row] } :
      CommissioningDatabase).LifecycleAgrees := by
  intro other hother
  rcases List.mem_append.mp hother with hold | hnew
  · exact hagrees other hold
  · rw [List.mem_singleton] at hnew
    subst hnew
    have hnone : ¬ database.Activated other :=
      not_activated_of_described hcons fun row hrow hid => absurd hid (hfresh row hrow)
    refine iff_of_false ?_ hnone
    intro hact
    rw [hact] at hdescribed
    cases hdescribed

theorem CommissioningDatabase.LifecycleAgrees.edited {record next : CommissioningSession}
    (hcons : database.Consistent) (hagrees : database.LifecycleAgrees)
    (hmem : record ∈ database.sessions) (hedited : Edited record next) :
    (database.setSession next).LifecycleAgrees := by
  have hnone : ¬ database.Activated next := by
    refine not_activated_of_described hcons ?_
    intro row hrow hid
    rw [row_eq_of_key hcons.keyed.sessions hrow hmem (hid.trans hedited.id), hedited.version]
    exact Nat.lt_succ_self _
  refine lifecycleAgrees_replaceRow hagrees (iff_of_false ?_ hnone)
  intro hact
  rcases hedited.lifecycle with hdescribed | hcanc
  · rw [hact] at hdescribed
    cases hdescribed
  · rw [hact] at hcanc
    cases hcanc

theorem active_preflightLifecycle {lifecycle : CommissioningLifecycle}
    {passed : Bool} (hpassed : passed = true → lifecycle ≠ .active) :
    preflightLifecycle lifecycle passed = .active ↔ lifecycle = .active := by
  unfold preflightLifecycle
  cases passed with
  | true => simpa using hpassed rfl
  | false =>
    rw [if_neg Bool.false_ne_true]
    split_ifs with hlife
    · refine iff_of_false (by decide) ?_
      rintro rfl
      simp at hlife
    · rfl

theorem CommissioningDatabase.LifecycleAgrees.reported {attempt : PreflightAttempt}
    {passed : Bool} (hagrees : database.LifecycleAgrees)
    (hreported : PreflightReported database attempt passed sessions)
    (hintime : passed = true → ∀ row ∈ database.sessions,
      row.id = attempt.sessionId → row.organizationId = attempt.organizationId →
      row.version = attempt.sessionVersion → row.lifecycle ≠ .active) :
    ({ database with sessions } : CommissioningDatabase).LifecycleAgrees := by
  cases hreported with
  | outdated => exact hagrees
  | current record hmem hid horg hver =>
    refine lifecycleAgrees_replaceRow hagrees ?_
    rw [CommissioningSession.setLifecycle_lifecycle, active_preflightLifecycle
      fun hpassed => hintime hpassed record hmem hid horg hver]
    exact hagrees record hmem

theorem not_active_of_not_competing (hcons : database.Consistent)
    (hagrees : database.LifecycleAgrees) (hrow : row ∈ database.sessions)
    (hcompeting : ¬ database.competing row.organizationId row.id) :
    row.lifecycle ≠ .active := by
  intro hact
  obtain ⟨attempt, hmem, hlast, hstate, _⟩ := (hagrees row hrow).mp hact
  have hsess := hcons.completedLast_session hmem hlast
  obtain ⟨_, _, _, other, hother, _, _, _, hstands⟩ := hcons.attempts attempt hmem
  have hsame : other = row :=
    row_eq_of_key hcons.keyed.sessions hother hrow (hstands.session.trans hsess)
  refine hcompeting ⟨attempt, hmem, ?_, hsess, by simp [hstate]⟩
  rw [← hstands.organization, hsame]

theorem lifecycleAgrees_prepared {preflight : PreflightAttempt}
    (hcons : database.Consistent) (hagrees : database.LifecycleAgrees)
    (hrow : row ∈ database.sessions)
    (hprepared : ActivationPrepared database row preflight attempt activations) :
    ({ database.setSession (row.setLifecycle .pendingActivation) with activations } :
      CommissioningDatabase).LifecycleAgrees ↔ row.lifecycle ≠ .active := by
  have hsame : ∀ (next other : CommissioningSession), next.id = other.id →
      next.version = other.version →
      (({ database.setSession (row.setLifecycle .pendingActivation) with
        activations } : CommissioningDatabase).Activated next ↔
        database.Activated other) := by
    intro next other hid hver
    refine activated_congr hid hver rfl ?_
    intro found hlast
    cases hprepared with
    | retried => rfl
    | added hfresh =>
      refine ⟨fun hmem => ?_, List.mem_append_left _⟩
      rcases List.mem_append.mp hmem with hold | hnew
      · exact hold
      · rw [List.mem_singleton] at hnew
        obtain ⟨old, hold, hid, _⟩ := hcons.activated_attempt hlast
        exact absurd (hid.trans (congrArg _ hnew)) (hfresh old hold)
  have hpend := hsame (row.setLifecycle .pendingActivation) row rfl rfl
  constructor
  · intro hafter hact
    have hnext := hafter (row.setLifecycle .pendingActivation)
      (mem_replaceRow.mpr (.inl ⟨rfl, row, hrow, rfl⟩))
    rw [hpend, ← hagrees row hrow] at hnext
    cases hnext.mpr hact
  · intro hinact
    refine lifecycleAgrees_replaceRow ?_ ?_
    · intro other hother
      rw [hsame other other rfl rfl]
      exact hagrees other hother
    · rw [hpend, ← hagrees row hrow]
      exact iff_of_false (by simp) hinact

theorem completedLast_append {before after : CommissioningDatabase}
    {completion : ActivationCompletion}
    (hcompletions : after.completions = before.completions ++ [completion]) (sessionId : String) :
    after.completedLast sessionId =
      if completion.sessionId = sessionId then some completion.attemptId
      else before.completedLast sessionId := by
  unfold completedLast
  rw [hcompletions, List.filter_append]
  split_ifs with hsess
  · simp [hsess]
  · simp [hsess]

theorem lifecycleAgrees_completed {after : CommissioningDatabase} {record : CommissioningSession}
    {state : AttemptState} {now : Option Instant}
    (hcons : database.Consistent) (hagrees : database.LifecycleAgrees)
    (hatt : attempt ∈ database.activations)
    (hrec : record ∈ database.sessions) (hsess : record.id = attempt.sessionId)
    (hsessions : after.sessions = replaceRow (·.id)
      (record.setLifecycle (activationLifecycle state)) database.sessions)
    (hactns : after.activations = replaceRow (·.id)
      { attempt with state, completedAt := now } database.activations)
    (hcompletions : after.completions = database.completions ++
      [⟨attempt.sessionId, attempt.id, state, attempt.sessionVersion⟩]) :
    after.LifecycleAgrees ↔ (state = .active → attempt.sessionVersion = record.version) := by
  have hlast := completedLast_append hcompletions
  have hnew : after.Activated (record.setLifecycle (activationLifecycle state)) ↔
      state = .active ∧ attempt.sessionVersion = record.version := by
    unfold CommissioningDatabase.Activated
    rw [hlast, hactns, CommissioningSession.setLifecycle_id, hsess,
      if_pos rfl, CommissioningSession.setLifecycle_version]
    constructor
    · rintro ⟨other, hother, hid, hstate, hver⟩
      rcases mem_replaceRow.mp hother with ⟨rfl, _⟩ | ⟨_, hne⟩
      · exact ⟨hstate, hver⟩
      · exact absurd (Option.some.inj hid).symm hne
    · rintro ⟨hstate, hver⟩
      exact ⟨_, mem_replaceRow.mpr (.inl ⟨rfl, attempt, hatt, rfl⟩), rfl, hstate, hver⟩
  have hother : ∀ other ∈ database.sessions, other.id ≠ record.id →
      (after.Activated other ↔ database.Activated other) := by
    intro other _ hne
    refine activated_congr rfl rfl ?_ ?_
    · rw [hlast, if_neg]
      exact fun hequal => hne (hequal.symm.trans hsess.symm)
    · intro found hfound
      obtain ⟨old, hold, hid, holdSession, _⟩ := hcons.activated_attempt hfound
      have hdist : found.id ≠ attempt.id := by
        intro hequal
        have hsame : old = attempt :=
          row_eq_of_key hcons.keyed.activations hold hatt (hid.trans hequal)
        rw [hsame] at holdSession
        exact hne (holdSession.symm.trans hsess.symm)
      rw [hactns, mem_replaceRow]
      constructor
      · rintro (⟨rfl, _⟩ | ⟨hmem, _⟩)
        · exact absurd rfl hdist
        · exact hmem
      · exact fun hmem => .inr ⟨hmem, hdist⟩
  have hlife : activationLifecycle state = .active ↔ state = .active := by
    cases state <;> simp [activationLifecycle]
  constructor
  · intro hafter hstate
    have hnext := hafter (record.setLifecycle (activationLifecycle state)) (by
      rw [hsessions]
      exact mem_replaceRow.mpr (.inl ⟨rfl, record, hrec, rfl⟩))
    rw [hnew] at hnext
    exact (hnext.mp (hlife.mpr hstate)).2
  · intro hver row hrow
    rw [hsessions] at hrow
    rcases mem_replaceRow.mp hrow with ⟨rfl, _⟩ | ⟨hold, hne⟩
    · rw [hnew, CommissioningSession.setLifecycle_lifecycle, hlife]
      exact ⟨fun hstate => ⟨hstate, hver hstate⟩, And.left⟩
    · rw [hother row hold hne]
      exact hagrees row hold

/-! ## Condition -/

theorem keepsActive_of_kept
    (hkept : ∀ row ∈ before.database.sessions, row.lifecycle = .active →
      row ∈ after.database.sessions) : before.KeepsActive action after :=
  fun row hrow hact _ => ⟨row, hkept row hrow hact, rfl, hact⟩

theorem kept_of_replaceRow
    {record next : CommissioningSession} (hkeys : (sessions.map (·.id)).Nodup)
    (hrec : record ∈ sessions) (hid : next.id = record.id) (hinact : record.lifecycle ≠ .active) :
    ∀ row ∈ sessions, row.lifecycle = .active → row ∈ replaceRow (·.id) next sessions := by
  intro row hrow hact
  refine mem_replaceRow.mpr (.inr ⟨hrow, ?_⟩)
  intro hsame
  have hequal := row_eq_of_key hkeys hrow hrec (hsame.trans hid)
  rw [hequal] at hact
  exact hinact hact

theorem CommissioningSystem.Plain.inTime (hplain : before.Plain action) : before.InTime action := by
  unfold InTime PreflightInTime ActivationInTime RetryInTime
  rw [hplain.reports, hplain.completes, hplain.retries]
  simp

theorem lifecycle_of_replaceRow {record next later : CommissioningSession}
    (hlater : later ∈ replaceRow (·.id) next sessions) (hid : later.id = record.id)
    (hnext : next.id = record.id) : later = next := by
  rcases mem_replaceRow.mp hlater with ⟨rfl, _⟩ | ⟨_, hne⟩
  · rfl
  · exact absurd (hid.trans hnext.symm) hne

theorem inTime_preflightCompleted {run attempt : PreflightAttempt} {passed : Bool}
    {completed : PreflightAttempt} {runs : List (ℕ × ServiceRun)} (hkeyed : before.database.Keyed)
    (hagrees : before.database.LifecycleAgrees) (hcomps : before.completes action = none)
    (hretries : before.retries action = none)
    (hreports : before.reports action = some (run, passed))
    (hmem : attempt ∈ before.database.preflights) (hid : attempt.id = run.id)
    (hrunning : attempt.outcome = none)
    (hreported : PreflightReported before.database attempt passed sessions)
    (hafter : after = { before with
      database := { before.database.setPreflight completed with sessions }
      runs := runs }) :
    before.InTime action ↔ after.database.LifecycleAgrees ∧ before.KeepsActive action after := by
  have hintime : before.InTime action ↔ (passed = true →
      ∀ row ∈ before.database.sessions, row.id = attempt.sessionId →
        row.organizationId = attempt.organizationId →
        row.version = attempt.sessionVersion → row.lifecycle ≠ .active) := by
    unfold InTime PreflightInTime ActivationInTime RetryInTime
    rw [hreports, hcomps, hretries]
    simp only [Option.mem_def, Option.some.injEq, reduceCtorEq, false_implies,
      implies_true, and_true, forall_eq']
    constructor
    · intro hguard hpassed
      exact hguard hpassed attempt hmem hid hrunning
    · intro hguard hpassed other hother hotherId _
      have hsame : other = attempt :=
        row_eq_of_key hkeyed.preflights hother hmem (hotherId.trans hid.symm)
      rw [hsame]
      exact hguard hpassed
  rw [hintime]
  subst hafter
  constructor
  · intro hguard
    refine ⟨hagrees.reported hreported hguard, ?_⟩
    intro row hrow hact _
    cases hreported with
    | outdated => exact ⟨row, hrow, rfl, hact⟩
    | current record hrec hsess horg hver =>
      by_cases hsame : row.id = record.id
      · have hequal := row_eq_of_key hkeyed.sessions hrow hrec hsame
        subst hequal
        refine ⟨_, mem_replaceRow.mpr (.inl ⟨rfl, row, hrow, rfl⟩), rfl, ?_⟩
        exact (active_preflightLifecycle fun hpassed =>
          hguard hpassed row hrow hsess horg hver).mpr hact
      · exact ⟨row, mem_replaceRow.mpr (.inr ⟨hrow, hsame⟩), rfl, hact⟩
  · rintro ⟨_, hkeeps⟩ hpassed row hrow hsess horg hver hact
    have hanother : before.CompletesAnother action row := by
      left
      rw [hreports]
      exact Option.some_ne_none _
    obtain ⟨later, hlater, hlaterId, hlaterActive⟩ := hkeeps row hrow hact hanother
    cases hreported with
    | outdated houtdated => exact houtdated row hrow hsess horg hver
    | current record hrec hrecordSession _ _ =>
      rw [lifecycle_of_replaceRow hlater (hlaterId.trans (hsess.trans hrecordSession.symm)) rfl,
        CommissioningSession.setLifecycle_lifecycle, hpassed] at hlaterActive
      cases hlaterActive

theorem inTime_activationPrepared {preflight : PreflightAttempt}
    (hcons : before.database.Consistent) (hagrees : before.database.LifecycleAgrees)
    (hrow : row ∈ before.database.sessions) (hcomps : before.completes action = none)
    (hreports : before.reports action = none)
    (hretries : before.retries action =
      if attempt ∈ before.database.activations then some attempt else none)
    (hprepared : ActivationPrepared before.database row preflight attempt activations)
    (hafter : after.database =
      { before.database.setSession (row.setLifecycle .pendingActivation) with
        activations }) :
    before.InTime action ↔ after.database.LifecycleAgrees ∧ before.KeepsActive action after := by
  have hintime : before.InTime action ↔ row.lifecycle ≠ .active := by
    unfold InTime PreflightInTime ActivationInTime RetryInTime
    rw [hreports, hcomps, hretries]
    cases hprepared with
    | retried hmem hsess hunfin =>
      rw [if_pos hmem]
      simp only [Option.mem_def, Option.some.injEq, reduceCtorEq, false_implies,
        implies_true, true_and, forall_eq']
      constructor
      · exact fun hguard => hguard hunfin row hrow hsess.symm
      · intro hinact _ other hother hid
        rwa [row_eq_of_key hcons.keyed.sessions hother hrow (hid.trans hsess)]
    | added hfresh _ _ hcompeting =>
      rw [if_neg fun hold => hfresh attempt hold rfl]
      have hinact := not_active_of_not_competing hcons hagrees hrow hcompeting
      simpa using hinact
  have hagreesAfter := lifecycleAgrees_prepared hcons hagrees hrow hprepared
  rw [hintime, hafter, hagreesAfter]
  constructor
  · intro hinact
    refine ⟨hinact, keepsActive_of_kept ?_⟩
    rw [hafter]
    exact kept_of_replaceRow hcons.keyed.sessions hrow rfl hinact
  · exact And.left

theorem inTime_activationCompleted {run attempt : ActivationAttempt}
    {record : CommissioningSession} {state : AttemptState} {now : Option Instant}
    (hcons : before.database.Consistent) (hagrees : before.database.LifecycleAgrees)
    (hreports : before.reports action = none) (hretries : before.retries action = none)
    (hcomps : before.completes action = some (run, state))
    (hmem : attempt ∈ before.database.activations) (hid : attempt.id = run.id)
    (hrec : record ∈ before.database.sessions) (hsess : record.id = attempt.sessionId)
    (hsessions : after.database.sessions = replaceRow (·.id)
      (record.setLifecycle (activationLifecycle state)) before.database.sessions)
    (hactns : after.database.activations = replaceRow (·.id)
      { attempt with state, completedAt := now } before.database.activations)
    (hcompletions : after.database.completions = before.database.completions ++
      [⟨attempt.sessionId, attempt.id, state, attempt.sessionVersion⟩]) :
    before.InTime action ↔ after.database.LifecycleAgrees ∧ before.KeepsActive action after := by
  have hintime : before.InTime action ↔
      if state = .active then attempt.sessionVersion = record.version
      else record.lifecycle = .active →
        before.database.completedLast record.id = some attempt.id := by
    unfold InTime PreflightInTime ActivationInTime RetryInTime
    rw [hreports, hcomps, hretries]
    simp only [Option.mem_def, Option.some.injEq, reduceCtorEq, false_implies,
      implies_true, true_and, and_true, forall_eq']
    constructor
    · exact fun hguard => hguard attempt hmem hid record hrec hsess
    · intro hguard other hother hotherId row hrow hrowId
      have hsame : other = attempt := row_eq_of_key
        hcons.keyed.activations hother hmem (hotherId.trans hid.symm)
      subst hsame
      have hequal : row = record := row_eq_of_key
        hcons.keyed.sessions hrow hrec (hrowId.trans hsess.symm)
      rwa [hequal]
  have hkept : before.KeepsActive action after ↔ (state ≠ .active → record.lifecycle = .active →
        before.database.completedLast record.id = some attempt.id) := by
    constructor
    · intro hkeeps hstate hact
      by_contra hlast
      obtain ⟨later, hlater, hlaterId, hlaterActive⟩ := hkeeps record hrec hact
        (.inr ⟨(run, state), hcomps, by rwa [← hid]⟩)
      rw [hsessions] at hlater
      rw [lifecycle_of_replaceRow hlater hlaterId rfl] at hlaterActive
      cases state with
      | active => exact hstate rfl
      | _ => cases hlaterActive
    · intro hguard row hrow hact hanother
      rw [hsessions]
      by_cases hsame : row.id = record.id
      · have hequal := row_eq_of_key hcons.keyed.sessions hrow hrec hsame
        subst hequal
        refine ⟨_, mem_replaceRow.mpr (.inl ⟨rfl, row, hrow, rfl⟩), rfl, ?_⟩
        rcases hanother with hreport | ⟨completed, hcompleted, hlast⟩
        · exact absurd hreports hreport
        · rw [hcomps, Option.mem_some_iff] at hcompleted
          subst hcompleted
          by_contra hinact
          refine hlast ?_
          rw [← hid]
          refine hguard ?_ hact
          rintro rfl
          exact hinact rfl
      · exact ⟨row, mem_replaceRow.mpr (.inr ⟨hrow, hsame⟩), rfl, hact⟩
  have hagreesAfter := lifecycleAgrees_completed hcons hagrees hmem hrec
    hsess hsessions hactns hcompletions
  rw [hintime, hagreesAfter, hkept]
  split_ifs with hstate
  · simp [hstate]
  · simp [hstate]

theorem CommissioningSystem.WorkflowEffect.inTime_iff (hcons : before.database.Consistent)
    (hagrees : before.database.LifecycleAgrees)
    (heff : before.WorkflowEffect settings action after) :
    before.InTime action ↔ after.database.LifecycleAgrees ∧ before.KeepsActive action after := by
  cases heff with
  | idle tables now runs _ _ _ hcomps hreports hretries =>
    refine iff_of_true ⟨?_, ?_, ?_⟩
      ⟨hagrees, keepsActive_of_kept fun _ hrow _ => hrow⟩
    · intro report hreport _ attempt hmem hid hrunning
      have hcompleted := hreports report hreport attempt hmem hid
      rw [hrunning] at hcompleted
      cases hcompleted
    · intro completed hcompleted
      rw [hcomps] at hcompleted
      cases hcompleted
    · intro attempt hatt hunfin
      rw [hretries attempt hatt] at hunfin
      cases hunfin
  | created hplain row hfresh hdescribed =>
    refine iff_of_true hplain.inTime
      ⟨hagrees.created hcons hfresh hdescribed, keepsActive_of_kept ?_⟩
    exact fun other hother _ => List.mem_append_left _ hother
  | edited hplain record next _ hmem hedited =>
    refine iff_of_true hplain.inTime
      ⟨hagrees.edited hcons hmem hedited, keepsActive_of_kept ?_⟩
    exact kept_of_replaceRow hcons.keyed.sessions hmem hedited.id hedited.editable.2
  | preflightPrepared hplain worker row attempt database _ _ hprepared =>
    refine iff_of_true hplain.inTime ?_
    cases hprepared <;>
      exact ⟨hagrees, keepsActive_of_kept fun _ hrow _ => hrow⟩
  | preflightCompleted worker run attempt answer sessions hcomps hretries
      hreports hmem hid hrunning hreported =>
      exact inTime_preflightCompleted hcons.keyed hagrees hcomps hretries
        hreports hmem hid hrunning hreported rfl
  | activationPrepared worker row preflight outcome attempt activations _ hrow _ _ _
      hcomps hreports hretries hprepared =>
      exact inTime_activationPrepared hcons hagrees hrow hcomps hreports hretries hprepared rfl
  | activationCompleted worker run attempt record state hreports hretries hcomps
      hmem hid hrec hsess =>
      exact inTime_activationCompleted hcons hagrees hreports hretries
        hcomps hmem hid hrec hsess rfl rfl rfl

end Steps

theorem lifecycleAgrees_of_reachable {settings : CommissioningSettings}
    {tables : EquipmentTables} {start : Instant} {system : CommissioningSystem}
    (hreach : system.Reachable settings CommissioningSystem.InTime tables start) :
    system.database.LifecycleAgrees := by
  have hboth : system.database.Consistent ∧ system.database.LifecycleAgrees := by
    refine hreach.invariant (P := fun system =>
      system.database.Consistent ∧ system.database.LifecycleAgrees) ?_
      ⟨.empty tables, fun _ hmem => absurd hmem List.not_mem_nil⟩
    intro before action after hbefore hguard hstep
    have heff := CommissioningSystem.step_effect hbefore.1.keyed hstep
    exact ⟨hbefore.1.step hstep, ((heff.inTime_iff hbefore.1 hbefore.2).mp hguard).1⟩
  exact hboth.2

/-- In every run whose steps meet the condition a session is active exactly when
the attempt completed last is active for its version; and a step from there keeps
this, and leaves active sessions alone when it completes another attempt, exactly
when it meets the condition. -/
theorem activeSession_agrees {settings : CommissioningSettings}
    {tables : EquipmentTables} {start : Instant} {system : CommissioningSystem}
    (hreach : system.Reachable settings CommissioningSystem.InTime tables start) :
    system.database.LifecycleAgrees ∧
      ∀ action after, system.step settings action = some after →
        (system.InTime action ↔
          after.database.LifecycleAgrees ∧ system.KeepsActive action after) := by
  have hcons := consistent_of_reachable hreach
  have hagrees := lifecycleAgrees_of_reachable hreach
  refine ⟨hagrees, ?_⟩
  intro action after hstep
  exact (CommissioningSystem.step_effect hcons.keyed hstep).inTime_iff hcons hagrees

def activatedSession : List WorkflowAction :=
  verifiedSession "S" 3 ++ activateSession 0 "S" "go"

theorem activeSession_agrees_activated :
    ∃ system, runWorkflow activatedSession = some system ∧
      system.database.LifecycleAgrees ∧
      ∀ action after, system.step usualSettings action = some after →
        (system.InTime action ↔
          after.database.LifecycleAgrees ∧ system.KeepsActive action after) := by
  have hrun : (runWorkflow activatedSession).isSome = true := by decide +kernel
  obtain ⟨system, hsystem⟩ := Option.isSome_iff_exists.mp hrun
  have hmeet : StepsMeet (fun system action =>
      CommissioningSystem.step system usualSettings action)
      CommissioningSystem.InTime (.initial fridgeTables 0) activatedSession := by
    decide +kernel
  exact ⟨system, hsystem, activeSession_agrees (.of_stepsMeet hmeet hsystem)⟩

/-- The preflight is repeated while the session is activated, and passed after
it. -/
def recheckedSession : List WorkflowAction :=
  verifiedSession "S" 3 ++
    [.preflight 1 "org" "S" 1 "recheck" "S-recheck"] ++ activateSession 0 "S" "go"

/-- The late preflight makes the active session verified, and it can be
cancelled. -/
theorem activeSession_rechecked :
    ¬ ∀ system : CommissioningSystem,
      system.Reachable usualSettings (fun _ _ => True) fridgeTables 0 →
      system.database.LifecycleAgrees ∧
        ∀ action after, system.step usualSettings action = some after →
          system.KeepsActive action after := by
  intro hclaim
  have hrun : ∃ system ∈ runWorkflow recheckedSession,
      ∃ after ∈ system.step usualSettings (.answerPreflight 1 goodAnswer),
        (after.step usualSettings (.cancel "org" "S" 1)).isSome = true ∧
          ¬ system.KeepsActive (.answerPreflight 1 goodAnswer) after := by
    decide +kernel
  obtain ⟨system, hsystem, after, hafter, _, hlost⟩ := hrun
  have hreach : system.Reachable usualSettings (fun _ _ => True) fridgeTables 0 :=
    .of_runFrom (fun _ _ _ => trivial) hsystem
  exact hlost ((hclaim system hreach).2 _ after hafter)

end Nexolab
