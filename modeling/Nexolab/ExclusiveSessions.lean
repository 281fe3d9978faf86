import Nexolab.CommissioningInvariant

/-!
# Sessions which share equipment

An activation looks for another active session with the same equipment or Modbus
identity before the device agent is asked, and makes its session active after the
agent has answered.  Active sessions stay apart exactly as long as the check would
still pass at that moment.
-/

namespace Nexolab

namespace CommissioningDatabase

def Exclusive (database : CommissioningDatabase) : Prop :=
  ∀ first ∈ database.sessions, ∀ second ∈ database.sessions,
    first.lifecycle = .active → second.lifecycle = .active →
    first.organizationId = second.organizationId →
    first.SharesEquipment second ∨ first.SharesIdentity second → first = second

instance (database : CommissioningDatabase) : Decidable database.Exclusive :=
  inferInstanceAs (Decidable (∀ first ∈ database.sessions, ∀ second ∈ database.sessions, _))

end CommissioningDatabase

/-- When an attempt becomes active no other active session has the equipment or
the Modbus identity of its session. -/
def CommissioningSystem.Unclaimed (system : CommissioningSystem) (action : WorkflowAction) : Prop :=
  ∀ completed ∈ system.completes action, completed.2 = .active →
    ∀ attempt ∈ system.database.activations, attempt.id = completed.1.id →
    ∀ row ∈ system.database.sessions, row.id = attempt.sessionId → ¬ system.database.Conflicted row

instance (system : CommissioningSystem) (action : WorkflowAction) :
    Decidable (system.Unclaimed action) :=
  inferInstanceAs (Decidable (∀ completed ∈ system.completes action, _))

section Steps

open CommissioningDatabase CommissioningSystem

variable {settings : CommissioningSettings} {before after : CommissioningSystem}
  {action : WorkflowAction} {database next : CommissioningDatabase}
  {record : CommissioningSession}

theorem CommissioningDatabase.Exclusive.mono (hexcl : database.Exclusive)
    (hact : ∀ row ∈ next.sessions, row.lifecycle = .active →
      row ∈ database.sessions) : next.Exclusive :=
  fun first hfirst second hsecond hfirstActive hsecondActive =>
    hexcl first (hact first hfirst hfirstActive) second
      (hact second hsecond hsecondActive) hfirstActive hsecondActive

variable {lifecycle : CommissioningLifecycle}

theorem mem_of_replaceRow_active {sessions : List CommissioningSession} (hrec : record ∈ sessions)
    (hkept : lifecycle = .active → record.lifecycle = .active) :
    ∀ row ∈ replaceRow (·.id) (record.setLifecycle lifecycle) sessions,
      row.lifecycle = .active → row ∈ sessions := by
  intro row hrow hact
  rcases mem_replaceRow.mp hrow with ⟨rfl, _⟩ | ⟨hold, _⟩
  · have hlife : lifecycle = record.lifecycle := hact.trans (hkept hact).symm
    have hsame : record.setLifecycle lifecycle = record := by
      rw [hlife]
      rfl
    rwa [hsame]
  · exact hold

theorem active_of_preflightLifecycle
    {passed : Bool} (hact : preflightLifecycle lifecycle passed = .active) :
    lifecycle = .active := by
  unfold preflightLifecycle at hact
  split_ifs at hact
  exact hact

theorem exclusive_completed (hexcl : database.Exclusive) (hrec : record ∈ database.sessions)
    (hsessions : next.sessions = replaceRow (·.id)
      (record.setLifecycle .active) database.sessions) :
    next.Exclusive ↔ ¬ database.Conflicted record := by
  have hnew : record.setLifecycle .active ∈ next.sessions := by
    rw [hsessions]
    exact mem_replaceRow.mpr (.inl ⟨rfl, record, hrec, rfl⟩)
  constructor
  · rintro hafter ⟨other, hother, horg, hne, hact, hshares⟩
    have hkept : other ∈ next.sessions := by
      rw [hsessions]
      exact mem_replaceRow.mpr (.inr ⟨hother, hne⟩)
    have hsame := hafter _ hnew other hkept rfl hact horg.symm hshares
    rw [← hsame] at hne
    exact hne rfl
  · intro hfree first hfirst second hsecond hfirstActive hsecondActive horg hshares
    rw [hsessions] at hfirst hsecond
    rcases mem_replaceRow.mp hfirst with ⟨rfl, _⟩ | ⟨hfirstOld, hfirstNe⟩
    · rcases mem_replaceRow.mp hsecond with ⟨rfl, _⟩ | ⟨hsecondOld, hsecondNe⟩
      · rfl
      · exact absurd ⟨second, hsecondOld, horg.symm, hsecondNe, hsecondActive, hshares⟩ hfree
    · rcases mem_replaceRow.mp hsecond with ⟨rfl, _⟩ | ⟨hsecondOld, _⟩
      · refine absurd ⟨first, hfirstOld, horg, hfirstNe, hfirstActive, ?_⟩ hfree
        rcases hshares with hequipment | hidentity
        · exact .inl hequipment.symm
        · exact .inr hidentity.symm
      · exact hexcl first hfirstOld second hsecondOld hfirstActive hsecondActive horg hshares

theorem unclaimed_of_completes (hcomps : before.completes action = none) :
    before.Unclaimed action := by
  unfold Unclaimed
  rw [hcomps]
  exact fun _ hsome => absurd hsome (Option.not_mem_none _)

theorem CommissioningSystem.WorkflowEffect.unclaimed_iff
    (hkeyed : before.database.Keyed) (hexcl : before.database.Exclusive)
    (heff : before.WorkflowEffect settings action after) :
    before.Unclaimed action ↔ after.database.Exclusive := by
  cases heff with
  | idle tables now runs _ _ _ hcomps _ _ =>
    exact iff_of_true (unclaimed_of_completes hcomps) hexcl
  | created hplain row _ hdescribed =>
    refine iff_of_true (unclaimed_of_completes hplain.completes) (hexcl.mono ?_)
    intro other hother hact
    rcases List.mem_append.mp hother with hold | hnew
    · exact hold
    · rw [List.mem_singleton.mp hnew] at hact
      rw [hact] at hdescribed
      cases hdescribed
  | edited hplain record next _ _ hedited =>
    refine iff_of_true (unclaimed_of_completes hplain.completes) (hexcl.mono ?_)
    intro other hother hact
    rcases mem_replaceRow.mp hother with ⟨rfl, _⟩ | ⟨hold, _⟩
    · rcases hedited.lifecycle with hdescribed | hcanc
      · rw [hact] at hdescribed
        cases hdescribed
      · rw [hact] at hcanc
        cases hcanc
    · exact hold
  | preflightPrepared hplain worker row attempt database _ _ hprepared =>
    refine iff_of_true (unclaimed_of_completes hplain.completes) ?_
    cases hprepared <;> exact hexcl
  | preflightCompleted worker run attempt answer sessions hcomps _ _ _ _ _ hreported =>
      refine iff_of_true (unclaimed_of_completes hcomps) ?_
      cases hreported with
      | outdated => exact hexcl
      | current record hrec _ _ _ =>
        exact hexcl.mono (mem_of_replaceRow_active hrec active_of_preflightLifecycle)
  | activationPrepared worker row preflight outcome attempt activations _ hrow _ _ _ hcomps _ _ _ =>
      refine iff_of_true (unclaimed_of_completes hcomps) (hexcl.mono ?_)
      exact mem_of_replaceRow_active hrow fun hpend => nomatch hpend
  | activationCompleted worker run attempt record state _ _ hcomps hmem hid hrec hsess =>
      have hunclaimed : before.Unclaimed action ↔
          (state = .active → ¬ before.database.Conflicted record) := by
        unfold Unclaimed
        rw [hcomps]
        simp only [Option.mem_def, Option.some.injEq, forall_eq']
        constructor
        · exact fun hguard hstate =>
            hguard hstate attempt hmem hid record hrec hsess
        · intro hguard hstate other hother hotherId row hrow hrowId
          have hsame : other = attempt := row_eq_of_key hkeyed.activations hother
            hmem (hotherId.trans hid.symm)
          subst hsame
          rw [row_eq_of_key hkeyed.sessions hrow hrec (hrowId.trans hsess.symm)]
          exact hguard hstate
      rw [hunclaimed]
      by_cases hstate : state = .active
      · subst hstate
        rw [exclusive_completed hexcl hrec rfl]
        simp
      · refine iff_of_true (fun hact => absurd hact hstate)
          (hexcl.mono (mem_of_replaceRow_active hrec ?_))
        intro hact
        cases state <;> simp_all [activationLifecycle]

end Steps

/-! ## Runs -/

/-- In every run in which no attempt becomes active while another active session
has the equipment or the identity of its session, active sessions share neither;
and a step from there keeps them apart exactly when it meets the condition. -/
theorem activeSessions_exclusive {settings : CommissioningSettings}
    {tables : EquipmentTables} {start : Instant} {system : CommissioningSystem}
    (hreach : system.Reachable settings CommissioningSystem.Unclaimed tables start) :
    system.database.Exclusive ∧
      ∀ action after, system.step settings action = some after →
        (system.Unclaimed action ↔ after.database.Exclusive) := by
  have hboth : system.database.Consistent ∧ system.database.Exclusive := by
    refine hreach.invariant (P := fun system =>
      system.database.Consistent ∧ system.database.Exclusive) ?_
      ⟨.empty tables, fun _ hmem => absurd hmem List.not_mem_nil⟩
    intro before action after hbefore hguard hstep
    have heff := CommissioningSystem.step_effect hbefore.1.keyed hstep
    exact ⟨hbefore.1.step hstep,
      (heff.unclaimed_iff hbefore.1.keyed hbefore.2).mp hguard⟩
  refine ⟨hboth.2, ?_⟩
  intro action after hstep
  exact (CommissioningSystem.step_effect hboth.1.keyed hstep).unclaimed_iff
    hboth.1.keyed hboth.2

def consecutiveActivations : List WorkflowAction :=
  verifiedSession "S" 3 ++ verifiedSession "T" 4 ++ activateSession 0 "S" "go"

theorem activeSessions_exclusive_consecutive :
    ∃ system, runWorkflow consecutiveActivations = some system ∧
      system.database.Exclusive ∧
      ∀ action after, system.step usualSettings action = some after →
        (system.Unclaimed action ↔ after.database.Exclusive) := by
  have hrun : (runWorkflow consecutiveActivations).isSome = true := by
    decide +kernel
  obtain ⟨system, hsystem⟩ := Option.isSome_iff_exists.mp hrun
  have hmeet : StepsMeet (fun system action =>
      CommissioningSystem.step system usualSettings action)
      CommissioningSystem.Unclaimed (.initial fridgeTables 0)
      consecutiveActivations := by
    decide +kernel
  exact ⟨system, hsystem, activeSessions_exclusive (.of_stepsMeet hmeet hsystem)⟩

def overlappingActivations : List WorkflowAction :=
  verifiedSession "S" 3 ++ verifiedSession "T" 4 ++
    [.activate 1 "org" "T" 1 "go" "T-go"] ++ activateSession 0 "S" "go" ++
    [.answerActivation 1 (.active "LE01MP-4" true), .persistBinding 1,
     .finishActivation 1]

/-- Both sessions become active with the same equipment. -/
theorem activeSessions_overlapping :
    ¬ ∀ system : CommissioningSystem,
      system.Reachable usualSettings (fun _ _ => True) fridgeTables 0 →
      system.database.Exclusive := by
  intro hclaim
  have hrun : ∃ system ∈ runWorkflow overlappingActivations,
      ¬ system.database.Exclusive := by
    decide +kernel
  obtain ⟨system, hsystem, hshared⟩ := hrun
  exact hshared (hclaim system (.of_runFrom (fun _ _ _ => trivial) hsystem))

end Nexolab
