import Nexolab.ActivationInvariant

/-!
# Rollbacks of a commissioning activation

The snapshot of the first prepared row stays the only one as long as a request
which found no row does not take the lock over a document which is already
activated, and a rollback is over when it is journalled as long as nothing has
activated the device again since its commit.  The agent checks neither: a
request decides by the row it has read before it took the lock.
-/

namespace Nexolab

namespace CommissioningAgent

/-! ## The actions -/

section Actions

variable {start base : InventoryDocument} {device : InventoryDevice}
  {identity : ActivationIdentity} {agent after : CommissioningAgent}
  {configuration : RegistryConfiguration} {call : ℕ}

theorem release_lock {other : ℕ} (hne : other ≠ call) (hlock : agent.lock = some other) :
    (agent.release call).lock = some other := by
  have hheld : agent.lock ≠ some call := by
    rw [hlock]
    exact fun hsame => hne (Option.some.inj hsame)
  change (if agent.lock = some call then none else agent.lock) = some other
  rw [if_neg hheld]
  exact hlock

variable {phase : ActivationPhase} {action : CommissioningAction}

theorem Journaled.stay (hjour : Journaled base device identity start agent)
    (hmoves : Moves agent after call phase) (hdoc : after.document = agent.document)
    (hjournal : after.journal = agent.journal)
    (hlock : ∀ other, other ≠ call → agent.lock = some other → after.lock = some other)
    (hprepared : ∀ asked record, phase ≠ .prepared asked record)
    (hphase : JournaledPhase base device identity after call phase) :
    Journaled base device identity start after := by
  have hkept : SameInventory agent.document base → SameInventory after.document base := by
    rw [hdoc]
    exact id
  obtain ⟨row, hrowJournal, hrow⟩ := hjour.journal
  refine hjour.move hmoves (fun other hne hheld =>
    ⟨hlock other hne hheld, hkept⟩) ?_ ?_ hphase
  · rw [hdoc]
    exact hjour.staged
  · exact ⟨row, hjournal.trans hrowJournal, hrow.move hmoves (fun _ => hkept) fun _ => hprepared⟩

variable {record : ActivationRecord} {asked : ActivationRequest}

theorem Journaled.save (hjour : Journaled base device identity start agent)
    (hmoves : Moves agent after call phase) (hdoc : after.document = agent.document)
    {state : JournalState} (hjournal : after.journal = some ⟨identity, state, record⟩)
    (hsnap : record.snapshot = base.snapshotOf device)
    (hrolledBack : state = .rolledBack → SameInventory agent.document base ∧
      ∀ other asked prepared, after.phases other ≠ .prepared asked prepared)
    (hlock : ∀ other, other ≠ call → agent.lock = some other → after.lock = some other)
    (hphase : JournaledPhase base device identity after call phase) :
    Journaled base device identity start after := by
  refine hjour.move hmoves (fun other hne hheld =>
    ⟨hlock other hne hheld, by rw [hdoc]; exact id⟩) ?_ ?_ hphase
  · rw [hdoc]
    exact hjour.staged
  · refine ⟨_, hjournal, rfl, hsnap, ?_⟩
    rw [hdoc]
    exact hrolledBack

theorem Fresh.finish (hfresh : Fresh start agent) :
    StepSound start agent (agent.finish call none) := by
  have hmoves : Moves agent (agent.finish call none) call (.finished none) := rfl
  exact (hfresh.move hmoves (fun _ _ hheld => hheld) (enrolledOnly_refl _)
    hfresh.journal trivial).quietStep hmoves trivial

theorem Journaled.finish (hjour : Journaled base device identity start agent) :
    StepSound start agent (agent.finish call none) := by
  have hmoves : Moves agent (agent.finish call none) call (.finished none) := rfl
  exact (hjour.stay hmoves rfl rfl (fun _ _ hheld => hheld)
    (fun _ _ => nofun) trivial).quietStep hmoves trivial

theorem Fresh.releaseFinish (hfresh : Fresh start agent) :
    StepSound start agent ((agent.release call).finish call none) := by
  have hmoves : Moves agent ((agent.release call).finish call none) call (.finished none) := rfl
  exact (hfresh.move hmoves (fun _ hne hheld => release_lock hne hheld)
    (enrolledOnly_refl _) hfresh.journal trivial).quietStep hmoves trivial

theorem Journaled.releaseFinish (hjour : Journaled base device identity start agent) :
    StepSound start agent ((agent.release call).finish call none) := by
  have hmoves : Moves agent ((agent.release call).finish call none) call (.finished none) := rfl
  exact (hjour.stay hmoves rfl rfl (fun _ hne hheld =>
    release_lock hne hheld) (fun _ _ => nofun) trivial).quietStep hmoves trivial

theorem Fresh.load (hfresh : Fresh start agent) (asked : ActivationRequest)
    (refused : Bool) : StepSound start agent (agent.load call asked refused) := by
  unfold CommissioningAgent.load
  rw [hfresh.journal]
  dsimp only
  split
  next => exact hfresh.finish
  next haction =>
    split_ifs
    · exact hfresh.finish
    · have hmoves : Moves agent (agent.setPhase call (.loaded asked none)) call
          (.loaded asked none) := rfl
      exact (hfresh.move hmoves (fun _ _ hheld => hheld) (enrolledOnly_refl _)
        hfresh.journal ⟨haction, rfl⟩).quietStep hmoves trivial

theorem Journaled.answer (hjour : Journaled base device identity start agent)
    {row : JournalRow} (hjournal : agent.journal = some row) :
    StepSound start agent (agent.finish call (some row.state)) := by
  have hmoves : Moves agent (agent.finish call (some row.state)) call
      (.finished (some row.state)) := rfl
  have hafter := hjour.stay hmoves rfl rfl (fun _ _ hheld => hheld) (fun _ _ => nofun) trivial
  by_cases hstate : row.state = .rolledBack
  · obtain ⟨saved, hsaved, hrow⟩ := hjour.journal
    have hsame : row = saved := Option.some.inj (hjournal.symm.trans hsaved)
    subst hsame
    exact hjour.rollbackStep hafter (hrow.rolledBack hstate).1
  · refine hafter.quietStep hmoves ?_
    unfold Quiet
    split
    next hphase =>
      rw [ActivationPhase.finished.injEq, Option.some.injEq] at hphase
      exact absurd hphase hstate
    next hphase => cases hphase
    next => trivial

theorem Journaled.load (hjour : Journaled base device identity start agent)
    (asked : ActivationRequest) (refused : Bool) :
    StepSound start agent (agent.load call asked refused) := by
  obtain ⟨row, hjournal, hrow⟩ := hjour.journal
  have hloaded : row.identity = asked.identity → StepSound start agent
      (agent.setPhase call (.loaded asked (some row))) := by
    intro hsame
    have hmoves : Moves agent (agent.setPhase call (.loaded asked (some row)))
        call (.loaded asked (some row)) := rfl
    exact (hjour.stay hmoves rfl rfl (fun _ _ hheld => hheld)
      (fun _ _ => nofun) ⟨hsame.symm.trans hrow.sameIdentity,
        hrow.snapshot⟩).quietStep hmoves trivial
  have hanswer : StepSound start agent (agent.finish call (some row.state)) :=
    hjour.answer hjournal
  unfold CommissioningAgent.load
  rw [hjournal]
  dsimp only
  by_cases hsame : row.identity = asked.identity
  · rw [if_neg (not_not.mpr hsame)]
    split
    next hstate =>
      rw [hstate] at hanswer
      exact hanswer
    next =>
      split_ifs
      · exact hjour.finish
      · exact hloaded hsame
    next => exact hanswer
    next hstate =>
      rw [hstate] at hanswer
      exact hanswer
    next => exact hloaded hsame
  · rw [if_pos hsame]
    exact hjour.finish

theorem Unlocked.not_held (hunlocked : agent.Unlocked) {other : ℕ} :
    agent.lock ≠ some other := by
  intro hheld
  unfold Unlocked at hunlocked
  rw [hunlocked] at hheld
  cases hheld

theorem Unlocked.not_prepared (hunlocked : agent.Unlocked)
    (hjour : Journaled base device identity start agent) (other : ℕ)
    (asked : ActivationRequest) (record : ActivationRecord) :
    agent.phases other ≠ .prepared asked record := by
  intro hprepared
  have hphase := hjour.phases other
  rw [hprepared] at hphase
  exact hunlocked.not_held hphase.2.2.1

theorem Journaled.takesLock (hjour : Journaled base device identity start agent)
    (hunlocked : agent.Unlocked) (hsame : SameInventory agent.document base)
    (hid : asked.identity = identity) :
    StepSound start agent ({ agent with lock := some call }.setPhase call (.enrolled asked)) := by
  have hmoves : Moves agent ({ agent with lock := some call }.setPhase call
      (.enrolled asked)) call (.enrolled asked) := rfl
  exact (hjour.stay hmoves rfl rfl (fun _ _ hheld =>
    absurd hheld hunlocked.not_held) (fun _ _ => nofun)
    ⟨hid, rfl, hsame⟩).quietStep hmoves trivial

theorem Fresh.enterActivation (hfresh : Fresh start agent)
    (hunlocked : agent.Unlocked) (now : String) (failsAt : Option ℕ) : StepSound start agent
      (agent.enterActivation configuration call asked none now failsAt) := by
  unfold CommissioningAgent.enterActivation
  dsimp only
  split
  next => exact hfresh.finish
  next family hfam =>
    split
    next => exact hfresh.finish
    next ensured hensure =>
      obtain ⟨hsame, henrolled, _⟩ := ensureInventory_eq_some hensure
      have hmoves : Moves agent ({ ensured with lock := some call }.setPhase call
          (.enrolled asked)) call (.enrolled asked) := by
        unfold Moves
        rw [← hsame.phases]
        rfl
      exact (hfresh.move hmoves (fun _ _ hheld =>
        absurd hheld hunlocked.not_held) henrolled
        (hsame.journal.trans hfresh.journal) rfl).quietStep hmoves trivial

theorem Journaled.enterActivation (hjour : Journaled base device identity start agent)
    (hunlocked : agent.Unlocked) {row : Option JournalRow}
    (hphase : JournaledPhase base device identity agent call (.loaded asked row))
    (hguard : row = none → ∀ saved, agent.journal = some saved →
      saved.identity = asked.identity ∧ saved.record.snapshot.HoldsIn agent.document)
    (now : String) (failsAt : Option ℕ) : StepSound start agent
      (agent.enterActivation configuration call asked row now failsAt) := by
  unfold CommissioningAgent.enterActivation
  cases row with
  | some row =>
    obtain ⟨hid, hsnap⟩ := hphase
    have hstate := hjour.staged.preparedState hjour.valid
      (Journaled.document_valid agent) hjour.device_mem
    rw [← hsnap] at hstate
    dsimp only
    rcases hstate with ⟨hact, _⟩ | ⟨hrollback, hsame⟩
    · rw [hact, hid]
      have hmoves : Moves agent ((agent.save identity .active { row.record with
          revisionAfter := some agent.document.revision }).finish call
            (some .active)) call (.finished (some .active)) := rfl
      exact (hjour.save hmoves rfl rfl hsnap nofun
        (fun _ _ hheld => hheld) trivial).quietStep hmoves trivial
    · rw [hrollback]
      exact hjour.takesLock hunlocked hsame hid
  | none =>
    obtain ⟨saved, hsaved, hrow⟩ := hjour.journal
    obtain ⟨hasked, hholds⟩ := hguard rfl saved hsaved
    rw [hrow.snapshot] at hholds
    have hsame : SameInventory agent.document base :=
      hjour.staged.same_of_holds hjour.valid
        (Journaled.document_valid agent) hjour.device_mem hholds
    have hid : asked.identity = identity :=
      hasked.symm.trans hrow.sameIdentity
    dsimp only
    split
    next => exact hjour.finish
    next family hfam =>
      split
      next => exact hjour.finish
      next ensured hensure =>
        -- The device of the first activation is there: nothing is enrolled.
        obtain ⟨_, _, hkept⟩ := ensureInventory_eq_some hensure
        obtain ⟨_, _, hfound⟩ := hjour.commissioned
        obtain ⟨hmem, hunit, hbus⟩ :=
          InventoryDocument.commissioningDevice_mem hfound
        have hensured : ensured = agent := by
          refine hkept ⟨device, ?_, ?_, ?_⟩
          · rw [hsame.1]
            exact hmem
          · rw [hid]
            exact hunit
          · rw [hid]
            exact hbus
        rw [hensured]
        exact hjour.takesLock hunlocked hsame hid

theorem deviceMutations_eq (snapshot : ActivationSnapshot) (choose : String → String) :
    deviceMutations (requestedDevice snapshot choose) =
      if snapshot.deviceLifecycle = pollingLifecycle then []
      else [⟨snapshot.deviceId, choose snapshot.deviceLifecycle⟩] := by
  unfold deviceMutations requestedDevice
  split_ifs <;> rfl

theorem targetMutations_eq (snapshot : ActivationSnapshot) (choose : String → String) :
    targetMutations (requestedTargets snapshot choose) =
      (snapshot.targetLifecycles.filter fun entry =>
        entry.2 ≠ pollingLifecycle).map fun entry =>
          ⟨entry.1, choose entry.2⟩ := by
  unfold targetMutations requestedTargets
  rw [List.map_map]
  rfl

theorem activationOperation_eq (snapshot : ActivationSnapshot) :
    activationOperation snapshot = .update
      (deviceMutations (requestedDevice snapshot fun _ => pollingLifecycle))
      (targetMutations (requestedTargets snapshot fun _ =>
        pollingLifecycle)) := by
  rw [deviceMutations_eq, targetMutations_eq]
  rfl

theorem rollbackOperation_eq (snapshot : ActivationSnapshot) :
    rollbackOperation snapshot = .update (deviceMutations (requestedDevice snapshot id))
      (targetMutations (requestedTargets snapshot id)) := by
  rw [deviceMutations_eq, targetMutations_eq]
  rfl

theorem allActive_of_not_mutates (hmutates : mutates (base.snapshotOf device) = false) :
    AllActive base device := by
  unfold mutates at hmutates
  rw [decide_eq_false_iff_not, not_or] at hmutates
  constructor
  case device => exact not_not.mp hmutates.1
  case targets =>
    intro target htarget
    by_contra hpolled
    exact hmutates.2 ⟨(target.targetId, target.lifecycle),
      List.mem_map.mpr ⟨target, htarget, rfl⟩, hpolled⟩

theorem Journaled.restores (hjour : Journaled base device identity start agent)
    (hunlocked : agent.Unlocked) (hmoves : Moves agent after call phase)
    (hsame : SameInventory after.document base)
    (hjournal : after.journal = agent.journal ∨ ∃ state record,
      after.journal = some ⟨identity, state, record⟩ ∧
        record.snapshot = base.snapshotOf device)
    (hprepared : ∀ asked prepared, phase ≠ .prepared asked prepared)
    (hphase : JournaledPhase base device identity after call phase) :
    StepSound start agent after := by
  have hunprepared : ∀ other asked prepared, after.phases other ≠ .prepared asked prepared := by
    intro other
    by_cases hother : other = call
    · subst hother
      rw [hmoves.self]
      exact hprepared
    · rw [hmoves.other hother]
      exact hunlocked.not_prepared hjour other
  have hafter : Journaled base device identity start after := by
    refine hjour.move hmoves (fun _ _ hheld =>
      absurd hheld hunlocked.not_held) (.inl hsame) ?_ hphase
    rcases hjournal with hkept | ⟨state, record, hsaved, hsnap⟩
    · obtain ⟨row, hrowJournal, hrow⟩ := hjour.journal
      exact ⟨row, hkept.trans hrowJournal, hrow.sameIdentity, hrow.snapshot,
        fun _ => ⟨hsame, hunprepared⟩⟩
    · exact ⟨_, hsaved, rfl, hsnap, fun _ => ⟨hsame, hunprepared⟩⟩
  exact hjour.rollbackStep hafter hsame

theorem Journaled.enterRollback (hjour : Journaled base device identity start agent)
    (hnormal : start.LifecyclesNormal) (hunlocked : agent.Unlocked)
    (hid : asked.identity = identity) (hsnap : record.snapshot = base.snapshotOf device)
    (now : String) (failsAt : Option ℕ) : StepSound start agent
      (agent.enterRollback configuration call asked record now failsAt) := by
  have hstate := hjour.staged.preparedState hjour.valid
    (Journaled.document_valid agent) hjour.device_mem
  rw [← hsnap] at hstate
  unfold CommissioningAgent.enterRollback
  rcases hstate with ⟨hact, hactd⟩ | ⟨hrollback, hsame⟩
  · rw [hact]
    dsimp only
    by_cases hmutates : mutates record.snapshot
    · rw [if_pos hmutates]
      split
      next => exact hjour.finish
      next restored hcomm =>
        rw [rollbackOperation_eq, hsnap] at hcomm
        obtain ⟨hreqs, changes, hmutate⟩ := committed_update hcomm
        have hsame : SameInventory restored.document base :=
          withMutations_restores hjour.valid (hjour.enrolled.lifecyclesNormal hnormal)
            hjour.device_mem hactd hmutate
        have hmoves : Moves agent (restored.setPhase call (.restored asked
            { record with revisionRollback := some restored.document.revision }))
            call (.restored asked { record with
              revisionRollback := some restored.document.revision }) := by
          unfold Moves
          rw [← hreqs.phases]
          rfl
        exact hjour.restores hunlocked hmoves hsame
          (.inl hreqs.journal) (fun _ _ => nofun) ⟨hid, hsnap⟩
    · rw [if_neg hmutates]
      have hall : AllActive base device := by
        rw [hsnap, Bool.not_eq_true] at hmutates
        exact allActive_of_not_mutates hmutates
      have hsame : SameInventory agent.document base :=
        (hall.activated_iff hjour.valid hjour.device_mem).mp hactd
      have hmoves : Moves agent (agent.setPhase call (.restored asked
          { record with revisionRollback := some agent.document.revision })) call
          (.restored asked { record with
            revisionRollback := some agent.document.revision }) := rfl
      exact hjour.restores hunlocked hmoves hsame (.inl rfl) (fun _ _ => nofun) ⟨hid, hsnap⟩
  · rw [hrollback, hid]
    have hmoves : Moves agent ((agent.save identity .rolledBack { record with
        revisionRollback := some agent.document.revision }).finish call
          (some .rolledBack)) call (.finished (some .rolledBack)) := rfl
    exact hjour.restores hunlocked hmoves hsame (.inr ⟨_, _, rfl, hsnap⟩) (fun _ _ => nofun) trivial

theorem Fresh.prepare (hfresh : Fresh start agent) (hheld : agent.lock = some call) :
    StepSound start agent (agent.prepare call asked) := by
  unfold CommissioningAgent.prepare
  split
  next => exact hfresh.releaseFinish
  next family hfam =>
    split
    next => exact hfresh.releaseFinish
    next device hfound =>
      split_ifs
      · exact hfresh.releaseFinish
      · have hsame : SameInventory agent.document agent.document := ⟨rfl, rfl⟩
        have hmoves : Moves agent ((agent.save asked.identity .prepared
            ⟨agent.document.snapshotOf device, agent.document.revision, none,
              none, none⟩).setPhase call (.prepared asked
                ⟨agent.document.snapshotOf device, agent.document.revision, none,
                  none, none⟩)) call (.prepared asked
            ⟨agent.document.snapshotOf device, agent.document.revision, none, none, none⟩) := rfl
        suffices hafter : Journaled agent.document device asked.identity start
            ((agent.save asked.identity .prepared ⟨agent.document.snapshotOf
              device, agent.document.revision, none, none, none⟩).setPhase call
                (.prepared asked ⟨agent.document.snapshotOf device,
                  agent.document.revision, none, none, none⟩)) from
          hafter.quietStep hmoves trivial
        constructor
        case valid => exact Journaled.document_valid agent
        case enrolled => exact hfresh.enrolled
        case commissioned => exact ⟨family, hfam, hfound⟩
        case staged => exact .inl hsame
        case journal => exact ⟨_, rfl, rfl, rfl, nofun⟩
        case phases =>
          intro other
          by_cases hother : other = call
          · subst hother
            rw [hmoves.self]
            exact ⟨rfl, rfl, hheld, hsame⟩
          · rw [hmoves.other hother]
            have hphase := hfresh.phases other
            revert hphase
            cases agent.phases other with
            | waiting => exact fun _ => trivial
            | loaded asked row =>
              rintro ⟨haction, rfl⟩
              exact haction
            | enrolled asked =>
              intro hlock
              exact absurd (Option.some.inj (hlock.symm.trans hheld)) hother
            | prepared asked record => exact False.elim
            | activated asked record => exact False.elim
            | restored asked record => exact False.elim
            | finished answer => exact fun _ => trivial

theorem Journaled.prepare
    (hjour : Journaled base device identity start agent) (hid : asked.identity = identity)
    (hheld : agent.lock = some call) (hsame : SameInventory agent.document base) :
    StepSound start agent (agent.prepare call asked) := by
  unfold CommissioningAgent.prepare
  split
  next => exact hjour.releaseFinish
  next family hfam =>
    split
    next => exact hjour.releaseFinish
    next found hfound =>
      split_ifs
      · exact hjour.releaseFinish
      · obtain ⟨baseFamily, hbaseFamily, hbaseFound⟩ := hjour.commissioned
        have hdev : found = device := by
          rw [hid, hbaseFamily, Option.some.injEq] at hfam
          rw [InventoryDocument.commissioningDevice_congr hsame, hid,
            ← hfam, hbaseFound, Option.some.injEq] at hfound
          exact hfound.symm
        have hsnap : agent.document.snapshotOf found = base.snapshotOf device := by
          rw [hdev]
          exact InventoryDocument.snapshotOf_congr hsame device
        have hmoves : Moves agent ((agent.save asked.identity .prepared
            ⟨agent.document.snapshotOf found, agent.document.revision, none,
              none, none⟩).setPhase call (.prepared asked
                ⟨agent.document.snapshotOf found, agent.document.revision, none,
                  none, none⟩)) call (.prepared asked
            ⟨agent.document.snapshotOf found, agent.document.revision, none, none, none⟩) := rfl
        subst hid
        exact (hjour.save hmoves rfl rfl hsnap nofun (fun _ _ hother => hother)
          ⟨rfl, hsnap, hheld, hsame⟩).quietStep hmoves trivial

theorem Journaled.activate (hjour : Journaled base device identity start agent)
    (hprepared : agent.phases call = .prepared asked record)
    (now : String) (refused : Bool) (failsAt : Option ℕ) :
    StepSound start agent (agent.activate configuration call asked record now refused failsAt) := by
  have hphase := hjour.phases call
  rw [hprepared] at hphase
  obtain ⟨hid, hsnap, hheld, hsame⟩ := hphase
  unfold CommissioningAgent.activate
  by_cases hmutates : mutates record.snapshot
  · rw [if_pos hmutates]
    split_ifs
    · exact hjour.releaseFinish
    · split
      next => exact hjour.releaseFinish
      next activated hcomm =>
        rw [activationOperation_eq, hsnap] at hcomm
        obtain ⟨hreqs, changes, hmutate⟩ := committed_update hcomm
        have hactd : Activated base device.deviceId activated.document :=
          withMutations_activates hjour.valid hjour.device_mem hsame hmutate
        have hmoves : Moves agent ((activated.release call).setPhase call
            (.activated asked { record with
              revisionAfter := some activated.document.revision })) call
            (.activated asked { record with
              revisionAfter := some activated.document.revision }) := by
          unfold Moves
          rw [← hreqs.phases]
          rfl
        obtain ⟨row, hrowJournal, hrow⟩ := hjour.journal
        have hopen : row.state ≠ .rolledBack := fun hstate =>
          (hrow.rolledBack hstate).2 call asked record hprepared
        have hafter := hjour.move hmoves (fun other hne hother =>
            absurd (Option.some.inj (hother.symm.trans hheld)) hne)
          (.inr hactd) ⟨row, hreqs.journal.trans hrowJournal,
            hrow.sameIdentity, hrow.snapshot, fun hstate => absurd hstate hopen⟩
          ⟨hid, hsnap⟩
        exact hafter.quietStep hmoves trivial
  · rw [if_neg hmutates]
    have hmoves : Moves agent ((agent.release call).setPhase call
        (.activated asked { record with
          revisionAfter := some agent.document.revision })) call
        (.activated asked { record with
          revisionAfter := some agent.document.revision }) := rfl
    exact (hjour.stay hmoves rfl rfl (fun _ hne hother =>
      release_lock hne hother) (fun _ _ => nofun)
      ⟨hid, hsnap⟩).quietStep hmoves trivial

theorem Journaled.completeActivation (hjour : Journaled base device identity start agent)
    (hid : asked.identity = identity) (hsnap : record.snapshot = base.snapshotOf device) :
    StepSound start agent
      ((agent.save asked.identity .active record).finish call (some .active)) := by
  subst hid
  have hmoves : Moves agent ((agent.save asked.identity .active record).finish
      call (some .active)) call (.finished (some .active)) := rfl
  exact (hjour.save hmoves rfl rfl hsnap nofun
    (fun _ _ hother => hother) trivial).quietStep hmoves trivial

theorem Journaled.completeRollback (hjour : Journaled base device identity start agent)
    (hid : asked.identity = identity) (hsnap : record.snapshot = base.snapshotOf device)
    (hholds : record.snapshot.HoldsIn agent.document)
    (hunprepared : ∀ other activating prepared,
      agent.phases other ≠ .prepared activating prepared) :
    StepSound start agent ((agent.save asked.identity .rolledBack record).finish
      call (some .rolledBack)) := by
  subst hid
  rw [hsnap] at hholds
  have hsame : SameInventory agent.document base :=
    hjour.staged.same_of_holds hjour.valid (Journaled.document_valid agent) hjour.device_mem hholds
  have hmoves : Moves agent ((agent.save asked.identity .rolledBack record).finish
      call (some .rolledBack)) call (.finished (some .rolledBack)) := rfl
  have hafter := hjour.save hmoves rfl rfl hsnap (fun _ => ⟨hsame, by
    intro other
    by_cases hother : other = call
    · subst hother
      rw [hmoves.self]
      exact fun _ _ => nofun
    · rw [hmoves.other hother]
      exact hunprepared other⟩) (fun _ _ hother => hother) trivial
  exact hjour.rollbackStep hafter hsame

theorem crash_not_rollsBack (hphases : ∀ other, after.phases other = crashed (agent.phases other))
    (other : ℕ) : ¬ RollsBack agent after other := by
  rintro ⟨hchanged, hend⟩
  rw [hphases] at hchanged hend
  revert hchanged hend
  cases agent.phases other with
  | waiting => exact fun hchanged _ => hchanged rfl
  | finished answer => exact fun hchanged _ => hchanged rfl
  | _ => simp [crashed]

theorem crashed_induction {P : ActivationPhase → Prop} (hwaiting : P .waiting)
    (hfinished : ∀ answer, P (.finished answer)) (phase : ActivationPhase) :
    P (crashed phase) := by
  cases phase with
  | waiting => exact hwaiting
  | _ => exact hfinished _

theorem Fresh.crash (hfresh : Fresh start agent) :
    StepSound start agent { agent with
      lock := none
      phases := fun call => crashed (agent.phases call) } := by
  refine ⟨.inl ⟨hfresh.enrolled, hfresh.journal, ?_⟩, fun other hrollback =>
    absurd hrollback (crash_not_rollsBack (fun _ => rfl) other)⟩
  intro other
  exact crashed_induction (P := FreshPhase _ other) trivial (fun _ => trivial) _

theorem Journaled.crash (hjour : Journaled base device identity start agent) :
    StepSound start agent { agent with
      lock := none
      phases := fun call => crashed (agent.phases call) } := by
  refine ⟨.inr ⟨base, device, identity, hjour.valid, hjour.enrolled,
    hjour.commissioned, hjour.staged, ?_, ?_⟩, fun other hrollback =>
      absurd hrollback (crash_not_rollsBack (fun _ => rfl) other)⟩
  · obtain ⟨row, hrowJournal, hrow⟩ := hjour.journal
    refine ⟨row, hrowJournal, hrow.sameIdentity, hrow.snapshot, ?_⟩
    intro hstate
    refine ⟨(hrow.rolledBack hstate).1, ?_⟩
    intro other asked record
    exact crashed_induction (P := fun phase => phase ≠ .prepared asked record) nofun
      (fun _ => nofun) _
  · intro other
    exact crashed_induction (P := JournaledPhase _ _ _ _ other) trivial (fun _ => trivial) _

theorem Fresh.step (hfresh : Fresh start agent)
    (hstep : step configuration agent action = some after) :
    StepSound start agent after := by
  cases action with
  | load call asked refused =>
    simp only [CommissioningAgent.step] at hstep
    split at hstep
    next =>
      cases hstep
      exact hfresh.load asked refused
    next => cases hstep
  | enter call now failsAt =>
    simp only [CommissioningAgent.step] at hstep
    split at hstep
    next asked row hphase =>
      obtain ⟨haction, rfl⟩ : asked.action = .activate ∧ row = none := by
        have hfacts := hfresh.phases call
        rw [hphase] at hfacts
        exact hfacts
      split_ifs at hstep with hunlocked
      rw [haction] at hstep
      dsimp only at hstep
      cases hstep
      exact hfresh.enterActivation hunlocked now failsAt
    next => cases hstep
  | prepare call =>
    simp only [CommissioningAgent.step] at hstep
    split at hstep
    next asked hphase =>
      have hheld := hfresh.phases call
      rw [hphase] at hheld
      cases hstep
      exact hfresh.prepare hheld
    next => cases hstep
  | activate call now refused failsAt =>
    simp only [CommissioningAgent.step] at hstep
    split at hstep
    next asked record hphase =>
      have hnone := hfresh.phases call
      rw [hphase] at hnone
      exact hnone.elim
    next => cases hstep
  | complete call =>
    simp only [CommissioningAgent.step] at hstep
    split at hstep
    next asked record hphase =>
      have hnone := hfresh.phases call
      rw [hphase] at hnone
      exact hnone.elim
    next asked record hphase =>
      have hnone := hfresh.phases call
      rw [hphase] at hnone
      exact hnone.elim
    next => cases hstep
  | fail call =>
    simp only [CommissioningAgent.step] at hstep
    split at hstep
    next => cases hstep
    next => cases hstep
    next =>
      cases hstep
      exact hfresh.releaseFinish
  | crash =>
    cases hstep
    exact hfresh.crash

theorem Journaled.step (hjour : Journaled base device identity start agent)
    (hnormal : start.LifecyclesNormal) (hguard : Undisturbed agent action)
    (hstep : step configuration agent action = some after) :
    StepSound start agent after := by
  cases action with
  | load call asked refused =>
    simp only [CommissioningAgent.step] at hstep
    split at hstep
    next =>
      cases hstep
      exact hjour.load asked refused
    next => cases hstep
  | enter call now failsAt =>
    simp only [CommissioningAgent.step] at hstep
    split at hstep
    next asked row hphase =>
      have hfacts := hjour.phases call
      rw [hphase] at hfacts
      split_ifs at hstep with hunlocked
      split at hstep
      next row _ =>
        cases hstep
        refine hjour.enterActivation hunlocked hfacts ?_ now failsAt
        rintro rfl saved hsaved
        exact hguard asked hphase saved hsaved
      next row _ =>
        cases hstep
        exact hjour.enterRollback hnormal hunlocked hfacts.1 hfacts.2 now failsAt
      next => cases hstep
    next => cases hstep
  | prepare call =>
    simp only [CommissioningAgent.step] at hstep
    split at hstep
    next asked hphase =>
      have hfacts := hjour.phases call
      rw [hphase] at hfacts
      obtain ⟨hid, hheld, hsame⟩ := hfacts
      cases hstep
      exact hjour.prepare hid hheld hsame
    next => cases hstep
  | activate call now refused failsAt =>
    simp only [CommissioningAgent.step] at hstep
    split at hstep
    next asked record hphase =>
      cases hstep
      exact hjour.activate hphase now refused failsAt
    next => cases hstep
  | complete call =>
    simp only [CommissioningAgent.step] at hstep
    split at hstep
    next asked record hphase =>
      have hfacts := hjour.phases call
      rw [hphase] at hfacts
      cases hstep
      exact hjour.completeActivation hfacts.1 hfacts.2
    next asked record hphase =>
      have hfacts := hjour.phases call
      rw [hphase] at hfacts
      obtain ⟨hholds, hunprepared⟩ := hguard asked record hphase
      cases hstep
      exact hjour.completeRollback hfacts.1 hfacts.2 hholds hunprepared
    next => cases hstep
  | fail call =>
    simp only [CommissioningAgent.step] at hstep
    split at hstep
    next => cases hstep
    next => cases hstep
    next =>
      cases hstep
      exact hjour.releaseFinish
  | crash =>
    cases hstep
    exact hjour.crash

theorem Commissioned.step (hcommissioned : Commissioned start agent)
    (hnormal : start.LifecyclesNormal) (hguard : Undisturbed agent action)
    (hstep : CommissioningAgent.step configuration agent action = some after) :
    StepSound start agent after := by
  rcases hcommissioned with hfresh | ⟨base, device, identity, hjour⟩
  · exact hfresh.step hstep
  · exact hjour.step hnormal hguard hstep

theorem Commissioned.snapshot (hcommissioned : Commissioned start agent)
    {row : JournalRow} (hjournal : agent.journal = some row) :
    SnapshotOfStart start row.record.snapshot := by
  rcases hcommissioned with hfresh | ⟨base, device, identity, hjour⟩
  · rw [hfresh.journal] at hjournal
    cases hjournal
  · obtain ⟨saved, hsaved, hrow⟩ := hjour.journal
    have hsame : row = saved := Option.some.inj (hjournal.symm.trans hsaved)
    exact ⟨base, device, hjour.enrolled, hjour.device_mem, by
      rw [hsame, hrow.snapshot]⟩

end Actions

def activationOf (action : ActivationAction) : ActivationRequest :=
  ⟨action, ⟨"a", "n", "rs485-main", "s", 1, "dixell-xjp60d",
    "dixell-xjp60d-fc03-v1"⟩⟩

def activationSteps (call : ℕ) : List CommissioningAction :=
  [.enter call "u" none, .prepare call, .activate call "u" false none,
    .complete call]

/-- Both activations look for the row before either has saved one. -/
def overlappingActivations : List CommissioningAction :=
  [.load 0 (activationOf .activate) false, .load 1 (activationOf .activate) false] ++
    activationSteps 0 ++ activationSteps 1 ++
    [.load 2 (activationOf .rollback) false, .enter 2 "u" none, .complete 2]

def answered : ActivationPhase → Option JournalState
  | .finished answer => answer
  | _ => none

end CommissioningAgent

end Nexolab
