import Nexolab.InstallerRecord
import Nexolab.PlaneRuns

/-!
# Recovery of the update plane

When nothing runs, one requested check, one scheduled check and one worker run without
kills leave nothing unfinished, whatever they find.
-/

namespace Nexolab

namespace ManagerPhase

def rank : ManagerPhase → ℕ
  | .starting => 12
  | .verifyingPackage => 11
  | .checkingCapacity _ => 10
  | .creatingBackup _ => 9
  | .applyingUpdate _ => 8
  | .installing _ => 7
  | .verifyingRuntime _ => 6
  | .deploying _ => 5
  | .finishing => 4
  | .restoring => 3
  | .closing => 2
  | .unlinking => 1

end ManagerPhase

namespace ManagerRun

variable {settings : ManagerSettings} {disk : VersionDisk} {run next : ManagerRun}
  {answer : StepAnswer}

theorem failed_rank : run.failed.phase.rank ≤ 3 := by
  unfold failed
  dsimp only
  split <;> simp [ManagerPhase.rank]

theorem step_rank (hnext : (run.step settings disk answer).2 = some next) :
    next.file = run.file ∧ next.phase.rank < run.phase.rank := by
  have hfailed : 3 < run.phase.rank →
      run.failed.file = run.file ∧ run.failed.phase.rank < run.phase.rank :=
    fun hrank => ⟨rfl, lt_of_le_of_lt failed_rank hrank⟩
  unfold step at hnext
  cases hcase : run.phase with
  | starting =>
    rw [hcase] at hnext hfailed
    dsimp only at hnext
    split at hnext
    next => cases hnext; exact ⟨rfl, by simp [ManagerPhase.rank]⟩
    next => cases hnext
  | verifyingPackage =>
    rw [hcase] at hnext hfailed
    dsimp only at hnext
    split at hnext
    next =>
      split at hnext
      next => cases hnext; exact ⟨rfl, by simp [enter, ManagerPhase.rank]⟩
      next => cases hnext; exact hfailed (by simp [ManagerPhase.rank])
    next => cases hnext; exact hfailed (by simp [ManagerPhase.rank])
  | creatingBackup target =>
    rw [hcase] at hnext hfailed
    dsimp only at hnext
    split at hnext
    next => cases hnext; exact hfailed (by simp [ManagerPhase.rank])
    next =>
      dsimp only at hnext
      split at hnext
      next => cases hnext; exact ⟨rfl, by simp [enter, ManagerPhase.rank]⟩
      next => cases hnext; exact hfailed (by simp [ManagerPhase.rank])
  | checkingCapacity target | applyingUpdate target | installing target
  | verifyingRuntime target | deploying target | finishing =>
    rw [hcase] at hnext hfailed
    dsimp only at hnext
    split at hnext
    next => cases hnext; exact ⟨rfl, by simp [enter, ManagerPhase.rank]⟩
    next => cases hnext; exact hfailed (by simp [ManagerPhase.rank])
  | restoring =>
    rw [hcase] at hnext
    cases hnext
    exact ⟨rfl, by simp [enter, ManagerPhase.rank]⟩
  | closing =>
    rw [hcase] at hnext
    dsimp only at hnext
    split at hnext
    next => cases hnext; exact ⟨rfl, by simp [enter, ManagerPhase.rank]⟩
    next => cases hnext
  | unlinking =>
    rw [hcase] at hnext
    cases hnext

theorem step_last (hwrites : run.phase = .starting ∨ run.phase = .closing →
    answer.succeeds = true) (hnext : (run.step settings disk answer).2 = none) :
    run.phase = .unlinking := by
  unfold step at hnext
  cases hcase : run.phase with
  | starting =>
    rw [hcase] at hnext hwrites
    simp only [hwrites (Or.inl rfl), if_true] at hnext
    cases hnext
  | verifyingPackage =>
    rw [hcase] at hnext
    dsimp only at hnext
    split at hnext
    next => split at hnext <;> cases hnext
    next => cases hnext
  | creatingBackup target =>
    rw [hcase] at hnext
    dsimp only at hnext
    split at hnext
    next => cases hnext
    next =>
      dsimp only at hnext
      split at hnext <;> cases hnext
  | checkingCapacity target | applyingUpdate target | installing target
  | verifyingRuntime target | deploying target | finishing =>
    rw [hcase] at hnext
    dsimp only at hnext
    split at hnext <;> cases hnext
  | restoring =>
    rw [hcase] at hnext
    cases hnext
  | closing =>
    rw [hcase] at hnext hwrites
    simp only [hwrites (Or.inr rfl), if_true] at hnext
    cases hnext
  | unlinking => rfl

end ManagerRun

namespace VersionPlane

variable {settings : PlaneSettings} {plane next : VersionPlane}

structure Quiet (plane : VersionPlane) : Prop where
  run : plane.run = none
  queue : plane.queueHolder = none
  plane : plane.planeHolder = none

/-- Nothing stands in the way of a new operation or a new check. -/
structure Accepting (plane : VersionPlane) : Prop where
  requests : plane.disk.requests = []
  operations : ∀ record ∈ plane.disk.operations, record.2.isActive = false
  checkRequests : plane.checkRequests = []
  updateCheck : plane.updateCheck ≠ some .checking

structure RoundAnswers where
  eligible : Bool
  operationId : CodePoints
  candidate : Option CodePoints
  worker : ManagerPhase → StepAnswer

def RoundAnswers.Writes (answers : RoundAnswers) : Prop :=
  (answers.worker .starting).succeeds = true ∧ (answers.worker .closing).succeeds = true

variable (answers : RoundAnswers)

def requestedRun : List PlaneAction :=
  [.processRequestedCheck, .advancePlane answers.eligible, .advancePlane answers.eligible]

def scheduledRun : List PlaneAction :=
  [.scheduledCheck, .advancePlane answers.eligible, .advancePlane answers.eligible,
   .advanceQueue answers.operationId answers.candidate,
   .advanceQueue answers.operationId answers.candidate,
   .advanceQueue answers.operationId answers.candidate, .advancePlane answers.eligible]

def workerRun : List PlaneAction :=
  .runOnce :: List.replicate 12 (.advanceWorker answers.worker)

def recoveryRound : List PlaneAction :=
  requestedRun answers ++ scheduledRun answers ++ workerRun answers

variable {answers}

structure SamePrograms (plane next : VersionPlane) : Prop where
  checkRequests : next.checkRequests = plane.checkRequests
  updateCheck : next.updateCheck = plane.updateCheck
  queue : next.queueHolder = plane.queueHolder
  plane : next.planeHolder = plane.planeHolder

theorem idle_worker (hidle : plane.run = none) (steps : ℕ) :
    runFrom (step settings) plane (List.replicate steps (.advanceWorker answers.worker)) =
      some plane := by
  induction steps with
  | zero => rfl
  | succ steps ih =>
    have hstep : step settings plane (.advanceWorker answers.worker) = some plane := by
      simp only [step, hidle]
    rw [List.replicate_succ, runFrom_cons_of_step hstep]
    exact ih

theorem worker_ends (hwrites : answers.Writes) (steps : ℕ) {run : ManagerRun}
    (hinv : plane.QueueInvariant) (hrun : plane.run = some run) (hrank : run.phase.rank ≤ steps) :
    ∃ after, runFrom (step settings) plane
        (List.replicate steps (.advanceWorker answers.worker)) = some after ∧
      after.QueueInvariant ∧ SamePrograms plane after ∧ after.run = none ∧
        after.disk.requests = [] := by
  induction steps generalizing plane run with
  | zero =>
    cases hphase : run.phase <;> rw [hphase] at hrank <;>
      simp [ManagerPhase.rank] at hrank
  | succ steps ih =>
    have hanswer : run.phase = .starting ∨ run.phase = .closing →
        (answers.worker run.phase).succeeds = true := by
      rintro (hstarting | hclosing)
      · rw [hstarting]
        exact hwrites.1
      · rw [hclosing]
        exact hwrites.2
    have hnext : QueueInvariant { plane with
        disk := (run.step settings.toManagerSettings plane.disk (answers.worker run.phase)).1
        run := (run.step settings.toManagerSettings plane.disk (answers.worker run.phase)).2 } :=
      hinv.advanceWorker hrun fun hclosing => Or.inl (hanswer (Or.inr hclosing))
    have hstep : step settings plane (.advanceWorker answers.worker) = some { plane with
        disk := (run.step settings.toManagerSettings plane.disk (answers.worker run.phase)).1
        run := (run.step settings.toManagerSettings plane.disk (answers.worker run.phase)).2 } := by
      simp only [step, hrun]
    rw [List.replicate_succ, runFrom_cons_of_step hstep]
    cases hlater : (run.step settings.toManagerSettings plane.disk
        (answers.worker run.phase)).2 with
    | none =>
      have hphase := ManagerRun.step_last hanswer hlater
      rw [hlater] at hnext
      refine ⟨_, idle_worker rfl steps, hnext, ⟨rfl, rfl, rfl, rfl⟩, rfl, ?_⟩
      dsimp only
      rw [ManagerRun.step_unlinking hphase]
      exact hinv.unlinked_empty hrun
    | some later =>
      obtain ⟨_, hcloser⟩ := ManagerRun.step_rank hlater
      rw [hlater] at hnext
      obtain ⟨after, hafter, hlast, hsame, hends⟩ :=
        ih hnext rfl (Nat.le_of_lt_succ (hcloser.trans_le hrank))
      exact ⟨after, hafter, hlast, ⟨hsame.checkRequests, hsame.updateCheck, hsame.queue,
        hsame.plane⟩, hends⟩

theorem workerRun_ends (hwrites : answers.Writes) (hquiet : plane.Quiet)
    (hinv : plane.QueueInvariant) :
    ∃ after, runFrom (step settings) plane (workerRun answers) = some after ∧
      after.QueueInvariant ∧ SamePrograms plane after ∧ after.run = none ∧
        after.disk.requests = [] := by
  have hstep : step settings plane .runOnce = some { plane with run := plane.disk.nextRun } := by
    simp [step, hquiet.run]
  have hstarted := hinv.of_nextRun hquiet.run
  unfold workerRun
  rw [runFrom_cons_of_step hstep]
  cases hreqs : plane.disk.requests with
  | nil =>
    have hnone : plane.disk.nextRun = none := by
      simp [VersionDisk.nextRun, hreqs]
    rw [hnone] at hstarted ⊢
    exact ⟨_, idle_worker rfl 12, hstarted, ⟨rfl, rfl, rfl, rfl⟩, rfl, hreqs⟩
  | cons request rest =>
    obtain ⟨run, hrun, hphase⟩ := hinv.takes_request hquiet.run (hreqs ▸ List.mem_cons_self)
    rw [hrun] at hstarted ⊢
    obtain ⟨after, hafter, hlast, hsame, hends⟩ := worker_ends hwrites 12 hstarted rfl
      (by simp [hphase, ManagerPhase.rank])
    exact ⟨after, hafter, hlast, ⟨hsame.checkRequests, hsame.updateCheck, hsame.queue,
      hsame.plane⟩, hends⟩

theorem final_ne_checking : some CheckStatus.final ≠ some .checking := by decide

theorem requestedRun_ends (answers : RoundAnswers) (hquiet : plane.Quiet)
    (hinv : plane.CheckInvariant settings) :
    ∃ check, runFrom (step settings) plane (requestedRun answers) =
        some { plane with checkRequests := [], updateCheck := check } ∧
      (settings.automaticUpdates = false → check ≠ some .checking) := by
  obtain ⟨disk, run, checkRequests, check, queueHolder, planeHolder⟩ := plane
  obtain ⟨rfl, rfl, rfl⟩ := hquiet
  cases checkRequests with
  | nil =>
    refine ⟨check, by simp [requestedRun, runFrom, step], fun hmanual hchecking => ?_⟩
    exact hinv.checking hmanual hchecking rfl
  | cons requestId rest =>
    have hrest : rest = [] := by
      have hlen := hinv.one
      simp only [List.length_cons] at hlen
      exact List.eq_nil_of_length_eq_zero (by omega)
    subst hrest
    exact ⟨some .final, by simp [requestedRun, runFrom, step, stepPlane],
      fun _ => final_ne_checking⟩

/-- What the timer has left: the disk as it was, or with one more request. -/
inductive TimerLeaves (answers : RoundAnswers) (disk : VersionDisk) : VersionDisk → Prop
  | nothing : TimerLeaves answers disk disk
  | request (current : DeployedRelease) (target : CodePoints) :
      disk.current = some current → disk.requests = [] →
      TimerLeaves answers disk
        ((disk.writeRequest (queuedRequest answers.operationId .update current.bundleId
          target)).writeOperation answers.operationId .queued)

theorem scheduledRun_ends (answers : RoundAnswers) (hquiet : plane.Quiet)
    (hfresh : plane.disk.isFresh answers.operationId = true)
    (hcheck : settings.automaticUpdates = false → plane.updateCheck ≠ some .checking) :
    ∃ after, runFrom (step settings) plane (scheduledRun answers) = some after ∧
      after.Quiet ∧ TimerLeaves answers plane.disk after.disk ∧
        after.checkRequests = plane.checkRequests ∧ after.updateCheck ≠ some .checking := by
  obtain ⟨disk, run, checkRequests, check, queueHolder, planeHolder⟩ := plane
  obtain ⟨rfl, rfl, rfl⟩ := hquiet
  dsimp only at hfresh hcheck
  cases hautomatic : settings.automaticUpdates with
  | false =>
    refine ⟨_, by simp [scheduledRun, runFrom, step, hautomatic], ⟨rfl, rfl, rfl⟩,
      .nothing, rfl, hcheck hautomatic⟩
  | true =>
    cases heligible : answers.eligible with
    | false =>
      exact ⟨⟨disk, none, checkRequests, some .final, none, none⟩,
        by simp [scheduledRun, runFrom, step, stepPlane, hautomatic, heligible],
        ⟨rfl, rfl, rfl⟩, .nothing, rfl, final_ne_checking⟩
    | true =>
      by_cases hunfin : disk.anyActive ∨ disk.requests ≠ []
      · exact ⟨⟨disk, none, checkRequests, some .final, none, none⟩,
          by simp [scheduledRun, runFrom, step, stepPlane, hautomatic, heligible, hunfin],
          ⟨rfl, rfl, rfl⟩, .nothing, rfl, final_ne_checking⟩
      · have hempty : disk.requests = [] := not_not.mp (not_or.mp hunfin).2
        cases hcur : disk.current with
        | none =>
          exact ⟨⟨disk, none, checkRequests, some .final, none, none⟩,
            by simp [scheduledRun, runFrom, step, stepPlane, stepQueue, releaseQueue,
              hautomatic, heligible, hunfin, hcur],
            ⟨rfl, rfl, rfl⟩, .nothing, rfl, final_ne_checking⟩
        | some current =>
          cases hcand : answers.candidate with
          | none =>
            exact ⟨⟨disk, none, checkRequests, some .final, none, none⟩,
              by simp [scheduledRun, runFrom, step, stepPlane, stepQueue,
                releaseQueue, hautomatic, heligible, hunfin, hcur,
                hcand],
              ⟨rfl, rfl, rfl⟩, .nothing, rfl, final_ne_checking⟩
          | some target =>
            refine ⟨⟨_, none, checkRequests, some .final, none, none⟩, ?_,
              ⟨rfl, rfl, rfl⟩, .request current target hcur hempty, rfl, final_ne_checking⟩
            simp [scheduledRun, runFrom, step, stepPlane, stepQueue, releaseQueue,
              hautomatic, heligible, hunfin, hcur, hcand, hfresh, queuedRequest]
            rfl

theorem TimerLeaves.invariant {answers : RoundAnswers} {disk after : VersionDisk}
    {requests : List CodePoints} {check : Option CheckStatus}
    (hleaves : TimerLeaves answers disk after)
    (hinv : QueueInvariant ⟨disk, none, requests, check, none, none⟩)
    (hfresh : disk.isFresh answers.operationId = true) :
    QueueInvariant ⟨after, none, requests, check, none, none⟩ := by
  cases hleaves with
  | nothing => exact hinv
  | request current target hcur hempty =>
    have hwriting : QueueInvariant ⟨disk, none, requests, check,
        some (.writing true (queuedRequest answers.operationId .update current.bundleId
          target)), none⟩ := by
      apply hinv.of_queue
      intro phase hphase
      cases hphase
      refine ⟨hempty, rfl, rfl, ?_⟩
      simp [VersionDisk.deploys, hcur, queuedRequest]
    refine (hwriting.writeRequest rfl).writeRecord rfl ?_
    intro record hrec hname
    unfold VersionDisk.isFresh at hfresh
    have hknown : answers.operationId ∈ disk.operations.map Prod.fst :=
      List.mem_map.mpr ⟨record, hrec, hname⟩
    simp [hknown] at hfresh

theorem recoveryRound_ends (hwrites : answers.Writes) (hquiet : plane.Quiet)
    (hqueue : plane.QueueInvariant) (hchecks : plane.CheckInvariant settings)
    (hfresh : plane.disk.isFresh answers.operationId = true) :
    ∃ after, runFrom (step settings) plane (recoveryRound answers) = some after ∧
      after.Quiet ∧ after.Accepting := by
  obtain ⟨check, hrequested, hmanual⟩ := requestedRun_ends answers hquiet hchecks
  obtain ⟨disk, run, checkRequests, _, queueHolder, planeHolder⟩ := plane
  obtain ⟨rfl, rfl, rfl⟩ := hquiet
  dsimp only at hrequested hfresh
  have hbetween : Quiet ⟨disk, none, [], check, none, none⟩ := ⟨rfl, rfl, rfl⟩
  obtain ⟨scheduled, hscheduled, hstill, hleaves, hempty, hfinal⟩ :=
    scheduledRun_ends answers hbetween hfresh hmanual
  have hinv : scheduled.QueueInvariant := by
    obtain ⟨left, _, _, _, _, _⟩ := scheduled
    obtain ⟨rfl, rfl, rfl⟩ := hstill
    exact hleaves.invariant (hqueue.of_same rfl rfl nofun) hfresh
  obtain ⟨after, hworker, hlast, hsame, hidle, hreqs⟩ :=
    workerRun_ends hwrites hstill hinv
  refine ⟨after, ?_, ⟨hidle, hsame.queue.trans hstill.queue, hsame.plane.trans hstill.plane⟩,
    hreqs, fun record => hlast.anyActive_eq_false hreqs,
    hsame.checkRequests.trans hempty, hsame.updateCheck ▸ hfinal⟩
  unfold recoveryRound
  rw [runFrom_append, runFrom_append, hrequested, Option.bind_some, hscheduled, Option.bind_some]
  exact hworker

/-! ## A request which does not fit -/

def recovers : PlaneAction → Bool
  | .advanceQueue _ _ => true
  | .scheduledCheck => true
  | .processRequestedCheck => true
  | .advancePlane _ => true
  | .runOnce => true
  | .advanceWorker _ => true
  | _ => false

/-- Nobody works at the requests, and the worker takes none of them. -/
structure Blocked (plane : VersionPlane) : Prop where
  run : plane.run = none
  queue : plane.queueHolder = none
  requests : plane.disk.requests ≠ []
  stale : plane.disk.nextRun = none

theorem Blocked.step {action : PlaneAction} (hblocked : plane.Blocked)
    (haction : recovers action = true) (hstep : step settings plane action = some next) :
    next.Blocked := by
  obtain ⟨disk, run, checkRequests, check, queueHolder, planeHolder⟩ := plane
  obtain ⟨rfl, rfl, hreqs, hstale⟩ := hblocked
  dsimp only at hreqs hstale
  cases action with
  | advanceQueue operationId candidate =>
    cases hstep
    exact ⟨rfl, rfl, hreqs, hstale⟩
  | scheduledCheck =>
    dsimp only [VersionPlane.step] at hstep
    split at hstep <;> cases hstep <;> exact ⟨rfl, rfl, hreqs, hstale⟩
  | processRequestedCheck =>
    dsimp only [VersionPlane.step] at hstep
    split at hstep <;> cases hstep <;> exact ⟨rfl, rfl, hreqs, hstale⟩
  | advancePlane eligible =>
    dsimp only [VersionPlane.step] at hstep
    split at hstep
    next =>
      cases hstep
      exact ⟨rfl, rfl, hreqs, hstale⟩
    next phase =>
      cases hstep
      cases phase with
      | activating =>
        have hunfin : disk.anyActive = true ∨ disk.requests ≠ [] :=
          Or.inr hreqs
        dsimp only [stepPlane]
        rw [if_neg (by simp), if_pos hunfin]
        exact ⟨rfl, rfl, hreqs, hstale⟩
      | requesting | discovering | removing | queueing | reporting =>
        exact ⟨rfl, rfl, hreqs, hstale⟩
  | runOnce =>
    cases hstep
    exact ⟨hstale, rfl, hreqs, hstale⟩
  | advanceWorker answers =>
    cases hstep
    exact ⟨rfl, rfl, hreqs, hstale⟩
  | enqueue | enqueueUpdateCheck | killQueue | killPlane | killWorker => cases haction

theorem Blocked.run_not_accepting {actions : List PlaneAction} {last : VersionPlane}
    (hblocked : plane.Blocked) (hactions : ∀ action ∈ actions, recovers action = true)
    (hrun : runFrom (VersionPlane.step settings) plane actions = some last) :
    ¬ last.Accepting := by
  have hlast : last.Blocked := by
    have hreaches : Reaches (VersionPlane.step settings)
        (fun _ action => recovers action = true) plane last :=
      Reaches.of_runFrom (fun _ => hactions) hrun
    exact hreaches.invariant (P := Blocked)
      (fun _ _ _ hbefore haction hstep => hbefore.step haction hstep) hblocked
  exact fun haccepting => hlast.requests haccepting.requests

theorem Accepting.queueInvariant (hquiet : plane.Quiet) (haccepting : plane.Accepting) :
    plane.QueueInvariant := by
  have hnone : ∀ request, request ∉ plane.disk.requests := by
    simp [haccepting.requests]
  constructor
  case one => exact fun first hfirst => absurd hfirst (hnone first)
  case queued => exact fun request hreq => absurd hreq (hnone request)
  case active =>
    intro record hrec hact
    rw [haccepting.operations record hrec] at hact
    cases hact
  case source => exact fun _ request hreq => absurd hreq (hnone request)
  case run =>
    intro run hrun
    cases hquiet.run.symm.trans hrun
  case queue =>
    intro phase hphase
    cases hquiet.queue.symm.trans hphase

theorem Accepting.checkInvariant (hquiet : plane.Quiet) (haccepting : plane.Accepting) :
    plane.CheckInvariant settings := by
  constructor
  case one => simp [haccepting.checkRequests]
  case requesting => exact fun _ _ => haccepting.checkRequests
  case checking => exact fun _ hchecking => absurd hchecking haccepting.updateCheck
  case removing =>
    intro requestId hphase
    cases hquiet.plane.symm.trans hphase

/-- At any time at most one operation is unfinished, and whenever no program runs one
more round leaves nothing in the way of new operations and checks. -/
theorem one_unfinished_and_recovers {start : VersionPlane} {actions : List PlaneAction}
    (hquiet : start.Quiet) (haccepting : start.Accepting)
    (hmeet : StepsMeet (step settings)
      (fun plane action => plane.keepsQueue settings action = true) start actions)
    (hrun : runFrom (step settings) start actions = some plane) :
    (∀ first second, plane.disk.Unfinished first → plane.disk.Unfinished second →
      first = second) ∧
    (plane.Quiet → ∀ answers : RoundAnswers, answers.Writes →
      plane.disk.isFresh answers.operationId = true →
      ∃ after, runFrom (step settings) plane (recoveryRound answers) = some after ∧
        after.Quiet ∧ after.Accepting) := by
  have hreaches := Reaches.of_stepsMeet hmeet hrun
  have hqueue : plane.QueueInvariant := by
    apply hreaches.invariant (P := QueueInvariant)
    · exact fun _ _ _ hbefore hkept hstep => step_queueInvariant hbefore hkept hstep
    · exact haccepting.queueInvariant hquiet
  have hchecks : plane.CheckInvariant settings := by
    apply hreaches.invariant (P := CheckInvariant settings)
    · exact fun _ _ _ hbefore _ hstep => step_checkInvariant hbefore hstep
    · exact haccepting.checkInvariant hquiet
  exact ⟨fun _ _ => hqueue.unfinished_unique, fun hstill answers hwrites hfresh =>
    recoveryRound_ends hwrites hstill hqueue hchecks hfresh⟩

def twoPackagePlane : PlaneSettings where
  toManagerSettings := ManagerSystem.twoPackages
  catalog := [ManagerSystem.packageEntry 97, ManagerSystem.packageEntry 98]
  automaticUpdates := true

def planeOfA : VersionPlane :=
  ⟨⟨some ManagerSystem.releaseA, [], [], [], none⟩, none, [], none, none, none⟩

def wellAnswered : ManagerPhase → StepAnswer := fun _ => ⟨true, [[98]]⟩

/-- The service has decided to queue an update to `b` and writes its request. -/
def enqueuesUpdate (operationId : CodePoints) : List PlaneAction :=
  [.enqueue ⟨.update, [98]⟩, .advanceQueue operationId none, .advanceQueue operationId none]

/-- The update is queued, and the worker has just named `b` in `current.json`. -/
def untilDeployed : List PlaneAction :=
  enqueuesUpdate [49] ++ .advanceQueue [49] none :: .runOnce ::
    List.replicate 8 (.advanceWorker wellAnswered)

theorem killed_check_recovers :
    ∃ plane ∈ runFrom (step twoPackagePlane) planeOfA
        (untilDeployed ++ List.replicate 4 (.advanceWorker wellAnswered) ++
          [.scheduledCheck, .killPlane]),
      plane.updateCheck = some .checking ∧
      (∀ first second, plane.disk.Unfinished first → plane.disk.Unfinished second →
        first = second) ∧
      (plane.Quiet → ∀ answers : RoundAnswers, answers.Writes →
        plane.disk.isFresh answers.operationId = true →
        ∃ after, runFrom (step twoPackagePlane) plane (recoveryRound answers) = some after ∧
          after.Quiet ∧ after.Accepting) := by
  have hrun : ∃ plane ∈ runFrom (step twoPackagePlane) planeOfA
      (untilDeployed ++ List.replicate 4 (.advanceWorker wellAnswered) ++
        [.scheduledCheck, .killPlane]), plane.updateCheck = some .checking := by
    decide +kernel
  obtain ⟨plane, hplane, hchecking⟩ := hrun
  have hquiet : planeOfA.Quiet := ⟨rfl, rfl, rfl⟩
  have haccepting : planeOfA.Accepting := ⟨rfl, nofun, rfl, nofun⟩
  refine ⟨plane, hplane, hchecking, one_unfinished_and_recovers hquiet haccepting ?_ hplane⟩
  decide +kernel

/-- The service is killed after it has written a request, and queues another one; and
the worker is killed before it has removed the request whose package it has deployed, so
that no further run brings the plane back. -/
theorem two_unfinished_and_blocked :
    (∃ plane ∈ runFrom (step twoPackagePlane) planeOfA
        (enqueuesUpdate [49] ++ .killQueue :: enqueuesUpdate [50]),
      plane.disk.Unfinished [49] ∧ plane.disk.Unfinished [50]) ∧
    ∃ plane ∈ runFrom (step twoPackagePlane) planeOfA (untilDeployed ++ [.killWorker]),
      plane.Quiet ∧ ∀ actions last, (∀ action ∈ actions, recovers action = true) →
        runFrom (step twoPackagePlane) plane actions = some last → ¬ last.Accepting := by
  constructor
  · have htwo : ∃ plane ∈ runFrom (step twoPackagePlane) planeOfA
        (enqueuesUpdate [49] ++ .killQueue :: enqueuesUpdate [50]),
        (∃ request ∈ plane.disk.requests, request.name = [49]) ∧
          ∃ request ∈ plane.disk.requests, request.name = [50] := by
      decide +kernel
    obtain ⟨plane, hplane, hone, htwo⟩ := htwo
    exact ⟨plane, hplane, Or.inl hone, Or.inl htwo⟩
  · have hkilled : ∃ plane ∈ runFrom (step twoPackagePlane) planeOfA
        (untilDeployed ++ [.killWorker]),
        (plane.run = none ∧ plane.queueHolder = none ∧ plane.planeHolder = none) ∧
          plane.disk.requests ≠ [] ∧ plane.disk.nextRun = none := by
      decide +kernel
    obtain ⟨plane, hplane, ⟨hrun, hqueue, hholder⟩, hreqs, hstale⟩ := hkilled
    refine ⟨plane, hplane, ⟨hrun, hqueue, hholder⟩, fun actions last hactions hlast => ?_⟩
    exact Blocked.run_not_accepting ⟨hrun, hqueue, hreqs, hstale⟩ hactions hlast

end VersionPlane

end Nexolab
