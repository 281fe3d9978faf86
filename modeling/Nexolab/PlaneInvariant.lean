import Nexolab.VersionPlane

/-!
# One unfinished operation

An operation is its request first, and its record is active only while the request is
there.  The request fits the deployed release until the worker which has deployed
another one removes it.
-/

namespace Nexolab

namespace VersionDisk

variable (disk : VersionDisk)

def Unfinished (name : CodePoints) : Prop :=
  (∃ request ∈ disk.requests, request.name = name) ∨
    ∃ record ∈ disk.operations, record.1 = name ∧ record.2.isActive = true

def deploys (bundleId : CodePoints) : Bool :=
  disk.current.map DeployedRelease.bundleId = some bundleId

def Finished (name : CodePoints) : Prop :=
  (∃ record ∈ disk.operations, record.1 = name) ∧
    ∀ record ∈ disk.operations, record.1 = name → record.2.isActive = false

variable {status : OperationStatus}

variable {name : CodePoints} {record : CodePoints × OperationStatus}

theorem mem_writeOperation {disk : VersionDisk}
    (hrec : record ∈ (disk.writeOperation name status).operations) :
    record = (name, status) ∨ record ∈ disk.operations ∧ record.1 ≠ name := by
  unfold writeOperation at hrec
  dsimp only at hrec
  split at hrec
  next =>
    obtain ⟨before, hbefore, rfl⟩ := List.mem_map.mp hrec
    split
    next => exact Or.inl rfl
    next hother => exact Or.inr ⟨hbefore, hother⟩
  next hnew =>
    rcases List.mem_cons.mp hrec with rfl | hold
    · exact Or.inl rfl
    · refine Or.inr ⟨hold, ?_⟩
      rintro rfl
      exact hnew (List.mem_map_of_mem hold)

theorem mem_writeOperation_self {disk : VersionDisk} :
    (name, status) ∈ (disk.writeOperation name status).operations := by
  unfold writeOperation
  dsimp only
  split
  next hknown =>
    obtain ⟨record, hrec, hname⟩ := List.mem_map.mp hknown
    exact List.mem_map.mpr ⟨record, hrec, if_pos hname⟩
  next => exact List.mem_cons_self

theorem mem_writeOperation_of_ne {disk : VersionDisk}
    (hrec : record ∈ disk.operations) (hother : record.1 ≠ name) :
    record ∈ (disk.writeOperation name status).operations := by
  unfold writeOperation
  dsimp only
  split
  next => exact List.mem_map.mpr ⟨record, hrec, if_neg hother⟩
  next => exact List.mem_cons_of_mem _ hrec

theorem finished_writeOperation {disk : VersionDisk} (hfinal : status.isActive = false) :
    (disk.writeOperation name status).Finished name := by
  refine ⟨⟨_, mem_writeOperation_self, rfl⟩, fun record hrec hname => ?_⟩
  rcases mem_writeOperation hrec with rfl | ⟨_, hother⟩
  · exact hfinal
  · exact absurd hname hother

theorem Finished.writeOperation {disk : VersionDisk} {name other : CodePoints}
    (hfinished : disk.Finished name) (hother : name ≠ other) :
    (disk.writeOperation other status).Finished name := by
  obtain ⟨⟨record, hrec, rfl⟩, hinact⟩ := hfinished
  refine ⟨⟨record, mem_writeOperation_of_ne hrec hother, rfl⟩, fun later hlater hname => ?_⟩
  rcases mem_writeOperation hlater with rfl | ⟨hbefore, _⟩
  · exact absurd hname.symm hother
  · exact hinact later hbefore hname

end VersionDisk

/-- The request of a run is there, and `current.json` is changed in its last phases
only. -/
structure ManagerRun.Fits (disk : VersionDisk) (run : ManagerRun) : Prop where
  request : ∃ request ∈ disk.requests, request.name = run.file ∧
    request.operation.sourceBundleId = run.operation.sourceBundleId
  loaded : run.current.bundleId = run.operation.sourceBundleId
  phase :
    match run.phase with
    | .finishing => True
    | .restoring => run.operation.status.isActive = false
    | .closing => run.operation.status.isActive = false
    | .unlinking => disk.Finished run.file
    | _ => disk.deploys run.operation.sourceBundleId = true

def QueuePhase.Fits (disk : VersionDisk) : QueuePhase → Prop
  | .reading _ _ => True
  | .revalidating => disk.requests = []
  | .writing _ request =>
    disk.requests = [] ∧ request.name = request.operation.id ∧ request.operation.status = .queued ∧
        disk.deploys request.operation.sourceBundleId = true
  | .recording _ request =>
    (∃ other ∈ disk.requests, other.name = request.name) ∨ disk.Finished request.name

structure VersionPlane.QueueInvariant (plane : VersionPlane) : Prop where
  one : ∀ first ∈ plane.disk.requests, ∀ second ∈ plane.disk.requests, first = second
  queued : ∀ request ∈ plane.disk.requests, request.name = request.operation.id ∧
    request.operation.status = .queued
  active : ∀ record ∈ plane.disk.operations, record.2.isActive = true →
    ∃ request ∈ plane.disk.requests, request.name = record.1
  source : plane.run = none → ∀ request ∈ plane.disk.requests,
    plane.disk.deploys request.operation.sourceBundleId = true
  run : ∀ run, plane.run = some run → run.Fits plane.disk
  queue : ∀ phase, plane.queueHolder = some phase → phase.Fits plane.disk

/-- A manual check is pending as long as it is `checking`, unless the timer may have
started it. -/
structure VersionPlane.CheckInvariant (settings : PlaneSettings) (plane : VersionPlane) :
    Prop where
  one : plane.checkRequests.length ≤ 1
  requesting : ∀ requestId, plane.planeHolder = some (.requesting requestId) →
    plane.checkRequests = []
  checking : settings.automaticUpdates = false → plane.updateCheck = some .checking →
    plane.checkRequests ≠ []
  removing : ∀ requestId, plane.planeHolder = some (.removing requestId) →
    plane.updateCheck = some .final

theorem VersionPlane.QueueInvariant.unfinished_unique {plane : VersionPlane}
    (hinv : plane.QueueInvariant) {first second : CodePoints}
    (hfirst : plane.disk.Unfinished first) (hsecond : plane.disk.Unfinished second) :
    first = second := by
  have hreq : ∀ name, plane.disk.Unfinished name →
      ∃ request ∈ plane.disk.requests, request.name = name := by
    rintro name (hfound | ⟨record, hrec, rfl, hact⟩)
    · exact hfound
    · exact hinv.active record hrec hact
  obtain ⟨one, hone, rfl⟩ := hreq first hfirst
  obtain ⟨two, htwo, rfl⟩ := hreq second hsecond
  rw [hinv.one one hone two htwo]

/-! ## The worker -/

namespace ManagerRun

variable {settings : ManagerSettings} {disk : VersionDisk} {run : ManagerRun}
  {answer : StepAnswer}

/-- The files a step of the worker may change, while its request is there. -/
structure KeepsFiles (disk : VersionDisk) (run : ManagerRun) (after : VersionDisk) : Prop where
  requests : after.requests = disk.requests
  records : ∀ record ∈ after.operations, record ∈ disk.operations ∨ record.1 = run.file
  finished : ∀ name, name ≠ run.file → disk.Finished name → after.Finished name

variable {after : VersionDisk}

theorem KeepsFiles.of_eq (hreqs : after.requests = disk.requests)
    (hoperations : after.operations = disk.operations) : KeepsFiles disk run after := by
  refine ⟨hreqs, fun record hrec => Or.inl (hoperations ▸ hrec), ?_⟩
  intro name _ hfinished
  unfold VersionDisk.Finished
  rw [hoperations]
  exact hfinished

theorem KeepsFiles.of_write {status : OperationStatus} (hreqs : after.requests = disk.requests)
    (hoperations : after.operations =
      (disk.writeOperation run.file status).operations) : KeepsFiles disk run after := by
  refine ⟨hreqs, fun record hrec => ?_, fun name hname hfinished => ?_⟩
  · rw [hoperations] at hrec
    rcases VersionDisk.mem_writeOperation hrec with rfl | ⟨hbefore, _⟩
    · exact Or.inr rfl
    · exact Or.inl hbefore
  · unfold VersionDisk.Finished
    rw [hoperations]
    exact hfinished.writeOperation hname

theorem step_keepsFiles (hphase : run.phase ≠ .unlinking) :
    KeepsFiles disk run (run.step settings disk answer).1 := by
  unfold step
  cases hcase : run.phase with
  | unlinking => exact absurd hcase hphase
  | starting | applyingUpdate target | installing target | verifyingRuntime target
  | deploying target | finishing | closing =>
    dsimp only
    split <;> first | exact .of_eq rfl rfl | exact .of_write rfl rfl
  | verifyingPackage | checkingCapacity target => exact .of_write rfl rfl
  | creatingBackup target =>
    dsimp only
    split <;> exact .of_write rfl rfl
  | restoring =>
    dsimp only
    split <;> exact .of_eq rfl rfl

theorem Fits.of_same (hfits : run.Fits disk) (later : ManagerRun)
    (hreqs : after.requests = disk.requests) (hfile : later.file = run.file)
    (hsrc : later.operation.sourceBundleId = run.operation.sourceBundleId)
    (hcur : later.current = run.current)
    (hphase : match later.phase with
      | .finishing => True
      | .restoring => later.operation.status.isActive = false
      | .closing => later.operation.status.isActive = false
      | .unlinking => after.Finished later.file
      | _ => after.deploys later.operation.sourceBundleId = true) : later.Fits after := by
  refine ⟨?_, ?_, hphase⟩
  · rw [hreqs, hfile, hsrc]
    exact hfits.request
  · rw [hcur, hsrc]
    exact hfits.loaded

theorem Fits.of_others (hfits : run.Fits disk)
    (hreqs : after.requests = disk.requests) (hcur : after.current = disk.current)
    (hfinished : disk.Finished run.file → after.Finished run.file) : run.Fits after := by
  have hdeploys : after.deploys run.operation.sourceBundleId =
      disk.deploys run.operation.sourceBundleId := by
    unfold VersionDisk.deploys
    rw [hcur]
  have hphase := hfits.phase
  apply hfits.of_same run hreqs rfl rfl rfl
  rw [hdeploys]
  cases hcase : run.phase with
  | unlinking =>
    rw [hcase] at hphase
    exact hfinished hphase
  | _ =>
    rw [hcase] at hphase
    exact hphase

theorem Fits.failed (hfits : run.Fits disk)
    (hreqs : after.requests = disk.requests) : run.failed.Fits after := by
  refine hfits.of_same run.failed hreqs rfl rfl rfl ?_
  cases hstarted : run.mutationStarted with
  | false => simp [ManagerRun.failed, hstarted, OperationStatus.isActive]
  | true => simp [ManagerRun.failed, hstarted, OperationStatus.isActive]

theorem step_fits {next : ManagerRun} (hfits : run.Fits disk)
    (hnext : (run.step settings disk answer).2 = some next) :
    next.Fits (run.step settings disk answer).1 := by
  have hphase := hfits.phase
  unfold step at hnext ⊢
  cases hcase : run.phase with
  | starting =>
    rw [hcase] at hphase hnext
    dsimp only at hphase hnext ⊢
    split at hnext
    next hsucceeds =>
      cases hnext
      rw [if_pos hsucceeds]
      exact hfits.of_same _ rfl rfl rfl rfl hphase
    next => cases hnext
  | verifyingPackage =>
    rw [hcase] at hphase hnext
    dsimp only at hphase hnext ⊢
    split at hnext
    next =>
      split at hnext
      next =>
        cases hnext
        exact hfits.of_same _ rfl rfl rfl rfl hphase
      next =>
        cases hnext
        exact hfits.failed rfl
    next =>
      cases hnext
      exact hfits.failed rfl
  | checkingCapacity target =>
    rw [hcase] at hphase hnext
    dsimp only at hphase hnext ⊢
    split at hnext
    next =>
      cases hnext
      exact hfits.of_same _ rfl rfl rfl rfl hphase
    next =>
      cases hnext
      exact hfits.failed rfl
  | creatingBackup target =>
    rw [hcase] at hphase hnext
    dsimp only at hphase hnext ⊢
    split at hnext
    next hexists =>
      cases hnext
      rw [if_pos hexists]
      exact hfits.failed rfl
    next hnew =>
      rw [if_neg hnew]
      dsimp only at hnext ⊢
      split at hnext
      next =>
        cases hnext
        exact hfits.of_same _ rfl rfl rfl rfl hphase
      next =>
        cases hnext
        exact hfits.failed rfl
  | applyingUpdate target | installing target | verifyingRuntime target =>
    rw [hcase] at hphase hnext
    dsimp only at hphase hnext ⊢
    split at hnext
    next hsucceeds =>
      cases hnext
      rw [if_pos hsucceeds]
      exact hfits.of_same _ rfl rfl rfl rfl hphase
    next hfails =>
      cases hnext
      rw [if_neg hfails]
      exact hfits.failed rfl
  | deploying target =>
    rw [hcase] at hnext
    dsimp only at hnext ⊢
    split at hnext
    next hsucceeds =>
      cases hnext
      rw [if_pos hsucceeds]
      exact hfits.of_same _ rfl rfl rfl rfl trivial
    next hfails =>
      cases hnext
      rw [if_neg hfails]
      exact hfits.failed rfl
  | finishing =>
    rw [hcase] at hnext
    dsimp only at hnext ⊢
    split at hnext
    next hsucceeds =>
      cases hnext
      rw [if_pos hsucceeds]
      exact hfits.of_same _ rfl rfl rfl rfl rfl
    next hfails =>
      cases hnext
      rw [if_neg hfails]
      exact hfits.failed rfl
  | restoring =>
    rw [hcase] at hphase hnext
    dsimp only at hphase hnext ⊢
    cases hnext
    refine hfits.of_same _ ?_ rfl rfl rfl hphase
    split <;> rfl
  | closing =>
    rw [hcase] at hphase hnext
    dsimp only at hphase hnext ⊢
    split at hnext
    next hsucceeds =>
      cases hnext
      rw [if_pos hsucceeds]
      exact hfits.of_same _ rfl rfl rfl rfl (VersionDisk.finished_writeOperation hphase)
    next => cases hnext
  | unlinking =>
    rw [hcase] at hnext
    cases hnext

theorem step_unlinking (hphase : run.phase = .unlinking) :
    run.step settings disk answer = (disk.unlinkRequest run.file, none) := by
  unfold step
  rw [hphase]

theorem step_ends (hfits : run.Fits disk)
    (hkept : run.phase = .closing → answer.succeeds = true ∨
      disk.deploys run.operation.sourceBundleId = true)
    (hnext : (run.step settings disk answer).2 = none) :
    run.phase = .unlinking ∨ (run.step settings disk answer).1 = disk ∧
        disk.deploys run.operation.sourceBundleId = true := by
  have hphase := hfits.phase
  unfold step at hnext ⊢
  cases hcase : run.phase with
  | starting =>
    rw [hcase] at hphase hnext
    dsimp only at hphase hnext ⊢
    split at hnext
    next => cases hnext
    next hfails =>
      rw [if_neg hfails]
      exact Or.inr ⟨rfl, hphase⟩
  | verifyingPackage =>
    rw [hcase] at hnext
    dsimp only at hnext
    split at hnext
    next => split at hnext <;> cases hnext
    next => cases hnext
  | creatingBackup target =>
    rw [hcase] at hnext
    dsimp only at hnext
    split at hnext
    next => cases hnext
    next =>
      dsimp only at hnext
      split at hnext <;> cases hnext
  | checkingCapacity target | applyingUpdate target | installing target
  | verifyingRuntime target | deploying target | finishing =>
    rw [hcase] at hnext
    dsimp only at hnext
    split at hnext <;> cases hnext
  | restoring =>
    rw [hcase] at hnext
    cases hnext
  | closing =>
    rw [hcase] at hnext
    dsimp only at hnext ⊢
    split at hnext
    next => cases hnext
    next hfails =>
      rw [if_neg hfails]
      exact Or.inr ⟨rfl, (hkept hcase).resolve_left hfails⟩
  | unlinking => exact Or.inl rfl

end ManagerRun

end Nexolab
