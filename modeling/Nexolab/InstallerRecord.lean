import Nexolab.VersionManager

/-!
# What the installer has left is on record

Unless a worker is lost between the start of the installer and its next write of
`current.json`, a release whose runtime is known is the one which was installed last and
verified.
-/

namespace Nexolab

/-- A known runtime is what the last call of the installer has left, verified. -/
def VersionDisk.Truthful (disk : VersionDisk) : Prop :=
  ∀ current, disk.current = some current → current.runtimeStateKnown = true →
    ∀ call, disk.lastInstall = some call → call = ⟨current.bundleId, true, some current.schemaHead⟩

theorem VersionDisk.truthful_congr {disk other : VersionDisk} (hcur : other.current = disk.current)
    (hinstall : other.lastInstall = disk.lastInstall) (htruth : disk.Truthful) :
    other.Truthful := by
  unfold VersionDisk.Truthful
  rw [hcur, hinstall]
  exact htruth

theorem VersionDisk.truthful_of_unknown {disk : VersionDisk} {current : DeployedRelease}
    (hcur : disk.current = some current)
    (hunknown : current.runtimeStateKnown = false) : disk.Truthful := by
  intro other hother hknown
  rw [hcur] at hother
  cases hother
  rw [hunknown] at hknown
  cases hknown

theorem VersionDisk.nextRun_spec {disk : VersionDisk} {run : ManagerRun}
    (hrun : disk.nextRun = some run) :
    disk.current = some run.current ∧ run.phase = .starting ∧ run.mutationStarted = false := by
  simp only [nextRun, Option.bind_eq_bind, Option.bind_eq_some_iff, Option.guard_eq_some',
    Option.pure_def, Option.some.injEq] at hrun
  obtain ⟨_, _, _, _, current, hcur, _, _, rfl⟩ := hrun
  exact ⟨hcur, rfl, rfl⟩

namespace ManagerRun

/-- The installer was started, and `current.json` is still the known release which the
run has loaded. -/
def unrecorded (disk : VersionDisk) (run : ManagerRun) : Bool :=
  run.mutationStarted && disk.current = some run.current && run.current.runtimeStateKnown

def Recorded (disk : VersionDisk) (run : ManagerRun) : Prop :=
  match run.phase with
  | .installing _ => run.mutationStarted = true ∧ disk.current = some run.current
  | .verifyingRuntime _ =>
    run.mutationStarted = true ∧ disk.current = some run.current ∧
      disk.lastInstall = some (run.installerCall true none)
  | .deploying target =>
    run.mutationStarted = true ∧ disk.current = some run.current ∧
      disk.lastInstall = some (run.installerCall true (some (run.expectedSchema target)))
  | .finishing => run.mutationStarted = true ∧ disk.Truthful
  | .restoring =>
    run.mutationStarted = true ∧ (disk.current = some run.current ∨ disk.Truthful)
  | .closing => disk.Truthful
  | .unlinking => disk.Truthful
  | _ => run.mutationStarted = false ∧ disk.current = some run.current ∧ disk.Truthful

variable {disk : VersionDisk} {run : ManagerRun}

theorem Recorded.truthful (hrecorded : run.Recorded disk)
    (hkept : run.unrecorded disk = false) : disk.Truthful := by
  have hunknown : run.mutationStarted = true → disk.current = some run.current → disk.Truthful := by
    intro hstarted hcur
    apply VersionDisk.truthful_of_unknown hcur
    simpa [unrecorded, hstarted, hcur] using hkept
  unfold Recorded at hrecorded
  split at hrecorded
  next => exact hunknown hrecorded.1 hrecorded.2
  next => exact hunknown hrecorded.1 hrecorded.2.1
  next => exact hunknown hrecorded.1 hrecorded.2.1
  next => exact hrecorded.2
  next => exact hrecorded.2.elim (hunknown hrecorded.1) id
  next => exact hrecorded
  next => exact hrecorded
  next => exact hrecorded.2.2

theorem failed_recorded
    (hstarted : run.mutationStarted = true →
      disk.current = some run.current ∨ disk.Truthful)
    (hnot : run.mutationStarted = false → disk.Truthful) :
    run.failed.Recorded disk := by
  cases hmutation : run.mutationStarted with
  | false => simpa [Recorded, failed, hmutation] using hnot hmutation
  | true => simpa [Recorded, failed, hmutation] using hstarted hmutation

def LeavesRecorded (result : VersionDisk × Option ManagerRun) : Prop :=
  match result.2 with
  | none => result.1.Truthful
  | some after => after.Recorded result.1

theorem writeOperation_truthful {name : CodePoints} {status : OperationStatus}
    (htruth : disk.Truthful) : (disk.writeOperation name status).Truthful :=
  VersionDisk.truthful_congr rfl rfl htruth

theorem untouched_failed {other : VersionDisk} (hnot : run.mutationStarted = false)
    (htruth : disk.Truthful) (hcur : other.current = disk.current)
    (hinstall : other.lastInstall = disk.lastInstall) : run.failed.Recorded other := by
  apply failed_recorded
  · intro hstarted
    rw [hnot] at hstarted
    cases hstarted
  · intro _
    exact VersionDisk.truthful_congr hcur hinstall htruth

theorem touched_failed {other : VersionDisk} (hstarted : run.mutationStarted = true)
    (hcur : other.current = some run.current) : run.failed.Recorded other := by
  apply failed_recorded
  · exact fun _ => Or.inl hcur
  · intro hnot
    rw [hstarted] at hnot
    cases hnot

theorem deployed_truthful {target : VersionCatalogEntry}
    (hcur : disk.current = some (run.deployedCurrent target))
    (hinstall : disk.lastInstall =
      some (run.installerCall true (some (run.expectedSchema target)))) :
    disk.Truthful := by
  intro current hfound _ call hcall
  rw [hcur] at hfound
  rw [hinstall] at hcall
  cases hfound
  cases hcall
  rfl

theorem step_recorded (settings : ManagerSettings) {answer : StepAnswer}
    (hrecorded : run.Recorded disk)
    (hkept : answer.succeeds = true ∨ run.phase ≠ .restoring ∨
      run.unrecorded disk = false) :
    LeavesRecorded (run.step settings disk answer) := by
  unfold step
  cases hphase : run.phase with
  | starting =>
    simp only [Recorded, hphase] at hrecorded
    obtain ⟨hnot, hcur, htruth⟩ := hrecorded
    dsimp only
    split
    next => exact ⟨hnot, hcur, writeOperation_truthful htruth⟩
    next => exact htruth
  | verifyingPackage =>
    simp only [Recorded, hphase] at hrecorded
    obtain ⟨hnot, hcur, htruth⟩ := hrecorded
    dsimp only
    split
    next target _ =>
      split
      next => exact ⟨hnot, hcur, writeOperation_truthful htruth⟩
      next => exact untouched_failed hnot htruth rfl rfl
    next => exact untouched_failed hnot htruth rfl rfl
  | checkingCapacity target =>
    simp only [Recorded, hphase] at hrecorded
    obtain ⟨hnot, hcur, htruth⟩ := hrecorded
    dsimp only
    split
    next => exact ⟨hnot, hcur, writeOperation_truthful htruth⟩
    next => exact untouched_failed hnot htruth rfl rfl
  | creatingBackup target =>
    simp only [Recorded, hphase] at hrecorded
    obtain ⟨hnot, hcur, htruth⟩ := hrecorded
    dsimp only
    split
    next => exact untouched_failed hnot htruth rfl rfl
    next =>
      split
      next => exact ⟨hnot, hcur, VersionDisk.truthful_congr rfl rfl htruth⟩
      next => exact untouched_failed hnot htruth rfl rfl
  | applyingUpdate target =>
    simp only [Recorded, hphase] at hrecorded
    obtain ⟨hnot, hcur, htruth⟩ := hrecorded
    dsimp only
    split
    next => exact ⟨rfl, hcur⟩
    next => exact untouched_failed hnot htruth rfl rfl
  | installing target =>
    simp only [Recorded, hphase] at hrecorded
    obtain ⟨hstarted, hcur⟩ := hrecorded
    dsimp only
    split
    next => exact ⟨hstarted, hcur, rfl⟩
    next => exact touched_failed hstarted hcur
  | verifyingRuntime target =>
    simp only [Recorded, hphase] at hrecorded
    obtain ⟨hstarted, hcur, _⟩ := hrecorded
    dsimp only
    split
    next => exact ⟨hstarted, hcur, rfl⟩
    next => exact touched_failed hstarted hcur
  | deploying target =>
    simp only [Recorded, hphase] at hrecorded
    obtain ⟨hstarted, hcur, hinstall⟩ := hrecorded
    dsimp only
    split
    next => exact ⟨hstarted, deployed_truthful rfl hinstall⟩
    next => exact touched_failed hstarted hcur
  | finishing =>
    simp only [Recorded, hphase] at hrecorded
    dsimp only
    split
    next => exact writeOperation_truthful hrecorded.2
    next => exact failed_recorded (fun _ => .inr hrecorded.2) fun _ => hrecorded.2
  | restoring =>
    dsimp only
    cases hanswer : answer.succeeds with
    | true => exact VersionDisk.truthful_of_unknown rfl rfl
    | false =>
      apply hrecorded.truthful
      simpa [hanswer, hphase] using hkept
  | closing =>
    simp only [Recorded, hphase] at hrecorded
    dsimp only
    split
    next => exact writeOperation_truthful hrecorded
    next => exact hrecorded
  | unlinking =>
    simp only [Recorded, hphase] at hrecorded
    exact VersionDisk.truthful_congr rfl rfl hrecorded

end ManagerRun

namespace ManagerSystem

variable {settings : ManagerSettings} {system next : ManagerSystem}

/-- No run is lost, nor its note that the runtime is unknown, while the installer is not
recorded. -/
def keepsRecord (system : ManagerSystem) : ManagerAction → Bool
  | .kill => system.run.all fun run => !run.unrecorded system.disk
  | .advance answer => system.run.all fun run =>
    answer.succeeds || run.phase ≠ .restoring || !run.unrecorded system.disk
  | _ => true

structure RecordInvariant (system : ManagerSystem) : Prop where
  idle : system.run = none → system.disk.Truthful
  running : ∀ run, system.run = some run → run.Recorded system.disk

theorem of_leavesRecorded {result : VersionDisk × Option ManagerRun}
    (hleaves : ManagerRun.LeavesRecorded result) : RecordInvariant ⟨result.1, result.2⟩ := by
  obtain ⟨disk, run⟩ := result
  cases run with
  | none => exact ⟨fun _ => hleaves, fun _ hrun => by cases hrun⟩
  | some run =>
    refine ⟨nofun, fun found hfound => ?_⟩
    cases hfound
    exact hleaves

theorem step_invariant {action : ManagerAction} (hinv : RecordInvariant system)
    (hkept : system.keepsRecord action = true)
    (hstep : system.step settings action = some next) : RecordInvariant next := by
  cases action with
  | queue request =>
    cases hstep
    exact ⟨fun hidle => VersionDisk.truthful_congr rfl rfl (hinv.idle hidle), hinv.running⟩
  | start =>
    dsimp only [ManagerSystem.step] at hstep
    split at hstep
    next hidle =>
      cases hstep
      have htruth := hinv.idle hidle
      refine ⟨fun _ => htruth, fun run hrun => ?_⟩
      obtain ⟨hcur, hphase, hnot⟩ := VersionDisk.nextRun_spec hrun
      simp only [ManagerRun.Recorded, hphase]
      exact ⟨hnot, hcur, htruth⟩
    next => cases hstep
  | advance answer =>
    dsimp only [ManagerSystem.step] at hstep
    split at hstep
    next => cases hstep; exact hinv
    next run hrun =>
      cases hstep
      have hleaves : ManagerRun.LeavesRecorded (run.step settings system.disk answer) := by
        apply ManagerRun.step_recorded settings (hinv.running run hrun)
        simpa [keepsRecord, hrun, or_assoc] using hkept
      exact of_leavesRecorded hleaves
  | kill =>
    cases hstep
    refine ⟨fun _ => ?_, fun _ hrun => by cases hrun⟩
    cases hrun : system.run with
    | none => exact hinv.idle hrun
    | some run =>
      apply (hinv.running run hrun).truthful
      simpa [keepsRecord, hrun] using hkept

/-- Whatever is queued, fails, is killed and is tried again: a runtime which is known while
no worker runs is the one which the installer has left last. -/
theorem installed_as_recorded {disk : VersionDisk} {actions : List ManagerAction}
    (hstart : disk.Truthful)
    (hmeet : StepsMeet (ManagerSystem.step settings)
      (fun system action => system.keepsRecord action = true) ⟨disk, none⟩ actions)
    (hrun : runFrom (ManagerSystem.step settings) ⟨disk, none⟩ actions = some system)
    (hidle : system.run = none) : system.disk.Truthful := by
  have hinv : RecordInvariant system := by
    apply (Reaches.of_stepsMeet hmeet hrun).invariant (P := RecordInvariant)
    · exact fun _ _ _ hbefore hkept hstep => step_invariant hbefore hkept hstep
    · exact ⟨fun _ => hstart, fun _ hrun => by cases hrun⟩
  exact hinv.idle hidle

/-! ## An interrupted update -/

def packageEntry (point : ℕ) : VersionCatalogEntry where
  bundleId := [point]
  release := [point]
  sourceCommit := List.replicate 40 point
  createdAt := [point]
  platform := codePoints "linux/amd64"
  schemaHead := [point]
  upgradeFrom := [[97]]
  runtimeCompatibleSchemaHeads := [[97]]
  manifestSha256 := [point]

def twoPackages : ManagerSettings where
  packages bundleId :=
    if bundleId = [97] then some (packageEntry 97)
    else if bundleId = [98] then some (packageEntry 98) else none
  hostPlatform := some (codePoints "linux/amd64")

def releaseA : DeployedRelease where
  bundleId := [97]
  release := [97]
  sourceCommit := List.replicate 40 97
  platform := codePoints "linux/amd64"
  schemaHead := [97]
  previousBundleId := none
  ready := true
  runtimeStateKnown := true
  lastOperationId := none

def updateToB : RequestFile :=
  ⟨[49], ⟨[49], .update, [97], [98], .queued⟩⟩

def diskOfA : VersionDisk := ⟨some releaseA, [], [], [], none⟩

def succeeding : ManagerAction := .advance ⟨true, [[98]]⟩

def untilInstaller : List ManagerAction :=
  .queue updateToB :: .start :: List.replicate 5 succeeding

theorem update_recorded :
    ∃ system ∈ runFrom (ManagerSystem.step twoPackages) ⟨diskOfA, none⟩
        (untilInstaller ++ List.replicate 6 succeeding),
      system.run = none ∧ system.disk.lastInstall = some ⟨[98], true, some [98]⟩ ∧
        system.disk.Truthful := by
  have hfinal : ∃ system ∈ runFrom (ManagerSystem.step twoPackages) ⟨diskOfA, none⟩
      (untilInstaller ++ List.replicate 6 succeeding),
      system.run = none ∧ system.disk.lastInstall = some ⟨[98], true, some [98]⟩ := by
    decide +kernel
  obtain ⟨system, hsystem, hidle, hinstall⟩ := hfinal
  refine ⟨system, hsystem, hidle, hinstall, ?_⟩
  refine installed_as_recorded ?_ ?_ hsystem hidle
  · intro _ _ _ _ hcall
    cases hcall
  · decide +kernel

/-- The worker is killed while the installer runs, and its next run finds the backup of
the first one: the release before the update is shown as known and ready. -/
theorem interrupted_update_unrecorded :
    ∃ system ∈ runFrom (ManagerSystem.step twoPackages) ⟨diskOfA, none⟩
        (untilInstaller ++ [.kill, .start] ++ List.replicate 6 succeeding),
      system.run = none ∧ system.disk.requests = [] ∧
        system.disk.current = some releaseA ∧ releaseA.runtimeStateKnown = true ∧
          system.disk.lastInstall = some ⟨[98], false, none⟩ ∧ ¬ system.disk.Truthful := by
  have hfinal : ∃ system ∈ runFrom (ManagerSystem.step twoPackages) ⟨diskOfA, none⟩
      (untilInstaller ++ [.kill, .start] ++ List.replicate 6 succeeding),
      system.run = none ∧ system.disk.requests = [] ∧
        system.disk.current = some releaseA ∧
          system.disk.lastInstall = some ⟨[98], false, none⟩ := by
    decide +kernel
  obtain ⟨system, hsystem, hidle, hreqs, hcur, hinstall⟩ := hfinal
  refine ⟨system, hsystem, hidle, hreqs, hcur, rfl, hinstall, ?_⟩
  intro htruth
  cases htruth releaseA hcur rfl _ hinstall

end ManagerSystem

end Nexolab
