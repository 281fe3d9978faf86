import Nexolab.TransitionSystem
import Nexolab.VersionFiles

/-!
# The version manager

The worker on the host takes the first request, verifies its package, makes a backup,
starts the installer and looks at what is running.  Only then does `current.json` name
the package.  Whether the installer was started is known to this run alone.
-/

namespace Nexolab

inductive VersionAction where
  | update
  | rollback

inductive OperationStatus where
  | queued
  | running
  | succeeded
  | failed
  deriving DecidableEq

def OperationStatus.isActive : OperationStatus → Bool
  | .queued => true
  | .running => true
  | .succeeded => false
  | .failed => false

structure DeployedRelease where
  (bundleId release sourceCommit platform schemaHead : CodePoints)
  previousBundleId : Option CodePoints
  (ready runtimeStateKnown : Bool)
  lastOperationId : Option CodePoints
  deriving DecidableEq

structure UpdateOperation where
  id : CodePoints
  action : VersionAction
  (sourceBundleId targetBundleId : CodePoints)
  status : OperationStatus

/-- A file in `requests` by its name without `.json`. -/
structure RequestFile where
  name : CodePoints
  operation : UpdateOperation

/-- A call of the installer, which may change the runtime as soon as it starts. -/
structure InstallerCall where
  bundleId : CodePoints
  completed : Bool
  /-- The revision of the database when the runtime was found as expected. -/
  verifiedSchema : Option CodePoints
  deriving DecidableEq

structure VersionDisk where
  current : Option DeployedRelease
  requests : List RequestFile
  /-- The records in `operations`, the latest first. -/
  operations : List (CodePoints × OperationStatus)
  /-- The operations with a dump, a finished or a partial one. -/
  backups : List CodePoints
  lastInstall : Option InstallerCall

namespace VersionDisk

variable (disk : VersionDisk)

def writeOperation (name : CodePoints) (status : OperationStatus) : VersionDisk :=
  { disk with
    operations :=
      if name ∈ disk.operations.map Prod.fst then
        disk.operations.map fun record =>
          if record.1 = name then (name, status) else record
      else (name, status) :: disk.operations }

def unlinkRequest (name : CodePoints) : VersionDisk :=
  { disk with requests := disk.requests.filter fun request => request.name ≠ name }

def writeRequest (request : RequestFile) : VersionDisk :=
  { disk with requests :=
      request :: disk.requests.filter fun other => other.name ≠ request.name }

end VersionDisk

/-! ## The worker -/

structure ManagerSettings where
  /-- The manifests in `catalog` which the verifier accepts, by their directories. -/
  packages : CodePoints → Option VersionCatalogEntry
  hostPlatform : Option CodePoints

def ManagerSettings.verifyStagedBundle (settings : ManagerSettings)
    (expectedId : CodePoints) : Option VersionCatalogEntry :=
  (settings.packages expectedId).filter fun manifest =>
    manifest.bundleId = expectedId ∧ settings.hostPlatform = some manifest.platform

def deployedSchemaAfter : VersionAction → CodePoints → CodePoints → CodePoints
  | .update, _, targetSchema => targetSchema
  | .rollback, currentSchema, _ => currentSchema

/-- Where `execute_request` is; each phase is one write or one call. -/
inductive ManagerPhase where
  | starting
  | verifyingPackage
  | checkingCapacity (target : VersionCatalogEntry)
  | creatingBackup (target : VersionCatalogEntry)
  | applyingUpdate (target : VersionCatalogEntry)
  | installing (target : VersionCatalogEntry)
  | verifyingRuntime (target : VersionCatalogEntry)
  | deploying (target : VersionCatalogEntry)
  | finishing
  | restoring
  | closing
  | unlinking
  deriving DecidableEq

structure ManagerRun where
  file : CodePoints
  operation : UpdateOperation
  current : DeployedRelease
  mutationStarted : Bool
  phase : ManagerPhase

/-- How a write or a call ends, and the revisions which the database names. -/
structure StepAnswer where
  succeeds : Bool
  revisions : List CodePoints

/-- `run_once` up to the first write; a request which does not fit stays. -/
def VersionDisk.nextRun (disk : VersionDisk) : Option ManagerRun := do
  let request ← (disk.requests.insertionSort fun first second =>
    first.name ≤ second.name).head?
  guard (request.name = request.operation.id)
  let current ← disk.current
  guard (request.operation.status = .queued ∧
    request.operation.sourceBundleId = current.bundleId)
  return {
    file := request.name
    operation := request.operation
    current
    mutationStarted := false
    phase := .starting }

namespace ManagerRun

variable (settings : ManagerSettings) (disk : VersionDisk) (run : ManagerRun)

def enter (phase : ManagerPhase) : ManagerRun := { run with phase }

def failed : ManagerRun :=
  { run with
    operation := { run.operation with status := .failed }
    phase := if run.mutationStarted then .restoring else .closing }

def verifiedTarget : Option VersionCatalogEntry := do
  let target ← settings.verifyStagedBundle run.operation.targetBundleId
  guard (run.current.schemaHead ∈
    match run.operation.action with
    | .update => target.upgradeFrom
    | .rollback => target.runtimeCompatibleSchemaHeads)
  let deployed ← settings.verifyStagedBundle run.current.bundleId
  guard (deployed.release = run.current.release ∧
    deployed.sourceCommit = run.current.sourceCommit)
  return target

def expectedSchema (target : VersionCatalogEntry) : CodePoints :=
  deployedSchemaAfter run.operation.action run.current.schemaHead target.schemaHead

def installerCall (completed : Bool) (verified : Option CodePoints) : InstallerCall :=
  ⟨run.operation.targetBundleId, completed, verified⟩

def deployedCurrent (target : VersionCatalogEntry) : DeployedRelease where
  bundleId := run.operation.targetBundleId
  release := target.release
  sourceCommit := target.sourceCommit
  platform := target.platform
  schemaHead := run.expectedSchema target
  previousBundleId := some run.current.bundleId
  ready := true
  runtimeStateKnown := true
  lastOperationId := some run.operation.id

/-- What the `except` branch makes of the release it has loaded. -/
def unknownCurrent : DeployedRelease :=
  { run.current with
    ready := false
    runtimeStateKnown := false
    lastOperationId := some run.operation.id }

/-- The next step of `execute_request`; after the last one there is no run. -/
def step (answer : StepAnswer) : VersionDisk × Option ManagerRun :=
  match run.phase with
  | .starting =>
    if answer.succeeds then
      (disk.writeOperation run.file .running, some { run with
        operation := { run.operation with status := .running }
        phase := .verifyingPackage })
    else (disk, none)
  | .verifyingPackage =>
    (disk.writeOperation run.file .running,
      match run.verifiedTarget settings with
      | some target =>
        if answer.succeeds then some (run.enter (.checkingCapacity target))
        else some run.failed
      | none => some run.failed)
  | .checkingCapacity target =>
    (disk.writeOperation run.file .running,
      if answer.succeeds then some (run.enter (.creatingBackup target))
      else some run.failed)
  | .creatingBackup target =>
    if run.operation.id ∈ disk.backups then
      (disk.writeOperation run.file .running, some run.failed)
    else
      ({ disk.writeOperation run.file .running with
          backups := run.operation.id :: disk.backups },
        if answer.succeeds then some (run.enter (.applyingUpdate target))
        else some run.failed)
  | .applyingUpdate target =>
    if answer.succeeds then
      ({ disk.writeOperation run.file .running with
          lastInstall := some (run.installerCall false none) },
        some { run with mutationStarted := true, phase := .installing target })
    else (disk.writeOperation run.file .running, some run.failed)
  | .installing target =>
    if answer.succeeds then
      ({ disk.writeOperation run.file .running with
          lastInstall := some (run.installerCall true none) },
        some (run.enter (.verifyingRuntime target)))
    else (disk, some run.failed)
  | .verifyingRuntime target =>
    if answer.succeeds ∧ answer.revisions = [run.expectedSchema target] then
      ({ disk.writeOperation run.file .running with
          lastInstall := some (run.installerCall true (some (run.expectedSchema target))) },
        some (run.enter (.deploying target)))
    else (disk.writeOperation run.file .running, some run.failed)
  | .deploying target =>
    if answer.succeeds then
      ({ disk with current := some (run.deployedCurrent target) }, some (run.enter .finishing))
    else (disk, some run.failed)
  | .finishing =>
    if answer.succeeds then
      (disk.writeOperation run.file .succeeded, some { run with
        operation := { run.operation with status := .succeeded }
        phase := .closing })
    else (disk, some run.failed)
  | .restoring =>
    (if answer.succeeds then { disk with current := some run.unknownCurrent } else disk,
      some (run.enter .closing))
  | .closing =>
    if answer.succeeds then
      (disk.writeOperation run.file run.operation.status, some (run.enter .unlinking))
    else (disk, none)
  | .unlinking => (disk.unlinkRequest run.file, none)

end ManagerRun

structure ManagerSystem where
  disk : VersionDisk
  run : Option ManagerRun

inductive ManagerAction where
  | queue (request : RequestFile)
  | start
  | advance (answer : StepAnswer)
  | kill

/-- One worker at a time has the lock; without a run its steps do nothing. -/
def ManagerSystem.step (settings : ManagerSettings) (system : ManagerSystem) :
    ManagerAction → Option ManagerSystem
  | .queue request => some { system with disk := system.disk.writeRequest request }
  | .start =>
    match system.run with
    | none => some { system with run := system.disk.nextRun }
    | some _ => none
  | .advance answer =>
    match system.run with
    | none => some system
    | some run =>
      some ⟨(run.step settings system.disk answer).1, (run.step settings system.disk answer).2⟩
  | .kill => some { system with run := none }

end Nexolab
