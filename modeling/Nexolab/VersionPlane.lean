import Nexolab.VersionManager

/-!
# The update plane

The service and the update timer queue operations under one lock, update checks run
under another, and the version manager has a third.  Each program may be killed between
any two of its file operations; its lock is then free again.
-/

namespace Nexolab

structure PlaneSettings extends ManagerSettings where
  /-- `_catalog` of the service. -/
  catalog : List VersionCatalogEntry
  /-- `automatic_updates_enabled` of the policy. -/
  automaticUpdates : Bool

/-- `status` of `update-check.json`: `completed`, `blocked` and `failed` are final. -/
inductive CheckStatus where
  | checking
  | final
  deriving DecidableEq

structure UpdatePayload where
  action : VersionAction
  targetBundleId : CodePoints

inductive QueuePhase where
  /-- The service has read `current.json` and reads the operations. -/
  | reading (payload : UpdatePayload) (current : Option DeployedRelease)
  /-- The timer has found nothing unfinished and looks for its package. -/
  | revalidating
  | writing (scheduled : Bool) (request : RequestFile)
  | recording (scheduled : Bool) (request : RequestFile)

/-- What the holder of `update-plane.lock` does next. -/
inductive PlanePhase where
  /-- The service writes the request for a check. -/
  | requesting (requestId : CodePoints)
  /-- `discover`, for a request or for the timer. -/
  | discovering (requestId : Option CodePoints)
  | removing (requestId : CodePoints)
  /-- The timer waits for `queue.lock`. -/
  | activating
  /-- The timer has `queue.lock` too. -/
  | queueing
  | reporting

structure VersionPlane where
  disk : VersionDisk
  run : Option ManagerRun
  /-- The files in `update-check-requests`. -/
  checkRequests : List CodePoints
  updateCheck : Option CheckStatus
  queueHolder : Option QueuePhase
  planeHolder : Option PlanePhase

inductive PlaneAction where
  | enqueue (payload : UpdatePayload)
  /-- The holder of `queue.lock` goes on: with a new identifier, and with the package
  which `validated_candidate_bundle` finds. -/
  | advanceQueue (operationId : CodePoints) (candidate : Option CodePoints)
  | enqueueUpdateCheck (requestId : CodePoints)
  | scheduledCheck
  | processRequestedCheck
  /-- The holder of `update-plane.lock` goes on: with the result of `discover`. -/
  | advancePlane (eligible : Bool)
  | runOnce
  /-- The worker goes on: with the answer to each of its phases. -/
  | advanceWorker (answers : ManagerPhase → StepAnswer)
  | killQueue
  | killPlane
  | killWorker

/-- What the service checks of the release and the target, once nothing is active. -/
def PlaneSettings.admits (settings : PlaneSettings) (current : DeployedRelease)
    (payload : UpdatePayload) : Bool :=
  current.runtimeStateKnown &&
    (settings.catalog.find? fun entry => entry.bundleId = current.bundleId).any
      (fun entry => entry.release = current.release &&
        entry.sourceCommit = current.sourceCommit && entry.platform = current.platform) &&
    (settings.catalog.find? fun entry => entry.bundleId = payload.targetBundleId).any fun target =>
        target.platform = current.platform && target.bundleId ≠ current.bundleId &&
          match payload.action with
          | .update => current.schemaHead ∈ target.upgradeFrom
          | .rollback => current.previousBundleId = some target.bundleId &&
              current.schemaHead ∈ target.runtimeCompatibleSchemaHeads

namespace VersionDisk

variable (disk : VersionDisk)

/-- `active_operation` of the service, which looks at the latest hundred. -/
def activeOperation : Bool := (disk.operations.take 100).any fun record => record.2.isActive

def anyActive : Bool := disk.operations.any fun record => record.2.isActive

def isFresh (operationId : CodePoints) : Bool :=
  operationId ∉ disk.requests.map RequestFile.name && operationId ∉ disk.operations.map Prod.fst

end VersionDisk

def queuedRequest (operationId : CodePoints) (action : VersionAction)
    (source target : CodePoints) : RequestFile :=
  ⟨operationId, ⟨operationId, action, source, target, .queued⟩⟩

/-! ## Steps -/

namespace VersionPlane

variable (settings : PlaneSettings) (plane : VersionPlane)

def releaseQueue (scheduled : Bool) : VersionPlane :=
  { plane with
    queueHolder := none
    planeHolder := if scheduled then some .reporting else plane.planeHolder }

/-- `_enqueue_locked` and `enqueue_scheduled_activation` under `queue.lock` -/
def stepQueue (operationId : CodePoints) (candidate : Option CodePoints) :
    QueuePhase → Option VersionPlane
  | .reading payload current =>
    match current with
    | none => some (plane.releaseQueue false)
    | some current =>
      if plane.disk.activeOperation ∨ ¬ settings.admits current payload then
        some (plane.releaseQueue false)
      else if plane.disk.isFresh operationId then
        some { plane with queueHolder := some (.writing false (queuedRequest
          operationId payload.action current.bundleId payload.targetBundleId)) }
      else none
  | .revalidating =>
    match plane.disk.current, candidate with
    | some current, some target =>
      if plane.disk.isFresh operationId then
        some { plane with queueHolder := some (.writing true (queuedRequest
          operationId .update current.bundleId target)) }
      else none
    | _, _ => some (plane.releaseQueue true)
  | .writing scheduled request =>
    some { plane with
      disk := plane.disk.writeRequest request
      queueHolder := some (.recording scheduled request) }
  | .recording scheduled request =>
    some ({ plane with
      disk := plane.disk.writeOperation request.name .queued }.releaseQueue scheduled)

def stepPlane (eligible : Bool) : PlanePhase → VersionPlane
  | .requesting requestId =>
    { plane with checkRequests := requestId :: plane.checkRequests, planeHolder := none }
  | .discovering requestId =>
    { plane with
      updateCheck := some .final
      planeHolder :=
        match requestId with
        | some requestId => some (.removing requestId)
        | none => if eligible then some .activating else none }
  | .removing requestId =>
    { plane with
      checkRequests := plane.checkRequests.filter fun other => other ≠ requestId
      planeHolder := none }
  | .activating =>
    if plane.queueHolder.isSome then plane
    else if plane.disk.anyActive ∨ plane.disk.requests ≠ [] then
      { plane with planeHolder := some .reporting }
    else { plane with queueHolder := some .revalidating, planeHolder := some .queueing }
  | .queueing => plane
  | .reporting => { plane with updateCheck := some .final, planeHolder := none }

/-- Whoever waits for a lock, and a program which does not run, does nothing. -/
def step (plane : VersionPlane) : PlaneAction → Option VersionPlane
  | .enqueue payload =>
    if plane.queueHolder.isSome then some plane
    else some { plane with queueHolder := some (.reading payload plane.disk.current) }
  | .advanceQueue operationId candidate =>
    match plane.queueHolder with
    | none => some plane
    | some phase => plane.stepQueue settings operationId candidate phase
  | .enqueueUpdateCheck requestId =>
    if plane.planeHolder.isSome ∨ plane.disk.activeOperation ∨
        plane.checkRequests ≠ [] ∨ plane.updateCheck = some .checking then some plane
    else some { plane with planeHolder := some (.requesting requestId) }
  | .scheduledCheck =>
    if plane.planeHolder.isSome ∨ ¬ settings.automaticUpdates then some plane
    else some { plane with
      updateCheck := some .checking, planeHolder := some (.discovering none) }
  | .processRequestedCheck =>
    match plane.planeHolder, (plane.checkRequests.insertionSort (· ≤ ·)).head? with
    | none, some requestId =>
      some { plane with
        updateCheck := some .checking
        planeHolder := some (.discovering (some requestId)) }
    | _, _ => some plane
  | .advancePlane eligible =>
    match plane.planeHolder with
    | none => some plane
    | some phase => some (plane.stepPlane eligible phase)
  | .runOnce =>
    if plane.run.isSome then some plane
    else some { plane with run := plane.disk.nextRun }
  | .advanceWorker answers =>
    match plane.run with
    | none => some plane
    | some run =>
      some { plane with
        disk := (run.step settings.toManagerSettings plane.disk (answers run.phase)).1
        run := (run.step settings.toManagerSettings plane.disk (answers run.phase)).2 }
  | .killQueue =>
    match plane.queueHolder, plane.planeHolder with
    | none, _ => some plane
    | some _, some .queueing => some { plane with queueHolder := none, planeHolder := none }
    | some _, _ => some { plane with queueHolder := none }
  | .killPlane =>
    match plane.planeHolder with
    | some .queueing => some { plane with queueHolder := none, planeHolder := none }
    | _ => some { plane with planeHolder := none }
  | .killWorker => some { plane with run := none }

end VersionPlane

end Nexolab
