import Mathlib.Data.Prod.Lex
import Mathlib.Data.String.Basic
import Nexolab.CommissioningRows
import Nexolab.VersionTimeline

/-!
# Operations on commissioning sessions

An operator creates, edits and cancels a session.  A preflight and an activation
each have two transactions, one before the device agent is asked and one after
it has answered.  Every operation here is one transaction.
-/

namespace Nexolab

/-- A field of a patch is left out, cleared or given. -/
structure CommissioningPatch where
  (deviceClass manufacturer model profileId nodeId busId : Option (Option String))
  stableTransportIdentifier : Option (Option String)
  unitId : Option (Option ℕ)
  (ipAddress targetEquipmentKey : Option (Option String))
  deriving DecidableEq

namespace CommissioningPatch

def unchanged : CommissioningPatch :=
  ⟨none, none, none, none, none, none, none, none, none, none⟩

def merge (patch : CommissioningPatch) (values : CommissioningValues) :
    Option CommissioningValues := do
  let deviceClass ← patch.deviceClass.getD (some values.deviceClass)
  let manufacturer ← patch.manufacturer.getD (some values.manufacturer)
  let model ← patch.model.getD (some values.model)
  if deviceClass = "" ∨ manufacturer = "" ∨ model = "" then none
  else
    some { deviceClass, manufacturer, model
           profileId := patch.profileId.getD values.profileId
           nodeId := patch.nodeId.getD values.nodeId
           busId := patch.busId.getD values.busId
           stableTransportIdentifier :=
             patch.stableTransportIdentifier.getD values.stableTransportIdentifier
           unitId := patch.unitId.getD values.unitId
           ipAddress := patch.ipAddress.getD values.ipAddress
           targetEquipmentKey :=
             patch.targetEquipmentKey.getD values.targetEquipmentKey }

end CommissioningPatch

def normalizeCommissioningKey (value : String) : Except CommissioningError String :=
  let normalized := stripText value
  if normalized = "" ∨ 128 < normalized.length then
    .error (.lifecycleConflict "Idempotency-Key must be 1..128 characters")
  else .ok normalized

/-- The transport and the equipment of a session which has them all. -/
structure CommissioningIntent where
  (nodeId busId stableTransportIdentifier : String)
  unitId : ℕ
  targetEquipmentKey : String

def CommissioningValues.intent (values : CommissioningValues) :
    Option CommissioningIntent :=
  if values.complete then do
    let nodeId ← values.nodeId
    let busId ← values.busId
    let stableTransportIdentifier ← values.stableTransportIdentifier
    let unitId ← values.unitId
    let targetEquipmentKey ← values.targetEquipmentKey
    some ⟨nodeId, busId, stableTransportIdentifier, unitId, targetEquipmentKey⟩
  else none

namespace CommissioningDatabase

variable (database : CommissioningDatabase)

def validateTargetEquipment (organizationId : String)
    (targetEquipmentKey : Option String) (rejectActiveControllerBinding : Bool) :
    Except CommissioningError Unit :=
  let equipmentId := targetEquipmentKey.getD ""
  if equipmentId = "" then .ok ()
  else do
    rejectIf (¬ database.tables.available organizationId equipmentId)
      (.equipmentReference "Target equipment is unavailable in the active organization")
    rejectIf (rejectActiveControllerBinding ∧
        (database.tables.activeBinding organizationId equipmentId).isSome)
      (.equipmentReference "Target equipment already has an active controller binding")

def createSession (organizationId idempotencyKey sessionId : String)
    (payload : CommissioningValues) :
    Except CommissioningError CommissioningDatabase := do
  let key ← normalizeCommissioningKey idempotencyKey
  match database.sessions.find? fun row =>
      row.organizationId = organizationId && row.createIdempotencyKey = key with
  | some existing =>
    rejectIf (existing.createFingerprint ≠ payload) (.idempotencyConflict
        "Idempotency-Key was already used for a different commissioning draft")
    return database
  | none =>
    let resolved := resolveValues payload
    database.validateTargetEquipment organizationId resolved.targetEquipmentKey
      (isSupportedControllerIntent resolved.toCommissioningValues)
    rejectIf (∃ row ∈ database.sessions, row.id = sessionId) .notPersisted
    let row : CommissioningSession := { resolved with
      id := sessionId
      organizationId
      createIdempotencyKey := key
      createFingerprint := payload
      version := 1 }
    return { database with sessions := database.sessions ++ [row] }

def updateSession (organizationId sessionId : String) (expectedVersion : ℕ)
    (patch : CommissioningPatch) :
    Except CommissioningError CommissioningDatabase := do
  rejectIf (patch = .unchanged)
    (.lifecycleConflict "commissioning update must change at least one field")
  let row ← database.lockedCommissioning organizationId sessionId
  rejectIf (row.version ≠ expectedVersion) (.versionConflict expectedVersion row.version)
  rejectIf (row.lifecycle = .cancelled)
    (.lifecycleConflict "cancelled commissioning sessions are read-only")
  rejectIf (row.lifecycle = .pendingActivation ∨ row.lifecycle = .active) (.lifecycleConflict
      "active commissioning workflow must be rolled back before editing intent")
  let merged ← orReject (.lifecycleConflict "device_class, manufacturer and model are required")
    (patch.merge row.toCommissioningValues)
  let resolved := resolveValues merged
  database.validateTargetEquipment organizationId resolved.targetEquipmentKey
    (isSupportedControllerIntent resolved.toCommissioningValues)
  return database.setSession { row with
    toResolvedValues := resolved
    version := row.version + 1 }

def cancelSession (organizationId sessionId : String) (expectedVersion : ℕ) :
    Except CommissioningError CommissioningDatabase := do
  let row ← database.lockedCommissioning organizationId sessionId
  rejectIf (row.version ≠ expectedVersion) (.versionConflict expectedVersion row.version)
  if row.lifecycle = .cancelled then return database
  else
    rejectIf (row.lifecycle = .pendingActivation ∨ row.lifecycle = .active)
      (.lifecycleConflict ("active commissioning workflow cannot be cancelled; " ++
        "use controlled rollback/deactivation"))
    return database.setSession { row with
      lifecycle := .cancelled
      version := row.version + 1 }

def preflightCommand (settings : CommissioningSettings) (row : CommissioningSession) :
    Except CommissioningError PreflightCommand := do
  rejectIf (row.lifecycle ∉ [CommissioningLifecycle.readyForPreflight, .verified,
      .activationFailed, .rolledBack])
    (.lifecycleConflict ("Commissioning session is not eligible for read-only " ++
      "preflight verification"))
  let profile ← orReject (.lifecycleConflict "Commissioning profile is unavailable or stale")
    (supportedProfile row.profileId)
  rejectIf (row.profileVersion ≠ some profile.version)
    (.lifecycleConflict "Commissioning profile is unavailable or stale")
  rejectIf (¬ profileMatchesIdentity profile row.deviceClass row.manufacturer row.model)
    (.lifecycleConflict "Commissioning profile no longer matches device identity")
  let intent ← orReject (.lifecycleConflict
      "Commissioning transport and equipment intent is incomplete")
    row.intent
  rejectIf (¬ database.tables.available row.organizationId intent.targetEquipmentKey)
    (.equipmentReference "Target equipment is unavailable in the active organization")
  rejectIf (profile.controlsTemperature ∧ (database.tables.activeBinding
      row.organizationId intent.targetEquipmentKey).isSome)
    (.equipmentReference "Target equipment already has an active controller binding")
  return {
    nodeId := intent.nodeId
    busId := intent.busId
    stableTransportIdentifier := intent.stableTransportIdentifier
    unitId := intent.unitId
    profileId := profile.id
    profileVersion := profile.version
    deadline := settings.deadline }

def runningPreflight (organizationId sessionId : String) : Option PreflightAttempt :=
  ((database.preflights.filter fun attempt =>
    attempt.organizationId = organizationId && attempt.sessionId = sessionId &&
      attempt.outcome.isNone).insertionSort
    fun left right => right.startedAt ≤ left.startedAt).head?

def preparePreflight (settings : CommissioningSettings) (now : Instant)
    (organizationId sessionId : String) (expectedVersion : ℕ)
    (idempotencyKey attemptId : String) : Except CommissioningError
      (CommissioningDatabase × PreflightAttempt × Bool) := do
  let key ← normalizeCommissioningKey idempotencyKey
  let row ← database.lockedCommissioning organizationId sessionId
  rejectIf (row.version ≠ expectedVersion) (.versionConflict expectedVersion row.version)
  let command ← database.preflightCommand settings row
  match database.preflightByKey organizationId sessionId key with
  | some existing =>
    rejectIf (existing.command ≠ command) (.idempotencyConflict
        "Idempotency-Key was already used for a different preflight command")
    if existing.outcome.isSome then return (database, existing, true)
    else
      rejectIf (now < existing.startedAt + settings.staleAfter)
        (.preflightInProgress ("A bounded commissioning preflight with this " ++
          "key is already running"))
      let restarted := { existing with startedAt := now }
      return (database.setPreflight restarted, restarted, false)
  | none =>
    rejectIf ((database.runningPreflight organizationId sessionId).any fun other =>
        now < other.startedAt + settings.staleAfter)
      (.preflightInProgress ("Another bounded commissioning preflight is " ++
        "already running for this session"))
    rejectIf (∃ attempt ∈ database.preflights, attempt.id = attemptId) .notPersisted
    let attempt : PreflightAttempt := {
      id := attemptId
      organizationId
      sessionId
      idempotencyKey := key
      command
      sessionVersion := row.version
      outcome := none
      startedAt := now }
    return ({ database with preflights := database.preflights ++ [attempt] }, attempt, false)

def preflightLifecycle (lifecycle : CommissioningLifecycle) (passed : Bool) :
    CommissioningLifecycle :=
  if passed then .verified
  else if lifecycle ∈ [CommissioningLifecycle.verified, .activationFailed,
      .rolledBack] then .readyForPreflight
  else lifecycle

/-- `CommissioningPreflightRepository.complete`; `command` is the command the
device agent was asked with. -/
def completePreflight (now : Instant) (organizationId attemptId : String)
    (command : PreflightCommand) (answer : PreflightAnswer) :
    Except CommissioningError CommissioningDatabase := do
  let attempt ← orReject (.preflightNotFound attemptId) <| database.preflights.find? fun attempt =>
      attempt.id = attemptId && attempt.organizationId = organizationId
  if attempt.outcome.isSome then return database
  else
    let completed := database.setPreflight { attempt with
      outcome := some { answer with identity := command, completedAt := now } }
    match database.sessions.find? fun row =>
        row.id = attempt.sessionId && row.organizationId = organizationId with
    | none => return completed
    | some row =>
      if row.version = attempt.sessionVersion then
        return completed.setSession
          (row.setLifecycle (preflightLifecycle row.lifecycle answer.passed))
      else return completed

def latestPreflight (organizationId sessionId : String) : Option PreflightAttempt :=
  ((database.preflights.filter fun attempt =>
    attempt.organizationId = organizationId && attempt.sessionId = sessionId &&
      attempt.outcome.isSome).insertionSort
    fun left right => right.rank ≤ left.rank).head?

end CommissioningDatabase

/-! ## Activation -/

/-- The evidence is about the transport and the profile the session has. -/
def CommissioningSession.matchesEvidence (row : CommissioningSession)
    (evidence : PreflightCommand) : Bool :=
  row.nodeId = some evidence.nodeId && row.busId = some evidence.busId &&
    row.stableTransportIdentifier = some evidence.stableTransportIdentifier &&
    row.unitId = some evidence.unitId &&
    row.profileId = some evidence.profileId &&
    row.profileVersion = some evidence.profileVersion

def CommissioningLifecycle.activatable : CommissioningLifecycle → Bool
  | .readyForPreflight => true
  | .verified => true
  | .pendingActivation => true
  | .active => true
  | .activationFailed => true
  | .rolledBack => true
  | _ => false

/-- A discovery-only family has no telemetry identity and is refused before. -/
def telemetrySource : DeviceFamily → String
  | .xjp60d => "dixell-xjp60d"
  | .le01mp => "f-and-f-le-01mp"
  | .embraco => "embraco-sync"
  | .akcc25 => ""

def telemetryEquipmentId (family : DeviceFamily) (unitId : ℕ) : String :=
  match family with
  | .xjp60d => "K" ++ toString unitId
  | .le01mp => "LE01MP-" ++ toString unitId
  | .embraco => "EMBRACO-" ++ toString unitId
  | .akcc25 => ""

/-- A binding of the equipment an activation of the intent may find: the one
which it makes itself. -/
def ControllerBinding.matchesReplay (binding : ControllerBinding)
    (profile : SupportedDeviceProfile) (intent : CommissioningIntent) : Bool :=
  profile.deviceFamily = .embraco && binding.nodeId = intent.nodeId &&
    binding.unitId = intent.unitId && binding.profileVersion = profile.version &&
    binding.controllerEquipmentId = telemetryEquipmentId .embraco intent.unitId

namespace CommissioningDatabase

variable (database : CommissioningDatabase)

/-- Another active session has the equipment or the Modbus identity. -/
def Conflicted (row : CommissioningSession) : Prop :=
  ∃ other ∈ database.sessions, other.organizationId = row.organizationId ∧
    other.id ≠ row.id ∧ other.lifecycle = .active ∧
    (row.SharesEquipment other ∨ row.SharesIdentity other)

instance (row : CommissioningSession) : Decidable (database.Conflicted row) :=
  inferInstanceAs (Decidable (∃ other ∈ database.sessions, _))

def currentPreflight (settings : CommissioningSettings) (now : Instant)
    (row : CommissioningSession) :
    Except CommissioningError (PreflightAttempt × PreflightOutcome) := do
  let required := CommissioningError.preflightStale ("Activation requires a " ++
    "successful preflight for the current commissioning version")
  let attempt ← orReject required (database.latestPreflight row.organizationId row.id)
  let outcome ← orReject required attempt.outcome
  rejectIf (outcome.passed = false ∨ attempt.sessionVersion ≠ row.version) required
  rejectIf (outcome.completedAt + settings.freshness < now)
    (.preflightStale "The successful commissioning preflight is no longer fresh")
  rejectIf (¬ row.matchesEvidence outcome.identity)
    (.preflightStale ("Preflight evidence does not match the current " ++
      "commissioning intent"))
  return (attempt, outcome)

def activationPlan (row : CommissioningSession) (preflight : PreflightAttempt)
    (outcome : PreflightOutcome) : Except CommissioningError ActivationPlan := do
  rejectIf (row.lifecycle.activatable = false)
    (.lifecycleConflict "Commissioning session is not eligible for activation")
  let profile ← orReject (.lifecycleConflict "Commissioning profile is unavailable or stale")
    (supportedProfile row.profileId)
  rejectIf (row.profileVersion ≠ some profile.version)
    (.lifecycleConflict "Commissioning profile is unavailable or stale")
  rejectIf (profile.activationSupported = false) (.lifecycleConflict
      "Commissioning profile is discovery-only and cannot be activated")
  let intent ← orReject
    (.lifecycleConflict "Commissioning activation intent is incomplete") row.intent
  rejectIf (¬ database.tables.available row.organizationId intent.targetEquipmentKey)
    (.equipmentReference "Target equipment is unavailable in the active organization")
  rejectIf (database.Conflicted row)
    (.activationConflict ("Another active commissioning session already owns " ++
      "this equipment or Modbus identity"))
  rejectIf (profile.controlsTemperature ∧
      ∃ binding ∈ database.tables.activeBinding row.organizationId
        intent.targetEquipmentKey, binding.matchesReplay profile intent = false)
    (.equipmentReference "Target equipment already has a different active controller binding")
  return {
    sessionId := row.id
    sessionVersion := row.version
    preflightAttemptId := preflight.id
    nodeId := intent.nodeId
    busId := intent.busId
    stableTransportIdentifier := intent.stableTransportIdentifier
    unitId := intent.unitId
    profileId := profile.id
    profileVersion := profile.version
    preflightCompletedAt := outcome.completedAt
    preflightEvidenceLevel := outcome.evidenceLevel
    deviceClass := row.deviceClass
    manufacturer := row.manufacturer
    model := row.model
    deviceFamily := profile.deviceFamily
    targetEquipmentKey := intent.targetEquipmentKey
    telemetrySource := telemetrySource profile.deviceFamily
    telemetryEquipmentId := telemetryEquipmentId profile.deviceFamily intent.unitId
    bindingKind := if profile.deviceFamily = .embraco then .refrigerationController
      else .commissioningTarget
    warnings := outcome.warnings ++
      if outcome.evidenceLevel = .hardwareVerified then []
      else ["Preflight passed with partial evidence; engineering values remain " ++
        "at their existing verification level."] }

/-- An attempt which another attempt of the session has to wait for. -/
def competing (organizationId sessionId : String) : Prop :=
  ∃ attempt ∈ database.activations, attempt.organizationId = organizationId ∧
    attempt.sessionId = sessionId ∧
    attempt.state ∈ [AttemptState.pendingActivation, .active, .recoveryRequired]

instance (organizationId sessionId : String) :
    Decidable (database.competing organizationId sessionId) :=
  inferInstanceAs (Decidable (∃ attempt ∈ database.activations, _))

def prepareActivation (settings : CommissioningSettings) (now : Instant)
    (organizationId sessionId : String) (expectedVersion : ℕ)
    (idempotencyKey attemptId : String) : Except CommissioningError
      (CommissioningDatabase × ActivationAttempt × Bool) := do
  let key ← normalizeCommissioningKey idempotencyKey
  let row ← database.lockedCommissioning organizationId sessionId
  rejectIf (row.version ≠ expectedVersion) (.versionConflict expectedVersion row.version)
  let (preflight, outcome) ← database.currentPreflight settings now row
  let plan ← database.activationPlan row preflight outcome
  let pending := row.setLifecycle .pendingActivation
  match database.activationByKey organizationId sessionId key with
  | some existing =>
    rejectIf (existing.command ≠ plan.toActivationCommandIdentity) (.idempotencyConflict
        "Idempotency-Key was already used for a different activation plan")
    if existing.unfinished then
      return (database.setSession pending, existing, false)
    else return (database, existing, true)
  | none =>
    rejectIf (database.competing organizationId sessionId) (.activationConflict
        "Another activation attempt already owns this commissioning session")
    rejectIf (∃ attempt ∈ database.activations, attempt.id = attemptId) .notPersisted
    let attempt : ActivationAttempt := {
      id := attemptId
      organizationId
      sessionId
      preflightAttemptId := preflight.id
      idempotencyKey := key
      command := plan.toActivationCommandIdentity
      sessionVersion := row.version
      state := .pendingActivation
      plan
      startedAt := now
      completedAt := none }
    return ({ database.setSession pending with
        activations := database.activations ++ [attempt] }, attempt, false)

def activationLifecycle : AttemptState → CommissioningLifecycle
  | .active => .active
  | .rolledBack => .rolledBack
  | _ => .activationFailed

def completeActivation (now : Instant) (organizationId attemptId : String)
    (state : AttemptState) : Except CommissioningError CommissioningDatabase := do
  let attempt ← orReject (.activationNotFound attemptId) <|
    database.activations.find? fun attempt =>
      attempt.id = attemptId && attempt.organizationId = organizationId
  let row ← database.lockedCommissioning organizationId attempt.sessionId
  let completed := (database.setActivation { attempt with
    state
    completedAt := some now }).setSession (row.setLifecycle (activationLifecycle state))
  return { completed with
    completions := database.completions ++
      [⟨attempt.sessionId, attempt.id, state, attempt.sessionVersion⟩] }

end CommissioningDatabase

inductive ControllerBindingError where
  | equipmentNotFound (id : String)
  | conflict (message : String)
  | unverified (message : String)

structure ControllerBindingWrite where
  (nodeId controllerFamily controllerEquipmentId : String)
  unitId : ℕ
  profileVersion : String

def ControllerBinding.matchesWrite (binding : ControllerBinding)
    (payload : ControllerBindingWrite) : Bool :=
  binding.nodeId = payload.nodeId && binding.controllerFamily = payload.controllerFamily &&
    binding.controllerEquipmentId = payload.controllerEquipmentId &&
    binding.unitId = payload.unitId &&
    binding.profileVersion = payload.profileVersion

def EquipmentTables.replaceActive (tables : EquipmentTables)
    (organizationId equipmentId : String) (payload : ControllerBindingWrite) :
    Except ControllerBindingError EquipmentTables :=
  match tables.equipment.find? fun row =>
      row.organizationId = organizationId && row.id = equipmentId && !row.deleted with
  | none => .error (.equipmentNotFound equipmentId)
  | some equipment =>
    if equipment.retired then
      .error (.conflict "retired refrigeration equipment cannot receive a controller binding")
    else if present equipment.nodeId ∧ equipment.nodeId ≠ some payload.nodeId then
      .error (.conflict "controller node does not match the refrigeration equipment node")
    else if (payload.nodeId, payload.controllerEquipmentId) ∉ tables.observed then
      .error (.unverified ("controller identity has no verified Embraco " ++
        "telemetry on the requested node"))
    else if ∃ binding ∈ tables.activeBinding organizationId equipmentId,
        binding.matchesWrite payload then .ok tables
    else if ∃ binding ∈ tables.bindings, binding.organizationId = organizationId ∧
        binding.equipmentId ≠ equipmentId ∧ binding.unbound = false ∧
        binding.nodeId = payload.nodeId ∧
        binding.controllerFamily = payload.controllerFamily ∧
        binding.unitId = payload.unitId then
      .error (.conflict "controller identity is already bound to another refrigeration asset")
    else
      let released := tables.bindings.map fun binding =>
        if binding.organizationId = organizationId ∧ binding.equipmentId = equipmentId then
          { binding with unbound := true }
        else binding
      .ok { tables with bindings := released ++ [{
        organizationId
        equipmentId
        nodeId := payload.nodeId
        controllerFamily := payload.controllerFamily
        controllerEquipmentId := payload.controllerEquipmentId
        unitId := payload.unitId
        profileVersion := payload.profileVersion
        unbound := false }] }

def EquipmentTables.persistBinding (tables : EquipmentTables)
    (attempt : ActivationAttempt) (telemetryIdentity : String) :
    Except ControllerBindingError EquipmentTables :=
  match attempt.plan.bindingKind with
  | .commissioningTarget => .ok tables
  | .refrigerationController =>
    tables.replaceActive attempt.organizationId attempt.plan.targetEquipmentKey {
      nodeId := attempt.plan.nodeId
      controllerFamily := "embraco"
      controllerEquipmentId := telemetryIdentity
      unitId := attempt.plan.unitId
      profileVersion := attempt.plan.profileVersion }

end Nexolab
