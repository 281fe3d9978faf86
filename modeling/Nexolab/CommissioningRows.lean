import Nexolab.CommissioningCatalog
import Nexolab.KeyedRows
import Nexolab.TelemetryContract

/-!
# Tables of the commissioning workflow

The rows of commissioning sessions, of their preflight and activation attempts,
the equipment and controller bindings they refer to, and the audit trail of the
completed activations.
-/

namespace Nexolab

inductive CommissioningError where
  | sessionNotFound (id : String)
  | preflightNotFound (id : String)
  | activationNotFound (id : String)
  | versionConflict (expected actual : ℕ)
  | idempotencyConflict (message : String)
  | lifecycleConflict (message : String)
  | equipmentReference (message : String)
  | activationConflict (message : String)
  | preflightStale (message : String)
  | preflightInProgress (message : String)
  /-- The primary key of a new row is taken. -/
  | notPersisted

def rejectIf (condition : Prop) [Decidable condition] (error : CommissioningError) :
    Except CommissioningError Unit :=
  if condition then .error error else .ok ()

theorem rejectIf_eq_ok {condition : Prop} [Decidable condition]
    {error : CommissioningError} {checked : Unit} :
    rejectIf condition error = .ok checked ↔ ¬ condition := by
  unfold rejectIf
  split <;> simp_all

def orReject {α : Type} (error : CommissioningError) :
    Option α → Except CommissioningError α
  | some value => .ok value
  | none => .error error

theorem orReject_eq_ok {α : Type} {error : CommissioningError} {value? : Option α}
    {value : α} : orReject error value? = .ok value ↔ value? = some value := by
  cases value? <;> simp [orReject]

structure EquipmentRow where
  (id organizationId : String)
  nodeId : Option String
  (deleted retired : Bool)

structure ControllerBinding where
  (organizationId equipmentId nodeId controllerFamily : String)
  controllerEquipmentId : String
  unitId : ℕ
  profileVersion : String
  unbound : Bool

/-- The tables of the platform the commissioning workflow reads, with the Embraco
controllers (node and equipment) telemetry was received from. -/
structure EquipmentTables where
  equipment : List EquipmentRow
  bindings : List ControllerBinding
  observed : List (String × String)

namespace EquipmentTables

variable (tables : EquipmentTables)

def available (organizationId equipmentId : String) : Bool :=
  tables.equipment.any fun row =>
    row.id = equipmentId && row.organizationId = organizationId && !row.deleted && !row.retired

def activeBinding (organizationId equipmentId : String) :
    Option ControllerBinding :=
  tables.bindings.find? fun binding =>
    binding.organizationId = organizationId && binding.equipmentId = equipmentId && !binding.unbound

end EquipmentTables

/-- The create fingerprint is kept as the values it is a digest of. -/
structure CommissioningSession extends ResolvedValues where
  (id organizationId createIdempotencyKey : String)
  createFingerprint : CommissioningValues
  version : ℕ
  deriving DecidableEq

namespace CommissioningSession

def setLifecycle (row : CommissioningSession) (lifecycle : CommissioningLifecycle) :
    CommissioningSession :=
  { row with lifecycle }

@[simp] theorem setLifecycle_lifecycle (row : CommissioningSession)
    (lifecycle : CommissioningLifecycle) :
    (row.setLifecycle lifecycle).lifecycle = lifecycle := rfl

@[simp] theorem setLifecycle_id (row : CommissioningSession) (lifecycle : CommissioningLifecycle) :
    (row.setLifecycle lifecycle).id = row.id := rfl

@[simp] theorem setLifecycle_version (row : CommissioningSession)
    (lifecycle : CommissioningLifecycle) :
    (row.setLifecycle lifecycle).version = row.version := rfl

/-- The session has the equipment or the Modbus identity of another one; a null
column is equal to nothing. -/
def SharesEquipment (row other : CommissioningSession) : Prop :=
  row.targetEquipmentKey.isSome = true ∧ row.targetEquipmentKey = other.targetEquipmentKey

def SharesIdentity (row other : CommissioningSession) : Prop :=
  row.nodeId.isSome = true ∧ row.busId.isSome = true ∧ row.unitId.isSome = true ∧
    row.nodeId = other.nodeId ∧ row.busId = other.busId ∧ row.unitId = other.unitId

instance (row other : CommissioningSession) : Decidable (row.SharesEquipment other) :=
  inferInstanceAs (Decidable (_ ∧ _))

instance (row other : CommissioningSession) : Decidable (row.SharesIdentity other) :=
  inferInstanceAs (Decidable (_ ∧ _))

variable {row other : CommissioningSession}

theorem SharesEquipment.symm (hshares : row.SharesEquipment other) : other.SharesEquipment row :=
  ⟨hshares.2 ▸ hshares.1, hshares.2.symm⟩

theorem SharesIdentity.symm (hshares : row.SharesIdentity other) : other.SharesIdentity row := by
  obtain ⟨hnode, hbus, hunit, hnodes, hbuses, hunits⟩ := hshares
  exact ⟨hnodes ▸ hnode, hbuses ▸ hbus, hunits ▸ hunit, hnodes.symm, hbuses.symm, hunits.symm⟩

end CommissioningSession

/-- The command a preflight sends to the device agent; its digest is kept as the
command itself. -/
structure PreflightCommand where
  (nodeId busId stableTransportIdentifier : String)
  unitId : ℕ
  (profileId profileVersion : String)
  deadline : ℕ
  deriving DecidableEq

inductive EvidenceLevel where
  | hardwareVerified
  | partiallyVerified
  | unsupported
  | unverified
  deriving DecidableEq

/-- What the device agent answers.  The client lets an answer pass only when it
repeats the identity of the command. -/
structure PreflightAnswer where
  passed : Bool
  evidenceLevel : EvidenceLevel
  warnings : List String

structure PreflightOutcome extends PreflightAnswer where
  identity : PreflightCommand
  completedAt : Instant

structure PreflightAttempt where
  (id organizationId sessionId idempotencyKey : String)
  command : PreflightCommand
  sessionVersion : ℕ
  outcome : Option PreflightOutcome
  startedAt : Instant

/-- The order of `completed_at`, then of the identifiers; only completed attempts
are compared. -/
def PreflightAttempt.rank (attempt : PreflightAttempt) : Instant ×ₗ String :=
  toLex ((attempt.outcome.map PreflightOutcome.completedAt).getD 0, attempt.id)

/-! ## Activation attempts -/

inductive AttemptState where
  | pendingActivation
  | active
  | activationFailed
  | rolledBack
  | recoveryRequired
  deriving DecidableEq

inductive BindingKind where
  | refrigerationController
  | commissioningTarget
  deriving DecidableEq

structure ActivationCommandIdentity where
  sessionId : String
  sessionVersion : ℕ
  (preflightAttemptId nodeId busId stableTransportIdentifier : String)
  unitId : ℕ
  (profileId profileVersion : String)
  deriving DecidableEq

structure ActivationPlan extends ActivationCommandIdentity where
  preflightCompletedAt : Instant
  preflightEvidenceLevel : EvidenceLevel
  (deviceClass manufacturer model : String)
  deviceFamily : DeviceFamily
  (targetEquipmentKey telemetrySource telemetryEquipmentId : String)
  bindingKind : BindingKind
  warnings : List String
  deriving DecidableEq

structure ActivationAttempt where
  (id organizationId sessionId preflightAttemptId idempotencyKey : String)
  command : ActivationCommandIdentity
  sessionVersion : ℕ
  state : AttemptState
  plan : ActivationPlan
  startedAt : Instant
  completedAt : Option Instant
  deriving DecidableEq

def ActivationAttempt.unfinished (attempt : ActivationAttempt) : Bool :=
  attempt.state ≠ .active && attempt.state ≠ .rolledBack

structure ActivationCompletion where
  (sessionId attemptId : String)
  state : AttemptState
  sessionVersion : ℕ

structure CommissioningDatabase where
  sessions : List CommissioningSession
  preflights : List PreflightAttempt
  activations : List ActivationAttempt
  /-- The audit trail, in the order of the commits. -/
  completions : List ActivationCompletion
  tables : EquipmentTables

structure CommissioningSettings where
  (freshness deadline : ℕ)

def CommissioningSettings.staleAfter (settings : CommissioningSettings) : ℕ :=
  max 15000000 (settings.deadline + 5000000)

namespace CommissioningDatabase

variable (database : CommissioningDatabase)

def empty (tables : EquipmentTables) : CommissioningDatabase := ⟨[], [], [], [], tables⟩

def lockedCommissioning (organizationId sessionId : String) :
    Except CommissioningError CommissioningSession :=
  orReject (.sessionNotFound sessionId) <| database.sessions.find? fun row =>
    row.id = sessionId && row.organizationId = organizationId

def setSession (next : CommissioningSession) : CommissioningDatabase :=
  { database with sessions := replaceRow (·.id) next database.sessions }

def setPreflight (next : PreflightAttempt) : CommissioningDatabase :=
  { database with preflights := replaceRow (·.id) next database.preflights }

def setActivation (next : ActivationAttempt) : CommissioningDatabase :=
  { database with activations := replaceRow (·.id) next database.activations }

def preflightByKey (organizationId sessionId key : String) :
    Option PreflightAttempt :=
  database.preflights.find? fun attempt =>
    attempt.organizationId = organizationId && attempt.sessionId = sessionId &&
      attempt.idempotencyKey = key

def activationByKey (organizationId sessionId key : String) :
    Option ActivationAttempt :=
  database.activations.find? fun attempt =>
    attempt.organizationId = organizationId && attempt.sessionId = sessionId &&
      attempt.idempotencyKey = key

end CommissioningDatabase

end Nexolab
