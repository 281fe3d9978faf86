import Nexolab.InventoryDocument

/-!
# The registry of edge nodes

The central service keeps a row for each edge node, the credentials which were
issued for it and an outbox of commands for the message broker.  Provisioning
and rotation carry an idempotency key and are answered from the credential which
was issued under the key; the other operations only move the node from state to
state.  Each operation is one transaction.

A digest of a command is represented by what it is a digest of.
-/

namespace Nexolab

inductive NodeState where
  | pending
  | active
  | suspended
  | revoked
  deriving DecidableEq

def NodeState.value : NodeState → String
  | .pending => "pending"
  | .active => "active"
  | .suspended => "suspended"
  | .revoked => "revoked"

inductive ClockStatus where
  | unknown
  | ok
  | warning
  | critical

inductive NodeFault where
  | domain (message : String)
  | notFound (message : String)
  | conflict (message : String)
  | idempotencyConflict (message : String)
  | repository (message : String)
  | transition (message : String)
  | brokerConflict (message : String)
  | database
  deriving DecidableEq

def lowerChar (char : Char) : Char :=
  if char.toNat = 0x212A then 'k' else char.toLower

def lowerText (text : String) : String :=
  String.ofList (text.toList.map lowerChar)

def isNodeIdChar (char : Char) : Bool :=
  ('a' ≤ char && char ≤ 'z') || ('0' ≤ char && char ≤ '9')

def matchesNodeId (text : String) : Prop :=
  1 ≤ text.length ∧ text.length ≤ 64 ∧
    (∀ char ∈ text.toList, isNodeIdChar char = true ∨ char = '-') ∧
    (∀ char ∈ text.toList.head?, isNodeIdChar char = true) ∧
    ∀ char ∈ text.toList.getLast?, isNodeIdChar char = true

instance (text : String) : Decidable (matchesNodeId text) :=
  inferInstanceAs (Decidable (_ ∧ _ ∧ _ ∧ _ ∧ _))

def normalizeNodeId (value : String) : Except NodeFault String :=
  let normalized := lowerText (stripText value)
  if matchesNodeId normalized then .ok normalized
  else .error (.domain ("node_id must use lowercase letters, digits and internal " ++
    "hyphens (1..64 characters)"))

def requiredText (value field : String) (maxLength : ℕ) :
    Except NodeFault String :=
  let normalized := stripText value
  if normalized = "" then .error (.domain (field ++ " is required"))
  else if maxLength < normalized.length then
    .error (.domain (field ++ " exceeds " ++ toString maxLength ++ " characters"))
  else .ok normalized

def validateClockThresholds (warningMs criticalMs : ℤ) : Except NodeFault Unit :=
  if warningMs ≤ 0 then .error (.domain "clock_warning_ms must be positive")
  else if criticalMs ≤ warningMs then
    .error (.domain "clock_critical_ms must be greater than clock_warning_ms")
  else .ok ()

structure ProvisionNodeCommand where
  (nodeId displayName idempotencyKey actorSubject : String)
  (clockWarningMs clockCriticalMs : ℤ)

structure RotateNodeCredentialCommand where
  (nodeId idempotencyKey actorSubject reason : String)

inductive NodeCommandDigest where
  | provision (nodeId displayName idempotencyKey actorSubject : String)
      (clockWarningMs clockCriticalMs : ℤ)
  | rotateCredential (nodeId idempotencyKey actorSubject reason : String)
  deriving DecidableEq

def ProvisionNodeCommand.check (command : ProvisionNodeCommand) :
    Except NodeFault Unit := do
  let _ ← normalizeNodeId command.nodeId
  let _ ← requiredText command.displayName "display_name" 255
  let _ ← requiredText command.idempotencyKey "idempotency_key" 128
  let _ ← requiredText command.actorSubject "actor_subject" 255
  validateClockThresholds command.clockWarningMs command.clockCriticalMs

def ProvisionNodeCommand.digest (command : ProvisionNodeCommand) :
    Except NodeFault NodeCommandDigest := do
  let nodeId ← normalizeNodeId command.nodeId
  return .provision nodeId (stripText command.displayName)
    (stripText command.idempotencyKey) (stripText command.actorSubject)
    command.clockWarningMs command.clockCriticalMs

def RotateNodeCredentialCommand.check (command : RotateNodeCredentialCommand) :
    Except NodeFault Unit := do
  let _ ← normalizeNodeId command.nodeId
  let _ ← requiredText command.idempotencyKey "idempotency_key" 128
  let _ ← requiredText command.actorSubject "actor_subject" 255
  let _ ← requiredText command.reason "reason" 1024
  return ()

def RotateNodeCredentialCommand.digest (command : RotateNodeCredentialCommand) :
    Except NodeFault NodeCommandDigest := do
  let nodeId ← normalizeNodeId command.nodeId
  return .rotateCredential nodeId (stripText command.idempotencyKey)
    (stripText command.actorSubject) (stripText command.reason)

structure CentralNode where
  (id organizationId nodeId displayName : String)
  state : NodeState
  stateReason : String
  (clockWarningMs clockCriticalMs : ℤ)
  lastSeenAt : Option ℚ
  lastClockOffsetMs : Option ℤ
  clockStatus : ClockStatus
  clockObservedAt : Option ℚ
  createdBy : String
  (createdAt updatedAt : ℚ)

def CentralNode.moveTo (target : NodeState) (reason : String) (now : ℚ)
    (node : CentralNode) : CentralNode :=
  { node with state := target, stateReason := reason, updatedAt := now }

structure CentralNodeCredential where
  (id organizationId nodeRecordId : String)
  generation : ℕ
  idempotencyKey : String
  commandSha256 : NodeCommandDigest
  issuedBy : String
  issuedAt : ℚ
  revokedAt : Option ℚ
  (revokedBy revocationReason : Option String)

inductive BrokerControlOperation where
  | provision
  | rotate
  | enable
  | disable
  | delete
  deriving DecidableEq

inductive BrokerControlState where
  | pending
  | processing
  | retrying
  | applied
  | failed

/-- What a command of the outbox is about, as its digest has it. -/
inductive BrokerCommandDigest where
  | credential (operation : BrokerControlOperation)
      (organizationId nodeRecordId nodeId credentialId : String)
      (generation : ℕ)
  | state (operation : BrokerControlOperation)
      (organizationId nodeRecordId nodeId : String) (source target : NodeState)
      (actorSubject reason : String) (transitionedAt : ℚ)
  deriving DecidableEq

inductive BrokerDeduplicationKey where
  | credential (nodeRecordId : String) (generation : ℕ) (operation : BrokerControlOperation)
  | state (nodeRecordId : String) (target : NodeState) (command : BrokerCommandDigest)
  deriving DecidableEq

structure CentralNodeBrokerCommand where
  (id organizationId nodeRecordId nodeId : String)
  credentialId : Option String
  operation : BrokerControlOperation
  state : BrokerControlState
  deduplicationKey : BrokerDeduplicationKey
  commandSha256 : BrokerCommandDigest
  secret : Option String
  attempts : ℕ
  (availableAt createdAt : ℚ)
  lockedAt : Option ℚ

structure NodeDatabase where
  nodes : List CentralNode
  credentials : List CentralNodeCredential
  commands : List CentralNodeBrokerCommand

namespace CentralNodeCredential

def Unrevoked (organizationId nodeRecordId : String) (credential : CentralNodeCredential) : Prop :=
  credential.organizationId = organizationId ∧
    credential.nodeRecordId = nodeRecordId ∧ credential.revokedAt = none

instance (organizationId nodeRecordId : String) (credential : CentralNodeCredential) :
    Decidable (Unrevoked organizationId nodeRecordId credential) :=
  inferInstanceAs (Decidable (_ ∧ _ ∧ _))

def revoke (organizationId nodeRecordId actor reason : String) (now : ℚ)
    (credential : CentralNodeCredential) : CentralNodeCredential :=
  if Unrevoked organizationId nodeRecordId credential then
    { credential with
      revokedAt := some now
      revokedBy := some actor
      revocationReason := some reason }
  else credential

end CentralNodeCredential

namespace NodeDatabase

def empty : NodeDatabase := ⟨[], [], []⟩

variable (database : NodeDatabase)

def insertNode (node : CentralNode) (message : String) :
    Except NodeFault NodeDatabase :=
  if ∃ other ∈ database.nodes, other.id = node.id ∨
      (other.organizationId = node.organizationId ∧
        other.nodeId = node.nodeId) then .error (.conflict message)
  else .ok { database with nodes := database.nodes ++ [node] }

def insertCredential (credential : CentralNodeCredential) (message : String) :
    Except NodeFault NodeDatabase :=
  if ∃ other ∈ database.credentials, other.id = credential.id ∨
      (other.organizationId = credential.organizationId ∧
        other.idempotencyKey = credential.idempotencyKey) ∨
      (other.nodeRecordId = credential.nodeRecordId ∧
        other.generation = credential.generation) then
    .error (.conflict message)
  else .ok { database with
    credentials := database.credentials ++ [credential] }

def enqueueInSession (command : CentralNodeBrokerCommand) (message : String) :
    Except NodeFault NodeDatabase :=
  match database.commands.find? fun other =>
      other.organizationId = command.organizationId ∧
        other.deduplicationKey = command.deduplicationKey with
  | some existing =>
    if existing.commandSha256 ≠ command.commandSha256 then
      .error (.brokerConflict "broker-control deduplication key is bound to another command")
    else .ok database
  | none =>
    if ∃ other ∈ database.commands, other.id = command.id then
      .error (.conflict message)
    else .ok { database with commands := database.commands ++ [command] }

def updateNode (id : String) (change : CentralNode → CentralNode) :
    NodeDatabase :=
  { database with
    nodes := database.nodes.map fun node =>
      if node.id = id then change node else node }

def nodeOf (organizationId nodeId : String) : Option CentralNode :=
  database.nodes.find? fun node =>
    node.organizationId = organizationId ∧ node.nodeId = nodeId

def nodeForUpdate (organizationId nodeId : String) :
    Except NodeFault CentralNode := do
  let normalized ← normalizeNodeId nodeId
  match database.nodeOf organizationId normalized with
  | none => .error (.notFound ("node " ++ quoted nodeId ++ " was not found"))
  | some node => return node

def credentialByIdempotency (organizationId idempotencyKey : String) :
    Except NodeFault (Option CentralNodeCredential) := do
  let key ← requiredText idempotencyKey "idempotency_key" 128
  return database.credentials.find? fun credential =>
    credential.organizationId = organizationId ∧ credential.idempotencyKey = key

def activeCredentials (organizationId nodeRecordId : String) :
    List CentralNodeCredential :=
  database.credentials.filter fun credential =>
    credential.Unrevoked organizationId nodeRecordId

def revokeCredentials (organizationId nodeRecordId actor reason : String)
    (now : ℚ) : NodeDatabase :=
  { database with
    credentials := database.credentials.map
      (CentralNodeCredential.revoke organizationId nodeRecordId actor reason now) }

def moveNode (node : CentralNode) (target : NodeState) (actor reason : String)
    (now : ℚ) : NodeDatabase :=
  let moved := database.updateNode node.id (CentralNode.moveTo target reason now)
  if target = .revoked then
    moved.revokeCredentials node.organizationId node.id actor reason now
  else moved

def historicalMax (nodeRecordId : String) : ℕ :=
  ((database.credentials.filter fun credential =>
    credential.nodeRecordId = nodeRecordId).map fun credential =>
      credential.generation).foldl max 0

end NodeDatabase

/-! ## Operations -/

/-- The organization a request is for, and whether broker control is set up. -/
structure NodeRepository where
  organizationId : String
  brokerControl : Bool

/-- What a request takes from outside: new identifiers, a secret and the time. -/
structure NodeIssue where
  (nodeRecordId credentialId commandId secret : String)
  now : ℚ

structure NodeAnswer where
  node : CentralNode
  credential : Option CentralNodeCredential
  replayed : Bool

namespace NodeRepository

variable (repository : NodeRepository)

def enqueueBrokerCommand (database : NodeDatabase)
    (command : CentralNodeBrokerCommand) (message : String) :
    Except NodeFault NodeDatabase :=
  if repository.brokerControl then database.enqueueInSession command message
  else .ok database

def credentialCommand (node : CentralNode) (credential : CentralNodeCredential)
    (operation : BrokerControlOperation) (issue : NodeIssue) :
    CentralNodeBrokerCommand where
  id := issue.commandId
  organizationId := node.organizationId
  nodeRecordId := node.id
  nodeId := node.nodeId
  credentialId := some credential.id
  operation
  state := .pending
  deduplicationKey := .credential node.id credential.generation operation
  commandSha256 := .credential operation node.organizationId node.id node.nodeId
    credential.id credential.generation
  secret := some issue.secret
  attempts := 0
  availableAt := issue.now
  createdAt := issue.now
  lockedAt := none

def stateCommand (node : CentralNode) (operation : BrokerControlOperation)
    (source target : NodeState) (actor reason : String) (issue : NodeIssue) :
    CentralNodeBrokerCommand where
  id := issue.commandId
  organizationId := node.organizationId
  nodeRecordId := node.id
  nodeId := node.nodeId
  credentialId := none
  operation
  state := .pending
  deduplicationKey := .state node.id target
    (.state operation node.organizationId node.id node.nodeId source target actor reason issue.now)
  commandSha256 := .state operation node.organizationId node.id node.nodeId source
    target actor reason issue.now
  secret := none
  attempts := 0
  availableAt := issue.now
  createdAt := issue.now
  lockedAt := none

def replay (database : NodeDatabase) (credential : CentralNodeCredential)
    (digest : NodeCommandDigest) (conflict missing : String) :
    Except NodeFault (NodeDatabase × NodeAnswer) :=
  if credential.commandSha256 ≠ digest then .error (.idempotencyConflict conflict)
  else match database.nodes.find? fun node =>
      node.id = credential.nodeRecordId with
  | none => .error (.repository missing)
  | some node =>
    if node.organizationId ≠ repository.organizationId then
      .error (.repository missing)
    else .ok (database, ⟨node, some credential, true⟩)

def provision (database : NodeDatabase) (command : ProvisionNodeCommand)
    (issue : NodeIssue) : Except NodeFault (NodeDatabase × NodeAnswer) := do
  command.check
  let nodeId ← normalizeNodeId command.nodeId
  let digest ← command.digest
  let found ← database.credentialByIdempotency repository.organizationId command.idempotencyKey
  match found with
  | some credential =>
    repository.replay database credential digest
      "provisioning idempotency key is bound to a different command"
      "provisioning replay references a missing node"
  | none =>
    if (database.nodeOf repository.organizationId nodeId).isSome then
      .error (.conflict ("node " ++ quoted nodeId ++ " already exists"))
    else
      let node : CentralNode := {
        id := issue.nodeRecordId
        organizationId := repository.organizationId
        nodeId
        displayName := stripText command.displayName
        state := .pending
        stateReason := "awaiting activation"
        clockWarningMs := command.clockWarningMs
        clockCriticalMs := command.clockCriticalMs
        lastSeenAt := none
        lastClockOffsetMs := none
        clockStatus := .unknown
        clockObservedAt := none
        createdBy := stripText command.actorSubject
        createdAt := issue.now
        updatedAt := issue.now }
      let credential : CentralNodeCredential := {
        id := issue.credentialId
        organizationId := repository.organizationId
        nodeRecordId := node.id
        generation := 1
        idempotencyKey := stripText command.idempotencyKey
        commandSha256 := digest
        issuedBy := stripText command.actorSubject
        issuedAt := issue.now
        revokedAt := none
        revokedBy := none
        revocationReason := none }
      let withNode ← database.insertNode node "node or provisioning key already exists"
      let withCredential ← withNode.insertCredential credential
        "node or provisioning key already exists"
      let enqueued ← repository.enqueueBrokerCommand withCredential
        (credentialCommand node credential .provision issue)
        "node or provisioning key already exists"
      return (enqueued, ⟨node, some credential, false⟩)

def rotateCredential (database : NodeDatabase)
    (command : RotateNodeCredentialCommand) (issue : NodeIssue) :
    Except NodeFault (NodeDatabase × NodeAnswer) := do
  command.check
  let digest ← command.digest
  let found ← database.credentialByIdempotency repository.organizationId command.idempotencyKey
  match found with
  | some credential =>
    repository.replay database credential digest
      "credential idempotency key is bound to a different command"
      "credential replay references a missing node"
  | none =>
    let node ← database.nodeForUpdate repository.organizationId command.nodeId
    if node.state = .revoked then
      .error (.conflict "revoked node credentials cannot be rotated")
    else
      let active := database.activeCredentials repository.organizationId node.id
      let revoked := database.revokeCredentials repository.organizationId node.id
        (stripText command.actorSubject) "credential rotation" issue.now
      let generation := max ((active.map fun credential =>
        credential.generation).foldl max 0) (revoked.historicalMax node.id) + 1
      let credential : CentralNodeCredential := {
        id := issue.credentialId
        organizationId := repository.organizationId
        nodeRecordId := node.id
        generation
        idempotencyKey := stripText command.idempotencyKey
        commandSha256 := digest
        issuedBy := stripText command.actorSubject
        issuedAt := issue.now
        revokedAt := none
        revokedBy := none
        revocationReason := none }
      let updated := { node with updatedAt := issue.now }
      let withCredential ← revoked.insertCredential credential
        "credential rotation conflicted with existing state"
      let enqueued ← repository.enqueueBrokerCommand (withCredential.updateNode node.id fun node =>
          { node with updatedAt := issue.now })
        (credentialCommand updated credential .rotate issue)
        "credential rotation conflicted with existing state"
      return (enqueued, ⟨updated, some credential, false⟩)

def allowedTransitions : NodeState → List NodeState
  | .pending => [.active, .revoked]
  | .active => [.suspended, .revoked]
  | .suspended => [.active, .revoked]
  | .revoked => []

def transitionNodeState (source destination : NodeState) :
    Except NodeFault NodeState :=
  if destination ∈ allowedTransitions source then .ok destination
  else .error (.transition ("cannot transition node from " ++ source.value ++
    " to " ++ destination.value))

/-- What a transition tells the broker.  `BrokerSynchronizedNodeRepository` adds
the command which enables a suspended node again. -/
def brokerOperationForState (source target : NodeState) :
    Option BrokerControlOperation :=
  match target with
  | .suspended => some .disable
  | .revoked => some .delete
  | .active => if source = .suspended then some .enable else none
  | .pending => none

def changeState (database : NodeDatabase) (nodeId : String) (target : NodeState)
    (actorSubject reason : String) (issue : NodeIssue) :
    Except NodeFault (NodeDatabase × NodeAnswer) := do
  let normalizedReason ← requiredText reason "reason" 1024
  let actor ← requiredText actorSubject "actor_subject" 255
  let node ← database.nodeForUpdate repository.organizationId nodeId
  if node.state = target then return (database, ⟨node, none, true⟩)
  else
    let _ ← transitionNodeState node.state target
    let updated := node.moveTo target normalizedReason issue.now
    let moved := database.moveNode node target actor normalizedReason issue.now
    match brokerOperationForState node.state target with
    | none => return (moved, ⟨updated, none, false⟩)
    | some operation =>
      let enqueued ← repository.enqueueBrokerCommand moved
        (stateCommand updated operation node.state target actor normalizedReason
          issue) "broker-control command conflicts with existing state"
      return (enqueued, ⟨updated, none, false⟩)

end NodeRepository

inductive NodeOperation where
  | provision (command : ProvisionNodeCommand)
  | rotate (command : RotateNodeCredentialCommand)
  | changeState (nodeId : String) (target : NodeState) (actorSubject reason : String)

structure NodeRequest where
  repository : NodeRepository
  operation : NodeOperation
  issue : NodeIssue

namespace NodeDatabase

def perform (database : NodeDatabase) (request : NodeRequest) :
    Except NodeFault (NodeDatabase × NodeAnswer) :=
  match request.operation with
  | .provision command => request.repository.provision database command request.issue
  | .rotate command => request.repository.rotateCredential database command request.issue
  | .changeState nodeId target actorSubject reason =>
    request.repository.changeState database nodeId target actorSubject reason request.issue

/-- The transaction of a request.  When it fails, in the request or in the
database, it is rolled back. -/
def serve (database : NodeDatabase) (request : NodeRequest) (fails : Bool) :
    Except NodeFault NodeAnswer × NodeDatabase :=
  match fails, database.perform request with
  | true, _ => (.error .database, database)
  | false, .error fault => (.error fault, database)
  | false, .ok (committed, answer) => (.ok answer, committed)

def step (database : NodeDatabase) (event : NodeRequest × Bool) :
    Option NodeDatabase :=
  some (database.serve event.1 event.2).2

end NodeDatabase

end Nexolab
