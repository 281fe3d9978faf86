import Nexolab.RegistryStore

/-!
# Commissioning activations

A commissioning request activates one device of the registry, or rolls this
back.  The journal keeps one row for an activation id: which device it was, and
the lifecycles the device and its targets had before.  A request reads the row
without holding the registry lock; under the lock it saves the prepared row and
commits the registry; the final state of the row is saved after the lock is
released.  A request may fail and the agent may crash between any two of these
writes.

The module is about the requests of one activation id.  The fingerprint of a
request, a digest of its identity, is represented by the identity itself.
-/

namespace Nexolab

structure PreflightProfile where
  (profileId profileVersion deviceFamily : String)
  activationSupported : Bool

def preflightProfiles : List PreflightProfile :=
  [⟨"dixell-xjp60d", "dixell-xjp60d-fc03-v1", "xjp60d", true⟩,
    ⟨"f-and-f-le01mp", "f-and-f-le01mp-fc03-v2", "le01mp", true⟩,
    ⟨"embraco-sync", "embraco-sync-fc03-v1.00.04", "embraco", true⟩,
    ⟨"danfoss-ak-cc25-pro", "danfoss-ak-cc25-pro-sw1.3x-fc03-v1", "akcc25",
      false⟩]

structure ActivationIdentity where
  (activationId nodeId busId stableTransportIdentifier : String)
  unitId : ℕ
  (profileId profileVersion : String)
  deriving DecidableEq

inductive ActivationAction where
  | activate
  | rollback

structure ActivationRequest where
  action : ActivationAction
  identity : ActivationIdentity

def ActivationIdentity.family (identity : ActivationIdentity) : Option String :=
  match preflightProfiles.find? fun profile =>
      profile.profileId = identity.profileId with
  | none => none
  | some profile =>
    if profile.profileVersion = identity.profileVersion ∧
        profile.activationSupported then some profile.deviceFamily
    else none

inductive JournalState where
  | prepared
  | active
  | rolledBack
  | recoveryRequired
  deriving DecidableEq

/-- The device of an activation and the lifecycles to go back to. -/
structure ActivationSnapshot where
  deviceId : String
  targetIds : List String
  deviceLifecycle : String
  targetLifecycles : Dictionary String String

structure ActivationRecord where
  snapshot : ActivationSnapshot
  revisionBefore : ℕ
  (revisionAfter revisionRollback : Option ℕ)
  reason : Option String

structure JournalRow where
  identity : ActivationIdentity
  state : JournalState
  record : ActivationRecord

namespace InventoryDocument

variable (document : InventoryDocument)

def deviceLifecycle (deviceId : String) : Option String :=
  (document.devices.find? fun device => device.deviceId = deviceId).map
    fun device => device.lifecycle

def targetLifecycle (targetId : String) : Option String :=
  (document.targets.find? fun target => target.targetId = targetId).map
    fun target => target.lifecycle

def commissioningDevice (identity : ActivationIdentity) (family : String) :
    Option InventoryDevice :=
  match document.devices.filter fun device =>
      device.unitId = identity.unitId ∧ device.busId = identity.busId ∧
        device.deviceFamily = family ∧
        device.profileVersion = identity.profileVersion with
  | [device] => some device
  | _ => none

def targetsOf (device : InventoryDevice) : List InventoryTarget :=
  document.targets.filter fun target => target.deviceId = device.deviceId

def snapshotOf (device : InventoryDevice) : ActivationSnapshot where
  deviceId := device.deviceId
  targetIds := (document.targetsOf device).map fun target => target.targetId
  deviceLifecycle := device.lifecycle
  targetLifecycles := (document.targetsOf device).map fun target =>
    (target.targetId, target.lifecycle)

end InventoryDocument

namespace ActivationSnapshot

variable (snapshot : ActivationSnapshot)

def ActiveIn (document : InventoryDocument) : Prop :=
  document.deviceLifecycle snapshot.deviceId = some pollingLifecycle ∧
    ∀ targetId ∈ snapshot.targetIds, document.targetLifecycle targetId = some pollingLifecycle

def HoldsIn (document : InventoryDocument) : Prop :=
  document.deviceLifecycle snapshot.deviceId = some snapshot.deviceLifecycle ∧
    ∀ targetId ∈ snapshot.targetIds,
      document.targetLifecycle targetId = snapshot.targetLifecycles.get? targetId

instance (document : InventoryDocument) :
    Decidable (snapshot.ActiveIn document) :=
  inferInstanceAs (Decidable (_ ∧ _))

instance (document : InventoryDocument) :
    Decidable (snapshot.HoldsIn document) :=
  inferInstanceAs (Decidable (_ ∧ _))

end ActivationSnapshot

inductive PreparedState where
  | active
  | rollback
  | conflict

def preparedActivationState (document : InventoryDocument)
    (snapshot : ActivationSnapshot) : PreparedState :=
  if snapshot.ActiveIn document then .active
  else if snapshot.HoldsIn document then .rollback
  else .conflict

/-! ## The agent -/

/-- How far a request is.  In `enrolled` and `prepared` it holds the registry
lock.  A finished request has the state it answered with, or none when it
raised. -/
inductive ActivationPhase where
  | waiting
  | loaded (asked : ActivationRequest) (row : Option JournalRow)
  | enrolled (asked : ActivationRequest)
  | prepared (asked : ActivationRequest) (record : ActivationRecord)
  | activated (asked : ActivationRequest) (record : ActivationRecord)
  | restored (asked : ActivationRequest) (record : ActivationRecord)
  | finished (answer : Option JournalState)

structure CommissioningAgent where
  store : RegistryStore
  registry : InventoryRegistry
  journal : Option JournalRow
  lock : Option ℕ
  phases : ℕ → ActivationPhase

inductive CommissioningAction where
  | load (call : ℕ) (asked : ActivationRequest) (refused : Bool)
  | enter (call : ℕ) (now : String) (failsAt : Option ℕ)
  | prepare (call : ℕ)
  | activate (call : ℕ) (now : String) (refused : Bool) (failsAt : Option ℕ)
  | complete (call : ℕ)
  | fail (call : ℕ)
  | crash

namespace CommissioningAgent

def start (store : RegistryStore) (registry : InventoryRegistry) :
    CommissioningAgent :=
  ⟨store, registry, none, none, fun _ => .waiting⟩

variable (agent : CommissioningAgent)

def document : InventoryDocument := agent.registry.document

def setPhase (call : ℕ) (phase : ActivationPhase) : CommissioningAgent :=
  { agent with phases := Function.update agent.phases call phase }

def finish (call : ℕ) (answer : Option JournalState) : CommissioningAgent :=
  agent.setPhase call (.finished answer)

def release (call : ℕ) : CommissioningAgent :=
  { agent with lock := if agent.lock = some call then none else agent.lock }

def save (identity : ActivationIdentity) (state : JournalState)
    (record : ActivationRecord) : CommissioningAgent :=
  { agent with journal := some ⟨identity, state, record⟩ }

def Unlocked : Prop := agent.lock = none

instance : Decidable agent.Unlocked := inferInstanceAs (Decidable (_ = none))

def commit (configuration : RegistryConfiguration) (identity : ActivationIdentity)
    (operation : RegistryStore.RegistryOperation) (reason now : String)
    (failsAt : Option ℕ) : Except StoreFault InventoryRegistry × RegistryStore :=
  agent.store.serve configuration ⟨operation, agent.registry, agent.registry.document.revision,
    "commissioning:" ++ identity.activationId, reason, now⟩ failsAt

def committed (configuration : RegistryConfiguration) (identity : ActivationIdentity)
    (operation : RegistryStore.RegistryOperation) (reason now : String)
    (failsAt : Option ℕ) : Option CommissioningAgent :=
  match agent.commit configuration identity operation reason now failsAt with
  | (.error _, _) => none
  | (.ok registry, store) =>
    some { agent with registry, store }

def enrollment (identity : ActivationIdentity) (family : String) :
    Option RegistryStore.RegistryOperation :=
  let busForUnit : Option (ℕ → Except RegistryFault String) :=
    some fun _ => .ok identity.busId
  if family = "xjp60d" then
    some (.enrollXjp60d [identity.unitId] xjp60dProfileVersion busForUnit)
  else if family = "le01mp" then some (.enrollLe01mp [identity.unitId] busForUnit)
  else if family = "embraco" then
    some (.enrollEmbraco [identity.unitId] busForUnit)
  else none

def ensureInventory (configuration : RegistryConfiguration)
    (identity : ActivationIdentity) (family now : String)
    (failsAt : Option ℕ) : Option CommissioningAgent :=
  match agent.document.devices.filter fun device =>
      device.unitId = identity.unitId ∧ device.busId = identity.busId with
  | [] =>
    match enrollment identity family with
    | none => none
    | some operation => agent.committed configuration identity operation
        "Enroll verified commissioning target in safe non-polling state" now
        failsAt
  | [device] =>
    if device.deviceFamily = family ∧
        device.profileVersion = identity.profileVersion then some agent
    else none
  | _ => none

def activationOperation (snapshot : ActivationSnapshot) :
    RegistryStore.RegistryOperation :=
  .update (if snapshot.deviceLifecycle = pollingLifecycle then []
      else [⟨snapshot.deviceId, pollingLifecycle⟩])
    ((snapshot.targetLifecycles.filter fun entry =>
      entry.2 ≠ pollingLifecycle).map fun entry => ⟨entry.1, pollingLifecycle⟩)

def rollbackOperation (snapshot : ActivationSnapshot) :
    RegistryStore.RegistryOperation :=
  .update (if snapshot.deviceLifecycle = pollingLifecycle then []
      else [⟨snapshot.deviceId, snapshot.deviceLifecycle⟩])
    ((snapshot.targetLifecycles.filter fun entry =>
      entry.2 ≠ pollingLifecycle).map fun entry => ⟨entry.1, entry.2⟩)

def mutates (snapshot : ActivationSnapshot) : Bool :=
  snapshot.deviceLifecycle ≠ pollingLifecycle ∨
    ∃ entry ∈ snapshot.targetLifecycles, entry.2 ≠ pollingLifecycle

/-- The journal is read.  A request which is refused has failed one of the
checks on the node, the bus and the unit. -/
def load (call : ℕ) (asked : ActivationRequest) (refused : Bool) :
    CommissioningAgent :=
  match agent.journal with
  | some row =>
    if row.identity ≠ asked.identity then agent.finish call none
    else match asked.action, row.state with
      | .rollback, .rolledBack => agent.finish call (some .rolledBack)
      | .activate, .prepared =>
        if refused then agent.finish call none
        else agent.setPhase call (.loaded asked (some row))
      | .activate, state => agent.finish call (some state)
      | .rollback, .recoveryRequired =>
        agent.finish call (some .recoveryRequired)
      | .rollback, _ => agent.setPhase call (.loaded asked (some row))
  | none =>
    match asked.action with
    | .rollback => agent.finish call none
    | .activate =>
      if refused then agent.finish call none
      else agent.setPhase call (.loaded asked none)

def enterActivation (configuration : RegistryConfiguration) (call : ℕ)
    (asked : ActivationRequest) (row : Option JournalRow) (now : String)
    (failsAt : Option ℕ) : CommissioningAgent :=
  match row with
  | some row =>
    match preparedActivationState agent.document row.record.snapshot with
    | .active =>
      (agent.save asked.identity .active { row.record with
        revisionAfter := some agent.document.revision }).finish call (some .active)
    | .conflict =>
      (agent.save asked.identity .recoveryRequired { row.record with
        reason := some "affected registry lifecycle changed after prepared activation"
        }).finish call (some .recoveryRequired)
    | .rollback =>
      { agent with lock := some call }.setPhase call (.enrolled asked)
  | none =>
    match asked.identity.family with
    | none => agent.finish call none
    | some family =>
      match agent.ensureInventory configuration asked.identity family now
          failsAt with
      | none => agent.finish call none
      | some ensured =>
        { ensured with lock := some call }.setPhase call (.enrolled asked)

def enterRollback (configuration : RegistryConfiguration) (call : ℕ)
    (asked : ActivationRequest) (record : ActivationRecord) (now : String)
    (failsAt : Option ℕ) : CommissioningAgent :=
  match preparedActivationState agent.document record.snapshot with
  | .rollback =>
    (agent.save asked.identity .rolledBack { record with
      revisionRollback := some agent.document.revision }).finish call (some .rolledBack)
  | .conflict =>
    (agent.save asked.identity .recoveryRequired { record with
      reason := some "affected registry lifecycle changed before rollback"
      }).finish call (some .recoveryRequired)
  | .active =>
    if mutates record.snapshot then
      match agent.committed configuration asked.identity
          (rollbackOperation record.snapshot)
          "Rollback incomplete commissioning activation to prior non-polling lifecycle"
          now failsAt with
      | none => agent.finish call none
      | some restored => restored.setPhase call (.restored asked { record with
          revisionRollback := some restored.document.revision })
    else agent.setPhase call (.restored asked { record with
      revisionRollback := some agent.document.revision })

def prepare (call : ℕ) (asked : ActivationRequest) : CommissioningAgent :=
  match asked.identity.family with
  | none => (agent.release call).finish call none
  | some family =>
    match agent.document.commissioningDevice asked.identity family with
    | none => (agent.release call).finish call none
    | some device =>
      if agent.document.targetsOf device = [] then
        (agent.release call).finish call none
      else
        let record : ActivationRecord :=
          ⟨agent.document.snapshotOf device, agent.document.revision, none, none, none⟩
        (agent.save asked.identity .prepared record).setPhase call (.prepared asked record)

def activate (configuration : RegistryConfiguration) (call : ℕ)
    (asked : ActivationRequest) (record : ActivationRecord) (now : String)
    (refused : Bool) (failsAt : Option ℕ) : CommissioningAgent :=
  if mutates record.snapshot then
    if refused then (agent.release call).finish call none
    else match agent.committed configuration asked.identity
        (activationOperation record.snapshot)
        "Activate repository-owned read-only commissioning target" now
        failsAt with
      | none => (agent.release call).finish call none
      | some activated => (activated.release call).setPhase call
          (.activated asked { record with
            revisionAfter := some activated.document.revision })
  else (agent.release call).setPhase call (.activated asked { record with
    revisionAfter := some agent.document.revision })

def crashed (phase : ActivationPhase) : ActivationPhase :=
  match phase with
  | .waiting => .waiting
  | .finished answer => .finished answer
  | _ => .finished none

def step (configuration : RegistryConfiguration) :
    CommissioningAgent → CommissioningAction → Option CommissioningAgent
  | agent, .load call asked refused =>
    match agent.phases call with
    | .waiting => some (agent.load call asked refused)
    | _ => none
  | agent, .enter call now failsAt =>
    match agent.phases call with
    | .loaded asked row =>
      if agent.Unlocked then
        match asked.action, row with
        | .activate, row => some (agent.enterActivation configuration call asked row now failsAt)
        | .rollback, some row => some (agent.enterRollback configuration call
            asked row.record now failsAt)
        | .rollback, none => none
      else none
    | _ => none
  | agent, .prepare call =>
    match agent.phases call with
    | .enrolled asked => some (agent.prepare call asked)
    | _ => none
  | agent, .activate call now refused failsAt =>
    match agent.phases call with
    | .prepared asked record => some
        (agent.activate configuration call asked record now refused failsAt)
    | _ => none
  | agent, .complete call =>
    match agent.phases call with
    | .activated asked record => some
        ((agent.save asked.identity .active record).finish call (some .active))
    | .restored asked record => some
        ((agent.save asked.identity .rolledBack record).finish call (some .rolledBack))
    | _ => none
  | agent, .fail call =>
    match agent.phases call with
    | .waiting => none
    | .finished _ => none
    | _ => some ((agent.release call).finish call none)
  | agent, .crash => some { agent with
      lock := none
      phases := fun call => crashed (agent.phases call) }

end CommissioningAgent

end Nexolab
