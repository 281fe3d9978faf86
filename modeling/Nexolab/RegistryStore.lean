import Nexolab.RegistryPasses

/-!
# The registry store

The database keeps one row with the document and its revision, and an audit row
for every revision.  `loadOrMigrate` reads the row at startup, upgrades an old
document, runs the reconciliation passes and records every change; on an empty
database it builds the first document.  Requests compute a candidate document
from a snapshot of the registry and commit it only when the revision in the
database is the one they expect.

A stored document is given by its payload.  A payload of the old schema has no
cadence, and the field is not read.
-/

namespace Nexolab

structure RegistryRow where
  revision : ℕ
  document : InventoryDocument
  deriving DecidableEq

structure RegistryAudit where
  revision : ℕ
  (actor reason : String)
  changes : List AuditChange
  changedAt : String
  deriving DecidableEq

structure RegistryStore where
  row : Option RegistryRow
  audit : List RegistryAudit
  deriving DecidableEq

/-- A registry operation raises a fault of its own, or the database fails. -/
inductive StoreFault where
  | registry (fault : RegistryFault)
  | database

namespace RegistryStore

def writeState (store : RegistryStore) (document : InventoryDocument) :
    RegistryStore :=
  { store with row := store.row.map fun _ => ⟨document.revision, document⟩ }

def writeAudit (store : RegistryStore) (document : InventoryDocument)
    (origin : AuditOrigin) (changes : List AuditChange) : RegistryStore :=
  { store with audit := store.audit ++ [⟨document.revision, origin.actor,
      origin.reason, changes, document.updatedAt⟩] }

def record (store : RegistryStore)
    (commits : List (PassCommit InventoryDocument AuditChange AuditOrigin)) :
    RegistryStore :=
  commits.foldl (fun store commit => (store.writeState commit.document).writeAudit
    commit.document commit.label commit.changes) store

end RegistryStore

def cadenceDefaultChange (before : String) (item : FamilyCadenceDefault) :
    AuditChange where
  entity := "cadence_family_default"
  id := item.busId ++ "/" ++ item.deviceFamily
  before := .text before
  after := .interval item.intervalSeconds

def migrateV1Document (environment : PolicyEnvironment)
    (settings : RegistrySettings) (now : String) (payload : InventoryDocument) :
    Except RegistryFault (InventoryDocument × List AuditChange) := do
  let cadence ← buildBootstrapPolicy environment settings.sampleIntervalSeconds
    (payload.rows.map RegistryDevice.familyKey)
  let document ← validateDocument { payload with
    schemaVersion := currentSchemaVersion
    revision := payload.revision + 1
    cadence
    updatedAt := now }
  return (document, lifecycleChange "registry_schema" "root" "v1" "v2" ::
    cadence.familyDefaults.map (cadenceDefaultChange "legacy_priority_policy"))

def documentFromJson (payload : InventoryDocument) :
    Except RegistryFault InventoryDocument := do
  refuseIf (payload.schemaVersion ≠ currentSchemaVersion)
    ("Unsupported acquisition registry schema_version=" ++
      toString payload.schemaVersion)
  let cadence ← cadenceFromPayload payload.cadence
  validateDocument { payload with cadence }

def loadDocument (environment : PolicyEnvironment) (settings : RegistrySettings)
    (now : String) (payload : InventoryDocument) :
    Except RegistryFault (InventoryDocument ×
      List (PassCommit InventoryDocument AuditChange AuditOrigin)) :=
  if payload.schemaVersion = legacySchemaVersion then do
    let (document, changes) ← migrateV1Document environment settings now payload
    return (document, [⟨⟨"system:migration",
      "Migrate acquisition registry v1 to persisted device cadence v2"⟩,
      document, changes⟩])
  else if payload.schemaVersion = currentSchemaVersion then do
    let document ← documentFromJson payload
    return (document, [])
  else .error (.invalid ("Unsupported acquisition registry schema_version=" ++
    toString payload.schemaVersion))

/-! ## The first document -/

def modeUses (family deviceMode : String) : Prop :=
  deviceMode = family ∨ deviceMode = "modbus"

instance (family deviceMode : String) : Decidable (modeUses family deviceMode) :=
  inferInstanceAs (Decidable (_ ∨ _))

/-- What `load_or_migrate` is given besides the store and its configuration. -/
structure StartupInputs where
  environment : PolicyEnvironment
  clock : ℕ → String
  discoveryUnits : List ℕ
  legacyActivePoints : List (ℕ × ℕ)

def familyUnits (family : String) (settings : RegistrySettings) (unitIds : List ℕ) : List ℕ :=
  if modeUses family settings.deviceMode then
    unitIds.dedup.insertionSort (· ≤ ·)
  else []

def activePoints (settings : RegistrySettings) (inputs : StartupInputs) :
    List (ℕ × ℕ) :=
  if modeUses "xjp60d" settings.deviceMode then inputs.legacyActivePoints else []

def initialUnits (settings : RegistrySettings) (inputs : StartupInputs) :
    List (List ℕ) :=
  [familyUnits "xjp60d" settings (inputs.discoveryUnits ++
      (activePoints settings inputs).map Prod.fst),
    familyUnits "le01mp" settings settings.le01mpUnitIds,
    familyUnits "sdm120" settings settings.sdm120UnitIds,
    familyUnits "waveshare_8ai" settings settings.waveshare8aiUnitIds,
    familyUnits "embraco" settings settings.embracoUnitIds]

def sharedUnits (units : List (List ℕ)) : List ℕ :=
  (units.flatten.filter fun unitId =>
    2 ≤ (units.filter fun family => unitId ∈ family).length).dedup.insertionSort (· ≤ ·)

def initialXjpDevice (active : List (ℕ × ℕ)) (unitId : ℕ) : InventoryDevice :=
  xjp60dEnrollment.deviceOf unitId defaultBusId
    (if ∃ point ∈ active, point.1 = unitId then "active" else "discovery_only")

def initialXjpTargets (active : List (ℕ × ℕ)) (unitId : ℕ) :
    List InventoryTarget :=
  probeRegisters.map fun probe => xjpTarget unitId probe
    (if (unitId, probe.1) ∈ active then "active" else "discovery_only")

def buildInitialDocument (settings : RegistrySettings) (inputs : StartupInputs) :
    Except RegistryFault InventoryDocument := do
  let active := activePoints settings inputs
  let units := initialUnits settings inputs
  refuseIf (sharedUnits units ≠ []) ("Duplicate Modbus Unit IDs across device families: " ++
      joinTexts ", " ((sharedUnits units).map toString))
  let profiles := [le01mpEnrollment, sdm120Enrollment, waveshare8aiEnrollment, embracoEnrollment]
  let devices := (units.headD []).map (initialXjpDevice active) ++
    (profiles.zip units.tail).flatMap fun family =>
      family.2.map fun unitId => family.1.deviceOf unitId defaultBusId "active"
  let targets := (units.headD []).flatMap (initialXjpTargets active) ++
    (profiles.zip units.tail).flatMap fun family =>
      family.2.flatMap fun unitId => family.1.targets unitId "active"
  let cadence ← buildBootstrapPolicy inputs.environment
    settings.sampleIntervalSeconds
    (devices.map fun device => device.toRegistryDevice.familyKey)
  validateDocument {
    schemaVersion := currentSchemaVersion
    revision := 1
    buses := [⟨defaultBusId, "modbus_rtu", true⟩]
    devices
    targets
    cadence
    updatedAt := inputs.clock 0 }

/-- The settings of the first document: a family which is pinned to a bus is
enrolled after the binding. -/
def RegistryConfiguration.initialSettings
    (configuration : RegistryConfiguration) : RegistrySettings :=
  { configuration.settings with
    sdm120UnitIds :=
      if configuration.configuredSdm120BusForUnit.isSome then []
      else configuration.settings.sdm120UnitIds
    waveshare8aiUnitIds :=
      if configuration.configuredWaveshare8aiBusForUnit.isSome then []
      else configuration.settings.waveshare8aiUnitIds }

/-- The units of a pinned family are enrolled into the first document. -/
def enrollDeferred (busForUnit : Option (ℕ → Except RegistryFault String)) (unitIds : List ℕ)
    (enroll : InventoryDocument →
      Except RegistryFault (InventoryDocument × List AuditChange))
    (document : InventoryDocument) :
    Except RegistryFault (InventoryDocument × List AuditChange) :=
  if busForUnit.isSome ∧ unitIds ≠ [] then enroll document
  else .ok (document, [])

def initialDocument (configuration : RegistryConfiguration) (inputs : StartupInputs) :
    Except RegistryFault (InventoryDocument × List AuditChange) := do
  let built ← buildInitialDocument configuration.initialSettings inputs
  let registry ← InventoryRegistry.of built
  let (bound, bindingChanges) ←
    applyRegistryBinding configuration.topology true (inputs.clock 1) registry
  let (metered, meterChanges) ←
    enrollDeferred configuration.configuredSdm120BusForUnit
      configuration.settings.sdm120UnitIds (fun document =>
        document.withSdm120Enrollment configuration.settings.sdm120UnitIds
          "active" configuration.configuredSdm120BusForUnit (inputs.clock 2))
      bound
  let (document, analogChanges) ←
    enrollDeferred configuration.configuredWaveshare8aiBusForUnit
      configuration.settings.waveshare8aiUnitIds (fun document =>
        document.withWaveshare8aiEnrollment configuration.settings.waveshare8aiUnitIds "active"
          configuration.configuredWaveshare8aiBusForUnit (inputs.clock 3))
      metered
  return (document, lifecycleChange "registry" "root" "absent" "v2" ::
    (bindingChanges ++ meterChanges ++ analogChanges ++ document.cadence.familyDefaults.map
        (cadenceDefaultChange "legacy_priority_policy")))

namespace RegistryStore

def loadOrMigrate (store : RegistryStore) (configuration : RegistryConfiguration)
    (inputs : StartupInputs) :
    Except RegistryFault (InventoryRegistry × RegistryStore) :=
  match store.row with
  | some row => do
    let (document, migration) ← loadDocument inputs.environment
      configuration.settings (inputs.clock 0) row.document
    let (final, commits) ←
      runPasses (startupPasses configuration inputs.clock) document
    let registry ← InventoryRegistry.of final
    return (registry, store.record (migration ++ commits))
  | none => do
    let (document, changes) ← initialDocument configuration inputs
    let registry ← InventoryRegistry.of document
    return (registry, { store with
      row := some ⟨document.revision, document⟩ }.writeAudit document
        ⟨"system:migration",
          "Migrate legacy acquisition topology into registry v2"⟩ changes)

/-- The statements of a transaction on a working copy of the database.  The
statement of the given number, if any, is the one at which the database fails. -/
def runStatements : Option ℕ →
    List (RegistryStore → Except StoreFault RegistryStore) → RegistryStore →
      Except StoreFault RegistryStore
  | _, [], working => .ok working
  | some 0, _ :: _, _ => .error .database
  | failsAt, statement :: rest, working =>
    match statement working with
    | .error fault => .error fault
    | .ok next => runStatements (failsAt.map Nat.pred) rest next

def transact {α : Type} (store : RegistryStore) (value : α)
    (working : Except StoreFault RegistryStore) :
    Except StoreFault α × RegistryStore :=
  match working with
  | .error fault => (.error fault, store)
  | .ok committed => (.ok value, committed)

def databaseRevision (store : RegistryStore) : ℕ :=
  match store.row with
  | none => 0
  | some row => row.revision

def checkRevision (expectedRevision : ℤ) (store : RegistryStore) :
    Except StoreFault RegistryStore :=
  if (store.databaseRevision : ℤ) ≠ expectedRevision then
    .error (.registry (.revisionConflict ("Expected revision " ++
      toString expectedRevision ++ ", database revision is " ++
      toString store.databaseRevision)))
  else .ok store

def writeStateAt (document : InventoryDocument) (expectedRevision : ℤ)
    (store : RegistryStore) : Except StoreFault RegistryStore :=
  match store.row with
  | none => .error (.registry (.revisionConflict ("Expected revision " ++
      toString expectedRevision ++ ", registry update did not apply")))
  | some row =>
    if (row.revision : ℤ) = expectedRevision then
      .ok { store with row := some ⟨document.revision, document⟩ }
    else .error (.registry (.revisionConflict ("Expected revision " ++
      toString expectedRevision ++ ", registry update did not apply")))

def commitStatements (document : InventoryDocument) (changes : List AuditChange)
    (expectedRevision : ℤ) (origin : AuditOrigin) :
    List (RegistryStore → Except StoreFault RegistryStore) :=
  [.ok, checkRevision expectedRevision, writeStateAt document expectedRevision,
    fun store => .ok (store.writeAudit document origin changes), .ok]

def normalizeText (limit : ℕ) (text : String) : String :=
  String.ofList ((stripText text).toList.take limit)

/-- The checks of a request which do not look at the database.  `title` is what
the messages call the request. -/
def requestOrigin (title : String) (actor reason : String) :
    Except RegistryFault AuditOrigin := do
  refuseIf (normalizeText 200 actor = "")
    ("Registry " ++ title ++ " actor is required")
  refuseIf (normalizeText 500 reason = "")
    ("Registry " ++ title ++ " reason is required")
  return ⟨normalizeText 200 actor, normalizeText 500 reason⟩

def checkSnapshot (registry : InventoryRegistry) (expectedRevision : ℤ) :
    Except RegistryFault Unit :=
  if expectedRevision ≠ registry.document.revision then
    .error (.revisionConflict ("Expected revision " ++
      toString expectedRevision ++ ", current revision is " ++
      toString registry.document.revision))
  else .ok ()

/-- A registry over a candidate, which every request has checked before it
commits. -/
def committedRegistry (document : InventoryDocument) :
    Except StoreFault InventoryRegistry :=
  match InventoryRegistry.of document with
  | .error fault => .error (.registry fault)
  | .ok registry => .ok registry

/-- The transaction of a commit, and the registry over the new document. -/
def commitDocument (store : RegistryStore) (document : InventoryDocument)
    (changes : List AuditChange) (expectedRevision : ℤ) (origin : AuditOrigin)
    (failsAt : Option ℕ) : Except StoreFault InventoryRegistry × RegistryStore :=
  let (outcome, committed) := transact store () (runStatements failsAt
    (commitStatements document changes expectedRevision origin) store)
  match outcome with
  | .error fault => (.error fault, committed)
  | .ok () => (committedRegistry document, committed)

inductive RegistryOperation where
  | update (deviceMutations : List DeviceLifecycleMutation)
      (targetMutations : List LifecycleMutation)
  | updateCadence (mutation : CadenceMutation)
  | enrollXjp60d (unitIds : List ℕ) (profileVersion : String)
      (busForUnit : Option (ℕ → Except RegistryFault String))
  | enrollLe01mp (unitIds : List ℕ) (busForUnit : Option (ℕ → Except RegistryFault String))
  | enrollSdm120 (unitIds : List ℕ) (busForUnit : Option (ℕ → Except RegistryFault String))
  | enrollEmbraco (unitIds : List ℕ) (busForUnit : Option (ℕ → Except RegistryFault String))

/-- A request with the snapshot of the registry it starts from. -/
structure RegistryRequest where
  operation : RegistryOperation
  registry : InventoryRegistry
  expectedRevision : ℤ
  (actor reason now : String)

/-- The discovery enrollment of the topology-aware store differs from
`with_xjp60d_enrollment` in its messages and in what it audits. -/
def discoveryEnrollment : EnrollmentProfile :=
  { xjp60dEnrollment with
    ownershipTitle := "discovery"
    occupiedMessage := ownershipMessage "discovery" }

def discoveryChanges (document enrolled : InventoryDocument)
    (changes : List AuditChange) : List AuditChange :=
  let added := enrolled.devices.drop document.devices.length
  (changes.map fun change =>
      match added.find? fun device =>
          change.entity = "device" ∧ device.deviceId = change.id with
      | none => change
      | some device =>
        { change with after := .text ("discovery_only@" ++ device.busId) }) ++
    (enrolled.cadence.familyDefaults.filter fun item =>
        item.key ∉ document.cadence.familyDefaults.map
          FamilyCadenceDefault.key).map (cadenceDefaultChange "absent")

/-- The candidate document of an operation and its audited changes. -/
def RegistryOperation.candidate (operation : RegistryOperation)
    (configuration : RegistryConfiguration) (document : InventoryDocument) (now : String) :
    Except RegistryFault (InventoryDocument × List AuditChange) :=
  match operation with
  | .update deviceMutations targetMutations =>
    document.withMutations deviceMutations targetMutations now
  | .updateCadence mutation => do
    let (updated, changes, _) ← document.withCadenceMutation mutation now
    return (updated, changes)
  | .enrollXjp60d unitIds profileVersion busForUnit =>
    document.withXjp60dEnrollment unitIds profileVersion busForUnit now
  | .enrollLe01mp unitIds busForUnit =>
    document.withLe01mpEnrollment unitIds "reserve"
      (busForUnit.or configuration.configuredBusForUnit) now
  | .enrollSdm120 unitIds busForUnit =>
    document.withSdm120Enrollment unitIds "reserve"
      (busForUnit.or (configuration.configuredSdm120BusForUnit.or
        configuration.configuredBusForUnit)) now
  | .enrollEmbraco unitIds busForUnit =>
    document.withEmbracoEnrollment unitIds "reserve"
      (busForUnit.or configuration.configuredBusForUnit) now

structure Candidate where
  document : InventoryDocument
  changes : List AuditChange
  origin : AuditOrigin

/-- The preparation of `update`, `update_cadence` and the enrollments of the base
store.  An enrollment which adds nothing commits nothing; the other operations
raise when they change nothing. -/
def prepareMutation (configuration : RegistryConfiguration)
    (request : RegistryRequest) : Except RegistryFault (Option Candidate) := do
  let (document, changes) ← request.operation.candidate configuration
    request.registry.document request.now
  if changes = [] then return none
  else
    let origin ← requestOrigin "mutation" request.actor request.reason
    checkSnapshot request.registry request.expectedRevision
    return some ⟨document, changes, origin⟩

/-- The preparation of `enroll_xjp60d` of the topology-aware store, which checks
the request before it looks at the units. -/
def prepareDiscovery (topology : BusTopology) (request : RegistryRequest)
    (unitIds : List ℕ) (profileVersion : String)
    (busForUnit : Option (ℕ → Except RegistryFault String)) :
    Except RegistryFault (Option Candidate) := do
  let origin ← requestOrigin "enrollment" request.actor request.reason
  refuseIf (profileVersion ≠ xjp60dProfileVersion)
    ("Unsupported XJP60D profile: " ++ quoted profileVersion)
  checkSnapshot request.registry request.expectedRevision
  let (document, changes) ← discoveryEnrollment.enroll request.registry.document
    unitIds "discovery_only" (some (busForUnit.getD topology.busForUnit))
    request.now
  if changes = [] then return none
  else return some ⟨document,
    discoveryChanges request.registry.document document changes, origin⟩

def prepare (configuration : RegistryConfiguration) (request : RegistryRequest) :
    Except RegistryFault (Option Candidate) :=
  match configuration.topology, request.operation with
  | some topology, .enrollXjp60d unitIds profileVersion busForUnit =>
    prepareDiscovery topology request unitIds profileVersion busForUnit
  | _, _ => prepareMutation configuration request

def serve (store : RegistryStore) (configuration : RegistryConfiguration)
    (request : RegistryRequest) (failsAt : Option ℕ) :
    Except StoreFault InventoryRegistry × RegistryStore :=
  match prepare configuration request with
  | .error fault => (.error (.registry fault), store)
  | .ok none => (.ok request.registry, store)
  | .ok (some candidate) => store.commitDocument candidate.document
      candidate.changes request.expectedRevision candidate.origin failsAt

/-- A start of the agent, whose one transaction may fail as a whole, or a
request. -/
inductive StoreEvent where
  | startup (configuration : RegistryConfiguration) (inputs : StartupInputs) (databaseFails : Bool)
  | request (configuration : RegistryConfiguration) (request : RegistryRequest) (failsAt : Option ℕ)

def startup (store : RegistryStore) (configuration : RegistryConfiguration)
    (inputs : StartupInputs) (databaseFails : Bool) :
    Except StoreFault InventoryRegistry × RegistryStore :=
  match databaseFails, store.loadOrMigrate configuration inputs with
  | true, _ => (.error .database, store)
  | false, .error fault => (.error (.registry fault), store)
  | false, .ok (registry, committed) => (.ok registry, committed)

def step (store : RegistryStore) (event : StoreEvent) :
    Except StoreFault InventoryRegistry × RegistryStore :=
  match event with
  | .startup configuration inputs databaseFails =>
    store.startup configuration inputs databaseFails
  | .request configuration request failsAt =>
    store.serve configuration request failsAt

def run (store : RegistryStore) (events : List StoreEvent) : RegistryStore :=
  events.foldl (fun current event => (current.step event).2) store

end RegistryStore

end Nexolab
