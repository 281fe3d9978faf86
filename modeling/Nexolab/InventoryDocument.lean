import Nexolab.AcquisitionCadence

/-!
# Registry documents

The stored document lists buses, devices, read targets and the cadence policy.
`validateDocument` is the check every document passes before it is written.
The module holds the document's own transformations: lifecycle and cadence
mutations, the enrollment of units of the five device families, and the
reconciliations of a loaded document.  Each of them ends in the same check.

The devices and targets of the document carry fields the scheduler does not
read; `toRegistryDocument` forgets them.  A Unit ID is a natural number: the
source rejects a negative one together with zero.
-/

namespace Nexolab

structure InventoryBus where
  (busId protocol : String)
  readOnly : Bool
  deriving DecidableEq

structure InventoryDevice extends RegistryDevice where
  profileVersion : String
  deriving DecidableEq

def InventoryDevice.identity (device : InventoryDevice) : String × ℕ :=
  (device.busId, device.unitId)

structure InventoryTarget extends RegistryTarget where
  (kind profileVersion : String)
  addresses : List ℤ
  deriving DecidableEq

structure InventoryDocument where
  (schemaVersion revision : ℕ)
  buses : List InventoryBus
  devices : List InventoryDevice
  targets : List InventoryTarget
  cadence : CadencePolicy
  updatedAt : String
  deriving DecidableEq

def currentSchemaVersion : ℕ := 2

def legacySchemaVersion : ℕ := 1

def defaultBusId : String := "rs485-main"

def registryLifecycles : List String :=
  ["active", "disabled", "reserve", "retired", "uninstalled",
    "discovery_only", "invalid"]

/-- `str.casefold` of a character whose folding is ASCII.  Any other character
folds to a text which no lifecycle contains, as the character itself does. -/
def casefoldChar (char : Char) : List Char :=
  match char.toNat with
  | 0x00DF => ['s', 's']
  | 0x017F => ['s']
  | 0x1E9E => ['s', 's']
  | 0x212A => ['k']
  | 0xFB00 => ['f', 'f']
  | 0xFB01 => ['f', 'i']
  | 0xFB02 => ['f', 'l']
  | 0xFB03 => ['f', 'f', 'i']
  | 0xFB04 => ['f', 'f', 'l']
  | 0xFB05 => ['s', 't']
  | 0xFB06 => ['s', 't']
  | _ => [char.toLower]

def casefold (text : String) : String :=
  String.ofList (text.toList.flatMap casefoldChar)

def quoted (text : String) : String := "'" ++ text ++ "'"

def validateLifecycle (value : String) : Except RegistryFault String :=
  let normalized := casefold (stripText value)
  if normalized ∈ registryLifecycles then .ok normalized
  else .error (.invalid ("Unsupported acquisition lifecycle: " ++ quoted value))

/-! ## Checking a document -/

def checkBuses : List String → List InventoryBus → Except RegistryFault (List String)
  | seen, [] => .ok seen
  | seen, bus :: rest => do
    refuseIf (stripText bus.busId = "") "Registry bus_id must not be empty"
    refuseIf (bus.busId ∈ seen) ("Duplicate registry bus_id: " ++ bus.busId)
    refuseIf (bus.protocol ≠ "modbus_rtu" ∨ ¬ bus.readOnly)
      "Acquisition buses must be read-only Modbus RTU"
    checkBuses (bus.busId :: seen) rest

def checkDevices (buses : List String) : List InventoryDevice →
    List InventoryDevice → Except RegistryFault (List InventoryDevice)
  | seen, [] => .ok seen
  | seen, device :: rest => do
    refuseIf (device.deviceId ∈ seen.map (·.deviceId))
      ("Duplicate registry device_id: " ++ device.deviceId)
    refuseIf (device.busId ∉ buses)
      ("Unknown bus for device " ++ device.deviceId ++ ": " ++ device.busId)
    refuseIf (¬ (1 ≤ device.unitId ∧ device.unitId ≤ 247))
      ("Invalid Modbus Unit ID for " ++ device.deviceId)
    refuseIf (device.identity ∈ seen.map InventoryDevice.identity)
      ("Duplicate Modbus bus/Unit identity: " ++ device.busId ++ "/" ++
        toString device.unitId)
    refuseIf (device.deviceFamily ∉ supportedDeviceFamilies)
      ("Unsupported device family: " ++ device.deviceFamily)
    refuseIf (stripText device.profileVersion = "")
      ("Missing profile version for " ++ device.deviceId)
    let _ ← validateLifecycle device.lifecycle
    checkDevices buses (device :: seen) rest

def targetOwner (devices : List InventoryDevice) (target : InventoryTarget) :
    Except RegistryFault InventoryDevice :=
  match devices.find? fun device => device.deviceId = target.deviceId with
  | none => .error (.invalid ("Unknown target device: " ++ target.deviceId))
  | some device => .ok device

def checkTargets (devices : List InventoryDevice) :
    List String → List (String × String) → List InventoryTarget → Except RegistryFault Unit
  | _, _, [] => .ok ()
  | targetIds, telemetryIds, target :: rest => do
    refuseIf (target.targetId ∈ targetIds) ("Duplicate registry target_id: " ++ target.targetId)
    let device ← targetOwner devices target
    refuseIf (target.profileVersion ≠ device.profileVersion)
      ("Profile mismatch for target " ++ target.targetId)
    refuseIf (target.kind ∉ ["channel", "metric"])
      ("Unsupported target kind: " ++ target.kind)
    refuseIf (target.function ∉ readFunctions) ("Registry target " ++ target.targetId ++
        " must use read-only FC03 or FC04")
    refuseIf (target.addresses = [] ∨
        ∃ address ∈ target.addresses, ¬ (0 ≤ address ∧ address ≤ 0xFFFF))
      ("Invalid read addresses for target " ++ target.targetId)
    let _ ← validateLifecycle target.lifecycle
    let identity := (device.deviceFamily, target.telemetryChannelId)
    refuseIf (identity ∈ telemetryIds)
      ("Duplicate telemetry channel identity: (" ++ quoted identity.1 ++
        ", " ++ quoted identity.2 ++ ")")
    checkTargets devices (target.targetId :: targetIds) (identity :: telemetryIds) rest

namespace InventoryDocument

def rows (document : InventoryDocument) : List RegistryDevice :=
  document.devices.map InventoryDevice.toRegistryDevice

def busIds (document : InventoryDocument) : List String :=
  document.buses.map InventoryBus.busId

def toRegistryDocument (document : InventoryDocument) : RegistryDocument where
  revision := document.revision
  devices := document.rows
  targets := document.targets.map InventoryTarget.toRegistryTarget
  cadence := document.cadence

end InventoryDocument

def validateDocument (document : InventoryDocument) :
    Except RegistryFault InventoryDocument := do
  refuseIf (document.schemaVersion ≠ currentSchemaVersion)
    ("Unsupported acquisition registry schema_version=" ++
      toString document.schemaVersion)
  refuseIf (document.revision < 1) "Acquisition registry revision must be positive"
  let buses ← checkBuses [] document.buses
  let devices ← checkDevices buses [] document.devices
  validatePolicy document.cadence buses document.rows
  checkTargets devices [] [] document.targets
  return document

theorem validateDocument_eq {document checked : InventoryDocument}
    (hvalid : validateDocument document = .ok checked) : checked = document := by
  unfold validateDocument at hvalid
  simp only [bind_eq_ok] at hvalid
  obtain ⟨_, _, _, _, _, _, _, _, _, _, _, _, hvalid⟩ := hvalid
  rw [pure_eq_ok] at hvalid
  exact hvalid.symm

/-- A document which has passed the check: the `AcquisitionRegistry` of the
source, from which requests start. -/
structure InventoryRegistry where
  document : InventoryDocument
  valid : validateDocument document = .ok document

def InventoryRegistry.of (document : InventoryDocument) :
    Except RegistryFault InventoryRegistry :=
  match hvalid : validateDocument document with
  | .error fault => .error fault
  | .ok checked =>
    .ok ⟨document, by rw [hvalid, validateDocument_eq hvalid]⟩

structure LifecycleMutation where
  (targetId lifecycle : String)

structure DeviceLifecycleMutation where
  (deviceId lifecycle : String)

def lifecycleChange (entity id before after : String) : AuditChange :=
  ⟨entity, id, .text before, .text after⟩

def requestedLifecycles (mutations : List (String × String)) :
    Except RegistryFault (Dictionary String String) :=
  mutations.mapM fun mutation => do
    let lifecycle ← validateLifecycle mutation.2
    return (mutation.1, lifecycle)

def unknownIds (requested : Dictionary String String) (known : List String) : List String :=
  (requested.keys.filter fun id => id ∉ known).dedup.insertionSort (· ≤ ·)

def mutateDevice (requested : Dictionary String String)
    (device : InventoryDevice) : InventoryDevice :=
  { device with
    lifecycle := (requested.get? device.deviceId).getD device.lifecycle }

def mutateTarget (requested : Dictionary String String)
    (target : InventoryTarget) : InventoryTarget :=
  { target with
    lifecycle := (requested.get? target.targetId).getD target.lifecycle }

def deviceChanges (before after : InventoryDevice) : List AuditChange :=
  if after.lifecycle ≠ before.lifecycle then
    [lifecycleChange "device" before.deviceId before.lifecycle after.lifecycle]
  else []

def targetChanges (before after : InventoryTarget) : List AuditChange :=
  if after.lifecycle ≠ before.lifecycle then
    [lifecycleChange "target" before.targetId before.lifecycle after.lifecycle]
  else []

def InventoryDocument.withMutations (document : InventoryDocument)
    (deviceMutations : List DeviceLifecycleMutation)
    (targetMutations : List LifecycleMutation) (now : String) :
    Except RegistryFault (InventoryDocument × List AuditChange) := do
  refuseIf (¬ (deviceMutations.map DeviceLifecycleMutation.deviceId).Nodup)
    "Duplicate device mutation"
  refuseIf (¬ (targetMutations.map LifecycleMutation.targetId).Nodup) "Duplicate target mutation"
  let requestedDevices ← requestedLifecycles
    (deviceMutations.map fun item => (item.deviceId, item.lifecycle))
  let requestedTargets ← requestedLifecycles
    (targetMutations.map fun item => (item.targetId, item.lifecycle))
  let unknownDevices := unknownIds requestedDevices (document.devices.map (·.deviceId))
  let unknownTargets := unknownIds requestedTargets (document.targets.map (·.targetId))
  refuseIf (unknownDevices ≠ []) ("Unknown registry devices: " ++ joinTexts ", " unknownDevices)
  refuseIf (unknownTargets ≠ []) ("Unknown registry targets: " ++ joinTexts ", " unknownTargets)
  let devices := document.devices.map (mutateDevice requestedDevices)
  let targets := document.targets.map (mutateTarget requestedTargets)
  let changes :=
    (document.devices.zipWith deviceChanges devices).flatten ++
      (document.targets.zipWith targetChanges targets).flatten
  refuseIf (changes = []) "Registry mutation does not change acquisition eligibility"
  let updated ← validateDocument { document with
    revision := document.revision + 1
    devices
    targets
    updatedAt := now }
  return (updated, changes)

def InventoryDocument.withCadenceMutation (document : InventoryDocument)
    (mutation : CadenceMutation) (now : String) :
    Except RegistryFault (InventoryDocument × List AuditChange × List String) := do
  let (cadence, changes, affected) ← applyMutation document.cadence mutation
    document.busIds document.rows
  let updated ← validateDocument { document with
    revision := document.revision + 1
    cadence
    updatedAt := now }
  return (updated, changes, affected)

end Nexolab
