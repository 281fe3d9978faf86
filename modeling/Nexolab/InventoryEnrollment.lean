import Nexolab.InventoryDocument

/-!
# Device profiles and enrollment

Each device family has a profile version and a fixed list of read targets.
Enrolling units adds their devices and targets on the bus which the
configuration gives each unit.  The five enrollments of the source are one
algorithm with the values of a family; the topology-aware enrollment of XJP60D
units keeps its own order of checks and audits more.
-/

namespace Nexolab

def xjp60dProfileVersion : String := "dixell-xjp60d-fc03-v1"

def le01mpProfileVersion : String := "f-and-f-le01mp-fc03-v2"

def legacyLe01mpProfileVersion : String := "f-and-f-le01mp-fc03-v1"

def sdm120ProfileVersion : String := "eastron-sdm120m-fc04-v1"

def waveshare8aiProfileVersion : String :=
  "waveshare-modbus-rtu-analog-input-8ch-b-v3-readonly-v1"

def embracoProfileVersion : String := "embraco-sync-fc03-v1.00.04"

/-- A register of a profile, with the addresses it is read from. -/
structure ProfileRegister where
  key : String
  addresses : List ℤ
  (metric unit : String)
  deriving DecidableEq

def le01mpRegisters : List ProfileRegister :=
  [⟨"voltage", [0], "electrical.voltage", "V"⟩,
    ⟨"current", [1], "electrical.current", "A"⟩,
    ⟨"frequency", [2], "electrical.frequency", "Hz"⟩,
    ⟨"active_power", [3], "electrical.power.active", "W"⟩,
    ⟨"reactive_power", [4], "electrical.power.reactive", "var"⟩,
    ⟨"apparent_power", [5], "electrical.power.apparent", "VA"⟩,
    ⟨"power_factor", [6], "electrical.power_factor", "ratio"⟩,
    ⟨"active_energy", [7, 8], "electrical.energy.active", "kWh"⟩,
    ⟨"internal_temperature", [37], "temperature.internal", "degC"⟩]

def sdm120Registers : List ProfileRegister :=
  [⟨"voltage", [0x0000, 0x0001], "electrical.voltage", "V"⟩,
    ⟨"current", [0x0006, 0x0007], "electrical.current", "A"⟩,
    ⟨"active_power", [0x000C, 0x000D], "electrical.power.active", "W"⟩,
    ⟨"apparent_power", [0x0012, 0x0013], "electrical.power.apparent", "VA"⟩,
    ⟨"reactive_power", [0x0018, 0x0019], "electrical.power.reactive", "var"⟩,
    ⟨"power_factor", [0x001E, 0x001F], "electrical.power_factor", "ratio"⟩,
    ⟨"frequency", [0x0046, 0x0047], "electrical.frequency", "Hz"⟩,
    ⟨"import_active_energy", [0x0048, 0x0049], "electrical.energy.active", "kWh"⟩]

def embracoRegisters : List ProfileRegister :=
  [⟨"hysteresis", [0], "refrigeration.hysteresis", "degC"⟩,
    ⟨"setpoint", [1], "refrigeration.setpoint", "degC"⟩,
    ⟨"cabinet_temperature", [2], "temperature.cabinet", "degC"⟩,
    ⟨"evaporator_temperature", [3], "temperature.evaporator", "degC"⟩,
    ⟨"condenser_temperature", [4], "temperature.condenser", "degC"⟩,
    ⟨"ambient_temperature", [5], "temperature.ambient", "degC"⟩,
    ⟨"door_temperature", [6], "temperature.door", "degC"⟩,
    ⟨"auxiliary_temperature", [7], "temperature.auxiliary", "degC"⟩,
    ⟨"evaporator_2_temperature", [8], "temperature.evaporator_2", "degC"⟩,
    ⟨"control_state", [9], "refrigeration.control_state", "state"⟩,
    ⟨"relay_state_bits", [10], "controller.relay_state_bits", "bitfield"⟩,
    ⟨"compressor_speed", [11], "compressor.speed", "rpm"⟩,
    ⟨"alarm_state_bits", [12], "controller.alarm_state_bits", "bitfield"⟩]

def probeRegisters : List (ℕ × List ℤ) :=
  [(1, [256, 257]), (2, [258, 259]), (3, [260, 261]), (4, [262, 263]),
    (5, [264, 265]), (6, [266, 267])]

def waveshare8aiChannels : List ℕ := [1, 2, 3, 4, 5, 6, 7, 8]

def hyphenated (key : String) : String :=
  String.ofList (key.toList.map fun char => if char = '_' then '-' else char)

def twoDigits (channel : ℕ) : String := "0" ++ toString channel

def xjpTarget (unitId : ℕ) (probe : ℕ × List ℤ) (lifecycle : String) :
    InventoryTarget where
  targetId := "xjp60d:" ++ toString unitId ++ "-" ++ twoDigits probe.1
  deviceId := "xjp60d-" ++ toString unitId
  kind := "channel"
  key := "channel-" ++ twoDigits probe.1
  telemetryChannelId := toString unitId ++ "-" ++ twoDigits probe.1
  metric := "temperature.probe"
  unit := "degC"
  profileVersion := xjp60dProfileVersion
  lifecycle
  function := 3
  addresses := probe.2

/-- The target of a metric register, as `_le_target`, `_sdm120_target` and
`_embraco_target` build it. -/
def metricTarget (family profileVersion : String) (function unitId : ℕ)
    (register : ProfileRegister) (lifecycle : String) : InventoryTarget where
  targetId := family ++ ":" ++ toString unitId ++ "-" ++ hyphenated register.key
  deviceId := family ++ "-" ++ toString unitId
  kind := "metric"
  key := register.key
  telemetryChannelId := toString unitId ++ "-" ++ hyphenated register.key
  metric := register.metric
  unit := register.unit
  profileVersion
  lifecycle
  function
  addresses := register.addresses

def leTarget : ℕ → ProfileRegister → String → InventoryTarget :=
  metricTarget "le01mp" le01mpProfileVersion 3

def sdm120Target : ℕ → ProfileRegister → String → InventoryTarget :=
  metricTarget "sdm120" sdm120ProfileVersion 4

def embracoTarget : ℕ → ProfileRegister → String → InventoryTarget :=
  metricTarget "embraco" embracoProfileVersion 3

def waveshare8aiTarget (unitId channel : ℕ) (lifecycle : String) :
    InventoryTarget where
  targetId := "waveshare_8ai:" ++ toString unitId ++ "-ai-" ++ toString channel
  deviceId := "waveshare-8ai-" ++ toString unitId
  kind := "channel"
  key := "ai-" ++ toString channel
  telemetryChannelId := toString unitId ++ "-ai-" ++ toString channel
  metric := "analog.input"
  unit := "raw"
  profileVersion := waveshare8aiProfileVersion
  lifecycle
  function := 4
  addresses := [(channel : ℤ) - 1]

/-! ## Enrollment of units -/

structure EnrollmentProfile where
  (title family devicePrefix profileVersion : String)
  /-- The message about a unit whose place on the bus is taken, from the unit,
  the bus of the device in that place and the configured bus. -/
  occupiedMessage : ℕ → String → String → String
  targets : ℕ → String → List InventoryTarget
  /-- What the message about a taken device id calls the enrollment. -/
  ownershipTitle : String := title

def ownershipMessage (title : String) (unitId : ℕ) (registryBus configuredBus : String) : String :=
  "Conflicting Modbus Unit ownership for " ++ title ++ " enrollment: unit=" ++
    toString unitId ++ ", registry_bus=" ++ registryBus ++
    ", configured_bus=" ++ configuredBus

def identityMessage (unitId : ℕ) (_registryBus configuredBus : String) :
    String :=
  "Conflicting Modbus bus/Unit identity: " ++ configuredBus ++ "/" ++
    toString unitId

def xjp60dEnrollment : EnrollmentProfile where
  title := "XJP60D"
  family := "xjp60d"
  devicePrefix := "xjp60d-"
  profileVersion := xjp60dProfileVersion
  occupiedMessage := identityMessage
  targets := fun unitId lifecycle =>
    probeRegisters.map fun probe => xjpTarget unitId probe lifecycle

def le01mpEnrollment : EnrollmentProfile where
  title := "LE-01MP"
  family := "le01mp"
  devicePrefix := "le01mp-"
  profileVersion := le01mpProfileVersion
  occupiedMessage := fun unitId _ _ =>
    "Conflicting Modbus Unit ownership for LE-01MP enrollment: unit=" ++
      toString unitId
  targets := fun unitId lifecycle =>
    le01mpRegisters.map fun register => leTarget unitId register lifecycle

def sdm120Enrollment : EnrollmentProfile where
  title := "SDM120"
  family := "sdm120"
  devicePrefix := "sdm120-"
  profileVersion := sdm120ProfileVersion
  occupiedMessage := identityMessage
  targets := fun unitId lifecycle =>
    sdm120Registers.map fun register => sdm120Target unitId register lifecycle

def waveshare8aiEnrollment : EnrollmentProfile where
  title := "Waveshare 8AI"
  family := "waveshare_8ai"
  devicePrefix := "waveshare-8ai-"
  profileVersion := waveshare8aiProfileVersion
  occupiedMessage := identityMessage
  targets := fun unitId lifecycle =>
    waveshare8aiChannels.map fun channel =>
      waveshare8aiTarget unitId channel lifecycle

def embracoEnrollment : EnrollmentProfile where
  title := "Embraco"
  family := "embraco"
  devicePrefix := "embraco-"
  profileVersion := embracoProfileVersion
  occupiedMessage := ownershipMessage "Embraco"
  targets := fun unitId lifecycle =>
    embracoRegisters.map fun register => embracoTarget unitId register lifecycle

namespace EnrollmentProfile

variable (profile : EnrollmentProfile)

def deviceIdOf (unitId : ℕ) : String :=
  profile.devicePrefix ++ toString unitId

def deviceOf (unitId : ℕ) (busId lifecycle : String) : InventoryDevice where
  deviceId := profile.deviceIdOf unitId
  busId
  deviceFamily := profile.family
  unitId
  profileVersion := profile.profileVersion
  lifecycle

/-- The loop which collects the units to add, each with its bus.  A unit which
is already enrolled in its place is passed over. -/
def additions (document : InventoryDocument) (busForUnit : ℕ → Except RegistryFault String) :
    List ℕ → Except RegistryFault (List (ℕ × String))
  | [] => .ok []
  | unitId :: rest => do
    let busId ← busForUnit unitId
    refuseIf (busId ∉ document.busIds) ("Configured bus " ++ quoted busId ++
        " is absent from acquisition registry")
    match document.devices.find? fun device =>
        device.identity = (busId, unitId) with
    | some existing =>
      refuseIf (existing.deviceFamily ≠ profile.family ∨
          existing.profileVersion ≠ profile.profileVersion)
        (profile.occupiedMessage unitId existing.busId busId)
      additions document busForUnit rest
    | none =>
      match document.devices.find? fun device =>
          device.deviceId = profile.deviceIdOf unitId with
      | some conflicting =>
        .error (.invalid (ownershipMessage profile.ownershipTitle unitId conflicting.busId busId))
      | none => do
        let others ← additions document busForUnit rest
        return (unitId, busId) :: others

def additionChanges (lifecycle : String) (unitId : ℕ) : List AuditChange :=
  lifecycleChange "device" (profile.deviceIdOf unitId) "absent" lifecycle ::
    (profile.targets unitId lifecycle).map fun target =>
      lifecycleChange "target" target.targetId "absent" lifecycle

def extend (document : InventoryDocument) (lifecycle : String)
    (added : List (ℕ × String)) (cadence : CadencePolicy) (now : String) :
    InventoryDocument :=
  { document with
    revision := document.revision + 1
    devices := document.devices ++
      added.map fun addition => profile.deviceOf addition.1 addition.2 lifecycle
    targets := document.targets ++
      added.flatMap fun addition => profile.targets addition.1 lifecycle
    cadence
    updatedAt := now }

/-- `with_*_enrollment`.  A request which adds nothing returns the document
itself without changes. -/
def enroll (document : InventoryDocument) (unitIds : List ℕ)
    (lifecycle : String) (busForUnit : Option (ℕ → Except RegistryFault String)) (now : String) :
    Except RegistryFault (InventoryDocument × List AuditChange) := do
  let requested := unitIds.dedup
  refuseIf (∃ unitId ∈ requested, ¬ (1 ≤ unitId ∧ unitId ≤ 247))
    ("Invalid " ++ profile.title ++ " Modbus Unit ID")
  let desired ← validateLifecycle lifecycle
  let added ← profile.additions document (busForUnit.getD fun _ => .ok defaultBusId)
    (requested.insertionSort (· ≤ ·))
  if added = [] then return (document, [])
  else
    let cadence ← ensureDefaultsForDevices document.cadence
      (document.rows ++ added.map fun addition =>
        (profile.deviceOf addition.1 addition.2 desired).toRegistryDevice)
    let updated ← validateDocument (profile.extend document desired added cadence now)
    return (updated, added.flatMap fun addition => profile.additionChanges desired addition.1)

end EnrollmentProfile

namespace InventoryDocument

variable (document : InventoryDocument)

def withXjp60dEnrollment (unitIds : List ℕ) (profileVersion : String)
    (busForUnit : Option (ℕ → Except RegistryFault String)) (now : String) :
    Except RegistryFault (InventoryDocument × List AuditChange) := do
  refuseIf (profileVersion ≠ xjp60dProfileVersion)
    ("Unsupported XJP60D profile: " ++ quoted profileVersion)
  xjp60dEnrollment.enroll document unitIds "discovery_only" busForUnit now

def withLe01mpEnrollment (unitIds : List ℕ) (lifecycle : String)
    (busForUnit : Option (ℕ → Except RegistryFault String)) (now : String) :
    Except RegistryFault (InventoryDocument × List AuditChange) :=
  le01mpEnrollment.enroll document unitIds lifecycle busForUnit now

def withSdm120Enrollment (unitIds : List ℕ) (lifecycle : String)
    (busForUnit : Option (ℕ → Except RegistryFault String)) (now : String) :
    Except RegistryFault (InventoryDocument × List AuditChange) :=
  sdm120Enrollment.enroll document unitIds lifecycle busForUnit now

def withWaveshare8aiEnrollment (unitIds : List ℕ) (lifecycle : String)
    (busForUnit : Option (ℕ → Except RegistryFault String)) (now : String) :
    Except RegistryFault (InventoryDocument × List AuditChange) :=
  waveshare8aiEnrollment.enroll document unitIds lifecycle busForUnit now

def withEmbracoEnrollment (unitIds : List ℕ) (lifecycle : String)
    (busForUnit : Option (ℕ → Except RegistryFault String)) (now : String) :
    Except RegistryFault (InventoryDocument × List AuditChange) :=
  embracoEnrollment.enroll document unitIds lifecycle busForUnit now

end InventoryDocument

end Nexolab
