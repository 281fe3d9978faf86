import Nexolab.OrderedDictionary
import Nexolab.PolicyEnvironment
import Nexolab.PythonValues

/-!
# Cadence policies of a registry document

A cadence policy gives every family of a bus a default interval and single
devices an override.  The module holds the checks on a policy, the operator's
mutation of it, and the three ways a policy follows the devices of a registry:
the bootstrap of an old document, the defaults of enrolled devices, and the
rebinding of devices to other buses.

The rows of a registry which the source reads through `getattr` are the devices
of the scheduler's view.
-/

namespace Nexolab

/-- What the registry code raises: a `ValueError` with its message, or a
`RegistryRevisionConflict`. -/
inductive RegistryFault where
  | invalid (message : String)
  | revisionConflict (message : String)
  deriving DecidableEq

def refuseIf (condition : Prop) [Decidable condition] (message : String) :
    Except RegistryFault Unit :=
  if condition then .error (.invalid message) else .ok ()

theorem refuseIf_eq_ok {condition : Prop} [Decidable condition]
    {message : String} {checked : Unit} :
    refuseIf condition message = .ok checked ↔ ¬ condition := by
  unfold refuseIf
  split_ifs with hcondition
  · simp [hcondition]
  · simp [hcondition]

def supportedDeviceFamilies : List String :=
  ["xjp60d", "le01mp", "sdm120", "waveshare_8ai", "embraco"]

structure FamilyCadenceMutation where
  (busId deviceFamily : String)
  intervalSeconds : ℚ

def FamilyCadenceMutation.key (item : FamilyCadenceMutation) :
    String × String :=
  (item.busId, item.deviceFamily)

structure DeviceCadenceMutation where
  deviceId : String
  intervalSeconds : Option ℚ

structure CadenceMutation where
  familyDefaults : List FamilyCadenceMutation
  deviceOverrides : List DeviceCadenceMutation

/-- One side of an audited change.  Intervals are written with `str`. -/
inductive ChangeValue where
  | text (value : String)
  | interval (value : ℚ)
  | inherited (value : ℚ)
  deriving DecidableEq

structure AuditChange where
  (entity id : String)
  (before after : ChangeValue)
  deriving DecidableEq

abbrev FamilyKey := String × String

def FamilyCadenceDefault.key (item : FamilyCadenceDefault) : FamilyKey :=
  (item.busId, item.deviceFamily)

def RegistryDevice.familyKey (device : RegistryDevice) : FamilyKey :=
  (device.busId, device.deviceFamily)

def familyKeyBefore (left right : FamilyKey) : Prop :=
  left.1 < right.1 ∨ left.1 = right.1 ∧ left.2 ≤ right.2

instance : DecidableRel familyKeyBefore := fun _ _ =>
  inferInstanceAs (Decidable (_ ∨ _ ∧ _))

def defaultBefore (left right : FamilyCadenceDefault) : Prop :=
  familyKeyBefore left.key right.key

instance : DecidableRel defaultBefore := fun _ _ =>
  inferInstanceAs (Decidable (familyKeyBefore _ _))

def overrideBefore (left right : DeviceCadenceOverride) : Prop :=
  left.deviceId ≤ right.deviceId

instance : DecidableRel overrideBefore := fun _ _ =>
  inferInstanceAs (Decidable (_ ≤ _))

def checkInterval (value : ℚ) (label : String) : Except RegistryFault ℚ :=
  if cadenceMinSeconds ≤ value ∧ value ≤ cadenceMaxSeconds then .ok value
  else .error (.invalid (label ++ " must be between 10 and 3600 seconds"))

def checkFamilyDefaults (knownBuses : List String) :
    List FamilyKey → List FamilyCadenceDefault → Except RegistryFault (List FamilyKey)
  | seen, [] => .ok seen
  | seen, item :: rest => do
    refuseIf (item.key ∈ seen) ("Duplicate cadence family default: " ++
      item.busId ++ "/" ++ item.deviceFamily)
    refuseIf (item.busId ∉ knownBuses) ("Cadence default references unknown bus: " ++ item.busId)
    refuseIf (item.deviceFamily ∉ supportedDeviceFamilies)
      ("Unsupported cadence device family: " ++ item.deviceFamily)
    let _ ← checkInterval item.intervalSeconds "cadence family default"
    checkFamilyDefaults knownBuses (item.key :: seen) rest

def checkDeviceOverrides (knownDevices : List String) :
    List String → List DeviceCadenceOverride → Except RegistryFault Unit
  | _, [] => .ok ()
  | seen, item :: rest => do
    refuseIf (item.deviceId ∈ seen) ("Duplicate cadence device override: " ++ item.deviceId)
    refuseIf (item.deviceId ∉ knownDevices)
      ("Cadence override references unknown device: " ++ item.deviceId)
    let _ ← checkInterval item.intervalSeconds "cadence device override"
    checkDeviceOverrides knownDevices (item.deviceId :: seen) rest

def joinTexts (separator : String) (texts : List String) : String :=
  String.intercalate separator texts

def validatePolicy (policy : CadencePolicy) (busIds : List String)
    (devices : List RegistryDevice) : Except RegistryFault Unit := do
  let defaults ← checkFamilyDefaults busIds [] policy.familyDefaults
  let missing := ((devices.map RegistryDevice.familyKey).dedup.filter
    fun key => key ∉ defaults).insertionSort familyKeyBefore
  refuseIf (missing ≠ []) ("Missing cadence family defaults: " ++
      joinTexts ", " (missing.map fun key => key.1 ++ "/" ++ key.2))
  checkDeviceOverrides (devices.map RegistryDevice.deviceId) [] policy.deviceOverrides

def familyDefaultInterval (policy : CadencePolicy) (key : FamilyKey) :
    Except RegistryFault ℚ :=
  match policy.familyDefaultInterval key.1 key.2 with
  | .ok interval => .ok interval
  | .error _ => .error (.invalid ("Missing cadence family default: " ++ key.1 ++
      "/" ++ key.2))

def legacyInterval (environment : PolicyEnvironment) (name : String)
    (default : ℚ) : Except RegistryFault ℚ :=
  match envFloat environment name default with
  | .ok value => .ok value
  | .error message => .error (.invalid message)

def legacyPriorityIntervals (environment : PolicyEnvironment)
    (legacyIntervalSeconds : ℚ) : Except RegistryFault (ℚ × ℚ × ℚ) := do
  let high ← legacyInterval environment "ACQUISITION_HIGH_INTERVAL_SECONDS"
    (max 5 legacyIntervalSeconds)
  let medium ← legacyInterval environment "ACQUISITION_MEDIUM_INTERVAL_SECONDS"
    (max 10 high)
  let low ← legacyInterval environment "ACQUISITION_LOW_INTERVAL_SECONDS"
    (max 30 medium)
  if high ≤ medium ∧ medium ≤ low then return (high, medium, low)
  else throw (.invalid "Adaptive intervals must satisfy high <= medium <= low")

def bootstrapDefault (high low : ℚ) (key : FamilyKey) :
    Except RegistryFault FamilyCadenceDefault :=
  if key.2 ∉ supportedDeviceFamilies then
    .error (.invalid ("Unsupported cadence device family: " ++ key.2))
  else .ok {
    busId := key.1
    deviceFamily := key.2
    intervalSeconds := min cadenceMaxSeconds
      (max cadenceMinSeconds (if key.2 = "xjp60d" then high else low)) }

def buildBootstrapPolicy (environment : PolicyEnvironment)
    (legacyIntervalSeconds : ℚ) (busFamilyKeys : List FamilyKey) :
    Except RegistryFault CadencePolicy := do
  let (high, _, low) ← legacyPriorityIntervals environment legacyIntervalSeconds
  let defaults ← (busFamilyKeys.dedup.insertionSort familyKeyBefore).mapM
    (bootstrapDefault high low)
  return ⟨defaults, []⟩

/-- The loop of `cadence_from_payload` over the family defaults, from the given
index on.  Ids are stripped and must not be blank. -/
def familyDefaultsFromPayload : ℕ → List FamilyCadenceDefault →
    Except RegistryFault (List FamilyCadenceDefault)
  | _, [] => .ok []
  | index, item :: rest => do
    let path := "cadence.family_defaults[" ++ toString index ++ "]"
    refuseIf (stripText item.busId = "") (path ++ ".bus_id is required")
    refuseIf (item.deviceFamily ∉ supportedDeviceFamilies) (path ++ ".device_family is invalid")
    let interval ← checkInterval item.intervalSeconds (path ++ ".interval_seconds")
    let others ← familyDefaultsFromPayload (index + 1) rest
    return ⟨stripText item.busId, item.deviceFamily, interval⟩ :: others

def deviceOverridesFromPayload : ℕ → List DeviceCadenceOverride →
    Except RegistryFault (List DeviceCadenceOverride)
  | _, [] => .ok []
  | index, item :: rest => do
    let path := "cadence.device_overrides[" ++ toString index ++ "]"
    refuseIf (stripText item.deviceId = "") (path ++ ".device_id is required")
    let interval ← checkInterval item.intervalSeconds (path ++ ".interval_seconds")
    let others ← deviceOverridesFromPayload (index + 1) rest
    return ⟨stripText item.deviceId, interval⟩ :: others

def cadenceFromPayload (payload : CadencePolicy) :
    Except RegistryFault CadencePolicy := do
  let defaults ← familyDefaultsFromPayload 0 payload.familyDefaults
  let overrides ← deviceOverridesFromPayload 0 payload.deviceOverrides
  return ⟨defaults, overrides⟩

/-! ## Mutating a policy -/

/-- The dictionaries, the audited changes and the affected devices which
`apply_mutation` builds up. -/
structure CadenceDraft where
  defaults : Dictionary FamilyKey FamilyCadenceDefault
  overrides : Dictionary String DeviceCadenceOverride
  changes : List AuditChange
  affected : List String

def CadenceDraft.policy (draft : CadenceDraft) : CadencePolicy :=
  ⟨draft.defaults.values, draft.overrides.values⟩

def applyFamilyMutation (knownBuses : List String)
    (devices : List RegistryDevice) (draft : CadenceDraft)
    (item : FamilyCadenceMutation) : Except RegistryFault CadenceDraft := do
  refuseIf (item.busId ∉ knownBuses) ("Cadence mutation references unknown bus: " ++ item.busId)
  refuseIf (item.deviceFamily ∉ supportedDeviceFamilies)
    ("Unsupported cadence device family: " ++ item.deviceFamily)
  let interval ← checkInterval item.intervalSeconds "cadence family interval"
  let key := (item.busId, item.deviceFamily)
  match draft.defaults.get? key with
  | none => throw (.invalid ("Unknown cadence family default: " ++ item.busId ++
      "/" ++ item.deviceFamily))
  | some current =>
    if current.intervalSeconds = interval then return draft
    else return {
      draft with
      defaults := draft.defaults.set key
        ⟨item.busId, item.deviceFamily, interval⟩
      changes := draft.changes ++ [{
        entity := "cadence_family_default"
        id := item.busId ++ "/" ++ item.deviceFamily
        before := .interval current.intervalSeconds
        after := .interval interval }]
      affected := draft.affected ++ (devices.filter fun device =>
        device.familyKey = key ∧
          draft.overrides.get? device.deviceId = none).map
        RegistryDevice.deviceId }

def applyDeviceMutation (devices : List RegistryDevice) (draft : CadenceDraft)
    (item : DeviceCadenceMutation) : Except RegistryFault CadenceDraft := do
  match devices.find? fun device => device.deviceId = item.deviceId with
  | none => throw (.invalid ("Cadence mutation references unknown device: " ++
      item.deviceId))
  | some device =>
    match item.intervalSeconds, draft.overrides.get? item.deviceId with
    | none, none => return draft
    | none, some current =>
      let erased := { draft with
        overrides := draft.overrides.erase item.deviceId }
      let inherited ← familyDefaultInterval erased.policy device.familyKey
      return {
        erased with
        changes := draft.changes ++ [{
          entity := "cadence_device_override"
          id := item.deviceId
          before := .interval current.intervalSeconds
          after := .inherited inherited }]
        affected := draft.affected ++ [item.deviceId] }
    | some requested, current => do
      let interval ← checkInterval requested "cadence device interval"
      if current.map DeviceCadenceOverride.intervalSeconds = some interval then
        return draft
      else
        let assigned := { draft with
          overrides := draft.overrides.set item.deviceId
            ⟨item.deviceId, interval⟩ }
        let inherited ← familyDefaultInterval assigned.policy device.familyKey
        return {
          assigned with
          changes := draft.changes ++ [{
            entity := "cadence_device_override"
            id := item.deviceId
            before := match current with
              | some override => .interval override.intervalSeconds
              | none => .inherited inherited
            after := .interval interval }]
          affected := draft.affected ++ [item.deviceId] }

def applyMutation (policy : CadencePolicy) (mutation : CadenceMutation)
    (busIds : List String) (devices : List RegistryDevice) :
    Except RegistryFault (CadencePolicy × List AuditChange × List String) := do
  refuseIf (¬ (mutation.familyDefaults.map FamilyCadenceMutation.key).Nodup)
    "Duplicate cadence family mutation"
  refuseIf (¬ (mutation.deviceOverrides.map DeviceCadenceMutation.deviceId).Nodup)
    "Duplicate cadence device mutation"
  let draft : CadenceDraft := {
    defaults := .ofItems FamilyCadenceDefault.key policy.familyDefaults
    overrides := .ofItems DeviceCadenceOverride.deviceId policy.deviceOverrides
    changes := []
    affected := [] }
  let draft ← mutation.familyDefaults.foldlM (applyFamilyMutation busIds devices) draft
  let draft ← mutation.deviceOverrides.foldlM (applyDeviceMutation devices) draft
  refuseIf (draft.changes = []) "Cadence mutation does not change effective policy"
  let updated : CadencePolicy := {
    familyDefaults := draft.defaults.values.insertionSort defaultBefore
    deviceOverrides := draft.overrides.values.insertionSort overrideBefore }
  validatePolicy updated busIds devices
  return (updated, draft.changes, draft.affected)

def familyIntervals (defaults : List FamilyCadenceDefault) (family : String) :
    List ℚ :=
  ((defaults.filter fun item => item.deviceFamily = family).map
    FamilyCadenceDefault.intervalSeconds).dedup

/-- One iteration of `ensure_defaults_for_devices`.  `by_family` of the source
holds the intervals of the defaults collected so far. -/
def ensureDefault (defaults : Dictionary FamilyKey FamilyCadenceDefault) (device : RegistryDevice) :
    Except RegistryFault (Dictionary FamilyKey FamilyCadenceDefault) :=
  match defaults.get? device.familyKey with
  | some _ => .ok defaults
  | none =>
    match familyIntervals defaults.values device.deviceFamily with
    | [] => .ok (defaults.set device.familyKey ⟨device.busId, device.deviceFamily, 60⟩)
    | [interval] => .ok (defaults.set device.familyKey
        ⟨device.busId, device.deviceFamily, interval⟩)
    | _ :: _ :: _ => .error (.invalid ("Cannot infer cadence default for " ++
        device.busId ++ "/" ++ device.deviceFamily ++
        " from conflicting family defaults"))

def ensureDefaultsForDevices (policy : CadencePolicy)
    (devices : List RegistryDevice) : Except RegistryFault CadencePolicy := do
  let defaults ← devices.foldlM ensureDefault
    (.ofItems FamilyCadenceDefault.key policy.familyDefaults)
  return {
    familyDefaults := defaults.values.insertionSort defaultBefore
    deviceOverrides := policy.deviceOverrides }

/-- The candidate values of a rebound default: the default the device had on
its old bus, else those of its family. -/
def rebindingCandidates (policy : CadencePolicy)
    (oldDevices : List RegistryDevice) (device : RegistryDevice) : List ℚ :=
  let inherited := match oldDevices.find? fun old =>
      old.deviceId = device.deviceId with
    | none => none
    | some old =>
      (policy.familyDefaultInterval old.busId device.deviceFamily).toOption
  match inherited with
  | some interval => [interval]
  | none => familyIntervals policy.familyDefaults device.deviceFamily

def rebindDefault (policy : CadencePolicy) (oldDevices : List RegistryDevice)
    (defaults : Dictionary FamilyKey FamilyCadenceDefault) (device : RegistryDevice) :
    Except RegistryFault (Dictionary FamilyKey FamilyCadenceDefault) :=
  match defaults.get? device.familyKey with
  | some _ => .ok defaults
  | none =>
    match rebindingCandidates policy oldDevices device with
    | [interval] => .ok (defaults.set device.familyKey
        ⟨device.busId, device.deviceFamily, interval⟩)
    | _ => .error (.invalid ("Cannot deterministically rebind cadence default for " ++
          device.busId ++ "/" ++ device.deviceFamily))

def rebindPolicy (policy : CadencePolicy) (oldDevices newDevices :
    List RegistryDevice) : Except RegistryFault CadencePolicy := do
  let defaults ← newDevices.foldlM (rebindDefault policy oldDevices) []
  return {
    familyDefaults := defaults.values.insertionSort defaultBefore
    deviceOverrides := policy.deviceOverrides }

end Nexolab
