import Nexolab.InventoryEnrollment

/-!
# The catalogue of supported devices

A commissioning session names a device; the catalogue says which profile it
has.  `resolveValues` computes the columns of a session from the values an
operator can edit, its lifecycle included.
-/

namespace Nexolab

/-- `str.lower`, as far as a comparison with the texts of the catalogue can see:
they are plain ASCII, and the only other character with a plain lower-case
letter is the Kelvin sign. -/
def lowerCatalogText (text : String) : String :=
  String.ofList <| text.toList.map fun char =>
    if char.toNat = 8490 then 'k' else char.toLower

def joinWords (text : String) : String :=
  let words := (text.toList.splitOnP fun char => isPythonSpace char.toNat).filter
    fun word => word ≠ []
  " ".intercalate (words.map String.ofList)

def catalogKey (value : String) : String := joinWords (lowerCatalogText (stripText value))

def present (value : Option String) : Bool := value.isSome && value ≠ some ""

inductive DeviceFamily where
  | xjp60d
  | le01mp
  | embraco
  | akcc25
  deriving DecidableEq

structure SupportedDeviceProfile where
  (id version : String)
  deviceFamily : DeviceFamily
  (deviceClass manufacturer : String)
  models : List String
  transportKind : String
  activationSupported : Bool

def supportedDeviceProfiles : List SupportedDeviceProfile := [
  { id := "dixell-xjp60d"
    version := xjp60dProfileVersion
    deviceFamily := .xjp60d
    deviceClass := "temperature-controller"
    manufacturer := "Dixell"
    models := ["XJP60D"]
    transportKind := "modbus_rtu"
    activationSupported := true },
  { id := "f-and-f-le01mp"
    version := le01mpProfileVersion
    deviceFamily := .le01mp
    deviceClass := "energy-meter"
    manufacturer := "F&F"
    models := ["LE-01MP"]
    transportKind := "modbus_rtu"
    activationSupported := true },
  { id := "embraco-sync"
    version := embracoProfileVersion
    deviceFamily := .embraco
    deviceClass := "temperature-controller"
    manufacturer := "Embraco"
    models := ["Sync", "Embraco Sync"]
    transportKind := "modbus_rtu"
    activationSupported := true },
  { id := "danfoss-ak-cc25-pro"
    version := "danfoss-ak-cc25-pro-sw1.3x-fc03-v1"
    deviceFamily := .akcc25
    deviceClass := "temperature-controller"
    manufacturer := "Danfoss"
    models := ["AK-CC25 Pro"]
    transportKind := "modbus_rtu"
    activationSupported := false }]

def SupportedDeviceProfile.controlsTemperature (profile : SupportedDeviceProfile) :
    Bool :=
  profile.deviceClass = "temperature-controller"

def supportedProfile (profileId : Option String) :
    Option SupportedDeviceProfile :=
  let normalized := stripText (profileId.getD "")
  if normalized = "" then none
  else supportedDeviceProfiles.find? fun profile => profile.id = normalized

def resolveSupportedProfile (profileId : Option String)
    (manufacturer model : String) : Option SupportedDeviceProfile :=
  if stripText (profileId.getD "") ≠ "" then supportedProfile profileId
  else
    let matching := supportedDeviceProfiles.filter fun profile =>
      catalogKey profile.manufacturer = catalogKey manufacturer ∧
        catalogKey model ∈ profile.models.map catalogKey
    match matching with
    | [profile] => some profile
    | _ => none

def profileMatchesIdentity (profile : SupportedDeviceProfile)
    (deviceClass manufacturer model : String) : Bool :=
  catalogKey profile.deviceClass = catalogKey deviceClass &&
    catalogKey profile.manufacturer = catalogKey manufacturer &&
    decide (catalogKey model ∈ profile.models.map catalogKey)

/-! ## The values of a session -/

inductive CommissioningLifecycle where
  | draft
  | readyForPreflight
  | verified
  | pendingActivation
  | active
  | activationFailed
  | rolledBack
  | blocked
  | unsupported
  | cancelled
  deriving DecidableEq

structure CommissioningValues where
  (deviceClass manufacturer model : String)
  (profileId nodeId busId stableTransportIdentifier : Option String)
  unitId : Option ℕ
  (ipAddress targetEquipmentKey : Option String)
  deriving DecidableEq

structure ResolvedValues extends CommissioningValues where
  (profileVersion transportKind blockedReason unsupportedReason : Option String)
  lifecycle : CommissioningLifecycle
  deriving DecidableEq

def isStableSerialIdentifier (value : String) : Bool :=
  let path := "/dev/serial/by-id/"
  let identifier := stripText value
  let deviceId := identifier.toList.drop path.length
  path.toList.isPrefixOf identifier.toList && deviceId ≠ [] &&
    deviceId ≠ ['.'] && deviceId ≠ ['.', '.'] && deviceId.all fun char =>
      char ≠ '/' && !isPythonSpace char.toNat

def CommissioningValues.complete (values : CommissioningValues) : Bool :=
  present values.nodeId && present values.busId &&
    present values.stableTransportIdentifier && values.unitId.isSome &&
    present values.targetEquipmentKey

def resolveValues (values : CommissioningValues) : ResolvedValues :=
  let named : CommissioningValues := { values with
    deviceClass := stripText values.deviceClass
    manufacturer := stripText values.manufacturer
    model := stripText values.model }
  match resolveSupportedProfile values.profileId named.manufacturer named.model with
  | none =>
    { named with
      profileVersion := none
      transportKind := none
      blockedReason := none
      unsupportedReason := some "Unsupported / Profile required"
      lifecycle := .unsupported }
  | some profile =>
    let resolved : ResolvedValues := { named with
      profileId := some profile.id
      profileVersion := some profile.version
      transportKind := some profile.transportKind
      blockedReason := none
      unsupportedReason := none
      lifecycle := .draft }
    if ¬ profileMatchesIdentity profile named.deviceClass named.manufacturer
        named.model then
      { resolved with
        lifecycle := .blocked
        blockedReason := some "Selected profile does not match device identity" }
    else if profile.transportKind = "modbus_rtu" then
      if present named.stableTransportIdentifier ∧ ¬ isStableSerialIdentifier
          (named.stableTransportIdentifier.getD "") then
        { resolved with
          lifecycle := .blocked
          blockedReason := some "Stable serial device path must use /dev/serial/by-id/<device-id>" }
      else if named.complete then { resolved with lifecycle := .readyForPreflight }
      else resolved
    else resolved

def isSupportedControllerIntent (values : CommissioningValues) : Bool :=
  present values.profileId && (supportedProfile values.profileId).any
      SupportedDeviceProfile.controlsTemperature

def CommissioningLifecycle.described : CommissioningLifecycle → Bool
  | .draft => true
  | .readyForPreflight => true
  | .blocked => true
  | .unsupported => true
  | _ => false

theorem resolveValues_described (values : CommissioningValues) :
    (resolveValues values).lifecycle.described = true := by
  unfold resolveValues
  dsimp only
  split
  next => rfl
  next profile _ =>
    split_ifs <;> rfl

example : (resolveValues ⟨"Temperature-Controller", " dixell", "xjp60d ", none,
    some "edge-1", some "bus-1", some "/dev/serial/by-id/usb-1", some 3, none,
    some "EQ-1"⟩).lifecycle = .readyForPreflight := by
  decide +kernel

end Nexolab
