import Mathlib.Tactic

/-!
# The acquisition registry as the scheduler reads it

A registry document lists the devices of the RS-485 buses, the read targets of
each device and the cadence policy.  The scheduler asks three things of it:
which targets are eligible for polling, which device owns a target, and the
effective polling interval of a device.  `AcquisitionRegistry` is built from a
validated document; the checks of `_validate_document` the scheduler relies on
are fields of the structure.
-/

namespace Nexolab

structure RegistryDevice where
  (deviceId busId deviceFamily : String)
  unitId : ℕ
  lifecycle : String
  deriving DecidableEq

structure RegistryTarget where
  (targetId deviceId key telemetryChannelId metric unit lifecycle : String)
  function : ℕ
  deriving DecidableEq

structure FamilyCadenceDefault where
  (busId deviceFamily : String)
  intervalSeconds : ℚ
  deriving DecidableEq

structure DeviceCadenceOverride where
  deviceId : String
  intervalSeconds : ℚ
  deriving DecidableEq

structure CadencePolicy where
  familyDefaults : List FamilyCadenceDefault
  deviceOverrides : List DeviceCadenceOverride
  deriving DecidableEq

structure RegistryDocument where
  revision : ℕ
  devices : List RegistryDevice
  targets : List RegistryTarget
  cadence : CadencePolicy

def cadenceMinSeconds : ℚ := 10

def cadenceMaxSeconds : ℚ := 3600

def pollingLifecycle : String := "active"

def readFunctions : List ℕ := [3, 4]

inductive CadenceSource where
  | deviceOverride
  | familyDefault

inductive RegistryError where
  | unknownDevice (deviceId : String)
  | missingFamilyDefault (busId deviceFamily : String)
  deriving DecidableEq

def CadencePolicy.intervals (policy : CadencePolicy) : List ℚ :=
  policy.familyDefaults.map FamilyCadenceDefault.intervalSeconds ++
    policy.deviceOverrides.map DeviceCadenceOverride.intervalSeconds

def CadencePolicy.familyDefaultInterval (policy : CadencePolicy) (busId deviceFamily : String) :
    Except RegistryError ℚ :=
  match policy.familyDefaults.find? fun item =>
      item.busId = busId ∧ item.deviceFamily = deviceFamily with
  | some item => .ok item.intervalSeconds
  | none => .error (.missingFamilyDefault busId deviceFamily)

def CadencePolicy.effectiveInterval
    (policy : CadencePolicy) (deviceId busId deviceFamily : String) :
    Except RegistryError (ℚ × CadenceSource) :=
  match policy.deviceOverrides.find? fun item => item.deviceId = deviceId with
  | some item => .ok (item.intervalSeconds, .deviceOverride)
  | none => do
    let interval ← policy.familyDefaultInterval busId deviceFamily
    return (interval, .familyDefault)

structure AcquisitionRegistry where
  document : RegistryDocument
  deviceIds_nodup : (document.devices.map RegistryDevice.deviceId).Nodup
  targetIds_nodup : (document.targets.map RegistryTarget.targetId).Nodup
  intervals_bounded : ∀ interval ∈ document.cadence.intervals,
    cadenceMinSeconds ≤ interval ∧ interval ≤ cadenceMaxSeconds

namespace AcquisitionRegistry

def revision (registry : AcquisitionRegistry) : ℕ := registry.document.revision

def device (registry : AcquisitionRegistry) (deviceId : String) :
    Except RegistryError RegistryDevice :=
  match registry.document.devices.find? fun item => item.deviceId = deviceId with
  | some item => .ok item
  | none => .error (.unknownDevice deviceId)

def effectivePollEligible (registry : AcquisitionRegistry)
    (target : RegistryTarget) : Except RegistryError Bool := do
  let device ← registry.device target.deviceId
  return device.lifecycle = pollingLifecycle && target.lifecycle = pollingLifecycle &&
    readFunctions.contains target.function

def eligibleTargets (registry : AcquisitionRegistry) :
    Except RegistryError (List RegistryTarget) :=
  registry.document.targets.filterM registry.effectivePollEligible

def effectiveCadenceForDevice (registry : AcquisitionRegistry)
    (deviceId : String) : Except RegistryError (ℚ × CadenceSource) := do
  let device ← registry.device deviceId
  registry.document.cadence.effectiveInterval device.deviceId device.busId device.deviceFamily

end AcquisitionRegistry

theorem CadencePolicy.familyDefaultInterval_mem
    {policy : CadencePolicy} {busId deviceFamily : String} {interval : ℚ}
    (hint : policy.familyDefaultInterval busId deviceFamily = .ok interval) :
    interval ∈ policy.intervals := by
  unfold CadencePolicy.familyDefaultInterval at hint
  split at hint
  next item hfind =>
    have hmem := List.mem_of_find?_eq_some hfind
    cases hint
    exact List.mem_append_left _ (List.mem_map_of_mem hmem)
  next => cases hint

theorem CadencePolicy.effectiveInterval_mem
    {policy : CadencePolicy} {deviceId busId deviceFamily : String}
    {interval : ℚ} {source : CadenceSource}
    (hint : policy.effectiveInterval deviceId busId deviceFamily = .ok (interval, source)) :
    interval ∈ policy.intervals := by
  unfold CadencePolicy.effectiveInterval at hint
  split at hint
  next item hfind =>
    have hmem := List.mem_of_find?_eq_some hfind
    simp only [Except.ok.injEq, Prod.mk.injEq] at hint
    rw [← hint.1]
    exact List.mem_append_right _ (List.mem_map_of_mem hmem)
  next =>
    cases hdefault : policy.familyDefaultInterval busId deviceFamily with
    | error error => simp [hdefault, bind, Except.bind] at hint
    | ok value =>
      simp only [hdefault, bind, Except.bind, pure, Except.pure,
        Except.ok.injEq, Prod.mk.injEq] at hint
      rw [← hint.1]
      exact familyDefaultInterval_mem hdefault

theorem AcquisitionRegistry.effectiveCadence_bounded
    {registry : AcquisitionRegistry} {deviceId : String} {interval : ℚ} {source : CadenceSource}
    (hint : registry.effectiveCadenceForDevice deviceId = .ok (interval, source)) :
    cadenceMinSeconds ≤ interval ∧ interval ≤ cadenceMaxSeconds := by
  unfold AcquisitionRegistry.effectiveCadenceForDevice at hint
  cases hdev : registry.device deviceId with
  | error error => simp [hdev, bind, Except.bind] at hint
  | ok device =>
    simp only [hdev, bind, Except.bind] at hint
    exact registry.intervals_bounded _ (CadencePolicy.effectiveInterval_mem hint)

end Nexolab
