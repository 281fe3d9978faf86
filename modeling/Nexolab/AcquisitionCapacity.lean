import Nexolab.AcquisitionRegistry
import Nexolab.Binary64
import Nexolab.FallibleList

/-!
# The capacity check of an acquisition policy

A bus is safe when the work of its active devices fits into the allowed share of
every second.  For an unsafe bus the evaluation recommends one interval for the
devices which were changed, or for all active ones when none was.
-/

namespace Nexolab

inductive CapacityError where
  | registry (error : RegistryError)
  | value (message : String)

structure BusCapacityProfile where
  busId : String
  baudrate : ℤ
  parity : String
  stopbits : ℤ
  timeoutSeconds : ℚ
  retries : ℤ
  (observedP95Seconds observedRetryRate : Option ℚ)
  observedSampleCount : ℤ

namespace BusCapacityProfile

variable (profile : BusCapacityProfile)

def interFrameSeconds : ℚ :=
  let parityBits : ℤ := if profile.parity = "N" then 0 else 1
  let bitsPerCharacter := 1 + 8 + parityBits + profile.stopbits
  7 / 2 * bitsPerCharacter / profile.baudrate

def retryFraction : ℚ :=
  max (if profile.retries ≠ 0 then 1 / 10 else 0) (min 1 (profile.observedRetryRate.getD 0))

def requestBase : ℚ × String :=
  match profile.observedP95Seconds with
  | none => (profile.timeoutSeconds, "serial_timeout_fallback")
  | some observed =>
    if 0 < observed ∧ 20 ≤ profile.observedSampleCount then
      (observed, "measured_p95")
    else (profile.timeoutSeconds, "serial_timeout_fallback")

def requestBudgetSeconds : ℚ :=
  profile.requestBase.1 + profile.retries * profile.timeoutSeconds * profile.retryFraction +
    profile.interFrameSeconds

def check (busId : String) : Except CapacityError Unit :=
  if profile.busId ≠ busId then
    .error (.value ("RS-485 capacity profile bus mismatch: " ++ busId))
  else if profile.baudrate ≤ 0 ∨ profile.timeoutSeconds ≤ 0 ∨ profile.retries < 0 then
    .error (.value ("Invalid RS-485 capacity profile for bus: " ++ busId))
  else if profile.parity ∉ ["N", "E", "O"] ∨ profile.stopbits ∉ [1, 2] then
    .error (.value ("Invalid RS-485 serial framing for bus: " ++ busId))
  else .ok ()

end BusCapacityProfile

def physicalRequestsPerTarget (target : RegistryTarget) :
    Except CapacityError ℕ :=
  let ofFamily (name : String) := name.toList.isPrefixOf target.deviceId.toList
  if ofFamily "xjp60d-" then .ok 2
  else if ofFamily "le01mp-" then .ok 1
  else if ofFamily "sdm120-" then .ok 1
  else if ofFamily "waveshare-8ai-" then .ok 2
  else if ofFamily "embraco-" then .ok 1
  else .error (.value ("Unsupported capacity device target: " ++ target.targetId))

/-- The eligible targets by device, with the requests each of them takes. -/
abbrev TargetRequests := List (String × ℕ)

def targetRequests (registry : AcquisitionRegistry) :
    Except CapacityError TargetRequests := do
  let targets ← registry.eligibleTargets.mapError .registry
  targets.mapM fun target => do
    let requests ← physicalRequestsPerTarget target
    return (target.deviceId, requests)

def TargetRequests.of (requests : TargetRequests) (deviceId : String) :
    TargetRequests :=
  requests.filter fun request => request.1 = deviceId

structure DeviceLoad where
  (deviceId deviceFamily : String)
  requestCount : ℕ
  effectiveInterval : ℚ
  cadenceSource : CadenceSource
  workSeconds : ℚ

def schedulerOverheadSecondsPerTarget : ℚ := 2 / 1000

def DeviceLoad.contribution (load : DeviceLoad) : ℚ :=
  load.workSeconds / load.effectiveInterval

def roundTo (digits : ℕ) (value : ℚ) : ℚ :=
  roundHalfEven (value * 10 ^ digits) / 10 ^ digits

def DeviceLoad.estimatedWork (load : DeviceLoad) : ℚ := roundTo 6 load.workSeconds

def deviceLoad (registry : AcquisitionRegistry) (requests : TargetRequests)
    (budget : ℚ) (device : RegistryDevice) : Except CapacityError DeviceLoad := do
  let (interval, source) ←
    (registry.effectiveCadenceForDevice device.deviceId).mapError .registry
  let count := ((requests.of device.deviceId).map Prod.snd).sum
  return ⟨device.deviceId, device.deviceFamily, count, interval, source,
    count * budget + schedulerOverheadSecondsPerTarget * count⟩

structure BusEvaluation where
  profile : BusCapacityProfile
  activeTargetCount : ℕ
  loads : List DeviceLoad

namespace BusEvaluation

variable (evaluation : BusEvaluation) (changed : List String)

def utilization : ℚ := (evaluation.loads.map DeviceLoad.contribution).sum

def fixedUtilization : ℚ :=
  ((evaluation.loads.filter fun load => load.deviceId ∉ changed).map DeviceLoad.contribution).sum

def changedWork : ℚ :=
  ((evaluation.loads.filter fun load => load.deviceId ∈ changed).map DeviceLoad.workSeconds).sum

/-- The comparison of the sums tolerates a rounding error. -/
def isSafe (maxUtilization : ℚ) : Bool :=
  evaluation.utilization ≤ maxUtilization + 1 / 10 ^ 9

end BusEvaluation

def recommendUniformChangedInterval
    (allowedUtilization fixedUtilization changedWork : ℚ) : Option ℤ :=
  let remaining := allowedUtilization - fixedUtilization
  if remaining ≤ 0 ∨ changedWork ≤ 0 then none
  else
    let required := max 10 ⌈changedWork / remaining⌉
    if required ≤ cadenceMaxSeconds then some required else none

structure DeviceRow where
  (deviceId deviceFamily : String)
  physicalRequestsPerPass : ℕ
  effectiveIntervalSeconds : ℚ
  cadenceSource : CadenceSource
  (estimatedWorkSecondsPerPass estimatedUtilizationPercent : ℚ)

def DeviceLoad.row (load : DeviceLoad) : DeviceRow :=
  ⟨load.deviceId, load.deviceFamily, load.requestCount, load.effectiveInterval,
    load.cadenceSource, load.estimatedWork, roundTo 3 (load.contribution * 100)⟩

/-- What the row of a bus with active devices says in addition. -/
structure BusDetail where
  recommendationScope : Option String
  requestBudgetSeconds : ℚ
  observedSampleCount : ℤ
  serialTimeoutSeconds : ℚ
  retryAllowance : ℤ
  (retryReserveFraction interFrameSeconds : ℚ)
  devices : List DeviceRow

structure BusReport where
  busId : String
  safe : Bool
  (activeDeviceCount activeTargetCount : ℕ)
  (estimatedUtilizationPercent maximumAllowedUtilizationPercent : ℚ)
  recommendedMinimumIntervalSeconds : Option ℤ
  requestBudgetSource : String
  detail : Option BusDetail

structure CapacitySummary where
  safe : Bool
  (maximumAllowedUtilizationPercent safetyMarginPercent : ℚ)
  buses : List BusReport

def idleBus (busId : String) (maxUtilization : ℚ) : BusReport :=
  ⟨busId, true, 0, 0, 0, roundTo 3 (maxUtilization * 100), none, "not_required",
    none⟩

namespace BusEvaluation

variable (evaluation : BusEvaluation) (changed : List String) (maxUtilization : ℚ)

/-- The work the recommendation divides.  Without changed devices it is summed
from the rows of the report. -/
def dividedWork : ℚ :=
  if changed ≠ [] then evaluation.changedWork changed
  else (evaluation.loads.map DeviceLoad.estimatedWork).sum

def fixedShare : ℚ :=
  if changed ≠ [] then evaluation.fixedUtilization changed else 0

def recommendation : Option ℤ :=
  if evaluation.isSafe maxUtilization then none
  else
    recommendUniformChangedInterval maxUtilization
      (evaluation.fixedShare changed) (evaluation.dividedWork changed)

def recommendationScope : Option String :=
  if evaluation.isSafe maxUtilization then none
  else if changed ≠ [] then some "changed_devices_uniform_interval"
  else some "all_active_devices_uniform_interval"

def report (busId : String) : BusReport where
  busId
  safe := evaluation.isSafe maxUtilization
  activeDeviceCount := evaluation.loads.length
  activeTargetCount := evaluation.activeTargetCount
  estimatedUtilizationPercent := roundTo 3 (evaluation.utilization * 100)
  maximumAllowedUtilizationPercent := roundTo 3 (maxUtilization * 100)
  recommendedMinimumIntervalSeconds :=
    evaluation.recommendation changed maxUtilization
  requestBudgetSource := evaluation.profile.requestBase.2
  detail := some
    { recommendationScope := evaluation.recommendationScope changed maxUtilization
      requestBudgetSeconds := roundTo 6 evaluation.profile.requestBudgetSeconds
      observedSampleCount := evaluation.profile.observedSampleCount
      serialTimeoutSeconds := evaluation.profile.timeoutSeconds
      retryAllowance := evaluation.profile.retries
      retryReserveFraction := roundTo 6 evaluation.profile.retryFraction
      interFrameSeconds := roundTo 6 evaluation.profile.interFrameSeconds
      devices := evaluation.loads.map DeviceLoad.row }

end BusEvaluation

def capacityProfile (profiles : String → Option BusCapacityProfile)
    (busId : String) : Except CapacityError BusCapacityProfile :=
  match profiles busId with
  | none =>
    .error (.value ("Missing RS-485 capacity profile for active bus: " ++ busId))
  | some profile => do
    profile.check busId
    return profile

namespace AcquisitionRegistry

variable (registry : AcquisitionRegistry) (requests : TargetRequests)
  (profiles : String → Option BusCapacityProfile)

def activeDevices (busId : String) : List RegistryDevice :=
  registry.document.devices.filter fun device =>
    device.busId = busId ∧ requests.of device.deviceId ≠ []

def sortedDevices (busId : String) : List RegistryDevice :=
  (registry.activeDevices requests busId).insertionSort
    fun left right => left.deviceId ≤ right.deviceId

def evaluateLoads (busId : String) : Except CapacityError BusEvaluation := do
  let profile ← capacityProfile profiles busId
  let devices := registry.sortedDevices requests busId
  let loads ← devices.mapM (deviceLoad registry requests profile.requestBudgetSeconds)
  return ⟨profile, (devices.map fun device => (requests.of device.deviceId).length).sum, loads⟩

def evaluateBus (changed : List String) (maxUtilization : ℚ) (busId : String) :
    Except CapacityError BusReport :=
  if registry.activeDevices requests busId = [] then
    .ok (idleBus busId maxUtilization)
  else do
    let evaluation ← registry.evaluateLoads requests profiles busId
    return evaluation.report changed maxUtilization busId

def evaluateBuses (busIds : List String) (changed : List String)
    (maxUtilization : ℚ) : Except CapacityError (List BusReport) := do
  let requests ← targetRequests registry
  (busIds.dedup.insertionSort (· ≤ ·)).mapM
    (registry.evaluateBus requests profiles changed maxUtilization)

def evaluateCapacity (busIds : List String) (changed : List String)
    (maxUtilization : ℚ) : Except CapacityError CapacitySummary :=
  if ¬ (0 < maxUtilization ∧ maxUtilization < 1) then
    .error (.value "max_utilization must be between zero and one")
  else do
    let buses ← registry.evaluateBuses profiles busIds changed maxUtilization
    return ⟨buses.all BusReport.safe, roundTo 3 (maxUtilization * 100),
      roundTo 3 ((1 - maxUtilization) * 100), buses⟩

end AcquisitionRegistry

end Nexolab
