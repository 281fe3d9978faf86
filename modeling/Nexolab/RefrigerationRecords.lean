import Nexolab.FallibleList
import Nexolab.TelemetryContract
import Nexolab.TemporalHistory
import Nexolab.TransitionSystem

/-!
# Temporal records of circuits and instruments

The states, configurations and bindings of the circuits, the acquisition sources and
the scaling of the signals, and the acceptances and calibrations of the instruments
are histories of validity intervals.  A record is appended behind the last one of its
history under the lock of its owner.
-/

namespace Nexolab

inductive RegistryLifecycleState where
  | active
  | inactive
  | retired
  deriving DecidableEq

inductive PressureReference where
  | absolute
  | gauge
  deriving DecidableEq

structure Instrument where
  (id inventoryKey instrumentKind : String)
  pressureReference : Option PressureReference
  lifecycleState : RegistryLifecycleState
  version : ℕ
  (createdAt updatedAt : Instant)
  deriving DecidableEq

structure Signal where
  (id instrumentId physicalQuantity engineeringUnit : String)
  lifecycleState : RegistryLifecycleState
  deriving DecidableEq

inductive ProcessRole where
  | suctionPressure
  | condensingPressure
  | suctionLineTemperature
  | liquidLineTemperature
  | atmosphericPressure
  | relativeHumidity
  deriving DecidableEq

def ProcessRole.text : ProcessRole → String
  | .suctionPressure => "suction_pressure"
  | .condensingPressure => "condensing_pressure"
  | .suctionLineTemperature => "suction_line_temperature"
  | .liquidLineTemperature => "liquid_line_temperature"
  | .atmosphericPressure => "atmospheric_pressure"
  | .relativeHumidity => "relative_humidity"

inductive CalibrationState where
  | valid
  | due
  | expired
  | revoked
  | unknown
  deriving DecidableEq

inductive EvidenceStatus where
  | softwareVerified
  | hardwareUnverified
  | hardwareVerified
  deriving DecidableEq

structure CalculationPolicyRecord where
  version : String
  (maximumAgeMs maximumFutureClockSkewMs maximumCrossInputSkewMs : ℕ)
  acceptedCalibrationStates : List CalibrationState
  requireCalibrationAtObservation : Bool
  calibrationRequiredRoles : List ProcessRole
  deriving DecidableEq

/-- An audit event of an instrument with the snapshot after the change. -/
structure InstrumentAudit where
  occurredAt : Instant
  after : Instrument
  deriving DecidableEq

structure CircuitConfiguration where
  (refrigerantCode calculationPolicyVersion : String)
  propertyProviderProfile : Option String
  deriving DecidableEq

structure AcquisitionSource where
  (nodeId equipmentId channelId metric unit : String)
  evidenceStatus : EvidenceStatus
  (acquisitionProfileId acquisitionProfileVersion : Option String)
  calibrationScope : Option String
  deriving DecidableEq

structure AnalogScalingProfile where
  (rawMin rawMax : ℚ)
  engineeringUnit : String
  (acquisitionDeviceFamily acquisitionProfileId : Option String)
  (acquisitionProfileVersion acquisitionChannelReference : Option String)
  (acquisitionSourceId evidenceReference : Option String)
  calibrationScope : String
  evidenceStatus : EvidenceStatus
  deriving DecidableEq

structure ProfileAcceptance where
  acquisitionSourceId : String
  scalingProfileId : Option String
  (acquisitionProfileId acquisitionProfileVersion : String)
  acceptedForCalculation : Bool
  deriving DecidableEq

inductive RecordContent where
  | lifecycle (state : RegistryLifecycleState)
  | configuration (configuration : CircuitConfiguration)
  | binding (signalId : String)
  | source (source : AcquisitionSource)
  | scaling (profile : AnalogScalingProfile)
  | acceptance (acceptedForCalculation : Bool)
  | calibration (state : CalibrationState) (certificateReference : Option String)
  | profileAcceptance (acceptance : ProfileAcceptance)
  deriving DecidableEq

/-- The table of a record and the columns its history is selected by; the target key
of a profile acceptance is made of the two identities. -/
inductive HistoryKey where
  | lifecycle (circuitId : String)
  | configuration (circuitId : String)
  | binding (circuitId : String) (role : ProcessRole)
  | source (signalId : String)
  | scaling (signalId : String)
  | acceptance (instrumentId : String)
  | calibration (instrumentId scope : String)
  | profileAcceptance (signalId sourceId : String) (scalingId : Option String)
  deriving DecidableEq

structure RegistryRecord where
  id : String
  content : RecordContent
  deriving DecidableEq

abbrev RecordRow := HistoryRow HistoryKey Instant RegistryRecord

/-- The tables of one organization; those of the histories are one list. -/
structure InstrumentRegistry where
  circuits : List String
  policies : List CalculationPolicyRecord
  instruments : List Instrument
  signals : List Signal
  audits : List InstrumentAudit
  records : List RecordRow
  deriving DecidableEq

/-! ## Closing an interval -/

structure CloseRule where
  (openError orderError : String)
  /-- A new row must start later than the last one. -/
  strict : Bool
  /-- The order is asked for before the end. -/
  orderFirst : Bool

namespace CloseRule

variable (rule : CloseRule)

def checkOpen (last : RecordRow) : Except String Unit :=
  if last.validTo.isSome then .error rule.openError else .ok ()

def checkOrder (last : RecordRow) (validFrom : Instant) : Except String Unit :=
  if validFrom < last.validFrom || rule.strict && validFrom = last.validFrom then
    .error rule.orderError
  else .ok ()

def check (last : Option RecordRow) (validFrom : Instant) : Except String Unit :=
  match last with
  | none => .ok ()
  | some last =>
    if rule.orderFirst then do
      rule.checkOrder last validFrom
      rule.checkOpen last
    else do
      rule.checkOpen last
      rule.checkOrder last validFrom

end CloseRule

def closeCircuitInterval (label : String) : CloseRule where
  openError := label ++ " history has no single open current interval"
  orderError := label ++ " states must be appended in strictly increasing effective-time order"
  strict := true
  orderFirst := false

def closeAnalogScalingInterval : CloseRule where
  openError := "analog scaling history has no single open current interval"
  orderError :=
    "analog scaling profiles must be appended in non-decreasing effective-time order"
  strict := false
  orderFirst := false

def closeAcquisitionSourceInterval : CloseRule where
  openError := "acquisition source history has no single open current interval"
  orderError :=
    "acquisition source bindings must be appended in non-decreasing validity-time order"
  strict := false
  orderFirst := false

def closeAcceptanceInterval : CloseRule where
  openError := "acceptance history has no single open current interval"
  orderError :=
    "acceptance states must be appended in non-decreasing effective-time order"
  strict := false
  orderFirst := false

def closeCalibrationInterval : CloseRule where
  openError := "calibration history has no single open current interval"
  orderError :=
    "calibration states must be appended in non-decreasing validity-time order"
  strict := false
  orderFirst := false

def closeProfileAcceptanceInterval : CloseRule where
  openError :=
    "acquisition profile acceptance history has no single open current interval"
  orderError :=
    "acquisition profile acceptance must be appended in non-decreasing effective-time order"
  strict := false
  orderFirst := true

def joinedWords (text : String) : String :=
  " ".intercalate (((text.toList.splitOnP fun char => isPythonSpace char.toNat).filter
    (· ≠ [])).map String.ofList)

def optionalText (value : Option String) : Option String :=
  value.bind fun text => if joinedWords text = "" then none else some (joinedWords text)

def AcquisitionSource.validated (source : AcquisitionSource) :
    Except String AcquisitionSource :=
  let validated := { source with
    nodeId := stripText source.nodeId
    equipmentId := stripText source.equipmentId
    channelId := stripText source.channelId
    metric := stripText source.metric
    acquisitionProfileId := optionalText source.acquisitionProfileId
    acquisitionProfileVersion := optionalText source.acquisitionProfileVersion }
  if validated.nodeId = "" || validated.equipmentId = "" || validated.channelId = "" ||
      validated.metric = "" then .error "source identity must not be blank"
  else if validated.acquisitionProfileId.isNone ≠
      validated.acquisitionProfileVersion.isNone then
    .error "acquisition_profile_id and acquisition_profile_version must be provided together"
  else .ok validated

def AnalogScalingProfile.provenance (profile : AnalogScalingProfile) :
    List (Option String) :=
  [profile.acquisitionDeviceFamily, profile.acquisitionProfileId,
   profile.acquisitionProfileVersion, profile.acquisitionChannelReference,
   profile.evidenceReference]

def AnalogScalingProfile.validated (profile : AnalogScalingProfile) :
    Except String AnalogScalingProfile :=
  let validated := { profile with
    acquisitionDeviceFamily := optionalText profile.acquisitionDeviceFamily
    acquisitionProfileId := optionalText profile.acquisitionProfileId
    acquisitionProfileVersion := optionalText profile.acquisitionProfileVersion
    acquisitionChannelReference := optionalText profile.acquisitionChannelReference
    acquisitionSourceId := optionalText profile.acquisitionSourceId
    evidenceReference := optionalText profile.evidenceReference }
  if validated.rawMax ≤ validated.rawMin then
    .error "raw_min must be strictly less than raw_max"
  else if validated.evidenceStatus = .hardwareVerified &&
      validated.provenance.any Option.isNone then
    .error "hardware_verified analog profiles require complete acquisition provenance"
  else .ok validated

end Nexolab
