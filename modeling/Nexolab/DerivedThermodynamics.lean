import Mathlib.Data.Finset.Basic
import Mathlib.Data.Finset.Insert
import Nexolab.FallibleList
import Nexolab.PythonValues

/-!
# Derived thermodynamics

`DerivedThermodynamicsKernel.calculate`: superheat, subcooling and the
saturation temperatures of a circuit from resolved source evidence.  Whatever
Python raises on ill-typed operands, on an empty `min` or on an exhausted
iterator is explicit, so that it is a theorem that nothing is raised.
-/

namespace Nexolab

class PythonArithmetic (F : Type) extends PythonFloat F where
  (add mul : F → F → F)

namespace FloatValue

def add : FloatValue → FloatValue → FloatValue
  | left, right => sub left (neg right)

def signOf : FloatValue → Option Int
  | .notANumber => none
  | .infinity => some 1
  | .negInfinity => some (-1)
  | .finite value => some (if 0 < value then 1 else if value < 0 then -1 else 0)

def mul : FloatValue → FloatValue → FloatValue
  | .finite left, .finite right => ofRational (left * right)
  | left, right =>
    match signOf left, signOf right with
    | some leftSign, some rightSign =>
      if 0 < leftSign * rightSign then .infinity
      else if leftSign * rightSign < 0 then .negInfinity
      else .notANumber
    | _, _ => .notANumber

instance arithmetic : PythonArithmetic FloatValue where
  add
  mul

end FloatValue

inductive PythonException where
  | typeError
  | valueError
  | overflowError
  | stopIteration
  deriving DecidableEq

inductive PythonDatetime where
  | naive (wall : ℤ)
  | aware (instant utcOffset : ℤ)
  deriving DecidableEq

namespace PythonDatetime

def isAware : PythonDatetime → Bool
  | .naive _ => false
  | .aware _ _ => true

def micros : PythonDatetime → ℤ
  | .naive wall => wall
  | .aware instant _ => instant

/-- An operation on two datetimes, which may not mix naive and aware ones. -/
def combine {α : Type} (operation : ℤ → ℤ → α)
    (left right : PythonDatetime) : Except PythonException α :=
  if left.isAware = right.isAware then
    .ok (operation left.micros right.micros)
  else .error .typeError

def lt : PythonDatetime → PythonDatetime → Except PythonException Bool :=
  combine fun left right => decide (left < right)

def le : PythonDatetime → PythonDatetime → Except PythonException Bool :=
  combine fun left right => decide (left ≤ right)

def sub : PythonDatetime → PythonDatetime → Except PythonException ℤ :=
  combine fun left right => left - right

def earlier (left right : PythonDatetime) :
    Except PythonException PythonDatetime := do
  if ← lt right left then .ok right else .ok left

def later (left right : PythonDatetime) :
    Except PythonException PythonDatetime := do
  if ← lt left right then .ok right else .ok left

def minimum : List PythonDatetime → Except PythonException PythonDatetime
  | [] => .error .valueError
  | first :: rest => rest.foldlM earlier first

def maximum : List PythonDatetime → Except PythonException PythonDatetime
  | [] => .error .valueError
  | first :: rest => rest.foldlM later first

def contains (validFrom : PythonDatetime) (validTo : Option PythonDatetime)
    (value : PythonDatetime) : Except PythonException Bool :=
  if !validFrom.isAware || !value.isAware ||
      validTo.any (fun limit => !limit.isAware) then .ok false
  else do
    if ← le validFrom value then
      match validTo with
      | none => .ok true
      | some limit => lt value limit
    else .ok false

end PythonDatetime

/-- A value annotated `float`, which may be an `int`. -/
inductive PythonNumber (F : Type) where
  | float (value : F)
  | int (value : ℤ)
  deriving DecidableEq

section

variable {F : Type} [PythonArithmetic F]

def floatOf : Option (PythonNumber F) → Except PythonException F
  | none => .error .typeError
  | some (.float value) => .ok value
  | some (.int value) =>
    match PythonFloat.ofInt value with
    | some converted => .ok converted
    | none => .error .overflowError

end

def isBlank (text : String) : Bool := stripText text = ""

/-! ## Data -/

inductive MetricId where
  | evaporationSaturation
  | condensationSaturation
  | superheat
  | subcooling

inductive Availability where
  | available
  | unavailable

inductive ReasonCode where
  | missingRequiredSource
  | ambiguousRequiredSource
  | invalidTimestamp
  | invalidContextProvenance
  | invalidSourceProvenance
  | circuitNotActive
  | lifecycleIntervalMismatch
  | configurationIntervalMismatch
  | bindingIntervalMismatch
  | calculationPolicyMismatch
  | invalidSourceValue
  | invalidSourceUnit
  | telemetryQualityRejected
  | sampleTooOld
  | futureSampleNotAllowed
  | futureSampleSkewExceeded
  | crossInputSkewExceeded
  | instrumentAcceptanceUnavailable
  | instrumentNotAccepted
  | acquisitionProfileUnresolved
  | acquisitionAcceptanceUnavailable
  | acquisitionNotAccepted
  | calibrationUnavailable
  | calibrationStateRejected
  | unknownPressureReference
  | missingAtmosphericPressure
  | invalidAbsolutePressure
  | providerProfileMismatch
  | providerInvalidPressure
  | providerUnsupportedRefrigerant
  | providerUnsupportedPhase
  | providerUnsupportedProviderProfile
  | providerVersionMismatch
  | providerDomainError
  | providerError
  | providerNonFiniteResult
  deriving DecidableEq

def acceptanceSchemaVersion : String := "acceptance-state/v1"

def calibrationSchemaVersion : String := "calibration-state/v1"

def acceptableCalibrationStates : Finset String := {"valid", "due"}

def knownSourceRoles : Finset String :=
  {"suction_pressure", "condensing_pressure", "suction_line_temperature",
    "liquid_line_temperature", "atmospheric_pressure"}

structure AcceptanceEvidence where
  recordId : String
  revision : ℤ
  schemaVersion : String
  acceptedForCalculation : Bool
  validFrom : PythonDatetime
  validTo : Option PythonDatetime
  deriving DecidableEq

structure CalibrationEvidence where
  recordId : String
  revision : ℤ
  (schemaVersion state : String)
  validFrom : PythonDatetime
  validTo : Option PythonDatetime
  deriving DecidableEq

structure ResolvedSourceEvidence (F : Type) where
  (role signalId bindingId : String)
  bindingRevision : ℤ
  bindingValidFrom : PythonDatetime
  bindingValidTo : Option PythonDatetime
  eventId : String
  capturedAt : PythonDatetime
  value : Option (PythonNumber F)
  (unit quality instrumentId : String)
  instrumentVersion : ℤ
  (pressureReference acquisitionProfileId : Option String)
  acquisitionProfileVersion : Option String
  instrumentAcceptanceAtSample : Option AcceptanceEvidence
  instrumentAcceptanceAtObservation : Option AcceptanceEvidence
  acquisitionAcceptanceAtSample : Option AcceptanceEvidence
  acquisitionAcceptanceAtObservation : Option AcceptanceEvidence
  (calibrationAtSample calibrationAtObservation : Option CalibrationEvidence)
  deriving DecidableEq

structure CalculationContext where
  (circuitId lifecycleRecordId : String)
  lifecycleRevision : ℤ
  lifecycleState : String
  lifecycleValidFrom : PythonDatetime
  lifecycleValidTo : Option PythonDatetime
  configurationRecordId : String
  configurationRevision : ℤ
  configurationValidFrom : PythonDatetime
  configurationValidTo : Option PythonDatetime
  (refrigerantCode calculationPolicyVersion propertyProviderProfile : String)

def CalculationContext.calculationEnabled (context : CalculationContext) : Bool :=
  context.lifecycleState = "active"

/-- A policy which passed `__post_init__`; ages and skews in microseconds. -/
structure CalculationPolicy where
  version : String
  (maximumAge maximumFutureClockSkew maximumCrossInputSkew : ℤ)
  acceptedCalibrationStates : Finset String
  requireCalibrationAtObservation : Bool
  calibrationRequiredRoles : Finset String
  version_filled : isBlank version = false
  maximumAge_nonneg : 0 ≤ maximumAge
  maximumFutureClockSkew_nonneg : 0 ≤ maximumFutureClockSkew
  maximumCrossInputSkew_nonneg : 0 ≤ maximumCrossInputSkew
  accepted_nonempty : acceptedCalibrationStates ≠ ∅
  accepted_acceptable : acceptedCalibrationStates ⊆ acceptableCalibrationStates
  required_known : calibrationRequiredRoles ⊆ knownSourceRoles

structure PressureConversionProvenance (F : Type) where
  sourceRole : String
  sourceValue : F
  (sourceUnit pressureReference : String)
  sourcePressurePa : F
  atmosphericEventId : Option String
  atmosphericPressurePa : Option F
  absolutePressurePa : F

inductive SaturationPhase where
  | dewEvaporation
  | bubbleCondensation

def SaturationPhase.value : SaturationPhase → String
  | .dewEvaporation => "dew_evaporation"
  | .bubbleCondensation => "bubble_condensation"

structure SaturationTemperatureResult (F : Type) where
  refrigerantCode : String
  absolutePressurePa : F
  phase : SaturationPhase
  temperatureK : F
  (providerId providerVersion providerRevision providerProfile : String)

structure ProviderProvenance (F : Type) where
  (providerId providerVersion providerRevision providerProfile : String)
  (refrigerantCode phase : String)
  absolutePressurePa : F

inductive PropertyProviderFailureReason where
  | invalidPressure
  | unsupportedRefrigerant
  | unsupportedPhase
  | unsupportedProviderProfile
  | providerVersionMismatch
  | providerDomainError
  | providerError
  | nonFiniteResult

/-- A provider returns a result or raises a `PropertyProviderError`. -/
structure RefrigerantPropertyProvider (F : Type) where
  providerProfile : String
  saturationTemperature : String → F → SaturationPhase →
    Except PropertyProviderFailureReason (SaturationTemperatureResult F)

/-- The arguments of `calculate` besides the sources. -/
structure CalculationRequest where
  metric : MetricId
  context : CalculationContext
  policy : CalculationPolicy
  (observationAt computedAt : PythonDatetime)

structure DerivedResult (F : Type) where
  metric : MetricId
  value : Option F
  unit : String
  availability : Availability
  reasonCodes : List ReasonCode
  observationAt : PythonDatetime
  effectiveAt : Option PythonDatetime
  computedAt : PythonDatetime
  (formulaId formulaVersion : String)
  context : CalculationContext
  policy : CalculationPolicy
  sources : List (ResolvedSourceEvidence F)
  pressureConversion : Option (PressureConversionProvenance F)
  provider : Option (ProviderProvenance F)

def formulaVersion : String := "refrigeration-derived/v1"

def formula : MetricId → String × String
  | .evaporationSaturation => ("evaporation_saturation", "degC")
  | .condensationSaturation => ("condensation_saturation", "degC")
  | .superheat => ("superheat", "K")
  | .subcooling => ("subcooling", "K")

/-! ## Gates -/

abbrev Gate := Except PythonException (Option ReasonCode)

def rejectWhen (condition : Prop) [Decidable condition] (reason : ReasonCode) :
    Gate :=
  .ok (if condition then some reason else none)

def rejectUnless (checked : Except PythonException Bool) (reason : ReasonCode) :
    Gate := do
  if ← checked then .ok none else .ok (some reason)

def firstReason : List Gate → Gate
  | [] => .ok none
  | gate :: rest => do
    match ← gate with
    | some reason => .ok (some reason)
    | none => firstReason rest

def validateEvaluationTime (observationAt computedAt : PythonDatetime) :
    Option ReasonCode :=
  if !observationAt.isAware || !computedAt.isAware then some .invalidTimestamp
  else none

def validateContext (request : CalculationRequest) : Gate :=
  let context := request.context
  firstReason [ rejectWhen (isBlank context.circuitId || isBlank context.lifecycleRecordId ||
      decide (context.lifecycleRevision < 1) || isBlank context.configurationRecordId ||
      decide (context.configurationRevision < 1) || isBlank context.refrigerantCode ||
      isBlank context.calculationPolicyVersion ||
      isBlank context.propertyProviderProfile) .invalidContextProvenance,
    rejectWhen (context.calculationPolicyVersion ≠ request.policy.version)
      .calculationPolicyMismatch,
    rejectWhen (!context.calculationEnabled) .circuitNotActive,
    rejectUnless (PythonDatetime.contains context.lifecycleValidFrom
      context.lifecycleValidTo request.observationAt) .lifecycleIntervalMismatch,
    rejectUnless (PythonDatetime.contains context.configurationValidFrom
      context.configurationValidTo request.observationAt)
      .configurationIntervalMismatch]

def validateAcceptance (evidence : Option AcceptanceEvidence)
    (moment : PythonDatetime) (unavailableReason rejectedReason : ReasonCode) :
    Gate :=
  match evidence with
  | none => .ok (some unavailableReason)
  | some evidence =>
    firstReason [ rejectWhen (isBlank evidence.recordId || decide (evidence.revision < 1) ||
        decide (evidence.schemaVersion ≠ acceptanceSchemaVersion)) unavailableReason,
      rejectUnless (PythonDatetime.contains evidence.validFrom
        evidence.validTo moment) unavailableReason,
      rejectWhen (!evidence.acceptedForCalculation) rejectedReason]

def validateCalibration (evidence : Option CalibrationEvidence)
    (moment : PythonDatetime) (policy : CalculationPolicy) : Gate :=
  match evidence with
  | none => .ok (some .calibrationUnavailable)
  | some evidence =>
    firstReason [ rejectWhen (isBlank evidence.recordId || decide (evidence.revision < 1) ||
        decide (evidence.schemaVersion ≠ calibrationSchemaVersion))
        .calibrationUnavailable,
      rejectUnless (PythonDatetime.contains evidence.validFrom
        evidence.validTo moment) .calibrationUnavailable,
      rejectWhen (evidence.state ∉ policy.acceptedCalibrationStates) .calibrationStateRejected]

section

variable {F : Type} [PythonArithmetic F]

def pressureFactor : String → Option F
  | "Pa" => some (PythonFloat.ofLiteral (codePoints "1.0"))
  | "kPa" => some (PythonFloat.ofLiteral (codePoints "1000.0"))
  | "bar" => some (PythonFloat.ofLiteral (codePoints "100000.0"))
  | _ => none

def isPressureUnit (unit : String) : Bool :=
  unit ∈ ["Pa", "kPa", "bar"]

def isMissing (text : Option String) : Bool := text.all isBlank

def hasFiniteValue (value : Option (PythonNumber F)) : Bool :=
  match floatOf value with
  | .ok numeric => PythonFloat.isFinite numeric
  | .error _ => false

/-- The checks of the unit and of the pressure reference, by role. -/
def unitGates (source : ResolvedSourceEvidence F) : List Gate :=
  if source.role = "suction_pressure" ∨ source.role = "condensing_pressure" ∨
      source.role = "atmospheric_pressure" then
    [rejectWhen (!isPressureUnit source.unit) .invalidSourceUnit,
      if source.role = "atmospheric_pressure" then
        rejectWhen (source.pressureReference ≠ some "absolute")
          .unknownPressureReference else
        rejectWhen (source.pressureReference ∉ [some "absolute", some "gauge"])
          .unknownPressureReference]
  else if source.role = "suction_line_temperature" ∨ source.role = "liquid_line_temperature" then
    [rejectWhen (source.unit ≠ "degC") .invalidSourceUnit]
  else []

def ageGate (capturedAt observationAt : PythonDatetime) (policy : CalculationPolicy) : Gate := do
  if ← PythonDatetime.le capturedAt observationAt then
    let age ← PythonDatetime.sub observationAt capturedAt
    rejectWhen (policy.maximumAge < age) .sampleTooOld
  else
    let futureOffset ← PythonDatetime.sub capturedAt observationAt
    if policy.maximumFutureClockSkew = 0 then
      .ok (some .futureSampleNotAllowed)
    else
      rejectWhen (policy.maximumFutureClockSkew < futureOffset) .futureSampleSkewExceeded

def calibrationGates (source : ResolvedSourceEvidence F)
    (policy : CalculationPolicy) (observationAt : PythonDatetime) : List Gate :=
  if source.role ∈ policy.calibrationRequiredRoles then
    [validateCalibration source.calibrationAtSample source.capturedAt policy,
      if policy.requireCalibrationAtObservation then
        validateCalibration source.calibrationAtObservation observationAt policy
      else .ok none]
  else []

def validateSource (source : ResolvedSourceEvidence F) (request : CalculationRequest) : Gate :=
  let context := request.context
  let policy := request.policy
  let observationAt := request.observationAt
  firstReason ([rejectWhen (decide (source.role ∉ knownSourceRoles) ||
      isBlank source.signalId || isBlank source.bindingId ||
      decide (source.bindingRevision < 1) || isBlank source.eventId ||
      isBlank source.instrumentId || decide (source.instrumentVersion < 1))
      .invalidSourceProvenance,
    rejectWhen (!source.capturedAt.isAware) .invalidTimestamp,
    rejectUnless (PythonDatetime.contains source.bindingValidFrom
      source.bindingValidTo observationAt) .bindingIntervalMismatch,
    rejectUnless (PythonDatetime.contains source.bindingValidFrom
      source.bindingValidTo source.capturedAt) .bindingIntervalMismatch,
    rejectUnless (PythonDatetime.contains context.configurationValidFrom
      context.configurationValidTo source.capturedAt) .configurationIntervalMismatch] ++
    unitGates source ++ [rejectWhen (isMissing source.acquisitionProfileId)
      .acquisitionProfileUnresolved,
    rejectWhen (isMissing source.acquisitionProfileVersion) .acquisitionProfileUnresolved,
    rejectWhen (!hasFiniteValue source.value) .invalidSourceValue,
    rejectWhen (source.quality ≠ "valid") .telemetryQualityRejected,
    ageGate source.capturedAt observationAt policy,
    validateAcceptance source.instrumentAcceptanceAtSample source.capturedAt
      .instrumentAcceptanceUnavailable .instrumentNotAccepted,
    validateAcceptance source.instrumentAcceptanceAtObservation observationAt
      .instrumentAcceptanceUnavailable .instrumentNotAccepted,
    validateAcceptance source.acquisitionAcceptanceAtSample source.capturedAt
      .acquisitionAcceptanceUnavailable .acquisitionNotAccepted,
    validateAcceptance source.acquisitionAcceptanceAtObservation observationAt
      .acquisitionAcceptanceUnavailable .acquisitionNotAccepted] ++
    calibrationGates source policy observationAt)

/-- `_validate_sources`: the instant the inputs are effective at, or why they
are rejected. -/
def validateSources (sources : List (ResolvedSourceEvidence F)) (request : CalculationRequest) :
    Except PythonException (Except ReasonCode PythonDatetime) := do
  match ← firstReason (sources.map fun source => validateSource source request)
  with
  | some reason => .ok (.error reason)
  | none =>
    let captured := sources.map ResolvedSourceEvidence.capturedAt
    let latest ← PythonDatetime.maximum captured
    let earliest ← PythonDatetime.minimum captured
    let skew ← PythonDatetime.sub latest earliest
    if request.policy.maximumCrossInputSkew < skew then
      .ok (.error .crossInputSkewExceeded)
    else
      let effectiveAt ←
        PythonDatetime.earlier request.observationAt earliest
      .ok (.ok effectiveAt)

def baseRequiredRoles : MetricId → List String
  | .evaporationSaturation => ["suction_pressure"]
  | .condensationSaturation => ["condensing_pressure"]
  | .superheat => ["suction_pressure", "suction_line_temperature"]
  | .subcooling => ["condensing_pressure", "liquid_line_temperature"]

def pressureRole : MetricId → String
  | .evaporationSaturation => "suction_pressure"
  | .superheat => "suction_pressure"
  | _ => "condensing_pressure"

def selectOne (sources : List (ResolvedSourceEvidence F)) (role : String) :
    Except ReasonCode (ResolvedSourceEvidence F) :=
  match sources.filter fun source => source.role = role with
  | [] => .error .missingRequiredSource
  | [source] => .ok source
  | _ => .error .ambiguousRequiredSource

/-- `_select_roles`: the sources selected before the first role without one,
and why that role has none. -/
def selectRoles (sources : List (ResolvedSourceEvidence F)) :
    List String → List (ResolvedSourceEvidence F) × Option ReasonCode
  | [] => ([], none)
  | role :: roles =>
    match selectOne sources role with
    | .error reason => ([], some reason)
    | .ok source =>
      let (selected, reason) := selectRoles sources roles
      (source :: selected, reason)

def firstWithRole (sources : List (ResolvedSourceEvidence F)) (role : String) :
    Except PythonException (ResolvedSourceEvidence F) :=
  match sources.find? fun source => source.role = role with
  | some source => .ok source
  | none => .error .stopIteration

def pressureToPa (value : Option (PythonNumber F)) (unit : String) : Option F :=
  match pressureFactor unit, floatOf value with
  | some factor, .ok numeric =>
    let pressure := PythonArithmetic.mul numeric factor
    if PythonFloat.isFinite pressure then some pressure else none
  | _, _ => none

def pressureFault (unit : String) : ReasonCode :=
  if !isPressureUnit unit then .invalidSourceUnit else .invalidAbsolutePressure

def atmosphericPressure (sources : List (ResolvedSourceEvidence F)) :
    Except ReasonCode (ResolvedSourceEvidence F × F) :=
  match selectOne sources "atmospheric_pressure" with
  | .error _ => .error .missingAtmosphericPressure
  | .ok atmosphere =>
    if atmosphere.pressureReference ≠ some "absolute" then
      .error .unknownPressureReference
    else
      match pressureToPa atmosphere.value atmosphere.unit with
      | none => .error (pressureFault atmosphere.unit)
      | some atmospheric =>
        if PythonFloat.le atmospheric PythonFloat.zero then
          .error .invalidAbsolutePressure
        else .ok (atmosphere, atmospheric)

def checkedConversion (pressure : ResolvedSourceEvidence F) (reference : String)
    (sourcePa absolute : F) (atmosphere : Option (ResolvedSourceEvidence F × F)) :
    Except PythonException (Except ReasonCode (PressureConversionProvenance F)) :=
  if !PythonFloat.isFinite absolute ||
      PythonFloat.le absolute PythonFloat.zero then
    .ok (.error .invalidAbsolutePressure)
  else do
    let sourceValue ← floatOf pressure.value
    .ok (.ok
      { sourceRole := pressure.role
        sourceValue := sourceValue
        sourceUnit := pressure.unit
        pressureReference := reference
        sourcePressurePa := sourcePa
        atmosphericEventId := atmosphere.map fun entry => entry.1.eventId
        atmosphericPressurePa := atmosphere.map Prod.snd
        absolutePressurePa := absolute })

/-- `_absolute_pressure`; the pressure is that of the conversion. -/
def absolutePressure (pressure : ResolvedSourceEvidence F)
    (sources : List (ResolvedSourceEvidence F)) :
    Except PythonException (Except ReasonCode (PressureConversionProvenance F)) :=
  match pressureToPa pressure.value pressure.unit with
  | none => .ok (.error (pressureFault pressure.unit))
  | some sourcePa =>
    match pressure.pressureReference with
    | some "absolute" =>
      checkedConversion pressure "absolute" sourcePa sourcePa none
    | some "gauge" =>
      match atmosphericPressure sources with
      | .error reason => .ok (.error reason)
      | .ok (atmosphere, atmospheric) =>
        checkedConversion pressure "gauge" sourcePa
          (PythonArithmetic.add sourcePa atmospheric)
          (some (atmosphere, atmospheric))
    | _ => .ok (.error .unknownPressureReference)

def providerReason : PropertyProviderFailureReason → ReasonCode
  | .invalidPressure => .providerInvalidPressure
  | .unsupportedRefrigerant => .providerUnsupportedRefrigerant
  | .unsupportedPhase => .providerUnsupportedPhase
  | .unsupportedProviderProfile => .providerUnsupportedProviderProfile
  | .providerVersionMismatch => .providerVersionMismatch
  | .providerDomainError => .providerDomainError
  | .providerError => .providerError
  | .nonFiniteResult => .providerNonFiniteResult

def saturation (provider : RefrigerantPropertyProvider F)
    (context : CalculationContext) (absolutePressurePa : F) (phase : SaturationPhase) :
    Except ReasonCode (SaturationTemperatureResult F) :=
  if context.propertyProviderProfile ≠ provider.providerProfile then
    .error .providerProfileMismatch
  else
    match provider.saturationTemperature context.refrigerantCode
      absolutePressurePa phase with
    | .error failure => .error (providerReason failure)
    | .ok result => .ok result

/-- The instant a result of comparable sources is effective at, where none was
given. -/
def effectiveInstant (observationAt : PythonDatetime)
    (sources : List (ResolvedSourceEvidence F)) (complete : Bool)
    (effectiveAt : Option PythonDatetime) :
    Except PythonException (Option PythonDatetime) :=
  let captured := sources.map ResolvedSourceEvidence.capturedAt
  if effectiveAt = none ∧ complete = true ∧ sources ≠ [] ∧
      captured.all PythonDatetime.isAware then do
    let earliest ← PythonDatetime.minimum captured
    let effective ← PythonDatetime.earlier observationAt earliest
    .ok (some effective)
  else .ok effectiveAt

def unavailableResult (request : CalculationRequest)
    (sources : List (ResolvedSourceEvidence F)) (reason : ReasonCode)
    (complete : Bool) (effectiveAt : Option PythonDatetime)
    (pressureConversion : Option (PressureConversionProvenance F))
    (provider : Option (ProviderProvenance F)) :
    Except PythonException (DerivedResult F) := do
  let effectiveAt ←
    effectiveInstant request.observationAt sources complete effectiveAt
  .ok
    { metric := request.metric
      value := none
      unit := (formula request.metric).2
      availability := .unavailable
      reasonCodes := [reason]
      observationAt := request.observationAt
      effectiveAt := if complete then effectiveAt else none
      computedAt := request.computedAt
      formulaId := (formula request.metric).1
      formulaVersion
      context := request.context
      policy := request.policy
      sources
      pressureConversion
      provider }

def saturationPhase (metric : MetricId) : SaturationPhase :=
  if pressureRole metric = "suction_pressure" then .dewEvaporation
  else .bubbleCondensation

def metricValue (metric : MetricId) (sources : List (ResolvedSourceEvidence F))
    (saturationDegC : F) : Except PythonException F :=
  match metric with
  | .superheat => do
    let lineTemperature ← firstWithRole sources "suction_line_temperature"
    let line ← floatOf lineTemperature.value
    .ok (PythonFloat.sub line saturationDegC)
  | .subcooling => do
    let lineTemperature ← firstWithRole sources "liquid_line_temperature"
    let line ← floatOf lineTemperature.value
    .ok (PythonFloat.sub saturationDegC line)
  | _ => .ok saturationDegC

def calculateValue (request : CalculationRequest)
    (sources : List (ResolvedSourceEvidence F)) (effectiveAt : PythonDatetime)
    (conversion : PressureConversionProvenance F) (result : SaturationTemperatureResult F) :
    Except PythonException (DerivedResult F) := do
  let provenance : ProviderProvenance F :=
    { providerId := result.providerId
      providerVersion := result.providerVersion
      providerRevision := result.providerRevision
      providerProfile := result.providerProfile
      refrigerantCode := result.refrigerantCode
      phase := result.phase.value
      absolutePressurePa := result.absolutePressurePa }
  let saturationDegC := PythonFloat.sub result.temperatureK
    (PythonFloat.ofLiteral (codePoints "273.15"))
  let value ← metricValue request.metric sources saturationDegC
  if !PythonFloat.isFinite value then
    unavailableResult request sources .invalidSourceValue true (some effectiveAt)
      (some conversion) (some provenance)
  else
    .ok
      { metric := request.metric
        value := some value
        unit := (formula request.metric).2
        availability := .available
        reasonCodes := []
        observationAt := request.observationAt
        effectiveAt := some effectiveAt
        computedAt := request.computedAt
        formulaId := (formula request.metric).1
        formulaVersion
        context := request.context
        policy := request.policy
        sources
        pressureConversion := some conversion
        provider := some provenance }

def calculateSelected (provider : RefrigerantPropertyProvider F)
    (request : CalculationRequest) (pressureSource : ResolvedSourceEvidence F)
    (selected : List (ResolvedSourceEvidence F)) :
    Except PythonException (DerivedResult F) := do
  match ← validateSources selected request with
  | .error reason => unavailableResult request selected reason true none none none
  | .ok effectiveAt =>
    match ← absolutePressure pressureSource selected with
    | .error reason =>
      unavailableResult request selected reason true (some effectiveAt) none none
    | .ok conversion =>
      match saturation provider request.context
        conversion.absolutePressurePa (saturationPhase request.metric) with
      | .error reason =>
        unavailableResult request selected reason true (some effectiveAt) (some conversion) none
      | .ok result =>
        calculateValue request selected effectiveAt conversion result

def atmosphereReason (reason : ReasonCode) : ReasonCode :=
  if reason = .missingRequiredSource then .missingAtmosphericPressure
  else reason

def calculateFrom (provider : RefrigerantPropertyProvider F)
    (request : CalculationRequest) (sources : List (ResolvedSourceEvidence F)) :
    Except PythonException (DerivedResult F) :=
  match selectRoles sources (baseRequiredRoles request.metric) with
  | (selected, some reason) =>
    unavailableResult request selected reason false none none none
  | (selected, none) => do
    let pressureSource ← firstWithRole selected (pressureRole request.metric)
    if pressureSource.pressureReference = some "gauge" then
      match selectOne sources "atmospheric_pressure" with
      | .error reason =>
        unavailableResult request selected (atmosphereReason reason) false none none none
      | .ok atmospheric =>
        calculateSelected provider request pressureSource (selected ++ [atmospheric])
    else calculateSelected provider request pressureSource selected

def calculate (provider : RefrigerantPropertyProvider F)
    (request : CalculationRequest) (sources : List (ResolvedSourceEvidence F)) :
    Except PythonException (DerivedResult F) := do
  match validateEvaluationTime request.observationAt request.computedAt with
  | some reason => unavailableResult request sources reason false none none none
  | none =>
    match ← validateContext request with
    | some reason => unavailableResult request sources reason false none none none
    | none => calculateFrom provider request sources

end

end Nexolab
