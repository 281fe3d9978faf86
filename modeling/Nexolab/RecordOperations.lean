import Nexolab.RefrigerationRecords

/-!
# Operations on temporal records

An operation is one transaction; what is rejected leaves the tables as they are.
-/

namespace Nexolab

namespace InstrumentRegistry

variable (registry : InstrumentRegistry)

def instrumentOf (instrumentId : String) : Except String Instrument :=
  match registry.instruments.find? fun row => row.id = instrumentId with
  | some row => .ok row
  | none => .error ("instrument " ++ instrumentId ++ " was not found")

def signalOf (signalId : String) : Except String Signal :=
  match registry.signals.find? fun row => row.id = signalId with
  | some row => .ok row
  | none => .error ("signal " ++ signalId ++ " was not found")

def circuitOf (circuitId : String) : Except String Unit :=
  if circuitId ∈ registry.circuits then .ok ()
  else .error ("refrigeration circuit " ++ circuitId ++ " was not found")

def history (key : HistoryKey) : List RecordRow := HistoryRow.ofKey key registry.records

def effective (key : HistoryKey) (time : Instant) : List RecordRow :=
  (registry.history key).filter fun row => row.covers time

def resolveOne (key : HistoryKey) (time : Instant) (error : String) :
    Except String RecordRow :=
  match registry.effective key time with
  | [row] => .ok row
  | _ => .error error

def recordOf (key : HistoryKey) (recordId : String) : Option RecordRow :=
  (registry.history key).find? fun row => row.content.id = recordId

def sourceOf (signalId sourceId : String) : Option (RecordRow × AcquisitionSource) := do
  let row ← registry.recordOf (.source signalId) sourceId
  match row.content.content with
  | .source source => some (row, source)
  | _ => none

def scalingOf (signalId profileId : String) :
    Option (RecordRow × AnalogScalingProfile) := do
  let row ← registry.recordOf (.scaling signalId) profileId
  match row.content.content with
  | .scaling profile => some (row, profile)
  | _ => none

def validateRoleShape (signal : Signal) (instrument : Instrument) (role : ProcessRole) :
    Except String Unit :=
  match role with
  | .suctionPressure | .condensingPressure | .atmosphericPressure =>
    if signal.physicalQuantity ≠ "pressure" ∨ signal.engineeringUnit ∉ ["bar", "kPa"] then
      .error ("role " ++ role.text ++
        " requires pressure Signal in an accepted explicit pressure unit")
    else if instrument.pressureReference = none then
      .error "pressure semantic binding requires explicit absolute or gauge reference"
    else if role = .atmosphericPressure ∧
        (instrument.pressureReference ≠ some .absolute ∨
          instrument.instrumentKind ≠ "barometric_pressure_sensor") then
      .error ("atmospheric_pressure requires barometric_pressure_sensor with absolute " ++
        "reference")
    else .ok ()
  | .suctionLineTemperature | .liquidLineTemperature =>
    if signal.physicalQuantity ≠ "temperature" ∨ signal.engineeringUnit ≠ "degC" then
      .error ("role " ++ role.text ++ " requires temperature Signal in degC")
    else .ok ()
  | .relativeHumidity =>
    if signal.physicalQuantity ≠ "relative_humidity" ∨ signal.engineeringUnit ≠ "%RH" then
      .error "relative_humidity role requires relative_humidity Signal in %RH"
    else .ok ()

def acceptedAt (instrumentId : String) (time : Instant) : Bool :=
  match registry.effective (.acceptance instrumentId) time with
  | [row] => row.content.content = .acceptance true
  | _ => false

def validateBindingAuthority (signal : Signal) (instrument : Instrument)
    (role : ProcessRole) (time : Instant) (requireCurrentActive : Bool) :
    Except String Unit := do
  validateRoleShape signal instrument role
  if requireCurrentActive && (signal.lifecycleState ≠ .active ||
      instrument.lifecycleState ≠ .active) then
    .error "semantic binding requires active Instrument and Signal identities"
  else if registry.acceptedAt instrument.id time then .ok ()
  else
    .error ("semantic binding requires exactly one accepted Instrument authority " ++
      "as-of binding time")

/-! ## Appending -/

/-- The last row of the history is closed under its rule and the new one put behind
it; the identity of a record is a primary key. -/
def append (key : HistoryKey) (rule : CloseRule) (recordId : String)
    (content : RecordContent) (validFrom : Instant) :
    Except String InstrumentRegistry := do
  rule.check (HistoryRow.latest (registry.history key)) validFrom
  if registry.records.any fun row => row.content.id = recordId then
    .error "the record identity is not unique"
  else
    .ok { registry with
      records := HistoryRow.appendTo registry.records key validFrom ⟨recordId, content⟩ }

def createCircuit (circuitId recordId : String) (initialState : RegistryLifecycleState)
    (validFrom : Instant) : Except String InstrumentRegistry :=
  if circuitId ∈ registry.circuits then
    .error "refrigeration circuit identity conflicts with existing organization state"
  else
    append { registry with circuits := circuitId :: registry.circuits }
      (.lifecycle circuitId) (closeCircuitInterval "lifecycle") recordId
      (.lifecycle initialState) validFrom

def appendLifecycle (circuitId recordId : String) (state : RegistryLifecycleState)
    (validFrom : Instant) : Except String InstrumentRegistry := do
  registry.circuitOf circuitId
  registry.append (.lifecycle circuitId) (closeCircuitInterval "lifecycle") recordId
    (.lifecycle state) validFrom

def canonicalPropertyProviderProfile : String := "coolprop-heos/8.0.0"

def canonicalSupportedRefrigerants : List String := ["R134A", "R290", "R404A", "R407C"]

def appendConfiguration (circuitId recordId : String)
    (configuration : CircuitConfiguration) (validFrom : Instant) :
    Except String InstrumentRegistry := do
  registry.circuitOf circuitId
  if registry.policies.all fun policy =>
      policy.version ≠ configuration.calculationPolicyVersion then
    .error "calculation policy version is not defined for this organization"
  else if configuration.propertyProviderProfile.any
      (· ≠ canonicalPropertyProviderProfile) then
    .error "property provider profile is not accepted by the local runtime"
  else if configuration.propertyProviderProfile.isSome &&
      configuration.refrigerantCode ∉ canonicalSupportedRefrigerants then
    .error "refrigerant is not supported by the selected property provider profile"
  else
    registry.append (.configuration circuitId) (closeCircuitInterval "configuration")
      recordId (.configuration configuration) validFrom

def appendBinding (circuitId : String) (role : ProcessRole) (recordId signalId : String)
    (validFrom : Instant) : Except String InstrumentRegistry := do
  registry.circuitOf circuitId
  let signal ← registry.signalOf signalId
  let instrument ← registry.instrumentOf signal.instrumentId
  registry.validateBindingAuthority signal instrument role validFrom true
  registry.append (.binding circuitId role) (closeCircuitInterval "binding") recordId
    (.binding signalId) validFrom

def endBinding (circuitId : String) (role : ProcessRole) (validTo : Instant) :
    Except String InstrumentRegistry := do
  registry.circuitOf circuitId
  match (registry.history (.binding circuitId role)).find? fun row =>
      row.validTo.isNone with
  | none => .error ("no open semantic binding exists for role " ++ role.text)
  | some row =>
    if validTo ≤ row.validFrom then
      .error "binding valid_to must be strictly later than valid_from"
    else
      .ok { registry with records := HistoryRow.closeIn registry.records row validTo }

def appendAcquisitionSource (signalId recordId : String) (payload : AcquisitionSource)
    (validFrom : Instant) : Except String InstrumentRegistry := do
  let source ← payload.validated
  let signal ← registry.signalOf signalId
  if source.unit ≠ signal.engineeringUnit then
    .error "acquisition source unit must match the owning Signal"
  else
    registry.append (.source signalId) closeAcquisitionSourceInterval recordId
      (.source source) validFrom

def appendAnalogScaling (signalId recordId : String) (payload : AnalogScalingProfile)
    (effectiveFrom : Instant) : Except String InstrumentRegistry := do
  let profile ← payload.validated
  let signal ← registry.signalOf signalId
  if profile.engineeringUnit ≠ signal.engineeringUnit then
    .error "analog scaling engineering_unit must match the owning Signal"
  else
    match profile.acquisitionSourceId with
    | some sourceId =>
      match registry.sourceOf signalId sourceId with
      | none =>
        .error ("analog scaling acquisition_source_id must reference the owning " ++
          "Signal's acquisition source")
      | some (row, _) =>
        if row.covers effectiveFrom then
          registry.append (.scaling signalId) closeAnalogScalingInterval recordId
            (.scaling profile) effectiveFrom
        else
          .error ("analog scaling acquisition source must be effective when the " ++
            "profile begins")
    | none =>
      registry.append (.scaling signalId) closeAnalogScalingInterval recordId
        (.scaling profile) effectiveFrom

def appendAcceptance (instrumentId recordId : String) (acceptedForCalculation : Bool)
    (effectiveFrom : Instant) : Except String InstrumentRegistry := do
  let _ ← registry.instrumentOf instrumentId
  registry.append (.acceptance instrumentId) closeAcceptanceInterval recordId
    (.acceptance acceptedForCalculation) effectiveFrom

def appendCalibration (instrumentId scope recordId : String) (state : CalibrationState)
    (certificateReference : Option String) (validFrom : Instant) :
    Except String InstrumentRegistry := do
  let _ ← registry.instrumentOf instrumentId
  registry.append (.calibration instrumentId scope) closeCalibrationInterval recordId
    (.calibration state certificateReference) validFrom

/-- What an acceptance of an acquisition profile is about. -/
structure ProfileTarget where
  sourceId : String
  scalingId : Option String
  (profileId profileVersion : String)

def ProfileTarget.acceptance (target : ProfileTarget) (acceptedForCalculation : Bool) :
    ProfileAcceptance :=
  ⟨target.sourceId, target.scalingId, target.profileId, target.profileVersion,
    acceptedForCalculation⟩

def profileTarget (signalId sourceId : String) (scalingId : Option String) :
    Except String ProfileTarget := do
  let _ ← registry.signalOf signalId
  match registry.sourceOf signalId sourceId with
  | none => .error "acquisition source for profile acceptance was not found"
  | some (_, source) =>
    match source.acquisitionProfileId, source.acquisitionProfileVersion with
    | some profileId, some profileVersion =>
      match scalingId with
      | none => .ok ⟨sourceId, none, profileId, profileVersion⟩
      | some scalingId =>
        match registry.scalingOf signalId scalingId with
        | none =>
          .error "analog scaling profile for acquisition acceptance was not found"
        | some (_, scaling) =>
          if scaling.acquisitionSourceId ≠ some sourceId ∨
              scaling.acquisitionProfileId ≠ some profileId ∨
              scaling.acquisitionProfileVersion ≠ some profileVersion then
            .error ("analog scaling profile identity does not match acquisition " ++
              "source profile identity")
          else .ok ⟨sourceId, some scalingId, profileId, profileVersion⟩
    | _, _ => .error "acquisition source has no explicit profile id/version"

def appendProfileAcceptance (signalId sourceId : String) (scalingId : Option String)
    (recordId : String) (acceptedForCalculation : Bool) (effectiveFrom : Instant) :
    Except String InstrumentRegistry := do
  let target ← registry.profileTarget signalId sourceId scalingId
  registry.append (.profileAcceptance signalId sourceId scalingId)
    closeProfileAcceptanceInterval recordId
    (.profileAcceptance (target.acceptance acceptedForCalculation)) effectiveFrom

def audit (instrument : Instrument) (auditedAt : Option Instant) :
    List InstrumentAudit :=
  match auditedAt with
  | some occurredAt => ⟨occurredAt, instrument⟩ :: registry.audits
  | none => registry.audits

def createInstrument (instrumentId inventoryKey instrumentKind : String)
    (pressureReference : Option PressureReference)
    (lifecycleState : RegistryLifecycleState) (now : Instant)
    (auditedAt : Option Instant) : Except String InstrumentRegistry :=
  if registry.instruments.any fun row =>
      row.id = instrumentId || row.inventoryKey = inventoryKey then
    .error "instrument inventory key already exists in this organization"
  else
    let instrument : Instrument :=
      { id := instrumentId, inventoryKey, instrumentKind, pressureReference,
        lifecycleState, version := 1, createdAt := now, updatedAt := now }
    .ok { registry with
      instruments := registry.instruments ++ [instrument]
      audits := registry.audit instrument auditedAt }

def requireStableIdentity (instrument : Instrument) (inventoryKey instrumentKind : String)
    (pressureReference : Option PressureReference) : Except String Unit :=
  if instrument.inventoryKey ≠ inventoryKey ∨ instrument.instrumentKind ≠ instrumentKind then
    .error "instrument inventory_key and instrument_kind are stable identity fields"
  else if pressureReference = instrument.pressureReference then .ok ()
  else if registry.signals.any fun signal =>
      signal.instrumentId = instrument.id && signal.physicalQuantity = "pressure" then
    .error ("pressure_reference cannot change while the instrument owns a pressure " ++
      "signal")
  else if instrument.pressureReference.isSome then
    .error "instrument pressure_reference cannot change after it is established"
  else .ok ()

def updateInstrument (instrumentId : String) (expectedVersion : ℕ)
    (inventoryKey instrumentKind : String) (pressureReference : Option PressureReference)
    (lifecycleState : RegistryLifecycleState) (now : Instant)
    (auditedAt : Option Instant) : Except String InstrumentRegistry := do
  let instrument ← registry.instrumentOf instrumentId
  if instrument.version ≠ expectedVersion then
    .error "instrument version conflict"
  else do
    registry.requireStableIdentity instrument inventoryKey instrumentKind pressureReference
    let updated : Instrument := { instrument with
      pressureReference, lifecycleState, version := instrument.version + 1
      updatedAt := now }
    .ok { registry with
      instruments := registry.instruments.map fun row =>
        if row.id = instrumentId then updated else row
      audits := registry.audit updated auditedAt }

def createSignal (signal : Signal) : Except String InstrumentRegistry := do
  let instrument ← registry.instrumentOf signal.instrumentId
  if signal.physicalQuantity = "pressure" && instrument.pressureReference.isNone then
    .error "pressure signals require an Instrument pressure_reference of absolute or gauge"
  else if registry.signals.any fun row => row.id = signal.id then
    .error "signal business key already exists in this organization"
  else .ok { registry with signals := registry.signals ++ [signal] }

def updateSignal (signalId : String) (lifecycleState : RegistryLifecycleState) :
    Except String InstrumentRegistry := do
  let _ ← registry.signalOf signalId
  .ok { registry with
    signals := registry.signals.map fun row =>
      if row.id = signalId then { row with lifecycleState } else row }

def createPolicy (policy : CalculationPolicyRecord) : Except String InstrumentRegistry :=
  if policy.version = "" then .error "version is required"
  else if policy.acceptedCalibrationStates = [] ∨
      ¬ policy.acceptedCalibrationStates ⊆ [.valid, .due] then
    .error "accepted_calibration_states must be a non-empty subset of valid/due"
  else if ¬ policy.acceptedCalibrationStates.Nodup then
    .error "accepted_calibration_states must not contain duplicates"
  else if .relativeHumidity ∈ policy.calibrationRequiredRoles then
    .error "calibration_required_roles contains an unsupported source role"
  else if ¬ policy.calibrationRequiredRoles.Nodup then
    .error "calibration_required_roles must not contain duplicates"
  else if registry.policies.any fun row => row.version = policy.version then
    .error "calculation policy version already exists or violates organization constraints"
  else .ok { registry with policies := registry.policies ++ [policy] }

def resolveLifecycle (circuitId : String) (time : Instant) : Except String RecordRow := do
  registry.circuitOf circuitId
  registry.resolveOne (.lifecycle circuitId) time
    "circuit lifecycle must resolve exactly one effective state"

def resolveConfiguration (circuitId : String) (time : Instant) :
    Except String RecordRow := do
  registry.circuitOf circuitId
  registry.resolveOne (.configuration circuitId) time
    "circuit configuration must resolve exactly one effective version"

def bindingView (row : RecordRow) : Except String (Signal × Instrument) :=
  match row.content.content with
  | .binding signalId => do
    let signal ← registry.signalOf signalId
    let instrument ← registry.instrumentOf signal.instrumentId
    .ok (signal, instrument)
  | _ => .error "the row is no binding"

def resolveBindingIdentity (circuitId : String) (role : ProcessRole) (time : Instant) :
    Except String (RecordRow × Signal × Instrument) := do
  registry.circuitOf circuitId
  let row ← registry.resolveOne (.binding circuitId role) time
    ("role " ++ role.text ++ " must resolve exactly one effective Signal binding")
  let (signal, instrument) ← registry.bindingView row
  validateRoleShape signal instrument role
  .ok (row, signal, instrument)

def resolveBinding (circuitId : String) (role : ProcessRole) (time : Instant) :
    Except String (RecordRow × Signal × Instrument) := do
  let (row, signal, instrument) ← registry.resolveBindingIdentity circuitId role time
  registry.validateBindingAuthority signal instrument role time false
  .ok (row, signal, instrument)

def resolveAcquisitionSource (signalId : String) (time : Instant) :
    Except String (RecordRow × AcquisitionSource) := do
  let signal ← registry.signalOf signalId
  let row ← registry.resolveOne (.source signalId) time
    "acquisition source history must resolve exactly one effective binding"
  match row.content.content with
  | .source source =>
    if source.unit ≠ signal.engineeringUnit ∨ source.nodeId = "" ∨
        source.equipmentId = "" ∨ source.channelId = "" ∨ source.metric = "" then
      .error ("acquisition source binding contains unsupported or inconsistent " ++
        "semantics")
    else .ok (row, source)
  | _ => .error "the row is no acquisition source"

def validateAnalogScaling (profile : AnalogScalingProfile) (signal : Signal) :
    Except String Unit :=
  if profile.engineeringUnit ≠ signal.engineeringUnit then
    .error "analog scaling profile engineering unit does not match the owning Signal"
  else if profile.rawMax ≤ profile.rawMin then
    .error "analog scaling profile raw domain is invalid"
  else if profile.evidenceStatus = .hardwareVerified &&
      profile.provenance.any (fun value => value.all (· = "")) then
    .error "hardware-verified analog scaling profile lacks complete acquisition provenance"
  else .ok ()

def resolveAnalogScaling (signalId : String) (time : Instant) :
    Except String (RecordRow × AnalogScalingProfile) := do
  let signal ← registry.signalOf signalId
  let row ← registry.resolveOne (.scaling signalId) time
    "analog scaling history must resolve exactly one effective profile"
  match row.content.content with
  | .scaling profile => do
    validateAnalogScaling profile signal
    .ok (row, profile)
  | _ => .error "the row is no analog scaling profile"

def resolveAcceptance (instrumentId : String) (time : Instant) :
    Except String RecordRow := do
  let _ ← registry.instrumentOf instrumentId
  registry.resolveOne (.acceptance instrumentId) time
    "acceptance history must resolve exactly one supported state"

def resolveCalibration (instrumentId scope : String) (time : Instant) :
    Except String RecordRow := do
  let _ ← registry.instrumentOf instrumentId
  registry.resolveOne (.calibration instrumentId scope) time
    "calibration history must resolve exactly one supported state"

def resolveProfileAcceptance (signalId sourceId : String) (scalingId : Option String)
    (time : Instant) : Except String (RecordRow × ProfileAcceptance) := do
  let target ← registry.profileTarget signalId sourceId scalingId
  let row ← registry.resolveOne (.profileAcceptance signalId sourceId scalingId) time
    "acquisition profile acceptance must resolve exactly one state"
  match row.content.content with
  | .profileAcceptance acceptance =>
    if acceptance = target.acceptance acceptance.acceptedForCalculation then
      .ok (row, acceptance)
    else .error "acquisition profile acceptance contains unsupported authority"
  | _ => .error "the row is no profile acceptance"

end InstrumentRegistry

inductive RecordAction where
  | createCircuit (circuitId recordId : String) (initialState : RegistryLifecycleState)
      (validFrom : Instant)
  | appendLifecycle (circuitId recordId : String) (state : RegistryLifecycleState)
      (validFrom : Instant)
  | appendConfiguration (circuitId recordId : String)
      (configuration : CircuitConfiguration) (validFrom : Instant)
  | appendBinding (circuitId : String) (role : ProcessRole) (recordId signalId : String)
      (validFrom : Instant)
  | endBinding (circuitId : String) (role : ProcessRole) (validTo : Instant)
  | appendAcquisitionSource (signalId recordId : String) (payload : AcquisitionSource)
      (validFrom : Instant)
  | appendAnalogScaling (signalId recordId : String) (payload : AnalogScalingProfile)
      (effectiveFrom : Instant)
  | appendAcceptance (instrumentId recordId : String) (acceptedForCalculation : Bool)
      (effectiveFrom : Instant)
  | appendCalibration (instrumentId scope recordId : String) (state : CalibrationState)
      (certificateReference : Option String) (validFrom : Instant)
  | appendProfileAcceptance (signalId sourceId : String) (scalingId : Option String)
      (recordId : String) (acceptedForCalculation : Bool) (effectiveFrom : Instant)
  | createInstrument (instrumentId inventoryKey instrumentKind : String)
      (pressureReference : Option PressureReference)
      (lifecycleState : RegistryLifecycleState) (now : Instant)
      (auditedAt : Option Instant)
  | updateInstrument (instrumentId : String) (expectedVersion : ℕ)
      (inventoryKey instrumentKind : String)
      (pressureReference : Option PressureReference)
      (lifecycleState : RegistryLifecycleState) (now : Instant)
      (auditedAt : Option Instant)
  | createSignal (signal : Signal)
  | updateSignal (signalId : String) (lifecycleState : RegistryLifecycleState)
  | createPolicy (policy : CalculationPolicyRecord)

namespace InstrumentRegistry

variable (registry : InstrumentRegistry)

def execute : RecordAction → Except String InstrumentRegistry
  | .createCircuit circuitId recordId initialState validFrom =>
    registry.createCircuit circuitId recordId initialState validFrom
  | .appendLifecycle circuitId recordId state validFrom =>
    registry.appendLifecycle circuitId recordId state validFrom
  | .appendConfiguration circuitId recordId configuration validFrom =>
    registry.appendConfiguration circuitId recordId configuration validFrom
  | .appendBinding circuitId role recordId signalId validFrom =>
    registry.appendBinding circuitId role recordId signalId validFrom
  | .endBinding circuitId role validTo => registry.endBinding circuitId role validTo
  | .appendAcquisitionSource signalId recordId payload validFrom =>
    registry.appendAcquisitionSource signalId recordId payload validFrom
  | .appendAnalogScaling signalId recordId payload effectiveFrom =>
    registry.appendAnalogScaling signalId recordId payload effectiveFrom
  | .appendAcceptance instrumentId recordId acceptedForCalculation effectiveFrom =>
    registry.appendAcceptance instrumentId recordId acceptedForCalculation effectiveFrom
  | .appendCalibration instrumentId scope recordId state certificateReference validFrom =>
      registry.appendCalibration instrumentId scope recordId state certificateReference validFrom
  | .appendProfileAcceptance signalId sourceId scalingId recordId
      acceptedForCalculation effectiveFrom =>
      registry.appendProfileAcceptance signalId sourceId scalingId recordId
        acceptedForCalculation effectiveFrom
  | .createInstrument instrumentId inventoryKey instrumentKind pressureReference
      lifecycleState now auditedAt =>
      registry.createInstrument instrumentId inventoryKey instrumentKind
        pressureReference lifecycleState now auditedAt
  | .updateInstrument instrumentId expectedVersion inventoryKey instrumentKind
      pressureReference lifecycleState now auditedAt =>
      registry.updateInstrument instrumentId expectedVersion inventoryKey instrumentKind
        pressureReference lifecycleState now auditedAt
  | .createSignal signal => registry.createSignal signal
  | .updateSignal signalId lifecycleState =>
    registry.updateSignal signalId lifecycleState
  | .createPolicy policy => registry.createPolicy policy

def step (action : RecordAction) : Option InstrumentRegistry :=
  match registry.execute action with
  | .ok next => some next
  | .error _ => some registry

def empty : InstrumentRegistry := ⟨[], [], [], [], [], []⟩

end InstrumentRegistry

end Nexolab
