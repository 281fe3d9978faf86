import Mathlib.Data.List.ReduceOption
import Mathlib.Data.Multiset.Basic
import Mathlib.Data.Prod.Lex
import Mathlib.Data.String.Basic
import Nexolab.Ipv4Networks
import Nexolab.KeyedRows

/-!
# Equipment discovery

The discovery tables of one organization: scans, candidates, the observations
scans made of them and the network assets adopted from them.  Each operation of
`EquipmentDiscoveryRepository` is one transaction; it raises before it writes
or is rolled back.
-/

namespace Nexolab

inductive ScanStatus where
  | running
  | completed
  | cancelled
  | failed
  deriving DecidableEq

inductive CandidateLifecycle where
  | new
  | reviewed
  | matchedExisting
  | adopted
  | ignored
  | disappeared
  deriving DecidableEq

inductive IpAddress where
  | v4 (value : ℕ)
  | v6 (value : ℕ)
  deriving DecidableEq

/-- The figures a scan result reports and its scan row keeps. -/
structure ScanMetrics where
  (hostsConsidered probesAttempted responsiveHosts durationMs processCpuMs : ℕ)
  (networkConnectAttempts networkPayloadBytes : ℕ)

def ScanMetrics.zero : ScanMetrics := ⟨0, 0, 0, 0, 0, 0, 0⟩

structure DiscoveryScan where
  id : String
  status : ScanStatus
  requestedCidrs : List Ipv4Network
  requestedPorts : List ℤ
  metrics : ScanMetrics
  (newCandidates changedCandidates disappearedCandidates : ℕ)
  cancelRequested : Bool
  completedAt : Option ℤ
  (errorCode errorMessage : Option String)

structure DiscoveryCandidate where
  id : String
  /-- `ip:` and the address the candidate was first seen at. -/
  (candidateKey ipAddress : IpAddress)
  (macAddress hostname sourceInterface : Option String)
  sourceSubnet : String
  lifecycle : CandidateLifecycle
  present : Bool
  (firstSeenAt lastSeenAt : ℤ)
  lastScanId : String
  linkedEquipmentKey : Option String
  version : ℕ

/-- `_scan_scope_key`: the text lists the networks and the ports in order. -/
structure ScanScopeKey where
  cidrs : Multiset Ipv4Network
  ports : Multiset ℤ
  deriving DecidableEq

def scanScopeKey (scan : DiscoveryScan) : ScanScopeKey :=
  ⟨scan.requestedCidrs, scan.requestedPorts⟩

structure DiscoveryObservation where
  (id scanId candidateId : String)
  observedAt : ℤ
  ipAddress : IpAddress
  (macAddress hostname sourceInterface : Option String)
  sourceSubnet : String
  /-- The `port` of each service, where it is an integer. -/
  services : List (Option ℤ)
  neighborTable : Bool
  scanScopeKey : ScanScopeKey
  changedSincePreviousScan : Bool
  fingerprintSha256 : String

structure NetworkAsset where
  (id assetKey : String)
  ipAddress : IpAddress
  macAddress : Option String
  sourceCandidateId : String
  active : Bool
  version : ℕ

structure DiscoveryTables where
  scans : List DiscoveryScan
  candidates : List DiscoveryCandidate
  observations : List DiscoveryObservation
  assets : List NetworkAsset

structure DiscoveryObservationInput where
  ipAddress : IpAddress
  (macAddress hostname sourceInterface : Option String)
  sourceSubnet : String
  services : List (Option ℤ)
  neighborTable : Bool
  observedAt : ℤ
  fingerprintSha256 : String

/-- The identity of an endpoint is its address; the MAC address is evidence. -/
def DiscoveryObservationInput.candidateKey (observation : DiscoveryObservationInput) : IpAddress :=
  observation.ipAddress

structure DiscoveryScanResult where
  observations : List DiscoveryObservationInput
  (hostsConsidered probesAttempted durationMs processCpuMs : ℕ)
  (networkConnectAttempts networkPayloadBytes : ℕ)

def DiscoveryScanResult.metrics (result : DiscoveryScanResult) : ScanMetrics :=
  { hostsConsidered := result.hostsConsidered
    probesAttempted := result.probesAttempted
    responsiveHosts := result.observations.length
    durationMs := result.durationMs
    processCpuMs := result.processCpuMs
    networkConnectAttempts := result.networkConnectAttempts
    networkPayloadBytes := result.networkPayloadBytes }

inductive DiscoveryError where
  | scanAlreadyRunning
  | scanNotFound (id : String)
  | candidateNotFound (id : String)
  | candidateVersionConflict (expected actual : ℕ)
  | candidateActionConflict (message : String)
  | equipmentLinkNotFound (key : String)
  /-- `assert linked_equipment_key is not None`. -/
  | assertionFailed
  /-- A primary key is taken. -/
  | notPersisted

def DiscoveryObservation.ComesFirst (row other : DiscoveryObservation) : Prop :=
  other.observedAt < row.observedAt ∨ other.observedAt = row.observedAt ∧ other.id < row.id

instance DiscoveryObservation.decidableComesFirst :
    DecidableRel DiscoveryObservation.ComesFirst :=
  fun _ _ => inferInstanceAs (Decidable (_ ∨ _))

def latestObservation :
    List DiscoveryObservation → Option DiscoveryObservation
  | [] => none
  | row :: rest =>
    match latestObservation rest with
    | none => some row
    | some other => if other.ComesFirst row then some other else some row

def observationsOf (candidateId : String) (rows : List DiscoveryObservation) :
    List DiscoveryObservation :=
  rows.filter fun row => row.candidateId = candidateId

/-- `_latest_comparable_observations_by_candidate`, for one candidate. -/
def latestComparable (rows : List DiscoveryObservation) (candidateId : String)
    (scopeKey : ScanScopeKey) : Option DiscoveryObservation :=
  latestObservation
    ((observationsOf candidateId rows).filter fun row => row.scanScopeKey = scopeKey)

def DiscoveryObservation.openPorts (row : DiscoveryObservation) : List ℤ :=
  row.services.reduceOption

/-! ## Applying a scan result -/

/-- The identifiers `uuid4` gives to the rows of a scan. -/
structure DiscoveryIds where
  (candidateId observationId : IpAddress → String)

def newCandidate (id scanId : String) (observation : DiscoveryObservationInput) :
    DiscoveryCandidate :=
  { id := id
    candidateKey := observation.candidateKey
    ipAddress := observation.ipAddress
    macAddress := observation.macAddress
    hostname := observation.hostname
    sourceInterface := observation.sourceInterface
    sourceSubnet := observation.sourceSubnet
    lifecycle := .new
    present := true
    firstSeenAt := observation.observedAt
    lastSeenAt := observation.observedAt
    lastScanId := scanId
    linkedEquipmentKey := none
    version := 1 }

def isLinked (candidate : DiscoveryCandidate) : Bool :=
  candidate.linkedEquipmentKey.any fun key => key ≠ ""

def DiscoveryCandidate.seen (candidate : DiscoveryCandidate) (scanId : String)
    (observation : DiscoveryObservationInput) : DiscoveryCandidate :=
  { candidate with
    ipAddress := observation.ipAddress
    macAddress := observation.macAddress
    hostname := observation.hostname
    sourceInterface := observation.sourceInterface
    sourceSubnet := observation.sourceSubnet
    present := true
    lastSeenAt := observation.observedAt
    lastScanId := scanId
    lifecycle :=
      if candidate.lifecycle = .disappeared then
        if isLinked candidate then .matchedExisting else .new
      else candidate.lifecycle
    version := candidate.version + 1 }

def DiscoveryCandidate.absent (candidate : DiscoveryCandidate) :
    DiscoveryCandidate :=
  { candidate with
    present := false
    lifecycle :=
      if candidate.lifecycle = .ignored ∨ candidate.lifecycle = .adopted then
        candidate.lifecycle
      else .disappeared
    version := candidate.version + 1 }

def observationRow (id : String) (scan : DiscoveryScan) (candidateId : String)
    (changed : Bool) (observation : DiscoveryObservationInput) :
    DiscoveryObservation :=
  { id := id
    scanId := scan.id
    candidateId
    observedAt := observation.observedAt
    ipAddress := observation.ipAddress
    macAddress := observation.macAddress
    hostname := observation.hostname
    sourceInterface := observation.sourceInterface
    sourceSubnet := observation.sourceSubnet
    services := observation.services
    neighborTable := observation.neighborTable
    scanScopeKey := scanScopeKey scan
    changedSincePreviousScan := changed
    fingerprintSha256 := observation.fingerprintSha256 }

/-- What the loop over the observations has written so far. -/
structure Reconciliation where
  candidates : List DiscoveryCandidate
  observations : List DiscoveryObservation
  observedIds : List String
  (newCount changedCount : ℕ)

def Reconciliation.record (work : Reconciliation) (scan : DiscoveryScan)
    (observationId candidateId : String) (changed : Bool)
    (observation : DiscoveryObservationInput) :
    Except DiscoveryError Reconciliation :=
  if observationId ∈ work.observations.map DiscoveryObservation.id then
    .error .notPersisted
  else
    .ok { work with
      observations := work.observations ++
        [observationRow observationId scan candidateId changed observation]
      observedIds := work.observedIds ++ [candidateId] }

/-- Whether the observation differs from the previous one of the same scope. -/
def hasChanged (previous : Option DiscoveryObservation)
    (observation : DiscoveryObservationInput) : Bool :=
  previous.any fun row => row.fingerprintSha256 ≠ observation.fingerprintSha256

def recordObservation (scan : DiscoveryScan) (stored : List DiscoveryObservation)
    (ids : DiscoveryIds) (work : Reconciliation) (observation : DiscoveryObservationInput) :
    Except DiscoveryError Reconciliation :=
  let key := observation.candidateKey
  match work.candidates.find? fun candidate => candidate.candidateKey = key with
  | none =>
    if ids.candidateId key ∈ work.candidates.map DiscoveryCandidate.id then
      .error .notPersisted
    else
      Reconciliation.record
        { work with
          candidates := work.candidates ++ [newCandidate (ids.candidateId key) scan.id observation]
          newCount := work.newCount + 1 }
        scan (ids.observationId key) (ids.candidateId key) false observation
  | some candidate =>
    let changed := hasChanged (latestComparable stored candidate.id (scanScopeKey scan)) observation
    Reconciliation.record
      { work with
        candidates := replaceRow DiscoveryCandidate.id
          (candidate.seen scan.id observation) work.candidates
        changedCount := work.changedCount + if changed then 1 else 0 }
      scan (ids.observationId key) candidate.id changed observation

/-- What the previous observation of a candidate was made of is covered by the
ports of the scan or by neighbour evidence. -/
def absenceCovered (scan : DiscoveryScan) (latest : DiscoveryObservation) : Bool :=
  if latest.openPorts ≠ [] then
    latest.openPorts.all fun port => port ∈ scan.requestedPorts
  else latest.neighborTable

def isAbsent (scan : DiscoveryScan) (work : Reconciliation)
    (candidate : DiscoveryCandidate) : Bool :=
  candidate.present && decide (candidate.id ∉ work.observedIds) &&
    match candidate.ipAddress with
    | .v6 _ => false
    | .v4 address =>
      (scan.requestedCidrs.any fun network =>
        network.includesScannableHost address) &&
      match latestObservation
        (observationsOf candidate.id work.observations) with
      | none => false
      | some latest => absenceCovered scan latest

def markAbsent (scan : DiscoveryScan) (work : Reconciliation)
    (candidate : DiscoveryCandidate) : DiscoveryCandidate :=
  if isAbsent scan work candidate then candidate.absent else candidate

def DiscoveryScan.finished (scan : DiscoveryScan) (status : ScanStatus)
    (now : ℤ) (errorCode errorMessage : Option String) (metrics : ScanMetrics) :
    DiscoveryScan :=
  { scan with
    status
    completedAt := some now
    metrics
    errorCode
    errorMessage }

def DiscoveryTables.setScan (tables : DiscoveryTables) (scan : DiscoveryScan) :
    DiscoveryTables :=
  { tables with scans := replaceRow DiscoveryScan.id scan tables.scans }

def DiscoveryTables.findScan (tables : DiscoveryTables) (scanId : String) :
    Except DiscoveryError DiscoveryScan :=
  match tables.scans.find? fun scan => scan.id = scanId with
  | some scan => .ok scan
  | none => .error (.scanNotFound scanId)

def DiscoveryTables.reconciled (tables : DiscoveryTables) (scan : DiscoveryScan)
    (work : Reconciliation) (result : DiscoveryScanResult) (now : ℤ) :
    DiscoveryTables :=
  { tables with
    scans := replaceRow DiscoveryScan.id
      { scan.finished .completed now none none result.metrics with
        newCandidates := work.newCount
        changedCandidates := work.changedCount
        disappearedCandidates :=
          (work.candidates.filter fun candidate => isAbsent scan work candidate).length }
      tables.scans
    candidates := work.candidates.map (markAbsent scan work)
    observations := work.observations }

def reconcileObservations (tables : DiscoveryTables) (scan : DiscoveryScan)
    (result : DiscoveryScanResult) (ids : DiscoveryIds) :
    Except DiscoveryError Reconciliation :=
  result.observations.foldlM (recordObservation scan tables.observations ids)
    ⟨tables.candidates, tables.observations, [], 0, 0⟩

def applyScanResult (tables : DiscoveryTables) (scanId : String)
    (result : DiscoveryScanResult) (ids : DiscoveryIds) (now : ℤ) :
    Except DiscoveryError DiscoveryTables := do
  let scan ← tables.findScan scanId
  if scan.status ≠ .running then
    .error (.candidateActionConflict ("scan " ++ scanId ++ " is no longer running"))
  else if scan.cancelRequested then
    .ok (tables.setScan (scan.finished .cancelled now none none result.metrics))
  else if ¬ (result.observations.map DiscoveryObservationInput.candidateKey).Nodup then
    .error (.candidateActionConflict "scan produced duplicate discovery candidate identities")
  else
    let work ← reconcileObservations tables scan result ids
    .ok (tables.reconciled scan work result now)

def startScan (tables : DiscoveryTables) (id : String)
    (requestedCidrs : List Ipv4Network) (requestedPorts : List ℤ) :
    Except DiscoveryError DiscoveryTables :=
  if tables.scans.any (fun scan => scan.status = .running) ||
      decide (id ∈ tables.scans.map DiscoveryScan.id) then
    .error .scanAlreadyRunning
  else
    .ok { tables with
      scans := tables.scans ++
        [{ id := id
           status := .running
           requestedCidrs
           requestedPorts
           metrics := ScanMetrics.zero
           newCandidates := 0
           changedCandidates := 0
           disappearedCandidates := 0
           cancelRequested := false
           completedAt := none
           errorCode := none
           errorMessage := none }] }

def requestCancel (tables : DiscoveryTables) (scanId : String) :
    Except DiscoveryError DiscoveryTables := do
  let scan ← tables.findScan scanId
  if scan.status = .running then
    .ok (tables.setScan { scan with cancelRequested := true })
  else .ok tables

def finishWithoutResults (tables : DiscoveryTables) (scanId : String)
    (status : ScanStatus) (errorCode errorMessage : Option String)
    (result : Option DiscoveryScanResult) (now : ℤ) :
    Except DiscoveryError DiscoveryTables := do
  let scan ← tables.findScan scanId
  if scan.status ≠ .running then .ok tables
  else
    let metrics := (result.map DiscoveryScanResult.metrics).getD scan.metrics
    .ok (tables.setScan (scan.finished status now errorCode errorMessage metrics))

def reconcileInterruptedScans (tables : DiscoveryTables) (now : ℤ) :
    DiscoveryTables :=
  { tables with
    scans := tables.scans.map fun scan =>
      if scan.status = .running then
        scan.finished .failed now (some "equipment_discovery_service_restarted")
          (some "Discovery service restarted before the scan completed")
          scan.metrics
      else scan }

/-- The identifiers of the registries a link may refer to. -/
structure EquipmentRegistry where
  (refrigeration devices sensors : List String)

def canonicalEquipmentExists (registry : EquipmentRegistry)
    (assets : List NetworkAsset) (equipmentKey : String) : Bool :=
  let kind := equipmentKey.toList.takeWhile fun char => char ≠ ':'
  let rest := equipmentKey.toList.dropWhile fun char => char ≠ ':'
  let identifier := String.ofList (rest.drop 1)
  if rest = [] || identifier = "" then false
  else
    match String.ofList kind with
    | "refrigeration" => identifier ∈ registry.refrigeration
    | "device" => identifier ∈ registry.devices
    | "sensor" => identifier ∈ registry.sensors
    | "network" => assets.any fun asset =>
      asset.assetKey = equipmentKey && asset.active
    | _ => false

inductive CandidateAction where
  | review
  | ignore
  | linkExisting (linkedEquipmentKey : Option String)
  /-- With the identifier `uuid4` gives to the asset. -/
  | adopt (assetId : String)

def DiscoveryTables.setCandidate (tables : DiscoveryTables)
    (candidate : DiscoveryCandidate) : DiscoveryTables :=
  { tables with
    candidates := replaceRow DiscoveryCandidate.id candidate tables.candidates }

def DiscoveryCandidate.decide (candidate : DiscoveryCandidate)
    (lifecycle : CandidateLifecycle) (linkedEquipmentKey : Option String) :
    DiscoveryCandidate :=
  { candidate with
    lifecycle
    linkedEquipmentKey
    version := candidate.version + 1 }

def adoptedAsset (candidate : DiscoveryCandidate) (assetId : String) :
    NetworkAsset :=
  { id := assetId
    assetKey := "network:" ++ assetId
    ipAddress := candidate.ipAddress
    macAddress := candidate.macAddress
    sourceCandidateId := candidate.id
    active := true
    version := 1 }

def adoptCandidate (tables : DiscoveryTables) (candidate : DiscoveryCandidate)
    (assetId : String) : Except DiscoveryError DiscoveryTables :=
  if !candidate.present then
    .error (.candidateActionConflict "a disappeared candidate cannot be adopted")
  else if tables.assets.any fun asset => asset.sourceCandidateId = candidate.id then
    .error (.candidateActionConflict "candidate is already adopted")
  else if assetId ∈ tables.assets.map NetworkAsset.id ∨
      "network:" ++ assetId ∈ tables.assets.map NetworkAsset.assetKey then
    .error .notPersisted
  else
    .ok { tables.setCandidate (candidate.decide .adopted (some ("network:" ++ assetId))) with
      assets := tables.assets ++ [adoptedAsset candidate assetId] }

def actOnCandidate (tables : DiscoveryTables) (registry : EquipmentRegistry)
    (candidateId : String) (expectedVersion : ℕ) (action : CandidateAction) :
    Except DiscoveryError DiscoveryTables :=
  match tables.candidates.find? fun candidate => candidate.id = candidateId with
  | none => .error (.candidateNotFound candidateId)
  | some candidate =>
    if candidate.version ≠ expectedVersion then
      .error (.candidateVersionConflict expectedVersion candidate.version)
    else
      match action with
      | .review =>
        if candidate.lifecycle = .adopted then
          .error (.candidateActionConflict "adopted candidates cannot return to review")
        else .ok (tables.setCandidate (candidate.decide .reviewed none))
      | .ignore =>
        if candidate.lifecycle = .adopted then
          .error (.candidateActionConflict "adopted candidates cannot be ignored")
        else .ok (tables.setCandidate (candidate.decide .ignored none))
      | .linkExisting linkedEquipmentKey =>
        if candidate.lifecycle = .adopted then
          .error (.candidateActionConflict "adopted candidates cannot be linked elsewhere")
        else
          match linkedEquipmentKey with
          | none => .error .assertionFailed
          | some key =>
            if !canonicalEquipmentExists registry tables.assets key then
              .error (.equipmentLinkNotFound key)
            else
              .ok (tables.setCandidate (candidate.decide .matchedExisting (some key)))
      | .adopt assetId => adoptCandidate tables candidate assetId

inductive DiscoveryAction where
  | startScan (id : String) (requestedCidrs : List Ipv4Network) (requestedPorts : List ℤ)
  | requestCancel (scanId : String)
  | applyScanResult (scanId : String) (result : DiscoveryScanResult) (ids : DiscoveryIds) (now : ℤ)
  | finishWithoutResults (scanId : String) (status : ScanStatus)
      (errorCode errorMessage : Option String)
      (result : Option DiscoveryScanResult) (now : ℤ)
  | reconcileInterruptedScans (now : ℤ)
  | actOnCandidate (registry : EquipmentRegistry) (candidateId : String)
      (expectedVersion : ℕ) (action : CandidateAction)

namespace DiscoveryTables

def empty : DiscoveryTables := ⟨[], [], [], []⟩

def step (tables : DiscoveryTables) : DiscoveryAction → Option DiscoveryTables
  | .startScan id requestedCidrs requestedPorts =>
    (startScan tables id requestedCidrs requestedPorts).toOption
  | .requestCancel scanId => (requestCancel tables scanId).toOption
  | .applyScanResult scanId result ids now =>
    (applyScanResult tables scanId result ids now).toOption
  | .finishWithoutResults scanId status errorCode errorMessage result now =>
    (finishWithoutResults tables scanId status errorCode errorMessage result now).toOption
  | .reconcileInterruptedScans now => some (reconcileInterruptedScans tables now)
  | .actOnCandidate registry candidateId expectedVersion action =>
    (actOnCandidate tables registry candidateId expectedVersion action).toOption

end DiscoveryTables

end Nexolab
