import Nexolab.BusTopology
import Nexolab.DocumentValidity
import Nexolab.InventoryEnrollment
import Nexolab.ReconciliationPasses

/-!
# The passes over a loaded registry

A loaded document is upgraded to the current LE-01MP profile, its SDM120 and
Waveshare units follow the runtime opt-in, its devices are bound to the
configured topology, and the configured units are enrolled.  A pass which
changes nothing returns the document without changes; any other pass returns a
checked document of the next revision.
-/

namespace Nexolab

/-! ## The LE-01MP profile -/

def InventoryDevice.MigratesLe01mp (device : InventoryDevice) : Prop :=
  device.deviceFamily = "le01mp" ∧
    device.profileVersion ∈ [legacyLe01mpProfileVersion, le01mpProfileVersion]

instance (device : InventoryDevice) : Decidable device.MigratesLe01mp :=
  inferInstanceAs (Decidable (_ ∧ _))

def InventoryDocument.le01mpDevices (document : InventoryDocument) :
    List InventoryDevice :=
  document.devices.filter fun device => device.MigratesLe01mp

def InventoryDocument.le01mpIds (document : InventoryDocument) : List String :=
  document.le01mpDevices.map (·.deviceId)

def upgradeLe01mpDevice (ids : List String) (device : InventoryDevice) :
    InventoryDevice :=
  if device.deviceId ∈ ids then
    { device with profileVersion := le01mpProfileVersion }
  else device

def upgradeLe01mpTarget (ids : List String) (target : InventoryTarget) :
    InventoryTarget :=
  if target.deviceId ∈ ids then
    match le01mpRegisters.find? fun register => register.key = target.key with
    | none => { target with profileVersion := le01mpProfileVersion }
    | some register =>
      { target with
        profileVersion := le01mpProfileVersion
        kind := "metric"
        metric := register.metric
        unit := register.unit
        function := 3
        addresses := register.addresses }
  else target

def deviceBefore (left right : InventoryDevice) : Prop :=
  left.deviceId ≤ right.deviceId

instance : DecidableRel deviceBefore := fun _ _ =>
  inferInstanceAs (Decidable (_ ≤ _))

def InventoryDocument.HasRegister (document : InventoryDocument)
    (deviceId : String) (register : ProfileRegister) : Prop :=
  ∃ target ∈ document.targets, target.deviceId = deviceId ∧ target.key = register.key

instance (document : InventoryDocument) (deviceId : String) (register : ProfileRegister) :
    Decidable (document.HasRegister deviceId register) :=
  inferInstanceAs (Decidable (∃ _ ∈ _, _))

/-- The targets of registers the devices lack.  A new target belongs to the
device which the Unit ID names. -/
def InventoryDocument.missingLe01mpTargets (document : InventoryDocument) :
    List InventoryTarget :=
  (document.le01mpDevices.insertionSort deviceBefore).flatMap fun device =>
    (le01mpRegisters.filter fun register =>
        ¬ document.HasRegister device.deviceId register).map fun register =>
      leTarget device.unitId register "active"

def profileChange (entity id before : String) : AuditChange :=
  lifecycleChange entity id before le01mpProfileVersion

def InventoryDocument.le01mpChanges (document : InventoryDocument) :
    List AuditChange :=
  (document.devices.flatMap fun device =>
      if upgradeLe01mpDevice document.le01mpIds device ≠ device then
        [profileChange "device_profile" device.deviceId device.profileVersion]
      else []) ++
    (document.targets.flatMap fun target =>
      if upgradeLe01mpTarget document.le01mpIds target ≠ target then
        [profileChange "target_profile" target.targetId target.profileVersion]
      else []) ++
    document.missingLe01mpTargets.map fun target =>
      lifecycleChange "target" target.targetId "absent" "active"

def reconcileLe01mpProfile (now : String) (document : InventoryDocument) :
    Except RegistryFault (InventoryDocument × List AuditChange) :=
  if document.le01mpDevices = [] then .ok (document, [])
  else if document.le01mpChanges = [] then .ok (document, [])
  else do
    let reconciled ← validateDocument { document with
      revision := document.revision + 1
      devices := document.devices.map (upgradeLe01mpDevice document.le01mpIds)
      targets := document.targets.map
        (upgradeLe01mpTarget document.le01mpIds) ++ document.missingLe01mpTargets
      updatedAt := now }
    return (reconciled, document.le01mpChanges)

def runtimeLifecycle (configured : List ℕ) (unitId : ℕ) : String :=
  if unitId ∈ configured then "active" else "reserve"

def InventoryDocument.familyDevices (document : InventoryDocument)
    (family : String) : List InventoryDevice :=
  document.devices.filter fun device => device.deviceFamily = family

def InventoryDocument.optInDeviceMutations (document : InventoryDocument)
    (family : String) (configured : List ℕ) : List DeviceLifecycleMutation :=
  ((document.familyDevices family).filter fun device =>
    device.lifecycle ≠ runtimeLifecycle configured device.unitId).map
    fun device =>
      ⟨device.deviceId, runtimeLifecycle configured device.unitId⟩

def InventoryDocument.optInTargetMutation (document : InventoryDocument)
    (family : String) (configured : List ℕ) (target : InventoryTarget) :
    Option LifecycleMutation :=
  match (document.familyDevices family).find? fun device =>
      device.deviceId = target.deviceId with
  | none => none
  | some device =>
    if target.lifecycle ≠ runtimeLifecycle configured device.unitId then
      some ⟨target.targetId, runtimeLifecycle configured device.unitId⟩
    else none

def InventoryDocument.optInTargetMutations (document : InventoryDocument)
    (family : String) (configured : List ℕ) : List LifecycleMutation :=
  document.targets.filterMap (document.optInTargetMutation family configured)

def reconcileRuntimeOptIn (family : String) (configured : List ℕ)
    (now : String) (document : InventoryDocument) :
    Except RegistryFault (InventoryDocument × List AuditChange) :=
  if document.optInDeviceMutations family configured = [] ∧
      document.optInTargetMutations family configured = [] then
    .ok (document, [])
  else document.withMutations (document.optInDeviceMutations family configured)
    (document.optInTargetMutations family configured) now

def reconcileSdm120RuntimeOptIn : List ℕ → String → InventoryDocument →
    Except RegistryFault (InventoryDocument × List AuditChange) :=
  reconcileRuntimeOptIn "sdm120"

def reconcileWaveshare8aiRuntimeOptIn : List ℕ → String → InventoryDocument →
    Except RegistryFault (InventoryDocument × List AuditChange) :=
  reconcileRuntimeOptIn "waveshare_8ai"

def bindingChanges (before after : InventoryDocument) : List AuditChange :=
  lifecycleChange "registry_buses" "root" (joinTexts "," before.busIds)
      (joinTexts "," after.busIds) ::
    (after.devices.flatMap fun device =>
      match before.devices.find? fun old => old.deviceId = device.deviceId with
      | none => []
      | some previous =>
        if previous.busId ≠ device.busId then
          [lifecycleChange "device_bus" device.deviceId previous.busId
            device.busId]
        else []) ++
    if before.cadence ≠ after.cadence then
      [lifecycleChange "cadence" "bus_bindings" "previous_bus_identity"
        "configured_bus_identity"]
    else []

def applyRegistryBinding (binding : Option BusTopology) (initial : Bool)
    (now : String) (registry : InventoryRegistry) :
    Except RegistryFault (InventoryDocument × List AuditChange) :=
  match binding with
  | none => .ok (registry.document, [])
  | some topology => do
    let bound ← topology.bindRegistry registry
    if bound.document = registry.document then
      return (registry.document, [])
    else
      let document ← validateDocument (if initial then bound.document
        else { bound.document with
          revision := registry.document.revision + 1
          updatedAt := now })
      return (document, bindingChanges registry.document bound.document)

structure RegistrySettings where
  deviceMode : String
  sampleIntervalSeconds : ℚ
  (le01mpUnitIds sdm120UnitIds : List ℕ)
  sdm120BusId : Option String
  waveshare8aiUnitIds : List ℕ
  waveshare8aiBusId : Option String
  embracoUnitIds : List ℕ

/-- What the agent starts with: its settings, and the topology when one is
configured explicitly. -/
structure RegistryConfiguration where
  settings : RegistrySettings
  topology : Option BusTopology

namespace RegistryConfiguration

variable (configuration : RegistryConfiguration)

def configuredBusForUnit : Option (ℕ → Except RegistryFault String) :=
  configuration.topology.map BusTopology.busForUnit

/-- The bus a family is pinned to, when a topology and a bus are configured. -/
def pinnedBusForUnit (busId : Option String) :
    Option (ℕ → Except RegistryFault String) :=
  match configuration.topology, busId with
  | some topology, some busId => some (topology.busForUnitOn busId)
  | _, _ => none

def configuredSdm120BusForUnit : Option (ℕ → Except RegistryFault String) :=
  configuration.pinnedBusForUnit configuration.settings.sdm120BusId

def configuredWaveshare8aiBusForUnit :
    Option (ℕ → Except RegistryFault String) :=
  configuration.pinnedBusForUnit configuration.settings.waveshare8aiBusId

end RegistryConfiguration

structure AuditOrigin where
  (actor reason : String)

abbrev RegistryPass :=
  ReconciliationPass RegistryFault InventoryDocument AuditChange AuditOrigin

def le01mpPass (now : String) : RegistryPass where
  label := ⟨"system:migration",
    "Upgrade LE-01MP read-only profile with cumulative active energy"⟩
  run := reconcileLe01mpProfile now

def sdm120OptInPass (configured : List ℕ) (now : String) : RegistryPass where
  label := ⟨"system:configuration",
    "Reconcile Eastron SDM120 polling lifecycle with explicit runtime opt-in"⟩
  run := reconcileSdm120RuntimeOptIn configured now

def waveshare8aiOptInPass (configured : List ℕ) (now : String) :
    RegistryPass where
  label := ⟨"system:configuration",
    "Reconcile Waveshare 8AI polling lifecycle with explicit runtime opt-in"⟩
  run := reconcileWaveshare8aiRuntimeOptIn configured now

def bindingPass (binding : Option BusTopology) (now : String) : RegistryPass where
  label := ⟨"system:configuration",
    "Bind acquisition registry to explicit RS-485 topology"⟩
  run := fun document => do
    let registry ← InventoryRegistry.of document
    applyRegistryBinding binding false now registry

def enrollmentPass (label : AuditOrigin) (units : List ℕ) (enroll : InventoryDocument →
      Except RegistryFault (InventoryDocument × List AuditChange)) :
    RegistryPass where
  label
  run := fun document => if units = [] then .ok (document, []) else enroll document

def sdm120EnrollmentPass (configuration : RegistryConfiguration) (now : String) :
    RegistryPass :=
  enrollmentPass ⟨"system:configuration",
      "Enroll explicitly configured read-only Eastron SDM120 units"⟩
    configuration.settings.sdm120UnitIds fun document =>
      document.withSdm120Enrollment configuration.settings.sdm120UnitIds "active"
        (configuration.configuredSdm120BusForUnit.or configuration.configuredBusForUnit) now

def waveshare8aiEnrollmentPass (configuration : RegistryConfiguration)
    (now : String) : RegistryPass :=
  enrollmentPass ⟨"system:configuration",
      "Enroll explicitly configured read-only Waveshare 8AI units"⟩
    configuration.settings.waveshare8aiUnitIds fun document =>
      document.withWaveshare8aiEnrollment configuration.settings.waveshare8aiUnitIds "active"
        (configuration.configuredWaveshare8aiBusForUnit.or configuration.configuredBusForUnit) now

def embracoEnrollmentPass (configuration : RegistryConfiguration) (now : String) : RegistryPass :=
  enrollmentPass ⟨"system:configuration",
      "Enroll explicitly configured read-only Embraco Sync units"⟩
    configuration.settings.embracoUnitIds fun document =>
      document.withEmbracoEnrollment configuration.settings.embracoUnitIds
        "active" configuration.configuredBusForUnit now

/-- The passes of `load_or_migrate` over a stored document.  Every pass reads
the clock when it runs. -/
def startupPasses (configuration : RegistryConfiguration) (clock : ℕ → String) :
    List RegistryPass :=
  [le01mpPass (clock 1), sdm120OptInPass configuration.settings.sdm120UnitIds (clock 2),
    waveshare8aiOptInPass configuration.settings.waveshare8aiUnitIds (clock 3),
    bindingPass configuration.topology (clock 4),
    sdm120EnrollmentPass configuration (clock 5),
    waveshare8aiEnrollmentPass configuration (clock 6),
    embracoEnrollmentPass configuration (clock 7)]

/-- The document itself without changes, or a checked document of the next
revision. -/
structure NextRevision (before after : InventoryDocument) (changes : List AuditChange) : Prop where
  unchanged : changes = [] → after = before
  checked : changes ≠ [] → after.Checked
  revision : changes ≠ [] → after.revision = before.revision + 1

theorem nextRevision_unchanged (document : InventoryDocument) :
    NextRevision document document [] where
  unchanged := fun _ => rfl
  checked := fun hchanges => absurd rfl hchanges
  revision := fun hchanges => absurd rfl hchanges

variable {changes : List AuditChange} {document after : InventoryDocument}

theorem nextRevision_of_validate {before candidate after : InventoryDocument}
    (hvalidate : validateDocument candidate = .ok after)
    (hrev : candidate.revision = before.revision + 1)
    (hchanges : changes ≠ []) : NextRevision before after changes where
  unchanged := fun hnone => absurd hnone hchanges
  checked := fun _ => InventoryDocument.checked_of_validate hvalidate
  revision := fun _ => by rw [validateDocument_eq hvalidate, hrev]

variable {now : String}

theorem withMutations_nextRevision {deviceMutations : List DeviceLifecycleMutation}
    {targetMutations : List LifecycleMutation}
    (hmutate : document.withMutations deviceMutations targetMutations now = .ok (after, changes)) :
    NextRevision document after changes ∧ changes ≠ [] := by
  simp only [InventoryDocument.withMutations, bind_eq_ok, refuseIf_eq_ok,
    pure_eq_ok, Prod.mk.injEq] at hmutate
  obtain ⟨_, _, _, _, _, _, _, _, _, _, _, _, _, hchanges, updated, hvalidate,
    rfl, rfl⟩ := hmutate
  exact ⟨nextRevision_of_validate hvalidate rfl hchanges, hchanges⟩

theorem withCadenceMutation_nextRevision {mutation : CadenceMutation} {affected : List String}
    (hmutate : document.withCadenceMutation mutation now = .ok (after, changes, affected)) :
    NextRevision document after changes := by
  simp only [InventoryDocument.withCadenceMutation, bind_eq_ok,
    pure_eq_ok, Prod.mk.injEq] at hmutate
  obtain ⟨⟨cadence, mutated, devices⟩, happly, updated, hvalidate, rfl, rfl, _⟩ := hmutate
  refine nextRevision_of_validate hvalidate rfl ?_
  simp only [applyMutation, bind_eq_ok, refuseIf_eq_ok,
    pure_eq_ok, Prod.mk.injEq] at happly
  obtain ⟨_, _, _, _, _, _, _, _, _, hchanges, _, _, _, rfl, _⟩ := happly
  exact hchanges

theorem reconcileLe01mpProfile_nextRevision
    (hpass : reconcileLe01mpProfile now document = .ok (after, changes)) :
    NextRevision document after changes := by
  unfold reconcileLe01mpProfile at hpass
  split_ifs at hpass with hdevs hchanges
  · cases hpass
    exact nextRevision_unchanged _
  · cases hpass
    exact nextRevision_unchanged _
  · simp only [bind_eq_ok, pure_eq_ok, Prod.mk.injEq] at hpass
    obtain ⟨_, hvalidate, rfl, rfl⟩ := hpass
    exact nextRevision_of_validate hvalidate rfl hchanges

theorem reconcileRuntimeOptIn_nextRevision {family now : String} {configured : List ℕ}
    (hpass : reconcileRuntimeOptIn family configured now document = .ok (after, changes)) :
    NextRevision document after changes := by
  unfold reconcileRuntimeOptIn at hpass
  split_ifs at hpass with hsettled
  · cases hpass
    exact nextRevision_unchanged _
  · exact (withMutations_nextRevision hpass).1

theorem bindingChanges_ne_nil (before after : InventoryDocument) :
    bindingChanges before after ≠ [] := by
  unfold bindingChanges
  simp

theorem applyRegistryBinding_nextRevision {registry : InventoryRegistry}
    {binding : Option BusTopology} {after : InventoryDocument}
    (hpass : applyRegistryBinding binding false now registry = .ok (after, changes)) :
    NextRevision registry.document after changes := by
  unfold applyRegistryBinding at hpass
  split at hpass
  next =>
    cases hpass
    exact nextRevision_unchanged _
  next topology =>
    rw [bind_eq_ok] at hpass
    obtain ⟨bound, _, hpass⟩ := hpass
    by_cases hsame : bound.document = registry.document
    · rw [if_pos hsame, pure_eq_ok, Prod.mk.injEq] at hpass
      obtain ⟨rfl, rfl⟩ := hpass
      exact nextRevision_unchanged _
    · rw [if_neg hsame] at hpass
      simp only [bind_eq_ok, pure_eq_ok, Prod.mk.injEq] at hpass
      obtain ⟨_, hvalidate, rfl, rfl⟩ := hpass
      exact nextRevision_of_validate hvalidate rfl (bindingChanges_ne_nil _ _)

theorem EnrollmentProfile.enroll_nextRevision {profile : EnrollmentProfile} {unitIds : List ℕ}
    {lifecycle now : String} {busForUnit : Option (ℕ → Except RegistryFault String)}
    (henroll : profile.enroll document unitIds lifecycle busForUnit now = .ok (after, changes)) :
    NextRevision document after changes := by
  simp only [EnrollmentProfile.enroll, bind_eq_ok] at henroll
  obtain ⟨_, _, desired, _, added, _, henroll⟩ := henroll
  split_ifs at henroll with hadded
  · cases henroll
    exact nextRevision_unchanged _
  · simp only [bind_eq_ok, pure_eq_ok, Prod.mk.injEq] at henroll
    obtain ⟨_, _, _, hvalidate, rfl, rfl⟩ := henroll
    refine nextRevision_of_validate hvalidate rfl ?_
    obtain ⟨first, others, rfl⟩ := List.exists_cons_of_ne_nil hadded
    simp [EnrollmentProfile.additionChanges]

def RegistryPass.Revises (pass : RegistryPass) : Prop :=
  ∀ before after changes, pass.run before = .ok (after, changes) → NextRevision before after changes

theorem bindingPass_revises (binding : Option BusTopology) (now : String) :
    (bindingPass binding now).Revises := by
  intro before after changes hpass
  simp only [bindingPass, bind_eq_ok] at hpass
  obtain ⟨registry, hregistry, hpass⟩ := hpass
  have hnext := applyRegistryBinding_nextRevision hpass
  rw [InventoryRegistry.of_eq_ok hregistry] at hnext
  exact hnext

theorem enrollmentPass_revises {label : AuditOrigin} {units : List ℕ}
    {enroll : InventoryDocument →
      Except RegistryFault (InventoryDocument × List AuditChange)}
    (henroll : ∀ before after changes, enroll before = .ok (after, changes) →
      NextRevision before after changes) :
    (enrollmentPass label units enroll).Revises := by
  intro before after changes hpass
  simp only [enrollmentPass] at hpass
  split_ifs at hpass with hunits
  · cases hpass
    exact nextRevision_unchanged _
  · exact henroll before after changes hpass

theorem startupPasses_revise (configuration : RegistryConfiguration) (clock : ℕ → String) :
    ∀ pass ∈ startupPasses configuration clock, RegistryPass.Revises pass := by
  intro pass hpass
  simp only [startupPasses, List.mem_cons, List.not_mem_nil, or_false] at hpass
  rcases hpass with rfl | rfl | rfl | rfl | rfl | rfl | rfl
  · exact fun _ _ _ => reconcileLe01mpProfile_nextRevision
  · exact fun _ _ _ => reconcileRuntimeOptIn_nextRevision
  · exact fun _ _ _ => reconcileRuntimeOptIn_nextRevision
  · exact bindingPass_revises _ _
  · exact enrollmentPass_revises fun _ _ _ =>
      EnrollmentProfile.enroll_nextRevision
  · exact enrollmentPass_revises fun _ _ _ =>
      EnrollmentProfile.enroll_nextRevision
  · exact enrollmentPass_revises fun _ _ _ =>
      EnrollmentProfile.enroll_nextRevision

end Nexolab
