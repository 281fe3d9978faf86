import Nexolab.RegistryCommits
import Nexolab.SettledPasses

/-!
# Documents which are read back as they were written

The reader of a stored policy strips its ids.  A document whose devices stand on
buses with stripped ids is read back as it is; one with another bus id is
refused, since its cadence default is read under another key.  The startup
passes move a device to a configured bus or leave its bus alone.
-/

namespace Nexolab

def Stripped (text : String) : Prop := stripText text = text

theorem stripText_stripped (text : String) : Stripped (stripText text) :=
  stripText_idem text

theorem defaultBusId_stripped : Stripped defaultBusId := by
  unfold Stripped
  decide +kernel

theorem familyDefaultsFromPayload_shape {index : ℕ} {items result : List FamilyCadenceDefault}
    (hread : familyDefaultsFromPayload index items = .ok result) :
    result = items.map fun item =>
      { item with busId := stripText item.busId } := by
  induction items generalizing index result with
  | nil =>
    simp only [familyDefaultsFromPayload, Except.ok.injEq] at hread
    exact hread.symm
  | cons item rest ih =>
    simp only [familyDefaultsFromPayload, bind_eq_ok, pure_eq_ok, checkInterval_eq_ok] at hread
    obtain ⟨_, _, _, _, _, ⟨_, rfl⟩, others, hothers, rfl⟩ := hread
    rw [List.map_cons, ih hothers]

theorem deviceOverridesFromPayload_shape {index : ℕ} {items result : List DeviceCadenceOverride}
    (hread : deviceOverridesFromPayload index items = .ok result) :
    result = items.map (fun item =>
        { item with deviceId := stripText item.deviceId }) ∧
      ∀ item ∈ items, stripText item.deviceId ≠ "" := by
  induction items generalizing index result with
  | nil =>
    simp only [deviceOverridesFromPayload, Except.ok.injEq] at hread
    exact ⟨hread.symm, fun _ hitem => nomatch hitem⟩
  | cons item rest ih =>
    simp only [deviceOverridesFromPayload, bind_eq_ok, refuseIf_eq_ok,
      pure_eq_ok, checkInterval_eq_ok] at hread
    obtain ⟨_, hnamed, _, ⟨_, rfl⟩, others, hothers, rfl⟩ := hread
    obtain ⟨hrest, hrestNamed⟩ := ih hothers
    refine ⟨by rw [List.map_cons, hrest], ?_⟩
    intro other hother
    rcases List.mem_cons.mp hother with rfl | hmem
    · exact hnamed
    · exact hrestNamed other hmem

theorem familyDefaultsFromPayload_fixed {items : List FamilyCadenceDefault}
    (hitems : ∀ item ∈ items, Stripped item.busId ∧ item.busId ≠ "" ∧
      item.deviceFamily ∈ supportedDeviceFamilies ∧
      cadenceMinSeconds ≤ item.intervalSeconds ∧
      item.intervalSeconds ≤ cadenceMaxSeconds) (index : ℕ) :
    familyDefaultsFromPayload index items = .ok items := by
  induction items generalizing index with
  | nil => rfl
  | cons item rest ih =>
    obtain ⟨hstripped, hnamed, hfam, hbounds⟩ := hitems item List.mem_cons_self
    have hrest := ih (fun other hother =>
      hitems other (List.mem_cons_of_mem _ hother)) (index + 1)
    simp only [familyDefaultsFromPayload, bind_eq_ok, refuseIf_eq_ok,
      pure_eq_ok, checkInterval_eq_ok, not_not]
    refine ⟨(), ?_, (), hfam, _, ⟨hbounds, rfl⟩, rest, hrest, ?_⟩
    · rw [hstripped]
      exact hnamed
    · rw [hstripped]

theorem deviceOverridesFromPayload_fixed {items : List DeviceCadenceOverride}
    (hitems : ∀ item ∈ items, Stripped item.deviceId ∧ item.deviceId ≠ "" ∧
      cadenceMinSeconds ≤ item.intervalSeconds ∧
      item.intervalSeconds ≤ cadenceMaxSeconds) (index : ℕ) :
    deviceOverridesFromPayload index items = .ok items := by
  induction items generalizing index with
  | nil => rfl
  | cons item rest ih =>
    obtain ⟨hstripped, hnamed, hbounds⟩ := hitems item List.mem_cons_self
    have hrest := ih (fun other hother =>
      hitems other (List.mem_cons_of_mem _ hother)) (index + 1)
    simp only [deviceOverridesFromPayload, bind_eq_ok, refuseIf_eq_ok,
      pure_eq_ok, checkInterval_eq_ok]
    refine ⟨(), ?_, _, ⟨hbounds, rfl⟩, rest, hrest, ?_⟩
    · rw [hstripped]
      exact hnamed
    · rw [hstripped]

def CadencePolicy.OverridesStripped (policy : CadencePolicy) : Prop :=
  ∀ item ∈ policy.deviceOverrides, Stripped item.deviceId ∧ item.deviceId ≠ ""

theorem cadenceFromPayload_shape {payload policy : CadencePolicy}
    (hread : cadenceFromPayload payload = .ok policy) :
    (∀ item ∈ policy.familyDefaults, Stripped item.busId) ∧ policy.OverridesStripped := by
  simp only [cadenceFromPayload, bind_eq_ok, pure_eq_ok] at hread
  obtain ⟨defaults, hdefs, overrides, hovers, rfl⟩ := hread
  have hdefaultShape := familyDefaultsFromPayload_shape hdefs
  obtain ⟨hoverrideShape, hnamed⟩ := deviceOverridesFromPayload_shape hovers
  subst hdefaultShape
  subst hoverrideShape
  constructor
  · intro item hitem
    obtain ⟨old, _, rfl⟩ := List.mem_map.mp hitem
    exact stripText_stripped _
  · intro item hitem
    obtain ⟨old, hold, rfl⟩ := List.mem_map.mp hitem
    exact ⟨stripText_stripped _, hnamed old hold⟩

theorem cadenceFromPayload_fixed {policy : CadencePolicy}
    {busIds : List String} {devices : List RegistryDevice} (hvalid : policy.Valid busIds devices)
    (hnamed : ∀ busId ∈ busIds, stripText busId ≠ "")
    (hdefs : ∀ item ∈ policy.familyDefaults, Stripped item.busId)
    (hovers : policy.OverridesStripped) :
    cadenceFromPayload policy = .ok policy := by
  have hread : familyDefaultsFromPayload 0 policy.familyDefaults = .ok policy.familyDefaults := by
    refine familyDefaultsFromPayload_fixed (fun item hitem => ?_) 0
    have hbounds := hvalid.bounded item.intervalSeconds
      (List.mem_append_left _ (List.mem_map_of_mem hitem))
    refine ⟨hdefs item hitem, ?_, hvalid.families item hitem, hbounds⟩
    have hbus := hnamed item.busId (hvalid.buses item hitem)
    rwa [hdefs item hitem] at hbus
  have hreadOverrides : deviceOverridesFromPayload 0 policy.deviceOverrides =
      .ok policy.deviceOverrides := by
    refine deviceOverridesFromPayload_fixed (fun item hitem => ?_) 0
    obtain ⟨hstripped, hid⟩ := hovers item hitem
    exact ⟨hstripped, hid, hvalid.bounded item.intervalSeconds
      (List.mem_append_right _ (List.mem_map_of_mem hitem))⟩
  simp only [cadenceFromPayload, bind_eq_ok, pure_eq_ok]
  exact ⟨_, hread, _, hreadOverrides, rfl⟩

def InventoryDocument.BusesStripped (document : InventoryDocument) : Prop :=
  ∀ device ∈ document.devices, Stripped device.busId

variable {environment : PolicyEnvironment} {payload document : InventoryDocument}

theorem loadDocument_unmigrated_iff {settings : RegistrySettings} {now : String} :
    loadDocument environment settings now payload = .ok (document, []) ↔
      documentFromJson payload = .ok document := by
  unfold loadDocument
  split_ifs with hlegacy hcur
  · simp only [documentFromJson, bind_eq_ok, pure_eq_ok, refuseIf_eq_ok, Prod.mk.injEq]
    constructor
    · rintro ⟨_, _, _, hmigration⟩
      cases hmigration
    · rintro ⟨_, hschema, _⟩
      rw [hlegacy] at hschema
      exact absurd (by decide) hschema
  · simp only [bind_eq_ok, pure_eq_ok, Prod.mk.injEq, and_true,
      exists_eq_right]
  · simp only [documentFromJson, bind_eq_ok, refuseIf_eq_ok, not_not]
    constructor
    · intro hload
      cases hload
    · rintro ⟨_, hschema, _⟩
      exact absurd hschema hcur

theorem documentFromJson_busesStripped (hread : documentFromJson payload = .ok document) :
    payload.BusesStripped := by
  simp only [documentFromJson, bind_eq_ok] at hread
  obtain ⟨_, _, cadence, hcadence, hvalidate⟩ := hread
  have hvalid := InventoryDocument.valid_of_validate hvalidate
  intro device hdev
  have hkey := hvalid.cadence.complete device.toRegistryDevice (List.mem_map_of_mem hdev)
  obtain ⟨item, hitem, hsame⟩ := List.mem_map.mp hkey
  have hbus : item.busId = device.busId := congrArg Prod.fst hsame
  rw [← hbus]
  exact (cadenceFromPayload_shape hcadence).1 item hitem

theorem documentFromJson_fixed {document : InventoryDocument} (hchecked : document.Checked)
    (hdefs : ∀ item ∈ document.cadence.familyDefaults, Stripped item.busId)
    (hovers : document.cadence.OverridesStripped) :
    documentFromJson document = .ok document := by
  have hvalid := hchecked.facts
  have hnamed : ∀ busId ∈ document.busIds, stripText busId ≠ "" := by
    intro busId hbusId
    obtain ⟨bus, hbus, rfl⟩ := List.mem_map.mp hbusId
    exact hvalid.buses_named bus hbus
  have hcadence := cadenceFromPayload_fixed hvalid.cadence hnamed hdefs hovers
  simp only [documentFromJson, bind_eq_ok, refuseIf_eq_ok, not_not]
  exact ⟨(), hvalid.schema, document.cadence, hcadence, hchecked⟩

/-- Every default stands on a stripped bus or on the bus of a device. -/
def InventoryDocument.DefaultsAnchored (document : InventoryDocument) : Prop :=
  ∀ item ∈ document.cadence.familyDefaults, Stripped item.busId ∨
    ∃ device ∈ document.devices, device.busId = item.busId

theorem buildBootstrapPolicy_keys {interval : ℚ} {keys : List FamilyKey} {policy : CadencePolicy}
    (hbuild : buildBootstrapPolicy environment interval keys = .ok policy) :
    (∀ item ∈ policy.familyDefaults, item.key ∈ keys) ∧ policy.deviceOverrides = [] := by
  simp only [buildBootstrapPolicy, bind_eq_ok, pure_eq_ok] at hbuild
  obtain ⟨⟨high, medium, low⟩, _, defaults, hdefs, rfl⟩ := hbuild
  refine ⟨?_, rfl⟩
  intro item hitem
  obtain ⟨key, hkey, hdefault⟩ := exists_mem_of_mapM_ok hdefs hitem
  rw [List.mem_insertionSort, List.mem_dedup] at hkey
  unfold bootstrapDefault at hdefault
  by_cases hfam : key.2 ∈ supportedDeviceFamilies
  · rw [if_neg (not_not.mpr hfam), Except.ok.injEq] at hdefault
    rw [← hdefault]
    exact hkey
  · rw [if_pos hfam] at hdefault
    cases hdefault

structure Loaded (payload document : InventoryDocument) : Prop where
  checked : document.Checked
  devices : document.devices = payload.devices
  targets : document.targets = payload.targets
  anchored : document.DefaultsAnchored
  overrides : document.cadence.OverridesStripped

theorem loadDocument_loaded {settings : RegistrySettings} {now : String}
    {migration : List (PassCommit InventoryDocument AuditChange AuditOrigin)}
    (hload : loadDocument environment settings now payload =
      .ok (document, migration)) : Loaded payload document := by
  have hchecked := (RegistryStore.loadDocument_cases hload).1
  unfold loadDocument at hload
  split_ifs at hload
  · simp only [migrateV1Document, bind_eq_ok, pure_eq_ok, Prod.mk.injEq] at hload
    obtain ⟨⟨migrated, changes⟩, ⟨cadence, hcadence, _, hvalidate, rfl, _⟩, rfl, _⟩ := hload
    obtain ⟨hkeys, hovers⟩ := buildBootstrapPolicy_keys hcadence
    have hdoc := validateDocument_eq hvalidate
    subst hdoc
    refine ⟨hchecked, rfl, rfl, ?_, ?_⟩
    · intro item hitem
      obtain ⟨row, hrow, hsame⟩ := List.mem_map.mp (hkeys item hitem)
      obtain ⟨device, hdev, rfl⟩ := List.mem_map.mp hrow
      exact .inr ⟨device, hdev, congrArg Prod.fst hsame⟩
    · intro item hitem
      change item ∈ cadence.deviceOverrides at hitem
      rw [hovers] at hitem
      cases hitem
  · simp only [documentFromJson, bind_eq_ok, pure_eq_ok, Prod.mk.injEq] at hload
    obtain ⟨_, ⟨_, _, cadence, hcadence, hvalidate⟩, rfl, _⟩ := hload
    obtain ⟨hdefs, hovers⟩ := cadenceFromPayload_shape hcadence
    have hdoc := validateDocument_eq hvalidate
    subst hdoc
    exact ⟨hchecked, rfl, rfl, fun item hitem => .inl (hdefs item hitem), hovers⟩

/-! ## Buses across the passes -/

def RegistryConfiguration.Assigns (configuration : RegistryConfiguration) (unitId : ℕ) : Prop :=
  ∃ topology, configuration.topology = some topology ∧
    topology.explicit = true ∧ topology.busesForUnit unitId ≠ []

def InventoryDocument.BusesSettle (configuration : RegistryConfiguration)
    (document : InventoryDocument) : Prop :=
  ∀ device ∈ document.devices, Stripped device.busId ∨ configuration.Assigns device.unitId

/-- What a startup pass does to the buses of the devices and to the policy. -/
structure MovesBuses (configuration : RegistryConfiguration)
    (before after : InventoryDocument) : Prop where
  device_origin : ∀ device ∈ after.devices, Stripped device.busId ∨
    ∃ old ∈ before.devices, old.unitId = device.unitId ∧
      (old.busId = device.busId ∨ configuration.Assigns device.unitId)
  device_kept : ∀ old ∈ before.devices, ∃ device ∈ after.devices, device.unitId = old.unitId ∧
      (device.busId = old.busId ∨ configuration.Assigns old.unitId)
  anchored : before.DefaultsAnchored → after.DefaultsAnchored
  overrides : after.cadence.deviceOverrides = before.cadence.deviceOverrides

theorem MovesBuses.busesSettle_iff {configuration : RegistryConfiguration}
    {before after : InventoryDocument} (hmoves : MovesBuses configuration before after) :
    after.BusesSettle configuration ↔ before.BusesSettle configuration := by
  constructor
  · intro hafter old hold
    obtain ⟨device, hdev, hunit, hbus⟩ := hmoves.device_kept old hold
    rcases hbus with hsame | hassigned
    · rw [← hsame, ← hunit]
      exact hafter device hdev
    · exact .inr hassigned
  · intro hbefore device hdev
    rcases hmoves.device_origin device hdev with
      hstripped | ⟨old, hold, hunit, hsame | hassigned⟩
    · exact .inl hstripped
    · rw [← hsame, ← hunit]
      exact hbefore old hold
    · exact .inr hassigned

section Passes

variable {configuration : RegistryConfiguration}
  {before after : InventoryDocument} {changes : List AuditChange}

theorem movesBuses_of_map {rewrite : InventoryDevice → InventoryDevice}
    (hdevs : after.devices = before.devices.map rewrite)
    (hrewrite : ∀ device, (rewrite device).busId = device.busId ∧
      (rewrite device).unitId = device.unitId)
    (hcadence : after.cadence = before.cadence) :
    MovesBuses configuration before after := by
  constructor
  case device_origin =>
    intro device hdev
    rw [hdevs] at hdev
    obtain ⟨old, hold, rfl⟩ := List.mem_map.mp hdev
    exact .inr ⟨old, hold, (hrewrite old).2.symm, .inl (hrewrite old).1.symm⟩
  case device_kept =>
    intro old hold
    rw [hdevs]
    exact ⟨_, List.mem_map_of_mem hold, (hrewrite old).2, .inl (hrewrite old).1⟩
  case anchored =>
    intro hanchored item hitem
    rw [hcadence] at hitem
    rw [hdevs]
    rcases hanchored item hitem with hstripped | ⟨old, hold, hbus⟩
    · exact .inl hstripped
    · exact .inr ⟨_, List.mem_map_of_mem hold, (hrewrite old).1.trans hbus⟩
  case overrides => rw [hcadence]

theorem le01mpPass_movesBuses {now : String}
    (hpass : (le01mpPass now).run before = .ok (after, changes))
    (hchanges : changes ≠ []) : MovesBuses configuration before after := by
  obtain ⟨hdevs, _, hcadence, _⟩ :=
    reconcileLe01mpProfile_shape hpass hchanges
  refine movesBuses_of_map hdevs (fun device => ?_) hcadence
  unfold upgradeLe01mpDevice
  split_ifs
  · exact ⟨rfl, rfl⟩
  · exact ⟨rfl, rfl⟩

theorem optIn_movesBuses {family now : String} {configured : List ℕ} (hbefore : before.Checked)
    (hpass : reconcileRuntimeOptIn family configured now before =
      .ok (after, changes)) (hchanges : changes ≠ []) :
    MovesBuses configuration before after := by
  obtain ⟨hdevs, _, hcadence, _⟩ :=
    reconcileRuntimeOptIn_shape hbefore.facts hpass hchanges
  refine movesBuses_of_map hdevs (fun device => ?_) hcadence
  unfold followDevice
  split_ifs
  · exact ⟨rfl, rfl⟩
  · exact ⟨rfl, rfl⟩

theorem bound_busId {topology : BusTopology} {old device : InventoryDevice}
    (hbound : topology.Bound old device) :
    device.busId = old.busId ∨ device.busId ∈ topology.busesForUnit old.unitId := by
  obtain ⟨retained, hbus⟩ : ∃ retained,
      topology.busOfDevice old = .ok (device.busId, retained) := by
    have hkey := hbound.key
    unfold BusTopology.boundFamilyKey at hkey
    cases hcase : topology.busOfDevice old with
    | error fault =>
      rw [hcase] at hkey
      cases hkey
    | ok bus =>
      rw [hcase] at hkey
      simp only [Option.some.injEq] at hkey
      have hsame : bus.1 = device.busId := congrArg Prod.fst hkey
      exact ⟨bus.2, by rw [← hsame]⟩
  rcases BusTopology.busOfDevice_cases hbus with ⟨_, hsame⟩ | ⟨hmem, _⟩
  · exact .inl hsame
  · exact .inr hmem

theorem bindingPass_movesBuses {now : String}
    (hpass : (bindingPass configuration.topology now).run before =
      .ok (after, changes)) (hchanges : changes ≠ []) :
    MovesBuses configuration before after := by
  obtain ⟨topology, bound, htopology, hexplicit, hbind, hdevs, _, hcadence,
    _⟩ := bindingPass_shape hpass hchanges
  have hrelated := topology.bindDocument_devices hbind
  rw [← hdevs] at hrelated
  have hrebind := topology.bindDocument_cadence hbind
  have hmoved : ∀ old device, topology.Bound old device →
      device.unitId = old.unitId ∧ (device.busId = old.busId ∨
        configuration.Assigns old.unitId) := by
    intro old device hbound
    refine ⟨(bound_sameUnit hbound).unitId, (bound_busId hbound).imp_right ?_⟩
    exact fun hmem => ⟨topology, htopology, hexplicit, List.ne_nil_of_mem hmem⟩
  constructor
  case device_origin =>
    intro device hdev
    obtain ⟨old, hold, hbound⟩ := forall₂_mem_right hrelated hdev
    obtain ⟨hunit, hbus⟩ := hmoved old device hbound
    rw [← hunit] at hbus
    exact .inr ⟨old, hold, hunit.symm, hbus.imp_left Eq.symm⟩
  case device_kept =>
    intro old hold
    obtain ⟨device, hdev, hbound⟩ := exists_of_forall₂ hrelated hold
    exact ⟨device, hdev, hmoved old device hbound⟩
  case anchored =>
    intro _ item hitem
    rw [hcadence] at hitem
    have hkey := ((rebindPolicy_coversExactly hrebind).keys_iff item.key).mp
      (List.mem_map_of_mem hitem)
    obtain ⟨row, hrow, hsame⟩ := List.mem_map.mp hkey
    obtain ⟨device, hdev, rfl⟩ := List.mem_map.mp hrow
    rw [← hdevs] at hdev
    exact .inr ⟨device, hdev, congrArg Prod.fst hsame⟩
  case overrides =>
    rw [hcadence]
    exact rebindPolicy_overrides hrebind

def NamesStripped (busForUnit : Option (ℕ → Except RegistryFault String)) :
    Prop :=
  ∀ unitId busId, (busForUnit.getD fun _ => .ok defaultBusId) unitId = .ok busId → Stripped busId

theorem activeEnrollment_movesBuses {profile : EnrollmentProfile}
    {label : AuditOrigin} {units : List ℕ} {now : String}
    {busForUnit : Option (ℕ → Except RegistryFault String)}
    (hnames : NamesStripped busForUnit) (hbefore : before.Checked)
    (hpass : (activeEnrollment profile label units busForUnit now).run before =
      .ok (after, changes)) (hchanges : changes ≠ []) :
    MovesBuses configuration before after := by
  obtain ⟨added, hext⟩ := activeEnrollment_extends hpass hchanges
  obtain ⟨_, _, hovers, horigin, _⟩ := ensureDefaultsForDevices_spec
    hbefore.facts.cadence.keys_nodup hext.cadence
  constructor
  case device_origin =>
    intro device hdev
    rcases hext.device_cases hdev with hold | ⟨addition, hadd, rfl⟩
    · exact .inr ⟨device, hold, rfl, .inl rfl⟩
    · exact .inl (hnames _ _ (hext.additions.origin addition hadd).2.1)
  case device_kept =>
    exact fun old hold => ⟨old, hext.device_kept hold, rfl, .inl rfl⟩
  case anchored =>
    intro hanchored item hitem
    rcases horigin item hitem with hold | ⟨row, hrow, hsame⟩
    · refine (hanchored item hold).imp_right ?_
      rintro ⟨device, hdev, hbus⟩
      exact ⟨device, hext.device_kept hdev, hbus⟩
    · obtain ⟨device, hdev, rfl⟩ := List.mem_map.mp hrow
      exact .inr ⟨device, hdev, (congrArg Prod.fst hsame).symm⟩
  case overrides => exact hovers

end Passes

theorem assignedBus_stripped {topology : BusTopology} {unitId : ℕ}
    {busId : String} (hbus : busId ∈ topology.busesForUnit unitId) :
    Stripped busId :=
  BusTopology.configured_stripped (BusTopology.busesForUnit_configured hbus)

theorem namesStripped_of_assigns {topology : Option BusTopology}
    {busForUnit : Option (ℕ → Except RegistryFault String)}
    (hassigns : AssignsBuses topology busForUnit) (hnone : topology = none → busForUnit = none) :
    NamesStripped busForUnit := by
  intro unitId busId hbus
  cases htopology : topology with
  | none =>
    rw [hnone htopology] at hbus
    simp only [Option.getD_none, Except.ok.injEq] at hbus
    rw [← hbus]
    exact defaultBusId_stripped
  | some explicit =>
    exact assignedBus_stripped (hassigns explicit htopology unitId busId hbus)

theorem startupPasses_moveBuses (configuration : RegistryConfiguration) (clock : ℕ → String) :
    ∀ pass ∈ startupPasses configuration clock, ∀ before after changes,
      InventoryDocument.Checked before → pass.run before = .ok (after, changes) →
        changes ≠ [] → MovesBuses configuration before after := by
  have hconfigured : NamesStripped configuration.configuredBusForUnit := by
    refine namesStripped_of_assigns configuration.configuredBus_assigns ?_
    intro hnone
    unfold RegistryConfiguration.configuredBusForUnit
    rw [hnone]
    rfl
  have hpinned : ∀ busId, NamesStripped ((configuration.pinnedBusForUnit busId).or
        configuration.configuredBusForUnit) := by
    intro busId
    refine namesStripped_of_assigns (configuration.pinnedBus_assigns busId) ?_
    intro hnone
    unfold RegistryConfiguration.pinnedBusForUnit RegistryConfiguration.configuredBusForUnit
    rw [hnone]
    rfl
  intro pass hpass before after changes hbefore hrun hchanges
  simp only [startupPasses, List.mem_cons, List.not_mem_nil, or_false] at hpass
  rcases hpass with rfl | rfl | rfl | rfl | rfl | rfl | rfl
  · exact le01mpPass_movesBuses hrun hchanges
  · exact optIn_movesBuses hbefore hrun hchanges
  · exact optIn_movesBuses hbefore hrun hchanges
  · exact bindingPass_movesBuses hrun hchanges
  · exact activeEnrollment_movesBuses (hpinned _) hbefore hrun hchanges
  · exact activeEnrollment_movesBuses (hpinned _) hbefore hrun hchanges
  · exact activeEnrollment_movesBuses hconfigured hbefore hrun hchanges

theorem startupPasses_buses {configuration : RegistryConfiguration}
    {clock : ℕ → String} {document final : InventoryDocument}
    {commits : List (PassCommit InventoryDocument AuditChange AuditOrigin)}
    (hrun : runPasses (startupPasses configuration clock) document =
      .ok (final, commits)) (hchecked : document.Checked)
    (hanchored : document.DefaultsAnchored) (hovers : document.cadence.OverridesStripped) :
    final.Checked ∧ final.DefaultsAnchored ∧ final.cadence.OverridesStripped ∧
      (final.BusesSettle configuration ↔
        document.BusesSettle configuration) := by
  refine runPasses_keeps (P := fun current => current.Checked ∧
    current.DefaultsAnchored ∧ current.cadence.OverridesStripped ∧
    (current.BusesSettle configuration ↔ document.BusesSettle configuration))
    ?_ hrun ⟨hchecked, hanchored, hovers, Iff.rfl⟩
  intro pass hpass before after changes hbefore hres
  obtain ⟨hbeforeChecked, hbeforeAnchored, hbeforeOverrides, hiff⟩ := hbefore
  have hnext := startupPasses_revise configuration clock pass hpass _ _ _ hres
  by_cases hchanges : changes = []
  · rw [hnext.unchanged hchanges]
    exact ⟨hbeforeChecked, hbeforeAnchored, hbeforeOverrides, hiff⟩
  · have hmoves := startupPasses_moveBuses configuration clock pass hpass _ _ _
      hbeforeChecked hres hchanges
    refine ⟨hnext.checked hchanges, hmoves.anchored hbeforeAnchored, ?_,
      hmoves.busesSettle_iff.trans hiff⟩
    unfold CadencePolicy.OverridesStripped
    rw [hmoves.overrides]
    exact hbeforeOverrides

end Nexolab
