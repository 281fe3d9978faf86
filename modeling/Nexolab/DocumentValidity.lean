import Nexolab.InventoryDocument

/-!
# What a checked document satisfies

`validateDocument` walks through the document once and raises at the first
fault.  The facts it has established when it returns are collected here; the
view of the document which the scheduler reads is a registry by them.
-/

namespace Nexolab

theorem checkInterval_eq_ok {value result : ℚ} {label : String} :
    checkInterval value label = .ok result ↔
      (cadenceMinSeconds ≤ value ∧ value ≤ cadenceMaxSeconds) ∧ value = result := by
  unfold checkInterval
  split_ifs with hbounds
  · simp [hbounds]
  · simp [hbounds]

/-! ## The loops of the check -/

theorem nodup_map_cons {α β : Type} {f : α → β} {first : α} {rest : List α}
    (hnodup : (rest.map f).Nodup) (hdistinct : ∀ other ∈ rest, f other ≠ f first) :
    ((first :: rest).map f).Nodup := by
  rw [List.map_cons, List.nodup_cons]
  refine ⟨?_, hnodup⟩
  intro hmem
  obtain ⟨other, hother, hsame⟩ := List.mem_map.mp hmem
  exact hdistinct other hother hsame

theorem checkFamilyDefaults_spec {knownBuses : List String}
    {seen result : List FamilyKey} {defaults : List FamilyCadenceDefault}
    (hcheck : checkFamilyDefaults knownBuses seen defaults = .ok result) :
    (∀ key, key ∈ result ↔ key ∈ seen ∨ key ∈ defaults.map (·.key)) ∧
      (defaults.map FamilyCadenceDefault.key).Nodup ∧
      (∀ item ∈ defaults, item.key ∉ seen ∧ item.busId ∈ knownBuses ∧
        item.deviceFamily ∈ supportedDeviceFamilies ∧
        cadenceMinSeconds ≤ item.intervalSeconds ∧
        item.intervalSeconds ≤ cadenceMaxSeconds) := by
  induction defaults generalizing seen with
  | nil =>
    cases hcheck
    simp
  | cons item rest ih =>
    simp only [checkFamilyDefaults, bind_eq_ok, refuseIf_eq_ok,
      checkInterval_eq_ok, not_not] at hcheck
    obtain ⟨_, hnew, _, hbus, _, hfam, _, ⟨hbounds, _⟩, hrest⟩ := hcheck
    obtain ⟨hres, hnodup, hitems⟩ := ih hrest
    refine ⟨?_, ?_, ?_⟩
    · intro key
      rw [hres key, List.map_cons, List.mem_cons, List.mem_cons, or_assoc, or_left_comm]
    · refine nodup_map_cons hnodup fun other hother hkey => ?_
      exact (hitems other hother).1 (hkey ▸ List.mem_cons_self)
    · intro other hother
      rcases List.mem_cons.mp hother with rfl | hmem
      · exact ⟨hnew, hbus, hfam, hbounds⟩
      · obtain ⟨hseen, hfacts⟩ := hitems other hmem
        exact ⟨fun hin => hseen (List.mem_cons_of_mem _ hin), hfacts⟩

theorem checkDeviceOverrides_spec {knownDevices seen : List String}
    {overrides : List DeviceCadenceOverride} {checked : Unit}
    (hcheck : checkDeviceOverrides knownDevices seen overrides = .ok checked) :
    (overrides.map DeviceCadenceOverride.deviceId).Nodup ∧
      (∀ item ∈ overrides, item.deviceId ∉ seen ∧ item.deviceId ∈ knownDevices ∧
        cadenceMinSeconds ≤ item.intervalSeconds ∧
        item.intervalSeconds ≤ cadenceMaxSeconds) := by
  induction overrides generalizing seen with
  | nil => simp
  | cons item rest ih =>
    simp only [checkDeviceOverrides, bind_eq_ok, refuseIf_eq_ok,
      checkInterval_eq_ok, not_not] at hcheck
    obtain ⟨_, hnew, _, hdev, _, ⟨hbounds, _⟩, hrest⟩ := hcheck
    obtain ⟨hnodup, hitems⟩ := ih hrest
    constructor
    · refine nodup_map_cons hnodup fun other hother hid => ?_
      exact (hitems other hother).1 (hid ▸ List.mem_cons_self)
    · intro other hother
      rcases List.mem_cons.mp hother with rfl | hmem
      · exact ⟨hnew, hdev, hbounds⟩
      · obtain ⟨hseen, hfacts⟩ := hitems other hmem
        exact ⟨fun hin => hseen (List.mem_cons_of_mem _ hin), hfacts⟩

structure CadencePolicy.Valid (policy : CadencePolicy) (busIds : List String)
    (devices : List RegistryDevice) : Prop where
  keys_nodup : (policy.familyDefaults.map FamilyCadenceDefault.key).Nodup
  buses : ∀ item ∈ policy.familyDefaults, item.busId ∈ busIds
  families : ∀ item ∈ policy.familyDefaults, item.deviceFamily ∈ supportedDeviceFamilies
  complete : ∀ device ∈ devices,
    device.familyKey ∈ policy.familyDefaults.map FamilyCadenceDefault.key
  overrides_nodup :
    (policy.deviceOverrides.map DeviceCadenceOverride.deviceId).Nodup
  overrides_known : ∀ item ∈ policy.deviceOverrides,
    item.deviceId ∈ devices.map RegistryDevice.deviceId
  bounded : ∀ interval ∈ policy.intervals,
    cadenceMinSeconds ≤ interval ∧ interval ≤ cadenceMaxSeconds

theorem validatePolicy_spec {policy : CadencePolicy} {busIds : List String}
    {devices : List RegistryDevice} {checked : Unit}
    (hcheck : validatePolicy policy busIds devices = .ok checked) :
    policy.Valid busIds devices := by
  simp only [validatePolicy, bind_eq_ok, refuseIf_eq_ok, not_not] at hcheck
  obtain ⟨defaults, hdefs, _, hmissing, hovers⟩ := hcheck
  obtain ⟨hres, hkeys, hitems⟩ := checkFamilyDefaults_spec hdefs
  obtain ⟨hids, hoverride⟩ := checkDeviceOverrides_spec hovers
  constructor
  case keys_nodup => exact hkeys
  case buses => exact fun item hmem => (hitems item hmem).2.1
  case families => exact fun item hmem => (hitems item hmem).2.2.1
  case complete =>
    intro device hdev
    by_contra habsent
    have hmem : device.familyKey ∈ ((devices.map RegistryDevice.familyKey).dedup
        |>.filter fun key => decide (key ∉ defaults)).insertionSort
          familyKeyBefore := by
      rw [List.mem_insertionSort, List.mem_filter, List.mem_dedup]
      refine ⟨List.mem_map_of_mem hdev, ?_⟩
      rw [decide_eq_true_eq, hres]
      simpa using habsent
    rw [hmissing] at hmem
    cases hmem
  case overrides_nodup => exact hids
  case overrides_known => exact fun item hmem => (hoverride item hmem).2.1
  case bounded =>
    intro interval hmem
    rcases List.mem_append.mp hmem with hdefault | hoverridden
    · obtain ⟨item, hitem, rfl⟩ := List.mem_map.mp hdefault
      exact (hitems item hitem).2.2.2
    · obtain ⟨item, hitem, rfl⟩ := List.mem_map.mp hoverridden
      exact (hoverride item hitem).2.2

theorem checkBuses_spec {seen result : List String} {buses : List InventoryBus}
    (hcheck : checkBuses seen buses = .ok result) :
    (∀ busId, busId ∈ result ↔ busId ∈ seen ∨ busId ∈ buses.map InventoryBus.busId) ∧
      (buses.map InventoryBus.busId).Nodup ∧
      (∀ bus ∈ buses, bus.busId ∉ seen ∧ stripText bus.busId ≠ "" ∧
        bus.protocol = "modbus_rtu" ∧ bus.readOnly = true) := by
  induction buses generalizing seen with
  | nil =>
    cases hcheck
    simp
  | cons bus rest ih =>
    simp only [checkBuses, bind_eq_ok, refuseIf_eq_ok, not_or, not_not] at hcheck
    obtain ⟨_, hblank, _, hnew, _, hprotocol, hrest⟩ := hcheck
    obtain ⟨hres, hnodup, hitems⟩ := ih hrest
    refine ⟨?_, ?_, ?_⟩
    · intro busId
      rw [hres busId, List.map_cons, List.mem_cons, List.mem_cons, or_assoc, or_left_comm]
    · refine nodup_map_cons hnodup fun other hother hid => ?_
      exact (hitems other hother).1 (hid ▸ List.mem_cons_self)
    · intro other hother
      rcases List.mem_cons.mp hother with rfl | hmem
      · exact ⟨hnew, hblank, hprotocol⟩
      · obtain ⟨hseen, hfacts⟩ := hitems other hmem
        exact ⟨fun hin => hseen (List.mem_cons_of_mem _ hin), hfacts⟩

theorem checkDevices_spec {buses : List String} {seen result devices : List InventoryDevice}
    (hcheck : checkDevices buses seen devices = .ok result) :
    result = devices.reverse ++ seen ∧ (devices.map (·.deviceId)).Nodup ∧
      (devices.map InventoryDevice.identity).Nodup ∧
      (∀ device ∈ devices, device.deviceId ∉ seen.map (·.deviceId) ∧
        device.identity ∉ seen.map InventoryDevice.identity ∧
        device.busId ∈ buses ∧ (1 ≤ device.unitId ∧ device.unitId ≤ 247) ∧
        device.deviceFamily ∈ supportedDeviceFamilies ∧
        ∃ lifecycle, validateLifecycle device.lifecycle = .ok lifecycle) := by
  induction devices generalizing seen with
  | nil =>
    cases hcheck
    simp
  | cons device rest ih =>
    simp only [checkDevices, bind_eq_ok, refuseIf_eq_ok, not_not] at hcheck
    obtain ⟨_, hid, _, hbus, _, hunit, _, hidentity, _, hfam, _, _,
      lifecycle, hlife, hrest⟩ := hcheck
    obtain ⟨hres, hids, hidentities, hitems⟩ := ih hrest
    refine ⟨?_, ?_, ?_, ?_⟩
    · rw [hres, List.reverse_cons, List.append_assoc, List.singleton_append]
    · refine nodup_map_cons hids fun other hother hsame => ?_
      exact (hitems other hother).1 (by simp [hsame])
    · refine nodup_map_cons hidentities fun other hother hsame => ?_
      exact (hitems other hother).2.1 (by simp [hsame])
    · intro other hother
      rcases List.mem_cons.mp hother with rfl | hmem
      · exact ⟨hid, hidentity, hbus, hunit, hfam, lifecycle, hlife⟩
      · obtain ⟨hseenId, hseenIdentity, hfacts⟩ := hitems other hmem
        refine ⟨fun hin => hseenId ?_, fun hin => hseenIdentity ?_, hfacts⟩
        · exact List.mem_cons_of_mem _ hin
        · exact List.mem_cons_of_mem _ hin

theorem checkTargets_spec {devices : List InventoryDevice}
    {targetIds : List String} {telemetryIds : List (String × String)}
    {targets : List InventoryTarget} {checked : Unit}
    (hcheck : checkTargets devices targetIds telemetryIds targets = .ok checked) :
    (targets.map (·.targetId)).Nodup ∧
      (∀ target ∈ targets, target.targetId ∉ targetIds ∧
        target.deviceId ∈ devices.map (·.deviceId) ∧
        ∃ lifecycle, validateLifecycle target.lifecycle = .ok lifecycle) := by
  induction targets generalizing targetIds telemetryIds with
  | nil => simp
  | cons target rest ih =>
    simp only [checkTargets, bind_eq_ok, refuseIf_eq_ok, not_not] at hcheck
    obtain ⟨_, hnew, device, hdev, _, _, _, _, _, _, _, _, lifecycle, hlife, _, _, hrest⟩ := hcheck
    obtain ⟨hnodup, hitems⟩ := ih hrest
    have howner : target.deviceId ∈ devices.map (·.deviceId) := by
      unfold targetOwner at hdev
      split at hdev
      next => cases hdev
      next found hfind =>
        have hid := List.find?_some hfind
        have hmem := List.mem_of_find?_eq_some hfind
        exact List.mem_map.mpr ⟨found, hmem, by simpa using hid⟩
    constructor
    · refine nodup_map_cons hnodup fun other hother hsame => ?_
      exact (hitems other hother).1 (by simp [hsame])
    · intro other hother
      rcases List.mem_cons.mp hother with rfl | hmem
      · exact ⟨hnew, howner, lifecycle, hlife⟩
      · obtain ⟨hseen, hfacts⟩ := hitems other hmem
        exact ⟨fun hin => hseen (List.mem_cons_of_mem _ hin), hfacts⟩

/-- The facts about a checked document which the rest of the registry code
relies on. -/
structure InventoryDocument.Valid (document : InventoryDocument) : Prop where
  revision_pos : 1 ≤ document.revision
  schema : document.schemaVersion = currentSchemaVersion
  busIds_nodup : document.busIds.Nodup
  buses_named : ∀ bus ∈ document.buses, stripText bus.busId ≠ ""
  buses_readOnly : ∀ bus ∈ document.buses, bus.protocol = "modbus_rtu" ∧ bus.readOnly = true
  deviceIds_nodup : (document.devices.map (·.deviceId)).Nodup
  identities_nodup : (document.devices.map InventoryDevice.identity).Nodup
  device_buses : ∀ device ∈ document.devices, device.busId ∈ document.busIds
  device_families : ∀ device ∈ document.devices, device.deviceFamily ∈ supportedDeviceFamilies
  cadence : document.cadence.Valid document.busIds document.rows
  targetIds_nodup : (document.targets.map (·.targetId)).Nodup
  target_owners : ∀ target ∈ document.targets, target.deviceId ∈ document.devices.map (·.deviceId)

theorem CadencePolicy.Valid.congr_buses {policy : CadencePolicy}
    {busIds others : List String} {devices : List RegistryDevice}
    (hvalid : policy.Valid busIds devices) (hsame : ∀ busId, busId ∈ busIds → busId ∈ others) :
    policy.Valid others devices :=
  { hvalid with
    buses := fun item hmem => hsame _ (hvalid.buses item hmem) }

theorem InventoryDocument.valid_of_validate {document checked : InventoryDocument}
    (hcheck : validateDocument document = .ok checked) : document.Valid := by
  simp only [validateDocument, bind_eq_ok, refuseIf_eq_ok, not_not, not_lt] at hcheck
  obtain ⟨_, hschema, _, hrev, buses, hbuses, devices, hdevs, _, hpolicy, _, htargets, _⟩ := hcheck
  obtain ⟨hbusIds, hbusNodup, hbusFacts⟩ := checkBuses_spec hbuses
  obtain ⟨rfl, hids, hidentities, hfacts⟩ := checkDevices_spec hdevs
  obtain ⟨htargetIds, howners⟩ := checkTargets_spec htargets
  have hknown : ∀ busId, busId ∈ buses → busId ∈ document.busIds := by
    intro busId hmem
    simpa [InventoryDocument.busIds] using (hbusIds busId).mp hmem
  constructor
  case revision_pos => exact hrev
  case schema => exact hschema
  case busIds_nodup => exact hbusNodup
  case buses_named => exact fun bus hmem => (hbusFacts bus hmem).2.1
  case buses_readOnly => exact fun bus hmem => (hbusFacts bus hmem).2.2
  case deviceIds_nodup => exact hids
  case identities_nodup => exact hidentities
  case device_buses =>
    exact fun device hmem => hknown _ (hfacts device hmem).2.2.1
  case device_families =>
    exact fun device hmem => (hfacts device hmem).2.2.2.2.1
  case cadence => exact (validatePolicy_spec hpolicy).congr_buses hknown
  case targetIds_nodup => exact htargetIds
  case target_owners =>
    intro target hmem
    simpa using (howners target hmem).2.1

def InventoryDocument.Checked (document : InventoryDocument) : Prop :=
  validateDocument document = .ok document

theorem InventoryDocument.checked_of_validate {document checked : InventoryDocument}
    (hvalidate : validateDocument document = .ok checked) : checked.Checked := by
  have hsame := validateDocument_eq hvalidate
  subst hsame
  exact hvalidate

variable {document : InventoryDocument}

theorem InventoryDocument.Checked.facts (hchecked : document.Checked) : document.Valid :=
  valid_of_validate hchecked

theorem InventoryRegistry.facts (registry : InventoryRegistry) :
    registry.document.Valid :=
  InventoryDocument.valid_of_validate registry.valid

theorem InventoryRegistry.of_eq_ok {registry : InventoryRegistry}
    (hregistry : InventoryRegistry.of document = .ok registry) :
    registry.document = document := by
  unfold InventoryRegistry.of at hregistry
  split at hregistry
  next => cases hregistry
  next =>
    rw [Except.ok.injEq] at hregistry
    rw [← hregistry]

theorem InventoryRegistry.of_valid (hvalid : validateDocument document = .ok document) :
    InventoryRegistry.of document = .ok ⟨document, hvalid⟩ := by
  unfold InventoryRegistry.of
  split
  next fault hfault =>
    rw [hvalid] at hfault
    cases hfault
  next => rfl

theorem InventoryDocument.rows_deviceIds (document : InventoryDocument) :
    document.rows.map RegistryDevice.deviceId = document.devices.map (·.deviceId) := by
  unfold InventoryDocument.rows
  rw [List.map_map]
  rfl

def InventoryRegistry.toAcquisitionRegistry (registry : InventoryRegistry) :
    AcquisitionRegistry where
  document := registry.document.toRegistryDocument
  deviceIds_nodup := by
    change (registry.document.rows.map RegistryDevice.deviceId).Nodup
    rw [InventoryDocument.rows_deviceIds]
    exact registry.facts.deviceIds_nodup
  targetIds_nodup := by
    change ((registry.document.targets.map
      InventoryTarget.toRegistryTarget).map RegistryTarget.targetId).Nodup
    rw [List.map_map]
    exact registry.facts.targetIds_nodup
  intervals_bounded := registry.facts.cadence.bounded

end Nexolab
