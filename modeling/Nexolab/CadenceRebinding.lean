import Nexolab.BusTopology
import Nexolab.DocumentValidity

/-!
# Polling intervals across a rebinding

Binding a registry to a topology moves devices between buses and gives every
family of a bus one default again.  The device which comes first on its new bus
decides that default.  The intervals of all devices survive exactly when every
device without an override had the default of that first device.
-/

namespace Nexolab

theorem CadencePolicy.familyDefaultInterval_of_find?
    {policy : CadencePolicy} {busId deviceFamily : String} {item : FamilyCadenceDefault}
    (hfind : policy.familyDefaults.find? (fun other =>
      FamilyCadenceDefault.key other = (busId, deviceFamily)) = some item) :
    policy.familyDefaultInterval busId deviceFamily = .ok item.intervalSeconds := by
  unfold CadencePolicy.familyDefaultInterval
  simp only [FamilyCadenceDefault.key, Prod.mk.injEq] at hfind
  rw [hfind]

variable {device : RegistryDevice}

theorem CadencePolicy.Valid.familyDefaultInterval_ok {policy : CadencePolicy} {busIds : List String}
    {devices : List RegistryDevice} (hvalid : policy.Valid busIds devices)
    (hdev : device ∈ devices) :
    ∃ interval, policy.familyDefaultInterval device.busId device.deviceFamily = .ok interval := by
  obtain ⟨item, hitem, hkey⟩ := List.mem_map.mp (hvalid.complete device hdev)
  have hfind := (find?_key_iff hvalid.keys_nodup).mpr ⟨hitem, hkey⟩
  exact ⟨_, CadencePolicy.familyDefaultInterval_of_find? hfind⟩

structure ReboundDefaults (defaults : Dictionary FamilyKey FamilyCadenceDefault) : Prop where
  keyed : defaults.Keyed FamilyCadenceDefault.key
  keys_nodup : defaults.keys.Nodup

section Rebinding

variable {policy : CadencePolicy} {oldDevices : List RegistryDevice}

theorem rebindingCandidates_of_old {device old : RegistryDevice} {interval : ℚ}
    (hold : oldDevices.find? (fun other => other.deviceId = device.deviceId) = some old)
    (hdefault : policy.familyDefaultInterval old.busId device.deviceFamily = .ok interval) :
    rebindingCandidates policy oldDevices device = [interval] := by
  unfold rebindingCandidates
  rw [hold]
  simp only [hdefault, Except.toOption]

theorem rebindDefault_cases {defaults after : Dictionary FamilyKey FamilyCadenceDefault}
    {device : RegistryDevice}
    (hstep : rebindDefault policy oldDevices defaults device = .ok after) :
    (∃ item, defaults.get? device.familyKey = some item ∧ after = defaults) ∨
      (∃ interval, defaults.get? device.familyKey = none ∧
        rebindingCandidates policy oldDevices device = [interval] ∧
        after = defaults.set device.familyKey
          ⟨device.busId, device.deviceFamily, interval⟩) := by
  unfold rebindDefault at hstep
  split at hstep
  next item hget =>
    rw [Except.ok.injEq] at hstep
    exact .inl ⟨item, hget, hstep.symm⟩
  next hget =>
    split at hstep
    next interval hcands =>
      rw [Except.ok.injEq] at hstep
      exact .inr ⟨interval, hget, hcands, hstep.symm⟩
    next => cases hstep

theorem ReboundDefaults.step {defaults after : Dictionary FamilyKey FamilyCadenceDefault}
    {device : RegistryDevice} (hdefs : ReboundDefaults defaults)
    (hstep : rebindDefault policy oldDevices defaults device = .ok after) :
    ReboundDefaults after := by
  rcases rebindDefault_cases hstep with ⟨_, _, rfl⟩ | ⟨interval, _, _, rfl⟩
  · exact hdefs
  · exact {
      keyed := hdefs.keyed.set
        (⟨device.busId, device.deviceFamily, interval⟩ : FamilyCadenceDefault)
      keys_nodup := Dictionary.set_keys_nodup _ hdefs.keys_nodup }

variable {defaults result : Dictionary FamilyKey FamilyCadenceDefault} {key : FamilyKey}
  {newDevices : List RegistryDevice}

theorem rebindDefaults_keeps {devices : List RegistryDevice}
    (hfold : devices.foldlM (rebindDefault policy oldDevices) defaults = .ok result)
    {item : FamilyCadenceDefault}
    (hget : defaults.get? key = some item) : result.get? key = some item := by
  refine foldlM_invariant (P := fun current => current.get? key = some item) ?_ hfold hget
  intro before device after hbefore hstep
  rcases rebindDefault_cases hstep with ⟨_, _, rfl⟩ | ⟨interval, hnone, _, rfl⟩
  · exact hbefore
  · have hother : device.familyKey ≠ key := by
      rintro rfl
      rw [hnone] at hbefore
      cases hbefore
    rw [Dictionary.get?_set, if_neg hother]
    exact hbefore

theorem rebindDefaults_first {devices : List RegistryDevice}
    (hfold : devices.foldlM (rebindDefault policy oldDevices) defaults = .ok result)
    (hnone : defaults.get? key = none) {first : RegistryDevice}
    (hfirst : devices.find? (fun device => device.familyKey = key) = some first) :
    ∃ interval, rebindingCandidates policy oldDevices first = [interval] ∧
      result.get? key = some ⟨first.busId, first.deviceFamily, interval⟩ := by
  induction devices generalizing defaults with
  | nil => cases hfirst
  | cons device rest ih =>
    obtain ⟨middle, hstep, hrest⟩ := foldlM_cons_eq_ok.mp hfold
    rw [List.find?_cons] at hfirst
    by_cases hkey : device.familyKey = key
    · simp only [hkey, decide_true] at hfirst
      cases hfirst
      rcases rebindDefault_cases hstep with
        ⟨_, hget, _⟩ | ⟨interval, _, hcands, rfl⟩
      · rw [hkey, hnone] at hget
        cases hget
      · refine ⟨interval, hcands, rebindDefaults_keeps hrest ?_⟩
        rw [Dictionary.get?_set, if_pos hkey]
    · simp only [hkey, decide_false] at hfirst
      refine ih hrest ?_ hfirst
      rcases rebindDefault_cases hstep with ⟨_, _, rfl⟩ | ⟨_, _, _, rfl⟩
      · exact hnone
      · rw [Dictionary.get?_set, if_neg hkey]
        exact hnone

theorem rebindPolicy_familyDefault {rebound : CadencePolicy}
    (hrebind : rebindPolicy policy oldDevices newDevices = .ok rebound) {first : RegistryDevice}
    (hfirst : newDevices.find? (fun device => device.familyKey = key) = some first) :
    ∃ interval, rebindingCandidates policy oldDevices first = [interval] ∧
      rebound.familyDefaultInterval key.1 key.2 = .ok interval := by
  unfold rebindPolicy at hrebind
  simp only [bind_eq_ok, pure_eq_ok] at hrebind
  obtain ⟨result, hfold, rfl⟩ := hrebind
  have hres : ReboundDefaults result :=
    foldlM_invariant (fun _ _ _ hbefore hstep => hbefore.step hstep) hfold
      ⟨by simp [Dictionary.Keyed], by simp [Dictionary.keys]⟩
  obtain ⟨interval, hcands, hget⟩ :=
    rebindDefaults_first hfold (Dictionary.get?_nil key) hfirst
  refine ⟨interval, hcands, ?_⟩
  have hnodup : (result.values.map FamilyCadenceDefault.key).Nodup := by
    rw [hres.keyed.values_map]
    exact hres.keys_nodup
  have hperm := List.perm_insertionSort defaultBefore result.values
  apply @CadencePolicy.familyDefaultInterval_of_find? _ _ _
    ⟨first.busId, first.deviceFamily, interval⟩
  rw [find?_key_perm hperm ((hperm.map _).nodup_iff.mpr hnodup), hres.keyed.find?_values]
  exact hget

theorem rebindPolicy_overrides {rebound : CadencePolicy}
    (hrebind : rebindPolicy policy oldDevices newDevices = .ok rebound) :
    rebound.deviceOverrides = policy.deviceOverrides := by
  unfold rebindPolicy at hrebind
  simp only [bind_eq_ok, pure_eq_ok] at hrebind
  obtain ⟨_, _, rfl⟩ := hrebind
  rfl

end Rebinding

theorem AcquisitionRegistry.device_of_mem {registry : AcquisitionRegistry}
    (hdev : device ∈ registry.document.devices) :
    registry.device device.deviceId = .ok device := by
  unfold AcquisitionRegistry.device
  have hfind := (find?_key_iff registry.deviceIds_nodup).mpr ⟨hdev, rfl⟩
  rw [hfind]

def CadencePolicy.deviceInterval (policy : CadencePolicy)
    (device : RegistryDevice) : Except RegistryError ℚ :=
  match policy.deviceOverrides.find? fun item =>
      item.deviceId = device.deviceId with
  | some item => .ok item.intervalSeconds
  | none => policy.familyDefaultInterval device.busId device.deviceFamily

theorem CadencePolicy.effectiveInterval_map (policy : CadencePolicy) (device : RegistryDevice) :
    (policy.effectiveInterval device.deviceId device.busId
      device.deviceFamily).map Prod.fst = policy.deviceInterval device := by
  unfold CadencePolicy.effectiveInterval CadencePolicy.deviceInterval
  cases policy.deviceOverrides.find? fun item =>
      item.deviceId = device.deviceId with
  | some item => rfl
  | none =>
    cases policy.familyDefaultInterval device.busId device.deviceFamily with
    | error error => rfl
    | ok interval => rfl

theorem CadencePolicy.deviceInterval_overridden {policy : CadencePolicy}
    (hnodup : (policy.deviceOverrides.map DeviceCadenceOverride.deviceId).Nodup)
    {item : DeviceCadenceOverride} (hitem : item ∈ policy.deviceOverrides)
    (hid : item.deviceId = device.deviceId) :
    policy.deviceInterval device = .ok item.intervalSeconds := by
  unfold deviceInterval
  rw [(find?_key_iff hnodup).mpr ⟨hitem, hid⟩]

theorem CadencePolicy.deviceInterval_inherited {policy : CadencePolicy}
    (hinherited : device.deviceId ∉ policy.deviceOverrides.map DeviceCadenceOverride.deviceId) :
    policy.deviceInterval device =
      policy.familyDefaultInterval device.busId device.deviceFamily := by
  unfold deviceInterval
  have hnone : policy.deviceOverrides.find? (fun item =>
      item.deviceId = device.deviceId) = none := by
    rw [List.find?_eq_none]
    intro item hitem hsame
    exact hinherited (List.mem_map.mpr ⟨item, hitem, by simpa using hsame⟩)
  rw [hnone]

theorem InventoryRegistry.rows_nodup (registry : InventoryRegistry) :
    (registry.document.rows.map RegistryDevice.deviceId).Nodup := by
  rw [InventoryDocument.rows_deviceIds]
  exact registry.facts.deviceIds_nodup

def InventoryRegistry.effectiveInterval (registry : InventoryRegistry)
    (deviceId : String) : Except RegistryError ℚ :=
  (registry.toAcquisitionRegistry.effectiveCadenceForDevice deviceId).map Prod.fst

theorem InventoryRegistry.effectiveInterval_eq (registry : InventoryRegistry)
    {device : InventoryDevice} (hdev : device ∈ registry.document.devices) :
    registry.effectiveInterval device.deviceId =
      registry.document.cadence.deviceInterval device.toRegistryDevice := by
  have hrow : device.toRegistryDevice ∈ registry.toAcquisitionRegistry.document.devices :=
    List.mem_map_of_mem hdev
  rw [← CadencePolicy.effectiveInterval_map]
  unfold effectiveInterval AcquisitionRegistry.effectiveCadenceForDevice
  rw [AcquisitionRegistry.device_of_mem hrow]
  rfl

/-! ## Binding a registry -/

namespace BusTopology

variable {topology : BusTopology}

def boundFamilyKey (topology : BusTopology) (device : InventoryDevice) :
    Option FamilyKey :=
  match topology.busOfDevice device with
  | .ok (busId, _) => some (busId, device.deviceFamily)
  | .error _ => none

/-- Every device without an override had the default of the first device of
its family on the bus the topology gives it. -/
def KeepsDefaults (topology : BusTopology) (document : InventoryDocument) :
    Prop :=
  ∀ device ∈ document.devices, device.deviceId ∉ document.cadence.deviceOverrides.map
      DeviceCadenceOverride.deviceId →
    ∀ first, document.devices.find? (fun other =>
        topology.boundFamilyKey other = topology.boundFamilyKey device) =
        some first →
      document.cadence.familyDefaultInterval first.busId first.deviceFamily =
        document.cadence.familyDefaultInterval device.busId device.deviceFamily

/-- A bound device is the device on the bus the topology gives it. -/
structure Bound (topology : BusTopology) (before after : InventoryDevice) :
    Prop where
  key : topology.boundFamilyKey before = some after.toRegistryDevice.familyKey
  eq : after = { before with busId := after.busId }

theorem bound_of_bindDevice {device : InventoryDevice} {entry : InventoryDevice × Bool}
    (hbind : topology.bindDevice device = .ok entry) :
    topology.Bound device entry.1 := by
  unfold bindDevice at hbind
  simp only [bind_eq_ok, pure_eq_ok] at hbind
  obtain ⟨⟨busId, retained⟩, hbus, rfl⟩ := hbind
  constructor
  case key =>
    unfold boundFamilyKey
    rw [hbus]
    rfl
  case eq => rfl

variable {registry bound : InventoryRegistry}

theorem bindRegistry_document (hexplicit : topology.explicit = true)
    (hbind : topology.bindRegistry registry = .ok bound) :
    topology.bindDocument registry.document = .ok bound.document := by
  unfold bindRegistry at hbind
  rw [if_pos hexplicit, bind_eq_ok] at hbind
  obtain ⟨document, hdoc, hregistry⟩ := hbind
  rw [InventoryRegistry.of_eq_ok hregistry]
  exact hdoc

theorem bindDocument_devices {document bound : InventoryDocument}
    (hbind : topology.bindDocument document = .ok bound) :
    List.Forall₂ topology.Bound document.devices bound.devices := by
  unfold bindDocument at hbind
  simp only [bind_eq_ok, pure_eq_ok] at hbind
  obtain ⟨entries, hents, _, _, rfl⟩ := hbind
  rw [List.forall₂_map_right_iff]
  exact (forall₂_of_mapM_ok hents).imp fun _ _ => bound_of_bindDevice

theorem bindDocument_cadence {document bound : InventoryDocument}
    (hbind : topology.bindDocument document = .ok bound) :
    rebindPolicy document.cadence document.rows bound.rows = .ok bound.cadence := by
  unfold bindDocument at hbind
  simp only [bind_eq_ok, pure_eq_ok] at hbind
  obtain ⟨_, _, _, hcadence, rfl⟩ := hbind
  exact hcadence

theorem find?_bound {document bound : InventoryDocument}
    (hdevs : List.Forall₂ topology.Bound document.devices bound.devices) (key : FamilyKey) :
    Option.Rel topology.Bound (document.devices.find? fun device =>
        topology.boundFamilyKey device = some key)
      (bound.devices.find? fun device =>
        device.toRegistryDevice.familyKey = key) := by
  refine find?_forall₂ hdevs ?_
  intro before after hbound
  rw [hbound.key]
  simp only [Option.some.injEq]

theorem bound_familyDefault (hbind : topology.bindDocument registry.document = .ok bound.document)
    {before after : InventoryDevice} (hbound : topology.Bound before after)
    (hafter : after ∈ bound.document.devices) :
    ∃ first, registry.document.devices.find? (fun other =>
        topology.boundFamilyKey other = topology.boundFamilyKey before) =
        some first ∧
      bound.document.cadence.familyDefaultInterval after.busId after.deviceFamily =
        registry.document.cadence.familyDefaultInterval first.busId
          first.deviceFamily := by
  have hcadence := bindDocument_cadence hbind
  have hfirst := find?_bound (bindDocument_devices hbind) after.toRegistryDevice.familyKey
  have hpresent : bound.document.devices.find? (fun device =>
      device.toRegistryDevice.familyKey = after.toRegistryDevice.familyKey) ≠
      none := by
    rw [Ne, List.find?_eq_none]
    intro habsent
    exact habsent after hafter (by simp)
  rw [hbound.key]
  generalize hold : registry.document.devices.find? _ = old at hfirst ⊢
  generalize hnew : bound.document.devices.find? _ = new at hfirst hpresent
  cases hfirst with
  | none => exact absurd rfl hpresent
  | some hrelated =>
    rename_i first moved
    refine ⟨first, rfl, ?_⟩
    have hmoved : bound.document.rows.find? (fun device =>
        device.familyKey = after.toRegistryDevice.familyKey) =
        some moved.toRegistryDevice := by
      unfold InventoryDocument.rows
      rw [List.find?_map]
      exact congrArg (Option.map InventoryDevice.toRegistryDevice) hnew
    obtain ⟨interval, hcands, hdefault⟩ :=
      rebindPolicy_familyDefault hcadence hmoved
    have hmem := List.mem_of_find?_eq_some hold
    have hrow : first.toRegistryDevice ∈ registry.document.rows :=
      List.mem_map_of_mem hmem
    obtain ⟨former, hformer⟩ :=
      registry.facts.cadence.familyDefaultInterval_ok hrow
    have hsame := hrelated.eq
    have hid : moved.deviceId = first.deviceId := by rw [hsame]
    have hfam : moved.deviceFamily = first.deviceFamily := by rw [hsame]
    have hlookup : registry.document.rows.find? (fun other =>
        other.deviceId = moved.deviceId) = some first.toRegistryDevice := by
      rw [hid]
      exact (find?_key_iff registry.rows_nodup).mpr ⟨hrow, rfl⟩
    rw [rebindingCandidates_of_old hlookup (hfam ▸ hformer)] at hcands
    rw [List.singleton_inj] at hcands
    rw [hformer, hcands]
    exact hdefault

theorem bound_interval (hbind : topology.bindDocument registry.document = .ok bound.document)
    {device : InventoryDevice} (hdev : device ∈ registry.document.devices) :
    (device.deviceId ∈ registry.document.cadence.deviceOverrides.map
        DeviceCadenceOverride.deviceId → bound.effectiveInterval device.deviceId =
        registry.effectiveInterval device.deviceId) ∧
    (device.deviceId ∉ registry.document.cadence.deviceOverrides.map
        DeviceCadenceOverride.deviceId →
      ∃ first, registry.document.devices.find? (fun other =>
          topology.boundFamilyKey other = topology.boundFamilyKey device) =
          some first ∧
        bound.effectiveInterval device.deviceId =
          registry.document.cadence.familyDefaultInterval first.busId
            first.deviceFamily) := by
  have hovers := rebindPolicy_overrides (bindDocument_cadence hbind)
  obtain ⟨after, hafter, hbound⟩ :=
    exists_of_forall₂ (bindDocument_devices hbind) hdev
  have hid : after.deviceId = device.deviceId := by rw [hbound.eq]
  have hlater := bound.effectiveInterval_eq hafter
  rw [hid] at hlater
  constructor
  · intro hoverridden
    obtain ⟨item, hitem, hitemId⟩ := List.mem_map.mp hoverridden
    rw [hlater, registry.effectiveInterval_eq hdev, CadencePolicy.deviceInterval_overridden
        registry.facts.cadence.overrides_nodup hitem hitemId,
      CadencePolicy.deviceInterval_overridden
        bound.facts.cadence.overrides_nodup (hovers ▸ hitem) (hitemId.trans hid.symm)]
  · intro hinherited
    obtain ⟨first, hfirst, hdefault⟩ := bound_familyDefault hbind hbound hafter
    refine ⟨first, hfirst, ?_⟩
    rw [hlater, CadencePolicy.deviceInterval_inherited, hdefault]
    rw [hovers]
    exact hid ▸ hinherited

/-- Every device keeps its effective interval exactly when the first device of
each family on a bus had the default of all the others which are moved there
without an override. -/
theorem bindRegistry_keepsIntervals_iff
    (hexplicit : topology.explicit = true)
    (hbind : topology.bindRegistry registry = .ok bound) :
    (∀ device ∈ registry.document.devices, bound.effectiveInterval device.deviceId =
          registry.effectiveInterval device.deviceId) ↔
      topology.KeepsDefaults registry.document := by
  have hdoc := bindRegistry_document hexplicit hbind
  have hbefore : ∀ device ∈ registry.document.devices,
      device.deviceId ∉ registry.document.cadence.deviceOverrides.map
        DeviceCadenceOverride.deviceId →
      registry.effectiveInterval device.deviceId =
        registry.document.cadence.familyDefaultInterval device.busId
          device.deviceFamily := by
    intro device hdev hinherited
    rw [registry.effectiveInterval_eq hdev]
    exact CadencePolicy.deviceInterval_inherited hinherited
  constructor
  · intro hkeeps device hdev hinherited first hfirst
    obtain ⟨found, hfound, hlater⟩ :=
      (bound_interval hdoc hdev).2 hinherited
    have hsame : found = first := by
      rw [hfirst] at hfound
      exact (Option.some.inj hfound).symm
    rw [← hsame, ← hlater, ← hbefore device hdev hinherited]
    exact hkeeps device hdev
  · intro hkeeps device hdev
    obtain ⟨hoverride, hdefault⟩ := bound_interval hdoc hdev
    by_cases hoverridden : device.deviceId ∈
        registry.document.cadence.deviceOverrides.map DeviceCadenceOverride.deviceId
    · exact hoverride hoverridden
    · obtain ⟨first, hfirst, hlater⟩ := hdefault hoverridden
      rw [hlater, hbefore device hdev hoverridden]
      exact hkeeps device hdev hoverridden first hfirst

/-! ### Two families which come to share a bus -/

def coldRoomDevice (busId deviceId : String) (unitId : ℕ) : InventoryDevice :=
  { deviceId, busId, deviceFamily := "xjp60d",
    unitId := unitId, lifecycle := "active", profileVersion := "v1" }

def separateDocument : InventoryDocument where
  schemaVersion := 2
  revision := 1
  buses := [⟨"a", "modbus_rtu", true⟩, ⟨"b", "modbus_rtu", true⟩]
  devices := [coldRoomDevice "a" "x1" 1, coldRoomDevice "b" "x2" 2]
  targets := []
  cadence := ⟨[⟨"a", "xjp60d", 10⟩, ⟨"b", "xjp60d", 60⟩], []⟩
  updatedAt := ""

def mergedDocument : InventoryDocument :=
  { separateDocument with
    buses := [⟨"b", "modbus_rtu", true⟩]
    devices := [coldRoomDevice "b" "x1" 1, coldRoomDevice "b" "x2" 2]
    cadence := ⟨[⟨"b", "xjp60d", 10⟩], []⟩ }

def separateRegistry : InventoryRegistry where
  document := separateDocument
  valid := by decide +kernel

def mergedRegistry : InventoryRegistry where
  document := mergedDocument
  valid := by decide +kernel

def mergingTopology : BusTopology where
  bindings := [⟨"b", [1, 2]⟩]
  explicit := true
  bindings_ne := by simp
  busIds_nodup := by simp
  busIds_stripped := by decide +kernel

theorem mergingTopology_binds :
    mergingTopology.bindRegistry separateRegistry = .ok mergedRegistry := by
  have hdoc : mergingTopology.bindDocument separateDocument =
      .ok mergedDocument := by decide +kernel
  unfold bindRegistry
  rw [if_pos (by rfl), bind_eq_ok]
  exact ⟨mergedDocument, hdoc, InventoryRegistry.of_valid mergedRegistry.valid⟩

theorem mergingTopology_accelerates :
    mergingTopology.explicit = true ∧
      mergingTopology.bindRegistry separateRegistry = .ok mergedRegistry ∧
      separateRegistry.effectiveInterval "x2" = .ok 60 ∧
      mergedRegistry.effectiveInterval "x2" = .ok 10 ∧
      mergedRegistry.document.cadence.deviceOverrides = [] := by
  refine ⟨rfl, mergingTopology_binds, ?_, ?_, rfl⟩
  · decide +kernel
  · decide +kernel

theorem mergingTopology_keepsIntervals_iff :
    (∀ device ∈ separateDocument.devices,
        mergedRegistry.effectiveInterval device.deviceId =
          separateRegistry.effectiveInterval device.deviceId) ↔
      mergingTopology.KeepsDefaults separateDocument :=
  bindRegistry_keepsIntervals_iff rfl mergingTopology_binds

end BusTopology

end Nexolab
