import Nexolab.CadenceRebinding
import Nexolab.RegistryPasses

/-!
# Binding a bound registry

Binding leaves a registry alone which is bound already.  Its devices are on
their buses, the entries of retained buses are found again, and the rebound
policy covers the families of the devices exactly, in order: rebinding such a
policy to the same devices gives it back.
-/

namespace Nexolab

theorem familyKeyBefore_antisymm {left right : FamilyKey} (hbefore : familyKeyBefore left right)
    (hafter : familyKeyBefore right left) : left = right := by
  rcases hbefore with hlt | ⟨hbus, hfam⟩
  · rcases hafter with hgt | ⟨hbus, _⟩
    · exact absurd hgt (String.lt_asymm hlt)
    · rw [hbus] at hlt
      exact absurd hlt (String.lt_irrefl _)
  · rcases hafter with hgt | ⟨_, hother⟩
    · rw [hbus] at hgt
      exact absurd hgt (String.lt_irrefl _)
    · exact Prod.ext hbus (String.le_antisymm hfam hother)

instance : Std.Total defaultBefore where
  total left right := by
    unfold defaultBefore familyKeyBefore
    by_cases hlt : left.key.1 < right.key.1
    · exact .inl (.inl hlt)
    · by_cases hgt : right.key.1 < left.key.1
      · exact .inr (.inl hgt)
      · have hbus := String.le_antisymm (String.not_lt.mp hgt) (String.not_lt.mp hlt)
        rcases String.le_total left.key.2 right.key.2 with hle | hge
        · exact .inl (.inr ⟨hbus, hle⟩)
        · exact .inr (.inr ⟨hbus.symm, hge⟩)

instance : IsTrans FamilyCadenceDefault defaultBefore where
  trans first second third := by
    unfold defaultBefore familyKeyBefore
    rintro (hlt | ⟨heq, hle⟩) (hlt' | ⟨heq', hle'⟩)
    · exact .inl (String.lt_trans hlt hlt')
    · exact .inl (heq' ▸ hlt)
    · exact .inl (heq ▸ hlt')
    · exact .inr ⟨heq.trans heq', String.le_trans hle hle'⟩

/-- The policy has one default for each family of the devices, in order. -/
structure CadencePolicy.CoversExactly (policy : CadencePolicy)
    (devices : List RegistryDevice) : Prop where
  sorted : policy.familyDefaults.Pairwise defaultBefore
  nodup : (policy.familyDefaults.map FamilyCadenceDefault.key).Nodup
  keys_iff : ∀ key, key ∈ policy.familyDefaults.map FamilyCadenceDefault.key ↔
      key ∈ devices.map RegistryDevice.familyKey

section Defaults

variable {policy other : CadencePolicy}

theorem CadencePolicy.mem_familyDefaults_iff
    (hnodup : (policy.familyDefaults.map FamilyCadenceDefault.key).Nodup)
    {item : FamilyCadenceDefault} :
    item ∈ policy.familyDefaults ↔
      policy.familyDefaultInterval item.busId item.deviceFamily = .ok item.intervalSeconds := by
  constructor
  · intro hitem
    exact CadencePolicy.familyDefaultInterval_of_find? ((find?_key_iff hnodup).mpr ⟨hitem, rfl⟩)
  · intro hdefault
    unfold CadencePolicy.familyDefaultInterval at hdefault
    split at hdefault
    next found hfind =>
      have hmem := List.mem_of_find?_eq_some hfind
      have hkey := List.find?_some hfind
      simp only [decide_eq_true_eq] at hkey
      have hsame : found = item := by
        cases found
        cases item
        simp_all
      rwa [← hsame]
    next => cases hdefault

theorem CadencePolicy.CoversExactly.familyDefaults_eq
    {devices : List RegistryDevice} (hpolicy : policy.CoversExactly devices)
    (hother : other.CoversExactly devices)
    (hsame : ∀ key ∈ devices.map RegistryDevice.familyKey,
      policy.familyDefaultInterval key.1 key.2 = other.familyDefaultInterval key.1 key.2) :
    policy.familyDefaults = other.familyDefaults := by
  have hmem : ∀ item, item ∈ policy.familyDefaults ↔ item ∈ other.familyDefaults := by
    intro item
    constructor
    · intro hitem
      have hkey := (hpolicy.keys_iff item.key).mp (List.mem_map_of_mem hitem)
      rw [mem_familyDefaults_iff hother.nodup]
      exact (hsame item.key hkey).symm.trans ((mem_familyDefaults_iff hpolicy.nodup).mp hitem)
    · intro hitem
      have hkey := (hother.keys_iff item.key).mp (List.mem_map_of_mem hitem)
      rw [mem_familyDefaults_iff hpolicy.nodup]
      exact (hsame item.key hkey).trans ((mem_familyDefaults_iff hother.nodup).mp hitem)
  have hperm := (List.perm_ext_iff_of_nodup (List.Nodup.of_map _ hpolicy.nodup)
    (List.Nodup.of_map _ hother.nodup)).mpr hmem
  refine hperm.eq_of_pairwise ?_ hpolicy.sorted hother.sorted
  intro left right hleft hright hbefore hafter
  exact List.inj_on_of_nodup_map hpolicy.nodup hleft ((hmem right).mpr hright)
    (familyKeyBefore_antisymm hbefore hafter)

end Defaults

theorem Dictionary.mem_keys_set {κ ν : Type*} [DecidableEq κ]
    (dictionary : Dictionary κ ν) (key other : κ) (value : ν) :
    other ∈ (dictionary.set key value).keys ↔ other = key ∨ other ∈ dictionary.keys := by
  by_cases hkey : key ∈ dictionary.keys
  · rw [set_keys_of_mem value hkey]
    constructor
    · exact .inr
    · rintro (rfl | hmem)
      · exact hkey
      · exact hmem
  · rw [set_of_not_mem value hkey]
    simp only [keys, List.map_append, List.map_cons, List.map_nil,
      List.mem_append, List.mem_singleton]
    exact or_comm

section Rebinding

variable {policy rebound : CadencePolicy}
  {oldDevices newDevices : List RegistryDevice}

variable {devices : List RegistryDevice}

theorem rebindDefaults_keys {defaults result : Dictionary FamilyKey FamilyCadenceDefault}
    (hfold : devices.foldlM (rebindDefault policy oldDevices) defaults =
      .ok result) (key : FamilyKey) :
    key ∈ result.keys ↔ key ∈ defaults.keys ∨ key ∈ devices.map RegistryDevice.familyKey := by
  induction devices generalizing defaults with
  | nil =>
    cases hfold
    simp
  | cons device rest ih =>
    obtain ⟨middle, hstep, hrest⟩ := foldlM_cons_eq_ok.mp hfold
    rw [ih hrest, List.map_cons, List.mem_cons]
    rcases rebindDefault_cases hstep with
      ⟨item, hget, rfl⟩ | ⟨interval, _, _, rfl⟩
    · have hpresent : device.familyKey ∈ middle.keys := by
        by_contra habsent
        rw [Dictionary.get?_eq_none_iff.mpr habsent] at hget
        cases hget
      constructor
      · rintro (hold | hnew)
        · exact .inl hold
        · exact .inr (.inr hnew)
      · rintro (hold | rfl | hnew)
        · exact .inl hold
        · exact .inl hpresent
        · exact .inr hnew
    · rw [Dictionary.mem_keys_set, or_assoc, or_left_comm]

theorem rebindPolicy_coversExactly
    (hrebind : rebindPolicy policy oldDevices newDevices = .ok rebound) :
    rebound.CoversExactly newDevices := by
  unfold rebindPolicy at hrebind
  simp only [bind_eq_ok, pure_eq_ok] at hrebind
  obtain ⟨result, hfold, rfl⟩ := hrebind
  have hres : ReboundDefaults result :=
    foldlM_invariant (fun _ _ _ hbefore hstep => hbefore.step hstep) hfold
      ⟨by simp [Dictionary.Keyed], by simp [Dictionary.keys]⟩
  have hperm := List.perm_insertionSort defaultBefore result.values
  constructor
  case sorted => exact List.pairwise_insertionSort defaultBefore _
  case nodup =>
    rw [(hperm.map _).nodup_iff, hres.keyed.values_map]
    exact hres.keys_nodup
  case keys_iff =>
    intro key
    rw [(hperm.map _).mem_iff, hres.keyed.values_map, rebindDefaults_keys hfold]
    simp [Dictionary.keys]

theorem rebindingCandidates_self (hcovers : policy.CoversExactly devices)
    (hnodup : (devices.map RegistryDevice.deviceId).Nodup)
    {device : RegistryDevice} (hdev : device ∈ devices) :
    ∃ interval, rebindingCandidates policy devices device = [interval] ∧
      policy.familyDefaultInterval device.busId device.deviceFamily = .ok interval := by
  have hkey := (hcovers.keys_iff device.familyKey).mpr (List.mem_map_of_mem hdev)
  obtain ⟨item, hitem, hitemKey⟩ := List.mem_map.mp hkey
  have hdefault := CadencePolicy.familyDefaultInterval_of_find?
    ((find?_key_iff hcovers.nodup).mpr ⟨hitem, hitemKey⟩)
  exact ⟨item.intervalSeconds, rebindingCandidates_of_old
    ((find?_key_iff hnodup).mpr ⟨hdev, rfl⟩) hdefault, hdefault⟩

theorem rebindDefaults_total {devices remaining : List RegistryDevice}
    (hcands : ∀ device ∈ remaining, ∃ interval,
      rebindingCandidates policy devices device = [interval])
    (defaults : Dictionary FamilyKey FamilyCadenceDefault) :
    ∃ result, remaining.foldlM (rebindDefault policy devices) defaults = .ok result := by
  induction remaining generalizing defaults with
  | nil => exact ⟨defaults, rfl⟩
  | cons device rest ih =>
    obtain ⟨interval, hint⟩ := hcands device List.mem_cons_self
    have hrest := ih fun other hother =>
      hcands other (List.mem_cons_of_mem _ hother)
    have hstep : ∃ middle, rebindDefault policy devices defaults device = .ok middle := by
      unfold rebindDefault
      cases defaults.get? device.familyKey with
      | some item => exact ⟨_, rfl⟩
      | none =>
        rw [hint]
        exact ⟨_, rfl⟩
    obtain ⟨middle, hmiddle⟩ := hstep
    obtain ⟨result, hres⟩ := hrest middle
    exact ⟨result, foldlM_cons_eq_ok.mpr ⟨middle, hmiddle, hres⟩⟩

theorem rebindPolicy_fixed (hcovers : policy.CoversExactly devices)
    (hnodup : (devices.map RegistryDevice.deviceId).Nodup) :
    rebindPolicy policy devices devices = .ok policy := by
  obtain ⟨result, hfold⟩ := rebindDefaults_total
    (fun device hdev => (rebindingCandidates_self hcovers hnodup hdev).imp
      fun _ hboth => hboth.1) []
  have hrebind : ∃ rebound, rebindPolicy policy devices devices = .ok rebound := by
    unfold rebindPolicy
    rw [hfold]
    exact ⟨_, rfl⟩
  obtain ⟨rebound, hrebound⟩ := hrebind
  have hsame : ∀ key ∈ devices.map RegistryDevice.familyKey,
      rebound.familyDefaultInterval key.1 key.2 = policy.familyDefaultInterval key.1 key.2 := by
    intro key hkey
    have hpresent : devices.find? (fun device => device.familyKey = key) ≠
        none := by
      obtain ⟨device, hdev, hdeviceKey⟩ := List.mem_map.mp hkey
      rw [Ne, List.find?_eq_none]
      intro habsent
      exact habsent device hdev (by simpa using hdeviceKey)
    obtain ⟨first, hfirst⟩ := Option.ne_none_iff_exists'.mp hpresent
    obtain ⟨interval, hcands, hdefault⟩ :=
      rebindPolicy_familyDefault hrebound hfirst
    have hmem := List.mem_of_find?_eq_some hfirst
    have hfirstKey : first.familyKey = key := by
      simpa using List.find?_some hfirst
    obtain ⟨own, hown, hownDefault⟩ :=
      rebindingCandidates_self hcovers hnodup hmem
    rw [hown, List.singleton_inj] at hcands
    rw [hdefault, ← hcands, ← hownDefault, ← hfirstKey]
    rfl
  have hdefs := (rebindPolicy_coversExactly hrebound).familyDefaults_eq hcovers hsame
  have hovers := rebindPolicy_overrides hrebound
  rw [hrebound, Except.ok.injEq]
  cases rebound
  cases policy
  simp only at hdefs hovers
  rw [hdefs, hovers]

end Rebinding

/-! ## Bound documents -/

namespace BusTopology

variable {topology : BusTopology}

variable {busId : String} {device : InventoryDevice}

theorem mem_busesForUnit {unitId : ℕ} :
    busId ∈ topology.busesForUnit unitId ↔ ∃ binding ∈ topology.bindings, unitId ∈ binding.unitIds ∧
        binding.busId = busId := by
  unfold busesForUnit
  simp only [List.mem_map, List.mem_filter, decide_eq_true_eq, and_assoc]

theorem busesForUnit_configured {unitId : ℕ} (hbus : busId ∈ topology.busesForUnit unitId) :
    busId ∈ topology.configuredBusIds := by
  obtain ⟨binding, hbinding, _, rfl⟩ := mem_busesForUnit.mp hbus
  exact List.mem_map_of_mem hbinding

theorem configured_stripped
    (hbus : busId ∈ topology.configuredBusIds) : stripText busId = busId := by
  obtain ⟨binding, hbinding, rfl⟩ := List.mem_map.mp hbus
  exact (topology.busIds_stripped binding hbinding).1

theorem busOfDevice_cases {retained : Bool}
    (hbus : topology.busOfDevice device = .ok (busId, retained)) :
    (topology.busesForUnit device.unitId = [] ∧ busId = device.busId) ∨
      (busId ∈ topology.busesForUnit device.unitId ∧ retained = false) := by
  unfold busOfDevice at hbus
  split at hbus
  next hnone =>
    left
    split_ifs at hbus
    · simp only [Except.ok.injEq, Prod.mk.injEq] at hbus
      exact ⟨hnone, hbus.1.symm⟩
    · simp only [Except.ok.injEq, Prod.mk.injEq] at hbus
      exact ⟨hnone, hbus.1.symm⟩
  next first others hbuses =>
    right
    rw [hbuses]
    split_ifs at hbus with hown honly
    · cases hbus
      exact ⟨hown.2, rfl⟩
    · cases hbus
      exact ⟨List.mem_cons_self, rfl⟩

theorem busOfDevice_of_mem (hbus : device.busId ∈ topology.busesForUnit device.unitId) :
    topology.busOfDevice device = .ok (device.busId, false) := by
  unfold busOfDevice
  split
  next hnone =>
    rw [hnone] at hbus
    cases hbus
  next first others hbuses =>
    rw [if_pos ⟨busesForUnit_configured hbus, hbuses ▸ hbus⟩]

theorem bindDevice_bound {entry : InventoryDevice × Bool}
    (hbind : topology.bindDevice device = .ok entry) :
    topology.bindDevice entry.1 = .ok entry := by
  unfold bindDevice at hbind
  simp only [bind_eq_ok, pure_eq_ok] at hbind
  obtain ⟨⟨busId, retained⟩, hbus, rfl⟩ := hbind
  unfold bindDevice
  rcases busOfDevice_cases hbus with ⟨_, rfl⟩ | ⟨hmem, rfl⟩
  · rw [hbus]
    rfl
  · have hstays : topology.busOfDevice { device with busId } =
        .ok (busId, false) := busOfDevice_of_mem hmem
    rw [hstays]
    rfl

theorem mapM_bound {document : InventoryDocument} {entries : List (InventoryDevice × Bool)}
    (hents : document.devices.mapM topology.bindDevice = .ok entries) :
    (entries.map Prod.fst).mapM topology.bindDevice = .ok entries := by
  have hfixed : ∀ entry ∈ entries, topology.bindDevice entry.1 = .ok entry := by
    intro entry hent
    obtain ⟨device, _, hbind⟩ := exists_mem_of_mapM_ok hents hent
    exact bindDevice_bound hbind
  clear hents
  induction entries with
  | nil => rfl
  | cons entry rest ih =>
    have hrest := ih fun other hother =>
      hfixed other (List.mem_cons_of_mem _ hother)
    rw [List.map_cons, List.mapM_cons, hfixed entry List.mem_cons_self, hrest]
    rfl

def retainedBusIds (topology : BusTopology) (bound : List (InventoryDevice × Bool)) : List String :=
  (((bound.filter fun entry => entry.2).map fun entry => entry.1.busId).dedup.filter fun busId =>
      busId ∉ topology.configuredBusIds).insertionSort (· ≤ ·)

def retainedBus (previous : List InventoryBus) (busId : String) : InventoryBus :=
  (previous.find? fun bus => bus.busId = busId).getD ⟨busId, "modbus_rtu", true⟩

theorem retainedBuses_eq (previous : List InventoryBus) (bound : List (InventoryDevice × Bool)) :
    topology.retainedBuses previous bound =
      (topology.retainedBusIds bound).map (retainedBus previous) := rfl

theorem retainedBuses_append (previous : List InventoryBus)
    (bound others : List (InventoryDevice × Bool)) (hothers : ∀ entry ∈ others, entry.2 = false) :
    topology.retainedBuses previous (bound ++ others) = topology.retainedBuses previous bound := by
  have hnone : others.filter (fun entry => entry.2) = [] := by
    rw [List.filter_eq_nil_iff]
    intro entry hent
    rw [hothers entry hent]
    exact Bool.false_ne_true
  rw [retainedBuses_eq, retainedBuses_eq]
  unfold retainedBusIds
  rw [List.filter_append, hnone, List.append_nil]

theorem retainedBus_busId (previous : List InventoryBus) (busId : String) :
    (retainedBus previous busId).busId = busId := by
  unfold retainedBus
  cases hfind : previous.find? fun bus => bus.busId = busId with
  | none => rfl
  | some bus => simpa using List.find?_some hfind

theorem retainedBuses_fixed (previous : List InventoryBus) (bound : List (InventoryDevice × Bool)) :
    topology.retainedBuses (topology.configuredBuses ++
        topology.retainedBuses previous bound) bound =
      topology.retainedBuses previous bound := by
  rw [retainedBuses_eq, retainedBuses_eq]
  apply List.map_congr_left
  intro busId hbusId
  have hnew : busId ∉ topology.configuredBusIds := by
    unfold retainedBusIds at hbusId
    rw [List.mem_insertionSort, List.mem_filter] at hbusId
    simpa using hbusId.2
  have hconfigured : topology.configuredBuses.find? (fun bus =>
      bus.busId = busId) = none := by
    rw [List.find?_eq_none]
    intro bus hbus hsame
    unfold configuredBuses at hbus
    obtain ⟨binding, hbinding, rfl⟩ := List.mem_map.mp hbus
    have hid : binding.busId = busId := by simpa using hsame
    exact hnew (hid ▸ List.mem_map_of_mem hbinding)
  have hpredicate : (fun bus : InventoryBus => decide (bus.busId = busId)) ∘
      retainedBus previous = fun other => decide (other = busId) := by
    funext other
    simp [retainedBus_busId]
  have hretained : ((topology.retainedBusIds bound).map
      (retainedBus previous)).find? (fun bus => bus.busId = busId) =
      some (retainedBus previous busId) := by
    have hfound : (topology.retainedBusIds bound).find? (fun other =>
        decide (other = busId)) = some busId := by
      cases hfind : (topology.retainedBusIds bound).find? fun other =>
          decide (other = busId) with
      | none =>
        rw [List.find?_eq_none] at hfind
        exact absurd (by simp) (hfind busId hbusId)
      | some other =>
        have hsame : other = busId := by simpa using List.find?_some hfind
        rw [hsame]
    rw [List.find?_map, hpredicate, hfound]
    rfl
  have hall : (topology.configuredBuses ++
      (topology.retainedBusIds bound).map (retainedBus previous)).find?
      (fun bus => bus.busId = busId) = some (retainedBus previous busId) := by
    rw [List.find?_append, hconfigured, hretained]
    rfl
  unfold retainedBus at hall ⊢
  rw [hall]
  rfl

theorem bindDocument_eq_ok {document bound : InventoryDocument} :
    topology.bindDocument document = .ok bound ↔
      ∃ entries cadence, document.devices.mapM topology.bindDevice = .ok entries ∧
        rebindPolicy document.cadence document.rows
          ((entries.map Prod.fst).map InventoryDevice.toRegistryDevice) =
          .ok cadence ∧
        bound = { document with
          buses := topology.configuredBuses ++ topology.retainedBuses document.buses entries
          devices := entries.map Prod.fst
          cadence := cadence } := by
  unfold bindDocument
  simp only [bind_eq_ok, pure_eq_ok, eq_comm (b := bound)]
  constructor
  · rintro ⟨entries, hents, cadence, hcadence, hbound⟩
    exact ⟨entries, cadence, hents, hcadence, hbound⟩
  · rintro ⟨entries, cadence, hents, hcadence, hbound⟩
    exact ⟨entries, hents, cadence, hcadence, hbound⟩

theorem bindDocument_bound {document bound after : InventoryDocument}
    (hbind : topology.bindDocument document = .ok bound) (hdevs : after.devices = bound.devices)
    (hbuses : after.buses = bound.buses) (hcadence : after.cadence = bound.cadence)
    (hnodup : (after.rows.map RegistryDevice.deviceId).Nodup) :
    topology.bindDocument after = .ok after := by
  obtain ⟨entries, cadence, hents, hrebind, rfl⟩ :=
    bindDocument_eq_ok.mp hbind
  have hrows : after.rows = (entries.map Prod.fst).map InventoryDevice.toRegistryDevice := by
    unfold InventoryDocument.rows
    rw [hdevs]
  have hcovers := rebindPolicy_coversExactly hrebind
  rw [← hrows] at hcovers
  refine bindDocument_eq_ok.mpr ⟨entries, cadence, ?_, ?_, ?_⟩
  · rw [hdevs]
    exact mapM_bound hents
  · rw [← hrows, hcadence]
    exact rebindPolicy_fixed hcovers hnodup
  · cases after
    simp only at hdevs hbuses hcadence
    rw [hdevs, hbuses, hcadence, retainedBuses_fixed]

end BusTopology

variable {binding : Option BusTopology} {before after : InventoryDocument}

theorem bindingPass_settled_iff {now : String}
    {document : InventoryDocument} (hchecked : document.Checked) :
    (bindingPass binding now).Settled document ↔
      ∀ topology, binding = some topology → topology.explicit = true →
        topology.bindDocument document = .ok document := by
  have hrun : (bindingPass binding now).run document =
      applyRegistryBinding binding false now ⟨document, hchecked⟩ := by
    change (InventoryRegistry.of document >>= fun registry =>
      applyRegistryBinding binding false now registry) = _
    rw [InventoryRegistry.of_valid hchecked]
    rfl
  unfold ReconciliationPass.Settled
  rw [hrun]
  cases binding with
  | none => simp [applyRegistryBinding]
  | some topology =>
    simp only [applyRegistryBinding, Option.some.injEq, forall_eq', bind_eq_ok]
    constructor
    · rintro ⟨bound, hbound, hres⟩ hexplicit
      have hdoc := topology.bindRegistry_document hexplicit hbound
      by_cases hsame : bound.document = document
      · rw [hsame] at hdoc
        exact hdoc
      · rw [if_neg hsame] at hres
        simp only [bind_eq_ok, pure_eq_ok, Prod.mk.injEq] at hres
        obtain ⟨_, _, _, hchanges⟩ := hres
        exact absurd hchanges (bindingChanges_ne_nil _ _)
    · intro hfixed
      refine ⟨⟨document, hchecked⟩, ?_, ?_⟩
      · unfold BusTopology.bindRegistry
        split_ifs with hexplicit
        · rw [hfixed hexplicit]
          exact InventoryRegistry.of_valid hchecked
        · rfl
      · rw [if_pos rfl]
        rfl

theorem bindingPass_shape {now : String} {changes : List AuditChange}
    (hpass : (bindingPass binding now).run before = .ok (after, changes))
    (hchanges : changes ≠ []) :
    ∃ topology bound, binding = some topology ∧ topology.explicit = true ∧
      topology.bindDocument before = .ok bound ∧
      after.devices = bound.devices ∧ after.buses = bound.buses ∧
      after.cadence = bound.cadence ∧ after.targets = bound.targets := by
  simp only [bindingPass, bind_eq_ok] at hpass
  obtain ⟨registry, hregistry, hpass⟩ := hpass
  have hdoc := InventoryRegistry.of_eq_ok hregistry
  unfold applyRegistryBinding at hpass
  cases binding with
  | none =>
    simp only [Except.ok.injEq, Prod.mk.injEq] at hpass
    exact absurd hpass.2.symm hchanges
  | some topology =>
    simp only [bind_eq_ok] at hpass
    obtain ⟨bound, hbound, hpass⟩ := hpass
    by_cases hsame : bound.document = registry.document
    · rw [if_pos hsame, pure_eq_ok, Prod.mk.injEq] at hpass
      exact absurd hpass.2.symm hchanges
    · rw [if_neg hsame] at hpass
      simp only [bind_eq_ok, pure_eq_ok, Prod.mk.injEq] at hpass
      obtain ⟨_, hvalidate, rfl, _⟩ := hpass
      have hexplicit : topology.explicit = true := by
        by_contra himplicit
        unfold BusTopology.bindRegistry at hbound
        rw [if_neg himplicit, Except.ok.injEq] at hbound
        exact hsame (congrArg InventoryRegistry.document hbound).symm
      have hbind := topology.bindRegistry_document hexplicit hbound
      rw [hdoc] at hbind
      rw [validateDocument_eq hvalidate]
      exact ⟨topology, bound.document, rfl, hexplicit, hbind, rfl, rfl, rfl, rfl⟩

theorem bindingPass_settles {now : String} {changes : List AuditChange}
    (hpass : (bindingPass binding now).run before = .ok (after, changes))
    (hchanges : changes ≠ []) : (bindingPass binding now).Settled after := by
  have hchecked := (bindingPass_revises _ _ _ _ _ hpass).checked hchanges
  rw [bindingPass_settled_iff hchecked]
  obtain ⟨topology, bound, rfl, _, hbind, hdevs, hbuses, hcadence, _⟩ :=
    bindingPass_shape hpass hchanges
  rintro _ ⟨rfl⟩ _
  refine topology.bindDocument_bound hbind hdevs hbuses hcadence ?_
  rw [InventoryDocument.rows_deviceIds]
  exact hchecked.facts.deviceIds_nodup

end Nexolab
