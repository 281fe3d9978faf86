import Nexolab.RuntimeOptIn
import Nexolab.TopologyFixpoint

/-!
# What an enrollment settles

An enrollment adds devices with their targets under new ids and completes the
cadence defaults.  It finds nothing to add when every unit has a device of the
profile on the bus the configuration gives it, and it leaves the documents
settled which the earlier passes have settled.
-/

namespace Nexolab

section Defaults

variable {policy completed : CadencePolicy} {devices : List RegistryDevice}

theorem ensureDefault_cases {defaults after : Dictionary FamilyKey FamilyCadenceDefault}
    {device : RegistryDevice} (hstep : ensureDefault defaults device = .ok after) :
    (device.familyKey ∈ defaults.keys ∧ after = defaults) ∨
      ∃ interval, after = defaults.set device.familyKey
        ⟨device.busId, device.deviceFamily, interval⟩ := by
  unfold ensureDefault at hstep
  split at hstep
  next item hget =>
    rw [Except.ok.injEq] at hstep
    refine .inl ⟨?_, hstep.symm⟩
    by_contra habsent
    rw [Dictionary.get?_eq_none_iff.mpr habsent] at hget
    cases hget
  next =>
    right
    split at hstep
    next =>
      rw [Except.ok.injEq] at hstep
      exact ⟨_, hstep.symm⟩
    next interval _ =>
      rw [Except.ok.injEq] at hstep
      exact ⟨_, hstep.symm⟩
    next => cases hstep

/-- What the steps keep: the defaults stand under their keys, each is an old one
or one for a device. -/
structure CompletedDefaults (policy : CadencePolicy) (devices : List RegistryDevice)
    (defaults : Dictionary FamilyKey FamilyCadenceDefault) : Prop where
  keyed : defaults.Keyed FamilyCadenceDefault.key
  keys_nodup : defaults.keys.Nodup
  kept : ∀ item ∈ policy.familyDefaults, item.key ∈ defaults.keys
  origin : ∀ item ∈ defaults.values, item ∈ policy.familyDefaults ∨
    ∃ device ∈ devices, item.key = device.familyKey

theorem CompletedDefaults.step {defaults after : Dictionary FamilyKey FamilyCadenceDefault}
    (hdefs : CompletedDefaults policy devices defaults)
    {device : RegistryDevice} (hdev : device ∈ devices)
    (hstep : ensureDefault defaults device = .ok after) :
    CompletedDefaults policy devices after := by
  rcases ensureDefault_cases hstep with ⟨_, rfl⟩ | ⟨interval, rfl⟩
  · exact hdefs
  · constructor
    case keyed =>
      exact hdefs.keyed.set (⟨device.busId, device.deviceFamily, interval⟩ : FamilyCadenceDefault)
    case keys_nodup =>
      exact Dictionary.set_keys_nodup _ hdefs.keys_nodup
    case kept =>
      intro item hitem
      rw [Dictionary.mem_keys_set]
      exact .inr (hdefs.kept item hitem)
    case origin =>
      intro item hitem
      obtain ⟨entry, hent, rfl⟩ := List.mem_map.mp hitem
      rcases Dictionary.mem_set hent with rfl | hold
      · exact .inr ⟨device, hdev, rfl⟩
      · exact hdefs.origin _ (List.mem_map_of_mem hold)

variable {defaults result : Dictionary FamilyKey FamilyCadenceDefault}

theorem ensureDefaults_keys {remaining : List RegistryDevice}
    (hfold : remaining.foldlM ensureDefault defaults = .ok result) :
    (∀ key ∈ defaults.keys, key ∈ result.keys) ∧
      ∀ device ∈ remaining, device.familyKey ∈ result.keys := by
  induction remaining generalizing defaults with
  | nil =>
    cases hfold
    exact ⟨fun _ hkey => hkey, fun _ hdev => nomatch hdev⟩
  | cons device rest ih =>
    obtain ⟨middle, hstep, hrest⟩ := foldlM_cons_eq_ok.mp hfold
    obtain ⟨hkept, hdevs⟩ := ih hrest
    have hmiddle : (∀ key ∈ defaults.keys, key ∈ middle.keys) ∧ device.familyKey ∈ middle.keys := by
      rcases ensureDefault_cases hstep with ⟨hpresent, rfl⟩ | ⟨_, rfl⟩
      · exact ⟨fun _ hkey => hkey, hpresent⟩
      · simp only [Dictionary.mem_keys_set]
        exact ⟨fun _ hkey => .inr hkey, .inl trivial⟩
    refine ⟨fun key hkey => hkept key (hmiddle.1 key hkey), ?_⟩
    intro other hother
    rcases List.mem_cons.mp hother with rfl | hmem
    · exact hkept _ hmiddle.2
    · exact hdevs other hmem

theorem completedDefaults_foldlM {remaining : List RegistryDevice}
    (hremaining : ∀ device ∈ remaining, device ∈ devices)
    (hdefs : CompletedDefaults policy devices defaults)
    (hfold : remaining.foldlM ensureDefault defaults = .ok result) :
    CompletedDefaults policy devices result := by
  induction remaining generalizing defaults with
  | nil =>
    cases hfold
    exact hdefs
  | cons device rest ih =>
    obtain ⟨middle, hstep, hrest⟩ := foldlM_cons_eq_ok.mp hfold
    exact ih (fun other hother =>
        hremaining other (List.mem_cons_of_mem _ hother))
      (hdefs.step (hremaining device List.mem_cons_self) hstep) hrest

theorem ensureDefaultsForDevices_spec
    (hnodup : (policy.familyDefaults.map FamilyCadenceDefault.key).Nodup)
    (hensure : ensureDefaultsForDevices policy devices = .ok completed) :
    completed.familyDefaults.Pairwise defaultBefore ∧
      (completed.familyDefaults.map FamilyCadenceDefault.key).Nodup ∧
      completed.deviceOverrides = policy.deviceOverrides ∧
      (∀ item ∈ completed.familyDefaults, item ∈ policy.familyDefaults ∨
        ∃ device ∈ devices, item.key = device.familyKey) ∧
      (∀ key, key ∈ completed.familyDefaults.map FamilyCadenceDefault.key ↔
        key ∈ policy.familyDefaults.map FamilyCadenceDefault.key ∨
          key ∈ devices.map RegistryDevice.familyKey) := by
  unfold ensureDefaultsForDevices at hensure
  simp only [bind_eq_ok, pure_eq_ok] at hensure
  obtain ⟨result, hfold, rfl⟩ := hensure
  have hstartKeys : (Dictionary.ofItems FamilyCadenceDefault.key policy.familyDefaults).keys =
      policy.familyDefaults.map FamilyCadenceDefault.key := by
    rw [Dictionary.ofItems_eq hnodup]
    simp [Dictionary.keys]
  have hstart : CompletedDefaults policy devices
      (Dictionary.ofItems FamilyCadenceDefault.key policy.familyDefaults) := by
    constructor
    case keyed =>
      rw [Dictionary.ofItems_eq hnodup]
      intro entry hent
      obtain ⟨item, _, rfl⟩ := List.mem_map.mp hent
      rfl
    case keys_nodup =>
      rw [hstartKeys]
      exact hnodup
    case kept =>
      intro item hitem
      rw [hstartKeys]
      exact List.mem_map_of_mem hitem
    case origin =>
      intro item hitem
      rw [Dictionary.ofItems_eq hnodup] at hitem
      simp only [Dictionary.values, List.map_map] at hitem
      obtain ⟨old, hold, rfl⟩ := List.mem_map.mp hitem
      exact .inl hold
  have hres := completedDefaults_foldlM (fun _ hdev => hdev) hstart hfold
  obtain ⟨hkept, hcovered⟩ := ensureDefaults_keys hfold
  have hperm := List.perm_insertionSort defaultBefore result.values
  have hkeys : result.values.map FamilyCadenceDefault.key = result.keys :=
    hres.keyed.values_map
  refine ⟨List.pairwise_insertionSort defaultBefore _, ?_, rfl, ?_, ?_⟩
  · rw [(hperm.map _).nodup_iff, hkeys]
    exact hres.keys_nodup
  · intro item hitem
    exact hres.origin item (hperm.mem_iff.mp hitem)
  · intro key
    rw [(hperm.map _).mem_iff, hkeys]
    constructor
    · intro hkey
      rw [← hkeys] at hkey
      obtain ⟨item, hitem, rfl⟩ := List.mem_map.mp hkey
      rcases hres.origin item hitem with hold | ⟨device, hdev, hsame⟩
      · exact .inl (List.mem_map_of_mem hold)
      · rw [hsame]
        exact .inr (List.mem_map_of_mem hdev)
    · rintro (hold | hnew)
      · exact hkept key (hstartKeys ▸ hold)
      · obtain ⟨device, hdev, rfl⟩ := List.mem_map.mp hnew
        exact hcovered device hdev

end Defaults

/-! ## Enrolled units -/

namespace EnrollmentProfile

variable {profile : EnrollmentProfile}
  {busForUnit : ℕ → Except RegistryFault String}

def OwnsTargets (profile : EnrollmentProfile) : Prop :=
  ∀ unitId lifecycle, ∀ target ∈ profile.targets unitId lifecycle,
    target.deviceId = profile.deviceIdOf unitId ∧ target.lifecycle = lifecycle

def Enrolled (profile : EnrollmentProfile)
    (busForUnit : ℕ → Except RegistryFault String) (unitIds : List ℕ)
    (document : InventoryDocument) : Prop :=
  ∀ unitId ∈ unitIds, ∃ busId, busForUnit unitId = .ok busId ∧
    busId ∈ document.busIds ∧ ∃ device ∈ document.devices, device.identity = (busId, unitId) ∧
      device.deviceFamily = profile.family ∧
      device.profileVersion = profile.profileVersion

structure Additions (profile : EnrollmentProfile)
    (busForUnit : ℕ → Except RegistryFault String) (unitIds : List ℕ)
    (document : InventoryDocument) (added : List (ℕ × String)) : Prop where
  origin : ∀ addition ∈ added, addition.1 ∈ unitIds ∧
    busForUnit addition.1 = .ok addition.2 ∧ addition.2 ∈ document.busIds
  complete : ∀ unitId ∈ unitIds, ∃ busId, busForUnit unitId = .ok busId ∧ busId ∈ document.busIds ∧
      ((unitId, busId) ∈ added ∨ ∃ device ∈ document.devices,
        device.identity = (busId, unitId) ∧ device.deviceFamily = profile.family ∧
        device.profileVersion = profile.profileVersion)

variable {document : InventoryDocument}

theorem additions_spec {unitIds : List ℕ} {added : List (ℕ × String)}
    (hadditions : profile.additions document busForUnit unitIds = .ok added) :
    Additions profile busForUnit unitIds document added := by
  induction unitIds generalizing added with
  | nil =>
    cases hadditions
    exact ⟨by simp, by simp⟩
  | cons unitId rest ih =>
    simp only [additions, bind_eq_ok, refuseIf_eq_ok, not_not] at hadditions
    obtain ⟨busId, hbus, _, hpresent, hrest⟩ := hadditions
    split at hrest
    next existing hfind =>
      simp only [bind_eq_ok, refuseIf_eq_ok, not_or, not_not] at hrest
      obtain ⟨_, ⟨hfam, hver⟩, hrest⟩ := hrest
      have hothers := ih hrest
      have hidentity : existing.identity = (busId, unitId) := by
        simpa using List.find?_some hfind
      constructor
      case origin =>
        intro addition hadd
        obtain ⟨hunit, hfacts⟩ := hothers.origin addition hadd
        exact ⟨List.mem_cons_of_mem _ hunit, hfacts⟩
      case complete =>
        intro other hother
        rcases List.mem_cons.mp hother with rfl | hmem
        · exact ⟨busId, hbus, hpresent, .inr ⟨existing,
            List.mem_of_find?_eq_some hfind, hidentity, hfam, hver⟩⟩
        · exact hothers.complete other hmem
    next =>
      split at hrest
      next => cases hrest
      next =>
        simp only [bind_eq_ok, pure_eq_ok] at hrest
        obtain ⟨others, hrest, rfl⟩ := hrest
        have hothers := ih hrest
        constructor
        case origin =>
          intro addition hadd
          rcases List.mem_cons.mp hadd with rfl | hmem
          · exact ⟨List.mem_cons_self, hbus, hpresent⟩
          · obtain ⟨hunit, hfacts⟩ := hothers.origin addition hmem
            exact ⟨List.mem_cons_of_mem _ hunit, hfacts⟩
        case complete =>
          intro other hother
          rcases List.mem_cons.mp hother with rfl | hmem
          · exact ⟨busId, hbus, hpresent, .inl List.mem_cons_self⟩
          · obtain ⟨otherBus, hotherBus, hotherPresent, hcases⟩ :=
              hothers.complete other hmem
            exact ⟨otherBus, hotherBus, hotherPresent, hcases.imp_left (List.mem_cons_of_mem _)⟩

theorem additions_enrolled (hvalid : document.Valid) {unitIds : List ℕ}
    (henrolled : profile.Enrolled busForUnit unitIds document) :
    profile.additions document busForUnit unitIds = .ok [] := by
  induction unitIds with
  | nil => rfl
  | cons unitId rest ih =>
    obtain ⟨busId, hbus, hpresent, device, hdev, hidentity, hfam,
      hver⟩ := henrolled unitId List.mem_cons_self
    have hfind : document.devices.find? (fun other =>
        other.identity = (busId, unitId)) = some device :=
      (find?_key_iff hvalid.identities_nodup).mpr ⟨hdev, hidentity⟩
    have hrest := ih fun other hother =>
      henrolled other (List.mem_cons_of_mem _ hother)
    unfold additions
    rw [hbus]
    simp only [bind_eq_ok, refuseIf_eq_ok, Except.ok.injEq,
      exists_eq_left', not_not, hfind, not_or]
    exact ⟨(), hpresent, (), ⟨hfam, hver⟩, hrest⟩

theorem enroll_shape {before after : InventoryDocument} {unitIds : List ℕ} {lifecycle now : String}
    {busForUnit : Option (ℕ → Except RegistryFault String)} {changes : List AuditChange}
    (henroll : profile.enroll before unitIds lifecycle busForUnit now = .ok (after, changes)) :
    (¬ ∃ unitId ∈ unitIds.dedup, ¬ (1 ≤ unitId ∧ unitId ≤ 247)) ∧
      ∃ desired added, validateLifecycle lifecycle = .ok desired ∧
        Additions profile (busForUnit.getD fun _ => .ok defaultBusId) unitIds before added ∧
        (added = [] → changes = []) ∧
        (changes ≠ [] → ∃ cadence, ensureDefaultsForDevices before.cadence (before.rows ++
            added.map fun addition => (profile.deviceOf addition.1 addition.2
              desired).toRegistryDevice) = .ok cadence ∧
          after = profile.extend before desired added cadence now) := by
  simp only [enroll, bind_eq_ok, refuseIf_eq_ok] at henroll
  obtain ⟨_, hrange, desired, hdesired, added, hadded, henroll⟩ := henroll
  have hadditions := additions_spec hadded
  have hmem : ∀ unitId, unitId ∈ unitIds.dedup.insertionSort (· ≤ ·) ↔ unitId ∈ unitIds := by
    intro unitId
    rw [List.mem_insertionSort, List.mem_dedup]
  refine ⟨hrange, desired, added, hdesired, ?_, ?_, ?_⟩
  · constructor
    case origin =>
      intro addition hadd
      obtain ⟨hunit, hfacts⟩ := hadditions.origin addition hadd
      exact ⟨(hmem _).mp hunit, hfacts⟩
    case complete =>
      exact fun unitId hunit => hadditions.complete unitId ((hmem _).mpr hunit)
  · intro hnone
    rw [if_pos hnone, pure_eq_ok, Prod.mk.injEq] at henroll
    exact henroll.2.symm
  · intro hchanges
    by_cases hnone : added = []
    · rw [if_pos hnone, pure_eq_ok, Prod.mk.injEq] at henroll
      exact absurd henroll.2.symm hchanges
    · rw [if_neg hnone] at henroll
      simp only [bind_eq_ok, pure_eq_ok, Prod.mk.injEq] at henroll
      obtain ⟨cadence, hcadence, _, hvalidate, rfl, _⟩ := henroll
      exact ⟨cadence, hcadence, validateDocument_eq hvalidate⟩

/-- The document with the devices and targets of the added units. -/
structure Extends (profile : EnrollmentProfile)
    (busForUnit : ℕ → Except RegistryFault String) (unitIds : List ℕ)
    (lifecycle : String) (added : List (ℕ × String)) (before after : InventoryDocument) : Prop where
  additions : Additions profile busForUnit unitIds before added
  devices : after.devices = before.devices ++
    added.map fun addition => profile.deviceOf addition.1 addition.2 lifecycle
  targets : after.targets = before.targets ++
    added.flatMap fun addition => profile.targets addition.1 lifecycle
  buses : after.buses = before.buses
  cadence : ensureDefaultsForDevices before.cadence after.rows = .ok after.cadence

theorem enroll_extends {before after : InventoryDocument} {unitIds : List ℕ}
    {lifecycle now : String} {busForUnit : Option (ℕ → Except RegistryFault String)}
    {changes : List AuditChange}
    (henroll : profile.enroll before unitIds lifecycle busForUnit now =
      .ok (after, changes)) (hchanges : changes ≠ []) :
    ∃ desired added, validateLifecycle lifecycle = .ok desired ∧
      Extends profile (busForUnit.getD fun _ => .ok defaultBusId) unitIds desired
        added before after := by
  obtain ⟨_, desired, added, hdesired, hadditions, _, hextend⟩ :=
    enroll_shape henroll
  obtain ⟨cadence, hcadence, rfl⟩ := hextend hchanges
  refine ⟨desired, added, hdesired, hadditions, rfl, rfl, rfl, ?_⟩
  have hrows : (profile.extend before desired added cadence now).rows =
      before.rows ++ added.map fun addition =>
        (profile.deviceOf addition.1 addition.2 desired).toRegistryDevice := by
    simp [InventoryDocument.rows, extend, List.map_map, Function.comp_def]
  rw [hrows]
  exact hcadence

section Extends

variable {unitIds : List ℕ} {lifecycle : String} {added : List (ℕ × String)}
  {before after : InventoryDocument}

theorem Extends.device_cases
    (hext : Extends profile busForUnit unitIds lifecycle added before after)
    {device : InventoryDevice} (hdev : device ∈ after.devices) :
    device ∈ before.devices ∨ ∃ addition ∈ added,
      device = profile.deviceOf addition.1 addition.2 lifecycle := by
  rw [hext.devices, List.mem_append] at hdev
  rcases hdev with hold | hnew
  · exact .inl hold
  · obtain ⟨addition, hadd, rfl⟩ := List.mem_map.mp hnew
    exact .inr ⟨addition, hadd, rfl⟩

theorem Extends.device_kept (hext : Extends profile busForUnit unitIds lifecycle added before after)
    {device : InventoryDevice} (hdev : device ∈ before.devices) :
    device ∈ after.devices := by
  rw [hext.devices]
  exact List.mem_append_left _ hdev

theorem Extends.added_mem (hext : Extends profile busForUnit unitIds lifecycle added before after)
    {addition : ℕ × String} (hadd : addition ∈ added) :
    profile.deviceOf addition.1 addition.2 lifecycle ∈ after.devices := by
  rw [hext.devices]
  exact List.mem_append_right _ (List.mem_map_of_mem hadd)

theorem Extends.added_new (hext : Extends profile busForUnit unitIds lifecycle added before after)
    (hvalid : after.Valid) {addition : ℕ × String} (hadd : addition ∈ added) :
    profile.deviceIdOf addition.1 ∉ before.deviceIds := by
  have hnodup := hvalid.deviceIds_nodup
  rw [hext.devices, List.map_append, List.map_map, List.nodup_append] at hnodup
  intro hmem
  exact hnodup.2.2 _ hmem _ (List.mem_map_of_mem hadd) rfl

theorem Extends.target_cases
    (hext : Extends profile busForUnit unitIds lifecycle added before after)
    (howns : profile.OwnsTargets) {target : InventoryTarget} (htarget : target ∈ after.targets) :
    target ∈ before.targets ∨ ∃ addition ∈ added, target.deviceId = profile.deviceIdOf addition.1 ∧
        target.lifecycle = lifecycle := by
  rw [hext.targets, List.mem_append] at htarget
  rcases htarget with hold | hnew
  · exact .inl hold
  · obtain ⟨addition, hadd, hmem⟩ := List.mem_flatMap.mp hnew
    exact .inr ⟨addition, hadd, howns _ _ target hmem⟩

theorem Extends.carries (hext : Extends profile busForUnit unitIds lifecycle added before after)
    (howns : profile.OwnsTargets) (hvalid : after.Valid)
    (hfam : profile.family ≠ "le01mp") : Carries before after := by
  constructor
  case device_origin =>
    intro device hdev
    rcases hext.device_cases hdev with hold | ⟨addition, hadd, rfl⟩
    · exact .inl ⟨device, hold, SameUnit.refl device⟩
    · exact .inr ⟨hfam, hext.added_new hvalid hadd⟩
  case device_kept =>
    exact fun old hold => ⟨old, hext.device_kept hold, SameUnit.refl old⟩
  case target_origin =>
    intro target htarget
    rcases hext.target_cases howns htarget with
      hold | ⟨addition, hadd, howner, _⟩
    · exact .inl ⟨target, hold, SameTarget.refl target⟩
    · rw [howner]
      exact .inr (hext.added_new hvalid hadd)
  case target_kept =>
    intro old hold
    refine ⟨old, ?_, SameTarget.refl old⟩
    rw [hext.targets]
    exact List.mem_append_left _ hold

theorem Extends.keepsFamily (hext : Extends profile busForUnit unitIds lifecycle added before after)
    (howns : profile.OwnsTargets) (hvalid : after.Valid) {family : String}
    (hfam : profile.family ≠ family) : KeepsFamily family before after := by
  have hold : ∀ device ∈ after.devices, device.deviceFamily = family → device ∈ before.devices := by
    intro device hdev hsame
    rcases hext.device_cases hdev with hmem | ⟨addition, _, rfl⟩
    · exact hmem
    · exact absurd hsame hfam
  constructor
  case devices =>
    exact fun device hdev hsame =>
      ⟨device, hold device hdev hsame, SameUnit.refl device, rfl⟩
  case targets =>
    intro target htarget device hdev hsame hid
    rcases hext.target_cases howns htarget with
      hmem | ⟨addition, hadd, howner, _⟩
    · exact ⟨target, hmem, rfl, rfl⟩
    · have hnew := hext.added_new hvalid hadd
      rw [← howner, ← hid] at hnew
      exact absurd (deviceId_mem (hold device hdev hsame)) hnew

theorem Extends.followsOptIn (hext : Extends profile busForUnit unitIds "active" added before after)
    (howns : profile.OwnsTargets) (hbefore : before.Valid) (hvalid : after.Valid)
    (hfollows : before.FollowsOptIn profile.family unitIds) :
    after.FollowsOptIn profile.family unitIds := by
  have hact : ∀ addition ∈ added, runtimeLifecycle unitIds addition.1 = "active" := by
    intro addition hadd
    unfold runtimeLifecycle
    rw [if_pos (hext.additions.origin addition hadd).1]
  constructor
  case devices =>
    intro device hdev hfam
    rcases hext.device_cases hdev with hold | ⟨addition, hadd, rfl⟩
    · exact hfollows.devices device hold hfam
    · exact (hact addition hadd).symm
  case targets =>
    intro target htarget device hdev hfam hid
    rcases hext.target_cases howns htarget with
      holdTarget | ⟨addition, hadd, howner, hlife⟩
    · rcases hext.device_cases hdev with hold | ⟨addition, hadd, rfl⟩
      · exact hfollows.targets target holdTarget device hold hfam hid
      · have hnew := hext.added_new hvalid hadd
        have howner := hbefore.target_owners target holdTarget
        rw [← hid] at howner
        exact absurd howner hnew
    · have hunique := hvalid.device_unique hdev (hext.added_mem hadd) (hid.trans howner)
      rw [hunique, hlife]
      exact (hact addition hadd).symm

theorem busIds_eq (hext : Extends profile busForUnit unitIds lifecycle added before after) :
    after.busIds = before.busIds := by
  unfold InventoryDocument.busIds
  rw [hext.buses]

theorem Extends.enrolled (hext : Extends profile busForUnit unitIds lifecycle added before after) :
    profile.Enrolled busForUnit unitIds after := by
  intro unitId hunit
  obtain ⟨busId, hbus, hpresent, hcases⟩ :=
    hext.additions.complete unitId hunit
  refine ⟨busId, hbus, by rw [busIds_eq hext]; exact hpresent, ?_⟩
  rcases hcases with hadd | ⟨device, hdev, hfacts⟩
  · exact ⟨_, hext.added_mem hadd, rfl, rfl, rfl⟩
  · exact ⟨device, hext.device_kept hdev, hfacts⟩

theorem Extends.enrolled_kept {other : EnrollmentProfile}
    {otherBus : ℕ → Except RegistryFault String} {otherUnits : List ℕ}
    (hext : Extends profile busForUnit unitIds lifecycle added before after)
    (henrolled : other.Enrolled otherBus otherUnits before) :
    other.Enrolled otherBus otherUnits after := by
  intro unitId hunit
  obtain ⟨busId, hbus, hpresent, device, hdev, hfacts⟩ :=
    henrolled unitId hunit
  exact ⟨busId, hbus, by rw [busIds_eq hext]; exact hpresent, device, hext.device_kept hdev, hfacts⟩

theorem Extends.bound {topology : BusTopology}
    (hext : Extends profile busForUnit unitIds lifecycle added before after) (hvalid : after.Valid)
    (hbuses : ∀ unitId busId, busForUnit unitId = .ok busId →
      busId ∈ topology.busesForUnit unitId)
    (hbound : topology.bindDocument before = .ok before) :
    topology.bindDocument after = .ok after := by
  obtain ⟨entries, cadence, hents, hrebind, hsame⟩ :=
    BusTopology.bindDocument_eq_ok.mp hbound
  have hdevs : before.devices = entries.map Prod.fst :=
    congrArg InventoryDocument.devices hsame
  have hcadence : before.cadence = cadence :=
    congrArg InventoryDocument.cadence hsame
  have hbusEntries : before.buses = topology.configuredBuses ++
      topology.retainedBuses before.buses entries :=
    congrArg InventoryDocument.buses hsame
  have hrows : before.rows = (entries.map Prod.fst).map InventoryDevice.toRegistryDevice := by
    unfold InventoryDocument.rows
    rw [hdevs]
  have hcovers : before.cadence.CoversExactly before.rows := by
    rw [hrows, hcadence]
    exact rebindPolicy_coversExactly hrebind
  have hafterRows : after.rows = before.rows ++
      (added.map fun addition => profile.deviceOf addition.1 addition.2
        lifecycle).map InventoryDevice.toRegistryDevice := by
    unfold InventoryDocument.rows
    rw [hext.devices, List.map_append]
  obtain ⟨hsorted, hnodup, _, _, hkeys⟩ :=
    ensureDefaultsForDevices_spec hcovers.nodup hext.cadence
  have hafterCovers : after.cadence.CoversExactly after.rows := by
    refine ⟨hsorted, hnodup, ?_⟩
    intro key
    rw [hkeys, hcovers.keys_iff, hafterRows, List.map_append, List.mem_append]
    constructor
    · rintro (hold | hnew)
      · exact .inl hold
      · exact hnew
    · exact .inr
  have hadded : ∀ addition ∈ added, topology.bindDevice
      (profile.deviceOf addition.1 addition.2 lifecycle) =
      .ok (profile.deviceOf addition.1 addition.2 lifecycle, false) := by
    intro addition hadd
    have hbus := hbuses _ _ (hext.additions.origin addition hadd).2.1
    have hstays : topology.busOfDevice (profile.deviceOf addition.1 addition.2 lifecycle) =
        .ok (addition.2, false) := BusTopology.busOfDevice_of_mem hbus
    unfold BusTopology.bindDevice
    rw [hstays]
    rfl
  have hlater : (entries ++ added.map fun addition =>
      (profile.deviceOf addition.1 addition.2 lifecycle, false)).map Prod.fst = after.devices := by
    rw [List.map_append, hext.devices, hdevs, List.map_map]
    rfl
  have hretained : after.buses = topology.configuredBuses ++
      topology.retainedBuses after.buses (entries ++ added.map fun addition =>
        (profile.deviceOf addition.1 addition.2 lifecycle, false)) := by
    rw [topology.retainedBuses_append, hext.buses]
    · exact hbusEntries
    · intro entry hent
      obtain ⟨_, _, rfl⟩ := List.mem_map.mp hent
      rfl
  refine BusTopology.bindDocument_eq_ok.mpr ⟨entries ++ added.map fun addition =>
    (profile.deviceOf addition.1 addition.2 lifecycle, false), after.cadence,
    ?_, ?_, ?_⟩
  · rw [hext.devices, List.mapM_append, hents, mapM_map_ok hadded]
    rfl
  · rw [hlater]
    exact rebindPolicy_fixed hafterCovers (by
      rw [InventoryDocument.rows_deviceIds]
      exact hvalid.deviceIds_nodup)
  · rw [hlater, ← hretained]

end Extends

theorem enroll_settled_iff (hvalid : document.Valid) {unitIds : List ℕ} {lifecycle now : String}
    {busForUnit : Option (ℕ → Except RegistryFault String)} :
    profile.enroll document unitIds lifecycle busForUnit now = .ok (document, []) ↔
      (¬ ∃ unitId ∈ unitIds.dedup, ¬ (1 ≤ unitId ∧ unitId ≤ 247)) ∧
      (∃ desired, validateLifecycle lifecycle = .ok desired) ∧
      profile.Enrolled (busForUnit.getD fun _ => .ok defaultBusId) unitIds
        document := by
  constructor
  · intro henroll
    simp only [enroll, bind_eq_ok, refuseIf_eq_ok] at henroll
    obtain ⟨_, hrange, desired, hdesired, added, hadded, henroll⟩ := henroll
    refine ⟨hrange, ⟨desired, hdesired⟩, ?_⟩
    have hnone : added = [] := by
      by_contra hsome
      rw [if_neg hsome] at henroll
      simp only [bind_eq_ok, pure_eq_ok, Prod.mk.injEq] at henroll
      obtain ⟨_, _, _, _, _, hchanges⟩ := henroll
      obtain ⟨first, others, rfl⟩ := List.exists_cons_of_ne_nil hsome
      simp [additionChanges] at hchanges
    subst hnone
    intro unitId hunit
    obtain ⟨busId, hbus, hpresent, hcases⟩ := (additions_spec hadded).complete
      unitId (by rw [List.mem_insertionSort, List.mem_dedup]; exact hunit)
    exact ⟨busId, hbus, hpresent, hcases.resolve_left List.not_mem_nil⟩
  · rintro ⟨hrange, ⟨desired, hdesired⟩, henrolled⟩
    have hadditions : profile.additions document (busForUnit.getD fun _ => .ok defaultBusId)
        (unitIds.dedup.insertionSort (· ≤ ·)) = .ok [] :=
      additions_enrolled hvalid fun unitId hunit => henrolled unitId (by
        rwa [List.mem_insertionSort, List.mem_dedup] at hunit)
    simp only [enroll, bind_eq_ok, refuseIf_eq_ok]
    exact ⟨(), hrange, desired, hdesired, [], hadditions, rfl⟩

end EnrollmentProfile

theorem sdm120Enrollment_owns : sdm120Enrollment.OwnsTargets := by
  intro unitId lifecycle target htarget
  obtain ⟨register, _, rfl⟩ := List.mem_map.mp htarget
  exact ⟨rfl, rfl⟩

theorem waveshare8aiEnrollment_owns : waveshare8aiEnrollment.OwnsTargets := by
  intro unitId lifecycle target htarget
  obtain ⟨channel, _, rfl⟩ := List.mem_map.mp htarget
  exact ⟨rfl, rfl⟩

theorem embracoEnrollment_owns : embracoEnrollment.OwnsTargets := by
  intro unitId lifecycle target htarget
  obtain ⟨register, _, rfl⟩ := List.mem_map.mp htarget
  exact ⟨rfl, rfl⟩

end Nexolab
