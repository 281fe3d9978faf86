import Nexolab.RegistryPasses

/-!
# The upgrade of the LE-01MP profile

The upgrade finds nothing to do in a document which is current.  It makes a
document current unless it misses a device: a target it adds belongs to the
device which the Unit ID names, and a device under another name still lacks it.
The later passes move devices between buses, change lifecycles of other
families or add devices under new ids, and keep a document current.
-/

namespace Nexolab

/-- The two devices differ in their bus and lifecycle only. -/
structure SameUnit (before after : InventoryDevice) : Prop where
  deviceId : after.deviceId = before.deviceId
  deviceFamily : after.deviceFamily = before.deviceFamily
  unitId : after.unitId = before.unitId
  profileVersion : after.profileVersion = before.profileVersion

theorem SameUnit.refl (device : InventoryDevice) : SameUnit device device :=
  ⟨rfl, rfl, rfl, rfl⟩

def SameTarget (before after : InventoryTarget) : Prop :=
  after = { before with lifecycle := after.lifecycle }

theorem SameTarget.refl (target : InventoryTarget) : SameTarget target target :=
  rfl

theorem SameTarget.deviceId {before after : InventoryTarget}
    (hsame : SameTarget before after) : after.deviceId = before.deviceId := by
  rw [hsame]

theorem SameTarget.key {before after : InventoryTarget}
    (hsame : SameTarget before after) : after.key = before.key := by
  rw [hsame]

def InventoryDocument.deviceIds (document : InventoryDocument) : List String :=
  document.devices.map (·.deviceId)

/-- Devices and targets are kept up to their buses and lifecycles; what is new
belongs to new devices of other families than LE-01MP. -/
structure Carries (before after : InventoryDocument) : Prop where
  device_origin : ∀ device ∈ after.devices, (∃ old ∈ before.devices, SameUnit old device) ∨
      device.deviceFamily ≠ "le01mp" ∧ device.deviceId ∉ before.deviceIds
  device_kept : ∀ old ∈ before.devices, ∃ device ∈ after.devices, SameUnit old device
  target_origin : ∀ target ∈ after.targets, (∃ old ∈ before.targets, SameTarget old target) ∨
      target.deviceId ∉ before.deviceIds
  target_kept : ∀ old ∈ before.targets, ∃ target ∈ after.targets, SameTarget old target

/-- The devices of the family and their targets keep their lifecycles. -/
structure KeepsFamily (family : String) (before after : InventoryDocument) :
    Prop where
  devices : ∀ device ∈ after.devices, device.deviceFamily = family →
    ∃ old ∈ before.devices, SameUnit old device ∧ old.lifecycle = device.lifecycle
  targets : ∀ target ∈ after.targets, ∀ device ∈ after.devices,
    device.deviceFamily = family → device.deviceId = target.deviceId →
      ∃ old ∈ before.targets, old.deviceId = target.deviceId ∧ old.lifecycle = target.lifecycle

variable {document : InventoryDocument}

variable {device : InventoryDevice}

theorem deviceId_mem (hdev : device ∈ document.devices) :
    device.deviceId ∈ document.deviceIds :=
  List.mem_map_of_mem hdev

theorem InventoryDocument.Valid.device_unique
    (hvalid : document.Valid) {device other : InventoryDevice}
    (hdev : device ∈ document.devices) (hother : other ∈ document.devices)
    (hid : device.deviceId = other.deviceId) : device = other :=
  List.inj_on_of_nodup_map hvalid.deviceIds_nodup hdev hother hid

/-! ## The LE-01MP profile -/

theorem MigratesLe01mp.of_sameUnit {before after : InventoryDevice}
    (hsame : SameUnit before after) :
    after.MigratesLe01mp ↔ before.MigratesLe01mp := by
  unfold InventoryDevice.MigratesLe01mp
  rw [hsame.deviceFamily, hsame.profileVersion]

theorem mem_le01mpIds {deviceId : String} :
    deviceId ∈ document.le01mpIds ↔ ∃ device ∈ document.devices, device.MigratesLe01mp ∧
        device.deviceId = deviceId := by
  unfold InventoryDocument.le01mpIds InventoryDocument.le01mpDevices
  simp only [List.mem_map, List.mem_filter, decide_eq_true_eq, and_assoc]

theorem mem_le01mpDevices :
    device ∈ document.le01mpDevices ↔ device ∈ document.devices ∧ device.MigratesLe01mp := by
  unfold InventoryDocument.le01mpDevices
  simp

structure InventoryDocument.Le01mpCurrent (document : InventoryDocument) :
    Prop where
  devices : ∀ device ∈ document.devices, upgradeLe01mpDevice document.le01mpIds device = device
  targets : ∀ target ∈ document.targets, upgradeLe01mpTarget document.le01mpIds target = target
  registers : ∀ device ∈ document.le01mpDevices,
    ∀ register ∈ le01mpRegisters, document.HasRegister device.deviceId register

theorem missingLe01mpTargets_eq_nil :
    document.missingLe01mpTargets = [] ↔
      ∀ device ∈ document.le01mpDevices, ∀ register ∈ le01mpRegisters,
        document.HasRegister device.deviceId register := by
  unfold InventoryDocument.missingLe01mpTargets
  simp only [List.flatMap_eq_nil_iff, List.mem_insertionSort, List.map_eq_nil_iff,
    List.filter_eq_nil_iff, decide_eq_true_eq, not_not]

theorem le01mpChanges_eq_nil :
    document.le01mpChanges = [] ↔ document.Le01mpCurrent := by
  have hif : ∀ {P : Prop} [Decidable P] {change : AuditChange},
      ((if ¬ P then [change] else []) = []) ↔ P := by
    intro P _ change
    split_ifs with hP
    · simp [hP]
    · simp [hP]
  unfold InventoryDocument.le01mpChanges
  simp only [List.append_eq_nil_iff, List.flatMap_eq_nil_iff, List.map_eq_nil_iff,
    missingLe01mpTargets_eq_nil, ne_eq, hif]
  constructor
  · rintro ⟨⟨hdevs, htargets⟩, hregisters⟩
    exact ⟨hdevs, htargets, hregisters⟩
  · rintro ⟨hdevs, htargets, hregisters⟩
    exact ⟨⟨hdevs, htargets⟩, hregisters⟩

theorem le01mpPass_settled_iff {now : String} :
    (le01mpPass now).Settled document ↔ document.Le01mpCurrent := by
  change reconcileLe01mpProfile now document = .ok (document, []) ↔ _
  unfold reconcileLe01mpProfile
  rw [← le01mpChanges_eq_nil]
  split_ifs with hdevs hchanges
  · have hnil : document.le01mpChanges = [] := by
      rw [le01mpChanges_eq_nil]
      have hids : document.le01mpIds = [] := by
        unfold InventoryDocument.le01mpIds
        rw [hdevs]
        rfl
      constructor
      case devices =>
        intro device _
        unfold upgradeLe01mpDevice
        rw [hids, if_neg List.not_mem_nil]
      case targets =>
        intro target _
        unfold upgradeLe01mpTarget
        rw [hids, if_neg List.not_mem_nil]
      case registers =>
        intro device hdev
        rw [hdevs] at hdev
        cases hdev
    simp [hnil]
  · simp [hchanges]
  · constructor
    · intro hrun
      simp only [bind_eq_ok, pure_eq_ok, Prod.mk.injEq] at hrun
      obtain ⟨_, _, _, hnil⟩ := hrun
      exact hnil
    · exact fun hnil => absurd hnil hchanges

theorem reconcileLe01mpProfile_shape {document after : InventoryDocument}
    {now : String} {changes : List AuditChange}
    (hpass : reconcileLe01mpProfile now document = .ok (after, changes)) (hchanges : changes ≠ []) :
    after.devices = document.devices.map (upgradeLe01mpDevice document.le01mpIds) ∧
      after.targets = document.targets.map (upgradeLe01mpTarget document.le01mpIds) ++
        document.missingLe01mpTargets ∧
      after.cadence = document.cadence ∧ after.buses = document.buses := by
  unfold reconcileLe01mpProfile at hpass
  split_ifs at hpass
  · simp only [Except.ok.injEq, Prod.mk.injEq] at hpass
    exact absurd hpass.2.symm hchanges
  · simp only [Except.ok.injEq, Prod.mk.injEq] at hpass
    exact absurd hpass.2.symm hchanges
  · simp only [bind_eq_ok, pure_eq_ok, Prod.mk.injEq] at hpass
    obtain ⟨_, hvalidate, rfl, _⟩ := hpass
    rw [validateDocument_eq hvalidate]
    exact ⟨rfl, rfl, rfl, rfl⟩

theorem upgradeLe01mpDevice_eq_self {ids : List String} :
    upgradeLe01mpDevice ids device = device ↔
      (device.deviceId ∈ ids → device.profileVersion = le01mpProfileVersion) := by
  unfold upgradeLe01mpDevice
  split_ifs with hmem
  · constructor
    · intro hsame _
      exact (congrArg InventoryDevice.profileVersion hsame).symm
    · intro hprofile
      rw [← hprofile hmem]
  · simp [hmem]

theorem upgradeLe01mpTarget_lifecycle (ids : List String)
    (target : InventoryTarget) (lifecycle : String) :
    upgradeLe01mpTarget ids { target with lifecycle } =
      { upgradeLe01mpTarget ids target with lifecycle } := by
  unfold upgradeLe01mpTarget
  dsimp only
  split_ifs
  · cases le01mpRegisters.find? fun register => register.key = target.key with
    | none => rfl
    | some register => rfl
  · rfl

theorem upgradeLe01mpTarget_of_sameTarget {ids others : List String}
    {before after : InventoryTarget} (hsame : SameTarget before after)
    (hids : after.deviceId ∈ others → after.deviceId ∈ ids)
    (hfixed : upgradeLe01mpTarget ids before = before) :
    upgradeLe01mpTarget others after = after := by
  by_cases hmem : after.deviceId ∈ others
  · have hcongr : upgradeLe01mpTarget others after = upgradeLe01mpTarget ids after := by
      unfold upgradeLe01mpTarget
      rw [if_pos hmem, if_pos (hids hmem)]
    have hlife := upgradeLe01mpTarget_lifecycle ids before after.lifecycle
    rw [hfixed] at hlife
    rw [hcongr, hsame]
    exact hlife
  · unfold upgradeLe01mpTarget
    rw [if_neg hmem]

def InventoryDocument.RegistersComplete (document : InventoryDocument) : Prop :=
  ∀ device ∈ document.le01mpDevices, ∀ register ∈ le01mpRegisters,
    document.HasRegister device.deviceId register

section Carries

variable {before after : InventoryDocument}

theorem Carries.le01mp_origin (hcarries : Carries before after)
    {device : InventoryDevice} (hdev : device ∈ after.devices) (hmigrates : device.MigratesLe01mp) :
    ∃ old ∈ before.devices, SameUnit old device ∧ old.MigratesLe01mp := by
  rcases hcarries.device_origin device hdev with
    ⟨old, hold, hsame⟩ | ⟨hfam, _⟩
  · exact ⟨old, hold, hsame, (MigratesLe01mp.of_sameUnit hsame).mp hmigrates⟩
  · exact absurd hmigrates.1 hfam

theorem Carries.le01mpIds (hcarries : Carries before after)
    {deviceId : String} (hid : deviceId ∈ after.le01mpIds) :
    deviceId ∈ before.le01mpIds := by
  obtain ⟨device, hdev, hmigrates, rfl⟩ := mem_le01mpIds.mp hid
  obtain ⟨old, hold, hsame, hmigratesOld⟩ :=
    hcarries.le01mp_origin hdev hmigrates
  exact mem_le01mpIds.mpr ⟨old, hold, hmigratesOld, hsame.deviceId.symm⟩

theorem Carries.hasRegister_iff (hcarries : Carries before after)
    {deviceId : String} (hid : deviceId ∈ before.deviceIds) (register : ProfileRegister) :
    after.HasRegister deviceId register ↔ before.HasRegister deviceId register := by
  constructor
  · rintro ⟨target, htarget, howner, hkey⟩
    rcases hcarries.target_origin target htarget with
      ⟨old, hold, hsame⟩ | hnew
    · exact ⟨old, hold, hsame.deviceId.symm.trans howner, hsame.key.symm.trans hkey⟩
    · rw [howner] at hnew
      exact absurd hid hnew
  · rintro ⟨old, hold, howner, hkey⟩
    obtain ⟨target, htarget, hsame⟩ := hcarries.target_kept old hold
    exact ⟨target, htarget, hsame.deviceId.trans howner, hsame.key.trans hkey⟩

theorem Carries.registersComplete_iff (hcarries : Carries before after) :
    after.RegistersComplete ↔ before.RegistersComplete := by
  constructor
  · intro hcomp old hold register hregr
    obtain ⟨hmem, hmigrates⟩ := mem_le01mpDevices.mp hold
    obtain ⟨device, hdev, hsame⟩ := hcarries.device_kept old hmem
    have hdeviceMigrates := (MigratesLe01mp.of_sameUnit hsame).mpr hmigrates
    have hhas := hcomp device (mem_le01mpDevices.mpr ⟨hdev, hdeviceMigrates⟩) register hregr
    rw [hsame.deviceId] at hhas
    exact (hcarries.hasRegister_iff (deviceId_mem hmem) register).mp hhas
  · intro hcomp device hdev register hregr
    obtain ⟨hmem, hmigrates⟩ := mem_le01mpDevices.mp hdev
    obtain ⟨old, hold, hsame, hmigratesOld⟩ :=
      hcarries.le01mp_origin hmem hmigrates
    rw [hsame.deviceId]
    exact (hcarries.hasRegister_iff (deviceId_mem hold) register).mpr
      (hcomp old (mem_le01mpDevices.mpr ⟨hold, hmigratesOld⟩) register hregr)

theorem Carries.le01mpCurrent (hcarries : Carries before after)
    (hcur : before.Le01mpCurrent) : after.Le01mpCurrent := by
  constructor
  case devices =>
    intro device hdev
    rw [upgradeLe01mpDevice_eq_self]
    intro hid
    obtain ⟨other, hother, hmigrates, hsameId⟩ :=
      mem_le01mpIds.mp (hcarries.le01mpIds hid)
    rcases hcarries.device_origin device hdev with
      ⟨old, hold, hsame⟩ | ⟨_, hnew⟩
    · have hprofile := upgradeLe01mpDevice_eq_self.mp (hcur.devices old hold)
      rw [hsame.profileVersion]
      exact hprofile (hsame.deviceId ▸ hcarries.le01mpIds hid)
    · rw [← hsameId] at hnew
      exact absurd (deviceId_mem hother) hnew
  case targets =>
    intro target htarget
    rcases hcarries.target_origin target htarget with
      ⟨old, hold, hsame⟩ | hnew
    · exact upgradeLe01mpTarget_of_sameTarget hsame hcarries.le01mpIds (hcur.targets old hold)
    · unfold upgradeLe01mpTarget
      rw [if_neg]
      intro hid
      obtain ⟨other, hother, _, hsameId⟩ :=
        mem_le01mpIds.mp (hcarries.le01mpIds hid)
      rw [← hsameId] at hnew
      exact hnew (deviceId_mem hother)
  case registers =>
    exact hcarries.registersComplete_iff.mpr hcur.registers

end Carries

/-- Every register an LE-01MP device lacks is among the targets the upgrade adds
for that device: a device which lacks it too has the Unit ID of its name. -/
def InventoryDocument.LacksReached (document : InventoryDocument) : Prop :=
  ∀ device ∈ document.le01mpDevices, ∀ register ∈ le01mpRegisters,
    document.HasRegister device.deviceId register ∨
      ∃ other ∈ document.le01mpDevices, ¬ document.HasRegister other.deviceId register ∧
          device.deviceId = "le01mp-" ++ toString other.unitId

theorem upgradeLe01mpDevice_deviceId (ids : List String) (device : InventoryDevice) :
    (upgradeLe01mpDevice ids device).deviceId = device.deviceId := by
  unfold upgradeLe01mpDevice
  split_ifs
  · rfl
  · rfl

theorem upgradeLe01mpTarget_deviceId (ids : List String) (target : InventoryTarget) :
    (upgradeLe01mpTarget ids target).deviceId = target.deviceId := by
  unfold upgradeLe01mpTarget
  split_ifs
  · split
    · rfl
    · rfl
  · rfl

theorem upgradeLe01mpTarget_key (ids : List String) (target : InventoryTarget) :
    (upgradeLe01mpTarget ids target).key = target.key := by
  unfold upgradeLe01mpTarget
  split_ifs
  · split
    · rfl
    · rfl
  · rfl

theorem upgradeLe01mpTarget_idem (ids : List String) (target : InventoryTarget) :
    upgradeLe01mpTarget ids (upgradeLe01mpTarget ids target) = upgradeLe01mpTarget ids target := by
  by_cases hmem : target.deviceId ∈ ids
  · unfold upgradeLe01mpTarget
    simp only [if_pos hmem]
    cases hfind : le01mpRegisters.find? fun register =>
        register.key = target.key with
    | none => simp [hmem, hfind]
    | some register => simp [hmem, hfind]
  · have hsame : upgradeLe01mpTarget ids target = target := by
      unfold upgradeLe01mpTarget
      rw [if_neg hmem]
    rw [hsame, hsame]

theorem le01mpRegisters_find : ∀ register ∈ le01mpRegisters,
    (le01mpRegisters.find? fun other => other.key = register.key) = some register := by
  decide

theorem upgradeLe01mpTarget_leTarget (ids : List String) (unitId : ℕ)
    {register : ProfileRegister} (hregr : register ∈ le01mpRegisters) (lifecycle : String) :
    upgradeLe01mpTarget ids (leTarget unitId register lifecycle) =
      leTarget unitId register lifecycle := by
  unfold upgradeLe01mpTarget
  split_ifs
  · have hfind := le01mpRegisters_find register hregr
    rw [show le01mpRegisters.find? (fun other => other.key =
      (leTarget unitId register lifecycle).key) = some register from hfind]
    rfl
  · rfl

theorem mem_missingLe01mpTargets {target : InventoryTarget} :
    target ∈ document.missingLe01mpTargets ↔
      ∃ device ∈ document.le01mpDevices, ∃ register ∈ le01mpRegisters,
        ¬ document.HasRegister device.deviceId register ∧
          leTarget device.unitId register "active" = target := by
  unfold InventoryDocument.missingLe01mpTargets
  simp only [List.mem_flatMap, List.mem_insertionSort, List.mem_map,
    List.mem_filter, decide_eq_true_eq, and_assoc]

theorem hasRegister_congr {deviceId : String}
    {register other : ProfileRegister} (hkey : register.key = other.key) :
    document.HasRegister deviceId register ↔ document.HasRegister deviceId other := by
  unfold InventoryDocument.HasRegister
  rw [hkey]

section Upgrade

variable {before after : InventoryDocument}

theorem le01mpIds_of_upgrade (hvalid : before.Valid)
    (hdevs : after.devices = before.devices.map (upgradeLe01mpDevice before.le01mpIds)) :
    (∀ device ∈ before.devices, (upgradeLe01mpDevice before.le01mpIds device).MigratesLe01mp ↔
        device.MigratesLe01mp) ∧
      ∀ deviceId, deviceId ∈ after.le01mpIds ↔ deviceId ∈ before.le01mpIds := by
  have hmigrates : ∀ device ∈ before.devices,
      (upgradeLe01mpDevice before.le01mpIds device).MigratesLe01mp ↔ device.MigratesLe01mp := by
    intro device hdev
    unfold upgradeLe01mpDevice
    split_ifs with hid
    · obtain ⟨other, hother, hmigrates, hsame⟩ := mem_le01mpIds.mp hid
      have hunique := hvalid.device_unique hother hdev hsame
      rw [hunique] at hmigrates
      refine ⟨fun _ => hmigrates, fun _ => ⟨hmigrates.1, ?_⟩⟩
      simp
    · exact Iff.rfl
  refine ⟨hmigrates, ?_⟩
  intro deviceId
  rw [mem_le01mpIds, mem_le01mpIds]
  constructor
  · rintro ⟨device, hdev, hmigratesDevice, rfl⟩
    rw [hdevs] at hdev
    obtain ⟨old, hold, rfl⟩ := List.mem_map.mp hdev
    exact ⟨old, hold, (hmigrates old hold).mp hmigratesDevice,
      (upgradeLe01mpDevice_deviceId _ _).symm⟩
  · rintro ⟨old, hold, hmigratesOld, rfl⟩
    refine ⟨upgradeLe01mpDevice before.le01mpIds old, ?_,
      (hmigrates old hold).mpr hmigratesOld, upgradeLe01mpDevice_deviceId _ _⟩
    rw [hdevs]
    exact List.mem_map_of_mem hold

theorem hasRegister_of_upgrade
    (htargets : after.targets = before.targets.map
        (upgradeLe01mpTarget before.le01mpIds) ++ before.missingLe01mpTargets)
    (deviceId : String) (register : ProfileRegister) :
    after.HasRegister deviceId register ↔ before.HasRegister deviceId register ∨
        ∃ target ∈ before.missingLe01mpTargets,
          target.deviceId = deviceId ∧ target.key = register.key := by
  unfold InventoryDocument.HasRegister
  rw [htargets]
  simp only [List.mem_append, List.mem_map, or_and_right, exists_or]
  refine or_congr ?_ Iff.rfl
  constructor
  · rintro ⟨_, ⟨target, htarget, rfl⟩, howner, hkey⟩
    rw [upgradeLe01mpTarget_deviceId] at howner
    rw [upgradeLe01mpTarget_key] at hkey
    exact ⟨target, htarget, howner, hkey⟩
  · rintro ⟨target, htarget, howner, hkey⟩
    exact ⟨_, ⟨target, htarget, rfl⟩, (upgradeLe01mpTarget_deviceId _ _).trans howner,
      (upgradeLe01mpTarget_key _ _).trans hkey⟩

theorem registersComplete_of_upgrade (hvalid : before.Valid)
    (hdevs : after.devices = before.devices.map (upgradeLe01mpDevice before.le01mpIds))
    (htargets : after.targets = before.targets.map
        (upgradeLe01mpTarget before.le01mpIds) ++ before.missingLe01mpTargets) :
    after.RegistersComplete ↔ before.LacksReached := by
  obtain ⟨hmigrates, _⟩ := le01mpIds_of_upgrade hvalid hdevs
  have hadded : ∀ deviceId, ∀ register ∈ le01mpRegisters, (∃ target ∈ before.missingLe01mpTargets,
        target.deviceId = deviceId ∧ target.key = register.key) ↔
      ∃ other ∈ before.le01mpDevices, ¬ before.HasRegister other.deviceId register ∧
          deviceId = "le01mp-" ++ toString other.unitId := by
    intro deviceId register hregr
    constructor
    · rintro ⟨target, htarget, howner, hkey⟩
      obtain ⟨other, hother, found, _, hlacks, rfl⟩ :=
        mem_missingLe01mpTargets.mp htarget
      refine ⟨other, hother, ?_, howner.symm⟩
      rw [← hasRegister_congr (show found.key = register.key from hkey)]
      exact hlacks
    · rintro ⟨other, hother, hlacks, hname⟩
      exact ⟨leTarget other.unitId register "active",
        mem_missingLe01mpTargets.mpr ⟨other, hother, register, hregr, hlacks, rfl⟩,
        hname.symm, rfl⟩
  constructor
  · intro hcomp device hdev register hregr
    obtain ⟨hmem, hmigratesDevice⟩ := mem_le01mpDevices.mp hdev
    have hupgraded : upgradeLe01mpDevice before.le01mpIds device ∈ after.le01mpDevices := by
      rw [mem_le01mpDevices, hdevs]
      exact ⟨List.mem_map_of_mem hmem, (hmigrates device hmem).mpr hmigratesDevice⟩
    have hhas := hcomp _ hupgraded register hregr
    rw [upgradeLe01mpDevice_deviceId, hasRegister_of_upgrade htargets] at hhas
    exact hhas.imp_right (hadded _ register hregr).mp
  · intro hreached device hdev register hregr
    obtain ⟨hmem, hmigratesDevice⟩ := mem_le01mpDevices.mp hdev
    rw [hdevs] at hmem
    obtain ⟨old, hold, rfl⟩ := List.mem_map.mp hmem
    rw [upgradeLe01mpDevice_deviceId, hasRegister_of_upgrade htargets]
    have hlacks := hreached old (mem_le01mpDevices.mpr
      ⟨hold, (hmigrates old hold).mp hmigratesDevice⟩) register hregr
    exact hlacks.imp_right (hadded _ register hregr).mpr

theorem le01mpCurrent_of_upgrade (hvalid : before.Valid)
    (hdevs : after.devices = before.devices.map (upgradeLe01mpDevice before.le01mpIds))
    (htargets : after.targets = before.targets.map
        (upgradeLe01mpTarget before.le01mpIds) ++ before.missingLe01mpTargets)
    (hcomp : after.RegistersComplete) : after.Le01mpCurrent := by
  obtain ⟨_, hids⟩ := le01mpIds_of_upgrade hvalid hdevs
  constructor
  case devices =>
    intro device hdev
    rw [upgradeLe01mpDevice_eq_self, hids]
    rw [hdevs] at hdev
    obtain ⟨old, _, rfl⟩ := List.mem_map.mp hdev
    intro hid
    rw [upgradeLe01mpDevice_deviceId] at hid
    unfold upgradeLe01mpDevice
    rw [if_pos hid]
  case targets =>
    intro target htarget
    rw [htargets, List.mem_append] at htarget
    have hfixed : upgradeLe01mpTarget before.le01mpIds target = target := by
      rcases htarget with hold | hadded
      · obtain ⟨old, _, rfl⟩ := List.mem_map.mp hold
        exact upgradeLe01mpTarget_idem _ _
      · obtain ⟨_, _, register, hregr, _, rfl⟩ :=
          mem_missingLe01mpTargets.mp hadded
        exact upgradeLe01mpTarget_leTarget _ _ hregr _
    exact upgradeLe01mpTarget_of_sameTarget (SameTarget.refl target)
      (fun hid => (hids _).mp hid) hfixed
  case registers => exact hcomp

end Upgrade

theorem le01mpPass_current_iff {before after : InventoryDocument} {now : String}
    {changes : List AuditChange} (hvalid : before.Valid)
    (hpass : (le01mpPass now).run before = .ok (after, changes)) :
    after.Le01mpCurrent ↔ before.LacksReached := by
  by_cases hchanges : changes = []
  · subst hchanges
    have hsame := (reconcileLe01mpProfile_nextRevision hpass).unchanged rfl
    subst hsame
    have hcur := le01mpPass_settled_iff.mp hpass
    refine ⟨fun _ device hdev register hregr => ?_, fun _ => hcur⟩
    exact .inl (hcur.registers device hdev register hregr)
  · obtain ⟨hdevs, htargets, _, _⟩ :=
      reconcileLe01mpProfile_shape hpass hchanges
    have hiff := registersComplete_of_upgrade hvalid hdevs htargets
    constructor
    · exact fun hcur => hiff.mp hcur.registers
    · exact fun hreached =>
        le01mpCurrent_of_upgrade hvalid hdevs htargets (hiff.mpr hreached)

end Nexolab
