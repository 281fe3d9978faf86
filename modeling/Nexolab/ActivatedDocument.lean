import Nexolab.CommissioningActivation
import Nexolab.EnrollmentEffects
import Nexolab.RegistryCommits

/-!
# Documents before and after an activation

An activation takes the device and its targets to the polled lifecycle and
leaves the rest of the document alone; a rollback from the snapshot which was
taken before takes them back.  The journalled snapshot tells the two documents
apart unless they are the same.
-/

namespace Nexolab

def SameInventory (document base : InventoryDocument) : Prop :=
  document.devices = base.devices ∧ document.targets = base.targets

def activateDevice (deviceId : String) (device : InventoryDevice) :
    InventoryDevice :=
  if device.deviceId = deviceId then
    { device with lifecycle := pollingLifecycle }
  else device

def activateTarget (deviceId : String) (target : InventoryTarget) :
    InventoryTarget :=
  if target.deviceId = deviceId then
    { target with lifecycle := pollingLifecycle }
  else target

/-- The document is the base with the device and its targets activated. -/
structure Activated (base : InventoryDocument) (deviceId : String)
    (document : InventoryDocument) : Prop where
  devices : document.devices = base.devices.map (activateDevice deviceId)
  targets : document.targets = base.targets.map (activateTarget deviceId)

namespace InventoryDocument

theorem Valid.deviceLifecycle_eq_some {document : InventoryDocument}
    (hvalid : document.Valid) {deviceId lifecycle : String} :
    document.deviceLifecycle deviceId = some lifecycle ↔
      ∃ device ∈ document.devices, device.deviceId = deviceId ∧ device.lifecycle = lifecycle := by
  unfold deviceLifecycle
  simp only [Option.map_eq_some_iff, find?_key_iff hvalid.deviceIds_nodup, and_assoc]

theorem Valid.targetLifecycle_eq_some {document : InventoryDocument}
    (hvalid : document.Valid) {targetId lifecycle : String} :
    document.targetLifecycle targetId = some lifecycle ↔
      ∃ target ∈ document.targets, target.targetId = targetId ∧ target.lifecycle = lifecycle := by
  unfold targetLifecycle
  simp only [Option.map_eq_some_iff, find?_key_iff hvalid.targetIds_nodup, and_assoc]

theorem mem_targetsOf {document : InventoryDocument} {device : InventoryDevice}
    {target : InventoryTarget} :
    target ∈ document.targetsOf device ↔
      target ∈ document.targets ∧ target.deviceId = device.deviceId := by
  unfold targetsOf
  rw [List.mem_filter, decide_eq_true_eq]

theorem Valid.target_unique {document : InventoryDocument}
    (hvalid : document.Valid) {target other : InventoryTarget}
    (htarget : target ∈ document.targets) (hother : other ∈ document.targets)
    (hid : target.targetId = other.targetId) : target = other :=
  List.inj_on_of_nodup_map hvalid.targetIds_nodup htarget hother hid

theorem Valid.snapshot_get? {document : InventoryDocument}
    (hvalid : document.Valid) {device : InventoryDevice}
    {target : InventoryTarget} (htarget : target ∈ document.targetsOf device) :
    (document.snapshotOf device).targetLifecycles.get? target.targetId = some target.lifecycle := by
  refine Dictionary.get?_eq_some_of_unique (List.mem_map.mpr ⟨target, htarget, rfl⟩) ?_
  intro entry hent hid
  obtain ⟨other, hother, rfl⟩ := List.mem_map.mp hent
  rw [hvalid.target_unique (mem_targetsOf.mp hother).1 (mem_targetsOf.mp htarget).1 hid]

end InventoryDocument

section Snapshot

variable {base document : InventoryDocument} {device : InventoryDevice}

theorem holdsIn_of_same (hbase : base.Valid) (hdoc : document.Valid)
    (hdev : device ∈ base.devices) (hsame : SameInventory document base) :
    (base.snapshotOf device).HoldsIn document := by
  constructor
  · rw [hdoc.deviceLifecycle_eq_some, hsame.1]
    exact ⟨device, hdev, rfl, rfl⟩
  · intro targetId htargetId
    obtain ⟨target, htarget, rfl⟩ := List.mem_map.mp htargetId
    rw [hbase.snapshot_get? htarget, hdoc.targetLifecycle_eq_some, hsame.2]
    exact ⟨target, (InventoryDocument.mem_targetsOf.mp htarget).1, rfl, rfl⟩

theorem activeIn_of_activated (hdoc : document.Valid) (hdev : device ∈ base.devices)
    (hactd : Activated base device.deviceId document) :
    (base.snapshotOf device).ActiveIn document := by
  constructor
  · rw [hdoc.deviceLifecycle_eq_some, hactd.devices]
    refine ⟨_, List.mem_map_of_mem hdev, ?_⟩
    unfold activateDevice
    rw [if_pos rfl]
    exact ⟨rfl, rfl⟩
  · intro targetId htargetId
    obtain ⟨target, htarget, rfl⟩ := List.mem_map.mp htargetId
    obtain ⟨hmem, howner⟩ := InventoryDocument.mem_targetsOf.mp htarget
    rw [hdoc.targetLifecycle_eq_some, hactd.targets]
    refine ⟨_, List.mem_map_of_mem hmem, ?_⟩
    unfold activateTarget
    rw [if_pos howner]
    exact ⟨rfl, rfl⟩

/-- The device and its targets are polled in the base already. -/
structure AllActive (base : InventoryDocument) (owner : InventoryDevice) :
    Prop where
  device : owner.lifecycle = pollingLifecycle
  targets : ∀ target ∈ base.targetsOf owner, target.lifecycle = pollingLifecycle

theorem AllActive.activated_iff (hbase : base.Valid)
    (hdev : device ∈ base.devices) (hall : AllActive base device) :
    Activated base device.deviceId document ↔ SameInventory document base := by
  have hdevs : base.devices.map (activateDevice device.deviceId) = base.devices := by
    refine (List.map_congr_left fun other hother => ?_).trans (List.map_id _)
    unfold activateDevice
    split_ifs with hid
    · have hsame := hbase.device_unique hother hdev hid
      rw [← hall.device, ← hsame]
      rfl
    · rfl
  have htargets : base.targets.map (activateTarget device.deviceId) = base.targets := by
    refine (List.map_congr_left fun other hother => ?_).trans (List.map_id _)
    unfold activateTarget
    split_ifs with hid
    · rw [← hall.targets other (InventoryDocument.mem_targetsOf.mpr ⟨hother, hid⟩)]
      rfl
    · rfl
  constructor
  · intro hactd
    exact ⟨hactd.devices.trans hdevs, hactd.targets.trans htargets⟩
  · rintro ⟨hsameDevices, hsameTargets⟩
    exact ⟨hsameDevices.trans hdevs.symm, hsameTargets.trans htargets.symm⟩

theorem allActive_of_both (hbase : base.Valid) (hact : (base.snapshotOf device).ActiveIn document)
    (hholds : (base.snapshotOf device).HoldsIn document) :
    AllActive base device := by
  constructor
  case device =>
    exact Option.some.inj (hholds.1.symm.trans hact.1)
  case targets =>
    intro target htarget
    have hid : target.targetId ∈ (base.snapshotOf device).targetIds :=
      List.mem_map_of_mem htarget
    have hlife := (hholds.2 _ hid).symm.trans (hact.2 _ hid)
    rw [hbase.snapshot_get? htarget] at hlife
    exact Option.some.inj hlife

/-- The document of an activation in progress: before the commit or after it. -/
def Staged (base : InventoryDocument) (device : InventoryDevice)
    (document : InventoryDocument) : Prop :=
  SameInventory document base ∨ Activated base device.deviceId document

theorem Staged.same_of_holds (hbase : base.Valid) (hdoc : document.Valid)
    (hdev : device ∈ base.devices) (hstaged : Staged base device document)
    (hholds : (base.snapshotOf device).HoldsIn document) :
    SameInventory document base := by
  rcases hstaged with hsame | hactd
  · exact hsame
  · have hall := allActive_of_both hbase (activeIn_of_activated hdoc hdev hactd) hholds
    exact (hall.activated_iff hbase hdev).mp hactd

theorem Staged.activated_of_active (hbase : base.Valid)
    (hdoc : document.Valid) (hdev : device ∈ base.devices) (hstaged : Staged base device document)
    (hact : (base.snapshotOf device).ActiveIn document) :
    Activated base device.deviceId document := by
  rcases hstaged with hsame | hactd
  · have hall := allActive_of_both hbase hact (holdsIn_of_same hbase hdoc hdev hsame)
    exact (hall.activated_iff hbase hdev).mpr hsame
  · exact hactd

theorem Staged.preparedState (hbase : base.Valid) (hdoc : document.Valid)
    (hdev : device ∈ base.devices) (hstaged : Staged base device document) :
    (preparedActivationState document (base.snapshotOf device) = .active ∧
        Activated base device.deviceId document) ∨
      (preparedActivationState document (base.snapshotOf device) = .rollback ∧
        SameInventory document base) := by
  unfold preparedActivationState
  by_cases hact : (base.snapshotOf device).ActiveIn document
  · rw [if_pos hact]
    exact .inl ⟨rfl, hstaged.activated_of_active hbase hdoc hdev hact⟩
  · have hsame : SameInventory document base := by
      rcases hstaged with hsame | hactd
      · exact hsame
      · exact absurd (activeIn_of_activated hdoc hdev hactd) hact
    rw [if_neg hact, if_pos (holdsIn_of_same hbase hdoc hdev hsame)]
    exact .inr ⟨rfl, hsame⟩

end Snapshot

/-! ## Commits of lifecycles -/

def NormalLifecycle (lifecycle : String) : Prop :=
  validateLifecycle lifecycle = .ok lifecycle

theorem normalLifecycle_polling : NormalLifecycle pollingLifecycle := by
  unfold NormalLifecycle
  decide +kernel

structure InventoryDocument.LifecyclesNormal (document : InventoryDocument) :
    Prop where
  devices : ∀ device ∈ document.devices, NormalLifecycle device.lifecycle
  targets : ∀ target ∈ document.targets, NormalLifecycle target.lifecycle

/-- The lifecycles requested for the device of a snapshot, each found by the
function from the one in the snapshot; polled ones are passed over. -/
def requestedDevice (snapshot : ActivationSnapshot) (choose : String → String) :
    Dictionary String String :=
  if snapshot.deviceLifecycle = pollingLifecycle then []
  else [(snapshot.deviceId, choose snapshot.deviceLifecycle)]

def requestedTargets (snapshot : ActivationSnapshot)
    (choose : String → String) : Dictionary String String :=
  (snapshot.targetLifecycles.filter fun entry =>
    entry.2 ≠ pollingLifecycle).map fun entry => (entry.1, choose entry.2)

section Requested

variable {base : InventoryDocument} {device : InventoryDevice}
  {choose : String → String}

variable {other : InventoryDevice} {target : InventoryTarget}

theorem requestedDevice_get? (hbase : base.Valid) (hdev : device ∈ base.devices)
    (hother : other ∈ base.devices) :
    (requestedDevice (base.snapshotOf device) choose).get? other.deviceId =
      if other.deviceId = device.deviceId ∧
          other.lifecycle ≠ pollingLifecycle then some (choose other.lifecycle)
      else none := by
  unfold requestedDevice
  change Dictionary.get? (if device.lifecycle = pollingLifecycle then []
    else [(device.deviceId, choose device.lifecycle)]) other.deviceId = _
  by_cases hid : other.deviceId = device.deviceId
  · have hsame := hbase.device_unique hother hdev hid
    subst hsame
    by_cases hpolled : other.lifecycle = pollingLifecycle
    · rw [if_pos hpolled, if_neg (fun hboth => hboth.2 hpolled)]
      rfl
    · rw [if_neg hpolled, if_pos ⟨rfl, hpolled⟩, Dictionary.get?_cons, if_pos rfl]
  · have hneither : ¬(other.deviceId = device.deviceId ∧
        other.lifecycle ≠ pollingLifecycle) := fun hboth => hid hboth.1
    rw [if_neg hneither]
    by_cases hpolled : device.lifecycle = pollingLifecycle
    · rw [if_pos hpolled]
      rfl
    · rw [if_neg hpolled, Dictionary.get?_cons, if_neg (fun hsame => hid hsame.symm)]
      rfl

theorem requestedTargets_get? (hbase : base.Valid) (htarget : target ∈ base.targets) :
    (requestedTargets (base.snapshotOf device) choose).get? target.targetId =
      if target.deviceId = device.deviceId ∧ target.lifecycle ≠ pollingLifecycle then
        some (choose target.lifecycle)
      else none := by
  have hmem : ∀ entry ∈ requestedTargets (base.snapshotOf device) choose,
      ∃ other ∈ base.targets, other.deviceId = device.deviceId ∧
        other.lifecycle ≠ pollingLifecycle ∧
        entry = (other.targetId, choose other.lifecycle) := by
    intro entry hent
    obtain ⟨old, hold, rfl⟩ := List.mem_map.mp hent
    obtain ⟨holdMem, hpolled⟩ := List.mem_filter.mp hold
    obtain ⟨other, hother, rfl⟩ := List.mem_map.mp holdMem
    obtain ⟨hotherMem, howner⟩ := InventoryDocument.mem_targetsOf.mp hother
    exact ⟨other, hotherMem, howner, by simpa using hpolled, rfl⟩
  split_ifs with hboth
  · refine Dictionary.get?_eq_some_of_unique ?_ ?_
    · refine List.mem_map.mpr ⟨(target.targetId, target.lifecycle), ?_, rfl⟩
      refine List.mem_filter.mpr ⟨?_, by simpa using hboth.2⟩
      exact List.mem_map.mpr ⟨target, InventoryDocument.mem_targetsOf.mpr ⟨htarget, hboth.1⟩, rfl⟩
    · intro entry hent hid
      obtain ⟨other, hother, _, _, rfl⟩ := hmem entry hent
      rw [hbase.target_unique hother htarget hid]
  · rw [Dictionary.get?_eq_none_iff]
    intro hkey
    obtain ⟨entry, hent, hid⟩ := List.mem_map.mp hkey
    obtain ⟨other, hother, howner, hpolled, rfl⟩ := hmem entry hent
    have hsame := hbase.target_unique hother htarget hid
    subst hsame
    exact hboth ⟨howner, hpolled⟩

theorem mutateDevice_activates (hbase : base.Valid) (hdev : device ∈ base.devices)
    (hother : other ∈ base.devices) :
    mutateDevice (requestedDevice (base.snapshotOf device) fun _ =>
      pollingLifecycle) other = activateDevice device.deviceId other := by
  unfold mutateDevice activateDevice
  rw [requestedDevice_get? hbase hdev hother]
  by_cases hid : other.deviceId = device.deviceId
  · rw [if_pos hid]
    by_cases hpolled : other.lifecycle = pollingLifecycle
    · rw [if_neg (fun hboth => hboth.2 hpolled), Option.getD_none, hpolled]
    · rw [if_pos ⟨hid, hpolled⟩, Option.getD_some]
  · rw [if_neg hid, if_neg (fun hboth => hid hboth.1), Option.getD_none]

theorem mutateTarget_activates (hbase : base.Valid) (htarget : target ∈ base.targets) :
    mutateTarget (requestedTargets (base.snapshotOf device) fun _ =>
      pollingLifecycle) target = activateTarget device.deviceId target := by
  unfold mutateTarget activateTarget
  rw [requestedTargets_get? hbase htarget]
  by_cases hid : target.deviceId = device.deviceId
  · rw [if_pos hid]
    by_cases hpolled : target.lifecycle = pollingLifecycle
    · rw [if_neg (fun hboth => hboth.2 hpolled), Option.getD_none, hpolled]
    · rw [if_pos ⟨hid, hpolled⟩, Option.getD_some]
  · rw [if_neg hid, if_neg (fun hboth => hid hboth.1), Option.getD_none]

theorem mutateDevice_restores (hbase : base.Valid) (hdev : device ∈ base.devices)
    (hother : other ∈ base.devices) :
    mutateDevice (requestedDevice (base.snapshotOf device) id)
      (activateDevice device.deviceId other) = other := by
  have hget : (requestedDevice (base.snapshotOf device) id).get?
      other.deviceId = if other.deviceId = device.deviceId ∧
        other.lifecycle ≠ pollingLifecycle then some (id other.lifecycle)
      else none :=
    requestedDevice_get? hbase hdev hother
  unfold activateDevice
  by_cases hid : other.deviceId = device.deviceId
  · rw [if_pos hid]
    unfold mutateDevice
    dsimp only
    rw [hget]
    by_cases hpolled : other.lifecycle = pollingLifecycle
    · rw [if_neg (fun hboth => hboth.2 hpolled), Option.getD_none, ← hpolled]
    · rw [if_pos ⟨hid, hpolled⟩, Option.getD_some]
      rfl
  · rw [if_neg hid]
    unfold mutateDevice
    rw [hget, if_neg (fun hboth => hid hboth.1), Option.getD_none]

theorem mutateTarget_restores (hbase : base.Valid) (htarget : target ∈ base.targets) :
    mutateTarget (requestedTargets (base.snapshotOf device) id)
      (activateTarget device.deviceId target) = target := by
  have hget : (requestedTargets (base.snapshotOf device) id).get?
      target.targetId = if target.deviceId = device.deviceId ∧
        target.lifecycle ≠ pollingLifecycle then some (id target.lifecycle)
      else none :=
    requestedTargets_get? hbase htarget
  unfold activateTarget
  by_cases hid : target.deviceId = device.deviceId
  · rw [if_pos hid]
    unfold mutateTarget
    dsimp only
    rw [hget]
    by_cases hpolled : target.lifecycle = pollingLifecycle
    · rw [if_neg (fun hboth => hboth.2 hpolled), Option.getD_none, ← hpolled]
    · rw [if_pos ⟨hid, hpolled⟩, Option.getD_some]
      rfl
  · rw [if_neg hid]
    unfold mutateTarget
    rw [hget, if_neg (fun hboth => hid hboth.1), Option.getD_none]

end Requested

section Commit

variable {base document after : InventoryDocument} {device : InventoryDevice}
  {now : String} {changes : List AuditChange}

def deviceMutations (requested : Dictionary String String) :
    List DeviceLifecycleMutation :=
  requested.map fun entry => ⟨entry.1, entry.2⟩

def targetMutations (requested : Dictionary String String) :
    List LifecycleMutation :=
  requested.map fun entry => ⟨entry.1, entry.2⟩

theorem withMutations_normal {devices targets : Dictionary String String}
    (hdevs : ∀ entry ∈ devices, NormalLifecycle entry.2)
    (htargets : ∀ entry ∈ targets, NormalLifecycle entry.2)
    (hmutate : document.withMutations (deviceMutations devices)
      (targetMutations targets) now = .ok (after, changes)) :
    after.devices = document.devices.map (mutateDevice devices) ∧
      after.targets = document.targets.map (mutateTarget targets) := by
  obtain ⟨requestedDevices, requestedTargets, hrequestedDevices,
    hrequestedTargets, hafterDevices, hafterTargets, _, _⟩ :=
    withMutations_shape hmutate
  unfold deviceMutations at hrequestedDevices
  unfold targetMutations at hrequestedTargets
  rw [List.map_map] at hrequestedDevices hrequestedTargets
  change requestedLifecycles (devices.map id) = _ at hrequestedDevices
  change requestedLifecycles (targets.map id) = _ at hrequestedTargets
  rw [List.map_id, requestedLifecycles_normal hdevs, Except.ok.injEq] at hrequestedDevices
  rw [List.map_id, requestedLifecycles_normal htargets, Except.ok.injEq] at hrequestedTargets
  subst hrequestedDevices
  subst hrequestedTargets
  exact ⟨hafterDevices, hafterTargets⟩

theorem requestedDevice_normal {choose : String → String}
    (hnormal : NormalLifecycle (choose device.lifecycle)) :
    ∀ entry ∈ requestedDevice (base.snapshotOf device) choose, NormalLifecycle entry.2 := by
  intro entry hent
  unfold requestedDevice at hent
  split_ifs at hent
  · exact nomatch hent
  · rw [List.mem_singleton] at hent
    rw [hent]
    exact hnormal

theorem requestedTargets_normal {choose : String → String}
    (hnormal : ∀ target ∈ base.targets, NormalLifecycle (choose target.lifecycle)) :
    ∀ entry ∈ requestedTargets (base.snapshotOf device) choose, NormalLifecycle entry.2 := by
  intro entry hent
  obtain ⟨old, hold, rfl⟩ := List.mem_map.mp hent
  obtain ⟨target, htarget, rfl⟩ := List.mem_map.mp (List.mem_filter.mp hold).1
  exact hnormal target (InventoryDocument.mem_targetsOf.mp htarget).1

theorem withMutations_activates (hbase : base.Valid)
    (hdev : device ∈ base.devices) (hsame : SameInventory document base)
    (hmutate : document.withMutations
      (deviceMutations (requestedDevice (base.snapshotOf device) fun _ =>
        pollingLifecycle))
      (targetMutations (requestedTargets (base.snapshotOf device) fun _ =>
        pollingLifecycle)) now = .ok (after, changes)) :
    Activated base device.deviceId after := by
  have hdeviceNormal : ∀ entry ∈ requestedDevice (base.snapshotOf device)
      fun _ => pollingLifecycle, NormalLifecycle entry.2 :=
    requestedDevice_normal normalLifecycle_polling
  have htargetNormal : ∀ entry ∈ requestedTargets (base.snapshotOf device)
      fun _ => pollingLifecycle, NormalLifecycle entry.2 :=
    requestedTargets_normal fun _ _ => normalLifecycle_polling
  obtain ⟨hdevs, htargets⟩ :=
    withMutations_normal hdeviceNormal htargetNormal hmutate
  constructor
  case devices =>
    rw [hdevs, hsame.1]
    exact List.map_congr_left fun other hother =>
      mutateDevice_activates hbase hdev hother
  case targets =>
    rw [htargets, hsame.2]
    exact List.map_congr_left fun target htarget =>
      mutateTarget_activates hbase htarget

theorem withMutations_restores (hbase : base.Valid)
    (hnormal : base.LifecyclesNormal) (hdev : device ∈ base.devices)
    (hactd : Activated base device.deviceId document)
    (hmutate : document.withMutations
      (deviceMutations (requestedDevice (base.snapshotOf device) id))
      (targetMutations (requestedTargets (base.snapshotOf device) id)) now = .ok (after, changes)) :
    SameInventory after base := by
  have hdeviceNormal : ∀ entry ∈ requestedDevice (base.snapshotOf device) id,
      NormalLifecycle entry.2 :=
    requestedDevice_normal (hnormal.devices device hdev)
  have htargetNormal : ∀ entry ∈ requestedTargets (base.snapshotOf device) id,
      NormalLifecycle entry.2 :=
    requestedTargets_normal fun target htarget => hnormal.targets target htarget
  obtain ⟨hdevs, htargets⟩ :=
    withMutations_normal hdeviceNormal htargetNormal hmutate
  constructor
  · rw [hdevs, hactd.devices, List.map_map]
    refine (List.map_congr_left fun other hother => ?_).trans (List.map_id _)
    exact mutateDevice_restores hbase hdev hother
  · rw [htargets, hactd.targets, List.map_map]
    refine (List.map_congr_left fun target htarget => ?_).trans (List.map_id _)
    exact mutateTarget_restores hbase htarget

end Commit

/-- The document has the devices and targets of the start as they were, and
others after them which are not polled. -/
structure EnrolledOnly (start document : InventoryDocument) : Prop where
  devices : ∃ added, document.devices = start.devices ++ added ∧
    ∀ device ∈ added, device.lifecycle ∈ ["discovery_only", "reserve"]
  targets : ∃ added, document.targets = start.targets ++ added ∧
    ∀ target ∈ added, target.lifecycle ∈ ["discovery_only", "reserve"]

theorem enrolledOnly_refl (start : InventoryDocument) :
    EnrolledOnly start start :=
  ⟨⟨[], (List.append_nil _).symm, fun _ hdev => nomatch hdev⟩,
    ⟨[], (List.append_nil _).symm, fun _ htarget => nomatch htarget⟩⟩

theorem EnrolledOnly.trans {start middle document : InventoryDocument}
    (hfirst : EnrolledOnly start middle) (hsecond : EnrolledOnly middle document) :
    EnrolledOnly start document := by
  obtain ⟨firstDevices, hfirstDevices, hfirstAdded⟩ := hfirst.devices
  obtain ⟨firstTargets, hfirstTargets, hfirstOwned⟩ := hfirst.targets
  obtain ⟨devices, hdevs, hadded⟩ := hsecond.devices
  obtain ⟨targets, htargets, howned⟩ := hsecond.targets
  constructor
  case devices =>
    refine ⟨firstDevices ++ devices, ?_, ?_⟩
    · rw [hdevs, hfirstDevices, List.append_assoc]
    · intro device hdev
      rcases List.mem_append.mp hdev with hold | hnew
      · exact hfirstAdded device hold
      · exact hadded device hnew
  case targets =>
    refine ⟨firstTargets ++ targets, ?_, ?_⟩
    · rw [htargets, hfirstTargets, List.append_assoc]
    · intro target htarget
      rcases List.mem_append.mp htarget with hold | hnew
      · exact hfirstOwned target hold
      · exact howned target hnew

theorem EnrolledOnly.of_same {start base document : InventoryDocument}
    (henrolled : EnrolledOnly start base) (hsame : SameInventory document base) :
    EnrolledOnly start document := by
  constructor
  · rw [hsame.1]
    exact henrolled.devices
  · rw [hsame.2]
    exact henrolled.targets

theorem normalLifecycle_enrolled {lifecycle : String}
    (hlife : lifecycle ∈ ["discovery_only", "reserve"]) :
    NormalLifecycle lifecycle := by
  unfold NormalLifecycle
  simp only [List.mem_cons, List.not_mem_nil, or_false] at hlife
  rcases hlife with rfl | rfl
  · decide +kernel
  · decide +kernel

theorem EnrolledOnly.lifecyclesNormal {start document : InventoryDocument}
    (henrolled : EnrolledOnly start document)
    (hnormal : start.LifecyclesNormal) : document.LifecyclesNormal := by
  obtain ⟨devices, hdevs, hadded⟩ := henrolled.devices
  obtain ⟨targets, htargets, howned⟩ := henrolled.targets
  constructor
  case devices =>
    intro device hdev
    rw [hdevs] at hdev
    rcases List.mem_append.mp hdev with hold | hnew
    · exact hnormal.devices device hold
    · exact normalLifecycle_enrolled (hadded device hnew)
  case targets =>
    intro target htarget
    rw [htargets] at htarget
    rcases List.mem_append.mp htarget with hold | hnew
    · exact hnormal.targets target hold
    · exact normalLifecycle_enrolled (howned target hnew)

theorem enroll_enrolledOnly {profile : EnrollmentProfile}
    (howns : profile.OwnsTargets) {before after : InventoryDocument}
    {unitIds : List ℕ} {lifecycle now : String}
    {busForUnit : Option (ℕ → Except RegistryFault String)} {changes : List AuditChange}
    (hlife : lifecycle ∈ ["discovery_only", "reserve"])
    (henroll : profile.enroll before unitIds lifecycle busForUnit now =
      .ok (after, changes)) (hchanges : changes ≠ []) :
    EnrolledOnly before after := by
  obtain ⟨desired, added, hdesired, hext⟩ :=
    EnrollmentProfile.enroll_extends henroll hchanges
  have hnormal := normalLifecycle_enrolled hlife
  unfold NormalLifecycle at hnormal
  rw [hnormal] at hdesired
  cases hdesired
  constructor
  case devices =>
    refine ⟨_, hext.devices, ?_⟩
    intro device hdev
    obtain ⟨addition, _, rfl⟩ := List.mem_map.mp hdev
    exact hlife
  case targets =>
    refine ⟨_, hext.targets, ?_⟩
    intro target htarget
    obtain ⟨addition, _, hmem⟩ := List.mem_flatMap.mp htarget
    rw [(howns addition.1 lifecycle target hmem).2]
    exact hlife

theorem xjp60dEnrollment_owns : xjp60dEnrollment.OwnsTargets := by
  intro unitId lifecycle target htarget
  obtain ⟨probe, _, rfl⟩ := List.mem_map.mp htarget
  exact ⟨rfl, rfl⟩

theorem discoveryEnrollment_owns :
    RegistryStore.discoveryEnrollment.OwnsTargets :=
  xjp60dEnrollment_owns

theorem le01mpEnrollment_owns : le01mpEnrollment.OwnsTargets := by
  intro unitId lifecycle target htarget
  obtain ⟨register, _, rfl⟩ := List.mem_map.mp htarget
  exact ⟨rfl, rfl⟩

end Nexolab
