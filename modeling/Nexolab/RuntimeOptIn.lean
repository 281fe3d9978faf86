import Nexolab.Le01mpUpgrade

/-!
# The runtime opt-in

The opt-in gives the devices of a family and their targets the lifecycle which
the configured units call for, and finds nothing to do in a document which
follows it.  The passes over other families keep such a document.
-/

namespace Nexolab

/-! ## Runtime opt-in -/

/-- The devices of the family and their targets have the lifecycle which the
configured units give them. -/
structure InventoryDocument.FollowsOptIn (document : InventoryDocument)
    (family : String) (configured : List ℕ) : Prop where
  devices : ∀ device ∈ document.devices, device.deviceFamily = family →
    device.lifecycle = runtimeLifecycle configured device.unitId
  targets : ∀ target ∈ document.targets, ∀ device ∈ document.devices,
    device.deviceFamily = family → device.deviceId = target.deviceId →
      target.lifecycle = runtimeLifecycle configured device.unitId

def followDevice (family : String) (configured : List ℕ)
    (device : InventoryDevice) : InventoryDevice :=
  if device.deviceFamily = family then
    { device with lifecycle := runtimeLifecycle configured device.unitId }
  else device

def InventoryDocument.followTarget (document : InventoryDocument)
    (family : String) (configured : List ℕ) (target : InventoryTarget) :
    InventoryTarget :=
  match (document.familyDevices family).find? fun device =>
      device.deviceId = target.deviceId with
  | none => target
  | some device =>
    { target with lifecycle := runtimeLifecycle configured device.unitId }

variable {document : InventoryDocument}

theorem familyDevices_find (hvalid : document.Valid) {family deviceId : String}
    {device : InventoryDevice} :
    ((document.familyDevices family).find? fun other =>
        other.deviceId = deviceId) = some device ↔
      device ∈ document.devices ∧ device.deviceFamily = family ∧ device.deviceId = deviceId := by
  have hnodup : ((document.familyDevices family).map (·.deviceId)).Nodup :=
    hvalid.deviceIds_nodup.sublist (List.filter_sublist.map _)
  have hiff : ((document.familyDevices family).find? fun other =>
      other.deviceId = deviceId) = some device ↔
      device ∈ document.familyDevices family ∧ device.deviceId = deviceId :=
    find?_key_iff hnodup
  rw [hiff]
  unfold InventoryDocument.familyDevices
  simp only [List.mem_filter, decide_eq_true_eq, and_assoc]

theorem validateLifecycle_runtime (configured : List ℕ) (unitId : ℕ) :
    validateLifecycle (runtimeLifecycle configured unitId) =
      .ok (runtimeLifecycle configured unitId) := by
  unfold runtimeLifecycle
  split_ifs
  · decide +kernel
  · decide +kernel

theorem requestedLifecycles_normal {mutations : List (String × String)}
    (hnormal : ∀ mutation ∈ mutations, validateLifecycle mutation.2 = .ok mutation.2) :
    requestedLifecycles mutations = .ok mutations := by
  unfold requestedLifecycles
  induction mutations with
  | nil => rfl
  | cons mutation rest ih =>
    have hfirst := hnormal mutation List.mem_cons_self
    have hrest := ih fun other hother =>
      hnormal other (List.mem_cons_of_mem _ hother)
    rw [List.mapM_cons, hrest, hfirst]
    rfl

theorem withMutations_shape {document after : InventoryDocument}
    {deviceMutations : List DeviceLifecycleMutation}
    {targetMutations : List LifecycleMutation} {now : String} {changes : List AuditChange}
    (hmutate : document.withMutations deviceMutations targetMutations now = .ok (after, changes)) :
    ∃ devices targets, requestedLifecycles (deviceMutations.map fun item =>
        (item.deviceId, item.lifecycle)) = .ok devices ∧
      requestedLifecycles (targetMutations.map fun item =>
        (item.targetId, item.lifecycle)) = .ok targets ∧
      after.devices = document.devices.map (mutateDevice devices) ∧
      after.targets = document.targets.map (mutateTarget targets) ∧
      after.cadence = document.cadence ∧ after.buses = document.buses := by
  simp only [InventoryDocument.withMutations, bind_eq_ok, refuseIf_eq_ok,
    pure_eq_ok, Prod.mk.injEq] at hmutate
  obtain ⟨_, _, _, _, devices, hdevs, targets, htargets, _, _, _, _, _, _, _,
    hvalidate, rfl, _⟩ := hmutate
  rw [validateDocument_eq hvalidate]
  exact ⟨devices, targets, hdevs, htargets, rfl, rfl, rfl, rfl⟩

theorem mem_optInDeviceMutations {family : String} {configured : List ℕ}
    {mutation : DeviceLifecycleMutation} :
    mutation ∈ document.optInDeviceMutations family configured ↔
      ∃ device ∈ document.devices, device.deviceFamily = family ∧
        device.lifecycle ≠ runtimeLifecycle configured device.unitId ∧
        mutation = ⟨device.deviceId, runtimeLifecycle configured device.unitId⟩ := by
  unfold InventoryDocument.optInDeviceMutations InventoryDocument.familyDevices
  simp only [List.mem_map, List.mem_filter, decide_eq_true_eq, and_assoc, eq_comm (b := mutation)]

theorem mem_optInTargetMutations (hvalid : document.Valid) {family : String} {configured : List ℕ}
    {mutation : LifecycleMutation} :
    mutation ∈ document.optInTargetMutations family configured ↔
      ∃ target ∈ document.targets, ∃ device ∈ document.devices,
        device.deviceFamily = family ∧ device.deviceId = target.deviceId ∧
        target.lifecycle ≠ runtimeLifecycle configured device.unitId ∧
        mutation = ⟨target.targetId, runtimeLifecycle configured device.unitId⟩ := by
  unfold InventoryDocument.optInTargetMutations
  simp only [List.mem_filterMap]
  refine exists_congr fun target => and_congr_right fun _ => ?_
  unfold InventoryDocument.optInTargetMutation
  constructor
  · intro hmutation
    split at hmutation
    next => cases hmutation
    next device hfind =>
      obtain ⟨hdev, hfam, hid⟩ := (familyDevices_find hvalid).mp hfind
      split_ifs at hmutation with hlife
      exact ⟨device, hdev, hfam, hid, hlife, (Option.some.inj hmutation).symm⟩
  · rintro ⟨device, hdev, hfam, hid, hlife, rfl⟩
    rw [(familyDevices_find hvalid).mpr ⟨hdev, hfam, hid⟩]
    simp only [if_pos hlife]

theorem reconcileRuntimeOptIn_settled_iff
    (hvalid : document.Valid) {family now : String} {configured : List ℕ} :
    reconcileRuntimeOptIn family configured now document = .ok (document, []) ↔
      document.FollowsOptIn family configured := by
  have hnil : document.optInDeviceMutations family configured = [] ∧
      document.optInTargetMutations family configured = [] ↔
        document.FollowsOptIn family configured := by
    simp only [List.eq_nil_iff_forall_not_mem, mem_optInDeviceMutations,
      mem_optInTargetMutations hvalid]
    constructor
    · rintro ⟨hdevs, htargets⟩
      constructor
      case devices =>
        intro device hdev hfam
        by_contra hlife
        exact hdevs _ ⟨device, hdev, hfam, hlife, rfl⟩
      case targets =>
        intro target htarget device hdev hfam hid
        by_contra hlife
        exact htargets _
          ⟨target, htarget, device, hdev, hfam, hid, hlife, rfl⟩
    · intro hfollows
      constructor
      · rintro _ ⟨device, hdev, hfam, hlife, _⟩
        exact hlife (hfollows.devices device hdev hfam)
      · rintro _ ⟨target, htarget, device, hdev, hfam, hid, hlife, _⟩
        exact hlife (hfollows.targets target htarget device hdev hfam hid)
  rw [← hnil]
  unfold reconcileRuntimeOptIn
  split_ifs with hsettled
  · simp [hsettled]
  · constructor
    · intro hmutate
      exact absurd rfl (withMutations_nextRevision hmutate).2
    · exact fun hboth => absurd hboth hsettled

theorem mutateDevice_optIn (hvalid : document.Valid) (family : String) (configured : List ℕ)
    {device : InventoryDevice} (hdev : device ∈ document.devices) :
    mutateDevice ((document.optInDeviceMutations family configured).map
        fun item => (item.deviceId, item.lifecycle)) device =
      followDevice family configured device := by
  unfold mutateDevice followDevice
  have hents : ∀ entry ∈ (document.optInDeviceMutations family configured).map
      (fun item => (item.deviceId, item.lifecycle)),
      entry.1 = device.deviceId → device.deviceFamily = family ∧
        entry.2 = runtimeLifecycle configured device.unitId := by
    intro entry hent hkey
    obtain ⟨_, hmutation, rfl⟩ := List.mem_map.mp hent
    obtain ⟨other, hother, hfam, _, rfl⟩ :=
      mem_optInDeviceMutations.mp hmutation
    rw [← hvalid.device_unique hother hdev hkey]
    exact ⟨hfam, rfl⟩
  by_cases hmutated : device.deviceFamily = family ∧
      device.lifecycle ≠ runtimeLifecycle configured device.unitId
  · have hmem : (device.deviceId, runtimeLifecycle configured device.unitId) ∈
        (document.optInDeviceMutations family configured).map
          (fun item => (item.deviceId, item.lifecycle)) :=
      List.mem_map.mpr ⟨_, mem_optInDeviceMutations.mpr
        ⟨device, hdev, hmutated.1, hmutated.2, rfl⟩, rfl⟩
    have hget := Dictionary.get?_eq_some_of_unique hmem
      fun entry hent hkey => (hents entry hent hkey).2
    rw [if_pos hmutated.1, hget]
    rfl
  · have hget : Dictionary.get? ((document.optInDeviceMutations family configured).map
          fun item => (item.deviceId, item.lifecycle)) device.deviceId = none := by
      rw [Dictionary.get?_eq_none_iff]
      intro hkey
      obtain ⟨entry, hent, hsame⟩ := List.mem_map.mp hkey
      obtain ⟨_, hmutation, rfl⟩ := List.mem_map.mp hent
      obtain ⟨other, hother, hfam, hlife, rfl⟩ :=
        mem_optInDeviceMutations.mp hmutation
      rw [hvalid.device_unique hother hdev hsame] at hfam hlife
      exact hmutated ⟨hfam, hlife⟩
    rw [hget, Option.getD_none]
    split_ifs with hfam
    · have hsame : device.lifecycle = runtimeLifecycle configured device.unitId :=
        by_contra fun hne => hmutated ⟨hfam, hne⟩
      rw [← hsame]
    · rfl

theorem mutateTarget_optIn (hvalid : document.Valid) (family : String) (configured : List ℕ)
    {target : InventoryTarget} (htarget : target ∈ document.targets) :
    mutateTarget ((document.optInTargetMutations family configured).map
        fun item => (item.targetId, item.lifecycle)) target =
      document.followTarget family configured target := by
  unfold mutateTarget InventoryDocument.followTarget
  have hunique : ∀ other ∈ document.targets, other.targetId = target.targetId →
      other = target := fun other hother hid =>
    List.inj_on_of_nodup_map hvalid.targetIds_nodup hother htarget hid
  cases howner : (document.familyDevices family).find? fun device =>
      device.deviceId = target.deviceId with
  | none =>
    have hget : Dictionary.get? ((document.optInTargetMutations family configured).map
          fun item => (item.targetId, item.lifecycle)) target.targetId =
        none := by
      rw [Dictionary.get?_eq_none_iff]
      intro hkey
      obtain ⟨entry, hent, hsame⟩ := List.mem_map.mp hkey
      obtain ⟨_, hmutation, rfl⟩ := List.mem_map.mp hent
      obtain ⟨other, hother, device, hdev, hfam, hid, _, rfl⟩ :=
        (mem_optInTargetMutations hvalid).mp hmutation
      rw [hunique other hother hsame] at hid
      rw [(familyDevices_find hvalid).mpr ⟨hdev, hfam, hid⟩] at howner
      cases howner
    rw [hget]
    rfl
  | some device =>
    obtain ⟨hdev, hfam, hid⟩ := (familyDevices_find hvalid).mp howner
    have hents : ∀ entry ∈ (document.optInTargetMutations family configured).map
          (fun item => (item.targetId, item.lifecycle)),
        entry.1 = target.targetId → entry.2 = runtimeLifecycle configured device.unitId := by
      intro entry hent hkey
      obtain ⟨_, hmutation, rfl⟩ := List.mem_map.mp hent
      obtain ⟨other, hother, owner, howner', _, hownerId, _, rfl⟩ :=
        (mem_optInTargetMutations hvalid).mp hmutation
      rw [hunique other hother hkey] at hownerId
      rw [hvalid.device_unique howner' hdev (hownerId.trans hid.symm)]
    by_cases hlife :
        target.lifecycle = runtimeLifecycle configured device.unitId
    · have hvalue : (Dictionary.get? ((document.optInTargetMutations family configured).map
            fun item => (item.targetId, item.lifecycle))
          target.targetId).getD target.lifecycle =
          runtimeLifecycle configured device.unitId := by
        cases hget : Dictionary.get? ((document.optInTargetMutations family configured).map
              fun item => (item.targetId, item.lifecycle)) target.targetId with
        | none => exact hlife
        | some value =>
          have hmem := Dictionary.mem_of_get? hget
          exact hents _ hmem rfl
      rw [hvalue]
    · have hmem : (target.targetId, runtimeLifecycle configured device.unitId) ∈
          (document.optInTargetMutations family configured).map
            (fun item => (item.targetId, item.lifecycle)) :=
        List.mem_map.mpr ⟨_, (mem_optInTargetMutations hvalid).mpr
          ⟨target, htarget, device, hdev, hfam, hid, hlife, rfl⟩, rfl⟩
      rw [Dictionary.get?_eq_some_of_unique hmem hents]
      rfl

theorem reconcileRuntimeOptIn_shape {document after : InventoryDocument}
    (hvalid : document.Valid) {family now : String} {configured : List ℕ}
    {changes : List AuditChange}
    (hpass : reconcileRuntimeOptIn family configured now document =
      .ok (after, changes)) (hchanges : changes ≠ []) :
    after.devices = document.devices.map (followDevice family configured) ∧
      after.targets = document.targets.map (document.followTarget family configured) ∧
      after.cadence = document.cadence ∧ after.buses = document.buses := by
  unfold reconcileRuntimeOptIn at hpass
  split_ifs at hpass
  · simp only [Except.ok.injEq, Prod.mk.injEq] at hpass
    exact absurd hpass.2.symm hchanges
  · obtain ⟨devices, targets, hdevs, htargets, hafterDevices, hafterTargets,
      hcadence, hbuses⟩ := withMutations_shape hpass
    have hnormalDevices : requestedLifecycles ((document.optInDeviceMutations family configured).map
          fun item => (item.deviceId, item.lifecycle)) = .ok
        ((document.optInDeviceMutations family configured).map
          fun item => (item.deviceId, item.lifecycle)) := by
      apply requestedLifecycles_normal
      intro entry hent
      obtain ⟨_, hmutation, rfl⟩ := List.mem_map.mp hent
      obtain ⟨_, _, _, _, rfl⟩ := mem_optInDeviceMutations.mp hmutation
      exact validateLifecycle_runtime _ _
    have hnormalTargets : requestedLifecycles ((document.optInTargetMutations family configured).map
          fun item => (item.targetId, item.lifecycle)) = .ok
        ((document.optInTargetMutations family configured).map
          fun item => (item.targetId, item.lifecycle)) := by
      apply requestedLifecycles_normal
      intro entry hent
      obtain ⟨_, hmutation, rfl⟩ := List.mem_map.mp hent
      obtain ⟨_, _, _, _, _, _, _, rfl⟩ :=
        (mem_optInTargetMutations hvalid).mp hmutation
      exact validateLifecycle_runtime _ _
    rw [hnormalDevices, Except.ok.injEq] at hdevs
    rw [hnormalTargets, Except.ok.injEq] at htargets
    subst hdevs
    subst htargets
    refine ⟨?_, ?_, hcadence, hbuses⟩
    · rw [hafterDevices]
      exact List.map_congr_left fun device hdev =>
        mutateDevice_optIn hvalid family configured hdev
    · rw [hafterTargets]
      exact List.map_congr_left fun target htarget =>
        mutateTarget_optIn hvalid family configured htarget

theorem followDevice_sameUnit (family : String) (configured : List ℕ) (device : InventoryDevice) :
    SameUnit device (followDevice family configured device) := by
  unfold followDevice
  split_ifs
  · exact ⟨rfl, rfl, rfl, rfl⟩
  · exact SameUnit.refl device

theorem followTarget_sameTarget (document : InventoryDocument) (family : String)
    (configured : List ℕ) (target : InventoryTarget) :
    SameTarget target (document.followTarget family configured target) := by
  unfold InventoryDocument.followTarget
  split
  · exact SameTarget.refl target
  · rfl

section OptIn

variable {before after : InventoryDocument} {family : String}
  {configured : List ℕ}

theorem carries_of_follow
    (hdevs : after.devices = before.devices.map (followDevice family configured))
    (htargets : after.targets = before.targets.map (before.followTarget family configured)) :
    Carries before after := by
  constructor
  case device_origin =>
    intro device hdev
    rw [hdevs] at hdev
    obtain ⟨old, hold, rfl⟩ := List.mem_map.mp hdev
    exact .inl ⟨old, hold, followDevice_sameUnit _ _ _⟩
  case device_kept =>
    intro old hold
    rw [hdevs]
    exact ⟨_, List.mem_map_of_mem hold, followDevice_sameUnit _ _ _⟩
  case target_origin =>
    intro target htarget
    rw [htargets] at htarget
    obtain ⟨old, hold, rfl⟩ := List.mem_map.mp htarget
    exact .inl ⟨old, hold, followTarget_sameTarget _ _ _ _⟩
  case target_kept =>
    intro old hold
    rw [htargets]
    exact ⟨_, List.mem_map_of_mem hold, followTarget_sameTarget _ _ _ _⟩

theorem followsOptIn_of_follow (hvalid : before.Valid)
    (hdevs : after.devices = before.devices.map (followDevice family configured))
    (htargets : after.targets = before.targets.map (before.followTarget family configured)) :
    after.FollowsOptIn family configured := by
  constructor
  case devices =>
    intro device hdev hfam
    rw [hdevs] at hdev
    obtain ⟨old, _, rfl⟩ := List.mem_map.mp hdev
    have hsame := followDevice_sameUnit family configured old
    rw [hsame.deviceFamily] at hfam
    rw [hsame.unitId]
    unfold followDevice
    rw [if_pos hfam]
  case targets =>
    intro target htarget device hdev hfam hid
    rw [hdevs] at hdev
    rw [htargets] at htarget
    obtain ⟨old, hold, rfl⟩ := List.mem_map.mp hdev
    obtain ⟨oldTarget, _, rfl⟩ := List.mem_map.mp htarget
    have hsame := followDevice_sameUnit family configured old
    rw [hsame.deviceFamily] at hfam
    rw [hsame.deviceId, (followTarget_sameTarget before family configured
      oldTarget).deviceId] at hid
    rw [hsame.unitId]
    unfold InventoryDocument.followTarget
    rw [(familyDevices_find hvalid).mpr ⟨hold, hfam, hid⟩]

theorem keepsFamily_of_follow (hvalid : before.Valid)
    (hdevs : after.devices = before.devices.map (followDevice family configured))
    (htargets : after.targets = before.targets.map (before.followTarget family configured))
    {other : String} (hother : other ≠ family) :
    KeepsFamily other before after := by
  have hkept : ∀ old ∈ before.devices, old.deviceFamily = other →
      followDevice family configured old = old := by
    intro old _ hfam
    unfold followDevice
    rw [if_neg]
    rw [hfam]
    exact hother
  constructor
  case devices =>
    intro device hdev hfam
    rw [hdevs] at hdev
    obtain ⟨old, hold, rfl⟩ := List.mem_map.mp hdev
    rw [(followDevice_sameUnit family configured old).deviceFamily] at hfam
    rw [hkept old hold hfam]
    exact ⟨old, hold, SameUnit.refl old, rfl⟩
  case targets =>
    intro target htarget device hdev hfam hid
    rw [hdevs] at hdev
    rw [htargets] at htarget
    obtain ⟨old, hold, rfl⟩ := List.mem_map.mp hdev
    obtain ⟨oldTarget, holdTarget, rfl⟩ := List.mem_map.mp htarget
    rw [(followDevice_sameUnit family configured old).deviceFamily] at hfam
    rw [hkept old hold hfam, (followTarget_sameTarget before family configured
      oldTarget).deviceId] at hid
    refine ⟨oldTarget, holdTarget, (followTarget_sameTarget _ _ _ _).deviceId.symm, ?_⟩
    unfold InventoryDocument.followTarget
    cases hfind : (before.familyDevices family).find? fun device =>
        device.deviceId = oldTarget.deviceId with
    | none => rfl
    | some owner =>
      obtain ⟨howner, hownerFamily, hownerId⟩ :=
        (familyDevices_find hvalid).mp hfind
      have hunique := hvalid.device_unique howner hold (hownerId.trans hid.symm)
      rw [hunique, hfam] at hownerFamily
      exact absurd hownerFamily hother

theorem KeepsFamily.followsOptIn (hkeeps : KeepsFamily family before after)
    (hfollows : before.FollowsOptIn family configured) :
    after.FollowsOptIn family configured := by
  constructor
  case devices =>
    intro device hdev hfam
    obtain ⟨old, hold, hsame, hlife⟩ :=
      hkeeps.devices device hdev hfam
    rw [← hlife, hsame.unitId]
    exact hfollows.devices old hold (hsame.deviceFamily.symm.trans hfam)
  case targets =>
    intro target htarget device hdev hfam hid
    obtain ⟨old, hold, hsame, _⟩ := hkeeps.devices device hdev hfam
    obtain ⟨oldTarget, holdTarget, howner, hlife⟩ :=
      hkeeps.targets target htarget device hdev hfam hid
    rw [← hlife, hsame.unitId]
    refine hfollows.targets oldTarget holdTarget old hold (hsame.deviceFamily.symm.trans hfam) ?_
    rw [howner, ← hid, hsame.deviceId]

end OptIn

end Nexolab
