import Nexolab.CadenceRebinding

/-!
# The devices a cadence mutation affects

`apply_mutation` changes family defaults and then overrides, and collects the
devices as it goes: those which inherit a changed default at that point, and
those whose override was set or removed.
-/

namespace Nexolab

variable {policy other : CadencePolicy} {device : RegistryDevice}

theorem CadencePolicy.deviceInterval_congr
    (hover : policy.deviceOverrides.find? (fun item => item.deviceId = device.deviceId) =
      other.deviceOverrides.find? fun item => item.deviceId = device.deviceId)
    (hdefault : other.deviceOverrides.find? (fun item => item.deviceId = device.deviceId) = none →
      policy.familyDefaults.find? (fun item => item.key = device.familyKey) =
        other.familyDefaults.find? fun item => item.key = device.familyKey) :
    policy.deviceInterval device = other.deviceInterval device := by
  unfold CadencePolicy.deviceInterval CadencePolicy.familyDefaultInterval
  rw [hover]
  cases hfound : other.deviceOverrides.find? fun item =>
      item.deviceId = device.deviceId with
  | some item => rfl
  | none =>
    have hsame := hdefault hfound
    simp only [FamilyCadenceDefault.key, RegistryDevice.familyKey, Prod.mk.injEq] at hsame
    rw [hsame]

/-! ## One mutation -/

variable {devices : List RegistryDevice} {start before after : CadenceDraft}

structure CadenceDraft.Keyed (draft : CadenceDraft) : Prop where
  defaults : Dictionary.Keyed FamilyCadenceDefault.key draft.defaults
  overrides : Dictionary.Keyed DeviceCadenceOverride.deviceId draft.overrides

def CadenceDraft.Inherits (before after : CadenceDraft) (device : RegistryDevice) :
    Prop :=
  after.overrides.get? device.deviceId = before.overrides.get? device.deviceId ∧
    (before.overrides.get? device.deviceId = none →
      after.defaults.get? device.familyKey = before.defaults.get? device.familyKey)

/-- What the mutations so far leave of the draft they started from. -/
structure CadenceDraft.Revises (devices : List RegistryDevice)
    (before after : CadenceDraft) : Prop where
  keyed : after.Keyed
  affected : ∀ id ∈ before.affected, id ∈ after.affected
  inherits : ∀ device ∈ devices, device.deviceId ∈ after.affected ∨ before.Inherits after device

theorem CadenceDraft.Revises.refl (hkeyed : before.Keyed) :
    before.Revises devices before :=
  ⟨hkeyed, fun _ hmem => hmem, fun _ _ => .inr ⟨rfl, fun _ => rfl⟩⟩

theorem CadenceDraft.Revises.trans (hfirst : start.Revises devices before)
    (hsecond : before.Revises devices after) : start.Revises devices after where
  keyed := hsecond.keyed
  affected id hmem := hsecond.affected id (hfirst.affected id hmem)
  inherits device hdev := by
    rcases hfirst.inherits device hdev with hmem | ⟨hover, hdefault⟩
    · exact .inl (hsecond.affected _ hmem)
    · rcases hsecond.inherits device hdev with hmem | ⟨hover', hdefault'⟩
      · exact .inl hmem
      · refine .inr ⟨hover'.trans hover, fun hnone => ?_⟩
        exact (hdefault' (hover.trans hnone)).trans (hdefault hnone)

theorem applyFamilyMutation_revises {knownBuses : List String}
    {item : FamilyCadenceMutation} (hkeyed : before.Keyed)
    (hstep : applyFamilyMutation knownBuses devices before item = .ok after) :
    before.Revises devices after := by
  simp only [applyFamilyMutation, bind_eq_ok] at hstep
  obtain ⟨_, _, _, _, interval, _, hstep⟩ := hstep
  split at hstep
  next => cases hstep
  next current hcurrent =>
    split_ifs at hstep with hequal
    · cases hstep
      exact .refl hkeyed
    · cases hstep
      refine ⟨⟨hkeyed.defaults.set
        (⟨item.busId, item.deviceFamily, interval⟩ : FamilyCadenceDefault),
        hkeyed.overrides⟩, fun id hmem => List.mem_append_left _ hmem, ?_⟩
      intro device hdev
      by_cases hinherits : device.familyKey = (item.busId, item.deviceFamily) ∧
          before.overrides.get? device.deviceId = none
      · refine .inl (List.mem_append_right _ (List.mem_map_of_mem ?_))
        exact List.mem_filter.mpr ⟨hdev, decide_eq_true hinherits⟩
      · refine .inr ⟨rfl, fun hnone => ?_⟩
        rw [Dictionary.get?_set, if_neg fun hkey => hinherits ⟨hkey.symm, hnone⟩]

theorem CadenceDraft.Keyed.overridden (hkeyed : before.Keyed) {deviceId : String}
    {overrides : Dictionary String DeviceCadenceOverride} {changes : List AuditChange}
    (hover : Dictionary.Keyed DeviceCadenceOverride.deviceId overrides)
    (hothers : ∀ id, deviceId ≠ id → overrides.get? id = before.overrides.get? id) :
    before.Revises devices { before with
      overrides
      changes
      affected := before.affected ++ [deviceId] } := by
  refine ⟨⟨hkeyed.defaults, hover⟩, fun id hmem => List.mem_append_left _ hmem, ?_⟩
  intro device _
  by_cases hid : deviceId = device.deviceId
  · exact .inl (by simp [hid])
  · exact .inr ⟨hothers _ hid, fun _ => rfl⟩

theorem applyDeviceMutation_revises {item : DeviceCadenceMutation} (hkeyed : before.Keyed)
    (hstep : applyDeviceMutation devices before item = .ok after) :
    before.Revises devices after := by
  unfold applyDeviceMutation at hstep
  split at hstep
  next => cases hstep
  next device _ =>
    split at hstep
    next =>
      cases hstep
      exact .refl hkeyed
    next current _ _ =>
      simp only [bind_eq_ok, pure_eq_ok] at hstep
      obtain ⟨inherited, _, rfl⟩ := hstep
      refine hkeyed.overridden (fun entry hmem => ?_) fun id hid => ?_
      · exact hkeyed.overrides entry (List.mem_of_mem_filter hmem)
      · rw [Dictionary.get?_erase, if_neg hid]
    next requested _ =>
      simp only [bind_eq_ok] at hstep
      obtain ⟨interval, _, hstep⟩ := hstep
      split_ifs at hstep
      · cases hstep
        exact .refl hkeyed
      · simp only [bind_eq_ok, pure_eq_ok] at hstep
        obtain ⟨inherited, _, rfl⟩ := hstep
        refine hkeyed.overridden (hkeyed.overrides.set
          (⟨item.deviceId, interval⟩ : DeviceCadenceOverride)) fun id hid => ?_
        rw [Dictionary.get?_set, if_neg hid]

theorem find?_sorted {κ ν : Type} [DecidableEq κ] {dictionary : Dictionary κ ν}
    {key : ν → κ} (hkeyed : dictionary.Keyed key) {before : ν → ν → Prop} [DecidableRel before]
    (hnodup : ((dictionary.values.insertionSort before).map key).Nodup) (wanted : κ) :
    (dictionary.values.insertionSort before).find? (fun value => key value = wanted) =
      dictionary.get? wanted := by
  rw [find?_key_perm (List.perm_insertionSort before dictionary.values) hnodup, hkeyed.find?_values]

theorem keyed_ofItems {κ ν : Type} [DecidableEq κ] {key : ν → κ} {items : List ν}
    (hnodup : (items.map key).Nodup) :
    (Dictionary.ofItems key items).Keyed key ∧
      ∀ wanted, (Dictionary.ofItems key items).get? wanted =
        items.find? fun item => key item = wanted := by
  have hkeyed : (Dictionary.ofItems key items).Keyed key := by
    rw [Dictionary.ofItems_eq hnodup]
    intro entry hentry
    obtain ⟨item, _, rfl⟩ := List.mem_map.mp hentry
    rfl
  refine ⟨hkeyed, fun wanted => ?_⟩
  rw [← hkeyed.find?_values, Dictionary.ofItems_eq hnodup]
  simp [Dictionary.values, Function.comp_def]

/-- A mutation which is accepted leaves a valid policy, and the interval of a
device changes only if the mutation reports the device as affected. -/
theorem applyMutation_affected {mutation : CadenceMutation} {busIds : List String}
    {updated : CadencePolicy} {changes : List AuditChange} {affected : List String}
    (hvalid : policy.Valid busIds devices)
    (happly : applyMutation policy mutation busIds devices =
      .ok (updated, changes, affected)) :
    updated.Valid busIds devices ∧ ∀ device ∈ devices, device.deviceId ∉ affected →
      (updated.effectiveInterval device.deviceId device.busId
        device.deviceFamily).map Prod.fst =
      (policy.effectiveInterval device.deviceId device.busId
        device.deviceFamily).map Prod.fst := by
  simp only [applyMutation, bind_eq_ok, refuseIf_eq_ok, pure_eq_ok,
    Prod.mk.injEq] at happly
  obtain ⟨_, _, _, _, middle, hfamilies, draft, hdevices, _, _, _, hchecked, rfl, _,
    rfl⟩ := happly
  have hupdated := validatePolicy_spec hchecked
  obtain ⟨hdefaults, hdefaultsGet⟩ := keyed_ofItems hvalid.keys_nodup
  obtain ⟨hovers, hoversGet⟩ := keyed_ofItems hvalid.overrides_nodup
  have hmiddle := foldlM_invariant (P := CadenceDraft.Revises devices _)
    (fun _ _ _ hbefore hstep =>
      hbefore.trans (applyFamilyMutation_revises hbefore.keyed hstep))
    hfamilies (.refl ⟨hdefaults, hovers⟩)
  have hdraft := foldlM_invariant (P := CadenceDraft.Revises devices _)
    (fun _ _ _ hbefore hstep =>
      hbefore.trans (applyDeviceMutation_revises hbefore.keyed hstep))
    hdevices hmiddle
  refine ⟨hupdated, fun device hdev hnot => ?_⟩
  obtain ⟨hover, hdefault⟩ := (hdraft.inherits device hdev).resolve_left hnot
  rw [hoversGet] at hover hdefault
  rw [hdefaultsGet] at hdefault
  rw [CadencePolicy.effectiveInterval_map, CadencePolicy.effectiveInterval_map]
  apply CadencePolicy.deviceInterval_congr
  · rw [find?_sorted hdraft.keyed.overrides hupdated.overrides_nodup]
    exact hover
  · intro hnone
    rw [find?_sorted hdraft.keyed.defaults hupdated.keys_nodup]
    exact hdefault hnone

def overriddenDevice : RegistryDevice := ⟨"xjp-1", "rs485-main", "xjp60d", 1, "active"⟩

def overriddenPolicy (interval : ℚ) : CadencePolicy :=
  ⟨[⟨"rs485-main", "xjp60d", interval⟩], [⟨"xjp-1", 10⟩]⟩

theorem applyMutation_affected_overridden :
    (overriddenPolicy 30).Valid ["rs485-main"] [overriddenDevice] ∧
      ∀ device ∈ [overriddenDevice], device.deviceId ∉ ([] : List String) →
        ((overriddenPolicy 30).effectiveInterval device.deviceId device.busId
          device.deviceFamily).map Prod.fst =
        ((overriddenPolicy 60).effectiveInterval device.deviceId device.busId
          device.deviceFamily).map Prod.fst := by
  have hvalid : (overriddenPolicy 60).Valid ["rs485-main"] [overriddenDevice] := by
    have hcheck : validatePolicy (overriddenPolicy 60) ["rs485-main"]
        [overriddenDevice] = .ok () := rfl
    exact validatePolicy_spec hcheck
  have happly : applyMutation (overriddenPolicy 60)
      ⟨[⟨"rs485-main", "xjp60d", 30⟩], []⟩ ["rs485-main"] [overriddenDevice] =
        .ok (overriddenPolicy 30, _, []) := rfl
  exact applyMutation_affected hvalid happly

end Nexolab
