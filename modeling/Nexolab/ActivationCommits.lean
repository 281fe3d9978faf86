import Nexolab.ActivatedDocument

/-!
# Commits of a commissioning activation

An activation commits mutations of lifecycles, which are applied as they are
requested, or an enrollment, which adds devices that are not polled.  Neither
touches the journal, the lock or the other requests.
-/

namespace Nexolab

/-- The devices and targets of other devices are the same. -/
structure OthersKept (deviceId : String) (before after : InventoryDocument) :
    Prop where
  devices : (after.devices.filter fun device => device.deviceId ≠ deviceId) =
    before.devices.filter fun device => device.deviceId ≠ deviceId
  targets : (after.targets.filter fun target => target.deviceId ≠ deviceId) =
    before.targets.filter fun target => target.deviceId ≠ deviceId

theorem filter_map_other {α : Type*} (owner : α → String) (deviceId : String)
    {change : α → α} (hother : ∀ item, owner item ≠ deviceId → change item = item)
    (howner : ∀ item, owner (change item) = owner item) (items : List α) :
    ((items.map change).filter fun item => owner item ≠ deviceId) =
      items.filter fun item => owner item ≠ deviceId := by
  induction items with
  | nil => rfl
  | cons item rest ih =>
    rw [List.map_cons, List.filter_cons, List.filter_cons, howner, ih]
    by_cases hsame : owner item = deviceId
    · simp [hsame]
    · rw [hother item hsame]

theorem Activated.othersKept {base before after : InventoryDocument}
    {deviceId : String} (hactd : Activated base deviceId before)
    (hsame : SameInventory after base) : OthersKept deviceId before after := by
  constructor
  case devices =>
    rw [hsame.1, hactd.devices]
    refine (filter_map_other (fun device : InventoryDevice => device.deviceId)
      deviceId ?_ ?_ _).symm
    · intro device hdev
      exact if_neg hdev
    · intro device
      unfold activateDevice
      split_ifs <;> rfl
  case targets =>
    rw [hsame.2, hactd.targets]
    refine (filter_map_other (fun target : InventoryTarget => target.deviceId)
      deviceId ?_ ?_ _).symm
    · intro target htarget
      exact if_neg htarget
    · intro target
      unfold activateTarget
      split_ifs <;> rfl

theorem SameInventory.othersKept {base before after : InventoryDocument}
    (hbefore : SameInventory before base) (hafter : SameInventory after base)
    (deviceId : String) : OthersKept deviceId before after := by
  constructor
  · rw [hafter.1, hbefore.1]
  · rw [hafter.2, hbefore.2]

theorem Staged.othersKept {base before after : InventoryDocument}
    {device : InventoryDevice} (hstaged : Staged base device before)
    (hsame : SameInventory after base) :
    OthersKept device.deviceId before after := by
  rcases hstaged with hbefore | hactd
  · exact hbefore.othersKept hsame _
  · exact hactd.othersKept hsame

namespace InventoryDocument

variable {document base : InventoryDocument}

theorem commissioningDevice_congr (hsame : SameInventory document base)
    (identity : ActivationIdentity) (family : String) :
    document.commissioningDevice identity family = base.commissioningDevice identity family := by
  unfold commissioningDevice
  rw [hsame.1]

theorem snapshotOf_congr (hsame : SameInventory document base) (device : InventoryDevice) :
    document.snapshotOf device = base.snapshotOf device := by
  unfold snapshotOf targetsOf
  rw [hsame.2]

theorem commissioningDevice_mem {identity : ActivationIdentity} {family : String}
    {device : InventoryDevice}
    (hfound : document.commissioningDevice identity family = some device) :
    device ∈ document.devices ∧ device.unitId = identity.unitId ∧
      device.busId = identity.busId := by
  unfold commissioningDevice at hfound
  split at hfound
  next found hfilter =>
    rw [Option.some.injEq] at hfound
    subst hfound
    have hmem : found ∈ [found] := List.mem_singleton_self found
    rw [← hfilter, List.mem_filter, decide_eq_true_eq] at hmem
    exact ⟨hmem.1, hmem.2.1, hmem.2.2.1⟩
  next => cases hfound

end InventoryDocument

/-! ## Commits of the agent -/

namespace CommissioningAgent

variable {configuration : RegistryConfiguration} {agent after : CommissioningAgent}
  {identity : ActivationIdentity} {reason now : String} {failsAt : Option ℕ}

structure SameRequests (agent after : CommissioningAgent) : Prop where
  journal : after.journal = agent.journal
  lock : after.lock = agent.lock
  phases : after.phases = agent.phases

theorem committed_eq_some {operation : RegistryStore.RegistryOperation}
    (hcomm : agent.committed configuration identity operation reason now failsAt = some after) :
    SameRequests agent after ∧
      ((RegistryStore.prepare configuration ⟨operation, agent.registry,
          agent.registry.document.revision,
          "commissioning:" ++ identity.activationId, reason, now⟩ = .ok none ∧
        after.registry = agent.registry) ∨
      ∃ candidate, RegistryStore.prepare configuration ⟨operation,
          agent.registry, agent.registry.document.revision,
          "commissioning:" ++ identity.activationId, reason, now⟩ =
          .ok (some candidate) ∧ after.document = candidate.document) := by
  unfold committed at hcomm
  split at hcomm
  next => cases hcomm
  next registry store hcommit =>
    cases hcomm
    exact ⟨⟨rfl, rfl, rfl⟩, RegistryStore.serve_eq_ok hcommit⟩

end CommissioningAgent

theorem RegistryStore.prepareMutation_eq_ok
    {configuration : RegistryConfiguration} {request : RegistryRequest} {outcome : Option Candidate}
    (hprep : prepareMutation configuration request = .ok outcome) :
    ∃ document changes, request.operation.candidate configuration
        request.registry.document request.now = .ok (document, changes) ∧
      ((changes = [] ∧ outcome = none) ∨
        (changes ≠ [] ∧ ∃ origin, outcome = some ⟨document, changes, origin⟩)) := by
  simp only [prepareMutation, bind_eq_ok] at hprep
  obtain ⟨⟨document, changes⟩, hcand, hprep⟩ := hprep
  refine ⟨document, changes, hcand, ?_⟩
  by_cases hchanges : changes = []
  · rw [if_pos hchanges, pure_eq_ok] at hprep
    exact .inl ⟨hchanges, hprep.symm⟩
  · rw [if_neg hchanges] at hprep
    simp only [bind_eq_ok, pure_eq_ok] at hprep
    obtain ⟨origin, _, _, _, rfl⟩ := hprep
    exact .inr ⟨hchanges, origin, rfl⟩

namespace CommissioningAgent

variable {operation : RegistryStore.RegistryOperation}
  {devices : List DeviceLifecycleMutation} {targets : List LifecycleMutation}
  {unitIds : List ℕ}

theorem committed_mutation
    (hbase : ∀ request : RegistryStore.RegistryRequest, request.operation = operation →
        RegistryStore.prepare configuration request =
          RegistryStore.prepareMutation configuration request)
    (hcomm : agent.committed configuration identity operation reason now failsAt = some after) :
    SameRequests agent after ∧ ∃ document changes,
      operation.candidate configuration agent.document now = .ok (document, changes) ∧
      ((changes = [] ∧ after.document = agent.document) ∨
        (changes ≠ [] ∧ after.document = document)) := by
  obtain ⟨hsame, hcases⟩ := committed_eq_some hcomm
  refine ⟨hsame, ?_⟩
  rw [hbase _ rfl] at hcases
  rcases hcases with ⟨hprep, hregistry⟩ | ⟨candidate, hprep, hdoc⟩
  · obtain ⟨document, changes, hcand, hout⟩ :=
      RegistryStore.prepareMutation_eq_ok hprep
    refine ⟨document, changes, hcand, ?_⟩
    rcases hout with ⟨hchanges, _⟩ | ⟨_, origin, hsome⟩
    · exact .inl ⟨hchanges, congrArg InventoryRegistry.document hregistry⟩
    · cases hsome
  · obtain ⟨document, changes, hcand, hout⟩ :=
      RegistryStore.prepareMutation_eq_ok hprep
    refine ⟨document, changes, hcand, ?_⟩
    rcases hout with ⟨_, hnone⟩ | ⟨hchanges, origin, hsome⟩
    · cases hnone
    · rw [Option.some.injEq] at hsome
      rw [hsome] at hdoc
      exact .inr ⟨hchanges, hdoc⟩

/-- All operations but the discovery enrollment are prepared by the base store. -/
theorem prepare_of_base
    (hoperation : ∀ units profileVersion busForUnit,
      operation ≠ .enrollXjp60d units profileVersion busForUnit)
    (request : RegistryStore.RegistryRequest) (hrequest : request.operation = operation) :
    RegistryStore.prepare configuration request =
      RegistryStore.prepareMutation configuration request := by
  subst hrequest
  unfold RegistryStore.prepare
  split
  next hdiscovery => exact absurd hdiscovery (hoperation _ _ _)
  next => rfl

theorem committed_update
    (hcomm : agent.committed configuration identity
      (.update devices targets) reason now failsAt = some after) :
    SameRequests agent after ∧ ∃ changes, agent.document.withMutations devices targets now =
        .ok (after.document, changes) := by
  obtain ⟨hsame, document, changes, hmutate, hcases⟩ :=
    committed_mutation (prepare_of_base (by simp)) hcomm
  refine ⟨hsame, changes, ?_⟩
  rcases hcases with ⟨hnone, _⟩ | ⟨_, hdoc⟩
  · exact absurd hnone (withMutations_nextRevision hmutate).2
  · rw [hdoc]
    exact hmutate

variable {busForUnit : Option (ℕ → Except RegistryFault String)}

theorem enrolledOnly_of_commit {profile : EnrollmentProfile}
    {before document after : InventoryDocument} {lifecycle : String}
    {changes : List AuditChange} (howns : profile.OwnsTargets)
    (hlife : lifecycle ∈ ["discovery_only", "reserve"])
    (henroll : profile.enroll before unitIds lifecycle busForUnit now = .ok (document, changes))
    (hcases : (changes = [] ∧ after = before) ∨ (changes ≠ [] ∧ after = document)) :
    EnrolledOnly before after := by
  rcases hcases with ⟨_, rfl⟩ | ⟨hchanges, rfl⟩
  · exact enrolledOnly_refl _
  · exact enroll_enrolledOnly howns hlife henroll hchanges

theorem prepareDiscovery_enrolledOnly {topology : BusTopology}
    {request : RegistryStore.RegistryRequest} {profileVersion : String}
    {candidate : RegistryStore.Candidate}
    (hprep : RegistryStore.prepareDiscovery topology request unitIds
      profileVersion busForUnit = .ok (some candidate)) :
    EnrolledOnly request.registry.document candidate.document := by
  simp only [RegistryStore.prepareDiscovery, bind_eq_ok] at hprep
  obtain ⟨origin, _, _, _, _, _, ⟨document, changes⟩, henroll, hprep⟩ :=
    hprep
  by_cases hchanges : changes = []
  · rw [if_pos hchanges, pure_eq_ok] at hprep
    cases hprep
  · rw [if_neg hchanges, pure_eq_ok, Option.some.injEq] at hprep
    subst hprep
    exact enroll_enrolledOnly discoveryEnrollment_owns (by decide) henroll hchanges

theorem committed_xjp60d {profileVersion : String}
    (hcomm : agent.committed configuration identity
      (.enrollXjp60d unitIds profileVersion busForUnit) reason now failsAt = some after) :
    SameRequests agent after ∧ EnrolledOnly agent.document after.document := by
  cases htopology : configuration.topology with
  | none =>
    have hbase : ∀ request : RegistryStore.RegistryRequest,
        request.operation = .enrollXjp60d unitIds profileVersion busForUnit →
          RegistryStore.prepare configuration request =
            RegistryStore.prepareMutation configuration request := by
      intro request hoperation
      unfold RegistryStore.prepare
      rw [hoperation, htopology]
    obtain ⟨hsame, document, changes, henroll, hcases⟩ :=
      committed_mutation hbase hcomm
    simp only [RegistryStore.RegistryOperation.candidate,
      InventoryDocument.withXjp60dEnrollment, bind_eq_ok] at henroll
    obtain ⟨_, _, henroll⟩ := henroll
    exact ⟨hsame, enrolledOnly_of_commit xjp60dEnrollment_owns (by decide) henroll hcases⟩
  | some topology =>
    obtain ⟨hsame, hcases⟩ := committed_eq_some hcomm
    refine ⟨hsame, ?_⟩
    simp only [RegistryStore.prepare, htopology] at hcases
    rcases hcases with ⟨_, hregistry⟩ | ⟨candidate, hprep, hdoc⟩
    · have hkept : after.document = agent.document :=
        congrArg InventoryRegistry.document hregistry
      rw [hkept]
      exact enrolledOnly_refl _
    · rw [hdoc]
      exact prepareDiscovery_enrolledOnly hprep

theorem committed_reserve {profile : EnrollmentProfile} (howns : profile.OwnsTargets)
    (hbase : ∀ units profileVersion busForUnit,
      operation ≠ .enrollXjp60d units profileVersion busForUnit)
    (hcandidate : operation.candidate configuration agent.document now =
      profile.enroll agent.document unitIds "reserve" busForUnit now)
    (hcomm : agent.committed configuration identity operation reason now failsAt = some after) :
    SameRequests agent after ∧ EnrolledOnly agent.document after.document := by
  obtain ⟨hsame, document, changes, henroll, hcases⟩ :=
    committed_mutation (prepare_of_base hbase) hcomm
  rw [hcandidate] at henroll
  exact ⟨hsame, enrolledOnly_of_commit howns (by decide) henroll hcases⟩

theorem committed_enrollment {family : String}
    (henrollment : enrollment identity family = some operation)
    (hcomm : agent.committed configuration identity operation reason now failsAt = some after) :
    SameRequests agent after ∧ EnrolledOnly agent.document after.document := by
  unfold enrollment at henrollment
  dsimp only at henrollment
  split_ifs at henrollment
  case pos =>
    cases henrollment
    exact committed_xjp60d hcomm
  case pos =>
    cases henrollment
    exact committed_reserve le01mpEnrollment_owns (by simp) rfl hcomm
  case pos =>
    cases henrollment
    exact committed_reserve embracoEnrollment_owns (by simp) rfl hcomm

theorem ensureInventory_eq_some {family : String}
    (hensure : agent.ensureInventory configuration identity family now failsAt = some after) :
    SameRequests agent after ∧ EnrolledOnly agent.document after.document ∧
      ((∃ device ∈ agent.document.devices, device.unitId = identity.unitId ∧
        device.busId = identity.busId) → after = agent) := by
  unfold ensureInventory at hensure
  split at hensure
  next hnone =>
    split at hensure
    next => cases hensure
    next operation henrollment =>
      obtain ⟨hsame, henrolled⟩ := committed_enrollment henrollment hensure
      refine ⟨hsame, henrolled, ?_⟩
      rintro ⟨device, hdev, hunit, hbus⟩
      have hmem : device ∈ agent.document.devices.filter fun device =>
          device.unitId = identity.unitId ∧ device.busId = identity.busId := by
        rw [List.mem_filter, decide_eq_true_eq]
        exact ⟨hdev, hunit, hbus⟩
      rw [hnone] at hmem
      exact nomatch hmem
  next =>
    split_ifs at hensure
    cases hensure
    exact ⟨⟨rfl, rfl, rfl⟩, enrolledOnly_refl _, fun _ => rfl⟩
  next => cases hensure

end CommissioningAgent

end Nexolab
