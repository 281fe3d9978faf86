import Nexolab.EnrollmentEffects
import Nexolab.RegistryStore

/-!
# Passes which leave one another settled

A pass which changes a document leaves it settled for itself, and no later pass
unsettles it: an opt-in concerns one family, an enrollment adds devices under
new ids on the buses the configuration assigns them.  The exception is the
upgrade of the LE-01MP profile, which is treated by itself.
-/

namespace Nexolab

def activeEnrollment (profile : EnrollmentProfile) (label : AuditOrigin)
    (units : List ℕ) (busForUnit : Option (ℕ → Except RegistryFault String))
    (now : String) : RegistryPass :=
  enrollmentPass label units fun document =>
    profile.enroll document units "active" busForUnit now

theorem validateLifecycle_active :
    validateLifecycle "active" = .ok "active" := by decide +kernel

section Enrollment

variable {profile : EnrollmentProfile} {label : AuditOrigin} {units : List ℕ}
  {busForUnit : Option (ℕ → Except RegistryFault String)} {now : String}
  {before after : InventoryDocument} {changes : List AuditChange}

theorem activeEnrollment_revises :
    (activeEnrollment profile label units busForUnit now).Revises :=
  enrollmentPass_revises fun _ _ _ => EnrollmentProfile.enroll_nextRevision

theorem activeEnrollment_settled_iff (hvalid : before.Valid) :
    (activeEnrollment profile label units busForUnit now).Settled before ↔ units = [] ∨
        (¬ ∃ unitId ∈ units.dedup, ¬ (1 ≤ unitId ∧ unitId ≤ 247)) ∧
          profile.Enrolled (busForUnit.getD fun _ => .ok defaultBusId) units
            before := by
  change (if units = [] then .ok (before, []) else
    profile.enroll before units "active" busForUnit now) = .ok (before, []) ↔ _
  split_ifs with hunits
  · simp [hunits]
  · rw [EnrollmentProfile.enroll_settled_iff hvalid]
    simp [hunits, validateLifecycle_active]

theorem activeEnrollment_extends
    (hpass : (activeEnrollment profile label units busForUnit now).run before =
      .ok (after, changes)) (hchanges : changes ≠ []) :
    ∃ added, profile.Extends (busForUnit.getD fun _ => .ok defaultBusId) units
      "active" added before after := by
  change (if units = [] then .ok (before, []) else
    profile.enroll before units "active" busForUnit now) = .ok (after, changes)
    at hpass
  split_ifs at hpass with hunits
  · simp only [Except.ok.injEq, Prod.mk.injEq] at hpass
    exact absurd hpass.2.symm hchanges
  · obtain ⟨desired, added, hdesired, hext⟩ :=
      EnrollmentProfile.enroll_extends hpass hchanges
    rw [validateLifecycle_active] at hdesired
    cases hdesired
    exact ⟨added, hext⟩

theorem activeEnrollment_settles
    (hpass : (activeEnrollment profile label units busForUnit now).run before =
      .ok (after, changes)) (hchanges : changes ≠ []) (hvalid : after.Valid) :
    (activeEnrollment profile label units busForUnit now).Settled after := by
  rw [activeEnrollment_settled_iff hvalid]
  obtain ⟨added, hext⟩ := activeEnrollment_extends hpass hchanges
  change (if units = [] then .ok (before, []) else
    profile.enroll before units "active" busForUnit now) = .ok (after, changes)
    at hpass
  split_ifs at hpass with hunits
  · exact .inl hunits
  · exact .inr ⟨(EnrollmentProfile.enroll_shape hpass).1, hext.enrolled⟩

end Enrollment

def laterPasses (configuration : RegistryConfiguration) (clock : ℕ → String) :
    List RegistryPass :=
  (startupPasses configuration clock).tail

/-- What a later pass does when it changes something. -/
structure RegistryPass.Settling (pass : RegistryPass) : Prop where
  carries : ∀ before after changes, before.Checked →
    pass.run before = .ok (after, changes) → changes ≠ [] → Carries before after
  settles : ∀ before after changes, before.Checked →
    pass.run before = .ok (after, changes) → changes ≠ [] → pass.Settled after

theorem optIn_settling {pass : RegistryPass} {family now : String} {configured : List ℕ}
    (hrun : pass.run = reconcileRuntimeOptIn family configured now) :
    pass.Settling := by
  constructor
  case carries =>
    intro before after changes hbefore hpass hchanges
    rw [hrun] at hpass
    obtain ⟨hdevs, htargets, _⟩ :=
      reconcileRuntimeOptIn_shape hbefore.facts hpass hchanges
    exact carries_of_follow hdevs htargets
  case settles =>
    intro before after changes hbefore hpass hchanges
    rw [hrun] at hpass
    obtain ⟨hdevs, htargets, _⟩ :=
      reconcileRuntimeOptIn_shape hbefore.facts hpass hchanges
    have hafter :=
      (reconcileRuntimeOptIn_nextRevision hpass).checked hchanges
    unfold ReconciliationPass.Settled
    rw [hrun, reconcileRuntimeOptIn_settled_iff hafter.facts]
    exact followsOptIn_of_follow hbefore.facts hdevs htargets

variable {topology : BusTopology}

theorem bound_sameUnit {before after : InventoryDevice}
    (hbound : topology.Bound before after) : SameUnit before after := by
  rw [hbound.eq]
  exact ⟨rfl, rfl, rfl, rfl⟩

theorem forall₂_mem_right {α β : Type} {R : α → β → Prop} {items : List α}
    {results : List β} (hrelated : List.Forall₂ R items results) {result : β}
    (hres : result ∈ results) : ∃ item ∈ items, R item result := by
  obtain ⟨item, hitem, hrelation⟩ := exists_of_forall₂ hrelated.flip hres
  exact ⟨item, hitem, hrelation⟩

theorem bindingPass_carries {binding : Option BusTopology} {now : String}
    {before after : InventoryDocument} {changes : List AuditChange}
    (hpass : (bindingPass binding now).run before = .ok (after, changes))
    (hchanges : changes ≠ []) :
    Carries before after ∧ ∀ family, KeepsFamily family before after := by
  obtain ⟨topology, bound, _, _, hbind, hdevs, _, _, htargets⟩ :=
    bindingPass_shape hpass hchanges
  have hrelated := topology.bindDocument_devices hbind
  rw [← hdevs] at hrelated
  have hsameTargets : after.targets = before.targets := by
    obtain ⟨_, _, _, _, rfl⟩ := BusTopology.bindDocument_eq_ok.mp hbind
    exact htargets
  constructor
  · constructor
    case device_origin =>
      intro device hdev
      obtain ⟨old, hold, hbound⟩ := forall₂_mem_right hrelated hdev
      exact .inl ⟨old, hold, bound_sameUnit hbound⟩
    case device_kept =>
      intro old hold
      obtain ⟨device, hdev, hbound⟩ := exists_of_forall₂ hrelated hold
      exact ⟨device, hdev, bound_sameUnit hbound⟩
    case target_origin =>
      intro target htarget
      rw [hsameTargets] at htarget
      exact .inl ⟨target, htarget, SameTarget.refl target⟩
    case target_kept =>
      intro old hold
      rw [hsameTargets]
      exact ⟨old, hold, SameTarget.refl old⟩
  · intro family
    constructor
    case devices =>
      intro device hdev _
      obtain ⟨old, hold, hbound⟩ := forall₂_mem_right hrelated hdev
      refine ⟨old, hold, bound_sameUnit hbound, ?_⟩
      rw [hbound.eq]
    case targets =>
      intro target htarget _ _ _ _
      rw [hsameTargets] at htarget
      exact ⟨target, htarget, rfl, rfl⟩

theorem bindingPass_settling (binding : Option BusTopology) (now : String) :
    (bindingPass binding now).Settling where
  carries := fun _ _ _ _ hpass hchanges => (bindingPass_carries hpass hchanges).1
  settles := fun _ _ _ _ hpass hchanges => bindingPass_settles hpass hchanges

theorem activeEnrollment_settling {profile : EnrollmentProfile}
    (howns : profile.OwnsTargets) (hfam : profile.family ≠ "le01mp")
    (label : AuditOrigin) (units : List ℕ)
    (busForUnit : Option (ℕ → Except RegistryFault String)) (now : String) :
    (activeEnrollment profile label units busForUnit now).Settling := by
  constructor
  case carries =>
    intro before after changes _ hpass hchanges
    have hafter := (activeEnrollment_revises _ _ _ hpass).checked hchanges
    obtain ⟨added, hext⟩ := activeEnrollment_extends hpass hchanges
    exact hext.carries howns hafter.facts hfam
  case settles =>
    intro before after changes _ hpass hchanges
    have hafter := (activeEnrollment_revises _ _ _ hpass).checked hchanges
    exact activeEnrollment_settles hpass hchanges hafter.facts

theorem laterPasses_settling (configuration : RegistryConfiguration) (clock : ℕ → String) :
    ∀ pass ∈ laterPasses configuration clock, RegistryPass.Settling pass := by
  intro pass hpass
  simp only [laterPasses, startupPasses, List.tail_cons, List.mem_cons,
    List.not_mem_nil, or_false] at hpass
  rcases hpass with rfl | rfl | rfl | rfl | rfl | rfl
  · exact optIn_settling rfl
  · exact optIn_settling rfl
  · exact bindingPass_settling _ _
  · exact activeEnrollment_settling sdm120Enrollment_owns (by decide) _ _ _ _
  · exact activeEnrollment_settling waveshare8aiEnrollment_owns (by decide)
      _ _ _ _
  · exact activeEnrollment_settling embracoEnrollment_owns (by decide) _ _ _ _

/-! ## Passes against one another -/

/-- The later pass leaves a document settled for the earlier one. -/
def KeepsSettled (earlier later : RegistryPass) : Prop :=
  ∀ before after changes, before.Checked → earlier.Settled before →
    later.run before = .ok (after, changes) → earlier.Settled after

theorem keepsSettled_of_changes {earlier later : RegistryPass} (hrevises : later.Revises)
    (hkept : ∀ before after changes, before.Checked → after.Checked →
      earlier.Settled before → later.run before = .ok (after, changes) →
      changes ≠ [] → earlier.Settled after) :
    KeepsSettled earlier later := by
  intro before after changes hbefore hsettled hpass
  have hnext := hrevises _ _ _ hpass
  by_cases hchanges : changes = []
  · rw [hnext.unchanged hchanges]
    exact hsettled
  · exact hkept before after changes hbefore (hnext.checked hchanges) hsettled hpass hchanges

section OptIn

variable {earlier later : RegistryPass} {family now : String}
  {configured : List ℕ}

theorem optIn_keepsSettled (hrun : earlier.run = reconcileRuntimeOptIn family configured now)
    (hrevises : later.Revises)
    (hkeeps : ∀ before after changes, before.Checked → after.Checked →
      later.run before = .ok (after, changes) → changes ≠ [] →
      KeepsFamily family before after) :
    KeepsSettled earlier later := by
  refine keepsSettled_of_changes hrevises ?_
  intro before after changes hbefore hafter hsettled hpass hchanges
  unfold ReconciliationPass.Settled at hsettled ⊢
  rw [hrun, reconcileRuntimeOptIn_settled_iff hbefore.facts] at hsettled
  rw [hrun, reconcileRuntimeOptIn_settled_iff hafter.facts]
  exact (hkeeps before after changes hbefore hafter hpass hchanges).followsOptIn hsettled

theorem optIn_keepsSettled_optIn {other : String} {others : List ℕ} {otherNow : String}
    (hrun : earlier.run = reconcileRuntimeOptIn family configured now)
    (hlater : later.run = reconcileRuntimeOptIn other others otherNow)
    (hfam : family ≠ other) : KeepsSettled earlier later := by
  have hrevises : later.Revises := by
    intro before after changes hpass
    rw [hlater] at hpass
    exact reconcileRuntimeOptIn_nextRevision hpass
  refine optIn_keepsSettled hrun hrevises ?_
  intro before after changes hbefore _ hpass hchanges
  rw [hlater] at hpass
  obtain ⟨hdevs, htargets, _⟩ :=
    reconcileRuntimeOptIn_shape hbefore.facts hpass hchanges
  exact keepsFamily_of_follow hbefore.facts hdevs htargets hfam

theorem optIn_keepsSettled_binding
    (hrun : earlier.run = reconcileRuntimeOptIn family configured now)
    (binding : Option BusTopology) (otherNow : String) :
    KeepsSettled earlier (bindingPass binding otherNow) := by
  refine optIn_keepsSettled hrun (bindingPass_revises _ _) ?_
  intro before after changes _ _ hpass hchanges
  exact (bindingPass_carries hpass hchanges).2 family

theorem optIn_keepsSettled_enrollment
    (hrun : earlier.run = reconcileRuntimeOptIn family configured now)
    {profile : EnrollmentProfile} (howns : profile.OwnsTargets)
    (hfam : profile.family ≠ family) (label : AuditOrigin) (units : List ℕ)
    (busForUnit : Option (ℕ → Except RegistryFault String)) (otherNow : String) :
    KeepsSettled earlier (activeEnrollment profile label units busForUnit otherNow) := by
  refine optIn_keepsSettled hrun activeEnrollment_revises ?_
  intro before after changes _ hafter hpass hchanges
  obtain ⟨added, hext⟩ := activeEnrollment_extends hpass hchanges
  exact hext.keepsFamily howns hafter.facts hfam

theorem optIn_keepsSettled_ownEnrollment {profile : EnrollmentProfile}
    (hrun : earlier.run = reconcileRuntimeOptIn profile.family configured now)
    (howns : profile.OwnsTargets) (label : AuditOrigin)
    (busForUnit : Option (ℕ → Except RegistryFault String)) (otherNow : String) :
    KeepsSettled earlier (activeEnrollment profile label configured busForUnit otherNow) := by
  refine keepsSettled_of_changes activeEnrollment_revises ?_
  intro before after changes hbefore hafter hsettled hpass hchanges
  obtain ⟨added, hext⟩ := activeEnrollment_extends hpass hchanges
  unfold ReconciliationPass.Settled at hsettled ⊢
  rw [hrun, reconcileRuntimeOptIn_settled_iff hbefore.facts] at hsettled
  rw [hrun, reconcileRuntimeOptIn_settled_iff hafter.facts]
  exact hext.followsOptIn howns hbefore.facts hafter.facts hsettled

end OptIn

/-- The bus function gives units buses which the topology assigns them. -/
def AssignsBuses (topology : Option BusTopology)
    (busForUnit : Option (ℕ → Except RegistryFault String)) : Prop :=
  ∀ explicit, topology = some explicit → ∀ unitId busId,
    (busForUnit.getD fun _ => .ok defaultBusId) unitId = .ok busId →
      busId ∈ explicit.busesForUnit unitId

theorem binding_keepsSettled_enrollment {profile : EnrollmentProfile} {binding : Option BusTopology}
    {busForUnit : Option (ℕ → Except RegistryFault String)}
    (hassigns : AssignsBuses binding busForUnit) (now : String)
    (label : AuditOrigin) (units : List ℕ) (otherNow : String) :
    KeepsSettled (bindingPass binding now)
      (activeEnrollment profile label units busForUnit otherNow) := by
  refine keepsSettled_of_changes activeEnrollment_revises ?_
  intro before after changes hbefore hafter hsettled hpass hchanges
  obtain ⟨added, hext⟩ := activeEnrollment_extends hpass hchanges
  rw [bindingPass_settled_iff hbefore] at hsettled
  rw [bindingPass_settled_iff hafter]
  intro topology htopology hexplicit
  exact hext.bound hafter.facts (hassigns topology htopology)
    (hsettled topology htopology hexplicit)

theorem enrollment_keepsSettled_enrollment {profile other : EnrollmentProfile}
    {busForUnit otherBus : Option (ℕ → Except RegistryFault String)}
    (label otherLabel : AuditOrigin) (units others : List ℕ) (now otherNow : String) :
    KeepsSettled (activeEnrollment profile label units busForUnit now)
      (activeEnrollment other otherLabel others otherBus otherNow) := by
  refine keepsSettled_of_changes activeEnrollment_revises ?_
  intro before after changes hbefore hafter hsettled hpass hchanges
  obtain ⟨added, hext⟩ := activeEnrollment_extends hpass hchanges
  rw [activeEnrollment_settled_iff hbefore.facts] at hsettled
  rw [activeEnrollment_settled_iff hafter.facts]
  exact hsettled.imp_right fun hboth =>
    ⟨hboth.1, hext.enrolled_kept hboth.2⟩

theorem busForUnit_assigned {unitId : ℕ}
    {busId : String} (hbus : topology.busForUnit unitId = .ok busId) :
    busId ∈ topology.busesForUnit unitId := by
  unfold BusTopology.busForUnit at hbus
  split at hbus
  next => cases hbus
  next found hbuses =>
    rw [Except.ok.injEq] at hbus
    rw [hbuses, hbus]
    exact List.mem_cons_self
  next => cases hbus

theorem busForUnitOn_assigned {unitId : ℕ} {pinned busId : String}
    (hbus : topology.busForUnitOn pinned unitId = .ok busId) :
    busId ∈ topology.busesForUnit unitId := by
  unfold BusTopology.busForUnitOn at hbus
  split at hbus
  next => cases hbus
  next binding hfind =>
    split_ifs at hbus with hunit
    rw [Except.ok.injEq] at hbus
    rw [BusTopology.mem_busesForUnit]
    have hpinned : binding.busId = pinned := by
      simpa using List.find?_some hfind
    exact ⟨binding, List.mem_of_find?_eq_some hfind, hunit, hpinned.trans hbus⟩

namespace RegistryConfiguration

variable (configuration : RegistryConfiguration)

theorem configuredBus_assigns :
    AssignsBuses configuration.topology configuration.configuredBusForUnit := by
  intro topology htopology unitId busId hbus
  unfold configuredBusForUnit at hbus
  rw [htopology] at hbus
  exact busForUnit_assigned hbus

theorem pinnedBus_assigns (pinned : Option String) :
    AssignsBuses configuration.topology ((configuration.pinnedBusForUnit pinned).or
        configuration.configuredBusForUnit) := by
  intro topology htopology unitId busId hbus
  unfold pinnedBusForUnit at hbus
  rw [htopology] at hbus
  cases pinned with
  | none =>
    simp only [Option.none_or] at hbus
    exact configuration.configuredBus_assigns topology htopology unitId busId hbus
  | some pinned => exact busForUnitOn_assigned hbus

end RegistryConfiguration

theorem laterPasses_pairwise (configuration : RegistryConfiguration) (clock : ℕ → String) :
    (laterPasses configuration clock).Pairwise KeepsSettled := by
  simp only [laterPasses, startupPasses, List.tail_cons, List.pairwise_cons,
    List.mem_cons, List.not_mem_nil, or_false, forall_eq_or_imp, forall_eq,
    IsEmpty.forall_iff, implies_true, List.Pairwise.nil, and_true]
  refine ⟨⟨?_, ?_, ?_, ?_, ?_⟩, ⟨?_, ?_, ?_, ?_⟩, ⟨?_, ?_, ?_⟩, ⟨?_, ?_⟩, ?_⟩
  · exact optIn_keepsSettled_optIn rfl rfl (by decide)
  · exact optIn_keepsSettled_binding rfl _ _
  · exact @optIn_keepsSettled_ownEnrollment _ _ _ sdm120Enrollment rfl sdm120Enrollment_owns _ _ _
  · exact optIn_keepsSettled_enrollment rfl waveshare8aiEnrollment_owns (by decide) _ _ _ _
  · exact optIn_keepsSettled_enrollment rfl embracoEnrollment_owns (by decide)
      _ _ _ _
  · exact optIn_keepsSettled_binding rfl _ _
  · exact optIn_keepsSettled_enrollment rfl sdm120Enrollment_owns (by decide)
      _ _ _ _
  · exact @optIn_keepsSettled_ownEnrollment _ _ _ waveshare8aiEnrollment rfl
      waveshare8aiEnrollment_owns _ _ _
  · exact optIn_keepsSettled_enrollment rfl embracoEnrollment_owns (by decide)
      _ _ _ _
  · exact binding_keepsSettled_enrollment (configuration.pinnedBus_assigns _)
      _ _ _ _
  · exact binding_keepsSettled_enrollment (configuration.pinnedBus_assigns _)
      _ _ _ _
  · exact binding_keepsSettled_enrollment configuration.configuredBus_assigns
      _ _ _ _
  · exact enrollment_keepsSettled_enrollment _ _ _ _ _ _
  · exact enrollment_keepsSettled_enrollment _ _ _ _ _ _
  · exact enrollment_keepsSettled_enrollment _ _ _ _ _ _

end Nexolab
