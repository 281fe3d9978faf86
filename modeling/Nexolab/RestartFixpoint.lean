import Nexolab.ReloadedDocument

/-!
# A restart after a restart

A second start with the same inputs, at any later time, finds every pass settled
and reads back what the first one has written, unless the stored document is of
one of two kinds.  An LE-01MP device may lack a register whose target the
upgrade gives to a device of another name, and a device of an old document may
be left on a bus whose id the reader of the cadence policy strips.  In both
cases the second start does not get to the document of the first one.
-/

namespace Nexolab

theorem laterPasses_settled_clock {configuration : RegistryConfiguration}
    {clock : ℕ → String} {document : InventoryDocument} (hchecked : document.Checked)
    (hsettled : ∀ pass ∈ laterPasses configuration clock,
      ReconciliationPass.Settled pass document) (later : ℕ → String) :
    ∀ pass ∈ laterPasses configuration later, ReconciliationPass.Settled pass document := by
  have hoptIn : ∀ family configured now, ReconciliationPass.Settled
      (⟨(), reconcileRuntimeOptIn family configured now⟩ :
        ReconciliationPass _ _ _ Unit) document ↔
      document.FollowsOptIn family configured :=
    fun _ _ _ => reconcileRuntimeOptIn_settled_iff hchecked.facts
  simp only [laterPasses, startupPasses, List.tail_cons, List.mem_cons,
    List.not_mem_nil, or_false, forall_eq_or_imp, forall_eq] at hsettled ⊢
  obtain ⟨hmeters, hanalogs, hbinding, hmeterUnits, hanalogUnits, hcontrollers⟩ := hsettled
  refine ⟨?_, ?_, ?_, ?_, ?_, ?_⟩
  · exact (hoptIn _ _ _).mpr ((hoptIn _ _ _).mp hmeters)
  · exact (hoptIn _ _ _).mpr ((hoptIn _ _ _).mp hanalogs)
  · exact (bindingPass_settled_iff hchecked).mpr ((bindingPass_settled_iff hchecked).mp hbinding)
  · exact (activeEnrollment_settled_iff hchecked.facts).mpr
      ((activeEnrollment_settled_iff hchecked.facts).mp hmeterUnits)
  · exact (activeEnrollment_settled_iff hchecked.facts).mpr
      ((activeEnrollment_settled_iff hchecked.facts).mp hanalogUnits)
  · exact (activeEnrollment_settled_iff hchecked.facts).mpr
      ((activeEnrollment_settled_iff hchecked.facts).mp hcontrollers)

theorem laterPasses_revise (configuration : RegistryConfiguration) (clock : ℕ → String) :
    ∀ pass ∈ laterPasses configuration clock, RegistryPass.Revises pass :=
  fun pass hpass => startupPasses_revise configuration clock pass (List.mem_of_mem_tail hpass)

section LaterPasses

variable {configuration : RegistryConfiguration} {clock : ℕ → String}
  {document upgraded final : InventoryDocument}
  {commits : List (PassCommit InventoryDocument AuditChange AuditOrigin)}

theorem laterPasses_settled
    (hrun : runPasses (laterPasses configuration clock) upgraded =
      .ok (final, commits)) (hchecked : upgraded.Checked) :
    ∀ pass ∈ laterPasses configuration clock, ReconciliationPass.Settled pass final := by
  refine settled_of_runPasses (P := InventoryDocument.Checked) ?_ ?_ hrun hchecked
  · intro pass hpass before after changes hbefore hres
    have hnext := laterPasses_revise configuration clock pass hpass _ _ _ hres
    by_cases hchanges : changes = []
    · have hsame := hnext.unchanged hchanges
      subst hchanges
      subst hsame
      exact ⟨hbefore, hres, fun _ => rfl⟩
    · exact ⟨hnext.checked hchanges,
        (laterPasses_settling configuration clock pass hpass).settles _ _ _
          hbefore hres hchanges, fun hnone => absurd hnone hchanges⟩
  · exact laterPasses_pairwise configuration clock

theorem laterPasses_le01mp
    (hrun : runPasses (laterPasses configuration clock) upgraded =
      .ok (final, commits)) (hchecked : upgraded.Checked) :
    (final.RegistersComplete ↔ upgraded.RegistersComplete) ∧
      (upgraded.Le01mpCurrent → final.Le01mpCurrent) := by
  have hkept : final.Checked ∧ (final.RegistersComplete ↔ upgraded.RegistersComplete) ∧
      (upgraded.Le01mpCurrent → final.Le01mpCurrent) := by
    refine runPasses_keeps (P := fun current => current.Checked ∧
      (current.RegistersComplete ↔ upgraded.RegistersComplete) ∧
      (upgraded.Le01mpCurrent → current.Le01mpCurrent)) ?_ hrun
      ⟨hchecked, Iff.rfl, id⟩
    intro pass hpass before after changes hbefore hres
    have hnext := laterPasses_revise configuration clock pass hpass _ _ _ hres
    by_cases hchanges : changes = []
    · rw [hnext.unchanged hchanges]
      exact hbefore
    · have hcarries := (laterPasses_settling configuration clock pass
        hpass).carries _ _ _ hbefore.1 hres hchanges
      exact ⟨hnext.checked hchanges, hcarries.registersComplete_iff.trans hbefore.2.1,
        fun hcur => hcarries.le01mpCurrent (hbefore.2.2 hcur)⟩
  exact hkept.2

theorem le01mpPass_complete_iff {now : String} {changes : List AuditChange}
    (hvalid : document.Valid) (hpass : (le01mpPass now).run document = .ok (upgraded, changes)) :
    upgraded.RegistersComplete ↔ document.LacksReached := by
  rw [← le01mpPass_current_iff hvalid hpass]
  constructor
  · intro hcomp
    rw [le01mpPass_current_iff hvalid hpass]
    by_cases hchanges : changes = []
    · have hsame :=
        (reconcileLe01mpProfile_nextRevision hpass).unchanged hchanges
      rw [hsame] at hcomp
      exact fun device hdev register hregr =>
        .inl (hcomp device hdev register hregr)
    · obtain ⟨hdevs, htargets, _, _⟩ :=
        reconcileLe01mpProfile_shape hpass hchanges
      exact (registersComplete_of_upgrade hvalid hdevs htargets).mp hcomp
  · exact fun hcur => hcur.registers

theorem startupPasses_cases
    (hrun : runPasses (startupPasses configuration clock) document =
      .ok (final, commits)) (hchecked : document.Checked) :
    ∃ upgraded changes others, (le01mpPass (clock 1)).run document = .ok (upgraded, changes) ∧
      upgraded.Checked ∧
      runPasses (laterPasses configuration clock) upgraded = .ok (final, others) := by
  rcases runPasses_cons_cases hrun with
    ⟨upgraded, hpass, hrest⟩ | ⟨upgraded, changes, others, hchanges, hpass, hrest, _⟩
  · have hsame := (reconcileLe01mpProfile_nextRevision hpass).unchanged rfl
    subst hsame
    exact ⟨_, _, _, hpass, hchecked, hrest⟩
  · exact ⟨_, _, _, hpass, (reconcileLe01mpProfile_nextRevision hpass).checked hchanges, hrest⟩

theorem startupPasses_settled_iff
    (hrun : runPasses (startupPasses configuration clock) document =
      .ok (final, commits)) (hchecked : document.Checked)
    (later : ℕ → String) :
    (∀ pass ∈ startupPasses configuration later,
      ReconciliationPass.Settled pass final) ↔ document.LacksReached := by
  obtain ⟨upgraded, changes, others, hpass, hupgraded, hrest⟩ :=
    startupPasses_cases hrun hchecked
  obtain ⟨hcomp, hcur⟩ := laterPasses_le01mp hrest hupgraded
  have hreached := le01mpPass_complete_iff hchecked.facts hpass
  constructor
  · intro hsettled
    have hfinal := le01mpPass_settled_iff.mp (hsettled (le01mpPass (later 1)) List.mem_cons_self)
    exact hreached.mp (hcomp.mp hfinal.registers)
  · intro hlacks pass hmem
    have hfinal : final.Checked := by
      refine runPasses_keeps ?_ hrun hchecked
      intro other hother before after changes hbefore hres
      have hnext :=
        startupPasses_revise configuration clock other hother _ _ _ hres
      by_cases hchanges : changes = []
      · rw [hnext.unchanged hchanges]
        exact hbefore
      · exact hnext.checked hchanges
    rcases List.mem_cons.mp hmem with rfl | hlater
    · exact le01mpPass_settled_iff.mpr
        (hcur ((le01mpPass_current_iff hchecked.facts hpass).mpr hlacks))
    · exact laterPasses_settled_clock hfinal (laterPasses_settled hrest hupgraded) later pass hlater

end LaterPasses

/-! ## Two starts -/

theorem InventoryDocument.BusesSettle.congr
    {configuration : RegistryConfiguration} {document other : InventoryDocument}
    (hdevs : document.devices = other.devices) :
    document.BusesSettle configuration ↔ other.BusesSettle configuration := by
  unfold InventoryDocument.BusesSettle
  rw [hdevs]

theorem InventoryDocument.LacksReached.congr {document other : InventoryDocument}
    (hdevs : document.devices = other.devices) (htargets : document.targets = other.targets) :
    document.LacksReached ↔ other.LacksReached := by
  unfold InventoryDocument.LacksReached InventoryDocument.le01mpDevices
    InventoryDocument.HasRegister
  rw [hdevs, htargets]

theorem busesStripped_of_settled {configuration : RegistryConfiguration}
    {clock : ℕ → String} {document : InventoryDocument} (hchecked : document.Checked)
    (hsettled : ∀ pass ∈ startupPasses configuration clock,
      ReconciliationPass.Settled pass document)
    (hbuses : document.BusesSettle configuration) : document.BusesStripped := by
  intro device hdev
  rcases hbuses device hdev with
    hstripped | ⟨topology, htopology, hexplicit, hassigned⟩
  · exact hstripped
  · have hbinding := hsettled (bindingPass configuration.topology (clock 4))
      (by simp [startupPasses])
    have hbind := (bindingPass_settled_iff hchecked).mp hbinding topology htopology hexplicit
    obtain ⟨entries, cadence, hents, _, hsame⟩ :=
      BusTopology.bindDocument_eq_ok.mp hbind
    have hdevs : document.devices = entries.map Prod.fst :=
      congrArg InventoryDocument.devices hsame
    rw [hdevs] at hdev
    obtain ⟨entry, hent, rfl⟩ := List.mem_map.mp hdev
    obtain ⟨old, _, hold⟩ := exists_mem_of_mapM_ok hents hent
    have hbound := topology.bound_of_bindDevice hold
    rw [(bound_sameUnit hbound).unitId] at hassigned
    simp only [BusTopology.bindDevice, bind_eq_ok, pure_eq_ok] at hold
    obtain ⟨⟨busId, retained⟩, hbus, rfl⟩ := hold
    rcases BusTopology.busOfDevice_cases hbus with ⟨hnone, _⟩ | ⟨hmem, _⟩
    · exact absurd hnone hassigned
    · exact assignedBus_stripped hmem

namespace RegistryStore

variable {configuration : RegistryConfiguration} {inputs : StartupInputs}
  {store after : RegistryStore} {row : RegistryRow}
  {registry : InventoryRegistry}

theorem settled_of_unchanged (hrow : store.row = some row)
    (hload : store.loadOrMigrate configuration inputs = .ok (registry, store)) :
    loadDocument inputs.environment configuration.settings (inputs.clock 0)
        row.document = .ok (registry.document, []) ∧
      ∀ pass ∈ startupPasses configuration inputs.clock,
        ReconciliationPass.Settled pass registry.document := by
  obtain ⟨document, migration, commits, hdoc, hrun, hstore⟩ :=
    (loadOrMigrate_eq_ok hrow).mp hload
  have hnone : migration ++ commits = [] := by
    have haudit := congrArg RegistryStore.audit hstore
    rw [record_audit, List.self_eq_append_right, List.map_eq_nil_iff] at haudit
    exact haudit
  obtain ⟨rfl, rfl⟩ := List.append_eq_nil_iff.mp hnone
  obtain ⟨hfinal, hpasses⟩ := runPasses_without_commits hrun
  rw [hfinal]
  refine ⟨hdoc, ?_⟩
  intro pass hpass
  obtain ⟨updated, hres⟩ := hpasses pass hpass
  have hsame := (startupPasses_revise configuration inputs.clock pass hpass _ _ _
    hres).unchanged rfl
  rw [hsame] at hres
  exact hres

theorem loadDocument_again (hrow : store.row = some row)
    (hload : store.loadOrMigrate configuration inputs = .ok (registry, after))
    (hstripped : registry.document.BusesStripped) (now : String) :
    ∃ next, after.row = some next ∧
      loadDocument inputs.environment configuration.settings now next.document =
        .ok (registry.document, []) := by
  obtain ⟨document, migration, commits, hdoc, hrun, rfl⟩ :=
    (loadOrMigrate_eq_ok hrow).mp hload
  rcases row_of_record hrow hdoc hrun with ⟨rfl, rfl⟩ | hstored
  · obtain ⟨hfinal, _⟩ := runPasses_without_commits hrun
    rw [loadDocument_unmigrated_iff] at hdoc
    refine ⟨row, hrow, ?_⟩
    rw [loadDocument_unmigrated_iff, hfinal]
    exact hdoc
  · refine ⟨_, hstored, ?_⟩
    have hloaded := loadDocument_loaded hdoc
    obtain ⟨hchecked, hanchored, hovers, _⟩ := startupPasses_buses hrun
      hloaded.checked hloaded.anchored hloaded.overrides
    have hdefs : ∀ item ∈ registry.document.cadence.familyDefaults, Stripped item.busId := by
      intro item hitem
      rcases hanchored item hitem with hbus | ⟨device, hdev, hbus⟩
      · exact hbus
      · rw [← hbus]
        exact hstripped device hdev
    rw [loadDocument_unmigrated_iff]
    exact documentFromJson_fixed hchecked hdefs hovers

/-- A second start finds nothing to do: it returns the same document and leaves
the store as it is. -/
def RestartsUnchanged (configuration : RegistryConfiguration)
    (inputs : StartupInputs) (registry : InventoryRegistry) (after : RegistryStore) : Prop :=
  ∃ again, after.loadOrMigrate configuration inputs = .ok (again, after) ∧
    again.document = registry.document

/-- The stored documents which one start brings to a fixpoint. -/
structure ReachesFixpoint (configuration : RegistryConfiguration)
    (payload : InventoryDocument) : Prop where
  buses : payload.BusesSettle configuration
  registers : payload.LacksReached

theorem loadOrMigrate_restart_iff (hrow : store.row = some row)
    (hload : store.loadOrMigrate configuration inputs = .ok (registry, after))
    (later : ℕ → String) :
    RestartsUnchanged configuration { inputs with clock := later } registry after ↔
      ReachesFixpoint configuration row.document := by
  obtain ⟨document, migration, commits, hdoc, hrun, hafter⟩ :=
    (loadOrMigrate_eq_ok hrow).mp hload
  have hloaded := loadDocument_loaded hdoc
  obtain ⟨hchecked, _, _, hbuses⟩ :=
    startupPasses_buses hrun hloaded.checked hloaded.anchored hloaded.overrides
  have hsettled := startupPasses_settled_iff hrun hloaded.checked later
  have hpayloadBuses : registry.document.BusesSettle configuration ↔
      row.document.BusesSettle configuration :=
    hbuses.trans (InventoryDocument.BusesSettle.congr hloaded.devices)
  have hpayloadLacks : document.LacksReached ↔ row.document.LacksReached :=
    InventoryDocument.LacksReached.congr hloaded.devices hloaded.targets
  constructor
  · rintro ⟨again, hagain, hsame⟩
    obtain ⟨next, hnext⟩ : ∃ next, after.row = some next := by
      rw [hafter]
      rcases row_of_record hrow hdoc hrun with ⟨rfl, rfl⟩ | hstored
      · exact ⟨row, hrow⟩
      · exact ⟨_, hstored⟩
    obtain ⟨hreload, hpasses⟩ := settled_of_unchanged hnext hagain
    rw [hsame] at hreload hpasses
    constructor
    case buses =>
      rw [← hpayloadBuses]
      have hdevs := (loadDocument_loaded hreload).devices
      rw [loadDocument_unmigrated_iff] at hreload
      intro device hdev
      rw [hdevs] at hdev
      exact .inl (documentFromJson_busesStripped hreload device hdev)
    case registers => exact hpayloadLacks.mp (hsettled.mp hpasses)
  · rintro ⟨hsettle, hlacks⟩
    have hpasses := hsettled.mpr (hpayloadLacks.mpr hlacks)
    have hstripped := busesStripped_of_settled hchecked hpasses
      (hpayloadBuses.mpr hsettle)
    obtain ⟨next, hnext, hreload⟩ :=
      loadDocument_again hrow hload hstripped (later 0)
    refine ⟨registry, ?_, rfl⟩
    rw [loadOrMigrate_eq_ok hnext]
    exact ⟨_, [], [], hreload, runPasses_settled hpasses, rfl⟩

def bareConfiguration : RegistryConfiguration where
  settings := ⟨"xjp60d", 10, [], [], none, [], none, []⟩
  topology := none

def bareInputs : StartupInputs where
  environment := ⟨fun _ => .blank, fun _ => .blank⟩
  clock := fun _ => "t"
  discoveryUnits := []
  legacyActivePoints := []

def legacyStore (busId : String) : RegistryStore where
  row := some ⟨1, {
    schemaVersion := 1
    revision := 1
    buses := [⟨busId, "modbus_rtu", true⟩]
    devices := [⟨⟨"x", busId, "xjp60d", 1, "active"⟩, "p"⟩]
    targets := []
    cadence := ⟨[], []⟩
    updatedAt := "t" }⟩
  audit := []

theorem legacyStore_loads (busId : String)
    (hloads : ((legacyStore busId).loadOrMigrate bareConfiguration
      bareInputs).toOption.isSome = true) :
    ∃ registry after, (legacyStore busId).loadOrMigrate bareConfiguration
      bareInputs = .ok (registry, after) := by
  cases hcase : (legacyStore busId).loadOrMigrate bareConfiguration bareInputs with
  | error fault =>
    rw [hcase] at hloads
    cases hloads
  | ok loaded => exact ⟨loaded.1, loaded.2, rfl⟩

theorem spacedBus_not_restarted :
    ∃ registry after, (legacyStore " a").loadOrMigrate bareConfiguration
        bareInputs = .ok (registry, after) ∧
      (∃ fault, after.loadOrMigrate bareConfiguration bareInputs = .error fault) ∧
      ¬ RestartsUnchanged bareConfiguration bareInputs registry after := by
  obtain ⟨registry, after, hload⟩ := legacyStore_loads " a" (by decide +kernel)
  have hsecond : ((legacyStore " a").loadOrMigrate bareConfiguration bareInputs
      >>= fun loaded => loaded.2.loadOrMigrate bareConfiguration
        bareInputs).toOption.isSome = false := by
    decide +kernel
  rw [hload] at hsecond
  change (after.loadOrMigrate bareConfiguration bareInputs).toOption.isSome =
    false at hsecond
  refine ⟨registry, after, hload, ?_⟩
  cases hagain : after.loadOrMigrate bareConfiguration bareInputs with
  | error fault =>
    refine ⟨⟨fault, rfl⟩, ?_⟩
    rintro ⟨again, hrestart, _⟩
    rw [hagain] at hrestart
    cases hrestart
  | ok loaded =>
    rw [hagain] at hsecond
    cases hsecond

theorem plainBus_restart_iff :
    ∃ registry after, (legacyStore "a").loadOrMigrate bareConfiguration
        bareInputs = .ok (registry, after) ∧
      (RestartsUnchanged bareConfiguration { bareInputs with
          clock := fun _ => "u" } registry after ↔
        ReachesFixpoint bareConfiguration
          ((legacyStore "a").row.get rfl).document) := by
  obtain ⟨registry, after, hload⟩ := legacyStore_loads "a" (by decide +kernel)
  exact ⟨registry, after, hload, loadOrMigrate_restart_iff rfl hload _⟩

end RegistryStore

end Nexolab
