import Nexolab.RegistryStore

/-!
# Commits of the registry store

Every operation of the store either leaves it as it was or adds checked
documents of the next revisions, each with its audit row.  The audit trail
therefore counts the revisions without a gap, and of the requests which expect
one revision a single one commits.
-/

namespace Nexolab
namespace RegistryStore

def auditRevisions (store : RegistryStore) : List ℕ :=
  store.audit.map RegistryAudit.revision

structure Consistent (store : RegistryStore) : Prop where
  column : ∀ row, store.row = some row → row.revision = row.document.revision
  checked : ∀ row, store.row = some row →
    row.document.schemaVersion ≠ legacySchemaVersion → row.document.Checked
  empty : store.row = none → store.audit = []
  audited : ∀ row, store.row = some row →
    ∃ first, store.auditRevisions = List.range' first store.audit.length ∧
      first + store.audit.length = row.revision + 1

structure Advances (before after : RegistryStore) (count : ℕ) : Prop where
  row : ∃ row, after.row = some row ∧ row.document.Checked ∧ row.revision = row.document.revision ∧
    row.revision = before.databaseRevision + count
  audit : ∃ rows : List RegistryAudit, after.audit = before.audit ++ rows ∧
    rows.map RegistryAudit.revision = List.range' (before.databaseRevision + 1) count

structure Creates (before after : RegistryStore) : Prop where
  empty : before.row = none
  row : ∃ row audited, after.row = some row ∧ row.document.Checked ∧
    row.revision = row.document.revision ∧
    after.audit = before.audit ++ [audited] ∧ audited.revision = row.revision

inductive Outcome (before after : RegistryStore) : Prop where
  | unchanged (hsame : after = before)
  | created (hcreates : Creates before after)
  | advanced (count : ℕ) (hcount : 1 ≤ count) (hrow : before.row ≠ none)
      (hadvances : Advances before after count)

theorem runStatements_without_failure {failsAt : Option ℕ}
    {statements : List (RegistryStore → Except StoreFault RegistryStore)}
    {working after : RegistryStore} (hrun : runStatements failsAt statements working = .ok after) :
    runStatements none statements working = .ok after := by
  induction statements generalizing failsAt working with
  | nil =>
    simp only [runStatements] at hrun ⊢
    exact hrun
  | cons statement rest ih =>
    cases failsAt with
    | none => exact hrun
    | some index =>
      cases index with
      | zero => simp [runStatements] at hrun
      | succ index =>
        simp only [runStatements] at hrun ⊢
        cases hstatement : statement working with
        | error fault =>
          rw [hstatement] at hrun
          cases hrun
        | ok next =>
          rw [hstatement] at hrun
          exact ih hrun

variable {expectedRevision : ℤ} {registry : InventoryRegistry}
  {configuration : RegistryConfiguration}
  {commits : List (PassCommit InventoryDocument AuditChange AuditOrigin)}
  {document final : InventoryDocument} {store : RegistryStore}

theorem commitStatements_eq_ok {document : InventoryDocument}
    {changes : List AuditChange} {origin : AuditOrigin} {store after : RegistryStore} :
    runStatements none (commitStatements document changes expectedRevision origin) store =
        .ok after ↔
      ∃ row, store.row = some row ∧ (row.revision : ℤ) = expectedRevision ∧
        after = { store with row := some ⟨document.revision, document⟩ }.writeAudit
          document origin changes := by
  unfold commitStatements
  cases hrow : store.row with
  | none =>
    by_cases hzero : (0 : ℤ) = expectedRevision
    · subst hzero
      simp [runStatements, checkRevision, writeStateAt, databaseRevision, hrow]
    · simp [runStatements, checkRevision, databaseRevision, hrow, hzero]
  | some row =>
    by_cases hexpected : (row.revision : ℤ) = expectedRevision
    · simp [runStatements, checkRevision, writeStateAt, databaseRevision, hrow, hexpected, eq_comm]
    · simp [runStatements, checkRevision, databaseRevision, hrow, hexpected]

structure Candidate.Prepared (candidate : Candidate) (request : RegistryRequest) :
    Prop where
  checked : candidate.document.Checked
  revision : candidate.document.revision = request.registry.document.revision + 1
  expected : request.expectedRevision = request.registry.document.revision

theorem checkSnapshot_eq_ok {checked : Unit} :
    checkSnapshot registry expectedRevision = .ok checked ↔
      expectedRevision = registry.document.revision := by
  unfold checkSnapshot
  split_ifs with hsnap
  · simp [hsnap]
  · simpa using hsnap

theorem candidate_nextRevision {operation : RegistryOperation} {document after : InventoryDocument}
    {now : String} {changes : List AuditChange}
    (hcand : operation.candidate configuration document now = .ok (after, changes)) :
    NextRevision document after changes := by
  unfold RegistryOperation.candidate at hcand
  split at hcand
  next => exact (withMutations_nextRevision hcand).1
  next mutation =>
    simp only [bind_eq_ok, pure_eq_ok, Prod.mk.injEq] at hcand
    obtain ⟨⟨updated, cadenceChanges, affected⟩, hmutate, rfl, rfl⟩ := hcand
    exact withCadenceMutation_nextRevision hmutate
  next =>
    simp only [InventoryDocument.withXjp60dEnrollment, bind_eq_ok] at hcand
    obtain ⟨_, _, henroll⟩ := hcand
    exact EnrollmentProfile.enroll_nextRevision henroll
  next => exact EnrollmentProfile.enroll_nextRevision hcand
  next => exact EnrollmentProfile.enroll_nextRevision hcand
  next => exact EnrollmentProfile.enroll_nextRevision hcand

theorem prepare_prepared {request : RegistryRequest} {candidate : Candidate}
    (hprep : prepare configuration request = .ok (some candidate)) :
    candidate.Prepared request := by
  unfold prepare at hprep
  split at hprep
  next topology unitIds profileVersion busForUnit _ _ =>
    simp only [prepareDiscovery, bind_eq_ok, checkSnapshot_eq_ok] at hprep
    obtain ⟨origin, _, _, _, _, hexpected, ⟨document, changes⟩, henroll, hprep⟩ := hprep
    have hnext := EnrollmentProfile.enroll_nextRevision henroll
    by_cases hchanges : changes = []
    · rw [if_pos hchanges, pure_eq_ok] at hprep
      cases hprep
    · rw [if_neg hchanges, pure_eq_ok, Option.some.injEq] at hprep
      subst hprep
      exact ⟨hnext.checked hchanges, hnext.revision hchanges, hexpected⟩
  next =>
    simp only [prepareMutation, bind_eq_ok] at hprep
    obtain ⟨⟨document, changes⟩, hcand, hprep⟩ := hprep
    have hnext := candidate_nextRevision hcand
    by_cases hchanges : changes = []
    · rw [if_pos hchanges, pure_eq_ok] at hprep
      cases hprep
    · rw [if_neg hchanges] at hprep
      simp only [bind_eq_ok, checkSnapshot_eq_ok, pure_eq_ok, Option.some.injEq] at hprep
      obtain ⟨origin, _, _, hexpected, rfl⟩ := hprep
      exact ⟨hnext.checked hchanges, hnext.revision hchanges, hexpected⟩

theorem serve_outcome (store : RegistryStore)
    (configuration : RegistryConfiguration) (request : RegistryRequest) (failsAt : Option ℕ) :
    (store.serve configuration request failsAt).2 = store ∨
      (request.expectedRevision = store.databaseRevision ∧ store.row ≠ none ∧
        Advances store (store.serve configuration request failsAt).2 1 ∧
        ∃ registry, (store.serve configuration request failsAt).1 = .ok registry) := by
  unfold serve
  cases hprep : prepare configuration request with
  | error fault => exact .inl rfl
  | ok prepared =>
    cases prepared with
    | none => exact .inl rfl
    | some candidate =>
      have hcand := prepare_prepared hprep
      simp only [commitDocument]
      cases hrun : runStatements failsAt (commitStatements candidate.document
          candidate.changes request.expectedRevision candidate.origin)
          store with
      | error fault => exact .inl rfl
      | ok committed =>
        obtain ⟨row, hrow, hrev, rfl⟩ := commitStatements_eq_ok.mp
          (runStatements_without_failure hrun)
        have hdb : store.databaseRevision = row.revision := by
          unfold databaseRevision
          rw [hrow]
        have hnext : candidate.document.revision = store.databaseRevision + 1 := by
          have hexpected := hcand.expected
          rw [hcand.revision, hdb]
          omega
        refine .inr ⟨by rw [hdb, hrev], by simp [hrow], ?_, ?_⟩
        · exact {
            row := ⟨_, rfl, hcand.checked, rfl, hnext⟩
            audit := ⟨_, rfl, by simp [hnext]⟩ }
        · simp only [transact, committedRegistry, InventoryRegistry.of_valid hcand.checked]
          exact ⟨_, rfl⟩

theorem serve_eq_ok {store after : RegistryStore} {request : RegistryRequest} {failsAt : Option ℕ}
    (hserve : store.serve configuration request failsAt = (.ok registry, after)) :
    (prepare configuration request = .ok none ∧ registry = request.registry) ∨
      ∃ candidate, prepare configuration request = .ok (some candidate) ∧
        registry.document = candidate.document := by
  unfold serve at hserve
  split at hserve
  next => simp only [Prod.mk.injEq, reduceCtorEq, false_and] at hserve
  next hprep =>
    simp only [Prod.mk.injEq, Except.ok.injEq] at hserve
    exact .inl ⟨hprep, hserve.1.symm⟩
  next candidate hprep =>
    refine .inr ⟨candidate, hprep, ?_⟩
    simp only [commitDocument] at hserve
    cases hrun : runStatements failsAt (commitStatements candidate.document
        candidate.changes request.expectedRevision candidate.origin) store with
    | error fault => simp [hrun, transact] at hserve
    | ok committed =>
      simp only [hrun, transact, committedRegistry,
        InventoryRegistry.of_valid (prepare_prepared hprep).checked,
        Prod.mk.injEq, Except.ok.injEq] at hserve
      rw [← hserve.1]

/-! ## Startup -/

theorem record_audit (store : RegistryStore)
    (commits : List (PassCommit InventoryDocument AuditChange AuditOrigin)) :
    (store.record commits).audit = store.audit ++ commits.map fun commit =>
      ⟨commit.document.revision, commit.label.actor, commit.label.reason,
        commit.changes, commit.document.updatedAt⟩ := by
  induction commits generalizing store with
  | nil => simp [record]
  | cons commit rest ih =>
    have hrest := ih ((store.writeState commit.document).writeAudit
      commit.document commit.label commit.changes)
    rw [record] at hrest ⊢
    rw [List.foldl_cons, hrest]
    simp [writeAudit, writeState]

variable {row : RegistryRow} {inputs : StartupInputs} {event : StoreEvent}

theorem record_row (hrow : store.row = some row)
    (hlast : (document :: commits.map PassCommit.document).getLast? =
      some final) (hcommits : commits ≠ []) :
    (store.record commits).row = some ⟨final.revision, final⟩ := by
  induction commits generalizing store row document with
  | nil => exact absurd rfl hcommits
  | cons commit rest ih =>
    have hstored : ((store.writeState commit.document).writeAudit
        commit.document commit.label commit.changes).row =
        some ⟨commit.document.revision, commit.document⟩ := by
      simp [writeAudit, writeState, hrow]
    rw [List.map_cons, List.getLast?_cons_cons] at hlast
    cases rest with
    | nil =>
      simp only [List.map_nil, List.getLast?_singleton] at hlast
      cases hlast
      exact hstored
    | cons next others =>
      exact ih hstored hlast (List.cons_ne_nil _ _)

theorem record_advances (hrow : store.row = some row)
    (hcommits : CommitsFrom InventoryDocument.revision InventoryDocument.Checked
      document final commits)
    (hrev : document.revision = row.revision) (hne : commits ≠ []) :
    Advances store (store.record commits) commits.length := by
  have hdb : store.databaseRevision = row.revision := by
    unfold databaseRevision
    rw [hrow]
  have hchecked : final.Checked := by
    have hlast := hcommits.last
    obtain ⟨commit, others, rfl⟩ := List.exists_cons_of_ne_nil hne
    rw [List.map_cons, List.getLast?_cons_cons] at hlast
    rw [← List.map_cons] at hlast
    obtain ⟨last, hmem, rfl⟩ := List.mem_map.mp (List.mem_of_getLast? hlast)
    exact hcommits.valid last hmem
  constructor
  case row =>
    refine ⟨_, record_row hrow hcommits.last hne, hchecked, rfl, ?_⟩
    rw [hdb, ← hrev]
    exact hcommits.final_revision
  case audit =>
    refine ⟨_, record_audit store commits, ?_⟩
    rw [List.map_map, hdb, ← hrev, ← hcommits.revisions]
    rfl

theorem runPasses_commitsFrom {clock : ℕ → String}
    (hrun : runPasses (startupPasses configuration clock) document =
      .ok (final, commits)) (hdoc : document.Checked) :
    CommitsFrom InventoryDocument.revision InventoryDocument.Checked document final commits := by
  refine commitsFrom_of_runPasses ?_ hrun hdoc
  intro pass hpass before after changes _ hres hchanges
  have hnext := startupPasses_revise configuration clock pass hpass _ _ _ hres
  exact ⟨hnext.checked hchanges, hnext.revision hchanges⟩

theorem loadDocument_cases {environment : PolicyEnvironment}
    {settings : RegistrySettings} {now : String} {payload document : InventoryDocument}
    {migration : List (PassCommit InventoryDocument AuditChange AuditOrigin)}
    (hload : loadDocument environment settings now payload = .ok (document, migration)) :
    document.Checked ∧
      ((migration = [] ∧ document.revision = payload.revision) ∨
        ∃ label changes, migration = [⟨label, document, changes⟩] ∧
          document.revision = payload.revision + 1) := by
  unfold loadDocument at hload
  split_ifs at hload with hlegacy hcur
  · simp only [migrateV1Document, bind_eq_ok, pure_eq_ok, Prod.mk.injEq] at hload
    obtain ⟨⟨migrated, changes⟩, ⟨_, _, _, hvalidate, rfl, _⟩, rfl, rfl⟩ := hload
    refine ⟨InventoryDocument.checked_of_validate hvalidate, .inr ?_⟩
    refine ⟨_, _, rfl, ?_⟩
    rw [validateDocument_eq hvalidate]
  · simp only [documentFromJson, bind_eq_ok, pure_eq_ok, Prod.mk.injEq] at hload
    obtain ⟨_, ⟨_, _, _, _, hvalidate⟩, rfl, rfl⟩ := hload
    refine ⟨InventoryDocument.checked_of_validate hvalidate, .inl ⟨rfl, ?_⟩⟩
    rw [validateDocument_eq hvalidate]

theorem loadOrMigrate_eq_ok {store after : RegistryStore} (hrow : store.row = some row) :
    store.loadOrMigrate configuration inputs = .ok (registry, after) ↔ ∃ document migration commits,
        loadDocument inputs.environment configuration.settings (inputs.clock 0)
          row.document = .ok (document, migration) ∧
        runPasses (startupPasses configuration inputs.clock) document =
          .ok (registry.document, commits) ∧
        after = store.record (migration ++ commits) := by
  unfold loadOrMigrate
  rw [hrow]
  simp only [bind_eq_ok, pure_eq_ok, Prod.mk.injEq]
  constructor
  · rintro ⟨⟨document, migration⟩, hload, ⟨final, commits⟩, hrun, checked, hchecked, rfl, rfl⟩
    rw [InventoryRegistry.of_eq_ok hchecked]
    exact ⟨document, migration, commits, hload, hrun, rfl⟩
  · rintro ⟨document, migration, commits, hload, hrun, rfl⟩
    exact ⟨_, hload, _, hrun, registry, InventoryRegistry.of_valid registry.valid,
      rfl, rfl⟩

theorem row_of_record (hrow : store.row = some row)
    {migration commits :
      List (PassCommit InventoryDocument AuditChange AuditOrigin)}
    (hdoc : loadDocument inputs.environment configuration.settings
      (inputs.clock 0) row.document = .ok (document, migration))
    (hrun : runPasses (startupPasses configuration inputs.clock) document = .ok (final, commits)) :
    (migration = [] ∧ commits = []) ∨
      (store.record (migration ++ commits)).row = some ⟨final.revision, final⟩ := by
  obtain ⟨hchecked, hmigration⟩ := loadDocument_cases hdoc
  have hlast := (runPasses_commitsFrom hrun hchecked).last
  rcases hmigration with ⟨rfl, _⟩ | ⟨label, changes, rfl, _⟩
  · by_cases hnone : commits = []
    · exact .inl ⟨rfl, hnone⟩
    · exact .inr (record_row hrow hlast hnone)
  · have hall : (row.document :: ((⟨label, document, changes⟩ : PassCommit _ _ _)
        :: commits).map PassCommit.document).getLast? = some final := by
      rw [List.map_cons, List.getLast?_cons_cons]
      exact hlast
    exact .inr (record_row hrow hall (List.cons_ne_nil _ _))

theorem loadOrMigrate_revision {store after : RegistryStore} (hcons : store.Consistent)
    (hload : store.loadOrMigrate configuration inputs = .ok (registry, after)) :
    after.databaseRevision = registry.document.revision := by
  cases hrow : store.row with
  | some row =>
    obtain ⟨document, migration, commits, hdoc, hrun, rfl⟩ :=
      (loadOrMigrate_eq_ok hrow).mp hload
    rcases row_of_record hrow hdoc hrun with ⟨rfl, rfl⟩ | hstored
    · obtain ⟨hfinal, _⟩ := runPasses_without_commits hrun
      have hrev : document.revision = row.document.revision := by
        rcases (loadDocument_cases hdoc).2 with
          ⟨_, hsame⟩ | ⟨_, _, hmigration, _⟩
        · exact hsame
        · cases hmigration
      rw [hfinal, hrev, ← hcons.column row hrow]
      change store.databaseRevision = row.revision
      unfold databaseRevision
      rw [hrow]
    · unfold databaseRevision
      rw [hstored]
  | none =>
    unfold loadOrMigrate at hload
    rw [hrow] at hload
    simp only [bind_eq_ok, pure_eq_ok, Prod.mk.injEq] at hload
    obtain ⟨⟨document, changes⟩, _, created, hcreated, rfl, rfl⟩ := hload
    rw [InventoryRegistry.of_eq_ok hcreated]
    rfl

theorem loadOrMigrate_outcome {store after : RegistryStore} (hcons : store.Consistent)
    (hload : store.loadOrMigrate configuration inputs = .ok (registry, after)) :
    Outcome store after := by
  unfold loadOrMigrate at hload
  split at hload
  next row hrow =>
    simp only [bind_eq_ok, pure_eq_ok, Prod.mk.injEq] at hload
    obtain ⟨⟨document, migration⟩, hdoc, ⟨final, commits⟩, hpasses, _, _, _,
      rfl⟩ := hload
    obtain ⟨hchecked, hmigration⟩ := loadDocument_cases hdoc
    have hcommits := runPasses_commitsFrom hpasses hchecked
    have hcolumn := hcons.column row hrow
    rcases hmigration with ⟨rfl, hrev⟩ | ⟨label, changes, rfl, hrev⟩
    · rw [List.nil_append]
      rcases List.eq_nil_or_concat' commits with rfl | ⟨_, _, hlast⟩
      · exact .unchanged rfl
      · have hne : commits ≠ [] := by rw [hlast]; simp
        exact .advanced _ (List.length_pos_iff.mpr hne) (by simp [hrow])
          (record_advances hrow hcommits (by rw [hrev, hcolumn]) hne)
    · have hall : CommitsFrom InventoryDocument.revision InventoryDocument.Checked
          row.document final (⟨label, document, changes⟩ :: commits) :=
        CommitsFrom.cons hcommits hchecked hrev
      exact .advanced _ (by simp) (by simp [hrow])
        (record_advances hrow hall hcolumn.symm (by simp))
  next hrow =>
    simp only [bind_eq_ok, pure_eq_ok, Prod.mk.injEq] at hload
    obtain ⟨⟨document, changes⟩, _, created, hcreated, _, rfl⟩ := hload
    have hchecked : document.Checked := by
      have hvalid := created.valid
      rw [InventoryRegistry.of_eq_ok hcreated] at hvalid
      exact hvalid
    exact .created {
      empty := hrow
      row := ⟨_, _, rfl, hchecked, rfl, rfl, rfl⟩ }

theorem startup_outcome (hcons : store.Consistent) (configuration : RegistryConfiguration)
    (inputs : StartupInputs) (databaseFails : Bool) :
    Outcome store (store.startup configuration inputs databaseFails).2 ∧
      ∀ fault, (store.startup configuration inputs databaseFails).1 = .error fault →
        (store.startup configuration inputs databaseFails).2 = store := by
  unfold startup
  cases databaseFails with
  | true => exact ⟨.unchanged rfl, fun _ _ => rfl⟩
  | false =>
    cases hload : store.loadOrMigrate configuration inputs with
    | error fault => exact ⟨.unchanged rfl, fun _ _ => rfl⟩
    | ok loaded =>
      refine ⟨loadOrMigrate_outcome hcons hload, ?_⟩
      intro fault hfault
      cases hfault

theorem step_outcome (hcons : store.Consistent) (event : StoreEvent) :
    Outcome store (store.step event).2 ∧ ∀ fault, (store.step event).1 = .error fault →
        (store.step event).2 = store := by
  cases event with
  | startup configuration inputs databaseFails =>
    exact startup_outcome hcons configuration inputs databaseFails
  | request configuration request failsAt =>
    unfold step
    rcases serve_outcome store configuration request failsAt with
      hsame | ⟨_, hrow, hadvances, registry, hregistry⟩
    · exact ⟨.unchanged hsame, fun _ _ => hsame⟩
    · refine ⟨.advanced 1 le_rfl hrow hadvances, ?_⟩
      intro fault hfault
      simp only [hregistry] at hfault
      cases hfault

theorem consistent_of_row (hrow : store.row = some row) (hchecked : row.document.Checked)
    (hcolumn : row.revision = row.document.revision)
    (haudited : ∃ first, store.auditRevisions = List.range' first store.audit.length ∧
        first + store.audit.length = row.revision + 1) :
    store.Consistent := by
  have hunique : ∀ other, store.row = some other → other = row := by
    intro other hother
    rw [hrow] at hother
    exact (Option.some.inj hother).symm
  constructor
  case column =>
    intro other hother
    rw [hunique other hother]
    exact hcolumn
  case checked =>
    intro other hother _
    rw [hunique other hother]
    exact hchecked
  case empty =>
    intro hnone
    rw [hrow] at hnone
    cases hnone
  case audited =>
    intro other hother
    rw [hunique other hother]
    exact haudited

theorem Outcome.consistent {before after : RegistryStore}
    (hout : Outcome before after) (hbefore : before.Consistent) :
    after.Consistent := by
  cases hout with
  | unchanged hsame => rwa [hsame]
  | created hcreates =>
    obtain ⟨row, audited, hrow, hchecked, hcolumn, haudit, hrev⟩ :=
      hcreates.row
    have hempty := hbefore.empty hcreates.empty
    rw [hempty, List.nil_append] at haudit
    refine consistent_of_row hrow hchecked hcolumn
      ⟨row.revision, ?_, by simp [haudit]⟩
    simp [auditRevisions, haudit, hrev]
  | advanced count hcount hpresent hadvances =>
    obtain ⟨row, hrow, hchecked, hcolumn, hrev⟩ := hadvances.row
    obtain ⟨rows, haudit, hrows⟩ := hadvances.audit
    obtain ⟨old, hold⟩ := Option.ne_none_iff_exists'.mp hpresent
    obtain ⟨first, hfirst, hlen⟩ := hbefore.audited old hold
    have hdb : before.databaseRevision = old.revision := by
      unfold databaseRevision
      rw [hold]
    have hcountRows : rows.length = count := by
      have hlengths := congrArg List.length hrows
      simpa using hlengths
    refine consistent_of_row hrow hchecked hcolumn ⟨first, ?_, ?_⟩
    · unfold auditRevisions at hfirst ⊢
      rw [haudit, List.map_append, List.length_append, hfirst, hrows,
        hcountRows, hdb, ← hlen, List.range'_append_1]
    · rw [haudit, List.length_append, hcountRows, hrev, hdb]
      omega

theorem Outcome.revision {before after : RegistryStore} (hout : Outcome before after) :
    after = before ∨ before.databaseRevision < after.databaseRevision := by
  cases hout with
  | unchanged hsame => exact .inl hsame
  | created hcreates =>
    obtain ⟨row, _, hrow, hchecked, hcolumn, _⟩ := hcreates.row
    have hpositive := hchecked.facts.revision_pos
    right
    unfold databaseRevision
    rw [hcreates.empty, hrow]
    simp only
    omega
  | advanced count hcount hpresent hadvances =>
    obtain ⟨row, hrow, _, _, hrev⟩ := hadvances.row
    have hafter : after.databaseRevision = row.revision := by
      unfold databaseRevision
      rw [hrow]
    right
    omega

theorem run_consistent {start : RegistryStore} (hstart : start.Consistent)
    (events : List StoreEvent) : (start.run events).Consistent := by
  induction events generalizing start with
  | nil => exact hstart
  | cons event rest ih =>
    exact ih ((step_outcome hstart event).1.consistent hstart)

/-! ## Requests which expect the same revision -/

def StoreEvent.Expects (expectedRevision : ℤ) : StoreEvent → Prop
  | .startup _ _ _ => False
  | .request _ asked _ => asked.expectedRevision = expectedRevision

instance (expectedRevision : ℤ) :
    DecidablePred (StoreEvent.Expects expectedRevision) := fun event =>
  match event with
  | .startup .. => .isFalse id
  | .request .. => inferInstanceAs (Decidable (_ = _))

/-- A request whose candidate is ready and which the database does not fail. -/
def StoreEvent.Acceptable : StoreEvent → Prop
  | .startup _ _ _ => False
  | .request configuration asked failsAt =>
    failsAt = none ∧ ∃ candidate, prepare configuration asked = .ok (some candidate)

def commitsExpecting (expectedRevision : ℤ) :
    RegistryStore → List StoreEvent → ℕ
  | _, [] => 0
  | store, event :: rest =>
    (if StoreEvent.Expects expectedRevision event ∧
        (store.step event).2 ≠ store then 1 else 0) +
      commitsExpecting expectedRevision (store.step event).2 rest

theorem expected_of_commit (hexpects : event.Expects expectedRevision)
    (hcommit : (store.step event).2 ≠ store) :
    expectedRevision = store.databaseRevision := by
  cases event with
  | startup => exact hexpects.elim
  | request configuration request failsAt =>
    rcases serve_outcome store configuration request failsAt with
      hsame | ⟨hexpected, _⟩
    · exact absurd hsame hcommit
    · exact hexpects.symm.trans hexpected

theorem commitsExpecting_passed (hstore : store.Consistent)
    (hpassed : expectedRevision < store.databaseRevision) (events : List StoreEvent) :
    commitsExpecting expectedRevision store events = 0 := by
  induction events generalizing store with
  | nil => rfl
  | cons event rest ih =>
    have hstep := (step_outcome hstore event).1
    have hlater : expectedRevision < (store.step event).2.databaseRevision := by
      rcases hstep.revision with hsame | hrises
      · rw [hsame]
        exact hpassed
      · omega
    have hnot : ¬ (StoreEvent.Expects expectedRevision event ∧
        (store.step event).2 ≠ store) := by
      rintro ⟨hexpects, hcommit⟩
      have hcur := expected_of_commit hexpects hcommit
      omega
    unfold commitsExpecting
    rw [if_neg hnot, ih (hstep.consistent hstore) hlater]

theorem commitsExpecting_committed (hstore : store.Consistent)
    (hexpects : event.Expects expectedRevision)
    (hcommit : (store.step event).2 ≠ store) (rest : List StoreEvent) :
    commitsExpecting expectedRevision store (event :: rest) = 1 := by
  have hstep := (step_outcome hstore event).1
  have hcur := expected_of_commit hexpects hcommit
  have hpassed : expectedRevision < (store.step event).2.databaseRevision := by
    rcases hstep.revision with hsame | hrises
    · exact absurd hsame hcommit
    · omega
  unfold commitsExpecting
  rw [if_pos ⟨hexpects, hcommit⟩, commitsExpecting_passed (hstep.consistent hstore) hpassed]

theorem commitsExpecting_le_one (hstore : store.Consistent) (expectedRevision : ℤ)
    (events : List StoreEvent) :
    commitsExpecting expectedRevision store events ≤ 1 := by
  induction events generalizing store with
  | nil => exact Nat.zero_le 1
  | cons event rest ih =>
    by_cases hcommits : StoreEvent.Expects expectedRevision event ∧ (store.step event).2 ≠ store
    · rw [commitsExpecting_committed hstore hcommits.1 hcommits.2]
    · unfold commitsExpecting
      rw [if_neg hcommits, Nat.zero_add]
      exact ih ((step_outcome hstore event).1.consistent hstore)

theorem acceptable_commits (hacceptable : event.Acceptable)
    (hexpects : event.Expects expectedRevision)
    (hcur : (store.databaseRevision : ℤ) = expectedRevision) :
    (store.step event).2 ≠ store := by
  cases event with
  | startup => exact hexpects.elim
  | request configuration request failsAt =>
    obtain ⟨rfl, candidate, hprep⟩ := hacceptable
    have hcand := prepare_prepared hprep
    have hpositive := request.registry.facts.revision_pos
    have hexpected : request.expectedRevision = expectedRevision := hexpects
    have hsnap := hcand.expected
    cases hrow : store.row with
    | none =>
      have hzero : store.databaseRevision = 0 := by
        unfold databaseRevision
        rw [hrow]
      omega
    | some row =>
      have hdb : store.databaseRevision = row.revision := by
        unfold databaseRevision
        rw [hrow]
      have hrun : runStatements none (commitStatements candidate.document
          candidate.changes request.expectedRevision candidate.origin) store =
          .ok _ :=
        commitStatements_eq_ok.mpr
          ⟨row, hrow, by rw [hexpected, ← hcur, hdb], rfl⟩
      intro hsame
      have haudit := congrArg (fun after => after.audit.length) hsame
      simp only [step, serve, hprep, commitDocument, hrun, transact,
        writeAudit, List.length_append, List.length_singleton] at haudit
      omega

theorem commitsExpecting_eq_one (hstore : store.Consistent)
    (hcur : (store.databaseRevision : ℤ) = expectedRevision) {contenders : List StoreEvent}
    (hexpect : ∀ event ∈ contenders, event.Expects expectedRevision)
    (hacceptable : ∃ event ∈ contenders, event.Acceptable) :
    commitsExpecting expectedRevision store contenders = 1 := by
  induction contenders generalizing store with
  | nil =>
    obtain ⟨_, hmem, _⟩ := hacceptable
    cases hmem
  | cons event rest ih =>
    have hexpects := hexpect event List.mem_cons_self
    by_cases hcommit : (store.step event).2 = store
    · have hnot : ¬ (StoreEvent.Expects expectedRevision event ∧
          (store.step event).2 ≠ store) := fun hboth => hboth.2 hcommit
      unfold commitsExpecting
      rw [if_neg hnot, Nat.zero_add, hcommit]
      refine ih hstore hcur (fun other hother => hexpect other (List.mem_cons_of_mem _ hother)) ?_
      obtain ⟨ready, hmem, hready⟩ := hacceptable
      rcases List.mem_cons.mp hmem with rfl | hrest
      · exact absurd hcommit (acceptable_commits hready hexpects hcur)
      · exact ⟨ready, hrest, hready⟩
    · exact commitsExpecting_committed hstore hexpects hcommit rest

/-- Over every run of starts and requests the stored documents are checked and
every revision has one audit row; an operation which fails changes nothing and
a request commits one revision; of the requests which expect one revision at
most one commits, and exactly one when it is the current one and any of them is
ready. -/
theorem registryRun_sound {start : RegistryStore} (hstart : start.Consistent)
    (events : List StoreEvent) :
    (start.run events).Consistent ∧
      (∀ event, Outcome (start.run events) ((start.run events).step event).2 ∧
        (∀ fault, ((start.run events).step event).1 = .error fault →
          ((start.run events).step event).2 = start.run events) ∧
        (∀ expectedRevision, StoreEvent.Expects expectedRevision event →
          ((start.run events).step event).2 = start.run events ∨
            Advances (start.run events) ((start.run events).step event).2 1)) ∧
      (∀ expectedRevision, commitsExpecting expectedRevision start events ≤ 1) ∧
      (∀ contenders : List StoreEvent, (∀ event ∈ contenders,
          StoreEvent.Expects (start.run events).databaseRevision event) →
        (∃ event ∈ contenders, StoreEvent.Acceptable event) →
        commitsExpecting (start.run events).databaseRevision (start.run events)
          contenders = 1) := by
  have hrun := run_consistent hstart events
  refine ⟨hrun, ?_, ?_, ?_⟩
  · intro event
    obtain ⟨hout, hfailed⟩ := step_outcome hrun event
    refine ⟨hout, hfailed, ?_⟩
    intro expectedRevision hexpects
    cases event with
    | startup => exact hexpects.elim
    | request configuration request failsAt =>
      rcases serve_outcome (start.run events) configuration request failsAt with
        hsame | ⟨_, _, hadvances, _⟩
      · exact .inl hsame
      · exact .inr hadvances
  · exact fun expectedRevision =>
      commitsExpecting_le_one hstart expectedRevision events
  · exact fun contenders hexpect hacceptable =>
      commitsExpecting_eq_one hrun rfl hexpect hacceptable

theorem empty_consistent : Consistent ⟨none, []⟩ where
  column := fun _ hrow => nomatch hrow
  checked := fun _ hrow => nomatch hrow
  empty := fun _ => rfl
  audited := fun _ hrow => nomatch hrow

def firstStart : StoreEvent :=
  .startup
    { settings := ⟨"le01mp", 30, [7], [], none, [], none, []⟩, topology := none }
    { environment := ⟨fun _ => .blank, fun _ => .blank⟩
      clock := fun _ => "now"
      discoveryUnits := []
      legacyActivePoints := [] } false

theorem registryRun_sound_firstStart :
    ((run ⟨none, []⟩ [firstStart]).row.map RegistryRow.revision = some 1 ∧
      (run ⟨none, []⟩ [firstStart]).auditRevisions = [1]) ∧
      (run ⟨none, []⟩ [firstStart]).Consistent ∧
      ∀ expectedRevision,
        commitsExpecting expectedRevision ⟨none, []⟩ [firstStart] ≤ 1 :=
  ⟨by decide +kernel, (registryRun_sound empty_consistent [firstStart]).1,
    (registryRun_sound empty_consistent [firstStart]).2.2.1⟩

end RegistryStore
end Nexolab
