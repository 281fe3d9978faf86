import Nexolab.CadenceRebinding
import Nexolab.RegistryCommits
import Nexolab.RegistryServer

/-!
# The installed registry

A checked registry can always be installed, and between two installations the
workers leave the installed revision alone.  The installed revision follows the
committed one when a request installs its snapshot while no other request holds
an older one, and no request fails which is the last to install the current
registry.  Nothing in the agent ensures either: two requests may install their
snapshots in the order opposite to their commits.
-/

namespace Nexolab

theorem CadencePolicy.Valid.effectiveInterval_ok {policy : CadencePolicy}
    {busIds : List String} {devices : List RegistryDevice}
    (hvalid : policy.Valid busIds devices) {device : RegistryDevice} (hdev : device ∈ devices) :
    ∃ cadence, policy.effectiveInterval device.deviceId device.busId
      device.deviceFamily = .ok cadence := by
  unfold CadencePolicy.effectiveInterval
  cases policy.deviceOverrides.find? fun item =>
      item.deviceId = device.deviceId with
  | some item => exact ⟨_, rfl⟩
  | none =>
    obtain ⟨interval, hint⟩ := hvalid.familyDefaultInterval_ok hdev
    simp only [hint]
    exact ⟨_, rfl⟩

theorem InventoryRegistry.target_device (registry : InventoryRegistry) {target : RegistryTarget}
    (htarget : target ∈ registry.toAcquisitionRegistry.document.targets) :
    ∃ device ∈ registry.document.rows,
      registry.toAcquisitionRegistry.device target.deviceId = .ok device := by
  obtain ⟨stored, hstored, rfl⟩ := List.mem_map.mp htarget
  obtain ⟨device, hdev, hid⟩ :=
    List.mem_map.mp (registry.facts.target_owners stored hstored)
  have hrow : device.toRegistryDevice ∈ registry.document.rows :=
    List.mem_map_of_mem hdev
  refine ⟨device.toRegistryDevice, hrow, ?_⟩
  have hfound : registry.toAcquisitionRegistry.device device.deviceId =
      .ok device.toRegistryDevice := AcquisitionRegistry.device_of_mem hrow
  rw [← hid]
  exact hfound

theorem specs_total (policy : SchedulerPolicy) (registry : InventoryRegistry) :
    ∃ allSpecs, specs policy registry.toAcquisitionRegistry = .ok allSpecs := by
  have heligible : ∃ eligible, registry.toAcquisitionRegistry.eligibleTargets = .ok eligible := by
    refine filterM_total fun target htarget => ?_
    obtain ⟨device, _, hdev⟩ := registry.target_device htarget
    unfold AcquisitionRegistry.effectivePollEligible
    rw [hdev]
    exact ⟨_, rfl⟩
  obtain ⟨eligible, heligible⟩ := heligible
  have hspecs : ∃ allSpecs,
      eligible.mapM (specOf policy registry.toAcquisitionRegistry) = .ok allSpecs := by
    refine mapM_total fun target htarget => ?_
    obtain ⟨device, hmem, hdev⟩ :=
      registry.target_device (mem_of_filterM_ok heligible htarget)
    obtain ⟨cadence, hcadence⟩ :=
      registry.facts.cadence.effectiveInterval_ok hmem
    have hrow : registry.toAcquisitionRegistry.device device.deviceId =
        .ok device := AcquisitionRegistry.device_of_mem hmem
    have heffective :
        registry.toAcquisitionRegistry.effectiveCadenceForDevice device.deviceId = .ok cadence := by
      unfold AcquisitionRegistry.effectiveCadenceForDevice
      rw [hrow]
      exact hcadence
    unfold specOf
    rw [hdev]
    simp only [bind, Except.bind, heffective]
    exact ⟨_, rfl⟩
  obtain ⟨allSpecs, hspecs⟩ := hspecs
  unfold specs
  rw [heligible]
  simp only [bind, Except.bind, hspecs]
  exact ⟨_, rfl⟩

theorem install_total (scheduler : Scheduler) (registry : InventoryRegistry)
    (now wallNow : ℚ) (lastAttempts : String → Option LastAttempt) :
    ∃ installed, scheduler.install registry.toAcquisitionRegistry now wallNow
        lastAttempts = .ok installed ∧
      installed.registryRevision = registry.document.revision := by
  obtain ⟨allSpecs, hspecs⟩ := specs_total scheduler.policy registry
  unfold Scheduler.install
  rw [hspecs]
  exact ⟨_, rfl, rfl⟩

/-! ## The workers leave the revision alone -/

namespace Scheduler

theorem deferSiblings_registryRevision (unitId : ℕ) (cooldownUntil : ℚ)
    (targetIds : List String) (current : Scheduler) (deferred : ℕ) :
    (deferSiblings unitId cooldownUntil targetIds
      (current, deferred)).1.registryRevision = current.registryRevision := by
  induction targetIds generalizing current deferred with
  | nil => rfl
  | cons targetId rest ih =>
    unfold deferSiblings
    split
    next => rfl
    next candidate _ =>
      split_ifs
      · exact ih _ _
      · exact ih _ _

theorem recordOutcome_registryRevision (scheduler : Scheduler)
    (target : SchedulerTarget) (metrics : BusSchedulerMetrics)
    (endpoint : Endpoint) (completed : ℚ) (failed : Bool) :
    (scheduler.recordOutcome target metrics endpoint completed
      failed).1.registryRevision = scheduler.registryRevision := by
  unfold recordOutcome
  split_ifs
  · unfold recordFailure
    dsimp only
    split_ifs
    · split
      next => rfl
      next cooldown _ =>
        split
        next deferredState error hdefer =>
          have hkept := congrArg (fun result => result.1.registryRevision) hdefer
          simp only [deferSiblings_registryRevision] at hkept
          exact hkept.symm
        next deferredState deferred hdefer =>
          have hkept := congrArg (fun result => result.1.registryRevision) hdefer
          simp only [deferSiblings_registryRevision] at hkept
          exact hkept.symm
    · rfl
  · rfl

theorem complete_registryRevision (scheduler : Scheduler)
    (target : SchedulerTarget) (deadline completed duration : ℚ) (failed callbackError : Bool) :
    (scheduler.complete target deadline completed duration failed
      callbackError).1.registryRevision = scheduler.registryRevision := by
  unfold complete
  split
  next => rfl
  next =>
    split
    next => rfl
    next metrics _ =>
      dsimp only
      split
      next => rfl
      next endpoint _ =>
        split
        next recorded error hrec =>
          have hkept := congrArg (fun result => result.1.registryRevision) hrec
          simp only [recordOutcome_registryRevision] at hkept
          exact hkept.symm
        next recorded counters endpointAfter hrec =>
          have hkept := congrArg (fun result => result.1.registryRevision) hrec
          simp only [recordOutcome_registryRevision] at hkept
          exact hkept.symm

theorem beginRun_registryRevision {scheduler selected : Scheduler}
    {busId : String} {now : ℚ} {choice : Option Job}
    (hselect : scheduler.beginRun busId now = .ok (selected, choice)) :
    selected.registryRevision = scheduler.registryRevision := by
  simp only [beginRun, select, bind_eq_ok] at hselect
  obtain ⟨⟨chosen, job⟩, ⟨dueJobs, _, metrics, _, hchosen⟩, hselect⟩ := hselect
  have hsame : chosen.registryRevision = scheduler.registryRevision := by
    split at hchosen
    next =>
      rw [pure_eq_ok, Prod.mk.injEq] at hchosen
      rw [← hchosen.1]
      rfl
    next =>
      rw [pure_eq_ok, Prod.mk.injEq] at hchosen
      rw [← hchosen.1]
      rfl
  cases job with
  | none =>
    simp only [pure_eq_ok, Prod.mk.injEq] at hselect
    rw [← hselect.1]
    exact hsame
  | some job =>
    simp only [bind_eq_ok, pure_eq_ok, Prod.mk.injEq] at hselect
    obtain ⟨_, _, rfl, _⟩ := hselect
    exact hsame

end Scheduler

namespace SchedulerSystem

theorem step_registryRevision {state next : SchedulerSystem} {action : SchedulerAction}
    (hwork : ∀ registry now wallNow lastAttempts,
      action ≠ .reconcile registry now wallNow lastAttempts)
    (hstep : state.step action = some next) :
    next.scheduler.registryRevision = state.scheduler.registryRevision := by
  cases action with
  | reconcile registry now wallNow lastAttempts =>
    exact absurd rfl (hwork registry now wallNow lastAttempts)
  | select busId now =>
    simp only [step] at hstep
    split at hstep
    next => cases hstep
    next =>
      split_ifs at hstep
      cases hstep
      unfold select
      split
      next => rfl
      next hselect => exact Scheduler.beginRun_registryRevision hselect
      next hselect => exact Scheduler.beginRun_registryRevision hselect
  | finishRead busId started completed outcome =>
    simp only [step] at hstep
    split at hstep
    next =>
      split_ifs at hstep
      cases hstep
      rfl
    next => cases hstep
  | persistFailed busId =>
    simp only [step] at hstep
    split at hstep
    next =>
      cases hstep
      rfl
    next => cases hstep
  | complete busId =>
    simp only [step] at hstep
    split at hstep
    next job selectedAt started completed outcome _ =>
      cases hstep
      have hkept := state.scheduler.complete_registryRevision job.target
        job.nextDeadline completed (max 0 (completed - started)) outcome.failed
        outcome.isCallbackError
      unfold complete
      dsimp only
      split
      next hcomp =>
        rw [hcomp] at hkept
        exact hkept
      next hcomp =>
        rw [hcomp] at hkept
        exact hkept
    next => cases hstep
  | publish busId raised =>
    simp only [step] at hstep
    split at hstep
    next =>
      cases hstep
      unfold publish
      dsimp only
      split_ifs
      · split
        next => rfl
        next => rfl
      · rfl
    next => cases hstep

theorem reconcile_registryRevision {state next : SchedulerSystem}
    {registry : InventoryRegistry} {now wallNow : ℚ} {lastAttempts : String → Option LastAttempt}
    (hstep : state.step (.reconcile registry.toAcquisitionRegistry now wallNow
      lastAttempts) = some next) :
    next.scheduler.registryRevision = registry.document.revision := by
  obtain ⟨installed, hinstall, hrev⟩ :=
    install_total state.scheduler registry now wallNow lastAttempts
  simp only [step] at hstep
  split_ifs at hstep
  cases hstep
  unfold reconcile
  rw [hinstall]
  exact hrev

end SchedulerSystem

namespace RegistryStore

theorem serve_registry {store after : RegistryStore}
    {configuration : RegistryConfiguration} {request : RegistryRequest}
    {failsAt : Option ℕ} {registry : InventoryRegistry}
    (hcomm : store.databaseRevision = request.registry.document.revision)
    (hserve : store.serve configuration request failsAt = (.ok registry, after)) :
    after.databaseRevision = registry.document.revision ∧
      request.registry.document.revision ≤ registry.document.revision := by
  unfold serve at hserve
  split at hserve
  next =>
    simp only [Prod.mk.injEq, reduceCtorEq, false_and] at hserve
  next =>
    cases hserve
    exact ⟨hcomm, Nat.le_refl _⟩
  next candidate hprep =>
    have hcand := prepare_prepared hprep
    simp only [commitDocument] at hserve
    cases hrun : runStatements failsAt (commitStatements candidate.document
        candidate.changes request.expectedRevision candidate.origin) store with
    | error fault => simp [hrun, transact] at hserve
    | ok committed =>
      obtain ⟨row, hrow, _, rfl⟩ := commitStatements_eq_ok.mp (runStatements_without_failure hrun)
      simp only [hrun, transact, committedRegistry,
        InventoryRegistry.of_valid hcand.checked, Prod.mk.injEq,
        Except.ok.injEq] at hserve
      obtain ⟨rfl, rfl⟩ := hserve
      refine ⟨rfl, ?_⟩
      rw [hcand.revision]
      exact Nat.le_succ _

theorem serve_error {store after : RegistryStore}
    {configuration : RegistryConfiguration} {request : RegistryRequest}
    {failsAt : Option ℕ} {fault : StoreFault}
    (hserve : store.serve configuration request failsAt =
      (.error fault, after)) : after = store := by
  rcases serve_outcome store configuration request failsAt with
    hsame | ⟨_, _, _, registry, hok⟩
  · rw [hserve] at hsame
    exact hsame
  · rw [hserve] at hok
    cases hok

end RegistryStore

/-! ## Runs of the server -/

namespace RegistryServer

variable {configuration : RegistryConfiguration} {server next : RegistryServer}

def CoveredWithout (server : RegistryServer) (call : ℕ) : Prop :=
  server.installedRevision = server.registry.document.revision ∨
    ∃ other, other ≠ call ∧ (server.phases other = .served ∨
      ∃ snapshot, server.phases other = .holding snapshot ∧
        snapshot.document.revision = server.registry.document.revision)

/-- A snapshot is installed when no other request holds an older one, and a
request which fails after its commit is not the last one to install the current
registry. -/
def Orderly (server : RegistryServer) : ServerAction → Prop
  | .fail call => server.CoveredWithout call
  | .install call _ _ _ => ∀ own, server.phases call = .holding own →
      ∀ other snapshot, other ≠ call → server.phases other = .holding snapshot →
        own.document.revision ≤ snapshot.document.revision
  | _ => True

structure Following (server : RegistryServer) : Prop where
  committed : server.committedRevision = server.registry.document.revision
  behind : server.installedRevision ≤ server.registry.document.revision
  held : ∀ call snapshot, server.phases call = .holding snapshot →
    server.installedRevision ≤ snapshot.document.revision ∧
      snapshot.document.revision ≤ server.registry.document.revision
  covered : server.installedRevision = server.registry.document.revision ∨
    ∃ call, server.phases call = .served ∨ ∃ snapshot, server.phases call = .holding snapshot ∧
        snapshot.document.revision = server.registry.document.revision

theorem setPhase_phases_self (call : ℕ) (phase : CallPhase) :
    (server.setPhase call phase).phases call = phase :=
  Function.update_self _ _ _

theorem setPhase_phases_of_ne {call other : ℕ} (phase : CallPhase) (hne : other ≠ call) :
    (server.setPhase call phase).phases other = server.phases other :=
  Function.update_of_ne hne _ _

variable {call : ℕ} {inputs : StartupInputs}
  {lastAttempts : String → Option LastAttempt} {now wallNow : ℚ}
  {policy : SchedulerPolicy} {store : RegistryStore}

theorem Following.finish (hfoll : server.Following) (hcovered : server.CoveredWithout call) :
    (server.setPhase call .finished).Following := by
  refine { hfoll with held := ?held, covered := ?covered }
  case held =>
    intro other snapshot hother
    by_cases hsame : other = call
    · rw [hsame, setPhase_phases_self] at hother
      cases hother
    · rw [setPhase_phases_of_ne _ hsame] at hother
      exact hfoll.held other snapshot hother
  case covered =>
    rcases hcovered with hinstd | ⟨other, hne, hphase⟩
    · exact .inl hinstd
    · refine .inr ⟨other, ?_⟩
      rw [setPhase_phases_of_ne _ hne]
      exact hphase

theorem Following.coveredWithout_waiting (hfoll : server.Following)
    (hwaiting : server.phases call = .waiting) :
    server.CoveredWithout call := by
  rcases hfoll.covered with hinstd | ⟨other, hphase⟩
  · exact .inl hinstd
  · refine .inr ⟨other, ?_, hphase⟩
    rintro rfl
    rw [hwaiting] at hphase
    rcases hphase with hserved | ⟨_, hholding, _⟩
    · cases hserved
    · cases hholding

theorem reconciles_eq_false {body : RegistryCall} {changed : Bool}
    (hnone : body.reconciles configuration changed = false) :
    changed = false := by
  unfold RegistryCall.reconciles at hnone
  split at hnone
  next => exact hnone
  next => cases hnone

theorem Following.serve (hfoll : server.Following)
    (hwaiting : server.phases call = .waiting) (body : RegistryCall)
    (now : String) (failsAt : Option ℕ) :
    (server.serve configuration call body now failsAt).Following := by
  have hreq : (body.request configuration server.registry now).registry = server.registry := by
    cases body with
    | updateRegistry => rfl
    | updateCadence => rfl
    | discoverXjp60d => rfl
  unfold RegistryServer.serve
  split
  next fault store hserve =>
    rw [RegistryStore.serve_error hserve]
    exact hfoll.finish (hfoll.coveredWithout_waiting hwaiting)
  next registry store hserve =>
    obtain ⟨hcomm, hle⟩ := RegistryStore.serve_registry (by rw [hreq]; exact hfoll.committed) hserve
    rw [hreq] at hle
    -- The request is not needed when it reconciles nothing: then the revision
    -- is the one before.
    have hcovered : ∀ phase : CallPhase, (phase = .served ∨ phase = .finished ∧
          registry.document.revision = server.registry.document.revision) →
        ({ server with store, registry }.setPhase call phase).Following := by
      intro phase hphase
      constructor
      case committed => exact hcomm
      case behind => exact hfoll.behind.trans hle
      case held =>
        intro other snapshot hother
        by_cases hsame : other = call
        · rw [hsame, setPhase_phases_self] at hother
          rcases hphase with rfl | ⟨rfl, _⟩
          · cases hother
          · cases hother
        · rw [setPhase_phases_of_ne _ hsame] at hother
          obtain ⟨hinstd, hcur⟩ := hfoll.held other snapshot hother
          exact ⟨hinstd, hcur.trans hle⟩
      case covered =>
        rcases hphase with rfl | ⟨rfl, hrev⟩
        · exact .inr ⟨call, .inl (setPhase_phases_self _ _)⟩
        · rcases hfoll.coveredWithout_waiting hwaiting with
            hinstd | ⟨other, hne, hother⟩
          · exact .inl (hinstd.trans hrev.symm)
          · refine .inr ⟨other, ?_⟩
            rw [setPhase_phases_of_ne _ hne]
            refine hother.imp_right ?_
            rintro ⟨snapshot, hholding, hsnap⟩
            exact ⟨snapshot, hholding, hsnap.trans hrev.symm⟩
    dsimp only
    split_ifs with hreconciles
    · exact hcovered .served (.inl rfl)
    · refine hcovered .finished (.inr ⟨rfl, ?_⟩)
      have hsame := reconciles_eq_false (by simpa using hreconciles)
      simpa using hsame

theorem Following.snapshot (hfoll : server.Following) (call : ℕ) :
    (server.setPhase call (.holding server.registry)).Following := by
  refine { hfoll with held := ?held, covered := ?covered }
  case held =>
    intro other snapshot hother
    by_cases hsame : other = call
    · rw [hsame, setPhase_phases_self, CallPhase.holding.injEq] at hother
      rw [← hother]
      exact ⟨hfoll.behind, Nat.le_refl _⟩
    · rw [setPhase_phases_of_ne _ hsame] at hother
      exact hfoll.held other snapshot hother
  case covered =>
    rcases hfoll.covered with hinstd | ⟨other, hphase⟩
    · exact .inl hinstd
    · by_cases hsame : other = call
      · exact .inr ⟨call, .inr ⟨server.registry, setPhase_phases_self _ _, rfl⟩⟩
      · refine .inr ⟨other, ?_⟩
        rw [setPhase_phases_of_ne _ hsame]
        exact hphase

theorem Following.install (hfoll : server.Following)
    {own : InventoryRegistry} (hholding : server.phases call = .holding own)
    (holdest : ∀ other snapshot, other ≠ call → server.phases other = .holding snapshot →
        own.document.revision ≤ snapshot.document.revision)
    {scheduling : SchedulerSystem}
    (hinstd : scheduling.scheduler.registryRevision = own.document.revision) :
    ({ server with scheduling }.setPhase call .finished).Following := by
  obtain ⟨hown, hownCurrent⟩ := hfoll.held call own hholding
  constructor
  case committed => exact hfoll.committed
  case behind => exact hinstd.trans_le hownCurrent
  case held =>
    intro other snapshot hother
    by_cases hsame : other = call
    · rw [hsame, setPhase_phases_self] at hother
      cases hother
    · rw [setPhase_phases_of_ne _ hsame] at hother
      exact ⟨hinstd.trans_le (holdest other snapshot hsame hother),
        (hfoll.held other snapshot hother).2⟩
  case covered =>
    by_cases hcur : own.document.revision = server.registry.document.revision
    · exact .inl (hinstd.trans hcur)
    · rcases hfoll.covered with hbefore | ⟨other, hphase⟩
      · exact absurd (Nat.le_antisymm hownCurrent (hbefore ▸ hown)) hcur
      · refine .inr ⟨other, ?_⟩
        have hne : other ≠ call := by
          rintro rfl
          rw [hholding] at hphase
          rcases hphase with hserved | ⟨snapshot, hsnap, hrev⟩
          · cases hserved
          · rw [CallPhase.holding.injEq] at hsnap
            rw [hsnap] at hcur
            exact hcur hrev
        rw [setPhase_phases_of_ne _ hne]
        exact hphase

theorem step_work {action : SchedulerAction}
    (hstep : step configuration server (.work action) = some next) :
    ∃ scheduling, next = { server with scheduling } ∧
      scheduling.scheduler.registryRevision = server.installedRevision := by
  have hwork : ∀ registry now wallNow lastAttempts,
      action ≠ .reconcile registry now wallNow lastAttempts := by
    rintro _ _ _ _ rfl
    cases hstep
  have hscheduler : ∃ scheduling, server.scheduling.step action =
      some scheduling ∧ { server with scheduling } = next := by
    cases action with
    | reconcile registry now wallNow lastAttempts => cases hstep
    | select => exact Option.map_eq_some_iff.mp hstep
    | finishRead => exact Option.map_eq_some_iff.mp hstep
    | persistFailed => exact Option.map_eq_some_iff.mp hstep
    | complete => exact Option.map_eq_some_iff.mp hstep
    | publish => exact Option.map_eq_some_iff.mp hstep
  obtain ⟨scheduling, hscheduling, rfl⟩ := hscheduler
  exact ⟨scheduling, rfl, SchedulerSystem.step_registryRevision hwork hscheduling⟩

theorem Following.step (hfoll : server.Following) {action : ServerAction}
    (horderly : server.Orderly action) (hstep : step configuration server action = some next) :
    next.Following ∧ server.installedRevision ≤ next.installedRevision := by
  cases action with
  | serve call body now refused failsAt =>
    simp only [RegistryServer.step] at hstep
    split at hstep
    next hwaiting =>
      split_ifs at hstep
      · cases hstep
        exact ⟨hfoll.finish (hfoll.coveredWithout_waiting hwaiting), Nat.le_refl _⟩
      · cases hstep
        refine ⟨hfoll.serve hwaiting body now failsAt, ?_⟩
        unfold RegistryServer.serve
        split
        next => exact Nat.le_refl _
        next => exact Nat.le_refl _
    next => cases hstep
  | fail call =>
    have hfinished := hfoll.finish horderly
    simp only [RegistryServer.step] at hstep
    split at hstep
    next =>
      cases hstep
      exact ⟨hfinished, Nat.le_refl _⟩
    next =>
      cases hstep
      exact ⟨hfinished, Nat.le_refl _⟩
    next => cases hstep
  | snapshot call =>
    simp only [RegistryServer.step] at hstep
    split at hstep
    next =>
      cases hstep
      exact ⟨hfoll.snapshot call, Nat.le_refl _⟩
    next => cases hstep
  | install call now wallNow lastAttempts =>
    simp only [RegistryServer.step] at hstep
    split at hstep
    next own hholding =>
      rw [Option.map_eq_some_iff] at hstep
      obtain ⟨scheduling, hscheduling, rfl⟩ := hstep
      have hinstd := SchedulerSystem.reconcile_registryRevision hscheduling
      refine ⟨hfoll.install hholding (horderly own hholding) hinstd, ?_⟩
      exact (hfoll.held call own hholding).1.trans_eq hinstd.symm
    next => cases hstep
  | work action =>
    have hkept : ∃ scheduling, next = { server with scheduling } ∧
        scheduling.scheduler.registryRevision = server.installedRevision :=
      step_work hstep
    obtain ⟨scheduling, rfl, hrev⟩ := hkept
    refine ⟨?_, hrev.ge⟩
    constructor
    case committed => exact hfoll.committed
    case behind => exact hrev.trans_le hfoll.behind
    case held =>
      intro call snapshot hholding
      obtain ⟨hinstd, hcur⟩ := hfoll.held call snapshot hholding
      exact ⟨hrev.trans_le hinstd, hcur⟩
    case covered => exact hfoll.covered.imp_left hrev.trans

theorem following_of_boot (hconsistent : store.Consistent)
    (hboot : boot store configuration inputs policy now wallNow lastAttempts =
      some server) : server.Following := by
  unfold boot at hboot
  split at hboot
  next => cases hboot
  next registry committed hload =>
    rw [Option.map_eq_some_iff] at hboot
    obtain ⟨scheduling, hstart, rfl⟩ := hboot
    have hinstd : scheduling.scheduler.registryRevision = registry.document.revision := by
      obtain ⟨installed, hinstall, hrev⟩ := install_total
        (Scheduler.empty policy) registry now wallNow lastAttempts
      unfold SchedulerSystem.start at hstart
      rw [hinstall] at hstart
      split_ifs at hstart
      cases hstart
      exact hrev
    constructor
    case committed => exact RegistryStore.loadOrMigrate_revision hconsistent hload
    case behind => exact hinstd.le
    case held =>
      intro call snapshot hholding
      cases hholding
    case covered => exact .inl hinstd

/-- In a run whose steps are orderly the installed revision never decreases, and
when all requests have finished it is the committed one. -/
theorem orderlyRun_installs
    (hconsistent : store.Consistent) {start : RegistryServer}
    (hboot : boot store configuration inputs policy now wallNow lastAttempts =
      some start)
    (hreach : Reaches (step configuration) Orderly start server) :
    (∀ later, Reaches (step configuration) Orderly server later →
      server.installedRevision ≤ later.installedRevision) ∧
      (server.Idle → server.installedRevision = server.committedRevision) := by
  have hfoll : server.Following :=
    hreach.invariant (fun _ _ _ hbefore horderly hstep =>
      (hbefore.step horderly hstep).1) (following_of_boot hconsistent hboot)
  constructor
  · intro later hlater
    have hboth : later.Following ∧
        server.installedRevision ≤ later.installedRevision := by
      refine hlater.invariant (P := fun current => current.Following ∧
        server.installedRevision ≤ current.installedRevision) ?_
        ⟨hfoll, Nat.le_refl _⟩
      intro middle action after hmiddle horderly hstep
      obtain ⟨hafter, hle⟩ := hmiddle.1.step horderly hstep
      exact ⟨hafter, hmiddle.2.trans hle⟩
    exact hboth.2
  · intro hidle
    rw [hfoll.committed]
    rcases hfoll.covered with hinstd | ⟨call, hphase⟩
    · exact hinstd
    · rcases hidle call with hwaiting | hfinished
      · rw [hwaiting] at hphase
        rcases hphase with hserved | ⟨_, hholding, _⟩
        · cases hserved
        · cases hholding
      · rw [hfinished] at hphase
        rcases hphase with hserved | ⟨_, hholding, _⟩
        · cases hserved
        · cases hholding

def probeConfiguration : RegistryConfiguration where
  settings := ⟨"xjp60d", 10, [], [], none, [], none, []⟩
  topology := none

def probeInputs : StartupInputs where
  environment := ⟨fun _ => .blank, fun _ => .blank⟩
  clock := fun _ => "t"
  discoveryUnits := [1]
  legacyActivePoints := []

def probePolicy : SchedulerPolicy where
  highIntervalSeconds := 5
  mediumIntervalSeconds := 10
  lowIntervalSeconds := 30

/-- The agent with one discovered unit and an empty database before. -/
def probeBoot : Option RegistryServer :=
  boot ⟨none, []⟩ probeConfiguration probeInputs probePolicy 0 0 fun _ => none

def slower (expectedRevision : ℤ) (interval : ℚ) : RegistryCall :=
  .updateCadence expectedRevision "op" "r"
    ⟨[⟨"rs485-main", "xjp60d", interval⟩], []⟩

/-- The first request takes its snapshot, the second one commits and installs. -/
def overtaking : List ServerAction :=
  [.serve 0 (slower 1 30) "u" false none, .snapshot 0,
    .serve 1 (slower 2 60) "v" false none, .snapshot 1,
    .install 1 1 1 fun _ => none]

def isFinished : CallPhase → Bool
  | .finished => true
  | _ => false

theorem overtaking_revisions :
    (probeBoot.bind fun start =>
      (runFrom (step probeConfiguration) start overtaking).bind fun middle =>
        (runFrom (step probeConfiguration) middle [.install 0 2 2 fun _ => none]).map fun last =>
            (middle.installedRevision, last.installedRevision,
              last.committedRevision, isFinished (last.phases 0),
              isFinished (last.phases 1))) =
      some (3, 2, 3, true, true) := by
  decide +kernel

def actionCall : ServerAction → Option ℕ
  | .serve call _ _ _ _ => some call
  | .fail call => some call
  | .snapshot call => some call
  | .install call _ _ _ => some call
  | .work _ => none

theorem step_phases {action : ServerAction} {other : ℕ} (hother : actionCall action ≠ some other)
    (hstep : step configuration server action = some next) :
    next.phases other = server.phases other := by
  cases action with
  | serve call body now refused failsAt =>
    have hne : other ≠ call := fun hsame => hother (congrArg some hsame.symm)
    simp only [step] at hstep
    split at hstep
    next =>
      split_ifs at hstep
      · rw [Option.some.injEq] at hstep
        rw [← hstep, setPhase_phases_of_ne _ hne]
      · cases hstep
        unfold RegistryServer.serve
        split
        next => rw [setPhase_phases_of_ne _ hne]
        next => rw [setPhase_phases_of_ne _ hne]
    next => cases hstep
  | fail call =>
    have hne : other ≠ call := fun hsame => hother (congrArg some hsame.symm)
    simp only [step] at hstep
    split at hstep
    next =>
      cases hstep
      exact setPhase_phases_of_ne _ hne
    next =>
      cases hstep
      exact setPhase_phases_of_ne _ hne
    next => cases hstep
  | snapshot call =>
    have hne : other ≠ call := fun hsame => hother (congrArg some hsame.symm)
    simp only [step] at hstep
    split at hstep
    next =>
      cases hstep
      exact setPhase_phases_of_ne _ hne
    next => cases hstep
  | install call now wallNow lastAttempts =>
    have hne : other ≠ call := fun hsame => hother (congrArg some hsame.symm)
    simp only [step] at hstep
    split at hstep
    next =>
      rw [Option.map_eq_some_iff] at hstep
      obtain ⟨scheduling, _, rfl⟩ := hstep
      rw [setPhase_phases_of_ne _ hne]
    next => cases hstep
  | work action =>
    obtain ⟨scheduling, rfl, _⟩ := step_work hstep
    rfl

theorem runFrom_phases {actions : List ServerAction} {other : ℕ}
    (hother : ∀ action ∈ actions, actionCall action ≠ some other)
    (hrun : runFrom (step configuration) server actions = some next) :
    next.phases other = server.phases other := by
  induction actions generalizing server with
  | nil =>
    rw [runFrom_nil, Option.some.injEq] at hrun
    rw [hrun]
  | cons action rest ih =>
    obtain ⟨middle, hstep, hrest⟩ := runFrom_cons_eq_some hrun
    rw [ih (fun later hlater => hother later (List.mem_cons_of_mem _ hlater)) hrest]
    exact step_phases (hother action List.mem_cons_self) hstep

theorem boot_phases
    (hboot : boot store configuration inputs policy now wallNow lastAttempts =
      some server) (call : ℕ) : server.phases call = .waiting := by
  unfold boot at hboot
  split at hboot
  next => cases hboot
  next =>
    rw [Option.map_eq_some_iff] at hboot
    obtain ⟨_, _, rfl⟩ := hboot
    rfl

theorem isFinished_eq_true {phase : CallPhase} (hphase : isFinished phase = true) :
    phase = .finished := by
  cases phase with
  | finished => rfl
  | waiting => cases hphase
  | served => cases hphase
  | holding snapshot => cases hphase

theorem overtaken_install_stale :
    ∃ start middle last, probeBoot = some start ∧
      runFrom (step probeConfiguration) start overtaking = some middle ∧
      step probeConfiguration middle (.install 0 2 2 fun _ => none) = some last ∧
      last.installedRevision < middle.installedRevision ∧
      last.Idle ∧ last.installedRevision ≠ last.committedRevision := by
  have hrevisions := overtaking_revisions
  simp only [Option.bind_eq_some_iff, Option.map_eq_some_iff, Prod.mk.injEq]
    at hrevisions
  obtain ⟨start, hstart, middle, hmiddle, last, hlast, hinstd, hstale,
    hcomm, hfirst, hsecond⟩ := hrevisions
  refine ⟨start, middle, last, hstart, hmiddle, ?_, ?_, ?_, ?_⟩
  · obtain ⟨next, hstep, hrest⟩ := runFrom_cons_eq_some hlast
    rw [runFrom_nil] at hrest
    rw [hstep, hrest]
  · rw [hstale, hinstd]
    decide
  · intro call
    by_cases hcall : call = 0 ∨ call = 1
    · rcases hcall with rfl | rfl
      · exact .inr (isFinished_eq_true hfirst)
      · exact .inr (isFinished_eq_true hsecond)
    · left
      rw [not_or] at hcall
      rw [runFrom_phases _ hlast, runFrom_phases _ hmiddle, boot_phases hstart]
      · simp [overtaking, actionCall, eq_comm, hcall]
      · simp [actionCall, eq_comm, hcall]
  · rw [hstale, hcomm]
    decide

theorem orderly_alone {start : RegistryServer}
    (hwaiting : ∀ call, start.phases call = .waiting) (call : ℕ) {actions : List ServerAction}
    (halone : ∀ action ∈ actions, actionCall action = some call ∧ action ≠ .fail call) :
    StepsMeet (step configuration) Orderly start actions := by
  refine StepsMeet.of_prefixes ?_
  rintro done action rest rfl middle hrun
  obtain ⟨hcall, hfail⟩ := halone action (by simp)
  cases action with
  | serve => trivial
  | snapshot => trivial
  | work => trivial
  | fail other =>
    rw [actionCall, Option.some.injEq] at hcall
    exact absurd (by rw [hcall]) hfail
  | install own now wallNow lastAttempts =>
    rw [actionCall] at hcall
    cases hcall
    intro held hheld other snapshot hne hother
    have hkept : middle.phases other = start.phases other := by
      refine runFrom_phases (fun earlier hearlier hsame => hne ?_) hrun
      have hown := (halone earlier (List.mem_append_left _ hearlier)).1
      exact Option.some.inj (hsame.symm.trans hown)
    rw [hkept, hwaiting] at hother
    cases hother

theorem orderlyRun_installs_slower :
    ∃ start last, probeBoot = some start ∧
      Reaches (step probeConfiguration) Orderly start last ∧
      (∀ later, Reaches (step probeConfiguration) Orderly last later →
        last.installedRevision ≤ later.installedRevision) ∧
      (last.Idle → last.installedRevision = last.committedRevision) := by
  have hrun : (probeBoot.bind fun start => (runFrom (step probeConfiguration)
      start [.serve 0 (slower 1 30) "u" false none, .snapshot 0,
        .install 0 1 1 fun _ => none]).map installedRevision) = some 2 := by
    decide +kernel
  simp only [Option.bind_eq_some_iff, Option.map_eq_some_iff] at hrun
  obtain ⟨start, hstart, last, hlast, _⟩ := hrun
  have hreach : Reaches (step probeConfiguration) Orderly start last := by
    refine Reaches.of_stepsMeet (orderly_alone (boot_phases hstart) 0 ?_) hlast
    intro action haction
    simp only [List.mem_cons, List.not_mem_nil, or_false] at haction
    rcases haction with rfl | rfl | rfl
    · exact ⟨rfl, by simp⟩
    · exact ⟨rfl, by simp⟩
    · exact ⟨rfl, by simp⟩
  exact ⟨start, last, hstart, hreach,
    orderlyRun_installs RegistryStore.empty_consistent hstart hreach⟩

end RegistryServer

end Nexolab
