import Nexolab.RegistryStore
import Nexolab.SchedulerRuns

/-!
# Registry requests of the device agent

Every request of the HTTP server runs in a thread of its own.  It computes and
commits its document under the registry lock, takes a snapshot of the current
registry in a second locked section and hands it to the scheduler in a third
step.  Nothing spans the three: the steps of different requests interleave, with
each other and with the workers of the scheduler.

The checks of a request which only refuse it, on eligibility, on the capacity of
the buses and on the units of a discovery, are a choice of the step.
-/

namespace Nexolab

inductive RegistryCall where
  | updateRegistry (expectedRevision : ℤ) (actor reason : String)
      (devices : List DeviceLifecycleMutation) (targets : List LifecycleMutation)
  | updateCadence (expectedRevision : ℤ) (actor reason : String) (mutation : CadenceMutation)
  | discoverXjp60d (unitIds : List ℕ) (busForUnit : Option (ℕ → Except RegistryFault String))

namespace RegistryCall

def discoveryReason (topology : Option BusTopology) : String :=
  match topology with
  | none => "Enroll responsive XJP60D units from explicit read-only discovery"
  | some _ =>
    "Enroll responsive XJP60D units on explicit read-only RS-485 buses"

def request (call : RegistryCall) (configuration : RegistryConfiguration)
    (current : InventoryRegistry) (now : String) :
    RegistryStore.RegistryRequest :=
  match call with
  | .updateRegistry expectedRevision actor reason devices targets =>
    ⟨.update devices targets, current, expectedRevision, actor, reason, now⟩
  | .updateCadence expectedRevision actor reason mutation =>
    ⟨.updateCadence mutation, current, expectedRevision, actor, reason, now⟩
  | .discoverXjp60d unitIds busForUnit =>
    ⟨.enrollXjp60d unitIds xjp60dProfileVersion busForUnit, current,
      current.document.revision, "service:xjp60d-discovery",
      discoveryReason configuration.topology, now⟩

/-- With an explicit topology a discovery which changes nothing does not
reconcile the scheduler. -/
def reconciles (call : RegistryCall) (configuration : RegistryConfiguration)
    (changed : Bool) : Bool :=
  match configuration.topology, call with
  | some _, .discoverXjp60d _ _ => changed
  | _, _ => true

end RegistryCall

inductive CallPhase where
  | waiting
  | served
  | holding (snapshot : InventoryRegistry)
  | finished

structure RegistryServer where
  store : RegistryStore
  registry : InventoryRegistry
  scheduling : SchedulerSystem
  phases : ℕ → CallPhase

inductive ServerAction where
  | serve (call : ℕ) (body : RegistryCall) (now : String) (refused : Bool) (failsAt : Option ℕ)
  | fail (call : ℕ)
  | snapshot (call : ℕ)
  | install (call : ℕ) (now wallNow : ℚ) (lastAttempts : String → Option LastAttempt)
  | work (action : SchedulerAction)

namespace RegistryServer

def boot (store : RegistryStore) (configuration : RegistryConfiguration)
    (inputs : StartupInputs) (policy : SchedulerPolicy) (now wallNow : ℚ)
    (lastAttempts : String → Option LastAttempt) : Option RegistryServer :=
  match store.loadOrMigrate configuration inputs with
  | .error _ => none
  | .ok (registry, committed) =>
    (SchedulerSystem.start policy registry.toAcquisitionRegistry now wallNow
      lastAttempts).map fun scheduling =>
        ⟨committed, registry, scheduling, fun _ => .waiting⟩

variable (server : RegistryServer)

def installedRevision : ℕ := server.scheduling.scheduler.registryRevision

def committedRevision : ℕ := server.store.databaseRevision

def setPhase (call : ℕ) (phase : CallPhase) : RegistryServer :=
  { server with phases := Function.update server.phases call phase }

def serve (configuration : RegistryConfiguration) (call : ℕ)
    (body : RegistryCall) (now : String) (failsAt : Option ℕ) : RegistryServer :=
  match server.store.serve configuration
      (body.request configuration server.registry now) failsAt with
  | (.error _, store) => { server with store }.setPhase call .finished
  | (.ok registry, store) =>
    let changed : Bool :=
      registry.document.revision ≠ server.registry.document.revision
    { server with store, registry }.setPhase call
      (if body.reconciles configuration changed then .served else .finished)

/-- A request may fail once it is served: the legacy points cannot be written,
the health cannot be published, the last attempts cannot be read. -/
def step (configuration : RegistryConfiguration) :
    RegistryServer → ServerAction → Option RegistryServer
  | server, .serve call body now refused failsAt =>
    match server.phases call with
    | .waiting =>
      if refused then some (server.setPhase call .finished)
      else some (server.serve configuration call body now failsAt)
    | _ => none
  | server, .fail call =>
    match server.phases call with
    | .served => some (server.setPhase call .finished)
    | .holding _ => some (server.setPhase call .finished)
    | _ => none
  | server, .snapshot call =>
    match server.phases call with
    | .served => some (server.setPhase call (.holding server.registry))
    | _ => none
  | server, .install call now wallNow lastAttempts =>
    match server.phases call with
    | .holding snapshot =>
      (server.scheduling.step (.reconcile snapshot.toAcquisitionRegistry now
        wallNow lastAttempts)).map fun scheduling =>
          { server with scheduling }.setPhase call .finished
    | _ => none
  | _, .work (.reconcile _ _ _ _) => none
  | server, .work action =>
    (server.scheduling.step action).map fun scheduling =>
      { server with scheduling }

def Idle : Prop :=
  ∀ call, server.phases call = .waiting ∨ server.phases call = .finished

end RegistryServer

end Nexolab
