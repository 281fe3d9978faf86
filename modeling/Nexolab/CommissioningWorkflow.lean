import Nexolab.CommissioningOperations
import Nexolab.TransitionSystem

/-!
# The commissioning workflow

Requests run at the same time, each in a worker of its own.  A worker executes
one transaction, asks the device agent, and executes the next one when the answer
is there; it may die in between.  The rows of a transaction are locked, so
transactions are one after the other, in any order.
-/

namespace Nexolab

/-! ## Workers -/

inductive ActivationProgress where
  /-- The device agent was asked to activate. -/
  | executing
  /-- The device agent is active, healthy and sends telemetry. -/
  | verified (telemetryIdentity : String)
  | bound
  /-- The device agent was asked to roll back. -/
  | rollingBack

/-- What a request in progress has got from its first transaction. -/
inductive ServiceRun where
  | preflight (attempt : PreflightAttempt)
  | activation (attempt : ActivationAttempt) (progress : ActivationProgress)

/-- The outcome of asking the device agent to activate.  An answer which does not
repeat the identity of the command is a failure. -/
inductive AgentAnswer where
  | failed
  | recoveryRequired
  | rolledBack
  /-- `evidence` says whether the agent was healthy and new telemetry was stored
  before the deadline. -/
  | active (telemetryIdentity : String) (evidence : Bool)

structure CommissioningSystem where
  database : CommissioningDatabase
  now : Instant
  runs : List (ℕ × ServiceRun)

inductive WorkflowAction where
  | elapse (duration : ℕ)
  /-- Other parts of the platform write the equipment and its bindings. -/
  | elsewhere (tables : EquipmentTables)
  | create (organizationId idempotencyKey sessionId : String) (payload : CommissioningValues)
  | update (organizationId sessionId : String) (expectedVersion : ℕ) (patch : CommissioningPatch)
  | cancel (organizationId sessionId : String) (expectedVersion : ℕ)
  | preflight (worker : ℕ) (organizationId sessionId : String)
      (expectedVersion : ℕ) (idempotencyKey attemptId : String)
  | answerPreflight (worker : ℕ) (answer : PreflightAnswer)
  | activate (worker : ℕ) (organizationId sessionId : String)
      (expectedVersion : ℕ) (idempotencyKey attemptId : String)
  | answerActivation (worker : ℕ) (answer : AgentAnswer)
  | persistBinding (worker : ℕ)
  | answerRollback (worker : ℕ) (rolledBack : Bool)
  | finishActivation (worker : ℕ)
  | crash (worker : ℕ)

namespace CommissioningSystem

def initial (tables : EquipmentTables) (now : Instant) : CommissioningSystem :=
  ⟨.empty tables, now, []⟩

variable (system : CommissioningSystem)

def runOf (worker : ℕ) : Option ServiceRun :=
  (system.runs.find? fun entry => entry.1 = worker).map Prod.snd

def othersOf (worker : ℕ) : List (ℕ × ServiceRun) :=
  system.runs.filter fun entry => entry.1 ≠ worker

def withRun (worker : ℕ) (run : ServiceRun) : CommissioningSystem :=
  { system with runs := (worker, run) :: system.othersOf worker }

/-- The transaction is committed and the worker has answered its request. -/
def finish (worker : ℕ) (database : Except CommissioningError CommissioningDatabase) :
    Option CommissioningSystem :=
  database.toOption.map fun database =>
    { system with database, runs := system.othersOf worker }

def begin {attempt : Type} (worker : ℕ) (run : attempt → ServiceRun)
    (prepared : Except CommissioningError (CommissioningDatabase × attempt × Bool)) :
    Option CommissioningSystem :=
  if (system.runOf worker).isSome then none
  else prepared.toOption.map fun (database, attempt, replayed) =>
    if replayed then { system with database }
    else { system with database }.withRun worker (run attempt)

def completeRun (worker : ℕ) (attempt : ActivationAttempt) (state : AttemptState) :
    Option CommissioningSystem :=
  system.finish worker <|
    system.database.completeActivation system.now attempt.organizationId attempt.id state

def stepAnswer (worker : ℕ) (attempt : ActivationAttempt) :
    AgentAnswer → Option CommissioningSystem
  | .failed => system.completeRun worker attempt .recoveryRequired
  | .recoveryRequired => system.completeRun worker attempt .recoveryRequired
  | .rolledBack => system.completeRun worker attempt .rolledBack
  | .active telemetryIdentity true =>
    some (system.withRun worker (.activation attempt (.verified telemetryIdentity)))
  | .active _ false =>
    some (system.withRun worker (.activation attempt .rollingBack))

def stepBinding (worker : ℕ) (attempt : ActivationAttempt)
    (telemetryIdentity : String) : CommissioningSystem :=
  match system.database.tables.persistBinding attempt telemetryIdentity with
  | .ok tables =>
    { system with database := { system.database with tables } }.withRun worker
      (.activation attempt .bound)
  | .error _ => system.withRun worker (.activation attempt .rollingBack)

variable (settings : CommissioningSettings)

def step : WorkflowAction → Option CommissioningSystem
  | .elapse duration => some { system with now := system.now + duration }
  | .elsewhere tables =>
    some { system with database := { system.database with tables } }
  | .create organizationId idempotencyKey sessionId payload =>
    (system.database.createSession organizationId idempotencyKey sessionId
      payload).toOption.map fun database => { system with database }
  | .update organizationId sessionId expectedVersion patch =>
    (system.database.updateSession organizationId sessionId expectedVersion
      patch).toOption.map fun database => { system with database }
  | .cancel organizationId sessionId expectedVersion =>
    (system.database.cancelSession organizationId sessionId
      expectedVersion).toOption.map fun database => { system with database }
  | .preflight worker organizationId sessionId expectedVersion idempotencyKey attemptId =>
      system.begin worker .preflight <|
        system.database.preparePreflight settings system.now organizationId sessionId
          expectedVersion idempotencyKey attemptId
  | .answerPreflight worker answer =>
    match system.runOf worker with
    | some (.preflight attempt) =>
      system.finish worker <| system.database.completePreflight system.now
        attempt.organizationId attempt.id attempt.command answer
    | _ => none
  | .activate worker organizationId sessionId expectedVersion idempotencyKey attemptId =>
      system.begin worker (fun attempt => .activation attempt .executing) <|
        system.database.prepareActivation settings system.now organizationId
          sessionId expectedVersion idempotencyKey attemptId
  | .answerActivation worker answer =>
    match system.runOf worker with
    | some (.activation attempt .executing) =>
      system.stepAnswer worker attempt answer
    | _ => none
  | .persistBinding worker =>
    match system.runOf worker with
    | some (.activation attempt (.verified telemetryIdentity)) =>
      some (system.stepBinding worker attempt telemetryIdentity)
    | _ => none
  | .answerRollback worker rolledBack =>
    match system.runOf worker with
    | some (.activation attempt .rollingBack) =>
      system.completeRun worker attempt (if rolledBack then .rolledBack else .recoveryRequired)
    | _ => none
  | .finishActivation worker =>
    match system.runOf worker with
    | some (.activation attempt .bound) =>
      system.completeRun worker attempt .active
    | _ => none
  | .crash worker => some { system with runs := system.othersOf worker }

def Reachable (guard : CommissioningSystem → WorkflowAction → Prop)
    (tables : EquipmentTables) (start : Instant) (system : CommissioningSystem) :
    Prop :=
  Reaches (fun system action => system.step settings action) guard (initial tables start) system

def Quiescent : Prop := system.runs = []

instance : Decidable system.Quiescent :=
  inferInstanceAs (Decidable (system.runs = []))

end CommissioningSystem

def fridgeTables : EquipmentTables where
  equipment := [⟨"EQ-1", "org", none, false, false⟩]
  bindings := []
  observed := []

def meterPayload (unitId : ℕ) (targetEquipmentKey : String) :
    CommissioningValues where
  deviceClass := "energy-meter"
  manufacturer := "F&F"
  model := "LE-01MP"
  profileId := none
  nodeId := some "edge-1"
  busId := some "bus-1"
  stableTransportIdentifier := some "/dev/serial/by-id/usb-1"
  unitId := some unitId
  ipAddress := none
  targetEquipmentKey := some targetEquipmentKey

def usualSettings : CommissioningSettings := ⟨300000000, 5000000⟩

def goodAnswer : PreflightAnswer := ⟨true, .partiallyVerified, []⟩

def verifiedSession (sessionId : String) (unitId : ℕ) : List WorkflowAction :=
  [.create "org" ("create-" ++ sessionId) sessionId (meterPayload unitId "EQ-1"),
   .preflight 0 "org" sessionId 1 "check" (sessionId ++ "-check"),
   .answerPreflight 0 goodAnswer]

def activateSession (worker : ℕ) (sessionId key : String) : List WorkflowAction :=
  [.activate worker "org" sessionId 1 key (sessionId ++ "-" ++ key),
   .answerActivation worker (.active "LE01MP-3" true), .persistBinding worker,
   .finishActivation worker]

def runWorkflow (actions : List WorkflowAction) : Option CommissioningSystem :=
  runFrom (fun system action => system.step usualSettings action) (.initial fridgeTables 0) actions

example : ((runWorkflow (verifiedSession "S" 3 ++ activateSession 0 "S" "go")).map
    fun system => system.database.sessions.map (·.lifecycle)) =
    some [.active] := by
  decide +kernel

end Nexolab
