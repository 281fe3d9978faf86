import Nexolab.OrderedDictionary
import Nexolab.SchedulerPolicy
import Nexolab.TransitionSystem

/-!
# The latest value of every target

`LatestValueStore` keeps one row a target in the database of the device agent.
`record_attempt` reads the row, computes the next one and writes it in one
transaction; the transaction is tried again as long as the database is locked.
-/

namespace Nexolab

/-- The fields of a record which are kept. -/
structure TelemetryRecord where
  (capturedAt metric : String)
  value : Option ℚ
  (unit quality source : String)
  (equipmentId channelId alarm : Option String)
  (rawValue rawStatus : Option ℤ)

structure ScheduledResult where
  record : TelemetryRecord
  communicationFailed : Bool
  error : Option String

/-- The keys of a payload which only a success writes. -/
structure LatestSuccess where
  value : Option ℚ
  (capturedAt lastSuccessAt : String)
  alarm : Option String
  (rawValue rawStatus : Option ℤ)
  deriving DecidableEq

structure LatestPayload where
  (targetId sourceTarget busId deviceFamily : String)
  unitId : ℕ
  metric : String
  (equipmentId channelId : Option String)
  (unit quality lastAttemptAt source : String)
  lastError : Option String
  (attemptsTotal successesTotal communicationFailuresTotal : ℕ)
  consecutiveFailures : ℕ
  lastRecoveredAt : Option String
  success : Option LatestSuccess

structure LatestRow where
  payload : LatestPayload
  lastAttemptAt : String
  lastSuccessAt : Option String
  updatedAt : String

def successOf (record : TelemetryRecord) : LatestSuccess where
  value := record.value
  capturedAt := record.capturedAt
  lastSuccessAt := record.capturedAt
  alarm := record.alarm
  rawValue := record.rawValue
  rawStatus := record.rawStatus

def attemptPayload (target : SchedulerTarget) (result : ScheduledResult)
    (previous : Option LatestPayload) : LatestPayload :=
  let record := result.record
  let successes := previous.elim 0 (·.successesTotal)
  let failures := previous.elim 0 (·.communicationFailuresTotal)
  let consecutive := previous.elim 0 (·.consecutiveFailures)
  { targetId := target.targetId
    sourceTarget := target.targetId
    busId := target.busId
    deviceFamily := target.deviceFamily
    unitId := target.unitId
    metric := record.metric
    equipmentId := record.equipmentId
    channelId := record.channelId
    unit := record.unit
    quality := record.quality
    lastAttemptAt := record.capturedAt
    source := record.source
    lastError := if result.communicationFailed then result.error else none
    attemptsTotal := previous.elim 0 (·.attemptsTotal) + 1
    successesTotal :=
      if result.communicationFailed then successes else successes + 1
    communicationFailuresTotal :=
      if result.communicationFailed then failures + 1 else failures
    consecutiveFailures :=
      if result.communicationFailed then consecutive + 1 else consecutive
    lastRecoveredAt := previous.bind (·.lastRecoveredAt)
    success := previous.bind (·.success) }

def attemptedRow (target : SchedulerTarget) (result : ScheduledResult)
    (row : Option LatestRow) : LatestRow :=
  let capturedAt := result.record.capturedAt
  let payload := attemptPayload target result (row.map (·.payload))
  if result.communicationFailed then
    ⟨payload, capturedAt, row.bind (·.lastSuccessAt), capturedAt⟩
  else
    let recoveredAt :=
      if 0 < payload.consecutiveFailures then some capturedAt
      else payload.lastRecoveredAt
    let succeeded : LatestPayload := { payload with
      lastRecoveredAt := recoveredAt
      success := some (successOf result.record)
      consecutiveFailures := 0 }
    ⟨succeeded, capturedAt, some capturedAt, capturedAt⟩

/-! ## The database -/

abbrev LatestTable := String → Option LatestRow

/-- What is committed, and what an open transaction sees instead. -/
structure LatestConnection where
  committed : LatestTable
  transaction : Option LatestTable

def LatestConnection.rollback (connection : LatestConnection) : LatestConnection :=
  { connection with transaction := none }

/-- A `sqlite3.OperationalError` with its message, or another exception. -/
inductive SqliteFault where
  | operational (message : String)
  | other
  deriving DecidableEq

/-- How one try ends: a statement raises, and `with` rolls the transaction back;
or the commit raises, and the transaction may stay open. -/
inductive TryAnswer where
  | commits
  | statementRaises (fault : SqliteFault)
  | commitRaises (message : String) (leftOpen : Bool)

def recordOperation (target : SchedulerTarget) (result : ScheduledResult)
    (connection : LatestConnection) :
    TryAnswer → LatestConnection × Except SqliteFault Unit
  | .statementRaises fault => (connection.rollback, .error fault)
  | answer =>
    let table := connection.transaction.getD connection.committed
    let written := Function.update table target.targetId
      (some (attemptedRow target result (table target.targetId)))
    match answer with
    | .commitRaises message leftOpen =>
      ({ connection with transaction := if leftOpen then some written else none },
        .error (.operational message))
    | _ => (⟨written, none⟩, .ok ())

/-- The counters of `contention_snapshot` about retries, and the exhausted budgets
of every operation which has not come through since. -/
structure BusyCounters where
  (busyEventsTotal busyRetriesTotal busyExhaustedTotal busyRecoveriesTotal : ℕ)
  busyConsecutiveExhaustions : ℕ
  busyUnresolvedExhaustions : Dictionary String ℕ
  (busyLastOperation busyLastError : Option String)
  deriving DecidableEq

namespace BusyCounters

def initial : BusyCounters := ⟨0, 0, 0, 0, 0, [], none, none⟩

def returned (counters : BusyCounters) (label : String) (sawBusy : Bool) :
    BusyCounters :=
  let unresolved := (counters.busyUnresolvedExhaustions.get? label).getD 0
  let remaining := counters.busyUnresolvedExhaustions.erase label
  { counters with
    busyUnresolvedExhaustions := remaining
    busyRecoveriesTotal := counters.busyRecoveriesTotal +
      if sawBusy ∨ 0 < unresolved then 1 else 0
    busyConsecutiveExhaustions := remaining.values.sum }

def busy (counters : BusyCounters) (label message : String) : BusyCounters :=
  { counters with
    busyEventsTotal := counters.busyEventsTotal + 1
    busyLastOperation := some label
    busyLastError := some message }

def exhausted (counters : BusyCounters) (label : String) : BusyCounters :=
  let unresolved := counters.busyUnresolvedExhaustions.set label
    ((counters.busyUnresolvedExhaustions.get? label).getD 0 + 1)
  { counters with
    busyExhaustedTotal := counters.busyExhaustedTotal + 1
    busyUnresolvedExhaustions := unresolved
    busyConsecutiveExhaustions := unresolved.values.sum }

end BusyCounters

structure LatestValueStore where
  connection : LatestConnection
  busyRetryAttempts : ℕ
  counters : BusyCounters

def isBusyError (casefold : String → String) (message : String) : Bool :=
  decide ("locked".toList <:+: (casefold message).toList) ||
    decide ("busy".toList <:+: (casefold message).toList)

namespace LatestValueStore

/-- The tries of `_retry_busy` from one on; `remaining` counts those which are left
with it, and the operation is given how many follow. -/
def retryBusy (casefold : String → String) (label : String)
    (operation : ℕ → LatestConnection → LatestConnection × Except SqliteFault Unit) :
    ℕ → Bool → LatestValueStore → LatestValueStore × Except SqliteFault Unit
  | 0, _, store => (store, .error .other)
  | following + 1, sawBusy, store =>
    match operation following store.connection with
    | (connection, .ok ()) =>
      ({ store with
        connection
        counters := store.counters.returned label sawBusy }, .ok ())
    | (connection, .error .other) =>
      ({ store with connection }, .error .other)
    | (connection, .error (.operational message)) =>
      let rolledBack := { store with connection := connection.rollback }
      if ¬ isBusyError casefold message then
        (rolledBack, .error (.operational message))
      else
        let counters := rolledBack.counters.busy label message
        if following = 0 then
          ({ rolledBack with counters := counters.exhausted label }, .error (.operational message))
        else
          retryBusy casefold label operation following true { rolledBack with
            counters := { counters with
              busyRetriesTotal := counters.busyRetriesTotal + 1 } }

def recordAttempt (casefold : String → String) (store : LatestValueStore)
    (target : SchedulerTarget) (result : ScheduledResult) (answers : ℕ → TryAnswer) :
    LatestValueStore × Except SqliteFault Unit :=
  retryBusy casefold "record_attempt"
    (fun following connection =>
      recordOperation target result connection (answers following))
    store.busyRetryAttempts false store

def initializeOperation (connection : LatestConnection) :
    TryAnswer → LatestConnection × Except SqliteFault Unit
  | .statementRaises fault => (connection.rollback, .error fault)
  | .commitRaises message leftOpen =>
    ({ connection with
      transaction := if leftOpen then some connection.committed else none },
      .error (.operational message))
  | .commits => (connection.rollback, .ok ())

def opened (casefold : String → String) (table : LatestTable)
    (busyRetryAttempts : ℕ) (answers : ℕ → TryAnswer) :
    LatestValueStore × Except SqliteFault Unit :=
  retryBusy casefold "initialize"
    (fun following connection => initializeOperation connection (answers following))
    busyRetryAttempts false ⟨⟨table, none⟩, busyRetryAttempts, .initial⟩

end LatestValueStore

/-- The store, and the attempts of the calls which have returned, newest first. -/
structure LatestSystem where
  store : LatestValueStore
  returned : List (SchedulerTarget × ScheduledResult)

inductive LatestAction where
  | recordAttempt (target : SchedulerTarget) (result : ScheduledResult) (answers : ℕ → TryAnswer)
  | restart (busyRetryAttempts : ℕ) (answers : ℕ → TryAnswer)

namespace LatestSystem

def created (busyRetryAttempts : ℕ) : LatestSystem :=
  ⟨⟨⟨fun _ => none, none⟩, busyRetryAttempts, .initial⟩, []⟩

/-- A process which cannot open the store does not start. -/
def step (casefold : String → String) (system : LatestSystem) :
    LatestAction → Option LatestSystem
  | .recordAttempt target result answers =>
    match system.store.recordAttempt casefold target result answers with
    | (store, .ok ()) => some ⟨store, (target, result) :: system.returned⟩
    | (store, .error _) => some { system with store }
  | .restart busyRetryAttempts answers =>
    match LatestValueStore.opened casefold system.store.connection.committed
        busyRetryAttempts answers with
    | (store, .ok ()) => some { system with store }
    | (_, .error _) => none

def attemptsOf (system : LatestSystem) (targetId : String) : List ScheduledResult :=
  (system.returned.filter fun entry => entry.1.targetId = targetId).map Prod.snd

end LatestSystem

/-- The time of the last success which followed a failure; the newest attempt
comes first. -/
def lastRecovery : List ScheduledResult → Option String
  | [] => none
  | result :: older =>
    if ¬ result.communicationFailed ∧ older.head?.any (·.communicationFailed) then
      some result.record.capturedAt
    else lastRecovery older

def lastSuccess (attempts : List ScheduledResult) : Option TelemetryRecord :=
  (attempts.find? (! ·.communicationFailed)).map (·.record)

/-- The row of the attempts, of which the newest comes first. -/
structure LatestRow.Counts (row : LatestRow) (attempts : List ScheduledResult) :
    Prop where
  attempts_eq : row.payload.attemptsTotal = attempts.length
  successes_eq : row.payload.successesTotal = attempts.countP (! ·.communicationFailed)
  failures_eq : row.payload.communicationFailuresTotal = attempts.countP (·.communicationFailed)
  consecutive_eq : row.payload.consecutiveFailures =
    (attempts.takeWhile (·.communicationFailed)).length
  success_eq : row.payload.success = (lastSuccess attempts).map successOf
  last_success_eq : row.lastSuccessAt = (lastSuccess attempts).map (·.capturedAt)
  last_attempt_eq : some row.lastAttemptAt = attempts.head?.map (·.record.capturedAt) ∧
    row.payload.lastAttemptAt = row.lastAttemptAt
  last_recovered_eq : row.payload.lastRecoveredAt = lastRecovery attempts

/-- A target without attempts has no row. -/
structure CountsAttempts (row : Option LatestRow) (attempts : List ScheduledResult) :
    Prop where
  absent : row = none → attempts = []
  counts : ∀ found, row = some found → found.Counts attempts

theorem LatestRow.Counts.total {row : LatestRow} {attempts : List ScheduledResult}
    (hcounts : row.Counts attempts) : row.payload.attemptsTotal =
      row.payload.successesTotal + row.payload.communicationFailuresTotal := by
  rw [hcounts.attempts_eq, hcounts.successes_eq, hcounts.failures_eq, Nat.add_comm,
    List.length_eq_countP_add_countP (·.communicationFailed)]
  simp

theorem consecutive_pos_iff (attempts : List ScheduledResult) :
    0 < (attempts.takeWhile (·.communicationFailed)).length ↔
      attempts.head?.any (·.communicationFailed) = true := by
  cases attempts with
  | nil => simp
  | cons newest older => cases hfailed : newest.communicationFailed <;> simp [hfailed]

theorem CountsAttempts.attempted {row : Option LatestRow}
    {attempts : List ScheduledResult} (hcounts : CountsAttempts row attempts)
    (target : SchedulerTarget) (result : ScheduledResult) :
    (attemptedRow target result row).Counts (result :: attempts) := by
  cases row with
  | none =>
    rw [hcounts.absent rfl]
    cases hfailed : result.communicationFailed <;>
      constructor <;>
      simp [attemptedRow, attemptPayload, hfailed, lastSuccess, lastRecovery]
  | some found =>
    obtain ⟨hattempts, hsuccesses, hfailures, hconsecutive, hsuccess, hlast, _,
      hrecovered⟩ := hcounts.counts found rfl
    cases hfailed : result.communicationFailed <;>
      constructor <;>
      simp [attemptedRow, attemptPayload, lastSuccess, lastRecovery, consecutive_pos_iff, *]

/-! ## Transactions -/

/-- The operation changes the table as `change` does and returns, or it raises and
has committed nothing. -/
structure Transacts (change : LatestTable → LatestTable)
    (operation : LatestConnection → LatestConnection × Except SqliteFault Unit) :
    Prop where
  returns : ∀ before after, before.transaction = none →
    operation before = (after, .ok ()) → after = ⟨change before.committed, none⟩
  raises : ∀ before after fault, before.transaction = none →
    operation before = (after, .error fault) →
    after.committed = before.committed ∧ (fault = .other → after.transaction = none)

theorem recordOperation_transacts (target : SchedulerTarget)
    (result : ScheduledResult) (answer : TryAnswer) :
    Transacts (fun table => Function.update table target.targetId
      (some (attemptedRow target result (table target.targetId))))
      (fun connection => recordOperation target result connection answer) := by
  constructor
  case returns =>
    intro before after hclosed hreturn
    cases answer <;> cases hreturn
    simp [hclosed]
  case raises =>
    intro before after fault hclosed hraise
    cases answer <;> cases hraise
    · exact ⟨rfl, fun _ => rfl⟩
    · exact ⟨rfl, fun hother => by cases hother⟩

theorem initializeOperation_transacts (answer : TryAnswer) :
    Transacts id (fun connection =>
      LatestValueStore.initializeOperation connection answer) := by
  constructor
  case returns =>
    intro before after _ hreturn
    cases answer <;> cases hreturn
    rfl
  case raises =>
    intro before after fault _ hraise
    cases answer <;> cases hraise
    · exact ⟨rfl, fun _ => rfl⟩
    · exact ⟨rfl, fun hother => by cases hother⟩

variable {casefold : String → String}

def TryAnswer.IsBusy (casefold : String → String) : TryAnswer → Prop
  | .statementRaises (.operational message) => isBusyError casefold message = true
  | .commitRaises message _ => isBusyError casefold message = true
  | _ => False

theorem recordOperation_busy {answer : TryAnswer} (hbusy : answer.IsBusy casefold)
    (target : SchedulerTarget) (result : ScheduledResult) (connection : LatestConnection) :
    ∃ failed message, recordOperation target result connection answer =
      (failed, .error (.operational message)) ∧ isBusyError casefold message = true := by
  cases answer with
  | commits => cases hbusy
  | statementRaises fault =>
    cases fault with
    | operational message => exact ⟨_, message, rfl, hbusy⟩
    | other => cases hbusy
  | commitRaises message leftOpen => exact ⟨_, message, rfl, hbusy⟩

namespace LatestValueStore

theorem retryBusy_transacts {label : String} {change : LatestTable → LatestTable}
    {operation : ℕ → LatestConnection → LatestConnection × Except SqliteFault Unit}
    (htransacts : ∀ following, Transacts change (operation following))
    {remaining : ℕ} {sawBusy : Bool} {store after : LatestValueStore}
    {outcome : Except SqliteFault Unit} (hclosed : store.connection.transaction = none)
    (hretry : retryBusy casefold label operation remaining sawBusy store = (after, outcome)) :
    after.connection.transaction = none ∧
      (outcome = .ok () →
        after.connection.committed = change store.connection.committed) ∧
      ∀ fault, outcome = .error fault →
        after.connection.committed = store.connection.committed := by
  induction remaining generalizing sawBusy store with
  | zero =>
    cases hretry
    exact ⟨hclosed, by simp, fun _ _ => rfl⟩
  | succ following ih =>
    unfold retryBusy at hretry
    split at hretry
    next connection hreturn =>
      cases hretry
      have hmade := (htransacts following).returns _ _ hclosed hreturn
      exact ⟨congrArg (·.transaction) hmade, fun _ => congrArg (·.committed) hmade, by simp⟩
    next connection hraise =>
      cases hretry
      obtain ⟨hkept, hopen⟩ := (htransacts following).raises _ _ _ hclosed hraise
      exact ⟨hopen rfl, by simp, fun _ _ => hkept⟩
    next connection message hraise =>
      have hkept := ((htransacts following).raises _ _ _ hclosed hraise).1
      dsimp only at hretry
      split_ifs at hretry
      · cases hretry
        exact ⟨rfl, by simp, fun _ _ => hkept⟩
      · obtain ⟨hafter, hmade, hraised⟩ := ih rfl hretry
        simp only [LatestConnection.rollback, hkept] at hmade hraised
        exact ⟨hafter, hmade, hraised⟩
      · cases hretry
        exact ⟨rfl, by simp, fun _ _ => hkept⟩

/-- The call returns if the tries before the one which commits are busy. -/
theorem retryBusy_returns {label : String}
    {operation : ℕ → LatestConnection → LatestConnection × Except SqliteFault Unit}
    {found remaining : ℕ} (sawBusy : Bool) (store : LatestValueStore)
    (hbusy : ∀ following, found < following → following < remaining →
      ∀ connection, ∃ failed message,
        operation following connection = (failed, .error (.operational message)) ∧
          isBusyError casefold message = true)
    (hcommits : ∀ connection, ∃ committed, operation found connection = (committed, .ok ()))
    (hfound : found < remaining) :
    (retryBusy casefold label operation remaining sawBusy store).2 = .ok () := by
  induction remaining generalizing sawBusy store with
  | zero => omega
  | succ following ih =>
    unfold retryBusy
    by_cases hlast : found = following
    · obtain ⟨committed, hreturn⟩ := hcommits store.connection
      rw [← hlast, hreturn]
    · have hbefore : found < following := by omega
      obtain ⟨failed, message, hraise, hmessage⟩ :=
        hbusy following hbefore (by omega) store.connection
      have hmore : following ≠ 0 := by omega
      simp only [hraise, hmessage, not_true_eq_false, if_false, hmore]
      exact ih _ _ (fun other hother hlt => hbusy other hother (by omega)) hbefore

end LatestValueStore

namespace LatestSystem

variable {system next : LatestSystem}

structure Sound (system : LatestSystem) : Prop where
  closed : system.store.connection.transaction = none
  counts : ∀ targetId, CountsAttempts (system.store.connection.committed targetId)
    (system.attemptsOf targetId)

theorem attemptsOf_cons (store : LatestValueStore)
    (returned : List (SchedulerTarget × ScheduledResult)) (target : SchedulerTarget)
    (result : ScheduledResult) (targetId : String) :
    attemptsOf ⟨store, (target, result) :: returned⟩ targetId =
      if target.targetId = targetId then result :: attemptsOf ⟨store, returned⟩ targetId
      else attemptsOf ⟨store, returned⟩ targetId := by
  by_cases hid : target.targetId = targetId <;> simp [attemptsOf, hid]

theorem Sound.step (hsound : system.Sound) {action : LatestAction}
    (hstep : system.step casefold action = some next) : next.Sound := by
  cases action with
  | recordAttempt target result answers =>
    unfold LatestSystem.step at hstep
    dsimp only at hstep
    split at hstep
    next store hreturn =>
      cases hstep
      obtain ⟨hclosed, hmade, -⟩ := LatestValueStore.retryBusy_transacts
        (fun following => recordOperation_transacts target result (answers following))
        hsound.closed hreturn
      refine ⟨hclosed, fun targetId => ?_⟩
      dsimp only
      rw [hmade rfl, attemptsOf_cons]
      by_cases hid : target.targetId = targetId
      · subst hid
        rw [Function.update_self, if_pos rfl]
        refine ⟨by simp, fun found hfound => ?_⟩
        cases hfound
        exact (hsound.counts target.targetId).attempted target result
      · rw [Function.update_of_ne (Ne.symm hid), if_neg hid]
        exact hsound.counts targetId
    next store fault hraise =>
      cases hstep
      obtain ⟨hclosed, -, hkept⟩ := LatestValueStore.retryBusy_transacts
        (fun following => recordOperation_transacts target result (answers following))
        hsound.closed hraise
      refine ⟨hclosed, fun targetId => ?_⟩
      dsimp only
      rw [hkept fault rfl]
      exact hsound.counts targetId
  | restart busyRetryAttempts answers =>
    unfold LatestSystem.step at hstep
    dsimp only at hstep
    split at hstep
    next store hreturn =>
      cases hstep
      obtain ⟨hclosed, hmade, -⟩ := LatestValueStore.retryBusy_transacts
        (fun following => initializeOperation_transacts (answers following)) rfl hreturn
      refine ⟨hclosed, fun targetId => ?_⟩
      dsimp only
      rw [hmade rfl]
      exact hsound.counts targetId
    next => cases hstep

/-- In every run the row of a target counts the attempts of the calls which have
returned.  A call returns if the database is busy for fewer tries than its budget,
and then changes the row of its target once; a call which raises changes none. -/
theorem recordedAttempts_counted (busyRetryAttempts : ℕ) {actions : List LatestAction}
    (hrun : runFrom (step casefold) (created busyRetryAttempts) actions = some system) :
    (∀ targetId, CountsAttempts (system.store.connection.committed targetId)
        (system.attemptsOf targetId)) ∧
      (∀ targetId row, system.store.connection.committed targetId = some row →
        row.payload.attemptsTotal =
          row.payload.successesTotal + row.payload.communicationFailuresTotal) ∧
      ∀ target result answers store outcome,
        system.store.recordAttempt casefold target result answers = (store, outcome) →
        (outcome = .ok () → store.connection.committed =
          Function.update system.store.connection.committed target.targetId
            (some (attemptedRow target result
              (system.store.connection.committed target.targetId)))) ∧
        (∀ fault, outcome = .error fault →
          store.connection.committed = system.store.connection.committed) ∧
        ((∃ found < system.store.busyRetryAttempts, answers found = .commits ∧
          ∀ following, found < following →
            following < system.store.busyRetryAttempts →
            (answers following).IsBusy casefold) → outcome = .ok ()) := by
  have hsound : system.Sound := by
    have hreaches : Reaches (step casefold) (fun _ _ => True)
        (created busyRetryAttempts) system := .of_runFrom (fun _ _ _ => trivial) hrun
    refine hreaches.invariant (fun _ _ _ hbefore _ hstep => hbefore.step hstep) ?_
    exact ⟨rfl, fun _ => ⟨fun _ => rfl, by simp [created]⟩⟩
  refine ⟨hsound.counts, fun targetId row hrow =>
    ((hsound.counts targetId).counts row hrow).total, ?_⟩
  intro target result answers store outcome hrecord
  obtain ⟨-, hmade, hkept⟩ := LatestValueStore.retryBusy_transacts
    (fun following => recordOperation_transacts target result (answers following))
    hsound.closed hrecord
  refine ⟨hmade, hkept, ?_⟩
  rintro ⟨found, hfound, hcommits, hbusy⟩
  have houtcome := congrArg Prod.snd hrecord
  dsimp only at houtcome
  rw [← houtcome]
  refine LatestValueStore.retryBusy_returns _ _ ?_ ?_ hfound
  · intro following hlater hlt connection
    exact recordOperation_busy (hbusy following hlater hlt) target result connection
  · intro connection
    rw [hcommits]
    exact ⟨_, rfl⟩

def cabinetTarget : SchedulerTarget where
  targetId := "xjp-1:temperature"
  busId := "rs485-main"
  deviceId := "xjp-1"
  deviceFamily := "xjp60d"
  unitId := 1
  key := "temperature"
  telemetryChannelId := "xjp-1-temperature"
  metric := "temperature"
  unit := "C"
  priority := .high
  intervalSeconds := 5

def cabinetReading (capturedAt : String) (failed : Bool) : ScheduledResult where
  record := {
    capturedAt
    metric := "temperature"
    value := if failed then none else some 4
    unit := "C"
    quality := if failed then "bad" else "good"
    source := "modbus"
    equipmentId := none
    channelId := none
    alarm := none
    rawValue := none
    rawStatus := none }
  communicationFailed := failed
  error := if failed then some "timeout" else none

def lockedAnswer : TryAnswer := .statementRaises (.operational "database is locked")

/-- A success, a failure which is committed by the second try, and a restart. -/
def cabinetRun : List LatestAction :=
  [.recordAttempt cabinetTarget (cabinetReading "06:00:00" false) fun _ => .commits,
    .recordAttempt cabinetTarget (cabinetReading "06:00:05" true) fun following =>
      if following = 0 then .commits else lockedAnswer,
    .restart 3 fun _ => .commits]

theorem recordedAttempts_counted_cabinet :
    ∃ system, runFrom (step id) (created 2) cabinetRun = some system ∧
      CountsAttempts (system.store.connection.committed cabinetTarget.targetId)
        [cabinetReading "06:00:05" true, cabinetReading "06:00:00" false] := by
  have hrun : runFrom (step id) (created 2) cabinetRun = some _ := rfl
  exact ⟨_, hrun, (recordedAttempts_counted 2 hrun).1 cabinetTarget.targetId⟩

/-- A call which finds the database locked in every try raises, and its attempt is
not counted. -/
theorem lockedAttempt_not_counted :
    ¬ ∀ (actions : List LatestAction) (system : LatestSystem),
      runFrom (step id) (created 3) actions = some system →
      (system.store.connection.committed cabinetTarget.targetId).elim 0
        (·.payload.attemptsTotal) = actions.length := by
  intro hcounted
  have hlocked := hcounted [.recordAttempt cabinetTarget
    (cabinetReading "06:00:00" false) fun _ => lockedAnswer] _ rfl
  exact absurd hlocked (by decide)

end LatestSystem

end Nexolab
