import Nexolab.LatestProjection
import Nexolab.SpoolStaging

/-!
# From the acknowledgement to the database

The MQTT callback acknowledges a message once its record is committed to the
spool; the persistence worker commits each record to the database and then
deletes it.  These are separate transactions, and a crash or a failure can fall
between any two of them.  `IngestionState` carries, beside the durable state, the
records ever appended and the database commits made for each of them; no
function of the source reads these.
-/

namespace Nexolab

variable {F : Type}

/-- What becomes of the commit of a database transaction. -/
inductive CommitFate where
  | committed
  | refused
  /-- The transaction is committed, and the client sees an error. -/
  | acknowledgementLost
  deriving DecidableEq

/-- What surrounds one attempt of the worker to persist a record. -/
structure PersistAttempt (F : Type) where
  /-- The reason code and detail of a rejection by the authorizer. -/
  rejection : Option (String × String)
  path : PersistencePath F
  allocation : Allocation
  fate : CommitFate
  /-- `after_persist` returns. -/
  processed : Bool
  /-- SQLite takes the `mark_attempt` or `mark_terminal` which may follow. -/
  marked : Bool
  errorText : String

def deadLetterRow (allocation : Allocation) (work : DeadLetterWork) :
    DeadLetterEvent where
  id := allocation.id
  topic := work.topic
  reasonCode := work.reasonCode
  reasonDetail := String.ofList (work.reasonDetail.toList.take 2048)
  payload := work.payload
  payloadSize := work.payloadSize
  payloadTruncated := work.payloadTruncated
  receivedAt := allocation.receivedAt

/-- What `_persist_authorization_dead_letter` persists for rejected work. -/
def authorizationDeadLetter (settings : IngestionSettings)
    (work : TelemetryWork F) (reasonCode reasonDetail : String) :
    DeadLetterWork :=
  deadLetterWork settings work.payload work.topic work.receivedAt reasonCode reasonDetail

inductive RecordCommit where
  | sample
  | deadLetter (row : DeadLetterEvent)

section Model

variable [PythonFloat F]

def persistWork (settings : IngestionSettings) (attempt : PersistAttempt F)
    (tables : TelemetryTables F) :
    PersistenceWork F → Except PersistError (TelemetryTables F × RecordCommit)
  | .telemetry work =>
    match attempt.rejection with
    | some (reasonCode, reasonDetail) =>
      let row := deadLetterRow attempt.allocation
        (authorizationDeadLetter settings work reasonCode reasonDetail)
      .ok (Database.persistDeadLetter tables row, .deadLetter row)
    | none =>
      match persistVia attempt.path tables attempt.allocation work.event
          work.raw with
      | .error error => .error error
      | .ok (next, _) => .ok (next, .sample)
  | .deadLetter work =>
    let row := deadLetterRow attempt.allocation work
    .ok (Database.persistDeadLetter tables row, .deadLetter row)

def RecordCommit.returns (commit : RecordCommit) (attempt : PersistAttempt F) :
    Bool :=
  match commit with
  | .sample => attempt.processed
  | .deadLetter _ => true

inductive WorkerPhase where
  | idle
  /-- `_persist` has returned and `delete` is next. -/
  | completing (recordId : ℕ)
  deriving DecidableEq

structure IngestionState (F : Type) where
  spool : SpoolTable
  database : TelemetryTables F
  phase : WorkerPhase
  /-- The message the callback has staged and not yet acknowledged, with its
  record. -/
  staged : Option (MqttMessage × ℕ)
  acknowledged : List (MqttMessage × ℕ)
  appended : List SpoolRecord
  sampleCommits : List ℕ
  deadLetterCommits : List (ℕ × DeadLetterEvent)

def IngestionState.initial (F : Type) : IngestionState F where
  spool := .empty
  database := .empty F
  phase := .idle
  staged := none
  acknowledged := []
  appended := []
  sampleCommits := []
  deadLetterCommits := []

inductive SystemAction (F : Type) where
  | deliver (choice : SqliteChoice) (message : MqttMessage) (receivedAt : Instant)
  | acknowledge (succeeds : Bool)
  | persist (attempt : PersistAttempt F)
  | complete (succeeds : Bool)
  | crash

namespace IngestionState

def retry (state : IngestionState F) (attempt : PersistAttempt F)
    (recordId : ℕ) : IngestionState F :=
  if attempt.marked then
    { state with spool := state.spool.markAttempt recordId attempt.errorText }
  else state

def quarantine (state : IngestionState F) (attempt : PersistAttempt F)
    (recordId : ℕ) (message : String) : IngestionState F :=
  if attempt.marked then
    { state with spool := state.spool.markTerminal recordId message }
  else state

def commit (state : IngestionState F) (tables : TelemetryTables F)
    (recordId : ℕ) : RecordCommit → IngestionState F
  | .sample => { state with
      database := tables
      sampleCommits := state.sampleCommits ++ [recordId] }
  | .deadLetter row => { state with
      database := tables
      deadLetterCommits := state.deadLetterCommits ++ [(recordId, row)] }

/-- One turn of `_run_durable` up to the deletion of the record. -/
def persist (config : StagingConfig F) (state : IngestionState F)
    (attempt : PersistAttempt F) (record : SpoolRecord) : IngestionState F :=
  match workFromSpool config.settings config.coercions record with
  | .error (.invalidRecord message) =>
    state.quarantine attempt record.recordId message
  | .error (.uncaught _) => state.retry attempt record.recordId
  | .ok work =>
    match persistWork config.settings attempt state.database work with
    | .error _ => state.retry attempt record.recordId
    | .ok (tables, outcome) =>
      match attempt.fate with
      | .refused => state.retry attempt record.recordId
      | .acknowledgementLost =>
        (state.commit tables record.recordId outcome).retry attempt record.recordId
      | .committed =>
        if outcome.returns attempt then
          { state.commit tables record.recordId outcome with
            phase := .completing record.recordId }
        else (state.commit tables record.recordId outcome).retry attempt
          record.recordId

def deliver (config : StagingConfig F) (state : IngestionState F)
    (choice : SqliteChoice) (message : MqttMessage) (receivedAt : Instant) :
    IngestionState F :=
  match stageMqttPayload config choice state.spool message receivedAt with
  | .error _ => state
  | .ok (spool, result) => { state with
      spool
      staged := if result.staged then result.recordId.map (message, ·) else none
      appended := state.appended ++ spool.records.drop state.spool.records.length }

end IngestionState

/-- The callback handles one message at a time, and the worker one record. -/
def ingestionStep (config : StagingConfig F) (state : IngestionState F) :
    SystemAction F → Option (IngestionState F)
  | .deliver choice message receivedAt =>
    if state.staged.isSome then none
    else some (state.deliver config choice message receivedAt)
  | .acknowledge succeeds =>
    match state.staged with
    | none => none
    | some (message, recordId) =>
      if succeeds ∧ message.qos ≠ 0 then
        some { state with
          staged := none
          acknowledged := state.acknowledged ++ [(message, recordId)] }
      else some { state with staged := none }
  | .persist attempt =>
    match state.phase, state.spool.oldestPending with
    | .idle, some record => some (state.persist config attempt record)
    | _, _ => none
  | .complete succeeds =>
    match state.phase with
    | .idle => none
    | .completing recordId =>
      if succeeds then
        some { state with
          spool := state.spool.delete recordId
          phase := .idle }
      else some { state with phase := .idle }
  | .crash => some { state with phase := .idle, staged := none }

/-- The record has the payload staged for a message, under one of its keys. -/
def SpoolRecord.carries (config : StagingConfig F) (message : MqttMessage)
    (record : SpoolRecord) : Prop :=
  ∃ receivedAt work, decodeSubmission config.settings config.coercions
      message.payload (some message.topic) receivedAt = .ok work ∧
    record.payload = (entryOf (some (deliveryKey config message)) work).payload ∧
    record.sharesKey (entryOf (some (deliveryKey config message)) work) = true

namespace IngestionState

def deadLettersOf (state : IngestionState F) (recordId : ℕ) :
    List DeadLetterEvent :=
  (state.deadLetterCommits.filter fun commit => commit.1 = recordId).map Prod.snd

def inSpool (state : IngestionState F) (record : SpoolRecord) : Prop :=
  (record.recordId, record.toSpoolEntry) ∈ state.spool.entries

/-- A record has one outcome: the one sample row of its event, or one dead
letter of its payload. -/
def OneOutcome (config : StagingConfig F) (state : IngestionState F)
    (record : SpoolRecord) : Prop :=
  match workFromSpool config.settings config.coercions record with
  | .error _ => False
  | .ok (.telemetry work) =>
    (state.deadLettersOf record.recordId = [] ∧
      (state.database.samples.filter fun sample =>
        sample.event.eventId = work.event.eventId).length = 1) ∨
    (record.recordId ∉ state.sampleCommits ∧ ∃ allocation reasonCode reasonDetail,
        state.deadLettersOf record.recordId = [deadLetterRow allocation
          (authorizationDeadLetter config.settings work reasonCode reasonDetail)])
  | .ok (.deadLetter work) =>
    record.recordId ∉ state.sampleCommits ∧
      ∃ allocation, state.deadLettersOf record.recordId = [deadLetterRow allocation work]

/-- A message is held by a record which carries it, in the spool or with its
outcome in the database. -/
def Holds (config : StagingConfig F) (state : IngestionState F)
    (message : MqttMessage) (recordId : ℕ) : Prop :=
  ∃ record ∈ state.appended, record.recordId = recordId ∧ record.carries config message ∧
    (state.inSpool record ∨ state.OneOutcome config record)

def hasCommit (state : IngestionState F) (recordId : ℕ) : Prop :=
  recordId ∈ state.sampleCommits ∨ state.deadLettersOf recordId ≠ []

end IngestionState

/-- The worker is between the commit of a dead letter and the deletion of its
record. -/
def IngestionState.holdsDeadLetter (state : IngestionState F) : Prop :=
  match state.phase with
  | .idle => False
  | .completing recordId => state.deadLettersOf recordId ≠ []

instance : ∀ state : IngestionState F, Decidable state.holdsDeadLetter
  | ⟨_, _, .idle, _, _, _, _, _⟩ => inferInstanceAs (Decidable False)
  | ⟨_, _, .completing _, _, _, _, _, _⟩ => inferInstanceAs (Decidable (_ ≠ _))

/-- No crash, failed delete or lost acknowledgement falls between the commit of
a dead letter and the deletion of its record, and no record is rejected after a
commit for its sample. -/
def ingestionSafe (state : IngestionState F) : SystemAction F → Prop
  | .deliver _ _ _ => True
  | .acknowledge _ => True
  | .persist attempt => ∀ record ∈ state.spool.oldestPending,
      (attempt.rejection.isSome → attempt.fate ≠ .refused →
        record.recordId ∉ state.sampleCommits) ∧
      (attempt.fate = .acknowledgementLost →
        record.workType = .telemetry ∧ attempt.rejection = none)
  | .complete succeeds => succeeds = false → ¬ state.holdsDeadLetter
  | .crash => ¬ state.holdsDeadLetter

instance (state : IngestionState F) : ∀ action, Decidable (ingestionSafe state action)
  | .deliver _ _ _ | .acknowledge _ => .isTrue trivial
  | .persist attempt =>
    inferInstanceAs (Decidable (∀ record ∈ state.spool.oldestPending, _))
  | .complete _ => inferInstanceAs (Decidable (_ → ¬ _))
  | .crash => inferInstanceAs (Decidable (¬ state.holdsDeadLetter))

/-- Nothing acknowledged is lost, what has left the spool has one outcome, the
dead letters are those of the commits, and a record with a commit adds no row
when it is persisted again. -/
structure IngestionState.ExactlyOnce (config : StagingConfig F)
    (state : IngestionState F) : Prop where
  acknowledged : ∀ pair ∈ state.acknowledged, state.Holds config pair.1 pair.2
  drained : ∀ record ∈ state.appended,
    (∀ row ∈ state.spool.records, row.recordId ≠ record.recordId) → state.OneOutcome config record
  deadLetters_eq : state.database.deadLetters = state.deadLetterCommits.map Prod.snd
  replay : ∀ row attempt next, state.spool.oldestPending = some row →
    state.hasCommit row.recordId → ingestionSafe state (.persist attempt) →
    ingestionStep config state (.persist attempt) = some next → next.database = state.database

def SpoolRecord.StagedFor (config : StagingConfig F) (record : SpoolRecord)
    (work : PersistenceWork F) : Prop :=
  ∃ payload topic receivedAt key,
    DecodedWork config.settings config.coercions payload topic receivedAt work ∧
    record.toSpoolEntry = entryOf key work

structure IngestionInvariant (config : StagingConfig F) (state : IngestionState F) :
    Prop where
  ids_lt : ∀ record ∈ state.appended, record.recordId < state.spool.nextId
  ids_distinct : (state.appended.map SpoolRecord.recordId).Nodup
  entries_appended : ∀ entry ∈ state.spool.entries,
    ∃ record ∈ state.appended, (record.recordId, record.toSpoolEntry) = entry
  decoded : ∀ record ∈ state.appended, ∃ work, record.StagedFor config work
  events_distinct :
    (state.database.samples.map fun sample => sample.event.eventId).Nodup
  deadLetters_eq : state.database.deadLetters = state.deadLetterCommits.map Prod.snd
  sampled : ∀ record ∈ state.appended, record.recordId ∈ state.sampleCommits →
    ∃ work, workFromSpool config.settings config.coercions record = .ok (.telemetry work) ∧
      state.database.stores work.event.eventId = true
  commits_lt : ∀ recordId, state.hasCommit recordId → recordId < state.spool.nextId
  waiting : ∀ entry ∈ state.spool.entries,
    state.phase ≠ .completing entry.1 → state.deadLettersOf entry.1 = []
  completing_lt : ∀ recordId, state.phase = .completing recordId → recordId < state.spool.nextId
  completing : ∀ record ∈ state.appended,
    state.phase = .completing record.recordId → state.OneOutcome config record
  drained : ∀ record ∈ state.appended, state.inSpool record ∨ state.OneOutcome config record
  held : ∀ pair, state.staged = some pair ∨ pair ∈ state.acknowledged →
    ∃ record ∈ state.appended, record.recordId = pair.2 ∧ record.carries config pair.1

variable {config : StagingConfig F} {state : IngestionState F}

theorem SpoolRecord.StagedFor.decodes {record : SpoolRecord}
    {work : PersistenceWork F} (hstaged : record.StagedFor config work) :
    workFromSpool config.settings config.coercions record = .ok work := by
  obtain ⟨payload, topic, receivedAt, key, hdecoded, hent⟩ := hstaged
  exact workFromSpool_entryOf hdecoded hent

theorem SpoolRecord.StagedFor.decodes_row {record row : SpoolRecord}
    {work : PersistenceWork F} (hstaged : record.StagedFor config work)
    (hrow : row.toSpoolEntry = record.toSpoolEntry) :
    workFromSpool config.settings config.coercions row = .ok work := by
  obtain ⟨payload, topic, receivedAt, key, hdecoded, hent⟩ := hstaged
  exact workFromSpool_entryOf hdecoded (hrow.trans hent)

omit [PythonFloat F] in
theorem samples_length_of_stores {tables : TelemetryTables F} {eventId : UuidText}
    (hdist : (tables.samples.map fun sample => sample.event.eventId).Nodup)
    (hstores : tables.stores eventId = true) :
    (tables.samples.filter fun sample =>
      sample.event.eventId = eventId).length = 1 := by
  have hmem : eventId ∈ tables.samples.map fun sample => sample.event.eventId := by
    unfold TelemetryTables.stores at hstores
    rw [List.any_eq_true] at hstores
    obtain ⟨sample, hsamp, hevent⟩ := hstores
    rw [List.mem_map]
    exact ⟨sample, hsamp, of_decide_eq_true hevent⟩
  have hcount := List.count_eq_one_of_mem hdist hmem
  rw [List.count_eq_countP, List.countP_map, List.countP_eq_length_filter] at hcount
  exact hcount

omit [PythonFloat F] in
theorem stores_of_samples_length {tables : TelemetryTables F} {eventId : UuidText}
    (hlen : (tables.samples.filter fun sample =>
      sample.event.eventId = eventId).length = 1) :
    tables.stores eventId = true := by
  obtain ⟨sample, hsamp⟩ := List.length_eq_one_iff.mp hlen
  have hmem : sample ∈ tables.samples.filter fun sample =>
      sample.event.eventId = eventId := by
    rw [hsamp]
    exact List.mem_singleton_self sample
  obtain ⟨hsamples, hevent⟩ := List.mem_filter.mp hmem
  unfold TelemetryTables.stores
  rw [List.any_eq_true]
  exact ⟨sample, hsamples, hevent⟩

/-! ## A commit for a record -/

omit [PythonFloat F] in

omit [PythonFloat F] in
theorem IngestionState.deadLettersOf_commit (tables : TelemetryTables F)
    (recordId other : ℕ) (row : DeadLetterEvent) :
    (state.commit tables recordId (.deadLetter row)).deadLettersOf other =
      if recordId = other then state.deadLettersOf other ++ [row]
      else state.deadLettersOf other := by
  unfold IngestionState.deadLettersOf IngestionState.commit
  rw [List.filter_append, List.map_append]
  by_cases hsame : recordId = other <;> simp [hsame]

/-- What a commit keeps: distinct events, and every stored event. -/
structure SamplesGrow (tables next : TelemetryTables F) : Prop where
  distinct : (tables.samples.map fun sample => sample.event.eventId).Nodup →
    (next.samples.map fun sample => sample.event.eventId).Nodup
  keeps : ∀ eventId, tables.stores eventId = true → next.stores eventId = true

theorem persistVia_grows {path : PersistencePath F}
    {tables next : TelemetryTables F} {allocation : Allocation}
    {event : TelemetryEvent F} {rawPayload : JsonFields F} {isNew : Bool}
    (hpers : persistVia path tables allocation event rawPayload = .ok (next, isNew)) :
    SamplesGrow tables next ∧ next.stores event.eventId = true := by
  obtain ⟨_, hsamples⟩ := persistVia_samples hpers
  rcases hsamples with ⟨hstored, heq⟩ | ⟨hnew, heq⟩
  · have hstores : ∀ eventId, next.stores eventId = tables.stores eventId := by
      intro eventId
      unfold TelemetryTables.stores
      rw [heq]
    constructor
    · constructor
      · intro hdist
        rw [heq]
        exact hdist
      · intro eventId hold
        rw [hstores]
        exact hold
    · rw [hstores]
      exact hstored
  · have hstores : ∀ eventId, next.stores eventId =
        (tables.stores eventId || decide (event.eventId = eventId)) := by
      intro eventId
      unfold TelemetryTables.stores
      rw [heq, List.any_append]
      simp [insertedSample]
    constructor
    · constructor
      · intro hdist
        rw [heq, List.map_append]
        apply List.nodup_append.mpr
        refine ⟨hdist, by simp, ?_⟩
        intro eventId hold other hother
        rw [List.map_singleton, List.mem_singleton] at hother
        obtain ⟨sample, hsamp, hevent⟩ := List.mem_map.mp hold
        rw [hother]
        intro hsame
        have hstored : tables.stores event.eventId = true := by
          unfold TelemetryTables.stores
          rw [List.any_eq_true]
          exact ⟨sample, hsamp, decide_eq_true (hevent.trans hsame)⟩
        rw [hnew] at hstored
        cases hstored
      · intro eventId hold
        rw [hstores, hold]
        rfl
    · rw [hstores]
      simp

omit [PythonFloat F] in
theorem persistDeadLetter_grows (tables : TelemetryTables F) (row : DeadLetterEvent) :
    SamplesGrow tables (Database.persistDeadLetter tables row) :=
  ⟨id, fun _ => id⟩

theorem IngestionState.OneOutcome.keep {next : IngestionState F}
    {record : SpoolRecord} (hout : state.OneOutcome config record)
    (hdist : (state.database.samples.map fun sample => sample.event.eventId).Nodup)
    (hgrows : SamplesGrow state.database next.database)
    (hletters : next.deadLettersOf record.recordId = state.deadLettersOf record.recordId)
    (hsampled : record.recordId ∈ next.sampleCommits →
      record.recordId ∈ state.sampleCommits) :
    next.OneOutcome config record := by
  unfold OneOutcome at hout ⊢
  rw [hletters]
  cases hwork : workFromSpool config.settings config.coercions record with
  | error error =>
    rw [hwork] at hout
    cases hout
  | ok work =>
    rw [hwork] at hout
    cases work with
    | telemetry work =>
      rcases hout with ⟨hnone, hlen⟩ | ⟨hnot, hletter⟩
      · left
        have hstores := hgrows.keeps _ (stores_of_samples_length hlen)
        exact ⟨hnone, samples_length_of_stores (hgrows.distinct hdist) hstores⟩
      · right
        exact ⟨fun hmem => hnot (hsampled hmem), hletter⟩
    | deadLetter work =>
      obtain ⟨hnot, hletter⟩ := hout
      exact ⟨fun hmem => hnot (hsampled hmem), hletter⟩

namespace IngestionInvariant

theorem entry_eq (hinv : IngestionInvariant config state) {row record : SpoolRecord}
    (hrow : row ∈ state.spool.records) (hrec : record ∈ state.appended)
    (hid : record.recordId = row.recordId) :
    row.toSpoolEntry = record.toSpoolEntry := by
  have hent : (row.recordId, row.toSpoolEntry) ∈ state.spool.entries :=
    List.mem_map_of_mem hrow
  obtain ⟨other, hother, heq⟩ := hinv.entries_appended _ hent
  rw [Prod.mk.injEq] at heq
  have hsame : other = record := by
    apply List.inj_on_of_nodup_map hinv.ids_distinct hother hrec
    exact heq.1.trans hid.symm
  rw [← heq.2, hsame]

variable {row : SpoolRecord}

theorem row_decodes (hinv : IngestionInvariant config state) (hrow : row ∈ state.spool.records) :
    ∃ record ∈ state.appended, record.recordId = row.recordId ∧
      ∃ work, record.StagedFor config work ∧
        workFromSpool config.settings config.coercions row = .ok work := by
  have hent : (row.recordId, row.toSpoolEntry) ∈ state.spool.entries :=
    List.mem_map_of_mem hrow
  obtain ⟨record, hrec, heq⟩ := hinv.entries_appended _ hent
  rw [Prod.mk.injEq] at heq
  obtain ⟨work, hstaged⟩ := hinv.decoded record hrec
  exact ⟨record, hrec, heq.1, work, hstaged, hstaged.decodes_row heq.2.symm⟩

theorem withSpool (hinv : IngestionInvariant config state) {spool : SpoolTable}
    (hents : spool.entries = state.spool.entries) (hnext : spool.nextId = state.spool.nextId) :
    IngestionInvariant config { state with spool } where
  ids_lt := by
    rw [hnext]
    exact hinv.ids_lt
  ids_distinct := hinv.ids_distinct
  entries_appended := by
    rw [hents]
    exact hinv.entries_appended
  decoded := hinv.decoded
  events_distinct := hinv.events_distinct
  deadLetters_eq := hinv.deadLetters_eq
  sampled := hinv.sampled
  commits_lt := by
    rw [hnext]
    exact hinv.commits_lt
  waiting := by
    rw [hents]
    exact hinv.waiting
  completing_lt := by
    rw [hnext]
    exact hinv.completing_lt
  completing := hinv.completing
  drained := by
    unfold IngestionState.inSpool
    rw [hents]
    exact hinv.drained
  held := hinv.held

theorem retry (hinv : IngestionInvariant config state) (attempt : PersistAttempt F)
    (recordId : ℕ) : IngestionInvariant config (state.retry attempt recordId) := by
  unfold IngestionState.retry
  split_ifs
  · apply hinv.withSpool
    · exact SpoolTable.entries_markAttempt _ _ _
    · rfl
  · exact hinv

theorem commitSample (hinv : IngestionInvariant config state) (hphase : state.phase = .idle)
    (hrow : row ∈ state.spool.records) {work : TelemetryWork F}
    (hwork : workFromSpool config.settings config.coercions row = .ok (.telemetry work))
    {path : PersistencePath F} {allocation : Allocation} {tables : TelemetryTables F} {isNew : Bool}
    (hpers : persistVia path state.database allocation work.event work.raw = .ok (tables, isNew)) :
    IngestionInvariant config (state.commit tables row.recordId .sample) := by
  obtain ⟨hgrows, hstores⟩ := persistVia_grows hpers
  obtain ⟨hletters, _⟩ := persistVia_samples hpers
  have hent : (row.recordId, row.toSpoolEntry) ∈ state.spool.entries :=
    List.mem_map_of_mem hrow
  have hsampled : ∀ recordId, recordId ∈ (state.commit tables row.recordId .sample).sampleCommits →
      recordId ∈ state.sampleCommits ∨ recordId = row.recordId := by
    intro recordId hmem
    rcases List.mem_append.mp hmem with hold | hnew
    · exact .inl hold
    · exact .inr (List.mem_singleton.mp hnew)
  refine { hinv with
    events_distinct := ?events_distinct, deadLetters_eq := ?deadLetters_eq,
    sampled := ?sampled, commits_lt := ?commits_lt, completing := ?completing,
    drained := ?drained }
  case events_distinct => exact hgrows.distinct hinv.events_distinct
  case deadLetters_eq => exact hletters.trans hinv.deadLetters_eq
  case sampled =>
    intro record hrec hmem
    rcases hsampled _ hmem with hold | hnew
    · obtain ⟨earlier, hearlier, hstored⟩ := hinv.sampled record hrec hold
      exact ⟨earlier, hearlier, hgrows.keeps _ hstored⟩
    · obtain ⟨staged, hstaged⟩ := hinv.decoded record hrec
      have hsame := hstaged.decodes_row (hinv.entry_eq hrow hrec hnew)
      rw [hwork, Except.ok.injEq] at hsame
      refine ⟨work, ?_, hstores⟩
      rw [hsame]
      exact hstaged.decodes
  case commits_lt =>
    intro recordId hcommit
    rcases hcommit with hmem | hletter
    · rcases hsampled _ hmem with hold | hnew
      · exact hinv.commits_lt recordId (.inl hold)
      · obtain ⟨record, hrec, hid, _⟩ := hinv.row_decodes hrow
        have hlt := hinv.ids_lt record hrec
        rw [hnew, ← hid]
        exact hlt
    · exact hinv.commits_lt recordId (.inr hletter)
  case completing =>
    intro record _ hcompleting
    change state.phase = _ at hcompleting
    rw [hphase] at hcompleting
    cases hcompleting
  case drained =>
    intro record hrec
    rcases hinv.drained record hrec with hin | hout
    · exact .inl hin
    · by_cases hid : record.recordId = row.recordId
      · left
        change (record.recordId, record.toSpoolEntry) ∈ state.spool.entries
        rw [← hinv.entry_eq hrow hrec hid, hid]
        exact hent
      · right
        apply hout.keep hinv.events_distinct
        · exact hgrows
        · rfl
        · intro hmem
          exact (hsampled _ hmem).resolve_right hid

theorem toCompleting (hinv : IngestionInvariant config state) (hphase : state.phase = .idle)
    (hrow : row ∈ state.spool.records) {work : TelemetryWork F}
    (hwork : workFromSpool config.settings config.coercions row = .ok (.telemetry work))
    (hstores : state.database.stores work.event.eventId = true) :
    IngestionInvariant config
      { state with phase := .completing row.recordId } := by
  have hent : (row.recordId, row.toSpoolEntry) ∈ state.spool.entries :=
    List.mem_map_of_mem hrow
  have hnone : ∀ entry ∈ state.spool.entries, state.deadLettersOf entry.1 = [] := by
    intro entry hmem
    apply hinv.waiting entry hmem
    rw [hphase]
    exact nofun
  refine { hinv with
    waiting := ?waiting, completing_lt := ?completing_lt, completing := ?completing }
  case waiting => exact fun entry hmem _ => hnone entry hmem
  case completing_lt =>
    intro recordId hcompleting
    obtain ⟨record, hrec, hid, _⟩ := hinv.row_decodes hrow
    rw [WorkerPhase.completing.injEq] at hcompleting
    rw [← hcompleting, ← hid]
    exact hinv.ids_lt record hrec
  case completing =>
    intro record hrec hcompleting
    rw [WorkerPhase.completing.injEq] at hcompleting
    obtain ⟨staged, hstaged⟩ := hinv.decoded record hrec
    have hsame := hstaged.decodes_row (hinv.entry_eq hrow hrec hcompleting.symm)
    rw [hwork, Except.ok.injEq] at hsame
    unfold IngestionState.OneOutcome
    rw [hstaged.decodes, ← hsame]
    left
    constructor
    · change state.deadLettersOf record.recordId = []
      rw [← hcompleting]
      exact hnone _ hent
    · exact samples_length_of_stores hinv.events_distinct hstores

theorem commitDeadLetter (hinv : IngestionInvariant config state) (hphase : state.phase = .idle)
    (hrow : row ∈ state.spool.records) {letter : DeadLetterEvent}
    (hout : ∀ next : IngestionState F, ∀ record : SpoolRecord,
      workFromSpool config.settings config.coercions record =
        workFromSpool config.settings config.coercions row →
      record.recordId ∉ next.sampleCommits →
      next.deadLettersOf record.recordId = [letter] → next.OneOutcome config record)
    (hnotSampled : row.recordId ∉ state.sampleCommits) :
    IngestionInvariant config
      { state.commit (Database.persistDeadLetter state.database letter)
          row.recordId (.deadLetter letter) with
        phase := .completing row.recordId } := by
  have hent : (row.recordId, row.toSpoolEntry) ∈ state.spool.entries :=
    List.mem_map_of_mem hrow
  have hgrows := persistDeadLetter_grows state.database letter
  have hletters : ∀ recordId, IngestionState.deadLettersOf
      { state.commit (Database.persistDeadLetter state.database letter)
          row.recordId (.deadLetter letter) with
        phase := .completing row.recordId } recordId =
      if row.recordId = recordId then state.deadLettersOf recordId ++ [letter]
      else state.deadLettersOf recordId := by
    intro recordId
    exact IngestionState.deadLettersOf_commit
      (Database.persistDeadLetter state.database letter) _ _ _
  have hrowId : row.recordId < state.spool.nextId := by
    obtain ⟨record, hrec, hid, _⟩ := hinv.row_decodes hrow
    rw [← hid]
    exact hinv.ids_lt record hrec
  have hnone : ∀ entry ∈ state.spool.entries, state.deadLettersOf entry.1 = [] := by
    intro entry hmem
    apply hinv.waiting entry hmem
    rw [hphase]
    exact nofun
  refine { hinv with
    deadLetters_eq := ?deadLetters_eq, commits_lt := ?commits_lt,
    waiting := ?waiting, completing_lt := ?completing_lt, completing := ?completing,
    drained := ?drained }
  case deadLetters_eq =>
    change state.database.deadLetters ++ [letter] =
      (state.deadLetterCommits ++ [(row.recordId, letter)]).map Prod.snd
    rw [hinv.deadLetters_eq, List.map_append]
    rfl
  case commits_lt =>
    intro recordId hcommit
    rcases hcommit with hmem | hletter
    · exact hinv.commits_lt recordId (.inl hmem)
    · by_cases hid : row.recordId = recordId
      · rw [← hid]
        exact hrowId
      · rw [hletters, if_neg hid] at hletter
        exact hinv.commits_lt recordId (.inr hletter)
  case waiting =>
    intro entry hmem hother
    have hid : row.recordId ≠ entry.1 := by
      intro hsame
      rw [hsame] at hother
      exact hother rfl
    rw [hletters, if_neg hid]
    exact hnone entry hmem
  case completing_lt =>
    intro recordId hcompleting
    rw [WorkerPhase.completing.injEq] at hcompleting
    rw [← hcompleting]
    exact hrowId
  case completing =>
    intro record hrec hcompleting
    rw [WorkerPhase.completing.injEq] at hcompleting
    obtain ⟨work, hstaged⟩ := hinv.decoded record hrec
    have hsame := hstaged.decodes_row (hinv.entry_eq hrow hrec hcompleting.symm)
    apply hout
    · rw [hstaged.decodes, hsame]
    · rw [← hcompleting]
      exact hnotSampled
    · rw [hletters, if_pos hcompleting, ← hcompleting, hnone _ hent]
      rfl
  case drained =>
    intro record hrec
    rcases hinv.drained record hrec with hin | hout
    · exact .inl hin
    · by_cases hid : record.recordId = row.recordId
      · left
        change (record.recordId, record.toSpoolEntry) ∈ state.spool.entries
        rw [← hinv.entry_eq hrow hrec hid, hid]
        exact hent
      · right
        apply hout.keep hinv.events_distinct
        · exact hgrows
        · rw [hletters, if_neg (Ne.symm hid)]
        · exact id

/-! ## The other actions -/

theorem completeRecord (hinv : IngestionInvariant config state) {recordId : ℕ}
    (hphase : state.phase = .completing recordId) :
    IngestionInvariant config { state with
      spool := state.spool.delete recordId
      phase := .idle } := by
  refine { hinv with
    entries_appended := ?entries_appended, waiting := ?waiting,
    completing_lt := ?completing_lt, completing := ?completing, drained := ?drained }
  case entries_appended =>
    intro entry hmem
    exact hinv.entries_appended entry (SpoolTable.mem_entries_delete.mp hmem).1
  case waiting =>
    intro entry hmem _
    obtain ⟨hent, hother⟩ := SpoolTable.mem_entries_delete.mp hmem
    apply hinv.waiting entry hent
    rw [hphase]
    intro hsame
    exact hother (WorkerPhase.completing.inj hsame).symm
  case completing_lt => exact nofun
  case completing =>
    intro record _ hcompleting
    cases hcompleting
  case drained =>
    intro record hrec
    by_cases hid : record.recordId = recordId
    · right
      apply hinv.completing record hrec
      rw [hphase, hid]
    · rcases hinv.drained record hrec with hin | hout
      · left
        exact SpoolTable.mem_entries_delete.mpr ⟨hin, hid⟩
      · exact .inr hout

theorem restart (hinv : IngestionInvariant config state) (hsafe : ¬ state.holdsDeadLetter) :
    IngestionInvariant config { state with phase := .idle } := by
  refine { hinv with
    waiting := ?waiting, completing_lt := ?completing_lt, completing := ?completing }
  case waiting =>
    intro entry hmem _
    by_cases hcompleting : state.phase = .completing entry.1
    · unfold IngestionState.holdsDeadLetter at hsafe
      rw [hcompleting] at hsafe
      exact not_not.mp hsafe
    · exact hinv.waiting entry hmem hcompleting
  case completing_lt => exact nofun
  case completing =>
    intro record _ hcompleting
    cases hcompleting

theorem withHeld (hinv : IngestionInvariant config state)
    {staged : Option (MqttMessage × ℕ)} {acknowledged : List (MqttMessage × ℕ)}
    (hheld : ∀ pair, staged = some pair ∨ pair ∈ acknowledged →
      state.staged = some pair ∨ pair ∈ state.acknowledged) :
    IngestionInvariant config { state with
      staged
      acknowledged := acknowledged } :=
  { hinv with held := fun pair hpair => hinv.held pair (hheld pair hpair) }

theorem appendRecord (hinv : IngestionInvariant config state)
    {message : MqttMessage} {receivedAt : Instant} {work : PersistenceWork F}
    (hdecode : decodeSubmission config.settings config.coercions message.payload
      (some message.topic) receivedAt = .ok work) :
    IngestionInvariant config { state with
      spool := ⟨state.spool.records ++ [state.spool.newRecord
        (entryOf (some (deliveryKey config message)) work)],
        state.spool.nextId + 1⟩
      staged := some (message, state.spool.nextId)
      appended := state.appended ++ [state.spool.newRecord
        (entryOf (some (deliveryKey config message)) work)] } := by
  have hnotCommitted : ¬ state.hasCommit state.spool.nextId := by
    intro hcommit
    exact absurd (hinv.commits_lt _ hcommit) (lt_irrefl _)
  have hcases : ∀ record ∈ state.appended ++ [state.spool.newRecord
      (entryOf (some (deliveryKey config message)) work)],
      record ∈ state.appended ∨ record = state.spool.newRecord
        (entryOf (some (deliveryKey config message)) work) := by
    intro record hrec
    rcases List.mem_append.mp hrec with hold | hnew
    · exact .inl hold
    · exact .inr (List.mem_singleton.mp hnew)
  constructor
  case ids_lt =>
    intro record hrec
    rcases hcases record hrec with hold | hnew
    · exact Nat.lt_succ_of_lt (hinv.ids_lt record hold)
    · rw [hnew]
      exact Nat.lt_succ_self _
  case ids_distinct =>
    rw [List.map_append]
    apply List.nodup_append.mpr
    refine ⟨hinv.ids_distinct, by simp, ?_⟩
    intro recordId hold other hother
    obtain ⟨record, hrec, hid⟩ := List.mem_map.mp hold
    rw [List.map_singleton, List.mem_singleton] at hother
    rw [hother, ← hid]
    exact (hinv.ids_lt record hrec).ne
  case entries_appended =>
    intro entry hmem
    rw [SpoolTable.entries_append] at hmem
    rcases List.mem_append.mp hmem with hold | hnew
    · obtain ⟨record, hrec, heq⟩ := hinv.entries_appended entry hold
      exact ⟨record, List.mem_append_left _ hrec, heq⟩
    · rw [List.mem_singleton] at hnew
      rw [hnew]
      exact ⟨_, List.mem_append_right _ (List.mem_singleton_self _), rfl⟩
  case decoded =>
    intro record hrec
    rcases hcases record hrec with hold | hnew
    · exact hinv.decoded record hold
    · rw [hnew]
      exact ⟨work, _, _, _, _, decodeSubmission_decoded hdecode, rfl⟩
  case events_distinct => exact hinv.events_distinct
  case deadLetters_eq => exact hinv.deadLetters_eq
  case sampled =>
    intro record hrec hmem
    rcases hcases record hrec with hold | hnew
    · exact hinv.sampled record hold hmem
    · rw [hnew] at hmem
      exact absurd (Or.inl hmem) hnotCommitted
  case commits_lt =>
    intro recordId hcommit
    exact Nat.lt_succ_of_lt (hinv.commits_lt recordId hcommit)
  case waiting =>
    intro entry hmem hother
    rw [SpoolTable.entries_append] at hmem
    rcases List.mem_append.mp hmem with hold | hnew
    · exact hinv.waiting entry hold hother
    · rw [List.mem_singleton] at hnew
      rw [hnew]
      by_contra hletters
      exact hnotCommitted (.inr hletters)
  case completing_lt =>
    intro recordId hcompleting
    exact Nat.lt_succ_of_lt (hinv.completing_lt recordId hcompleting)
  case completing =>
    intro record hrec hcompleting
    rcases hcases record hrec with hold | hnew
    · exact hinv.completing record hold hcompleting
    · rw [hnew] at hcompleting
      exact absurd (hinv.completing_lt _ hcompleting) (lt_irrefl _)
  case drained =>
    intro record hrec
    unfold IngestionState.inSpool
    rw [SpoolTable.entries_append]
    rcases hcases record hrec with hold | hnew
    · rcases hinv.drained record hold with hin | hout
      · exact .inl (List.mem_append_left _ hin)
      · exact .inr hout
    · left
      rw [hnew]
      exact List.mem_append_right _ (List.mem_singleton_self _)
  case held =>
    intro pair hpair
    rcases hpair with hstaged | hold
    · rw [Option.some.injEq] at hstaged
      refine ⟨_, List.mem_append_right _ (List.mem_singleton_self _), ?_, ?_⟩
      · rw [← hstaged]
        rfl
      · rw [← hstaged]
        exact ⟨receivedAt, work, hdecode, rfl, newRecord_sharesKey config _ _ _⟩
    · obtain ⟨record, hrec, hcarries⟩ := hinv.held pair (.inr hold)
      exact ⟨record, List.mem_append_left _ hrec, hcarries⟩

theorem findRecord (hinv : IngestionInvariant config state)
    {message : MqttMessage} {receivedAt : Instant} {work : PersistenceWork F}
    (hdecode : decodeSubmission config.settings config.coercions message.payload
      (some message.topic) receivedAt = .ok work) (hrow : row ∈ state.spool.records)
    (hshares : row.sharesKey (entryOf (some (deliveryKey config message)) work) = true)
    (hpayload : row.payload = (entryOf (some (deliveryKey config message)) work).payload) :
    IngestionInvariant config
      { state with staged := some (message, row.recordId) } := by
  refine { hinv with held := ?_ }
  intro pair hpair
  rcases hpair with hstaged | hold
  · rw [Option.some.injEq] at hstaged
    obtain ⟨record, hrec, hid, _⟩ := hinv.row_decodes hrow
    have hent := hinv.entry_eq hrow hrec hid
    rw [← hstaged]
    refine ⟨record, hrec, hid, receivedAt, work, hdecode, ?_, ?_⟩
    · rw [← hent]
      exact hpayload
    · unfold SpoolRecord.sharesKey at hshares ⊢
      rw [← hent]
      exact hshares
  · exact hinv.held pair (.inr hold)

theorem deliver (hinv : IngestionInvariant config state)
    (hstaged : state.staged = none) (choice : SqliteChoice)
    (message : MqttMessage) (receivedAt : Instant) :
    IngestionInvariant config (state.deliver config choice message receivedAt) := by
  unfold IngestionState.deliver
  cases hstage : stageMqttPayload config choice state.spool message receivedAt with
  | error error => exact hinv
  | ok outcome =>
    obtain ⟨spool, result⟩ := outcome
    dsimp only
    rcases stageMqttPayload_cases hstage with ⟨hnot, hsame⟩ |
      ⟨hyes, work, recordId, hdecode, hid, hdone⟩
    · rw [hnot, hsame, List.drop_length, List.append_nil]
      rw [if_neg Bool.false_ne_true, ← hstaged]
      exact hinv
    · rw [hyes, if_pos rfl, hid, Option.map_some]
      rcases hdone with ⟨hsame, row, hrow, hrowId, hshares, hpayload⟩ |
        ⟨hnew, hnext⟩
      · rw [hsame, List.drop_length, List.append_nil, ← hrowId]
        exact hinv.findRecord hdecode hrow hshares hpayload
      · rw [hnext, hnew]
        dsimp only
        rw [List.drop_left]
        exact hinv.appendRecord hdecode

/-! ## A turn of the worker -/

variable {attempt : PersistAttempt F}

theorem persist (hinv : IngestionInvariant config state) (hphase : state.phase = .idle)
    (hrow : row ∈ state.spool.records)
    (hrejection : attempt.rejection.isSome → attempt.fate ≠ .refused →
      row.recordId ∉ state.sampleCommits)
    (hfate : attempt.fate = .acknowledgementLost →
      row.workType = .telemetry ∧ attempt.rejection = none) :
    IngestionInvariant config (state.persist config attempt row) := by
  obtain ⟨record, hrec, hid, work, hstaged, hdecodes⟩ := hinv.row_decodes hrow
  unfold IngestionState.persist
  rw [hdecodes]
  dsimp only
  cases work with
  | telemetry work =>
    cases hverdict : attempt.rejection with
    | none =>
      unfold persistWork
      rw [hverdict]
      dsimp only
      cases hpers : persistVia attempt.path state.database
          attempt.allocation work.event work.raw with
      | error error => exact hinv.retry _ _
      | ok outcome =>
        obtain ⟨tables, isNew⟩ := outcome
        have hcommit := hinv.commitSample hphase hrow hdecodes hpers
        have hstores := (persistVia_grows hpers).2
        dsimp only
        cases attempt.fate with
        | refused => exact hinv.retry _ _
        | acknowledgementLost => exact hcommit.retry _ _
        | committed =>
          dsimp only
          split_ifs
          · exact hcommit.toCompleting hphase hrow hdecodes hstores
          · exact hcommit.retry _ _
    | some rejection =>
      obtain ⟨reasonCode, reasonDetail⟩ := rejection
      unfold persistWork
      rw [hverdict]
      dsimp only
      cases hcomm : attempt.fate with
      | refused => exact hinv.retry _ _
      | acknowledgementLost =>
        obtain ⟨_, hnone⟩ := hfate hcomm
        rw [hverdict] at hnone
        cases hnone
      | committed =>
        have hnotSampled : row.recordId ∉ state.sampleCommits := by
          apply hrejection
          · rw [hverdict]
            rfl
          · rw [hcomm]
            exact nofun
        apply hinv.commitDeadLetter hphase hrow _ hnotSampled
        intro next other hsame hnot hletters
        unfold IngestionState.OneOutcome
        rw [hsame, hdecodes]
        right
        exact ⟨hnot, _, _, _, hletters⟩
  | deadLetter work =>
    have hworkType : row.workType = .deadLetter := by
      obtain ⟨payload, topic, receivedAt, key, _, hent⟩ := hstaged
      have hrowEntry := hinv.entry_eq hrow hrec hid
      rw [hrowEntry, hent]
      rfl
    have hnotSampled : row.recordId ∉ state.sampleCommits := by
      intro hmem
      rw [← hid] at hmem
      obtain ⟨other, hother, _⟩ := hinv.sampled record hrec hmem
      rw [hstaged.decodes] at hother
      cases hother
    unfold persistWork
    dsimp only
    cases hcomm : attempt.fate with
    | refused => exact hinv.retry _ _
    | acknowledgementLost =>
      obtain ⟨htelemetry, _⟩ := hfate hcomm
      rw [hworkType] at htelemetry
      cases htelemetry
    | committed =>
      apply hinv.commitDeadLetter hphase hrow _ hnotSampled
      intro next other hsame hnot hletters
      unfold IngestionState.OneOutcome
      rw [hsame, hdecodes]
      exact ⟨hnot, _, hletters⟩

theorem persist_replay (hinv : IngestionInvariant config state) (hphase : state.phase = .idle)
    (hrow : row ∈ state.spool.records)
    (hrejection : attempt.rejection.isSome → attempt.fate ≠ .refused →
      row.recordId ∉ state.sampleCommits)
    (hcommit : state.hasCommit row.recordId) :
    (state.persist config attempt row).database = state.database := by
  have hent : (row.recordId, row.toSpoolEntry) ∈ state.spool.entries :=
    List.mem_map_of_mem hrow
  have hnone : state.deadLettersOf row.recordId = [] := by
    apply hinv.waiting _ hent
    rw [hphase]
    exact nofun
  have hmem : row.recordId ∈ state.sampleCommits :=
    hcommit.resolve_right (not_not.mpr hnone)
  obtain ⟨record, hrec, hid, staged, hstaged, hdecodes⟩ := hinv.row_decodes hrow
  rw [← hid] at hmem
  obtain ⟨work, hwork, hstores⟩ := hinv.sampled record hrec hmem
  rw [hstaged.decodes, Except.ok.injEq] at hwork
  rw [hwork] at hdecodes
  have hretry : ∀ other : IngestionState F,
      (other.retry attempt row.recordId).database = other.database := by
    intro other
    unfold IngestionState.retry
    split_ifs <;> rfl
  unfold IngestionState.persist persistWork
  rw [hdecodes]
  dsimp only
  cases hverdict : attempt.rejection with
  | none =>
    rw [persistVia_stored hstores attempt.path attempt.allocation work.raw]
    dsimp only
    cases attempt.fate with
    | refused => exact hretry state
    | acknowledgementLost => exact hretry _
    | committed =>
      dsimp only
      split_ifs
      · rfl
      · exact hretry _
  | some rejection =>
    have hrefused : attempt.fate = .refused := by
      by_contra hother
      rw [hid] at hmem
      apply hrejection _ hother hmem
      rw [hverdict]
      rfl
    rw [hrefused]
    exact hretry state

theorem initial : IngestionInvariant config (IngestionState.initial F) := by
  have hnone : ∀ record : SpoolRecord, record ∉ (IngestionState.initial F).appended :=
    fun _ => List.not_mem_nil
  have hempty : ∀ entry, entry ∉ (IngestionState.initial F).spool.entries :=
    fun _ => List.not_mem_nil
  constructor
  case ids_lt => exact fun record hrec => absurd hrec (hnone record)
  case ids_distinct => exact List.nodup_nil
  case entries_appended => exact fun entry hent => absurd hent (hempty entry)
  case decoded => exact fun record hrec => absurd hrec (hnone record)
  case events_distinct => exact List.nodup_nil
  case deadLetters_eq => rfl
  case sampled => exact fun record hrec => absurd hrec (hnone record)
  case commits_lt =>
    rintro recordId (hmem | hletter)
    · exact absurd hmem List.not_mem_nil
    · exact absurd rfl hletter
  case waiting => exact fun entry hent => absurd hent (hempty entry)
  case completing_lt =>
    intro recordId hcompleting
    cases hcompleting
  case completing => exact fun record hrec => absurd hrec (hnone record)
  case drained => exact fun record hrec => absurd hrec (hnone record)
  case held =>
    rintro pair (hstaged | hmem)
    · cases hstaged
    · exact absurd hmem List.not_mem_nil

theorem persist_cases {next : IngestionState F}
    (hstep : ingestionStep config state (.persist attempt) = some next) :
    state.phase = .idle ∧ ∃ row ∈ state.spool.records, state.spool.oldestPending = some row ∧
      next = state.persist config attempt row := by
  unfold ingestionStep at hstep
  dsimp only at hstep
  cases hphase : state.phase with
  | completing recordId =>
    rw [hphase] at hstep
    cases hstep
  | idle =>
    rw [hphase] at hstep
    cases holdest : state.spool.oldestPending with
    | none =>
      rw [holdest] at hstep
      cases hstep
    | some row =>
      rw [holdest, Option.some.injEq] at hstep
      have hmem := SpoolTable.oldestPending_spec holdest
      exact ⟨rfl, row, (List.mem_filter.mp hmem).1, rfl, hstep.symm⟩

theorem step (hinv : IngestionInvariant config state) {action : SystemAction F}
    {next : IngestionState F} (hsafe : ingestionSafe state action)
    (hstep : ingestionStep config state action = some next) :
    IngestionInvariant config next := by
  cases action with
  | deliver choice message receivedAt =>
    simp only [ingestionStep] at hstep
    split_ifs at hstep with hstaged
    cases hstep
    exact hinv.deliver (Option.not_isSome_iff_eq_none.mp hstaged) _ _ _
  | acknowledge succeeds =>
    simp only [ingestionStep] at hstep
    cases hstaged : state.staged with
    | none =>
      rw [hstaged] at hstep
      cases hstep
    | some pair =>
      rw [hstaged] at hstep
      dsimp only at hstep
      split_ifs at hstep
      · cases hstep
        apply hinv.withHeld
        rintro other (hnone | hmem)
        · cases hnone
        · rcases List.mem_append.mp hmem with hold | hnew
          · exact .inr hold
          · rw [List.mem_singleton] at hnew
            rw [hnew]
            exact .inl hstaged
      · cases hstep
        apply hinv.withHeld
        rintro other (hnone | hmem)
        · cases hnone
        · exact .inr hmem
  | persist attempt =>
    obtain ⟨hphase, row, hrow, holdest, hnext⟩ := persist_cases hstep
    obtain ⟨hrejection, hfate⟩ := hsafe row holdest
    rw [hnext]
    exact hinv.persist hphase hrow hrejection hfate
  | complete succeeds =>
    simp only [ingestionStep] at hstep
    cases hphase : state.phase with
    | idle =>
      rw [hphase] at hstep
      cases hstep
    | completing recordId =>
      rw [hphase] at hstep
      dsimp only at hstep
      cases succeeds with
      | true =>
        rw [if_pos rfl, Option.some.injEq] at hstep
        rw [← hstep]
        exact hinv.completeRecord hphase
      | false =>
        rw [if_neg Bool.false_ne_true, Option.some.injEq] at hstep
        rw [← hstep]
        exact hinv.restart (hsafe rfl)
  | crash =>
    simp only [ingestionStep, Option.some.injEq] at hstep
    rw [← hstep]
    apply (hinv.restart hsafe).withHeld
    rintro other (hnone | hmem)
    · cases hnone
    · exact .inr hmem

theorem exactlyOnce (hinv : IngestionInvariant config state) :
    state.ExactlyOnce config where
  acknowledged pair hpair := by
    obtain ⟨record, hrec, hid, hcarries⟩ := hinv.held pair (.inr hpair)
    exact ⟨record, hrec, hid, hcarries, hinv.drained record hrec⟩
  drained record hrec hgone := by
    apply (hinv.drained record hrec).resolve_left
    intro hin
    obtain ⟨row, hrow, heq⟩ := List.mem_map.mp hin
    rw [Prod.mk.injEq] at heq
    exact hgone row hrow heq.1
  deadLetters_eq := hinv.deadLetters_eq
  replay row attempt next holdest hcommit hsafe hstep := by
    obtain ⟨hphase, other, hrow, hother, hnext⟩ := persist_cases hstep
    rw [holdest, Option.some.injEq] at hother
    obtain ⟨hrejection, _⟩ := hsafe row holdest
    rw [hnext, ← hother]
    rw [← hother] at hrow
    exact hinv.persist_replay hphase hrow hrejection hcommit

end IngestionInvariant

end Model

def committedAttempt : PersistAttempt FloatValue where
  rejection := none
  path := .plain
  allocation := ⟨1, 0⟩
  fate := .committed
  processed := true
  marked := true
  errorText := ""

def invalidMessage : MqttMessage := ⟨asciiBytes "x", "telemetry", 1, 1⟩

/-- A reading whose `after_persist` and `delete` fail and which is persisted
again, before and after a crash; then a rejected message. -/
def replayedReading : List (SystemAction FloatValue) :=
  [.deliver ⟨false, none⟩ (exampleMessage 2 "21") 0, .acknowledge true,
    .persist { committedAttempt with processed := false },
    .persist committedAttempt, .complete false, .persist committedAttempt, .crash,
    .persist committedAttempt, .complete true,
    .deliver ⟨false, none⟩ invalidMessage 0, .acknowledge true,
    .persist committedAttempt, .complete true]

/-- Along every run whose steps are safe, nothing acknowledged is lost and each
record has one outcome. -/
theorem delivery_exactlyOnce {F : Type} [PythonFloat F] (config : StagingConfig F)
    {state : IngestionState F}
    (hreach : Reaches (ingestionStep config) ingestionSafe (.initial F) state) :
    state.ExactlyOnce config := by
  apply IngestionInvariant.exactlyOnce
  apply hreach.invariant
  · intro current action next hinv hsafe hstep
    exact hinv.step hsafe hstep
  · exact .initial

theorem delivery_exactlyOnce_replayed :
    ∃ state, runFrom (ingestionStep exampleConfig) (.initial FloatValue)
        replayedReading = some state ∧
      state.ExactlyOnce exampleConfig := by
  have hsafe : StepsMeet (ingestionStep exampleConfig) ingestionSafe
      (.initial FloatValue) replayedReading := by
    decide +kernel
  have hruns : (runFrom (ingestionStep exampleConfig) (.initial FloatValue)
      replayedReading).isSome = true := by
    decide +kernel
  obtain ⟨state, hstate⟩ := Option.isSome_iff_exists.mp hruns
  exact ⟨state, hstate, delivery_exactlyOnce exampleConfig (.of_stepsMeet hsafe hstate)⟩

def crashedDeadLetter : List (SystemAction FloatValue) :=
  [.deliver ⟨false, none⟩ invalidMessage 0, .acknowledge true,
    .persist committedAttempt, .crash, .persist committedAttempt, .complete true]

theorem IngestionState.OneOutcome.deadLetters_le {F : Type} [PythonFloat F]
    {config : StagingConfig F} {state : IngestionState F} {record : SpoolRecord}
    (hout : state.OneOutcome config record) :
    (state.deadLettersOf record.recordId).length ≤ 1 := by
  unfold OneOutcome at hout
  split at hout
  next => cases hout
  next =>
    rcases hout with ⟨hnone, _⟩ | ⟨_, _, _, _, hletter⟩
    · rw [hnone]
      exact Nat.zero_le 1
    · rw [hletter]
      exact le_rfl
  next =>
    obtain ⟨_, _, hletter⟩ := hout
    rw [hletter]
    exact le_rfl

/-- The record of an acknowledged message leaves two dead letters. -/
theorem deadLetter_twice :
    ¬ ∀ actions state, runFrom (ingestionStep exampleConfig) (.initial FloatValue)
      actions = some state → state.ExactlyOnce exampleConfig := by
  intro hall
  have hrun : ((runFrom (ingestionStep exampleConfig) (.initial FloatValue)
      crashedDeadLetter).map fun state =>
        (state.appended.map SpoolRecord.recordId, state.spool.records.length,
          (state.deadLettersOf 1).length)) = some ([1], 0, 2) := by
    decide +kernel
  obtain ⟨state, hstate, hvalues⟩ := Option.map_eq_some_iff.mp hrun
  rw [Prod.mk.injEq, Prod.mk.injEq] at hvalues
  obtain ⟨happended, hempty, htwice⟩ := hvalues
  obtain ⟨record, hsingle, hid⟩ := List.map_eq_singleton_iff.mp happended
  have hrec : record ∈ state.appended := by
    rw [hsingle]
    exact List.mem_singleton_self record
  have hgone : ∀ row ∈ state.spool.records, row.recordId ≠ record.recordId := by
    rw [List.length_eq_zero_iff.mp hempty]
    intro row hrow
    cases hrow
  have hout := (hall _ state hstate).drained record hrec hgone
  have hone := hout.deadLetters_le
  rw [hid, htwice] at hone
  exact absurd hone (by decide)

end Nexolab
