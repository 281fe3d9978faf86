import Nexolab.IngestionDecode
import Nexolab.TransitionSystem

/-!
# Staging MQTT deliveries

The MQTT callback stages one message at a time and tries again until the spool
takes it; meanwhile only the persistence worker changes the spool.  Records the
worker marked terminal keep their keys and their share of the capacity, so a
delivery can be staged after the pending records have been drained exactly when
the terminal records do not block it.
-/

namespace Nexolab

structure MqttMessage where
  payload : Bytes
  topic : String
  (mid qos : ℕ)

structure StagingConfig (F : Type) where
  settings : IngestionSettings
  coercions : Coercions F
  limits : SpoolLimits
  mqttClientId : String
  /-- The hexadecimal SHA-256 digest of a payload. -/
  digest : Bytes → String

structure DurableStageResult where
  (staged accepted duplicate : Bool)
  recordId : Option ℕ
  error : Option String

section Staging

variable {F : Type} [PythonFloat F]

omit [PythonFloat F] in
def deliveryKey (config : StagingConfig F) (message : MqttMessage) : String :=
  config.mqttClientId ++ ":" ++ message.topic ++ ":" ++ toString message.mid ++
    ":" ++ toString message.qos ++ ":" ++ config.digest message.payload

omit [PythonFloat F] in
def PersistenceWork.accepted : PersistenceWork F → Bool
  | .telemetry _ => true
  | .deadLetter _ => false

def stageMqttPayload (config : StagingConfig F) (choice : SqliteChoice)
    (table : SpoolTable) (message : MqttMessage) (receivedAt : Instant) :
    Except UncaughtError (SpoolTable × DurableStageResult) :=
  match decodeSubmission config.settings config.coercions message.payload
      (some message.topic) receivedAt with
  | .error error => .error error
  | .ok work =>
    match stagedEntry (some (deliveryKey config message)) work with
    | .error valueError => .error (.value valueError)
    | .ok entry =>
      match table.append config.limits choice entry with
      | .error error => .ok (table, ⟨false, false, false, none, some error.text⟩)
      | .ok (staged, result) =>
        .ok (staged, ⟨true, work.accepted, result.duplicate, some result.recordId, none⟩)

/-- What the worker does with the oldest pending record. -/
inductive DrainAction where
  | complete
  | retry (message : String)
  | quarantine (message : String)

omit [PythonFloat F] in
def SpoolTable.drain (table : SpoolTable) (action : DrainAction) : SpoolTable :=
  match table.oldestPending with
  | none => table
  | some record =>
    match action with
    | .complete => table.delete record.recordId
    | .retry message => table.markAttempt record.recordId message
    | .quarantine message => table.markTerminal record.recordId message

inductive SpoolMove where
  | deliver (choice : SqliteChoice) (message : MqttMessage) (receivedAt : Instant)
  | drain (action : DrainAction)

def spoolStep (config : StagingConfig F) (table : SpoolTable) :
    SpoolMove → Option SpoolTable
  | .deliver choice message receivedAt =>
    match stageMqttPayload config choice table message receivedAt with
    | .error _ => none
    | .ok (next, _) => some next
  | .drain action => some (table.drain action)

def ReachableSpool (config : StagingConfig F) (table : SpoolTable) : Prop :=
  Reaches (spoolStep config) (fun _ _ => True) .empty table

/-- What happens around each attempt to stage one delivery: the worker's actions
before it, the decisions of SQLite and the time of the attempt. -/
structure StagingSchedule where
  drained : ℕ → List DrainAction
  choice : ℕ → SqliteChoice
  receivedAt : ℕ → Instant

omit [PythonFloat F] in
def tableAt (schedule : StagingSchedule) (table : SpoolTable) : ℕ → SpoolTable
  | 0 => (schedule.drained 0).foldl SpoolTable.drain table
  | attempt + 1 => (schedule.drained (attempt + 1)).foldl SpoolTable.drain
      (tableAt schedule table attempt)

def stagingAttempt (config : StagingConfig F) (schedule : StagingSchedule)
    (table : SpoolTable) (message : MqttMessage) (attempt : ℕ) :
    Except UncaughtError (SpoolTable × DurableStageResult) :=
  stageMqttPayload config (schedule.choice attempt)
    (tableAt schedule table attempt) message (schedule.receivedAt attempt)

end Staging

def DrainAction.settles : DrainAction → Bool
  | .complete => true
  | .retry _ => false
  | .quarantine _ => true

/-- The worker settles records again and again, and SQLite does not refuse for
ever. -/
structure StagingSchedule.Fair (schedule : StagingSchedule) : Prop where
  drains : ∀ attempt, ∃ later, attempt ≤ later ∧
    ∃ action ∈ schedule.drained later, action.settles = true
  accepts : ∀ attempt, ∃ later, attempt ≤ later ∧ (schedule.choice later).failure = none

namespace SpoolTable

def pendingCount (table : SpoolTable) : ℕ :=
  (table.records.filter SpoolRecord.isPending).length

variable {table : SpoolTable}

theorem oldestPending_spec {record : SpoolRecord} (hrec : table.oldestPending = some record) :
    record ∈ table.records.filter SpoolRecord.isPending := by
  have hmem : record ∈ table.records := List.mem_of_find?_eq_some hrec
  have hpend : record.isPending = true := List.find?_some hrec
  exact List.mem_filter.mpr ⟨hmem, hpend⟩

theorem settled_lt {records : List SpoolRecord} {record : SpoolRecord}
    (hrec : record ∈ records.filter SpoolRecord.isPending) :
    ((records.filter SpoolRecord.isPending).filter
      fun other => other.recordId ≠ record.recordId).length <
      (records.filter SpoolRecord.isPending).length := by
  apply List.length_filter_lt_length_iff_exists.mpr
  exact ⟨record, hrec, by simp⟩

theorem pending_delete (table : SpoolTable) (recordId : ℕ) :
    (table.delete recordId).records.filter SpoolRecord.isPending =
      (table.records.filter SpoolRecord.isPending).filter
        fun other => other.recordId ≠ recordId := by
  unfold delete
  rw [List.filter_comm]

theorem pendingCount_markAttempt (table : SpoolTable) (recordId : ℕ) (message : String) :
    (table.markAttempt recordId message).pendingCount = table.pendingCount := by
  unfold markAttempt updatePending pendingCount
  rw [List.filter_map, List.length_map]
  congr 2
  funext record
  simp only [Function.comp_apply]
  split_ifs <;> rfl

theorem pendingCount_markTerminal (table : SpoolTable) (recordId : ℕ) (message : String) :
    (table.markTerminal recordId message).pendingCount =
      ((table.records.filter SpoolRecord.isPending).filter
        fun other => other.recordId ≠ recordId).length := by
  unfold markTerminal updatePending pendingCount
  rw [List.filter_map, List.length_map, List.filter_filter]
  congr 2
  funext record
  simp only [Function.comp_apply]
  split_ifs with hsettled
  · simp [SpoolRecord.isPending, hsettled.1]
  · by_cases hid : record.recordId = recordId
    · have hterm : record.isPending = false := by
        by_contra hpend
        exact hsettled ⟨hid, by simpa using hpend⟩
      simp [hid, hterm]
    · simp [hid]

theorem drain_pendingCount (table : SpoolTable) (action : DrainAction) :
    (table.drain action).pendingCount ≤ table.pendingCount ∧
      (action.settles = true → 0 < table.pendingCount →
        (table.drain action).pendingCount < table.pendingCount) := by
  unfold drain
  cases holdest : table.oldestPending with
  | none =>
    refine ⟨le_rfl, fun _ hpositive => ?_⟩
    have hempty : table.records.filter SpoolRecord.isPending = [] := by
      rw [List.filter_eq_nil_iff]
      intro record hrec
      exact List.find?_eq_none.mp holdest record hrec
    unfold pendingCount at hpositive
    rw [hempty] at hpositive
    cases hpositive
  | some record =>
    have hsettled := settled_lt (oldestPending_spec holdest)
    cases action with
    | complete =>
      have hlt : (table.delete record.recordId).pendingCount < table.pendingCount := by
        unfold pendingCount
        rw [pending_delete]
        exact hsettled
      exact ⟨hlt.le, fun _ _ => hlt⟩
    | retry message =>
      exact ⟨(pendingCount_markAttempt table record.recordId message).le, nofun⟩
    | quarantine message =>
      have hlt : (table.markTerminal record.recordId message).pendingCount <
          table.pendingCount := by
        rw [pendingCount_markTerminal]
        exact hsettled
      exact ⟨hlt.le, fun _ _ => hlt⟩

theorem oldestPending_of_drained
    (hdrained : table.pendingCount = 0) : table.oldestPending = none := by
  have hempty : table.records.filter SpoolRecord.isPending = [] :=
    List.length_eq_zero_iff.mp hdrained
  unfold oldestPending
  rw [List.find?_eq_none]
  intro record hrec
  exact List.filter_eq_nil_iff.mp hempty record hrec

theorem drains_of_drained (hdrained : table.pendingCount = 0)
    (actions : List DrainAction) : actions.foldl drain table = table := by
  induction actions with
  | nil => rfl
  | cons action rest ih =>
    have haction : table.drain action = table := by
      unfold drain
      rw [oldestPending_of_drained hdrained]
    rw [List.foldl_cons, haction]
    exact ih

theorem drains_pendingCount (table : SpoolTable) (actions : List DrainAction) :
    (actions.foldl drain table).pendingCount ≤ table.pendingCount ∧
      ((∃ action ∈ actions, action.settles = true) → 0 < table.pendingCount →
        (actions.foldl drain table).pendingCount < table.pendingCount) := by
  induction actions generalizing table with
  | nil => exact ⟨le_rfl, nofun⟩
  | cons action rest ih =>
    obtain ⟨hle, hlt⟩ := drain_pendingCount table action
    obtain ⟨hrestLe, hrestLt⟩ := ih (table.drain action)
    rw [List.foldl_cons]
    refine ⟨hrestLe.trans hle, ?_⟩
    rintro ⟨settling, hmem, hsettles⟩ hpositive
    rcases List.mem_cons.mp hmem with rfl | hrest
    · exact hrestLe.trans_lt (hlt hsettles hpositive)
    · by_cases hdrained : 0 < (table.drain action).pendingCount
      · exact (hrestLt ⟨settling, hrest, hsettles⟩ hdrained).trans_le hle
      · omega

end SpoolTable

theorem tableAt_pendingCount_le (schedule : StagingSchedule) (table : SpoolTable)
    {first last : ℕ} (hle : first ≤ last) :
    (tableAt schedule table last).pendingCount ≤ (tableAt schedule table first).pendingCount := by
  induction hle with
  | refl => exact le_rfl
  | step _ ih => exact (SpoolTable.drains_pendingCount _ _).1.trans ih

theorem tableAt_of_drained (schedule : StagingSchedule) {table : SpoolTable}
    (hdrained : table.pendingCount = 0) (attempt : ℕ) :
    tableAt schedule table attempt = table := by
  induction attempt with
  | zero => exact SpoolTable.drains_of_drained hdrained _
  | succ attempt ih =>
    rw [tableAt, ih]
    exact SpoolTable.drains_of_drained hdrained _

theorem exists_drained {schedule : StagingSchedule} (hfair : schedule.Fair) (table : SpoolTable) :
    ∃ attempt, (tableAt schedule table attempt).pendingCount = 0 := by
  have hbelow : ∀ count attempt, (tableAt schedule table attempt).pendingCount ≤ count →
      ∃ later, (tableAt schedule table later).pendingCount = 0 := by
    intro count
    induction count with
    | zero =>
      intro attempt hcount
      exact ⟨attempt, by omega⟩
    | succ count ih =>
      intro attempt hcount
      obtain ⟨later, hlater, haction⟩ := hfair.drains (attempt + 1)
      obtain ⟨before, rfl⟩ : ∃ before, later = before + 1 :=
        ⟨later - 1, by omega⟩
      have hbefore : (tableAt schedule table before).pendingCount ≤ count + 1 :=
        (tableAt_pendingCount_le schedule table (by omega)).trans hcount
      by_cases hpositive : 0 < (tableAt schedule table before).pendingCount
      · apply ih (before + 1)
        have hlt := (SpoolTable.drains_pendingCount
          (tableAt schedule table before) _).2 haction hpositive
        change (List.foldl SpoolTable.drain (tableAt schedule table before)
          (schedule.drained (before + 1))).pendingCount ≤ count
        omega
      · exact ⟨before, by omega⟩
  exact hbelow _ 0 le_rfl

/-! ## What the operations do -/

namespace SpoolTable

theorem findExisting_spec (table : SpoolTable) (lastMatch : Bool) (entry : SpoolEntry) :
    match table.findExisting lastMatch entry with
    | some record => record ∈ table.records ∧ record.sharesKey entry = true
    | none => ∀ record ∈ table.records, record.sharesKey entry = false := by
  have hempty : ∀ found : List SpoolRecord,
      (if lastMatch then found.getLast? else found.head?) = none → found = [] := by
    intro found hnone
    split_ifs at hnone
    · exact List.getLast?_eq_none_iff.mp hnone
    · exact List.head?_eq_none_iff.mp hnone
  have hmem : ∀ (found : List SpoolRecord) (record : SpoolRecord),
      (if lastMatch then found.getLast? else found.head?) = some record → record ∈ found := by
    intro found record hsome
    split_ifs at hsome
    · exact List.mem_of_getLast? hsome
    · exact List.mem_of_head? hsome
  cases hfound : table.findExisting lastMatch entry with
  | none =>
    have hnil := hempty _ hfound
    intro record hrec
    have hnot := List.filter_eq_nil_iff.mp hnil record hrec
    simpa using hnot
  | some record => exact List.mem_filter.mp (hmem _ record hfound)

theorem append_cases {table next : SpoolTable} {limits : SpoolLimits}
    {choice : SqliteChoice} {entry : SpoolEntry} {result : SpoolAppendResult}
    (happ : table.append limits choice entry = .ok (next, result)) :
    (next = table ∧ ∃ record ∈ table.records,
      record.recordId = result.recordId ∧ record.sharesKey entry = true ∧
        record.payload = entry.payload) ∨
    (result.recordId = table.nextId ∧
      next = ⟨table.records ++ [table.newRecord entry], table.nextId + 1⟩) := by
  have hspec := findExisting_spec table choice.lastMatch entry
  unfold append at happ
  cases hfailure : choice.failure with
  | some message =>
    rw [hfailure] at happ
    cases happ
  | none =>
    rw [hfailure] at happ
    dsimp only at happ
    cases hfound : table.findExisting choice.lastMatch entry with
    | some existing =>
      rw [hfound] at hspec happ
      dsimp only at hspec happ
      by_cases hpayload : existing.payload = entry.payload
      · rw [if_pos hpayload, Except.ok.injEq, Prod.mk.injEq] at happ
        obtain ⟨hnext, hres⟩ := happ
        left
        refine ⟨hnext.symm, existing, hspec.1, ?_, hspec.2, hpayload⟩
        rw [← hres]
      · rw [if_neg hpayload] at happ
        cases happ
    | none =>
      rw [hfound] at happ
      dsimp only at happ
      split_ifs at happ
      rw [Except.ok.injEq, Prod.mk.injEq] at happ
      obtain ⟨hnext, hres⟩ := happ
      right
      refine ⟨?_, hnext.symm⟩
      rw [← hres]

theorem entries_markAttempt (table : SpoolTable) (recordId : ℕ) (message : String) :
    (table.markAttempt recordId message).entries = table.entries := by
  unfold markAttempt updatePending entries
  rw [List.map_map]
  congr 1
  funext record
  simp only [Function.comp_apply]
  split_ifs <;> rfl

theorem mem_entries_delete {table : SpoolTable} {recordId : ℕ} {entry : ℕ × SpoolEntry} :
    entry ∈ (table.delete recordId).entries ↔ entry ∈ table.entries ∧ entry.1 ≠ recordId := by
  unfold delete entries
  simp only [List.mem_map, List.mem_filter, decide_eq_true_eq]
  constructor
  · rintro ⟨record, ⟨hrec, hother⟩, rfl⟩
    exact ⟨⟨record, hrec, rfl⟩, hother⟩
  · rintro ⟨⟨record, hrec, rfl⟩, hother⟩
    exact ⟨record, ⟨hrec, hother⟩, rfl⟩

theorem entries_append (table : SpoolTable) (entry : SpoolEntry) (nextId : ℕ) :
    entries ⟨table.records ++ [table.newRecord entry], nextId⟩ =
      table.entries ++ [(table.nextId, entry)] := by
  unfold entries
  rw [List.map_append]
  rfl

end SpoolTable

section Spec

variable {F : Type} [PythonFloat F]

omit [PythonFloat F] in
theorem deliveryKey_normalized (config : StagingConfig F) (message : MqttMessage) :
    (normalizeDeliveryKey (some (deliveryKey config message))).isSome = true := by
  have hcolon : ':' ∈ stripWith (fun char => isPythonSpace char.toNat)
      (deliveryKey config message).toList := by
    apply mem_stripWith
    · simp [deliveryKey]
    · decide
  have hne : stripText (deliveryKey config message) ≠ "" := by
    intro hempty
    have hlist := congrArg String.toList hempty
    unfold stripText at hlist
    rw [String.toList_ofList] at hlist
    rw [hlist] at hcolon
    cases hcolon
  unfold normalizeDeliveryKey
  dsimp only
  rw [if_neg hne]
  rfl

omit [PythonFloat F] in
theorem newRecord_sharesKey (config : StagingConfig F) (table : SpoolTable)
    (message : MqttMessage) (work : PersistenceWork F) :
    (table.newRecord (entryOf (some (deliveryKey config message)) work)).sharesKey
      (entryOf (some (deliveryKey config message)) work) = true := by
  have hkey := deliveryKey_normalized config message
  cases work <;>
    simp [SpoolRecord.sharesKey, SpoolTable.newRecord, entryOf, telemetryEntry,
      deadLetterEntry, hkey]

theorem stageMqttPayload_cases {config : StagingConfig F} {choice : SqliteChoice}
    {table next : SpoolTable} {message : MqttMessage} {receivedAt : Instant}
    {result : DurableStageResult}
    (hstage : stageMqttPayload config choice table message receivedAt = .ok (next, result)) :
    (result.staged = false ∧ next = table) ∨
    (result.staged = true ∧ ∃ work recordId,
      decodeSubmission config.settings config.coercions message.payload
        (some message.topic) receivedAt = .ok work ∧ result.recordId = some recordId ∧
      ((next = table ∧ ∃ record ∈ table.records, record.recordId = recordId ∧
        record.sharesKey (entryOf (some (deliveryKey config message)) work) = true ∧
        record.payload = (entryOf (some (deliveryKey config message)) work).payload) ∨
      (recordId = table.nextId ∧ next = ⟨table.records ++ [table.newRecord
        (entryOf (some (deliveryKey config message)) work)],
        table.nextId + 1⟩))) := by
  unfold stageMqttPayload at hstage
  cases hdecode : decodeSubmission config.settings config.coercions
      message.payload (some message.topic) receivedAt with
  | error error =>
    rw [hdecode] at hstage
    cases hstage
  | ok work =>
    have hent := stagedEntry_decoded (decodeSubmission_decoded hdecode)
      (some (deliveryKey config message))
    rw [hdecode] at hstage
    dsimp only at hstage
    rw [hent] at hstage
    dsimp only at hstage
    cases happ : table.append config.limits choice
        (entryOf (some (deliveryKey config message)) work) with
    | error error =>
      rw [happ, Except.ok.injEq, Prod.mk.injEq] at hstage
      obtain ⟨hnext, hres⟩ := hstage
      left
      rw [← hres]
      exact ⟨rfl, hnext.symm⟩
    | ok appended =>
      obtain ⟨staged, outcome⟩ := appended
      rw [happ, Except.ok.injEq, Prod.mk.injEq] at hstage
      obtain ⟨hnext, hres⟩ := hstage
      right
      rw [← hres, ← hnext]
      exact ⟨rfl, work, outcome.recordId, rfl, rfl, SpoolTable.append_cases happ⟩

end Spec

/-! ## Terminal records -/

namespace SpoolTable

def terminalRecords (table : SpoolTable) : List SpoolRecord :=
  table.records.filter fun record => !record.isPending

/-- The terminal records leave room for an entry: those which share a key with
it hold its payload and, when there are none, the entry fits beside them. -/
structure TerminalAdmits (table : SpoolTable) (limits : SpoolLimits)
    (entry : SpoolEntry) : Prop where
  payload_eq : ∀ record ∈ table.terminalRecords, record.sharesKey entry = true →
    record.payload = entry.payload
  room : (∃ record ∈ table.terminalRecords, record.sharesKey entry = true) ∨
    table.terminalRecords.length < limits.maxRecords ∧
      (table.terminalRecords.map fun record => record.payload.length).sum +
        entry.payload.length ≤ limits.maxBytes

theorem terminalRecords_of_drained {table : SpoolTable} (hdrained : table.pendingCount = 0) :
    table.terminalRecords = table.records := by
  have hempty : table.records.filter SpoolRecord.isPending = [] :=
    List.length_eq_zero_iff.mp hdrained
  unfold terminalRecords
  apply List.filter_eq_self.mpr
  intro record hrec
  have hnot := List.filter_eq_nil_iff.mp hempty record hrec
  simpa using hnot

theorem append_drained {table : SpoolTable} {limits : SpoolLimits}
    {choice : SqliteChoice} {entry : SpoolEntry} (hdrained : table.pendingCount = 0)
    (hadmits : table.TerminalAdmits limits entry) (haccepts : choice.failure = none) :
    ∃ next, table.append limits choice entry = .ok next := by
  obtain ⟨hpayload, hroom⟩ := hadmits
  rw [terminalRecords_of_drained hdrained] at hpayload hroom
  have hspec := findExisting_spec table choice.lastMatch entry
  unfold append
  rw [haccepts]
  dsimp only
  cases hfound : table.findExisting choice.lastMatch entry with
  | some existing =>
    rw [hfound] at hspec
    dsimp only at hspec ⊢
    rw [if_pos (hpayload existing hspec.1 hspec.2)]
    exact ⟨_, rfl⟩
  | none =>
    rw [hfound] at hspec
    dsimp only at hspec ⊢
    rcases hroom with ⟨record, hrec, hshares⟩ | ⟨hcount, hbytes⟩
    · rw [hspec record hrec] at hshares
      cases hshares
    · have hbytesFit : ¬ limits.maxBytes <
          table.payloadBytes + entry.payload.length := not_lt.mpr hbytes
      rw [if_neg (not_le.mpr hcount), if_neg hbytesFit]
      exact ⟨_, rfl⟩

theorem append_conflicting {table : SpoolTable} (limits : SpoolLimits)
    (choice : SqliteChoice) {entry : SpoolEntry}
    (hshared : ∃ record ∈ table.records, record.sharesKey entry = true)
    (hdiffers : ∀ record ∈ table.records, record.sharesKey entry = true →
      record.payload ≠ entry.payload) :
    ∃ error, table.append limits choice entry = .error error := by
  have hspec := findExisting_spec table choice.lastMatch entry
  unfold append
  cases choice.failure with
  | some message => exact ⟨_, rfl⟩
  | none =>
    dsimp only
    cases hfound : table.findExisting choice.lastMatch entry with
    | some existing =>
      rw [hfound] at hspec
      dsimp only at hspec ⊢
      rw [if_neg (hdiffers existing hspec.1 hspec.2)]
      exact ⟨_, rfl⟩
    | none =>
      rw [hfound] at hspec
      obtain ⟨record, hrec, hshares⟩ := hshared
      rw [hspec record hrec] at hshares
      cases hshares

end SpoolTable

def exampleConfig : StagingConfig FloatValue where
  settings := exampleSettings
  coercions := exampleCoercions
  limits := ⟨500000, 1073741824, by decide, by decide⟩
  mqttClientId := "ingestion"
  digest _ := "digest"

def exampleMessage (mid : ℕ) (value : String) : MqttMessage where
  payload := examplePayload firstEventId.text value
  topic := "telemetry"
  mid
  qos := 1

def drainingSchedule : StagingSchedule where
  drained attempt := if attempt = 0 then [] else [.complete]
  choice _ := ⟨false, none⟩
  receivedAt _ := 0

theorem drainingSchedule_fair : drainingSchedule.Fair where
  drains attempt :=
    ⟨attempt + 1, by omega, .complete, by simp [drainingSchedule], rfl⟩
  accepts attempt := ⟨attempt, le_rfl, rfl⟩

/-- Under a fair schedule the staging of a delivery which the terminal records
admit ends. -/
theorem staging_ends {F : Type} [PythonFloat F] (config : StagingConfig F)
    (schedule : StagingSchedule) (table : SpoolTable) (message : MqttMessage)
    (hfair : schedule.Fair)
    (hadmits : ∀ attempt, (tableAt schedule table attempt).pendingCount = 0 →
      ∀ work, decodeSubmission config.settings config.coercions message.payload
          (some message.topic) (schedule.receivedAt attempt) = .ok work →
        (tableAt schedule table attempt).TerminalAdmits config.limits
          (entryOf (some (deliveryKey config message)) work)) :
    ∃ attempt, match stagingAttempt config schedule table message attempt with
      | .error _ => ¬ decodesWithoutException config.settings config.coercions
          message.payload
      | .ok (_, result) => result.staged = true := by
  obtain ⟨drained, hdrained⟩ := exists_drained hfair table
  obtain ⟨attempt, hatt, hfailure⟩ := hfair.accepts drained
  have hpend : (tableAt schedule table attempt).pendingCount = 0 := by
    have hle := tableAt_pendingCount_le schedule table hatt
    omega
  refine ⟨attempt, ?_⟩
  unfold stagingAttempt stageMqttPayload
  cases hdecode : decodeSubmission config.settings config.coercions
      message.payload (some message.topic) (schedule.receivedAt attempt) with
  | error error =>
    intro hdecodes
    obtain ⟨work, hwork⟩ := decodeSubmission_ok_iff.mpr hdecodes
    rw [hdecode] at hwork
    cases hwork
  | ok work =>
    have hent := stagedEntry_decoded (decodeSubmission_decoded hdecode)
      (some (deliveryKey config message))
    obtain ⟨next, hnext⟩ := SpoolTable.append_drained hpend
      (hadmits attempt hpend work hdecode) hfailure
    dsimp only
    rw [hent]
    dsimp only
    rw [hnext]

def pendingSpool : SpoolTable where
  records := [{
    telemetryEntry firstEventId.text (exampleMessage 1 "21").payload
      (some "telemetry") 0 none with
    recordId := 1
    status := .pending
    attempts := 0
    lastError := none }]
  nextId := 2

theorem tableAt_pendingSpool (attempt : ℕ) :
    tableAt drainingSchedule pendingSpool (attempt + 1) = ⟨[], 2⟩ := by
  induction attempt with
  | zero => rfl
  | succ attempt ih =>
    rw [tableAt, ih]
    exact SpoolTable.drains_of_drained rfl _

/-- A reading with the same event identifier and another value is staged once
the pending reading is drained. -/
theorem staging_ends_pendingSpool :
    ∃ attempt, match stagingAttempt exampleConfig drainingSchedule pendingSpool
        (exampleMessage 2 "22") attempt with
      | .error _ => ¬ decodesWithoutException exampleConfig.settings
          exampleConfig.coercions (exampleMessage 2 "22").payload
      | .ok (_, result) => result.staged = true := by
  apply staging_ends exampleConfig drainingSchedule pendingSpool
    (exampleMessage 2 "22") drainingSchedule_fair
  intro attempt hdrained work hdecode
  cases attempt with
  | zero => cases hdrained
  | succ attempt =>
    rw [tableAt_pendingSpool]
    have hlen := entryOf_payload_length_le (decodeSubmission_decoded hdecode)
      (some (deliveryKey exampleConfig (exampleMessage 2 "22")))
    have hmessage : (exampleMessage 2 "22").payload.length ≤ 1073741824 := by
      decide +kernel
    constructor
    · intro record hrec
      cases hrec
    · right
      constructor
      · exact exampleConfig.limits.records_pos
      · change 0 + _ ≤ 1073741824
        omega

def quarantineMoves : List SpoolMove :=
  [.deliver ⟨false, none⟩ (exampleMessage 1 "21") 0,
    .drain (.quarantine "no longer decodable")]

theorem quarantineMoves_records :
    ∃ table record, runFrom (spoolStep exampleConfig) .empty quarantineMoves =
        some table ∧ table.records = [record] ∧ record.status = .terminal ∧
      record.eventId = some firstEventId.text ∧
      record.payload = (exampleMessage 1 "21").payload := by
  have hrun : ((runFrom (spoolStep exampleConfig) .empty quarantineMoves).map
      fun table => table.records.map fun record =>
        (record.status, record.eventId, record.payload)) =
      some [(.terminal, some firstEventId.text, (exampleMessage 1 "21").payload)] := by
    decide +kernel
  obtain ⟨table, htable, hrecords⟩ := Option.map_eq_some_iff.mp hrun
  obtain ⟨record, hsingle, hrec⟩ := List.map_eq_singleton_iff.mp hrecords
  simp only [Prod.mk.injEq] at hrec
  exact ⟨table, record, htable, hsingle, hrec⟩

theorem exampleMessage_decodes (receivedAt : Instant) :
    ∃ work : TelemetryWork FloatValue,
      decodeSubmission exampleConfig.settings exampleConfig.coercions
        (exampleMessage 2 "22").payload (some (exampleMessage 2 "22").topic)
        receivedAt = .ok (.telemetry work) ∧
      work.event.eventId.text = firstEventId.text ∧
      work.payload = (exampleMessage 2 "22").payload := by
  have hzero : (telemetryOf (decodeSubmission exampleConfig.settings
      exampleConfig.coercions (exampleMessage 2 "22").payload
      (some (exampleMessage 2 "22").topic) 0)).any (fun work =>
        work.event.eventId.text = firstEventId.text ∧
          work.payload = (exampleMessage 2 "22").payload) = true := by
    decide +kernel
  rw [Option.any_eq_true] at hzero
  obtain ⟨work, hwork, hfields⟩ := hzero
  rw [telemetryOf_eq_some] at hwork
  exact ⟨_, decodeSubmission_restamp hwork receivedAt, of_decide_eq_true hfields⟩

/-- Once its event identifier belongs to a terminal record with another payload,
a delivery is never staged. -/
theorem staging_never_ends :
    ¬ ∀ table, ReachableSpool exampleConfig table →
      ∀ schedule : StagingSchedule, schedule.Fair → ∀ message,
      ∃ attempt next result,
        stagingAttempt exampleConfig schedule table message attempt =
          .ok (next, result) ∧ result.staged = true := by
  intro hends
  obtain ⟨table, record, hrun, hrecords, hterm, hevent, hpayload⟩ :=
    quarantineMoves_records
  have hreachable : ReachableSpool exampleConfig table :=
    .of_runFrom (fun _ _ _ => trivial) hrun
  have hdrained : table.pendingCount = 0 := by
    simp [SpoolTable.pendingCount, hrecords, SpoolRecord.isPending, hterm]
  obtain ⟨attempt, next, result, hatt, hstaged⟩ :=
    hends table hreachable _ drainingSchedule_fair (exampleMessage 2 "22")
  obtain ⟨work, hdecode, hworkEvent, hworkPayload⟩ :=
    exampleMessage_decodes (drainingSchedule.receivedAt attempt)
  have hent := stagedEntry_decoded (decodeSubmission_decoded hdecode)
    (some (deliveryKey exampleConfig (exampleMessage 2 "22")))
  have hother : (exampleMessage 1 "21").payload ≠
      (exampleMessage 2 "22").payload := by
    decide +kernel
  have hshared : record.sharesKey (entryOf
      (some (deliveryKey exampleConfig (exampleMessage 2 "22")))
      (.telemetry work)) = true := by
    simp [SpoolRecord.sharesKey, entryOf, telemetryEntry, hevent, hworkEvent]
  have hdiffers : record.payload ≠ work.payload := by
    rw [hpayload, hworkPayload]
    exact hother
  obtain ⟨error, herror⟩ : ∃ error, table.append exampleConfig.limits
      (drainingSchedule.choice attempt) (entryOf
        (some (deliveryKey exampleConfig (exampleMessage 2 "22")))
        (.telemetry work)) = .error error := by
    apply SpoolTable.append_conflicting
    · exact ⟨record, by simp [hrecords], hshared⟩
    · intro other hmem _
      rw [hrecords, List.mem_singleton] at hmem
      subst hmem
      exact hdiffers
  unfold stagingAttempt stageMqttPayload at hatt
  rw [tableAt_of_drained _ hdrained, hdecode] at hatt
  dsimp only at hatt
  rw [hent] at hatt
  dsimp only at hatt
  rw [herror] at hatt
  cases hatt
  cases hstaged

end Nexolab
