import Nexolab.SpoolStaging

/-!
# The transactions of the spool

An append opens a transaction, looks for the keys of the entry, checks the totals
of the table, inserts the row and commits; SQLite may refuse each statement.  A
refused statement, a conflict and an exceeded capacity roll the transaction back.
A parameter which cannot be bound raises an exception the append does not handle,
and the transaction stays open, with nothing written in it, until the next
operation ends it.
-/

namespace Nexolab

inductive AppendFailure where
  | beginning (message : String)
  | lookup (message : String)
  /-- A key cannot be bound. -/
  | lookupBinding (message : String)
  | totals (message : String)
  | insertion (message : String)
  /-- A column cannot be bound. -/
  | insertionBinding (message : String)
  | commit (message : String)

structure AppendChoice where
  lastMatch : Bool
  failure : Option AppendFailure

inductive SpoolAppendFault where
  | spool (error : DurableSpoolError)
  | uncaught (message : String)

structure SpoolConnection where
  committed : SpoolTable
  /-- The table as the open transaction sees it. -/
  transaction : Option SpoolTable

structure SpoolStats where
  (pendingRecords terminalRecords payloadBytes maxRecordId : ℕ)

def SpoolStats.totalRecords (stats : SpoolStats) : ℕ :=
  stats.pendingRecords + stats.terminalRecords

def SpoolTable.stats (table : SpoolTable) : SpoolStats where
  pendingRecords := table.records.countP SpoolRecord.isPending
  terminalRecords := table.records.countP fun record => ! record.isPending
  payloadBytes := (table.records.map fun record => record.payload.length).sum
  maxRecordId := (table.records.map fun record => record.recordId).foldl max 0

namespace SpoolTable

theorem totalRecords_stats (table : SpoolTable) :
    table.stats.totalRecords = table.records.length := by
  have hnegated : (fun record : SpoolRecord => ! record.isPending) =
      fun record => decide ¬ record.isPending = true := by
    funext record
    cases record.isPending with
    | false => rfl
    | true => rfl
  change table.records.countP SpoolRecord.isPending +
    table.records.countP (fun record => ! record.isPending) = _
  rw [hnegated]
  exact (List.length_eq_countP_add_countP SpoolRecord.isPending).symm

end SpoolTable

namespace SpoolConnection

def fresh : SpoolConnection := ⟨.empty, none⟩

variable (connection : SpoolConnection)

def view : SpoolTable := connection.transaction.getD connection.committed

def rollback : SpoolConnection := ⟨connection.committed, none⟩

def refusedAppend (message : String) :
    Except SpoolAppendFault SpoolAppendResult × SpoolConnection :=
  (.error (.spool (.sqlite ("failed to append ingestion work: " ++ message))),
    connection.rollback)

def committing (failure : Option AppendFailure) (table : SpoolTable) (result : SpoolAppendResult) :
    Except SpoolAppendFault SpoolAppendResult × SpoolConnection :=
  match failure with
  | some (.commit message) => connection.refusedAppend message
  | _ => (.ok result, ⟨table, none⟩)

/-- A unique index or a check refused the row: the keys are looked up again. -/
def integrityError (choice : AppendChoice) (entry : SpoolEntry) :
    Except SpoolAppendFault SpoolAppendResult × SpoolConnection :=
  match connection.committed.findExisting choice.lastMatch entry with
  | some existing =>
    if existing.payload ≠ entry.payload then
      (.error (.spool .conflict), connection.rollback)
    else (.ok ⟨existing.recordId, true⟩, connection.rollback)
  | none => (.error (.spool (.sqlite "ingestion spool uniqueness conflict")),
      connection.rollback)

/-- The insertion of a row under the identifier which is drawn next. -/
def inserting (choice : AppendChoice) (table : SpoolTable) (entry : SpoolEntry) :
    Except SpoolAppendFault SpoolAppendResult × SpoolConnection :=
  match choice.failure with
  | some (.insertion message) => connection.refusedAppend message
  | some (.insertionBinding message) =>
    (.error (.uncaught message), ⟨connection.committed, some table⟩)
  | failure =>
    if ∃ record ∈ table.records, record.sharesKey entry = true then
      connection.integrityError choice entry
    else connection.committing failure
      ⟨table.records ++ [table.newRecord entry], table.nextId + 1⟩
      ⟨table.nextId, false⟩

def append (limits : SpoolLimits) (choice : AppendChoice) (entry : SpoolEntry) :
    Except SpoolAppendFault SpoolAppendResult × SpoolConnection :=
  match connection.transaction, choice.failure with
  | some _, _ =>
    connection.refusedAppend "cannot start a transaction within a transaction"
  | none, some (.beginning message) => connection.refusedAppend message
  | none, some (.lookup message) => connection.refusedAppend message
  | none, some (.lookupBinding message) =>
    (.error (.uncaught message), ⟨connection.committed, some connection.committed⟩)
  | none, failure =>
    let table := connection.committed
    match table.findExisting choice.lastMatch entry with
    | some existing =>
      if existing.payload ≠ entry.payload then
        (.error (.spool .conflict), connection.rollback)
      else connection.committing failure table ⟨existing.recordId, true⟩
    | none =>
      match failure with
      | some (.totals message) => connection.refusedAppend message
      | _ =>
        if limits.maxRecords ≤ table.stats.totalRecords then
          (.error (.spool (.recordCapacity limits.maxRecords)), connection.rollback)
        else if limits.maxBytes <
            table.stats.payloadBytes + entry.payload.length then
          (.error (.spool (.byteCapacity limits.maxBytes)), connection.rollback)
        else connection.inserting choice table entry

/-- A statement which `with connection` commits, in the transaction which is open
or in one of its own, or rolls back. -/
def write (fails : Bool) (change : SpoolTable → SpoolTable) : SpoolConnection :=
  if fails then connection.rollback else ⟨change connection.view, none⟩

end SpoolConnection

inductive SpoolCommand where
  | append (choice : AppendChoice) (entry : SpoolEntry)
  /-- The record is complete. -/
  | delete (recordId : ℕ) (fails : Bool)
  | markAttempt (recordId : ℕ) (message : String) (fails : Bool)
  | markTerminal (recordId : ℕ) (message : String) (fails : Bool)
  /-- The process starts again. -/
  | reopen

namespace SpoolConnection

def step (limits : SpoolLimits) (connection : SpoolConnection) :
    SpoolCommand → Option SpoolConnection
  | .append choice entry => some (connection.append limits choice entry).2
  | .delete recordId fails =>
    some (connection.write fails fun table => table.delete recordId)
  | .markAttempt recordId message fails =>
    some (connection.write fails fun table => table.markAttempt recordId message)
  | .markTerminal recordId message fails =>
    some (connection.write fails fun table => table.markTerminal recordId message)
  | .reopen => some connection.rollback

def Unwritten (connection : SpoolConnection) : Prop :=
  ∀ table ∈ connection.transaction, table = connection.committed

variable {limits : SpoolLimits} {connection : SpoolConnection}

theorem Unwritten.view_eq (hunwritten : connection.Unwritten) :
    connection.view = connection.committed := by
  unfold view
  cases htransaction : connection.transaction with
  | none => rfl
  | some table => exact hunwritten table htransaction

theorem unwritten_none (table : SpoolTable) : Unwritten ⟨table, none⟩ :=
  fun _ hnone => by cases hnone

theorem unwritten_same (table : SpoolTable) : Unwritten ⟨table, some table⟩ :=
  fun _ hsame => (Option.some.inj hsame).symm

/-- The row of the entry is new and within the capacities. -/
structure Admits (limits : SpoolLimits) (table : SpoolTable) (entry : SpoolEntry) :
    Prop where
  unshared : ∀ record ∈ table.records, record.sharesKey entry = false
  records_lt : table.stats.totalRecords < limits.maxRecords
  bytes_le : table.stats.payloadBytes + entry.payload.length ≤ limits.maxBytes

def inserted (table : SpoolTable) (entry : SpoolEntry) : SpoolTable :=
  ⟨table.records ++ [table.newRecord entry], table.nextId + 1⟩

/-- Nothing is committed and nothing stays written in an open transaction. -/
def Keeps (connection next : SpoolConnection) : Prop :=
  next.committed = connection.committed ∧ next.Unwritten

theorem keeps_rollback (connection : SpoolConnection) :
    connection.Keeps connection.rollback := ⟨rfl, unwritten_none _⟩

theorem committing_cases (connection : SpoolConnection)
    (failure : Option AppendFailure) (table : SpoolTable) (result : SpoolAppendResult) :
    connection.Keeps (connection.committing failure table result).2 ∨
      connection.committing failure table result = (.ok result, ⟨table, none⟩) := by
  unfold committing
  split
  · exact .inl connection.keeps_rollback
  · exact .inr rfl

theorem integrityError_keeps (connection : SpoolConnection) (choice : AppendChoice)
    (entry : SpoolEntry) :
    connection.Keeps (connection.integrityError choice entry).2 := by
  unfold integrityError
  split
  · split
    · exact connection.keeps_rollback
    · exact connection.keeps_rollback
  · exact connection.keeps_rollback

theorem inserting_cases (connection : SpoolConnection) (choice : AppendChoice)
    (entry : SpoolEntry) :
    connection.Keeps (connection.inserting choice connection.committed entry).2 ∨
      (∀ record ∈ connection.committed.records, record.sharesKey entry = false) ∧
        connection.inserting choice connection.committed entry =
          (.ok ⟨connection.committed.nextId, false⟩,
            ⟨inserted connection.committed entry, none⟩) := by
  unfold inserting
  split
  · exact .inl connection.keeps_rollback
  · exact .inl ⟨rfl, unwritten_same _⟩
  · split
    · exact .inl (connection.integrityError_keeps choice entry)
    next hunshared =>
      rcases connection.committing_cases choice.failure
        (inserted connection.committed entry) ⟨connection.committed.nextId, false⟩ with
        hkeeps | hcomm
      · exact .inl hkeeps
      · refine .inr ⟨?_, hcomm⟩
        intro record hrec
        rw [← Bool.not_eq_true]
        intro hshares
        exact hunshared ⟨record, hrec, hshares⟩

theorem append_cases (limits : SpoolLimits) (choice : AppendChoice)
    (entry : SpoolEntry) (connection : SpoolConnection) :
    connection.Keeps (connection.append limits choice entry).2 ∨
      Admits limits connection.committed entry ∧
        connection.append limits choice entry = (.ok ⟨connection.committed.nextId, false⟩,
            ⟨inserted connection.committed entry, none⟩) := by
  unfold append
  split
  · exact .inl connection.keeps_rollback
  · exact .inl connection.keeps_rollback
  · exact .inl connection.keeps_rollback
  · exact .inl ⟨rfl, unwritten_same _⟩
  next htransaction _ _ _ =>
    dsimp only
    split
    · split
      · exact .inl connection.keeps_rollback
      · rcases connection.committing_cases choice.failure connection.committed
          ⟨_, true⟩ with hkeeps | hcomm
        · exact .inl hkeeps
        · rw [hcomm]
          exact .inl ⟨rfl, unwritten_none _⟩
    · split
      · exact .inl connection.keeps_rollback
      · split_ifs with hrecords hbytes
        · exact .inl connection.keeps_rollback
        · exact .inl connection.keeps_rollback
        · rcases connection.inserting_cases choice entry with
            hkeeps | ⟨hunshared, hinserted⟩
          · exact .inl hkeeps
          · exact .inr ⟨⟨hunshared, not_le.mp hrecords, not_lt.mp hbytes⟩, hinserted⟩

end SpoolConnection

namespace SpoolConnection

end SpoolConnection

/-! ## Sound tables -/

namespace SpoolTable

/-- The accounting, the order and the keys of a table. -/
structure Sound (limits : SpoolLimits) (table : SpoolTable) : Prop where
  ordered : table.records.Pairwise fun earlier later =>
    earlier.recordId < later.recordId
  numbered : ∀ record ∈ table.records, record.recordId < table.nextId
  event_unique : table.records.Pairwise fun earlier later =>
    ∀ eventId, earlier.eventId = some eventId → later.eventId ≠ some eventId
  delivery_unique : table.records.Pairwise fun earlier later =>
    ∀ key, earlier.deliveryKey = some key → later.deliveryKey ≠ some key
  records_le : table.records.length ≤ limits.maxRecords
  bytes_le : table.stats.payloadBytes ≤ limits.maxBytes

theorem entries_updatePending (table : SpoolTable) (recordId : ℕ)
    {change : SpoolRecord → SpoolRecord}
    (hid : ∀ record, (change record).recordId = record.recordId)
    (hent : ∀ record, (change record).toSpoolEntry = record.toSpoolEntry) :
    (table.updatePending recordId change).entries = table.entries := by
  unfold updatePending entries
  rw [List.map_map]
  apply List.map_congr_left
  intro record _
  simp only [Function.comp_apply]
  split_ifs
  · rw [hid, hent]
  · rfl

namespace Sound

variable {limits : SpoolLimits} {table next : SpoolTable}

theorem empty (limits : SpoolLimits) : Sound limits .empty where
  ordered := List.Pairwise.nil
  numbered _ hrec := absurd hrec List.not_mem_nil
  event_unique := List.Pairwise.nil
  delivery_unique := List.Pairwise.nil
  records_le := Nat.zero_le _
  bytes_le := Nat.zero_le _

theorem of_entries (hsound : Sound limits table)
    (hents : next.entries = table.entries) (hnext : next.nextId = table.nextId) :
    Sound limits next := by
  have hbytes : ∀ other : SpoolTable, other.stats.payloadBytes =
      (other.entries.map fun entry => entry.2.payload.length).sum := by
    intro other
    unfold entries
    rw [List.map_map]
    rfl
  have hpairwise : ∀ (p : ℕ × SpoolEntry → ℕ × SpoolEntry → Prop)
      (other : SpoolTable), other.entries.Pairwise p ↔ other.records.Pairwise fun earlier later =>
          p (earlier.recordId, earlier.toSpoolEntry) (later.recordId, later.toSpoolEntry) :=
    fun _ _ => List.pairwise_map
  constructor
  case ordered =>
    apply (hpairwise (fun earlier later => earlier.1 < later.1) next).mp
    rw [hents]
    exact (hpairwise _ table).mpr hsound.ordered
  case numbered =>
    intro record hrec
    have hmem : (record.recordId, record.toSpoolEntry) ∈ table.entries := by
      rw [← hents]
      exact List.mem_map.mpr ⟨record, hrec, rfl⟩
    obtain ⟨other, hother, hsame⟩ := List.mem_map.mp hmem
    rw [hnext, ← (Prod.mk.inj hsame).1]
    exact hsound.numbered other hother
  case event_unique =>
    apply (hpairwise (fun earlier later => ∀ eventId,
      earlier.2.eventId = some eventId → later.2.eventId ≠ some eventId) next).mp
    rw [hents]
    exact (hpairwise _ table).mpr hsound.event_unique
  case delivery_unique =>
    apply (hpairwise (fun earlier later => ∀ key,
      earlier.2.deliveryKey = some key → later.2.deliveryKey ≠ some key) next).mp
    rw [hents]
    exact (hpairwise _ table).mpr hsound.delivery_unique
  case records_le =>
    have hlen := congrArg List.length hents
    unfold entries at hlen
    rw [List.length_map, List.length_map] at hlen
    rw [hlen]
    exact hsound.records_le
  case bytes_le =>
    rw [hbytes, hents, ← hbytes]
    exact hsound.bytes_le

theorem markAttempt (hsound : Sound limits table) (recordId : ℕ)
    (message : String) : Sound limits (table.markAttempt recordId message) :=
  hsound.of_entries (table.entries_markAttempt recordId message) rfl

theorem markTerminal (hsound : Sound limits table) (recordId : ℕ)
    (message : String) : Sound limits (table.markTerminal recordId message) :=
  hsound.of_entries (table.entries_updatePending recordId (fun _ => rfl) (fun _ => rfl)) rfl

theorem delete (hsound : Sound limits table) (recordId : ℕ) :
    Sound limits (table.delete recordId) := by
  have hkept : (table.delete recordId).records.Sublist table.records :=
    List.filter_sublist
  constructor
  case ordered => exact hsound.ordered.sublist hkept
  case numbered =>
    intro record hrec
    exact hsound.numbered record (hkept.subset hrec)
  case event_unique => exact hsound.event_unique.sublist hkept
  case delivery_unique => exact hsound.delivery_unique.sublist hkept
  case records_le => exact hkept.length_le.trans hsound.records_le
  case bytes_le =>
    exact (List.Sublist.sum_le_sum (hkept.map _) fun _ _ => Nat.zero_le _).trans hsound.bytes_le

theorem insert {entry : SpoolEntry} (hsound : Sound limits table)
    (hadmits : SpoolConnection.Admits limits table entry) :
    Sound limits (SpoolConnection.inserted table entry) := by
  have hlast : ∀ record ∈ [table.newRecord entry], record = table.newRecord entry :=
    fun record hrec => List.mem_singleton.mp hrec
  have hkeys : ∀ record ∈ table.records,
      (∀ eventId, record.eventId = some eventId → entry.eventId ≠ some eventId) ∧
      ∀ key, record.deliveryKey = some key → entry.deliveryKey ≠ some key := by
    intro record hrec
    have hunshared := hadmits.unshared record hrec
    unfold SpoolRecord.sharesKey at hunshared
    simp only [Bool.or_eq_false_iff, Bool.and_eq_false_iff,
      decide_eq_false_iff_not] at hunshared
    constructor
    · intro eventId hold hnew
      rcases hunshared.1 with hnone | hother
      · rw [hnew] at hnone
        cases hnone
      · exact hother (hold.trans hnew.symm)
    · intro key hold hnew
      rcases hunshared.2 with hnone | hother
      · rw [hnew] at hnone
        cases hnone
      · exact hother (hold.trans hnew.symm)
  constructor
  case ordered =>
    apply List.pairwise_append.mpr
    refine ⟨hsound.ordered, List.pairwise_singleton _ _, ?_⟩
    intro record hrec new hnew
    rw [hlast new hnew]
    exact hsound.numbered record hrec
  case numbered =>
    intro record hrec
    rcases List.mem_append.mp hrec with hold | hnew
    · exact (hsound.numbered record hold).trans (Nat.lt_succ_self _)
    · rw [hlast record hnew]
      exact Nat.lt_succ_self _
  case event_unique =>
    apply List.pairwise_append.mpr
    refine ⟨hsound.event_unique, List.pairwise_singleton _ _, ?_⟩
    intro record hrec new hnew
    rw [hlast new hnew]
    exact (hkeys record hrec).1
  case delivery_unique =>
    apply List.pairwise_append.mpr
    refine ⟨hsound.delivery_unique, List.pairwise_singleton _ _, ?_⟩
    intro record hrec new hnew
    rw [hlast new hnew]
    exact (hkeys record hrec).2
  case records_le =>
    have hlt := hadmits.records_lt
    rw [totalRecords_stats] at hlt
    change (table.records ++ [table.newRecord entry]).length ≤ limits.maxRecords
    rw [List.length_append, List.length_singleton]
    exact hlt
  case bytes_le =>
    have hle := hadmits.bytes_le
    change ((table.records ++ [table.newRecord entry]).map fun record =>
      record.payload.length).sum ≤ limits.maxBytes
    rw [List.map_append, List.sum_append, List.map_singleton, List.sum_singleton]
    exact hle

theorem oldestPending_le (hsound : Sound limits table) {record other : SpoolRecord}
    (hrec : table.oldestPending = some record) (hother : other ∈ table.records)
    (hpend : other.isPending = true) : record.recordId ≤ other.recordId := by
  unfold SpoolTable.oldestPending at hrec
  obtain ⟨_, before, after, hsplit, hbefore⟩ :=
    List.find?_eq_some_iff_append.mp hrec
  have hord := hsound.ordered
  rw [hsplit] at hother hord
  rcases List.mem_append.mp hother with hfirst | hrest
  · have hnot := hbefore other hfirst
    rw [hpend] at hnot
    cases hnot
  · rcases List.mem_cons.mp hrest with hsame | hlater
    · rw [hsame]
    · have htail := (List.pairwise_append.mp hord).2.1
      exact ((List.pairwise_cons.mp htail).1 other hlater).le

end Sound

end SpoolTable

/-! ## Runs of the spool -/

namespace SpoolConnection

variable {limits : SpoolLimits} {connection next : SpoolConnection}

structure Sound (limits : SpoolLimits) (connection : SpoolConnection) : Prop where
  committed : connection.committed.Sound limits
  unwritten : connection.Unwritten

theorem Keeps.sound (hkeeps : connection.Keeps next)
    (hsound : connection.Sound limits) : next.Sound limits where
  committed := by
    rw [hkeeps.1]
    exact hsound.committed
  unwritten := hkeeps.2

variable {command : SpoolCommand}

theorem step_cases (hunwritten : connection.Unwritten)
    (hstep : connection.step limits command = some next) :
    connection.Keeps next ∨
      (∃ entry, Admits limits connection.committed entry ∧
        next = ⟨inserted connection.committed entry, none⟩) ∨
      ∃ recordId message, next = ⟨connection.committed.delete recordId, none⟩ ∨
        next = ⟨connection.committed.markAttempt recordId message, none⟩ ∨
        next = ⟨connection.committed.markTerminal recordId message, none⟩ := by
  have hwrite : ∀ fails (change : SpoolTable → SpoolTable),
      connection.write fails change = connection.rollback ∨
        connection.write fails change = ⟨change connection.committed, none⟩ := by
    intro fails change
    unfold write
    rw [hunwritten.view_eq]
    cases fails with
    | true => exact .inl rfl
    | false => exact .inr rfl
  cases command with
  | append choice entry =>
    rw [step, Option.some.injEq] at hstep
    rcases connection.append_cases limits choice entry with
      hkeeps | ⟨hadmits, hinserted⟩
    · rw [← hstep]
      exact .inl hkeeps
    · rw [hinserted] at hstep
      exact .inr (.inl ⟨entry, hadmits, hstep.symm⟩)
  | delete recordId fails =>
    rw [step, Option.some.injEq] at hstep
    rw [← hstep]
    rcases hwrite fails fun table => table.delete recordId with hfailed | hwritten
    · rw [hfailed]
      exact .inl connection.keeps_rollback
    · exact .inr (.inr ⟨recordId, "", .inl hwritten⟩)
  | markAttempt recordId message fails =>
    rw [step, Option.some.injEq] at hstep
    rw [← hstep]
    rcases hwrite fails fun table => table.markAttempt recordId message with
      hfailed | hwritten
    · rw [hfailed]
      exact .inl connection.keeps_rollback
    · exact .inr (.inr ⟨recordId, message, .inr (.inl hwritten)⟩)
  | markTerminal recordId message fails =>
    rw [step, Option.some.injEq] at hstep
    rw [← hstep]
    rcases hwrite fails fun table => table.markTerminal recordId message with
      hfailed | hwritten
    · rw [hfailed]
      exact .inl connection.keeps_rollback
    · exact .inr (.inr ⟨recordId, message, .inr (.inr hwritten)⟩)
  | reopen =>
    rw [step, Option.some.injEq] at hstep
    rw [← hstep]
    exact .inl connection.keeps_rollback

theorem step_sound (hsound : connection.Sound limits)
    (hstep : connection.step limits command = some next) : next.Sound limits := by
  rcases step_cases hsound.unwritten hstep with
    hkeeps | ⟨entry, hadmits, rfl⟩ | ⟨recordId, message, rfl | rfl | rfl⟩
  · exact hkeeps.sound hsound
  · exact ⟨hsound.committed.insert hadmits, unwritten_none _⟩
  · exact ⟨hsound.committed.delete recordId, unwritten_none _⟩
  · exact ⟨hsound.committed.markAttempt recordId message, unwritten_none _⟩
  · exact ⟨hsound.committed.markTerminal recordId message, unwritten_none _⟩

structure After (identifier : ℕ) (connection : SpoolConnection) : Prop where
  pending : ∀ record ∈ connection.committed.records, record.isPending = true →
    identifier ≤ record.recordId
  drawn : identifier < connection.committed.nextId

theorem pending_updatePending {table : SpoolTable} {recordId identifier : ℕ}
    {change : SpoolRecord → SpoolRecord}
    (hid : ∀ record, (change record).recordId = record.recordId)
    (hpend : ∀ record ∈ table.records, record.isPending = true →
      identifier ≤ record.recordId) :
    ∀ record ∈ (table.updatePending recordId change).records,
      record.isPending = true → identifier ≤ record.recordId := by
  intro record hrec hstill
  obtain ⟨source, hsrc, rfl⟩ := List.mem_map.mp hrec
  split_ifs at hstill ⊢ with hchanged
  · rw [hid]
    exact hpend source hsrc hchanged.2
  · exact hpend source hsrc hstill

theorem step_after {identifier : ℕ}
    (hunwritten : connection.Unwritten) (hafter : After identifier connection)
    (hstep : connection.step limits command = some next) :
    After identifier next := by
  rcases step_cases hunwritten hstep with
    hkeeps | ⟨entry, hadmits, rfl⟩ | ⟨recordId, message, rfl | rfl | rfl⟩
  · constructor
    case pending =>
      rw [hkeeps.1]
      exact hafter.pending
    case drawn =>
      rw [hkeeps.1]
      exact hafter.drawn
  · constructor
    case pending =>
      intro record hrec hpend
      rcases List.mem_append.mp hrec with hold | hnew
      · exact hafter.pending record hold hpend
      · rw [List.mem_singleton.mp hnew]
        exact hafter.drawn.le
    case drawn => exact hafter.drawn.trans (Nat.lt_succ_self _)
  · refine ⟨?_, hafter.drawn⟩
    intro record hrec
    exact hafter.pending record (List.mem_filter.mp hrec).1
  · exact ⟨pending_updatePending (fun _ => rfl) hafter.pending, hafter.drawn⟩
  · exact ⟨pending_updatePending (fun _ => rfl) hafter.pending, hafter.drawn⟩

theorem handedOut_le {middle last : SpoolConnection} {commands : List SpoolCommand}
    {first second : SpoolRecord} (hmiddle : middle.Sound limits)
    (hrun : runFrom (step limits) middle commands = some last)
    (hfirst : middle.view.oldestPending = some first)
    (hsecond : last.view.oldestPending = some second) :
    first.recordId ≤ second.recordId := by
  rw [hmiddle.unwritten.view_eq] at hfirst
  have hdrawn : first.recordId < middle.committed.nextId :=
    hmiddle.committed.numbered first (List.mem_of_find?_eq_some hfirst)
  have hafter : After first.recordId middle :=
    ⟨fun _ hother hpend =>
      hmiddle.committed.oldestPending_le hfirst hother hpend, hdrawn⟩
  have hreach : Reaches (step limits) (fun _ _ => True) middle last :=
    .of_runFrom (fun _ _ _ => trivial) hrun
  obtain ⟨hlast, hlastAfter⟩ := hreach.invariant
    (P := fun state => state.Sound limits ∧ After first.recordId state)
    (fun _ _ _ hbefore _ hstep => ⟨step_sound hbefore.1 hstep,
      step_after hbefore.1.unwritten hbefore.2 hstep⟩) ⟨hmiddle, hafter⟩
  rw [hlast.unwritten.view_eq] at hsecond
  exact hlastAfter.pending second (List.mem_of_find?_eq_some hsecond) (List.find?_some hsecond)

/-- In every state of a run the spool is within its capacities, its totals are
those of its records, its keys are unique, the record it hands out is the first
pending one, no earlier than those it handed out before, and an append which
fails leaves it as it is. -/
theorem spoolRun_sound {middle last : SpoolConnection}
    {earlier later : List SpoolCommand}
    (hearlier : runFrom (step limits) fresh earlier = some middle)
    (hlater : runFrom (step limits) middle later = some last) :
    last.view.Sound limits ∧
      last.view.stats.totalRecords = last.view.records.length ∧
      last.view.stats.payloadBytes =
        (last.view.records.map fun record => record.payload.length).sum ∧
      (∀ record other, last.view.oldestPending = some record →
        other ∈ last.view.records → other.isPending = true →
          record.recordId ≤ other.recordId) ∧
      (∀ first second, middle.view.oldestPending = some first →
        last.view.oldestPending = some second → first.recordId ≤ second.recordId) ∧
      ∀ choice entry fault next,
        last.append limits choice entry = (.error fault, next) →
          next.view = last.view ∧ next.committed = last.committed := by
  have hinv : ∀ {before after : SpoolConnection} {commands},
      before.Sound limits → runFrom (step limits) before commands = some after →
        after.Sound limits := by
    intro before after commands hbefore hrun
    have hreach : Reaches (step limits) (fun _ _ => True) before after :=
      .of_runFrom (fun _ _ _ => trivial) hrun
    exact hreach.invariant (P := Sound limits)
      (fun _ _ _ hsound _ hstep => step_sound hsound hstep) hbefore
  have hmiddle := hinv ⟨.empty limits, unwritten_none _⟩ hearlier
  have hlast := hinv hmiddle hlater
  have hview := hlast.unwritten.view_eq
  refine ⟨?_, last.view.totalRecords_stats, rfl, ?_, ?_, ?_⟩
  · rw [hview]
    exact hlast.committed
  · intro record other hrec hother hpend
    rw [hview] at hrec hother
    exact hlast.committed.oldestPending_le hrec hother hpend
  · intro first second hfirst hsecond
    exact handedOut_le hmiddle hlater hfirst hsecond
  · intro choice entry fault next hfailed
    rcases last.append_cases limits choice entry with hkeeps | ⟨_, hinserted⟩
    · rw [hfailed] at hkeeps
      refine ⟨?_, hkeeps.1⟩
      rw [hkeeps.2.view_eq, hview]
      exact hkeeps.1
    · rw [hfailed] at hinserted
      cases (Prod.mk.inj hinserted).1

def smallLimits : SpoolLimits := ⟨1, 8, le_rfl, Nat.le_add_left 1 7⟩

def smallEntry : SpoolEntry := telemetryEntry "event-1" [1, 2, 3] none 0 none

theorem spoolRun_sound_smallSpool : ∃ middle last : SpoolConnection,
    runFrom (step smallLimits) fresh [.append ⟨false, none⟩ smallEntry] = some middle ∧
      runFrom (step smallLimits) middle [.markTerminal 1 "not decodable" false] =
        some last ∧
      last.view.Sound smallLimits := by
  obtain ⟨middle, hmiddle⟩ : ∃ middle, runFrom (step smallLimits) fresh
      [.append ⟨false, none⟩ smallEntry] = some middle := ⟨_, rfl⟩
  obtain ⟨last, hlast⟩ : ∃ last, runFrom (step smallLimits) middle
      [.markTerminal 1 "not decodable" false] = some last := ⟨_, rfl⟩
  exact ⟨middle, last, hmiddle, hlast, (spoolRun_sound hmiddle hlast).1⟩

end SpoolConnection

end Nexolab
