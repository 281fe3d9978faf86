import Nexolab.TelemetryHistory
import Nexolab.TransitionSystem

/-!
# The watermark of the history

Telemetry is stored under the shared advisory lock, and the first request of a
history takes the exclusive one to read the clock.  Every page with that time has
the samples which were committed when it was read.
-/

namespace Nexolab

structure StoredSample (ι : Type) extends HistorySample ι where
  receivedAt : Instant
  deriving DecidableEq

structure TelemetryQuery where
  filters : TelemetryFilters
  (fromAt toAt receivedBefore : Option Instant)
  deriving DecidableEq

structure HistoryCall where
  query : TelemetryQuery
  (limit offset : ℕ)
  deriving DecidableEq

structure HistoryResponse (ι : Type) where
  items : List (StoredSample ι)
  nextOffset : Option ℕ
  snapshotAt : Instant
  deriving DecidableEq

section Queries

variable {ι : Type}

def TelemetryQuery.matches (query : TelemetryQuery) (row : StoredSample ι) : Bool :=
  query.filters.matches row.toHistorySample &&
    query.fromAt.all (· ≤ row.capturedAt) && query.toAt.all (row.capturedAt < ·) &&
    query.receivedBefore.all (row.receivedAt ≤ ·)

variable [LinearOrder ι]

def historyStatement (rows : List (StoredSample ι)) (query : TelemetryQuery)
    (limit offset : ℕ) : List (StoredSample ι) :=
  (((rows.filter query.matches).insertionSort fun first second =>
    NewerFirst first.toHistorySample second.toHistorySample).drop offset).take limit

def historyCollection (rows : List (StoredSample ι)) (call : HistoryCall)
    (snapshotAt : Instant) : HistoryResponse ι :=
  let found := historyStatement rows call.query (call.limit + 1) call.offset
  { items := found.take call.limit
    nextOffset := if call.limit < found.length then some (call.offset + call.limit)
      else none
    snapshotAt }

def HistoryCall.receivedBefore (call : HistoryCall) (snapshotAt : Instant) :
    HistoryCall :=
  { call with query := { call.query with receivedBefore := some snapshotAt } }

def HistoryCall.unbounded (call : HistoryCall) : HistoryCall :=
  { call with query := { call.query with receivedBefore := none } }

end Queries

/-! ## Transactions -/

/-- `Database.persist`, and the one with the attribution to a session behind the
insertion. -/
inductive PersistPath where
  | plain
  | sessionAware
  deriving DecidableEq

inductive PersistPhase where
  | waiting
  | locked
  /-- The row has its time and is not in the index yet. -/
  | stamped (receivedAt : Instant)
  | inserted (receivedAt : Instant)
  deriving DecidableEq

inductive HistoryPhase (ι : Type) where
  | waiting
  | locked
  | stamped (snapshotAt : Instant)
  | read (response : HistoryResponse ι)
  deriving DecidableEq

inductive TelemetryTransaction (ι : Type) where
  | persist (path : PersistPath) (sample : HistorySample ι) (phase : PersistPhase)
  /-- `history_snapshot_samples` without a snapshot. -/
  | history (call : HistoryCall) (phase : HistoryPhase ι)
  deriving DecidableEq

namespace TelemetryTransaction

variable {ι : Type}

def shared : TelemetryTransaction ι → Bool
  | .persist _ _ .waiting => false
  | .persist _ _ _ => true
  | .history _ _ => false

def exclusive : TelemetryTransaction ι → Bool
  | .persist _ _ _ => false
  | .history _ .waiting => false
  | .history _ _ => true

def pendingRow : TelemetryTransaction ι → Option (StoredSample ι)
  | .persist _ sample (.stamped receivedAt) => some ⟨sample, receivedAt⟩
  | .persist _ sample (.inserted receivedAt) => some ⟨sample, receivedAt⟩
  | _ => none

/-- The event identifier which the transaction has put into the unique index. -/
def insertedId : TelemetryTransaction ι → Option ι
  | .persist _ sample (.inserted _) => some sample.eventId
  | _ => none

end TelemetryTransaction

structure TelemetryStore (ι : Type) where
  committed : List (StoredSample ι)
  clock : Instant
  transactions : List (ℕ × TelemetryTransaction ι)
  responses : List (HistoryCall × HistoryResponse ι)

inductive StoreAction (ι : Type) where
  | persist (id : ℕ) (path : PersistPath) (sample : HistorySample ι)
  | history (id : ℕ) (call : HistoryCall)
  | lock (id : ℕ)
  /-- `clock_timestamp()`. -/
  | stamp (id : ℕ) (time : Instant)
  | insert (id : ℕ)
  | read (id : ℕ)
  | commit (id : ℕ)
  /-- An error, as one of the attribution, or a lost connection. -/
  | abort (id : ℕ)
  /-- `history_snapshot_samples` with a snapshot. -/
  | page (call : HistoryCall) (snapshotAt : Instant)

namespace TelemetryStore

variable {ι : Type}

def empty (clock : Instant) : TelemetryStore ι := ⟨[], clock, [], []⟩

variable (store : TelemetryStore ι)

def transactionOf (id : ℕ) : Option (TelemetryTransaction ι) :=
  (store.transactions.find? fun entry => entry.1 = id).map Prod.snd

def others (id : ℕ) : List (ℕ × TelemetryTransaction ι) :=
  store.transactions.filter fun entry => entry.1 ≠ id

def withTransaction (id : ℕ) (transaction : TelemetryTransaction ι) :
    TelemetryStore ι :=
  { store with transactions := (id, transaction) :: store.others id }

def withoutTransaction (id : ℕ) : TelemetryStore ι :=
  { store with transactions := store.others id }

/-- A shared lock waits for an exclusive one, and an exclusive one for any. -/
def lockGranted (transaction : TelemetryTransaction ι) : Bool :=
  match transaction with
  | .persist _ _ _ => store.transactions.all fun entry => !entry.2.exclusive
  | .history _ _ =>
    store.transactions.all fun entry => !entry.2.exclusive && !entry.2.shared

variable [LinearOrder ι]

def step : StoreAction ι → Option (TelemetryStore ι)
  | .persist id path sample =>
    if (store.transactionOf id).isSome then none
    else some (store.withTransaction id (.persist path sample .waiting))
  | .history id call =>
    if (store.transactionOf id).isSome then none
    else some (store.withTransaction id (.history call .waiting))
  | .lock id =>
    match store.transactionOf id with
    | some (.persist path sample .waiting) =>
      if store.lockGranted (.persist path sample .waiting) then
        some (store.withTransaction id (.persist path sample .locked))
      else none
    | some (.history call .waiting) =>
      if store.lockGranted (.history call .waiting) then
        some (store.withTransaction id (.history call .locked))
      else none
    | _ => none
  | .stamp id time =>
    if time ≤ store.clock then none
    else
      match store.transactionOf id with
      | some (.persist path sample .locked) =>
        some ({ store with clock := time }.withTransaction id
          (.persist path sample (.stamped time)))
      | some (.history call .locked) =>
        some ({ store with clock := time }.withTransaction id (.history call (.stamped time)))
      | _ => none
  | .insert id =>
    match store.transactionOf id with
    | some (.persist path sample (.stamped receivedAt)) =>
      if store.committed.any fun row => row.eventId = sample.eventId then
        -- `ON CONFLICT DO NOTHING`: the event is a duplicate.
        some (store.withoutTransaction id)
      else if (store.others id).any fun entry =>
          entry.2.insertedId = some sample.eventId then
        none
      else
        some (store.withTransaction id (.persist path sample (.inserted receivedAt)))
    | _ => none
  | .read id =>
    match store.transactionOf id with
    | some (.history call (.stamped snapshotAt)) =>
      some (store.withTransaction id (.history call (.read
        (historyCollection store.committed (call.receivedBefore snapshotAt) snapshotAt))))
    | _ => none
  | .commit id =>
    match store.transactionOf id with
    | some (.persist _ sample (.inserted receivedAt)) =>
      some { store.withoutTransaction id with
        committed := store.committed ++ [⟨sample, receivedAt⟩] }
    | some (.history call (.read response)) =>
      some { store.withoutTransaction id with
        responses := store.responses ++ [(call, response)] }
    | _ => none
  | .abort id => some (store.withoutTransaction id)
  | .page call snapshotAt =>
    some { store with responses := store.responses ++
      [(call, historyCollection store.committed (call.receivedBefore snapshotAt) snapshotAt)] }

def Reachable (start : Instant) (store : TelemetryStore ι) : Prop :=
  Reaches (fun store action => store.step action) (fun _ _ => True) (empty start) store

end TelemetryStore

section Locks

variable {ι : Type} {store : TelemetryStore ι}
  {transaction next : TelemetryTransaction ι} {id : ℕ} {clock : Instant}

def TelemetryTransaction.holds (transaction : TelemetryTransaction ι) : Bool :=
  transaction.exclusive || transaction.shared

/-- An exclusive lock is held alone, and the times given are not ahead of the
clock. -/
structure TelemetryStore.Sound (store : TelemetryStore ι) : Prop where
  keyed : (store.transactions.map Prod.fst).Nodup
  alone : ∀ holder ∈ store.transactions, holder.2.exclusive = true →
    ∀ other ∈ store.transactions, other.2.holds = true → other = holder
  committed : ∀ row ∈ store.committed, row.receivedAt ≤ store.clock
  pending : ∀ entry ∈ store.transactions, ∀ row ∈ entry.2.pendingRow, row.receivedAt ≤ store.clock

namespace TelemetryStore

theorem transactionOf_eq_some (hfound : store.transactionOf id = some transaction) :
    (id, transaction) ∈ store.transactions := by
  unfold transactionOf at hfound
  rw [Option.map_eq_some_iff] at hfound
  obtain ⟨entry, hent, rfl⟩ := hfound
  have hid : entry.1 = id := by simpa using List.find?_some hent
  rw [← hid]
  exact List.mem_of_find?_eq_some hent

theorem mem_others {entry : ℕ × TelemetryTransaction ι} :
    entry ∈ store.others id ↔ entry ∈ store.transactions ∧ entry.1 ≠ id := by
  simp [others, List.mem_filter]

theorem Sound.withTransaction (hsound : store.Sound) (hclock : store.clock ≤ clock)
    (hexcl : next.exclusive = true → ∀ other ∈ store.others id, other.2.holds = false)
    (hholds : next.holds = true → ∀ other ∈ store.others id, other.2.exclusive = false)
    (hpend : ∀ row ∈ next.pendingRow, row.receivedAt ≤ clock) :
    ({ store with clock }.withTransaction id next).Sound where
  keyed := by
    refine List.nodup_cons.mpr ⟨?_, hsound.keyed.sublist (List.filter_sublist.map Prod.fst)⟩
    intro hmem
    obtain ⟨entry, hent, hid⟩ := List.mem_map.mp hmem
    exact (mem_others.mp hent).2 hid
  alone := by
    intro holder hholder hholderExclusive other hother hotherHolds
    rcases List.mem_cons.mp hholder with rfl | hold
    · rcases List.mem_cons.mp hother with rfl | hrest
      · rfl
      · have hfree := hexcl hholderExclusive other hrest
        rw [hotherHolds] at hfree
        cases hfree
    · rcases List.mem_cons.mp hother with rfl | hrest
      · have hfree := hholds hotherHolds holder hold
        rw [hholderExclusive] at hfree
        cases hfree
      · exact hsound.alone holder (mem_others.mp hold).1 hholderExclusive other
          (mem_others.mp hrest).1 hotherHolds
  committed row hrow := (hsound.committed row hrow).trans hclock
  pending := by
    intro entry hent row hrow
    rcases List.mem_cons.mp hent with rfl | hold
    · exact hpend row hrow
    · exact (hsound.pending entry (mem_others.mp hold).1 row hrow).trans hclock

theorem Sound.progress (hsound : store.Sound) (hfound : store.transactionOf id = some transaction)
    (hclock : store.clock ≤ clock) (hexcl : next.exclusive = transaction.exclusive)
    (hshared : next.shared = transaction.shared)
    (hpend : ∀ row ∈ next.pendingRow, row.receivedAt ≤ clock) :
    ({ store with clock }.withTransaction id next).Sound := by
  have hmem := transactionOf_eq_some hfound
  refine hsound.withTransaction hclock ?_ ?_ hpend
  · intro hnext other hother
    by_contra hholds
    rw [hexcl] at hnext
    have hsame := hsound.alone _ hmem hnext other (mem_others.mp hother).1 (by simpa using hholds)
    exact (mem_others.mp hother).2 (congrArg Prod.fst hsame)
  · intro hnext other hother
    by_contra hother'
    have hholds : transaction.holds = true := by
      rw [← hnext, TelemetryTransaction.holds, TelemetryTransaction.holds, hexcl, hshared]
    have hsame := hsound.alone other (mem_others.mp hother).1 (by simpa using hother')
      _ hmem hholds
    exact (mem_others.mp hother).2 (congrArg Prod.fst hsame).symm

theorem Sound.withoutTransaction (hsound : store.Sound) :
    (store.withoutTransaction id).Sound where
  keyed := hsound.keyed.sublist (List.filter_sublist.map Prod.fst)
  alone holder hholder hexcl other hother hholds :=
    hsound.alone holder (mem_others.mp hholder).1 hexcl other (mem_others.mp hother).1 hholds
  committed := hsound.committed
  pending entry hent := hsound.pending entry (mem_others.mp hent).1

theorem Sound.waiting (hsound : store.Sound) (hexcl : next.exclusive = false)
    (hshared : next.shared = false) (hpend : next.pendingRow = none) :
    (store.withTransaction id next).Sound := by
  refine hsound.withTransaction le_rfl ?_ ?_ ?_
  · rw [hexcl]
    exact fun hfalse => nomatch hfalse
  · rw [TelemetryTransaction.holds, hexcl, hshared]
    exact fun hfalse => nomatch hfalse
  · rw [hpend]
    exact fun _ hnone => absurd hnone (Option.not_mem_none _)

end TelemetryStore

end Locks

section Steps

variable {ι : Type} [LinearOrder ι] {before after : TelemetryStore ι}
  {action : StoreAction ι} {id : ℕ}

/-- What a step does to the rows, the transactions and the responses. -/
inductive TelemetryStore.StoreEffect (before : TelemetryStore ι) :
    TelemetryStore ι → Prop
  | moved (id : ℕ) (next : TelemetryTransaction ι) (clock : Instant)
      (hclock : before.clock ≤ clock)
      (hsound : before.Sound → ({ before with clock }.withTransaction id next).Sound)
      (hpend : ∀ row ∈ next.pendingRow, before.clock < row.receivedAt ∨
        ∃ entry ∈ before.transactions, row ∈ entry.2.pendingRow)
      (hread : ∀ call response, next = .history call (.read response) →
        response = historyCollection before.committed
          (call.receivedBefore response.snapshotAt) response.snapshotAt) :
      StoreEffect before ({ before with clock }.withTransaction id next)
  | ended (id : ℕ) : StoreEffect before (before.withoutTransaction id)
  | stored (id : ℕ) (row : StoredSample ι)
      (hrow : ∃ entry ∈ before.transactions, row ∈ entry.2.pendingRow) :
      StoreEffect before { before.withoutTransaction id with
        committed := before.committed ++ [row] }
  | answered (id : ℕ) (call : HistoryCall) (response : HistoryResponse ι)
      (hresponse : ∃ entry ∈ before.transactions, entry.2 = .history call (.read response)) :
      StoreEffect before { before.withoutTransaction id with
        responses := before.responses ++ [(call, response)] }
  | paged (call : HistoryCall) (snapshotAt : Instant) :
      StoreEffect before { before with
        responses := before.responses ++ [(call, historyCollection before.committed
          (call.receivedBefore snapshotAt) snapshotAt)] }

namespace TelemetryStore

theorem StoreEffect.rowless {next : TelemetryTransaction ι}
    (hsound : before.Sound → (before.withTransaction id next).Sound)
    (hpend : next.pendingRow = none)
    (hread : ∀ call response, next ≠ .history call (.read response)) :
    StoreEffect before (before.withTransaction id next) := by
  refine .moved id next before.clock le_rfl hsound ?_ ?_
  · rw [hpend]
    exact fun _ hnone => absurd hnone (Option.not_mem_none _)
  · exact fun call response hnext => absurd hnext (hread call response)

theorem step_effect (hstep : before.step action = some after) :
    StoreEffect before after := by
  cases action with
  | persist id path sample =>
    simp only [step] at hstep
    split_ifs at hstep
    cases hstep
    exact .rowless (fun hsound => hsound.waiting rfl rfl rfl) rfl fun _ _ hnext => nomatch hnext
  | history id call =>
    simp only [step] at hstep
    split_ifs at hstep
    cases hstep
    exact .rowless (fun hsound => hsound.waiting rfl rfl rfl) rfl fun _ _ hnext => nomatch hnext
  | lock id =>
    simp only [step] at hstep
    split at hstep
    next path sample hfound =>
      split_ifs at hstep with hgranted
      cases hstep
      refine .rowless (fun hsound => ?_) rfl fun _ _ hnext => nomatch hnext
      simp only [lockGranted, List.all_eq_true, Bool.not_eq_true'] at hgranted
      refine hsound.withTransaction le_rfl (fun hnone => nomatch hnone) ?_
        fun _ hnone => nomatch hnone
      exact fun _ other hother => hgranted other (mem_others.mp hother).1
    next call hfound =>
      split_ifs at hstep with hgranted
      cases hstep
      refine .rowless (fun hsound => ?_) rfl fun _ _ hnext => nomatch hnext
      simp only [lockGranted, List.all_eq_true, Bool.and_eq_true, Bool.not_eq_true'] at hgranted
      refine hsound.withTransaction le_rfl ?_ ?_ fun _ hnone => nomatch hnone
      · intro _ other hother
        obtain ⟨hexcl, hshared⟩ := hgranted other (mem_others.mp hother).1
        rw [TelemetryTransaction.holds, hexcl, hshared]
        rfl
      · exact fun _ other hother => (hgranted other (mem_others.mp hother).1).1
    next => cases hstep
  | stamp id time =>
    simp only [step] at hstep
    split_ifs at hstep with hclock
    rw [not_le] at hclock
    split at hstep
    next path sample hfound =>
      cases hstep
      refine .moved id _ time hclock.le ?_ ?_ fun _ _ hnext => nomatch hnext
      · intro hsound
        refine hsound.progress hfound hclock.le rfl rfl ?_
        rintro _ ⟨⟩
        exact le_rfl
      · rintro _ ⟨⟩
        exact .inl hclock
    next call hfound =>
      cases hstep
      refine .moved id _ time hclock.le ?_ ?_ fun _ _ hnext => nomatch hnext
      · intro hsound
        exact hsound.progress hfound hclock.le rfl rfl fun _ hnone => nomatch hnone
      · exact fun _ hnone => nomatch hnone
    next => cases hstep
  | insert id =>
    simp only [step] at hstep
    split at hstep
    next path sample receivedAt hfound =>
      split_ifs at hstep
      · cases hstep
        exact .ended id
      · cases hstep
        have hmem := transactionOf_eq_some hfound
        refine .moved id _ before.clock le_rfl ?_ ?_ fun _ _ hnext => nomatch hnext
        · intro hsound
          exact hsound.progress hfound le_rfl rfl rfl (hsound.pending _ hmem)
        · exact fun row hrow => .inr ⟨_, hmem, hrow⟩
    next => cases hstep
  | read id =>
    simp only [step] at hstep
    split at hstep
    next call snapshotAt hfound =>
      cases hstep
      refine .moved id _ before.clock le_rfl ?_ ?_ ?_
      · intro hsound
        exact hsound.progress hfound le_rfl rfl rfl fun _ hnone => nomatch hnone
      · exact fun _ hnone => nomatch hnone
      · rintro _ _ ⟨⟩
        rfl
    next => cases hstep
  | commit id =>
    simp only [step] at hstep
    split at hstep
    next path sample receivedAt hfound =>
      cases hstep
      exact .stored id _ ⟨_, transactionOf_eq_some hfound, rfl⟩
    next call response hfound =>
      cases hstep
      exact .answered id call response ⟨_, transactionOf_eq_some hfound, rfl⟩
    next => cases hstep
  | abort id =>
    cases hstep
    exact .ended id
  | page call snapshotAt =>
    cases hstep
    exact .paged call snapshotAt

theorem Sound.step (hsound : before.Sound) (hstep : before.step action = some after) :
    after.Sound := by
  cases step_effect hstep with
  | moved id next clock _ hmoved => exact hmoved hsound
  | ended id => exact hsound.withoutTransaction
  | stored id row hrow =>
    have hkept : (before.withoutTransaction id).Sound := hsound.withoutTransaction
    refine ⟨hkept.keyed, hkept.alone, ?_, hkept.pending⟩
    intro other hother
    rcases List.mem_append.mp hother with hold | hnew
    · exact hsound.committed other hold
    · obtain ⟨entry, hent, hpend⟩ := hrow
      rw [List.mem_singleton.mp hnew]
      exact hsound.pending entry hent row hpend
  | answered id =>
    have hkept : (before.withoutTransaction id).Sound := hsound.withoutTransaction
    exact ⟨hkept.keyed, hkept.alone, hkept.committed, hkept.pending⟩
  | paged => exact ⟨hsound.keyed, hsound.alone, hsound.committed, hsound.pending⟩

end TelemetryStore

end Steps

/-! ## Pages with one watermark -/

/-- The rows which were committed when the watermark was taken are the rows up to
it, and the pages with it are computed from them. -/
structure TelemetryStore.Fixed {ι : Type} [LinearOrder ι]
    (rows : List (StoredSample ι)) (snapshotAt : Instant)
    (answered : List (HistoryCall × HistoryResponse ι)) (store : TelemetryStore ι) :
    Prop where
  rowsUpTo : ∀ row ∈ rows, row.receivedAt ≤ snapshotAt
  committed : ∃ newer, store.committed = rows ++ newer ∧ ∀ row ∈ newer, snapshotAt < row.receivedAt
  clock : snapshotAt ≤ store.clock
  pending : ∀ entry ∈ store.transactions, ∀ row ∈ entry.2.pendingRow, snapshotAt < row.receivedAt
  read : ∀ entry ∈ store.transactions, ∀ call response,
    entry.2 = .history call (.read response) → response.snapshotAt = snapshotAt →
    response = historyCollection rows call.unbounded snapshotAt
  responses : ∃ later, store.responses = answered ++ later ∧
    ∀ entry ∈ later, entry.2.snapshotAt = snapshotAt →
      entry.2 = historyCollection rows entry.1.unbounded snapshotAt

section Watermark

variable {ι : Type} [LinearOrder ι] {before after : TelemetryStore ι}
  {action : StoreAction ι} {rows : List (StoredSample ι)} {snapshotAt : Instant}
  {answered : List (HistoryCall × HistoryResponse ι)}

theorem TelemetryStore.Fixed.collection_eq
    (hfixed : before.Fixed rows snapshotAt answered) (call : HistoryCall) :
    historyCollection before.committed (call.receivedBefore snapshotAt) snapshotAt =
      historyCollection rows call.unbounded snapshotAt := by
  obtain ⟨newer, hcomm, hnewer⟩ := hfixed.committed
  have hfilter : before.committed.filter (call.receivedBefore snapshotAt).query.matches =
      rows.filter call.unbounded.query.matches := by
    have hnone : newer.filter (call.receivedBefore snapshotAt).query.matches = [] := by
      refine List.filter_eq_nil_iff.mpr fun row hrow => ?_
      simp [TelemetryQuery.matches, HistoryCall.receivedBefore, hnewer row hrow]
    rw [hcomm, List.filter_append, hnone, List.append_nil]
    refine List.filter_congr fun row hrow => ?_
    simp [TelemetryQuery.matches, HistoryCall.receivedBefore, HistoryCall.unbounded,
      hfixed.rowsUpTo row hrow]
  unfold historyCollection historyStatement
  rw [hfilter]
  rfl

omit [LinearOrder ι] in
theorem answers_append {P : HistoryCall × HistoryResponse ι → Prop}
    {responses : List (HistoryCall × HistoryResponse ι)}
    (hresponses : ∃ later, responses = answered ++ later ∧ ∀ entry ∈ later, P entry)
    {entry : HistoryCall × HistoryResponse ι} (hent : P entry) :
    ∃ later, responses ++ [entry] = answered ++ later ∧ ∀ entry ∈ later, P entry := by
  obtain ⟨later, hequal, hlater⟩ := hresponses
  refine ⟨later ++ [entry], by rw [hequal, List.append_assoc], ?_⟩
  intro other hother
  rcases List.mem_append.mp hother with hold | hnew
  · exact hlater other hold
  · rw [List.mem_singleton.mp hnew]
    exact hent

theorem TelemetryStore.Fixed.step (hfixed : before.Fixed rows snapshotAt answered)
    (hstep : before.step action = some after) :
    after.Fixed rows snapshotAt answered := by
  have hothers : ∀ {id : ℕ}, ∀ entry ∈ before.others id,
      entry ∈ before.transactions := fun entry hent => (mem_others.mp hent).1
  cases step_effect hstep with
  | moved id next clock hclock _ hpend hread =>
    refine ⟨hfixed.rowsUpTo, hfixed.committed, hfixed.clock.trans hclock, ?_, ?_, hfixed.responses⟩
    · intro entry hent row hrow
      rcases List.mem_cons.mp hent with rfl | hold
      · rcases hpend row hrow with hlater | ⟨other, hother, hsame⟩
        · exact hfixed.clock.trans_lt hlater
        · exact hfixed.pending other hother row hsame
      · exact hfixed.pending entry (hothers entry hold) row hrow
    · intro entry hent call response hresponse hsnap
      rcases List.mem_cons.mp hent with rfl | hold
      · have hpage := hread call response hresponse
        rw [hsnap, hfixed.collection_eq] at hpage
        exact hpage
      · exact hfixed.read entry (hothers entry hold) call response hresponse hsnap
  | ended id =>
    exact ⟨hfixed.rowsUpTo, hfixed.committed, hfixed.clock,
      fun entry hent => hfixed.pending entry (hothers entry hent),
      fun entry hent => hfixed.read entry (hothers entry hent),
      hfixed.responses⟩
  | stored id row hrow =>
    refine ⟨hfixed.rowsUpTo, ?_, hfixed.clock,
      fun entry hent => hfixed.pending entry (hothers entry hent),
      fun entry hent => hfixed.read entry (hothers entry hent),
      hfixed.responses⟩
    obtain ⟨newer, hcomm, hnewer⟩ := hfixed.committed
    refine ⟨newer ++ [row], by rw [hcomm, List.append_assoc], ?_⟩
    intro other hother
    rcases List.mem_append.mp hother with hold | hnew
    · exact hnewer other hold
    · obtain ⟨entry, hent, hpend⟩ := hrow
      rw [List.mem_singleton.mp hnew]
      exact hfixed.pending entry hent row hpend
  | answered id call response hresponse =>
    refine ⟨hfixed.rowsUpTo, hfixed.committed, hfixed.clock,
      fun entry hent => hfixed.pending entry (hothers entry hent),
      fun entry hent => hfixed.read entry (hothers entry hent),
      answers_append hfixed.responses ?_⟩
    obtain ⟨entry, hent, hread⟩ := hresponse
    exact hfixed.read entry hent call response hread
  | paged call found =>
    refine ⟨hfixed.rowsUpTo, hfixed.committed, hfixed.clock, hfixed.pending,
      hfixed.read, answers_append hfixed.responses ?_⟩
    intro hsnap
    have hequal : found = snapshotAt := hsnap
    rw [hequal]
    exact hfixed.collection_eq call

omit [LinearOrder ι] in
theorem pendingRow_eq_none {transaction : TelemetryTransaction ι}
    (hfree : transaction.holds = false) : transaction.pendingRow = none := by
  cases transaction with
  | history call phase => rfl
  | persist path sample phase => cases phase <;> first | rfl | cases hfree

theorem TelemetryStore.Sound.fixed (hsound : before.Sound) {id : ℕ} {call : HistoryCall}
    (hlocked : before.transactionOf id = some (.history call .locked))
    (hstamp : before.step (.stamp id snapshotAt) = some after) :
    after.Fixed before.committed snapshotAt before.responses := by
  have hmem := transactionOf_eq_some hlocked
  have halone : ∀ entry ∈ before.others id, entry.2.holds = false := by
    intro entry hent
    by_contra hholds
    have hsame := hsound.alone _ hmem rfl entry (mem_others.mp hent).1 (by simpa using hholds)
    exact (mem_others.mp hent).2 (congrArg Prod.fst hsame)
  simp only [TelemetryStore.step, hlocked] at hstamp
  split_ifs at hstamp with hclock
  rw [not_le] at hclock
  cases hstamp
  refine ⟨fun row hrow => (hsound.committed row hrow).trans hclock.le,
    ⟨[], by simp [TelemetryStore.withTransaction]⟩, le_rfl, ?_, ?_,
    ⟨[], by simp [TelemetryStore.withTransaction]⟩⟩
  · intro entry hent row hrow
    rcases List.mem_cons.mp hent with rfl | hold
    · cases hrow
    · rw [pendingRow_eq_none (halone entry hold)] at hrow
      cases hrow
  · intro entry hent other response hresponse
    rcases List.mem_cons.mp hent with rfl | hold
    · cases hresponse
    · have hfree := halone entry hold
      rw [hresponse] at hfree
      cases hfree

end Watermark

/-- All pages with the watermark of a first request are computed from the rows which
were committed when it was taken, whatever is stored and asked for afterwards. -/
theorem history_watermark_fixed {ι : Type} [LinearOrder ι] {start : Instant}
    {before taken after : TelemetryStore ι} {id : ℕ} {call : HistoryCall}
    {snapshotAt : Instant} (hreach : before.Reachable start)
    (hlocked : before.transactionOf id = some (.history call .locked))
    (hstamp : before.step (.stamp id snapshotAt) = some taken)
    (hlater : Reaches (fun store action => TelemetryStore.step store action)
      (fun _ _ => True) taken after) :
    (after.committed.filter fun row => decide (row.receivedAt ≤ snapshotAt)) =
        before.committed ∧
      ∃ later, after.responses = before.responses ++ later ∧
        ∀ entry ∈ later, entry.2.snapshotAt = snapshotAt →
          entry.2 = historyCollection before.committed entry.1.unbounded
            snapshotAt := by
  have hsound : before.Sound := by
    refine hreach.invariant (P := fun store => store.Sound)
      (fun _ _ _ hbefore _ hstep => hbefore.step hstep) ?_
    exact ⟨List.nodup_nil, fun _ hnone => absurd hnone List.not_mem_nil,
      fun _ hnone => absurd hnone List.not_mem_nil,
      fun _ hnone => absurd hnone List.not_mem_nil⟩
  have hfixed : after.Fixed before.committed snapshotAt before.responses :=
    hlater.invariant
      (P := fun store => store.Fixed before.committed snapshotAt before.responses)
      (fun _ _ _ hbefore _ hstep => hbefore.step hstep) (hsound.fixed hlocked hstamp)
  refine ⟨?_, hfixed.responses⟩
  obtain ⟨newer, hcomm, hnewer⟩ := hfixed.committed
  have hnone : (newer.filter fun row => decide (row.receivedAt ≤ snapshotAt)) = [] :=
    List.filter_eq_nil_iff.mpr fun row hrow => by simpa using hnewer row hrow
  rw [hcomm, List.filter_append, hnone, List.append_nil, List.filter_eq_self]
  exact fun row hrow => decide_eq_true (hfixed.rowsUpTo row hrow)

/-- A sample is stored, a history takes its watermark while another sample waits for
the lock, and a page is read after that one is stored. -/
def watermarkRun : List (StoreAction ℕ) × List (StoreAction ℕ) :=
  let sample : ℕ → HistorySample ℕ := fun eventId =>
    ⟨eventId, "edge-1", "EQ-1", "CH-1", "temperature", "C", "valid", none, 0⟩
  ([.persist 1 .plain (sample 1), .lock 1, .stamp 1 10, .insert 1, .commit 1,
    .history 2 ⟨⟨.none, none, none, none⟩, 1, 0⟩, .lock 2,
    .persist 3 .sessionAware (sample 2)],
   [.read 2, .commit 2, .lock 3, .stamp 3 30, .insert 3, .commit 3,
    .page ⟨⟨.none, none, none, none⟩, 1, 0⟩ 20])

theorem history_watermark_fixed_run :
    ∃ before taken after : TelemetryStore ℕ,
      runFrom (fun store action => TelemetryStore.step store action) (.empty 0)
        watermarkRun.1 = some before ∧
      before.step (.stamp 2 20) = some taken ∧
      runFrom (fun store action => TelemetryStore.step store action) taken
        watermarkRun.2 = some after ∧
      after.committed.length = 2 ∧
      (after.committed.filter fun row => decide (row.receivedAt ≤ 20)) =
        before.committed ∧
      ∃ later, after.responses = before.responses ++ later ∧
        ∀ entry ∈ later, entry.2.snapshotAt = 20 →
          entry.2 = historyCollection before.committed entry.1.unbounded 20 := by
  have hrun : ∃ before ∈ runFrom (fun store action => TelemetryStore.step store action)
      (.empty 0) watermarkRun.1,
      (∃ call, before.transactionOf 2 = some (.history call .locked)) ∧
      ∃ taken ∈ before.step (.stamp 2 20),
      ∃ after ∈ runFrom (fun store action => TelemetryStore.step store action) taken watermarkRun.2,
        after.committed.length = 2 := by
    refine ⟨_, rfl, ⟨⟨⟨.none, none, none, none⟩, 1, 0⟩, ?_⟩, _, rfl, _, rfl, ?_⟩
    · decide +kernel
    · decide +kernel
  obtain ⟨before, hbefore, ⟨call, hlocked⟩, taken, htaken, after, hafter, hlen⟩ :=
    hrun
  exact ⟨before, taken, after, hbefore, htaken, hafter, hlen,
    history_watermark_fixed (.of_runFrom (fun _ _ _ => trivial) hbefore) hlocked htaken
      (.of_runFrom (fun _ _ _ => trivial) hafter)⟩

end Nexolab
