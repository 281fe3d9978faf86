import Nexolab.EdgeQueue
import Nexolab.NodeCursor
import Nexolab.TransitionSystem

/-!
# Publishing the queue of the device agent

One publisher at a time, under `_publish_lock`, enqueues a record and flushes the
oldest rows: each is published with QoS 1 and deleted after its acknowledgement.
The MQTT client keeps what it has not seen acknowledged and sends it again in the
order of publication after a reconnect, and the broker acknowledges in the order
of receipt.  `EdgeState` carries, beside the queue and the client, every row ever
inserted, the rows acknowledged and the rows the broker has received.
-/

namespace Nexolab

inductive PublisherPhase (D : Type) where
  | idle
  /-- Before `enqueue_with_sequence`. -/
  | enqueueing (record : EdgeRecord D)
  /-- Before `oldest`. -/
  | reading (record : Option (EdgeRecord D))
  | flushing (record : Option (EdgeRecord D)) (batch : List (OutboundRow D))
  /-- In `wait_for_publish` for a row. -/
  | waiting (record : Option (EdgeRecord D)) (row : OutboundRow D) (batch : List (OutboundRow D))

structure EdgeState (D : Type) where
  database : EdgeDatabase D
  phase : PublisherPhase D
  /-- The publications of the client without an acknowledgement. -/
  inFlight : List (OutboundRow D)
  /-- The publication the publisher waits for has been acknowledged. -/
  (published connected : Bool)
  /-- How many of the publications the broker has received since the connect. -/
  transmitted : ℕ
  begun : List String
  inserted : List (OutboundRow D)
  acknowledged : List ℕ
  received : List (OutboundRow D)

def EdgeState.initial (D : Type) : EdgeState D where
  database := .empty D
  phase := .idle
  inFlight := []
  published := false
  connected := false
  transmitted := 0
  begun := []
  inserted := []
  acknowledged := []
  received := []

inductive EdgeAction (D : Type) where
  /-- A record with a fresh event identifier. -/
  | begin (record : EdgeRecord D)
  /-- `succeeds` is false when the busy retries are exhausted, and `retried` when
  the caller does not call again for the same record. -/
  | enqueue (succeeds retried : Bool)
  | skipFlush
  | startFlush
  | read (succeeds retried : Bool)
  | publish
  | settle (succeeds retried : Bool)
  | finishFlush
  | deferFlush
  | connect
  | disconnect
  | transmit
  | acknowledge
  | crash

namespace EdgeState

variable {D : Type}

/-- An exhausted busy error: `_publish_scheduled_record` calls again for the same
record, the other callers do not. -/
def raise (record : Option (EdgeRecord D)) (retried : Bool) : PublisherPhase D :=
  match record with
  | none => .idle
  | some record => if retried then .enqueueing record else .idle

def enqueued (topic : String) (state : EdgeState D) (record : EdgeRecord D) :
    EdgeState D :=
  let database := state.database.enqueueWithSequence topic record "telemetry"
  { state with
    database
    phase := .reading (some record)
    inserted := state.inserted ++ database.outboundQueue.drop state.database.outboundQueue.length }

end EdgeState

def edgeStep {D : Type} (topic : String) (state : EdgeState D) :
    EdgeAction D → Option (EdgeState D)
  | .begin record =>
    match state.phase with
    | .idle =>
      if record.eventId ∈ state.begun then none
      else some { state with
        phase := .enqueueing record
        begun := state.begun ++ [record.eventId] }
    | _ => none
  | .enqueue succeeds retried =>
    match state.phase with
    | .enqueueing record =>
      if succeeds then some (state.enqueued topic record)
      else some { state with phase := EdgeState.raise (some record) retried }
    | _ => none
  | .startFlush =>
    match state.phase with
    | .idle => some { state with phase := .reading none }
    | _ => none
  | .skipFlush =>
    match state.phase with
    | .reading _ => some { state with phase := .idle }
    | _ => none
  | .read succeeds retried =>
    match state.phase with
    | .reading record =>
      if succeeds then
        some { state with
          phase := .flushing record (state.database.oldest 100) }
      else some { state with phase := EdgeState.raise record retried }
    | _ => none
  | .publish =>
    match state.phase with
    | .flushing record (row :: batch) =>
      some { state with
        phase := .waiting record row batch
        inFlight := state.inFlight ++ [row]
        published := false }
    | _ => none
  | .settle succeeds retried =>
    match state.phase with
    | .waiting record row batch =>
      if state.published then
        if succeeds then
          some { state with
            database := state.database.delete row.id
            phase := .flushing record batch }
        else some { state with phase := EdgeState.raise record retried }
      else none
    | _ => none
  | .finishFlush =>
    match state.phase with
    | .flushing _ [] => some { state with phase := .idle }
    | _ => none
  | .deferFlush =>
    match state.phase with
    | .flushing _ _ => some { state with phase := .idle }
    | .waiting _ _ _ => some { state with phase := .idle }
    | _ => none
  | .connect => some { state with connected := true, transmitted := 0 }
  | .disconnect => some { state with connected := false, transmitted := 0 }
  | .transmit =>
    match state.connected, state.inFlight[state.transmitted]? with
    | true, some row => some { state with
        transmitted := state.transmitted + 1
        received := state.received ++ [row] }
    | _, _ => none
  | .acknowledge =>
    match state.transmitted, state.inFlight with
    | transmitted + 1, row :: rest => some { state with
        transmitted
        inFlight := rest
        acknowledged := state.acknowledged ++ [row.id]
        -- The publication waited for is the last one.
        published := rest.isEmpty }
    | _, _ => none
  | .crash => some { state with
      phase := .idle
      inFlight := []
      published := false
      connected := false
      transmitted := 0 }

/-! ## What every run keeps -/

def OutboundRow.message {D : Type} (row : OutboundRow D) : SequencedMessage :=
  ⟨row.payload.nodeSequence, row.payload.record.eventId⟩

/-- The sequences are drawn without a gap in the order of the rows, one for each
event; a row leaves the queue after its acknowledgement; and the broker receives
the rows in order, so that the cursor rejects none of them. -/
structure EdgeState.Sound {D : Type} (state : EdgeState D) : Prop where
  sequences_eq : state.inserted.map (fun row => row.payload.nodeSequence) =
    List.range' 1 state.inserted.length
  ids_increasing : state.inserted.Pairwise fun earlier later =>
    earlier.id < later.id
  events_distinct : (state.inserted.map fun row =>
    row.payload.record.eventId).Nodup
  queue_suffix : state.database.outboundQueue <:+ state.inserted
  deleted_acknowledged : ∀ row ∈ state.inserted,
    row ∉ state.database.outboundQueue → row.id ∈ state.acknowledged
  acknowledged_received : ∀ recordId ∈ state.acknowledged, ∃ row ∈ state.received, row.id = recordId
  received_inserted : ∀ row ∈ state.received, row ∈ state.inserted
  received_inOrder : state.received.Pairwise fun earlier later =>
    earlier = later ∨ earlier.id < later.id
  accepted : ∀ copies, ∃ cursor, (redelivered copies
    (state.received.map OutboundRow.message)).foldlM advanceCursor none = .ok cursor

section Invariant

variable {D : Type} {topic : String} {state : EdgeState D}

/-- The part of the invariant which does not read the phase. -/
structure QueueInvariant (state : EdgeState D) : Prop where
  sequences_eq : state.inserted.map (fun row => row.payload.nodeSequence) =
    List.range' 1 state.inserted.length
  counter : (state.database.sequences "telemetry").getD 0 = state.inserted.length
  ids_increasing : state.inserted.Pairwise fun earlier later =>
    earlier.id < later.id
  ids_lt : ∀ row ∈ state.inserted, row.id < state.database.nextId
  events_begun : ∀ row ∈ state.inserted, row.eventId ∈ state.begun
  events_distinct : (state.inserted.map OutboundRow.eventId).Nodup
  events_eq : ∀ row ∈ state.inserted, row.payload.record.eventId = row.eventId
  queue_suffix : ∃ removed, state.inserted = removed ++ state.database.outboundQueue ∧
      ∀ row ∈ removed, row.id ∈ state.acknowledged
  transmitted_le : state.transmitted ≤ state.inFlight.length
  inFlight_head : ∀ row ∈ state.inFlight, state.database.outboundQueue.head? = some row
  inFlight_received : ∀ row ∈ state.inFlight.take state.transmitted, row ∈ state.received
  acknowledged_received : ∀ recordId ∈ state.acknowledged, ∃ row ∈ state.received, row.id = recordId
  received_inserted : ∀ row ∈ state.received, row ∈ state.inserted
  received_inOrder : state.received.Pairwise fun earlier later =>
    earlier = later ∨ earlier.id < later.id
  received_first : ∀ row ∈ state.received,
    ∀ queued ∈ state.database.outboundQueue, row = queued ∨ row.id < queued.id

def EdgeState.LastIs (state : EdgeState D) (record : EdgeRecord D) : Prop :=
  ∃ row, state.database.outboundQueue.getLast? = some row ∧ row.eventId = record.eventId

/-- While a record is published its row stays last in the queue, and the
publication waited for is the last one of the client. -/
def PhaseInvariant (state : EdgeState D) : Prop :=
  match state.phase with
  | .idle => True
  | .enqueueing record => record.eventId ∈ state.begun ∧
      ((∀ row ∈ state.inserted, row.eventId ≠ record.eventId) ∨ state.LastIs record)
  | .reading record => ∀ current ∈ record, state.LastIs current
  | .flushing record batch => batch <+: state.database.outboundQueue ∧
      (batch ≠ [] → ∀ current ∈ record, state.LastIs current)
  | .waiting record row batch =>
    row :: batch <+: state.database.outboundQueue ∧
    (∀ current ∈ record, state.LastIs current) ∧
    (if state.published then state.inFlight = [] ∧ row.id ∈ state.acknowledged
    else state.inFlight.getLast? = some row)

namespace QueueInvariant

theorem initial : QueueInvariant (EdgeState.initial D) where
  sequences_eq := rfl
  counter := rfl
  ids_increasing := List.Pairwise.nil
  ids_lt _ hrow := absurd hrow List.not_mem_nil
  events_begun _ hrow := absurd hrow List.not_mem_nil
  events_distinct := List.nodup_nil
  events_eq _ hrow := absurd hrow List.not_mem_nil
  queue_suffix := ⟨[], rfl, fun _ hrow => absurd hrow List.not_mem_nil⟩
  transmitted_le := le_rfl
  inFlight_head _ hrow := absurd hrow List.not_mem_nil
  inFlight_received _ hrow := absurd hrow List.not_mem_nil
  acknowledged_received _ hrow := absurd hrow List.not_mem_nil
  received_inserted _ hrow := absurd hrow List.not_mem_nil
  received_inOrder := List.Pairwise.nil
  received_first _ hrow := absurd hrow List.not_mem_nil

variable {row : OutboundRow D}

theorem queued_inserted (hinv : QueueInvariant state)
    (hrow : row ∈ state.database.outboundQueue) : row ∈ state.inserted := by
  obtain ⟨removed, hsplit, _⟩ := hinv.queue_suffix
  rw [hsplit]
  exact List.mem_append_right _ hrow

theorem queue_increasing (hinv : QueueInvariant state) :
    state.database.outboundQueue.Pairwise fun earlier later =>
      earlier.id < later.id := by
  obtain ⟨removed, hsplit, _⟩ := hinv.queue_suffix
  have hincreasing := hinv.ids_increasing
  rw [hsplit] at hincreasing
  exact (List.pairwise_append.mp hincreasing).2.1

theorem withPhase (hinv : QueueInvariant state) (phase : PublisherPhase D) :
    QueueInvariant { state with phase } :=
  { hinv with }

theorem begin (hinv : QueueInvariant state) (record : EdgeRecord D) :
    QueueInvariant { state with
      phase := .enqueueing record
      begun := state.begun ++ [record.eventId] } :=
  { hinv.withPhase (.enqueueing record) with
    events_begun := fun row hrow =>
      List.mem_append_left _ (hinv.events_begun row hrow) }

theorem insert (hinv : QueueInvariant state) {record : EdgeRecord D}
    (hbegun : record.eventId ∈ state.begun)
    (hnew : ∀ row ∈ state.inserted, row.eventId ≠ record.eventId)
    (hid : row.id = state.database.nextId) (hevent : row.eventId = record.eventId)
    (hpayload : row.payload = ⟨record, state.inserted.length + 1⟩) {sequences : StreamSequences}
    (hcounter : (sequences "telemetry").getD 0 = state.inserted.length + 1)
    (phase : PublisherPhase D) :
    QueueInvariant { state with
      database := ⟨state.database.outboundQueue ++ [row], state.database.nextId + 1, sequences⟩
      phase
      inserted := state.inserted ++ [row] } := by
  have hcases : ∀ other ∈ state.inserted ++ [row], other ∈ state.inserted ∨ other = row := by
    intro other hother
    rcases List.mem_append.mp hother with hold | hlast
    · exact .inl hold
    · exact .inr (List.mem_singleton.mp hlast)
  constructor
  case sequences_eq =>
    rw [List.map_append, hinv.sequences_eq, List.map_singleton, hpayload,
      List.length_append, List.length_singleton, List.range'_concat,
      Nat.add_comm state.inserted.length 1, Nat.one_mul]
  case counter =>
    rw [List.length_append]
    exact hcounter
  case ids_increasing =>
    apply List.pairwise_append.mpr
    refine ⟨hinv.ids_increasing, List.pairwise_singleton _ _, ?_⟩
    intro earlier hearlier later hlater
    rw [List.mem_singleton.mp hlater, hid]
    exact hinv.ids_lt earlier hearlier
  case ids_lt =>
    intro other hother
    rcases hcases other hother with hold | hlast
    · exact Nat.lt_succ_of_lt (hinv.ids_lt other hold)
    · rw [hlast, hid]
      exact Nat.lt_succ_self _
  case events_begun =>
    intro other hother
    rcases hcases other hother with hold | hlast
    · exact hinv.events_begun other hold
    · rw [hlast, hevent]
      exact hbegun
  case events_distinct =>
    rw [List.map_append, List.map_singleton]
    apply List.nodup_append.mpr
    refine ⟨hinv.events_distinct, List.nodup_singleton _, ?_⟩
    intro eventId hold other hother
    rw [List.mem_singleton.mp hother, hevent]
    obtain ⟨earlier, hearlier, heq⟩ := List.mem_map.mp hold
    rw [← heq]
    exact hnew earlier hearlier
  case events_eq =>
    intro other hother
    rcases hcases other hother with hold | hlast
    · exact hinv.events_eq other hold
    · rw [hlast, hpayload]
      exact hevent.symm
  case queue_suffix =>
    obtain ⟨removed, hsplit, hremoved⟩ := hinv.queue_suffix
    refine ⟨removed, ?_, hremoved⟩
    rw [hsplit, List.append_assoc]
  case transmitted_le => exact hinv.transmitted_le
  case inFlight_head =>
    intro other hother
    rw [List.head?_append, hinv.inFlight_head other hother]
    rfl
  case inFlight_received => exact hinv.inFlight_received
  case acknowledged_received => exact hinv.acknowledged_received
  case received_inserted =>
    intro other hother
    exact List.mem_append_left _ (hinv.received_inserted other hother)
  case received_inOrder => exact hinv.received_inOrder
  case received_first =>
    intro other hother queued hqueued
    rcases List.mem_append.mp hqueued with hold | hlast
    · exact hinv.received_first other hother queued hold
    · right
      rw [List.mem_singleton.mp hlast, hid]
      exact hinv.ids_lt other (hinv.received_inserted other hother)

theorem deleteFirst (hinv : QueueInvariant state) {rest : List (OutboundRow D)}
    (hqueue : state.database.outboundQueue = row :: rest)
    (hempty : state.inFlight = []) (hacknowledged : row.id ∈ state.acknowledged)
    (phase : PublisherPhase D) :
    (state.database.delete row.id).outboundQueue = rest ∧
      QueueInvariant { state with
        database := state.database.delete row.id
        phase := phase } := by
  have hincreasing := hinv.queue_increasing
  rw [hqueue] at hincreasing
  obtain ⟨hlater, _⟩ := List.pairwise_cons.mp hincreasing
  have hdeleted : (state.database.delete row.id).outboundQueue = rest := by
    unfold EdgeDatabase.delete
    rw [hqueue, List.filter_cons_of_neg (by simp)]
    apply List.filter_eq_self.mpr
    intro other hother
    have hlt := hlater other hother
    simpa using hlt.ne'
  have hnone : ∀ other, other ∉ state.inFlight := by
    intro other hother
    rw [hempty] at hother
    cases hother
  refine ⟨hdeleted, ?_⟩
  refine { hinv with
    queue_suffix := ?queue_suffix, inFlight_head := ?inFlight_head,
    received_first := ?received_first }
  case queue_suffix =>
    obtain ⟨removed, hsplit, hremoved⟩ := hinv.queue_suffix
    refine ⟨removed ++ [row], ?_, ?_⟩
    · rw [hdeleted, hsplit, hqueue, List.append_assoc, List.singleton_append]
    · intro other hother
      rcases List.mem_append.mp hother with hold | hlast
      · exact hremoved other hold
      · rw [List.mem_singleton.mp hlast]
        exact hacknowledged
  case inFlight_head => exact fun other hother => absurd hother (hnone other)
  case received_first =>
    intro other hother queued hqueued
    rw [hdeleted] at hqueued
    apply hinv.received_first other hother queued
    rw [hqueue]
    exact List.mem_cons_of_mem row hqueued

theorem publishFirst (hinv : QueueInvariant state)
    (hfirst : state.database.outboundQueue.head? = some row) (phase : PublisherPhase D) :
    QueueInvariant { state with
      phase
      inFlight := state.inFlight ++ [row]
      published := false } :=
  { hinv.withPhase phase with
    transmitted_le := by
      rw [List.length_append]
      exact Nat.le_add_right_of_le hinv.transmitted_le
    inFlight_head := by
      intro other hother
      rcases List.mem_append.mp hother with hold | hlast
      · exact hinv.inFlight_head other hold
      · rw [List.mem_singleton.mp hlast]
        exact hfirst
    inFlight_received := by
      intro other hother
      rw [List.take_append_of_le_length hinv.transmitted_le] at hother
      exact hinv.inFlight_received other hother }

theorem transmitNext (hinv : QueueInvariant state)
    (hnext : state.inFlight[state.transmitted]? = some row) :
    QueueInvariant { state with
      transmitted := state.transmitted + 1
      received := state.received ++ [row] } := by
  obtain ⟨hlt, hget⟩ := List.getElem?_eq_some_iff.mp hnext
  have hmem : row ∈ state.inFlight := by
    rw [← hget]
    exact List.getElem_mem hlt
  have hfirst := hinv.inFlight_head row hmem
  have hqueued : row ∈ state.database.outboundQueue := List.mem_of_head? hfirst
  have hcases : ∀ other ∈ state.received ++ [row], other ∈ state.received ∨ other = row := by
    intro other hother
    rcases List.mem_append.mp hother with hold | hlast
    · exact .inl hold
    · exact .inr (List.mem_singleton.mp hlast)
  refine { hinv with
    transmitted_le := ?transmitted_le, inFlight_received := ?inFlight_received,
    acknowledged_received := ?acknowledged_received,
    received_inserted := ?received_inserted, received_inOrder := ?received_inOrder,
    received_first := ?received_first }
  case transmitted_le => exact hlt
  case inFlight_received =>
    intro other hother
    rw [List.take_add_one, hnext, Option.toList_some] at hother
    rcases List.mem_append.mp hother with hold | hlast
    · exact List.mem_append_left _ (hinv.inFlight_received other hold)
    · exact List.mem_append_right _ hlast
  case acknowledged_received =>
    intro recordId hacknowledged
    obtain ⟨other, hother, hid⟩ :=
      hinv.acknowledged_received recordId hacknowledged
    exact ⟨other, List.mem_append_left _ hother, hid⟩
  case received_inserted =>
    intro other hother
    rcases hcases other hother with hold | hlast
    · exact hinv.received_inserted other hold
    · rw [hlast]
      exact hinv.queued_inserted hqueued
  case received_inOrder =>
    apply List.pairwise_append.mpr
    refine ⟨hinv.received_inOrder, List.pairwise_singleton _ _, ?_⟩
    intro earlier hearlier later hlater
    rw [List.mem_singleton.mp hlater]
    exact hinv.received_first earlier hearlier row hqueued
  case received_first =>
    intro other hother queued hmemQueued
    rcases hcases other hother with hold | hlast
    · exact hinv.received_first other hold queued hmemQueued
    · rw [hlast]
      have hincreasing := hinv.queue_increasing
      cases hqueue : state.database.outboundQueue with
      | nil =>
        rw [hqueue] at hmemQueued
        cases hmemQueued
      | cons first rest =>
        rw [hqueue] at hfirst hincreasing hmemQueued
        rw [List.head?_cons, Option.some.injEq] at hfirst
        rw [hfirst] at hincreasing hmemQueued
        rcases List.mem_cons.mp hmemQueued with hsame | hrest
        · exact .inl hsame.symm
        · exact .inr ((List.pairwise_cons.mp hincreasing).1 queued hrest)

theorem acknowledgeFirst (hinv : QueueInvariant state)
    {rest : List (OutboundRow D)} {transmitted : ℕ}
    (htransmitted : state.transmitted = transmitted + 1)
    (hinFlight : state.inFlight = row :: rest) (published : Bool) :
    QueueInvariant { state with
      transmitted
      inFlight := rest
      acknowledged := state.acknowledged ++ [row.id]
      published := published } := by
  have hreceived := hinv.inFlight_received
  rw [hinFlight, htransmitted, List.take_succ_cons] at hreceived
  refine { hinv with
    queue_suffix := ?queue_suffix, transmitted_le := ?transmitted_le,
    inFlight_head := ?inFlight_head, inFlight_received := ?inFlight_received,
    acknowledged_received := ?acknowledged_received }
  case queue_suffix =>
    obtain ⟨removed, hsplit, hremoved⟩ := hinv.queue_suffix
    refine ⟨removed, hsplit, ?_⟩
    intro other hother
    exact List.mem_append_left _ (hremoved other hother)
  case transmitted_le =>
    have hle := hinv.transmitted_le
    rw [hinFlight, htransmitted, List.length_cons] at hle
    exact Nat.le_of_succ_le_succ hle
  case inFlight_head =>
    intro other hother
    apply hinv.inFlight_head
    rw [hinFlight]
    exact List.mem_cons_of_mem row hother
  case inFlight_received =>
    intro other hother
    exact hreceived other (List.mem_cons_of_mem row hother)
  case acknowledged_received =>
    intro recordId hacknowledged
    rcases List.mem_append.mp hacknowledged with hold | hlast
    · exact hinv.acknowledged_received recordId hold
    · rw [List.mem_singleton.mp hlast]
      exact ⟨row, hreceived row List.mem_cons_self, rfl⟩

theorem withLink (hinv : QueueInvariant state) (phase : PublisherPhase D)
    {inFlight : List (OutboundRow D)} (hkept : inFlight ⊆ state.inFlight)
    (published connected : Bool) :
    QueueInvariant { state with
      phase
      inFlight
      published
      connected
      transmitted := 0 } :=
  { hinv.withPhase phase with
    transmitted_le := Nat.zero_le _
    inFlight_head := fun row hrow => hinv.inFlight_head row (hkept hrow)
    inFlight_received := fun _ hrow => absurd hrow List.not_mem_nil }

end QueueInvariant

structure EdgeInvariant (state : EdgeState D) : Prop where
  queue : QueueInvariant state
  phase : PhaseInvariant state

namespace EdgeInvariant

theorem initial : EdgeInvariant (EdgeState.initial D) := ⟨.initial, trivial⟩

theorem enqueue (hinv : EdgeInvariant state) {record : EdgeRecord D}
    (hphase : state.phase = .enqueueing record) :
    EdgeInvariant (state.enqueued topic record) := by
  have hcur := hinv.phase
  unfold PhaseInvariant at hcur
  rw [hphase] at hcur
  obtain ⟨hbegun, hrow⟩ := hcur
  unfold EdgeState.enqueued EdgeDatabase.enqueueWithSequence
  cases hfound : state.database.outboundQueue.find? (fun row => row.eventId = record.eventId) with
  | some row =>
    have hqueued : row ∈ state.database.outboundQueue :=
      List.mem_of_find?_eq_some hfound
    have hevent : row.eventId = record.eventId := by
      simpa using List.find?_some hfound
    dsimp only
    rw [List.drop_length, List.append_nil]
    refine ⟨hinv.queue.withPhase _, ?_⟩
    intro current hsame
    rw [Option.mem_def, Option.some.injEq] at hsame
    rw [← hsame]
    rcases hrow with hnew | hlast
    · exact absurd hevent (hnew row (hinv.queue.queued_inserted hqueued))
    · exact hlast
  | none =>
    have habsent : ∀ row ∈ state.database.outboundQueue, row.eventId ≠ record.eventId := by
      intro row hqueued hevent
      have hnot := List.find?_eq_none.mp hfound row hqueued
      exact hnot (decide_eq_true hevent)
    have hnew : ∀ row ∈ state.inserted, row.eventId ≠ record.eventId := by
      rcases hrow with hnew | ⟨row, hlast, hevent⟩
      · exact hnew
      · exact absurd hevent (habsent row (List.mem_of_getLast? hlast))
    dsimp only
    rw [List.drop_left]
    constructor
    · apply hinv.queue.insert hbegun hnew rfl rfl
      · rw [← hinv.queue.counter]
        rfl
      · unfold StreamSequences.next
        dsimp only
        rw [Function.update_self, hinv.queue.counter]
        rfl
    · intro current hsame
      rw [Option.mem_def, Option.some.injEq] at hsame
      rw [← hsame]
      exact ⟨_, List.getLast?_concat, rfl⟩

variable {record : Option (EdgeRecord D)}

theorem raise (hinv : EdgeInvariant state)
    (hlast : ∀ current ∈ record, state.LastIs current) (retried : Bool) :
    EdgeInvariant { state with phase := EdgeState.raise record retried } := by
  refine ⟨hinv.queue.withPhase _, ?_⟩
  unfold PhaseInvariant EdgeState.raise
  cases record with
  | none => exact trivial
  | some record =>
    cases retried with
    | false => exact trivial
    | true =>
      have hrow := hlast record rfl
      obtain ⟨row, hqueue, hevent⟩ := hrow
      have hinserted := hinv.queue.queued_inserted (List.mem_of_getLast? hqueue)
      have hbegun := hinv.queue.events_begun row hinserted
      rw [hevent] at hbegun
      exact ⟨hbegun, .inr (hlast record rfl)⟩

theorem settle (hinv : EdgeInvariant state) {row : OutboundRow D} {batch : List (OutboundRow D)}
    (hphase : state.phase = .waiting record row batch) (hpubd : state.published = true) :
    EdgeInvariant { state with
      database := state.database.delete row.id
      phase := .flushing record batch } := by
  have hcur := hinv.phase
  unfold PhaseInvariant at hcur
  rw [hphase] at hcur
  dsimp only at hcur
  rw [if_pos hpubd] at hcur
  obtain ⟨⟨after, hstart⟩, hlast, hempty, hacknowledged⟩ := hcur
  rw [List.cons_append] at hstart
  obtain ⟨hdeleted, hqueue⟩ := hinv.queue.deleteFirst hstart.symm hempty
    hacknowledged (.flushing record batch)
  refine ⟨hqueue, ?_, ?_⟩
  · rw [hdeleted]
    exact List.prefix_append batch after
  · intro hbatch current hcur
    obtain ⟨other, hother, hevent⟩ := hlast current hcur
    refine ⟨other, ?_, hevent⟩
    change (state.database.delete row.id).outboundQueue.getLast? = some other
    rw [hdeleted]
    rw [← hstart] at hother
    cases hrest : batch ++ after with
    | nil => exact absurd (List.append_eq_nil_iff.mp hrest).1 hbatch
    | cons first rest =>
      rw [hrest, List.getLast?_cons_cons] at hother
      exact hother

theorem publish (hinv : EdgeInvariant state) {row : OutboundRow D} {batch : List (OutboundRow D)}
    (hphase : state.phase = .flushing record (row :: batch)) :
    EdgeInvariant { state with
      phase := .waiting record row batch
      inFlight := state.inFlight ++ [row]
      published := false } := by
  have hcur := hinv.phase
  unfold PhaseInvariant at hcur
  rw [hphase] at hcur
  obtain ⟨hstart, hlast⟩ := hcur
  have hfirst : state.database.outboundQueue.head? = some row := by
    obtain ⟨after, hqueue⟩ := hstart
    rw [← hqueue]
    rfl
  refine ⟨hinv.queue.publishFirst hfirst _, hstart, hlast (by simp), ?_⟩
  exact List.getLast?_concat

theorem acknowledge (hinv : EdgeInvariant state) {row : OutboundRow D}
    {rest : List (OutboundRow D)} {transmitted : ℕ}
    (htransmitted : state.transmitted = transmitted + 1)
    (hinFlight : state.inFlight = row :: rest) :
    EdgeInvariant { state with
      transmitted
      inFlight := rest
      acknowledged := state.acknowledged ++ [row.id]
      published := rest.isEmpty } := by
  refine ⟨hinv.queue.acknowledgeFirst htransmitted hinFlight _, ?_⟩
  have hcur := hinv.phase
  unfold PhaseInvariant at hcur ⊢
  cases hphase : state.phase with
  | idle => exact trivial
  | enqueueing record =>
    rw [hphase] at hcur
    exact hcur
  | reading record =>
    rw [hphase] at hcur
    exact hcur
  | flushing record batch =>
    rw [hphase] at hcur
    exact hcur
  | waiting record waited batch =>
    rw [hphase] at hcur
    obtain ⟨hstart, hlast, hpubd⟩ := hcur
    refine ⟨hstart, hlast, ?_⟩
    rw [hinFlight] at hpubd
    split_ifs at hpubd with hdone
    · cases hpubd.1
    · cases rest with
      | nil =>
        rw [List.getLast?_singleton, Option.some.injEq] at hpubd
        rw [← hpubd]
        exact ⟨rfl, List.mem_append_right _ (List.mem_singleton_self _)⟩
      | cons second rest =>
        rw [List.getLast?_cons_cons] at hpubd
        exact hpubd

theorem step (hinv : EdgeInvariant state) {action : EdgeAction D}
    {next : EdgeState D} (hstep : edgeStep topic state action = some next) :
    EdgeInvariant next := by
  have hcur := hinv.phase
  unfold PhaseInvariant at hcur
  cases action with
  | begin record =>
    cases hphase : state.phase <;> simp only [edgeStep, hphase] at hstep
    case idle =>
      split_ifs at hstep with hknown
      cases hstep
      refine ⟨hinv.queue.begin record, ?_, .inl ?_⟩
      · exact List.mem_append_right _ (List.mem_singleton_self _)
      · intro row hrow hevent
        have hbegun := hinv.queue.events_begun row hrow
        rw [hevent] at hbegun
        exact hknown hbegun
    all_goals cases hstep
  | enqueue succeeds retried =>
    cases hphase : state.phase <;> simp only [edgeStep, hphase] at hstep
    case enqueueing record =>
      rw [hphase] at hcur
      split_ifs at hstep
      · cases hstep
        exact hinv.enqueue hphase
      · cases hstep
        refine ⟨hinv.queue.withPhase _, ?_⟩
        unfold PhaseInvariant EdgeState.raise
        cases retried with
        | false => exact trivial
        | true => exact hcur
    all_goals cases hstep
  | skipFlush =>
    cases hphase : state.phase <;> simp only [edgeStep, hphase] at hstep
    case reading record =>
      cases hstep
      exact ⟨hinv.queue.withPhase _, trivial⟩
    all_goals cases hstep
  | startFlush =>
    cases hphase : state.phase <;> simp only [edgeStep, hphase] at hstep
    case idle =>
      cases hstep
      exact ⟨hinv.queue.withPhase _, fun current hnone => by cases hnone⟩
    all_goals cases hstep
  | read succeeds retried =>
    cases hphase : state.phase <;> simp only [edgeStep, hphase] at hstep
    case reading record =>
      rw [hphase] at hcur
      split_ifs at hstep
      · cases hstep
        refine ⟨hinv.queue.withPhase _, ?_, fun _ => hcur⟩
        exact List.take_prefix _ _
      · cases hstep
        exact hinv.raise hcur retried
    all_goals cases hstep
  | publish =>
    cases hphase : state.phase <;> simp only [edgeStep, hphase] at hstep
    case flushing record batch =>
      cases batch with
      | nil => cases hstep
      | cons row batch =>
        cases hstep
        exact hinv.publish hphase
    all_goals cases hstep
  | settle succeeds retried =>
    cases hphase : state.phase <;> simp only [edgeStep, hphase] at hstep
    case waiting record row batch =>
      rw [hphase] at hcur
      split_ifs at hstep with hpubd
      · cases hstep
        exact hinv.settle hphase hpubd
      · cases hstep
        exact hinv.raise hcur.2.1 retried
    all_goals cases hstep
  | finishFlush =>
    cases hphase : state.phase <;> simp only [edgeStep, hphase] at hstep
    case flushing record batch =>
      cases batch with
      | nil =>
        cases hstep
        exact ⟨hinv.queue.withPhase _, trivial⟩
      | cons row batch => cases hstep
    all_goals cases hstep
  | deferFlush =>
    cases hphase : state.phase <;> simp only [edgeStep, hphase] at hstep
    case flushing record batch =>
      cases hstep
      exact ⟨hinv.queue.withPhase _, trivial⟩
    case waiting record row batch =>
      cases hstep
      exact ⟨hinv.queue.withPhase _, trivial⟩
    all_goals cases hstep
  | connect =>
    simp only [edgeStep, Option.some.injEq] at hstep
    rw [← hstep]
    exact ⟨hinv.queue.withLink state.phase (List.Subset.refl _) _ _, hinv.phase⟩
  | disconnect =>
    simp only [edgeStep, Option.some.injEq] at hstep
    rw [← hstep]
    exact ⟨hinv.queue.withLink state.phase (List.Subset.refl _) _ _, hinv.phase⟩
  | transmit =>
    simp only [edgeStep] at hstep
    split at hstep
    next row _ hnext =>
      cases hstep
      exact ⟨hinv.queue.transmitNext hnext, hinv.phase⟩
    next => cases hstep
  | acknowledge =>
    simp only [edgeStep] at hstep
    split at hstep
    next transmitted row rest htransmitted hinFlight =>
      cases hstep
      exact hinv.acknowledge htransmitted hinFlight
    next => cases hstep
  | crash =>
    simp only [edgeStep, Option.some.injEq] at hstep
    rw [← hstep]
    exact ⟨hinv.queue.withLink .idle (List.nil_subset _) _ _, trivial⟩

end EdgeInvariant

theorem QueueInvariant.sequence_lt (hinv : QueueInvariant state)
    {earlier later : OutboundRow D} (hearlier : earlier ∈ state.inserted)
    (hlater : later ∈ state.inserted) (hid : earlier.id < later.id) :
    earlier.payload.nodeSequence < later.payload.nodeSequence := by
  have hsequences : state.inserted.Pairwise fun first second =>
      first.payload.nodeSequence < second.payload.nodeSequence := by
    have hrange := List.pairwise_lt_range' (s := 1) (n := state.inserted.length)
    rw [← hinv.sequences_eq] at hrange
    exact List.pairwise_map.mp hrange
  obtain ⟨i, hi, hfirst⟩ := List.getElem_of_mem hearlier
  obtain ⟨j, hj, hsecond⟩ := List.getElem_of_mem hlater
  have hincreasing := List.pairwise_iff_getElem.mp hinv.ids_increasing
  rcases lt_trichotomy i j with hlt | heq | hgt
  · have hord := List.pairwise_iff_getElem.mp hsequences i j hi hj hlt
    rw [hfirst, hsecond] at hord
    exact hord
  · subst heq
    rw [hfirst] at hsecond
    rw [hsecond] at hid
    exact absurd hid (lt_irrefl _)
  · have hord := hincreasing j i hj hi hgt
    rw [hfirst, hsecond] at hord
    exact absurd hid (lt_asymm hord)

theorem QueueInvariant.sound (hinv : QueueInvariant state) : state.Sound where
  sequences_eq := hinv.sequences_eq
  ids_increasing := hinv.ids_increasing
  events_distinct := by
    rw [List.map_congr_left hinv.events_eq]
    exact hinv.events_distinct
  queue_suffix := by
    obtain ⟨removed, hsplit, _⟩ := hinv.queue_suffix
    exact ⟨removed, hsplit.symm⟩
  deleted_acknowledged := by
    obtain ⟨removed, hsplit, hremoved⟩ := hinv.queue_suffix
    intro row hrow habsent
    rw [hsplit] at hrow
    rcases List.mem_append.mp hrow with hdeleted | hqueued
    · exact hremoved row hdeleted
    · exact absurd hqueued habsent
  acknowledged_received := hinv.acknowledged_received
  received_inserted := hinv.received_inserted
  received_inOrder := hinv.received_inOrder
  accepted copies := by
    have horder : InOrder (state.received.map OutboundRow.message) := by
      apply List.pairwise_map.mpr
      apply hinv.received_inOrder.imp_of_mem
      intro earlier later hearlier hlater hrelated
      rcases hrelated with hsame | hid
      · right
        rw [hsame]
      · left
        exact hinv.sequence_lt (hinv.received_inserted earlier hearlier)
          (hinv.received_inserted later hlater) hid
    obtain ⟨cursor, hcursor, _⟩ :=
      advanceCursor_inOrder (redelivered_inOrder copies horder)
    exact ⟨cursor, hcursor⟩

end Invariant

/-- Every run of the agent numbers its records without a gap, deletes rows after
their acknowledgement and publishes them in order. -/
theorem edgePublisher_sound {D : Type} (topic : String)
    (actions : List (EdgeAction D)) (state : EdgeState D)
    (hrun : runFrom (edgeStep topic) (.initial D) actions = some state) :
    state.Sound := by
  have hreach : Reaches (edgeStep topic) (fun _ _ => True) (.initial D) state :=
    .of_runFrom (fun _ _ _ => trivial) hrun
  have hinv : EdgeInvariant state := by
    apply hreach.invariant
    · intro current action next hcur _ hstep
      exact hcur.step hstep
    · exact .initial
  exact hinv.queue.sound

/-- Two records, with busy errors at every transaction, a lost connection while a
publication is not acknowledged, and a crash before the last flush. -/
def interruptedRun : List (EdgeAction Unit) :=
  [.begin ⟨"first", ()⟩, .enqueue false true, .enqueue true true, .read true true,
    .connect, .publish, .transmit, .disconnect, .deferFlush,
    .begin ⟨"second", ()⟩, .enqueue true true, .read false true,
    .enqueue true true, .read true true, .publish, .connect, .transmit,
    .transmit, .acknowledge, .acknowledge, .settle false true, .enqueue true true,
    .read true true, .publish, .transmit, .acknowledge, .settle true true,
    .publish, .transmit, .crash, .connect, .startFlush, .read true true, .publish,
    .transmit, .acknowledge, .settle true true, .finishFlush]

theorem edgePublisher_sound_interrupted :
    ∃ state, runFrom (edgeStep "telemetry") (.initial Unit) interruptedRun =
        some state ∧ state.Sound := by
  have hruns : (runFrom (edgeStep "telemetry") (.initial Unit)
      interruptedRun).isSome = true := by
    decide +kernel
  obtain ⟨state, hstate⟩ := Option.isSome_iff_exists.mp hruns
  exact ⟨state, hstate, edgePublisher_sound "telemetry" interruptedRun state hstate⟩

end Nexolab
