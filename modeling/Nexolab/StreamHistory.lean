import Nexolab.Binary64
import Nexolab.NodeCursor
import Nexolab.NodeTopics
import Nexolab.TransitionSystem

/-!
# The operational history of the nodes

The central service stores the health samples and the status events of the nodes.
An event is accepted by its sequence, against the cursor of its node and stream;
the latest row of a node is the one with the last time of capture.  Each request
is one transaction, and one which fails leaves the database as it was.
-/

namespace Nexolab

inductive NodeHealthState where
  | healthy
  | degraded

structure NodeHealthReport where
  health : NodeHealthState
  (uptimeSeconds queueDepth samplesTotal : ℕ)
  (softwareVersion deviceMode : String)
  (lastSampleAt lastPublishAt : Option ℚ)
  lastError : Option String

inductive NodeAvailability where
  | online
  | offline

structure NodeStatusReport where
  status : NodeAvailability
  reason : String
  softwareVersion : Option String
  graceful : Bool

structure NodeStreamEvent (ρ : Type) where
  (eventId nodeId : String)
  capturedAt : ℚ
  nodeSequence : ℕ
  report : ρ

/-- A row of `central_node_health_samples` or `central_node_status_events`. -/
structure NodeStreamRow (ρ : Type) where
  (organizationId nodeRecordId eventId : String)
  nodeSequence : ℕ
  report : ρ
  (capturedAt receivedAt : ℚ)

structure NodeStreamCursor extends IngressCursor where
  (organizationId nodeRecordId : String)
  stream : NodeTopicStream
  (lastCapturedAt updatedAt : ℚ)

structure StreamDatabase where
  registry : NodeDatabase
  cursors : List NodeStreamCursor
  healthSamples : List (NodeStreamRow NodeHealthReport)
  statusEvents : List (NodeStreamRow NodeStatusReport)

inductive NodeStreamFault where
  | topic (fault : NodeTopicFault)
  | clock (fault : NodeFault)
  | authorization (message : String)
  | replay (message : String)
  | conflict (message : String)
  deriving DecidableEq

def classifyClockOffset (offsetMs : Option ℤ) (warningMs criticalMs : ℤ) :
    Except NodeFault ClockStatus := do
  validateClockThresholds warningMs criticalMs
  match offsetMs with
  | none => return .unknown
  | some offset =>
    if |offset| < warningMs then return .ok
    else if |offset| < criticalMs then return .warning
    else return .critical

/-- `round((captured_at - received_at).total_seconds() * 1000)`. -/
def clockOffsetMs (capturedAt receivedAt : ℚ) : ℤ :=
  let totalSeconds := (roundBinary64 (capturedAt - receivedAt)).getD 0
  roundHalfEven ((roundBinary64 (totalSeconds * 1000)).getD 0)

def NodeStreamCursor.Of (nodeRecordId : String) (stream : NodeTopicStream)
    (cursor : NodeStreamCursor) : Prop :=
  cursor.nodeRecordId = nodeRecordId ∧ cursor.stream = stream

instance (nodeRecordId : String) (stream : NodeTopicStream)
    (cursor : NodeStreamCursor) : Decidable (cursor.Of nodeRecordId stream) :=
  inferInstanceAs (Decidable (_ ∧ _))

def NodeStreamCursor.advanceTo {ρ : Type} (event : NodeStreamEvent ρ)
    (receivedAt : ℚ) (cursor : NodeStreamCursor) : NodeStreamCursor :=
  { cursor with
    lastSequence := event.nodeSequence
    lastEventId := event.eventId
    lastCapturedAt := event.capturedAt
    updatedAt := receivedAt }

def findCursor (cursors : List NodeStreamCursor) (nodeRecordId : String)
    (stream : NodeTopicStream) : Option NodeStreamCursor :=
  cursors.find? fun cursor => cursor.Of nodeRecordId stream

namespace StreamDatabase

variable {ρ : Type} (database : StreamDatabase)

def activeNode (organizationId nodeId : String) :
    Except NodeStreamFault CentralNode :=
  match database.registry.nodeOf organizationId nodeId with
  | none => .error (.authorization "node is unknown or not active")
  | some node =>
    if node.state ≠ .active then
      .error (.authorization "node is unknown or not active")
    else if database.registry.activeCredentials organizationId node.id = [] then
      .error (.authorization "node has no active broker credential")
    else .ok node

/-- The cursor of the stream after the event, and whether the event is a
replay. -/
def advanceStream (organizationId nodeRecordId : String) (stream : NodeTopicStream)
    (event : NodeStreamEvent ρ) (receivedAt : ℚ) :
    Except NodeStreamFault (List NodeStreamCursor × Bool) :=
  match findCursor database.cursors nodeRecordId stream with
  | none => .ok (database.cursors ++ [{
      lastSequence := event.nodeSequence
      lastEventId := event.eventId
      organizationId
      nodeRecordId
      stream
      lastCapturedAt := event.capturedAt
      updatedAt := receivedAt }], false)
  | some cursor =>
    if event.nodeSequence < cursor.lastSequence then
      .error (.replay "node_sequence is lower than the persisted stream cursor")
    else if event.nodeSequence = cursor.lastSequence then
      if event.eventId ≠ cursor.lastEventId then
        .error (.replay "node_sequence is already bound to another event")
      else .ok (database.cursors, true)
    else .ok (database.cursors.map fun cursor =>
      if cursor.Of nodeRecordId stream then cursor.advanceTo event receivedAt
      else cursor, false)

def authorizeAndAdvance (organizationId : String) (event : NodeStreamEvent ρ)
    (topic : String) (expectedStream : NodeTopicStream) (receivedAt : ℚ) :
    Except NodeStreamFault (StreamDatabase × CentralNode × Bool) := do
  let parsed ← (parseNodeTopic topic).mapError .topic
  if parsed.stream ≠ expectedStream then
    .error (.authorization ("expected " ++ expectedStream.value ++
      " stream, received " ++ parsed.stream.value))
  else if parsed.organizationId ≠ organizationId ∨ parsed.nodeId ≠ event.nodeId then
    .error (.authorization "payload identity does not own the MQTT topic")
  else
    let node ← database.activeNode organizationId event.nodeId
    let (cursors, replayed) ← database.advanceStream organizationId node.id
      expectedStream event receivedAt
    let offset := clockOffsetMs event.capturedAt receivedAt
    let clockStatus ← (classifyClockOffset (some offset) node.clockWarningMs
      node.clockCriticalMs).mapError .clock
    let observe := fun node : CentralNode => { node with
      lastSeenAt := some receivedAt
      lastClockOffsetMs := some offset
      clockStatus
      clockObservedAt := some receivedAt
      updatedAt := receivedAt }
    return ({ database with
      registry := database.registry.updateNode node.id observe
      cursors := cursors }, observe node, replayed)

end StreamDatabase

/-- What `persist_health` and `persist_status` do after the cursor: the rows with
the event, and the row the event has. -/
def persistRow {ρ : Type} (kind : String) (rows : List (NodeStreamRow ρ)) (node : CentralNode)
    (organizationId : String) (event : NodeStreamEvent ρ) (receivedAt : ℚ) (replayed : Bool) :
    Except NodeStreamFault (List (NodeStreamRow ρ) × NodeStreamRow ρ × Bool) :=
  let existing := rows.find? fun row =>
    row.organizationId = organizationId ∧ row.eventId = event.eventId
  match replayed, existing with
  | true, none => .error (.conflict (kind ++ " cursor replay references a missing history event"))
  | true, some row => .ok (rows, row, true)
  | false, some _ => .error (.conflict (kind ++ " event_id is already persisted"))
  | false, none =>
    -- The unique constraint of the node and the sequence.
    if ∃ row ∈ rows, row.nodeRecordId = node.id ∧ row.nodeSequence = event.nodeSequence then
      .error (.conflict (kind ++ " event conflicts with persisted stream history"))
    else
      let row : NodeStreamRow ρ := {
        organizationId := node.organizationId
        nodeRecordId := node.id
        eventId := event.eventId
        nodeSequence := event.nodeSequence
        report := event.report
        capturedAt := event.capturedAt
        receivedAt }
      .ok (rows ++ [row], row, false)

namespace StreamDatabase

variable (database : StreamDatabase)

def persistHealth (organizationId : String)
    (event : NodeStreamEvent NodeHealthReport) (topic : String) (receivedAt : ℚ) :
    Except NodeStreamFault (StreamDatabase × NodeStreamRow NodeHealthReport × Bool) := do
  let (advanced, node, replayed) ← database.authorizeAndAdvance organizationId event
    topic .health receivedAt
  let (rows, row, repeated) ← persistRow "health" advanced.healthSamples node
    organizationId event receivedAt replayed
  return ({ advanced with healthSamples := rows }, row, repeated)

def persistStatus (organizationId : String)
    (event : NodeStreamEvent NodeStatusReport) (topic : String) (receivedAt : ℚ) :
    Except NodeStreamFault (StreamDatabase × NodeStreamRow NodeStatusReport × Bool) := do
  let (advanced, node, replayed) ← database.authorizeAndAdvance organizationId event
    topic .status receivedAt
  let (rows, row, repeated) ← persistRow "status" advanced.statusEvents node
    organizationId event receivedAt replayed
  return ({ advanced with statusEvents := rows }, row, repeated)

def streamNode (organizationId nodeId : String) :
    Except NodeStreamFault CentralNode :=
  match database.registry.nodeOf organizationId (lowerText (stripText nodeId)) with
  | none => .error (.authorization "node was not found")
  | some node => .ok node

end StreamDatabase

/-- The order of the history: the time of capture first, then the sequence. -/
def NodeStreamRow.rank {ρ : Type} (row : NodeStreamRow ρ) : ℚ ×ₗ ℕ :=
  toLex (row.capturedAt, row.nodeSequence)

def latestRow {ρ : Type} (rows : List (NodeStreamRow ρ)) (nodeRecordId : String) :
    Option (NodeStreamRow ρ) :=
  (rows.filter fun row => row.nodeRecordId = nodeRecordId).argmax NodeStreamRow.rank

namespace StreamDatabase

variable (database : StreamDatabase)

def latestHealth (organizationId nodeId : String) :
    Except NodeStreamFault (Option (NodeStreamRow NodeHealthReport)) := do
  let node ← database.streamNode organizationId nodeId
  return latestRow database.healthSamples node.id

def latestStatus (organizationId nodeId : String) :
    Except NodeStreamFault (Option (NodeStreamRow NodeStatusReport)) := do
  let node ← database.streamNode organizationId nodeId
  return latestRow database.statusEvents node.id

end StreamDatabase

inductive StreamRequest where
  | health (organizationId : String) (event : NodeStreamEvent NodeHealthReport)
      (topic : String) (receivedAt : ℚ)
  | status (organizationId : String) (event : NodeStreamEvent NodeStatusReport)
      (topic : String) (receivedAt : ℚ)
  /-- A request to the registry of the nodes, which the database may fail. -/
  | registry (request : NodeRequest) (fails : Bool)

namespace StreamDatabase

def initial : StreamDatabase := ⟨.empty, [], [], []⟩

def step (database : StreamDatabase) : StreamRequest → Option StreamDatabase
  | .health organizationId event topic receivedAt =>
    match database.persistHealth organizationId event topic receivedAt with
    | .error _ => some database
    | .ok (committed, _, _) => some committed
  | .status organizationId event topic receivedAt =>
    match database.persistStatus organizationId event topic receivedAt with
    | .error _ => some database
    | .ok (committed, _, _) => some committed
  | .registry request fails =>
    some { database with registry := (database.registry.serve request fails).2 }

end StreamDatabase

/-- An event which is no replay is after the cursor it replaces; the cursors of
other nodes and streams stay. -/
structure Advances {ρ : Type} (cursors advanced : List NodeStreamCursor)
    (nodeRecordId : String) (stream : NodeTopicStream) (event : NodeStreamEvent ρ) :
    Prop where
  later : ∀ cursor, findCursor cursors nodeRecordId stream = some cursor →
    cursor.lastSequence < event.nodeSequence
  cursor : ∃ cursor, findCursor advanced nodeRecordId stream = some cursor ∧
    cursor.lastSequence = event.nodeSequence ∧ cursor.lastEventId = event.eventId ∧
    cursor.lastCapturedAt = event.capturedAt
  others : ∀ other otherStream, ¬ (other = nodeRecordId ∧ otherStream = stream) →
    findCursor advanced other otherStream = findCursor cursors other otherStream

theorem findCursor_advanced {ρ : Type} {cursors : List NodeStreamCursor}
    {nodeRecordId : String} {stream : NodeTopicStream} (event : NodeStreamEvent ρ)
    (receivedAt : ℚ) (id : String) (other : NodeTopicStream) :
    findCursor (cursors.map fun cursor =>
        if cursor.Of nodeRecordId stream then cursor.advanceTo event receivedAt
        else cursor) id other =
      (findCursor cursors id other).map fun cursor =>
        if cursor.Of nodeRecordId stream then cursor.advanceTo event receivedAt
        else cursor := by
  unfold findCursor
  rw [List.find?_map]
  congr 2
  funext cursor
  apply Bool.eq_iff_iff.mpr
  simp only [Function.comp_apply, decide_eq_true_eq]
  split
  · exact Iff.rfl
  · exact Iff.rfl

theorem findCursor_of {cursors : List NodeStreamCursor} {nodeRecordId : String}
    {stream : NodeTopicStream} {cursor : NodeStreamCursor}
    (hfound : findCursor cursors nodeRecordId stream = some cursor) :
    cursor.Of nodeRecordId stream := by
  unfold findCursor at hfound
  have hsome := List.find?_some hfound
  exact of_decide_eq_true hsome

variable {receivedAt : ℚ}

theorem advanceStream_cases {ρ : Type} {database : StreamDatabase}
    {organizationId nodeRecordId : String} {stream : NodeTopicStream}
    {event : NodeStreamEvent ρ} {advanced : List NodeStreamCursor} {replayed : Bool}
    (hadv : database.advanceStream organizationId nodeRecordId stream event
      receivedAt = .ok (advanced, replayed)) :
    (replayed = true ∧ advanced = database.cursors) ∨
      (replayed = false ∧
        Advances database.cursors advanced nodeRecordId stream event) := by
  unfold StreamDatabase.advanceStream at hadv
  split at hadv
  next hnone =>
    cases hadv
    refine .inr ⟨rfl, ?_⟩
    constructor
    case later =>
      intro cursor hcursor
      rw [hnone] at hcursor
      cases hcursor
    case cursor =>
      unfold findCursor at hnone ⊢
      rw [List.find?_append, hnone, Option.none_or, List.find?_singleton, if_pos]
      · exact ⟨_, rfl, rfl, rfl, rfl⟩
      · exact decide_eq_true ⟨rfl, rfl⟩
    case others =>
      intro other otherStream hother
      unfold findCursor
      rw [List.find?_append, List.find?_singleton, if_neg, Option.or_none]
      intro hof
      obtain ⟨hid, hstream⟩ := of_decide_eq_true hof
      exact hother ⟨hid.symm, hstream.symm⟩
  next cursor hcursor =>
    split at hadv
    · cases hadv
    next hlower =>
      split at hadv
      next hsame =>
        split at hadv
        · cases hadv
        · rw [Except.ok.injEq, Prod.mk.injEq] at hadv
          exact .inl ⟨hadv.2.symm, hadv.1.symm⟩
      next hdifferent =>
        cases hadv
        refine .inr ⟨rfl, ?_⟩
        constructor
        case later =>
          intro found hfound
          rw [hcursor, Option.some.injEq] at hfound
          rw [← hfound]
          omega
        case cursor =>
          rw [findCursor_advanced, hcursor, Option.map_some,
            if_pos (findCursor_of hcursor)]
          exact ⟨_, rfl, rfl, rfl, rfl⟩
        case others =>
          intro other otherStream hother
          rw [findCursor_advanced]
          cases hfound : findCursor database.cursors other otherStream with
          | none => rfl
          | some found =>
            rw [Option.map_some, if_neg]
            intro hof
            obtain ⟨hid, hstream⟩ := findCursor_of hfound
            exact hother ⟨hid.symm.trans hof.1, hstream.symm.trans hof.2⟩

theorem activeNode_eq_ok {database : StreamDatabase} {organizationId nodeId : String}
    {node : CentralNode} (hnode : database.activeNode organizationId nodeId = .ok node) :
    database.registry.nodeOf organizationId nodeId = some node := by
  unfold StreamDatabase.activeNode at hnode
  split at hnode
  · cases hnode
  next found hfound =>
    split at hnode
    · cases hnode
    · split at hnode
      · cases hnode
      · rw [Except.ok.injEq] at hnode
        rw [hfound, hnode]

theorem authorizeAndAdvance_cases {ρ : Type} {database advanced : StreamDatabase}
    {organizationId topic : String} {event : NodeStreamEvent ρ}
    {stream : NodeTopicStream} {observed : CentralNode} {replayed : Bool}
    (hadv : database.authorizeAndAdvance organizationId event topic stream
      receivedAt = .ok (advanced, observed, replayed)) :
    advanced.healthSamples = database.healthSamples ∧
      advanced.statusEvents = database.statusEvents ∧
      ∃ node, database.registry.nodeOf organizationId event.nodeId = some node ∧
        observed.id = node.id ∧
        ((replayed = true ∧ advanced.cursors = database.cursors) ∨ (replayed = false ∧
            Advances database.cursors advanced.cursors node.id stream event)) := by
  unfold StreamDatabase.authorizeAndAdvance at hadv
  rw [bind_eq_ok] at hadv
  obtain ⟨parsed, _, hadv⟩ := hadv
  split at hadv
  · cases hadv
  split at hadv
  · cases hadv
  simp only [bind_eq_ok, pure_eq_ok, Prod.mk.injEq] at hadv
  obtain ⟨node, hnode, ⟨cursors, repeated⟩, hcursors, status, _, rfl, rfl, rfl⟩ :=
    hadv
  exact ⟨rfl, rfl, node, activeNode_eq_ok hnode, rfl, advanceStream_cases hcursors⟩

/-! ## The history and the cursor -/

def NodeStreamRow.message {ρ : Type} (row : NodeStreamRow ρ) : SequencedMessage :=
  ⟨row.nodeSequence, row.eventId⟩

def NodeStreamCursor.message (cursor : NodeStreamCursor) : SequencedMessage :=
  ⟨cursor.lastSequence, cursor.lastEventId⟩

structure HistoryAgrees {ρ : Type} (cursors : List NodeStreamCursor)
    (stream : NodeTopicStream) (rows : List (NodeStreamRow ρ)) : Prop where
  shown : ∀ id cursor, findCursor cursors id stream = some cursor →
    ∃ row ∈ rows, row.nodeRecordId = id ∧ row.message = cursor.message ∧
      row.capturedAt = cursor.lastCapturedAt
  bounded : ∀ row ∈ rows, ∃ cursor, findCursor cursors row.nodeRecordId stream = some cursor ∧
      row.nodeSequence ≤ cursor.lastSequence ∧
      row.capturedAt ≤ cursor.lastCapturedAt
  unique : ∀ row ∈ rows, ∀ other ∈ rows, row.nodeRecordId = other.nodeRecordId →
    row.nodeSequence = other.nodeSequence → row = other

namespace HistoryAgrees

variable {ρ : Type} {cursors : List NodeStreamCursor} {stream : NodeTopicStream}
  {rows : List (NodeStreamRow ρ)}

theorem nil : HistoryAgrees [] stream ([] : List (NodeStreamRow ρ)) where
  shown _ _ hcursor := by cases hcursor
  bounded _ hrow := absurd hrow List.not_mem_nil
  unique _ hrow := absurd hrow List.not_mem_nil

theorem latest (hagrees : HistoryAgrees cursors stream rows) (id : String) :
    (latestRow rows id).map NodeStreamRow.message =
      (findCursor cursors id stream).map NodeStreamCursor.message := by
  unfold latestRow
  cases hcursor : findCursor cursors id stream with
  | none =>
    have hnone : rows.filter (fun row => row.nodeRecordId = id) = [] := by
      rw [List.filter_eq_nil_iff]
      intro row hrow hid
      obtain ⟨cursor, hfound, _⟩ := hagrees.bounded row hrow
      rw [of_decide_eq_true hid, hcursor] at hfound
      cases hfound
    rw [hnone]
    rfl
  | some cursor =>
    obtain ⟨row, hrow, hid, hmessage, hcapt⟩ := hagrees.shown id cursor hcursor
    have hmem : row ∈ rows.filter (fun row => row.nodeRecordId = id) :=
      List.mem_filter.mpr ⟨hrow, decide_eq_true hid⟩
    cases hlat : (rows.filter fun row => row.nodeRecordId = id).argmax NodeStreamRow.rank with
    | none =>
      rw [List.argmax_eq_none.mp hlat] at hmem
      cases hmem
    | some last =>
      obtain ⟨hlast, hlastId⟩ := List.mem_filter.mp (List.argmax_mem hlat)
      have hsameId : last.nodeRecordId = id := of_decide_eq_true hlastId
      obtain ⟨found, hfound, hsequence, htime⟩ := hagrees.bounded last hlast
      rw [hsameId, hcursor, Option.some.injEq] at hfound
      rw [← hfound] at hsequence htime
      have hrowSequence : row.nodeSequence = cursor.lastSequence :=
        congrArg SequencedMessage.nodeSequence hmessage
      have hrank : row.rank ≤ last.rank := List.le_of_mem_argmax hmem hlat
      have hsame : last.nodeSequence = row.nodeSequence := by
        rcases Prod.Lex.toLex_le_toLex.mp hrank with hlt | ⟨_, hle⟩
        · rw [hcapt] at hlt
          exact absurd htime (not_le.mpr hlt)
        · rw [hrowSequence] at hle ⊢
          exact le_antisymm hsequence hle
      have heq := hagrees.unique last hlast row hrow (hsameId.trans hid.symm) hsame
      rw [Option.map_some, Option.map_some, heq, hmessage]

variable {advanced : List NodeStreamCursor}

theorem congr (hagrees : HistoryAgrees cursors stream rows)
    (hsame : ∀ id, findCursor advanced id stream = findCursor cursors id stream) :
    HistoryAgrees advanced stream rows where
  shown id cursor hcursor := hagrees.shown id cursor ((hsame id).symm.trans hcursor)
  bounded row hrow := by
    rw [hsame]
    exact hagrees.bounded row hrow
  unique := hagrees.unique

theorem append {event : NodeStreamEvent ρ}
    {row : NodeStreamRow ρ} (hagrees : HistoryAgrees cursors stream rows)
    (hadvances : Advances cursors advanced row.nodeRecordId stream event)
    (hclock : ∀ cursor, findCursor cursors row.nodeRecordId stream = some cursor →
      cursor.lastCapturedAt ≤ event.capturedAt)
    (hsequence : row.nodeSequence = event.nodeSequence) (hevent : row.eventId = event.eventId)
    (hcapt : row.capturedAt = event.capturedAt) :
    HistoryAgrees advanced stream (rows ++ [row]) := by
  obtain ⟨last, hlast, hlastSequence, hlastEvent, hlastCaptured⟩ := hadvances.cursor
  have hothers : ∀ id, id ≠ row.nodeRecordId →
      findCursor advanced id stream = findCursor cursors id stream :=
    fun id hid => hadvances.others id stream fun hboth => hid hboth.1
  have hfresh : ∀ other ∈ rows, other.nodeRecordId = row.nodeRecordId →
      other.nodeSequence < row.nodeSequence ∧ other.capturedAt ≤ row.capturedAt := by
    intro other hother hid
    obtain ⟨cursor, hcursor, hle, htime⟩ := hagrees.bounded other hother
    rw [hid] at hcursor
    rw [hsequence, hcapt]
    exact ⟨hle.trans_lt (hadvances.later cursor hcursor), htime.trans (hclock cursor hcursor)⟩
  constructor
  case shown =>
    intro id cursor hcursor
    by_cases hid : id = row.nodeRecordId
    · rw [hid, hlast, Option.some.injEq] at hcursor
      refine ⟨row, List.mem_append_right _ (List.mem_singleton_self row), hid.symm, ?_, ?_⟩
      · unfold NodeStreamRow.message NodeStreamCursor.message
        rw [← hcursor, hsequence, hevent, hlastSequence, hlastEvent]
      · rw [← hcursor, hcapt, hlastCaptured]
    · rw [hothers id hid] at hcursor
      obtain ⟨other, hother, hshown⟩ := hagrees.shown id cursor hcursor
      exact ⟨other, List.mem_append_left _ hother, hshown⟩
  case bounded =>
    intro other hother
    rcases List.mem_append.mp hother with hold | hnew
    · by_cases hid : other.nodeRecordId = row.nodeRecordId
      · obtain ⟨hlt, htime⟩ := hfresh other hold hid
        rw [hid]
        refine ⟨last, hlast, ?_, ?_⟩
        · rw [hlastSequence, ← hsequence]
          exact hlt.le
        · rw [hlastCaptured, ← hcapt]
          exact htime
      · rw [hothers _ hid]
        exact hagrees.bounded other hold
    · rw [List.mem_singleton.mp hnew]
      refine ⟨last, hlast, ?_, ?_⟩
      · rw [hlastSequence, hsequence]
      · rw [hlastCaptured, hcapt]
  case unique =>
    intro first hfirst second hsecond hid hsame
    rcases List.mem_append.mp hfirst with holdFirst | hnewFirst
    · rcases List.mem_append.mp hsecond with holdSecond | hnewSecond
      · exact hagrees.unique first holdFirst second holdSecond hid hsame
      · rw [List.mem_singleton.mp hnewSecond] at hid hsame
        exact absurd hsame (hfresh first holdFirst hid).1.ne
    · rw [List.mem_singleton.mp hnewFirst] at hid hsame ⊢
      rcases List.mem_append.mp hsecond with holdSecond | hnewSecond
      · exact absurd hsame.symm (hfresh second holdSecond hid.symm).1.ne
      · exact (List.mem_singleton.mp hnewSecond).symm

end HistoryAgrees

theorem persistRow_cases {ρ : Type} {kind organizationId : String}
    {rows stored : List (NodeStreamRow ρ)} {node : CentralNode}
    {event : NodeStreamEvent ρ} {replayed repeated : Bool} {answer : NodeStreamRow ρ}
    (hpers : persistRow kind rows node organizationId event receivedAt replayed =
      .ok (stored, answer, repeated)) :
    (replayed = true ∧ stored = rows) ∨
      (replayed = false ∧ stored = rows ++ [answer] ∧
        answer.nodeRecordId = node.id ∧ answer.nodeSequence = event.nodeSequence ∧
        answer.eventId = event.eventId ∧ answer.capturedAt = event.capturedAt) := by
  unfold persistRow at hpers
  dsimp only at hpers
  split at hpers
  · cases hpers
  · rw [Except.ok.injEq, Prod.mk.injEq] at hpers
    exact .inl ⟨rfl, hpers.1.symm⟩
  · cases hpers
  · split at hpers
    · cases hpers
    · simp only [Except.ok.injEq, Prod.mk.injEq] at hpers
      obtain ⟨rfl, rfl, _⟩ := hpers
      exact .inr ⟨rfl, rfl, rfl, rfl, rfl, rfl⟩

/-! ## A clock which does not step back -/

namespace StreamDatabase

/-- An event which would advance the cursor of its stream is captured no earlier
than the event the cursor shows. -/
def KeepsClock {ρ : Type} (database : StreamDatabase) (organizationId : String)
    (stream : NodeTopicStream) (event : NodeStreamEvent ρ) : Prop :=
  ∀ node ∈ database.registry.nodeOf organizationId event.nodeId,
    ∀ cursor ∈ findCursor database.cursors node.id stream,
      cursor.lastSequence < event.nodeSequence → cursor.lastCapturedAt ≤ event.capturedAt

instance {ρ : Type} (database : StreamDatabase) (organizationId : String)
    (stream : NodeTopicStream) (event : NodeStreamEvent ρ) :
    Decidable (database.KeepsClock organizationId stream event) :=
  inferInstanceAs (Decidable (∀ node ∈ _, ∀ cursor ∈ _, _ → _))

def keepsClock (database : StreamDatabase) : StreamRequest → Prop
  | .health organizationId event _ _ =>
    database.KeepsClock organizationId .health event
  | .status organizationId event _ _ =>
    database.KeepsClock organizationId .status event
  | .registry _ _ => True

instance (database : StreamDatabase) :
    ∀ request, Decidable (database.keepsClock request)
  | .health .. => inferInstanceAs (Decidable (database.KeepsClock _ _ _))
  | .status .. => inferInstanceAs (Decidable (database.KeepsClock _ _ _))
  | .registry .. => .isTrue trivial

structure Consistent (database : StreamDatabase) : Prop where
  health : HistoryAgrees database.cursors .health database.healthSamples
  status : HistoryAgrees database.cursors .status database.statusEvents

theorem initial_consistent : initial.Consistent := ⟨.nil, .nil⟩

variable {database : StreamDatabase}

theorem historyAgrees_persisted {ρ : Type} {organizationId topic kind : String}
    {event : NodeStreamEvent ρ} {stream : NodeTopicStream} {receivedAt : ℚ}
    {advanced : StreamDatabase} {observed : CentralNode} {replayed repeated : Bool}
    {rows stored : List (NodeStreamRow ρ)} {answer : NodeStreamRow ρ}
    (hagrees : HistoryAgrees database.cursors stream rows)
    (hclock : database.KeepsClock organizationId stream event)
    (hadv : database.authorizeAndAdvance organizationId event topic stream
      receivedAt = .ok (advanced, observed, replayed))
    (hpers : persistRow kind rows observed organizationId event receivedAt
      replayed = .ok (stored, answer, repeated)) :
    HistoryAgrees advanced.cursors stream stored := by
  obtain ⟨_, _, node, hnode, hid, hcursors⟩ := authorizeAndAdvance_cases hadv
  rcases persistRow_cases hpers with
    ⟨hreplayed, hstored⟩ | ⟨hnew, hstored, hrow, hsequence, hevent, hcapt⟩
  · rcases hcursors with ⟨_, hsame⟩ | ⟨hnew, _⟩
    · rw [hstored, hsame]
      exact hagrees
    · rw [hreplayed] at hnew
      cases hnew
  · rcases hcursors with ⟨hreplayed, _⟩ | ⟨_, hadvances⟩
    · rw [hreplayed] at hnew
      cases hnew
    · have hanswer : answer.nodeRecordId = node.id := hrow.trans hid
      rw [← hanswer] at hadvances
      rw [hstored]
      apply hagrees.append hadvances _ hsequence hevent hcapt
      intro cursor hcursor
      have hlater := hadvances.later cursor hcursor
      rw [hanswer] at hcursor
      exact hclock node hnode cursor hcursor hlater

theorem findCursor_otherStream {ρ : Type} {organizationId topic : String}
    {event : NodeStreamEvent ρ} {stream other : NodeTopicStream} {receivedAt : ℚ}
    {advanced : StreamDatabase} {observed : CentralNode} {replayed : Bool}
    (hadv : database.authorizeAndAdvance organizationId event topic stream
      receivedAt = .ok (advanced, observed, replayed))
    (hother : other ≠ stream) (id : String) :
    findCursor advanced.cursors id other = findCursor database.cursors id other := by
  obtain ⟨_, _, node, _, _, hcursors⟩ := authorizeAndAdvance_cases hadv
  rcases hcursors with ⟨_, hsame⟩ | ⟨_, hadvances⟩
  · rw [hsame]
  · exact hadvances.others id other fun hboth => hother hboth.2

theorem step_consistent {request : StreamRequest} {next : StreamDatabase}
    (hcons : database.Consistent) (hclock : database.keepsClock request)
    (hstep : database.step request = some next) : next.Consistent := by
  cases request with
  | health organizationId event topic receivedAt =>
    unfold step at hstep
    dsimp only at hstep
    split at hstep
    · cases hstep
      exact hcons
    next committed _ _ hpers =>
      cases hstep
      unfold persistHealth at hpers
      simp only [bind_eq_ok, pure_eq_ok, Prod.mk.injEq] at hpers
      obtain ⟨⟨advanced, observed, replayed⟩, hadv, ⟨rows, row, repeated⟩,
        hrows, rfl, _, _⟩ := hpers
      have hframe := authorizeAndAdvance_cases hadv
      rw [hframe.1] at hrows
      constructor
      case health =>
        change HistoryAgrees advanced.cursors .health rows
        exact historyAgrees_persisted hcons.health hclock hadv hrows
      case status =>
        change HistoryAgrees advanced.cursors .status advanced.statusEvents
        rw [hframe.2.1]
        exact hcons.status.congr (findCursor_otherStream hadv (by decide))
  | status organizationId event topic receivedAt =>
    unfold step at hstep
    dsimp only at hstep
    split at hstep
    · cases hstep
      exact hcons
    next committed _ _ hpers =>
      cases hstep
      unfold persistStatus at hpers
      simp only [bind_eq_ok, pure_eq_ok, Prod.mk.injEq] at hpers
      obtain ⟨⟨advanced, observed, replayed⟩, hadv, ⟨rows, row, repeated⟩,
        hrows, rfl, _, _⟩ := hpers
      have hframe := authorizeAndAdvance_cases hadv
      rw [hframe.2.1] at hrows
      constructor
      case health =>
        change HistoryAgrees advanced.cursors .health advanced.healthSamples
        rw [hframe.1]
        exact hcons.health.congr (findCursor_otherStream hadv (by decide))
      case status =>
        change HistoryAgrees advanced.cursors .status rows
        exact historyAgrees_persisted hcons.status hclock hadv hrows
  | registry request fails =>
    unfold step at hstep
    cases hstep
    exact ⟨hcons.health, hcons.status⟩

def lastMessage (database : StreamDatabase) (organizationId nodeId : String)
    (stream : NodeTopicStream) : Except NodeStreamFault (Option SequencedMessage) := do
  let node ← database.streamNode organizationId nodeId
  return (findCursor database.cursors node.id stream).map NodeStreamCursor.message

theorem Consistent.latest (hcons : database.Consistent) (organizationId nodeId : String) :
    (database.latestHealth organizationId nodeId).map (Option.map NodeStreamRow.message) =
        database.lastMessage organizationId nodeId .health ∧
      (database.latestStatus organizationId nodeId).map (Option.map NodeStreamRow.message) =
        database.lastMessage organizationId nodeId .status := by
  unfold latestHealth latestStatus lastMessage
  cases database.streamNode organizationId nodeId with
  | error fault => exact ⟨rfl, rfl⟩
  | ok node =>
    constructor
    · change Except.ok _ = Except.ok _
      rw [Except.ok.injEq]
      exact hcons.health.latest node.id
    · change Except.ok _ = Except.ok _
      rw [Except.ok.injEq]
      exact hcons.status.latest node.id

/-- In every run whose accepted events are not captured before the ones they
follow, the latest rows of each node are the ones its cursors show. -/
theorem latest_shows_cursor {requests : List StreamRequest} {last : StreamDatabase}
    (hclock : StepsMeet step keepsClock initial requests)
    (hrun : runFrom step initial requests = some last)
    (organizationId nodeId : String) :
    (last.latestHealth organizationId nodeId).map (Option.map NodeStreamRow.message) =
        last.lastMessage organizationId nodeId .health ∧
      (last.latestStatus organizationId nodeId).map (Option.map NodeStreamRow.message) =
        last.lastMessage organizationId nodeId .status := by
  have hcons : last.Consistent :=
    (Reaches.of_stepsMeet hclock hrun).invariant (P := Consistent)
      (fun _ _ _ hbefore hguard hstep => step_consistent hbefore hguard hstep)
      initial_consistent
  exact hcons.latest organizationId nodeId

def installed : List StreamRequest :=
  [.registry ⟨⟨"org-1", false⟩, .provision ⟨"edge-1", "Edge 1", "key-1", "admin",
      30000, 120000⟩, ⟨"node-1", "credential-1", "command-1", "secret", 0⟩⟩ false,
    .registry ⟨⟨"org-1", false⟩, .changeState "edge-1" .active "admin" "installed",
      ⟨"", "", "command-2", "", 1⟩⟩ false,
    .status "org-1" ⟨"event-1", "edge-1", 1000, 1,
      ⟨.online, "device agent connected", none, true⟩⟩
      "nexolab/v1/org-1/edge-1/status" 1000]

theorem latest_shows_cursor_installed :
    ∃ last, runFrom step initial installed = some last ∧
      (last.latestHealth "org-1" "edge-1").map (Option.map NodeStreamRow.message) =
          last.lastMessage "org-1" "edge-1" .health ∧
        (last.latestStatus "org-1" "edge-1").map (Option.map NodeStreamRow.message) =
          last.lastMessage "org-1" "edge-1" .status := by
  obtain ⟨last, hrun⟩ : ∃ last, runFrom step initial installed = some last :=
    Option.isSome_iff_exists.mp (by decide +kernel)
  have hclock : StepsMeet step keepsClock initial installed := by decide +kernel
  exact ⟨last, hrun, latest_shows_cursor hclock hrun "org-1" "edge-1"⟩

theorem latest_hides_cursor :
    (runFrom step initial (installed ++ [.status "org-1" ⟨"event-2", "edge-1", 5, 2,
        ⟨.offline, "mqtt last will", none, false⟩⟩
        "nexolab/v1/org-1/edge-1/status" 1001])).map (fun last =>
      ((last.latestStatus "org-1" "edge-1").map (Option.map NodeStreamRow.message),
        last.lastMessage "org-1" "edge-1" .status)) =
      some (.ok (some ⟨1, "event-1"⟩), .ok (some ⟨2, "event-2"⟩)) := by
  decide +kernel

end StreamDatabase

end Nexolab
