import Nexolab.EdgeQueue
import Nexolab.NodeCursor
import Nexolab.TransitionSystem

/-!
# The status stream of a node

Before each CONNECT the edge agent numbers a pair: the online status it publishes
once it is connected and the last will the broker publishes when the connection
is lost.  The next pair is prepared after the online status, so a late will of an
old connection is a replay for the central cursor.  The broker may accept a
CONNECT whose CONNACK the agent never handles.
-/

namespace Nexolab

inductive NodeStatus where
  | online
  | offline
  deriving DecidableEq

structure StatusPayload where
  eventId : String
  nodeSequence : ℕ
  status : NodeStatus
  reason : String
  graceful : Bool
  deriving DecidableEq

/-- The prepared pair, and the will the MQTT client sends with a CONNECT. -/
structure NodeOperationalPublisher where
  (preparedOnline preparedWill will : Option StatusPayload)

def NodeOperationalPublisher.new : NodeOperationalPublisher := ⟨none, none, none⟩

/-- What SQLite does with the two allocations of a preparation, and the event
identifiers drawn. -/
inductive Preparation where
  | firstFails
  | secondFails
  | succeeds (onlineId willId : String)

/-- `_prepare_connection_locked`; without a publisher it has raised. -/
def prepareConnection (sequences : StreamSequences) :
    Preparation → StreamSequences × Option NodeOperationalPublisher
  | .firstFails => (sequences, none)
  | .secondFails => ((sequences.next "status").1, none)
  | .succeeds onlineId willId =>
    let (afterOnline, onlineSequence) := sequences.next "status"
    let (afterWill, willSequence) := afterOnline.next "status"
    let online : StatusPayload :=
      ⟨onlineId, onlineSequence, .online, "device agent connected", true⟩
    let will : StatusPayload :=
      ⟨willId, willSequence, .offline, "mqtt last will", false⟩
    (afterWill, some ⟨some online, some will, some will⟩)

/-- A CONNECT the broker has accepted, with what the agent publishes for it. -/
structure StatusConnection where
  will : StatusPayload
  online : Option StatusPayload
  graceful : List StatusPayload
  deriving DecidableEq

structure StatusState where
  sequences : StreamSequences
  /-- The publisher of the running agent. -/
  publisher : Option NodeOperationalPublisher
  /-- The newest connection comes first. -/
  connections : List StatusConnection
  /-- The CONNACK of the newest connection is still to be handled. -/
  awaiting : Bool
  /-- The broker has accepted a CONNECT since the last preparation. -/
  used : Bool
  /-- A graceful offline has been numbered since the last preparation. -/
  retired : Bool

def StatusState.initial : StatusState where
  sequences := fun _ => none
  publisher := none
  connections := []
  awaiting := false
  used := false
  retired := false

inductive StatusAction where
  /-- `connect` of a new agent. -/
  | start (preparation : Preparation)
  /-- The broker accepts the CONNECT of the client. -/
  | accept
  /-- `on_connected`, with the preparation it may begin with and the one it ends
  with.  What `_publish` reports does not change the state. -/
  | connected (first last : Preparation)
  /-- `publish_graceful_offline`; the event identifier is missing when SQLite
  fails. -/
  | gracefulOffline (eventId : Option String)
  | stop

namespace StatusState

/-- The last preparation has replaced the pair, or it has raised. -/
def prepared (state : StatusState) (preparation : Preparation) : StatusState :=
  match prepareConnection state.sequences preparation with
  | (sequences, none) => { state with sequences }
  | (sequences, some publisher) => { state with
      sequences
      publisher := some publisher
      used := false
      retired := false }

def publishedOnline (state : StatusState) (online : StatusPayload) : StatusState :=
  match state.connections with
  | [] => state
  | newest :: earlier => { state with
      connections := { newest with online := some online } :: earlier }

def onConnected (state : StatusState) (publisher : NodeOperationalPublisher)
    (first last : Preparation) : StatusState :=
  match publisher.preparedOnline, publisher.preparedWill with
  | some online, some _ => (state.publishedOnline online).prepared last
  | _, _ =>
    match prepareConnection state.sequences first with
    | (sequences, none) => { state with sequences }
    | (sequences, some publisher) =>
      match publisher.preparedOnline with
      | none => state
      | some online =>
        ({ state with
          sequences
          publisher := some publisher }.publishedOnline online).prepared last

end StatusState

def statusStep (state : StatusState) : StatusAction → Option StatusState
  | .start preparation =>
    match state.publisher with
    | some _ => none
    | none => some { state.prepared preparation with awaiting := false }
  | .accept =>
    match state.publisher with
    | some ⟨_, _, some will⟩ => some { state with
        connections := ⟨will, none, []⟩ :: state.connections
        awaiting := true
        used := true }
    | _ => none
  | .connected first last =>
    match state.publisher, state.awaiting with
    | some publisher, true =>
      some { state.onConnected publisher first last with awaiting := false }
    | _, _ => none
  | .gracefulOffline eventId =>
    match state.publisher, state.connections, eventId with
    | some _, newest :: earlier, some eventId =>
      let (sequences, sequence) := state.sequences.next "status"
      let offline : StatusPayload :=
        ⟨eventId, sequence, .offline, "device agent stopped", true⟩
      some { state with
        sequences
        connections :=
          { newest with graceful := newest.graceful ++ [offline] } :: earlier
        retired := true }
    | some _, _ :: _, none => some state
    | _, _, _ => none
  | .stop => some { state with publisher := none, awaiting := false }

/-! ## The order of the numbers -/

def StatusPayload.message (payload : StatusPayload) : SequencedMessage :=
  ⟨payload.nodeSequence, payload.eventId⟩

def StatusConnection.statuses (connection : StatusConnection) :
    List StatusPayload :=
  connection.will :: connection.online.toList ++ connection.graceful

/-- The online status of a connection has a smaller number than its offline
statuses and a larger one than every status of an earlier connection; while the
connection lives, the cursor accepts it whatever has been received before. -/
structure StatusState.Ordered (state : StatusState) : Prop where
  online_lt : ∀ connection ∈ state.connections, ∀ online, connection.online = some online →
      online.nodeSequence < connection.will.nodeSequence ∧
      ∀ offline ∈ connection.graceful, online.nodeSequence < offline.nodeSequence
  earlier_lt : state.connections.Pairwise fun later earlier => ∀ online,
    later.online = some online →
      ∀ status ∈ earlier.statuses, status.nodeSequence < online.nodeSequence
  accepted : ∀ newest earlier online, state.connections = newest :: earlier →
    newest.online = some online → ∀ received : List SequencedMessage,
      (∀ message ∈ received, message = online.message ∨
        ∃ connection ∈ earlier, ∃ status ∈ connection.statuses, message = status.message) →
      ∃ cursor, advanceCursor (received.foldl receiveMessage none) online.message = .ok cursor

/-- A pair is prepared between two accepted CONNECTs, and none is used after a
graceful offline. -/
def statusSafe (state : StatusState) : StatusAction → Prop
  | .accept => state.used = false ∧ state.retired = false
  | .connected _ _ => state.retired = false
  | _ => True

instance (state : StatusState) : ∀ action, Decidable (statusSafe state action)
  | .accept => inferInstanceAs (Decidable (_ ∧ _))
  | .connected _ _ => inferInstanceAs (Decidable (_ = _))
  | .start _ | .gracefulOffline _ | .stop => .isTrue trivial

/-! ## The invariant -/

def StatusState.lastNumber (state : StatusState) : ℕ :=
  (state.sequences "status").getD 0

def NodeOperationalPublisher.Holds (publisher : NodeOperationalPublisher)
    (online will : StatusPayload) : Prop :=
  publisher = ⟨some online, some will, some will⟩ ∧ online.nodeSequence < will.nodeSequence

def BelowOnline (online : StatusPayload) (connections : List StatusConnection) :
    Prop :=
  ∀ connection ∈ connections, ∀ status ∈ connection.statuses,
    status.nodeSequence < online.nodeSequence

structure StatusInvariant (state : StatusState) : Prop where
  numbered : ∀ connection ∈ state.connections,
    ∀ status ∈ connection.statuses, status.nodeSequence ≤ state.lastNumber
  prepared : ∀ publisher, state.publisher = some publisher →
    ∃ online will, publisher.Holds online will ∧ will.nodeSequence ≤ state.lastNumber ∧
      (state.used = false → state.retired = false →
        BelowOnline online state.connections) ∧
      (state.awaiting = true → ∃ newest earlier,
        state.connections = newest :: earlier ∧ newest.will = will ∧
        newest.online = none ∧ (state.retired = false → newest.graceful = []) ∧
        BelowOnline online earlier)
  online_lt : ∀ connection ∈ state.connections, ∀ online, connection.online = some online →
      online.nodeSequence < connection.will.nodeSequence ∧
      ∀ offline ∈ connection.graceful, online.nodeSequence < offline.nodeSequence
  earlier_lt : state.connections.Pairwise fun later earlier => ∀ online,
    later.online = some online →
      ∀ status ∈ earlier.statuses, status.nodeSequence < online.nodeSequence

theorem StreamSequences.next_lastNumber (sequences : StreamSequences) (stream : String) :
    ((sequences.next stream).1 stream).getD 0 = (sequences stream).getD 0 + 1 ∧
      (sequences.next stream).2 = (sequences stream).getD 0 + 1 := by
  unfold StreamSequences.next
  dsimp only
  rw [Function.update_self]
  exact ⟨rfl, rfl⟩

theorem prepareConnection_spec (sequences : StreamSequences) (preparation : Preparation) :
    (sequences "status").getD 0 ≤
        ((prepareConnection sequences preparation).1 "status").getD 0 ∧
      ∀ publisher, (prepareConnection sequences preparation).2 = some publisher →
        ∃ online will, publisher.Holds online will ∧
          (sequences "status").getD 0 < online.nodeSequence ∧
          will.nodeSequence = ((prepareConnection sequences preparation).1 "status").getD 0 := by
  obtain ⟨hfirst, hfirstNumber⟩ := sequences.next_lastNumber "status"
  obtain ⟨hsecond, hsecondNumber⟩ :=
    (sequences.next "status").1.next_lastNumber "status"
  cases preparation with
  | firstFails => exact ⟨le_rfl, nofun⟩
  | secondFails =>
    constructor
    · change _ ≤ ((sequences.next "status").1 "status").getD 0
      omega
    · exact nofun
  | succeeds onlineId willId =>
    constructor
    · change _ ≤ (((sequences.next "status").1.next "status").1 "status").getD 0
      omega
    · intro publisher hpub
      simp only [prepareConnection, Option.some.injEq] at hpub
      refine ⟨_, _, ⟨hpub.symm, ?_⟩, ?_, ?_⟩
      · change (sequences.next "status").2 <
          ((sequences.next "status").1.next "status").2
        omega
      · change _ < (sequences.next "status").2
        omega
      · change ((sequences.next "status").1.next "status").2 =
          (((sequences.next "status").1.next "status").1 "status").getD 0
        omega

theorem StatusState.prepared_notAwaiting (state : StatusState) (preparation : Preparation) :
    ({ state.prepared preparation with awaiting := false } : StatusState) =
      StatusState.prepared { state with awaiting := false } preparation := by
  unfold prepared
  dsimp only
  split <;> rfl

namespace StatusInvariant

variable {state : StatusState}

theorem initial : StatusInvariant StatusState.initial where
  numbered _ hconn := absurd hconn List.not_mem_nil
  prepared _ hnone := by cases hnone
  online_lt _ hconn := absurd hconn List.not_mem_nil
  earlier_lt := List.Pairwise.nil

theorem prepare (hinv : StatusInvariant state) (hawaiting : state.awaiting = false)
    (preparation : Preparation) : StatusInvariant (state.prepared preparation) := by
  obtain ⟨hle, hpair⟩ := prepareConnection_spec state.sequences preparation
  unfold StatusState.prepared
  cases hprep : prepareConnection state.sequences preparation with
  | mk sequences result =>
    rw [hprep] at hle hpair
    dsimp only at hle hpair
    cases result with
    | none =>
      refine { hinv with numbered := ?numbered, prepared := ?prepared }
      case numbered =>
        intro connection hconn status hstatus
        exact (hinv.numbered connection hconn status hstatus).trans hle
      case prepared =>
        intro publisher hpub
        obtain ⟨online, will, hholds, hwill, hfresh, hconnack⟩ :=
          hinv.prepared publisher hpub
        exact ⟨online, will, hholds, hwill.trans hle, hfresh, hconnack⟩
    | some publisher =>
      obtain ⟨online, will, hholds, hnew, hlast⟩ := hpair publisher rfl
      refine { hinv with numbered := ?numbered, prepared := ?prepared }
      case numbered =>
        intro connection hconn status hstatus
        exact (hinv.numbered connection hconn status hstatus).trans hle
      case prepared =>
        intro other hother
        cases hother
        refine ⟨online, will, hholds, hlast.le, ?_, ?_⟩
        · intro _ _ connection hconn status hstatus
          exact (hinv.numbered connection hconn status hstatus).trans_lt hnew
        · intro hyes
          change state.awaiting = true at hyes
          rw [hawaiting] at hyes
          cases hyes

variable {publisher : NodeOperationalPublisher}

theorem accept (hinv : StatusInvariant state) {will : StatusPayload}
    (hpub : state.publisher = some publisher)
    (hwill : publisher.will = some will) (hused : state.used = false)
    (hretired : state.retired = false) :
    StatusInvariant { state with
      connections := ⟨will, none, []⟩ :: state.connections
      awaiting := true
      used := true } := by
  obtain ⟨online, prepared, ⟨hpair, hlt⟩, hle, hfresh, _⟩ :=
    hinv.prepared publisher hpub
  rw [hpair, Option.some.injEq] at hwill
  have hbelow := hfresh hused hretired
  have hcases : ∀ connection ∈ (⟨will, none, []⟩ : StatusConnection) :: state.connections,
      connection = ⟨will, none, []⟩ ∨ connection ∈ state.connections :=
    fun connection hconn => List.mem_cons.mp hconn
  constructor
  case numbered =>
    intro connection hconn status hstatus
    rcases hcases connection hconn with hnew | hold
    · rw [hnew] at hstatus
      have hsame : status = will := List.mem_singleton.mp hstatus
      rw [hsame, ← hwill]
      exact hle
    · exact hinv.numbered connection hold status hstatus
  case prepared =>
    intro other hother
    change state.publisher = some other at hother
    rw [hpub, Option.some.injEq] at hother
    rw [← hother]
    refine ⟨online, prepared, ⟨hpair, hlt⟩, hle, ?_, ?_⟩
    · intro hunused
      cases hunused
    · intro _
      exact ⟨_, _, rfl, hwill.symm, rfl, fun _ => rfl, hbelow⟩
  case online_lt =>
    intro connection hconn published hpubd
    rcases hcases connection hconn with hnew | hold
    · rw [hnew] at hpubd
      cases hpubd
    · exact hinv.online_lt connection hold published hpubd
  case earlier_lt =>
    apply List.pairwise_cons.mpr
    refine ⟨?_, hinv.earlier_lt⟩
    intro earlier _ published hpubd
    cases hpubd

theorem publishOnline (hinv : StatusInvariant state) {online : StatusPayload}
    (hpub : state.publisher = some publisher) (honline : publisher.preparedOnline = some online)
    (hawaiting : state.awaiting = true) (hretired : state.retired = false) :
    StatusInvariant { state.publishedOnline online with awaiting := false } := by
  obtain ⟨prepared, will, ⟨hpair, hlt⟩, hle, hfresh, hconnack⟩ :=
    hinv.prepared publisher hpub
  obtain ⟨newest, earlier, hconns, hwill, hnone, hgraceful, hbelow⟩ :=
    hconnack hawaiting
  rw [hpair, Option.some.injEq] at honline
  subst honline
  have hstate : ({ state.publishedOnline prepared with awaiting := false } :
      StatusState) = { state with
        connections := { newest with online := some prepared } :: earlier
        awaiting := false } := by
    unfold StatusState.publishedOnline
    rw [hconns]
  have hnumbered := hinv.numbered
  have honlineLt := hinv.online_lt
  have hearlierLt := hinv.earlier_lt
  rw [hconns] at hnumbered honlineLt hearlierLt
  have hnewest : newest.statuses = [newest.will] := by
    unfold StatusConnection.statuses
    rw [hnone, hgraceful hretired]
    rfl
  rw [hstate]
  have hstatuses : ∀ status ∈ ({ newest with online := some prepared } : StatusConnection).statuses,
      status = newest.will ∨ status = prepared := by
    intro status hstatus
    unfold StatusConnection.statuses at hstatus
    rw [hgraceful hretired] at hstatus
    simpa using hstatus
  constructor
  case numbered =>
    intro connection hconn status hstatus
    rcases List.mem_cons.mp hconn with hsame | hold
    · rw [hsame] at hstatus
      rcases hstatuses status hstatus with hmine | hmine
      · rw [hmine, hwill]
        exact hle
      · rw [hmine]
        exact hlt.le.trans hle
    · exact hnumbered connection (List.mem_cons_of_mem _ hold) status hstatus
  case prepared =>
    intro other hother
    change state.publisher = some other at hother
    rw [hpub, Option.some.injEq] at hother
    rw [← hother]
    refine ⟨prepared, will, ⟨hpair, hlt⟩, hle, ?_, ?_⟩
    · intro hused _
      -- The will of the newest connection is above the online status, so the
      -- pair has been used.
      have hfirst := hfresh hused hretired newest
        (by rw [hconns]; exact List.mem_cons_self) newest.will
        (by rw [hnewest]; exact List.mem_singleton_self _)
      rw [hwill] at hfirst
      exact absurd hfirst (lt_asymm hlt)
    · intro hyes
      cases hyes
  case online_lt =>
    intro connection hconn published hpubd
    rcases List.mem_cons.mp hconn with hsame | hold
    · rw [hsame] at hpubd ⊢
      cases hpubd
      dsimp only
      rw [hwill, hgraceful hretired]
      exact ⟨hlt, fun offline hoffline => absurd hoffline List.not_mem_nil⟩
    · exact honlineLt connection (List.mem_cons_of_mem _ hold) published hpubd
  case earlier_lt =>
    apply List.pairwise_cons.mpr
    refine ⟨?_, (List.pairwise_cons.mp hearlierLt).2⟩
    intro connection hconn published hpubd status hstatus
    cases hpubd
    exact hbelow connection hconn status hstatus

theorem gracefulOffline (hinv : StatusInvariant state)
    {newest : StatusConnection} {earlier : List StatusConnection}
    (hconns : state.connections = newest :: earlier)
    {sequences : StreamSequences} {offline : StatusPayload}
    (hnumber : offline.nodeSequence = state.lastNumber + 1)
    (hlast : (sequences "status").getD 0 = state.lastNumber + 1) :
    StatusInvariant { state with
      sequences
      connections :=
        { newest with graceful := newest.graceful ++ [offline] } :: earlier
      retired := true } := by
  have hnumbered := hinv.numbered
  have honlineLt := hinv.online_lt
  have hearlierLt := hinv.earlier_lt
  rw [hconns] at hnumbered honlineLt hearlierLt
  have hstatuses : ∀ status ∈ ({ newest with
      graceful := newest.graceful ++ [offline] } : StatusConnection).statuses,
      status ∈ newest.statuses ∨ status = offline := by
    intro status hstatus
    unfold StatusConnection.statuses at hstatus ⊢
    dsimp only at hstatus
    rw [← List.append_assoc] at hstatus
    rcases List.mem_append.mp hstatus with hold | hnew
    · exact .inl hold
    · exact .inr (List.mem_singleton.mp hnew)
  constructor
  case numbered =>
    intro connection hconn status hstatus
    change _ ≤ (sequences "status").getD 0
    rw [hlast]
    rcases List.mem_cons.mp hconn with hsame | hold
    · rw [hsame] at hstatus
      rcases hstatuses status hstatus with hmine | hnew
      · exact Nat.le_succ_of_le (hnumbered newest List.mem_cons_self status hmine)
      · rw [hnew, hnumber]
    · exact Nat.le_succ_of_le (hnumbered connection (List.mem_cons_of_mem _ hold) status hstatus)
  case prepared =>
    intro publisher hpub
    obtain ⟨online, will, hholds, hwill, _, hconnack⟩ :=
      hinv.prepared publisher hpub
    refine ⟨online, will, hholds, ?_, ?_, ?_⟩
    · change _ ≤ (sequences "status").getD 0
      rw [hlast]
      exact Nat.le_succ_of_le hwill
    · intro _ hunretired
      cases hunretired
    · intro hawaiting
      obtain ⟨first, rest, hsplit, hfirstWill, hnone, _, hbelow⟩ :=
        hconnack hawaiting
      rw [hconns, List.cons.injEq] at hsplit
      obtain ⟨hfirst, hrest⟩ := hsplit
      subst hfirst
      subst hrest
      exact ⟨_, _, rfl, hfirstWill, hnone, nofun, hbelow⟩
  case online_lt =>
    intro connection hconn online honline
    rcases List.mem_cons.mp hconn with hsame | hold
    · rw [hsame] at honline ⊢
      obtain ⟨hwill, hgraceful⟩ := honlineLt newest List.mem_cons_self online honline
      refine ⟨hwill, ?_⟩
      intro other hother
      rcases List.mem_append.mp hother with hmine | hnew
      · exact hgraceful other hmine
      · rw [List.mem_singleton.mp hnew, hnumber]
        have hmem : online ∈ newest.statuses := by
          unfold StatusConnection.statuses
          rw [show newest.online = some online from honline]
          simp
        exact Nat.lt_succ_of_le (hnumbered newest List.mem_cons_self online hmem)
    · exact honlineLt connection (List.mem_cons_of_mem _ hold) online honline
  case earlier_lt =>
    obtain ⟨hnewest, hrest⟩ := List.pairwise_cons.mp hearlierLt
    exact List.pairwise_cons.mpr ⟨hnewest, hrest⟩

theorem withAgent (hinv : StatusInvariant state) {publisher : Option NodeOperationalPublisher}
    (hpub : ∀ other, publisher = some other → state.publisher = some other) :
    StatusInvariant { state with
      publisher
      awaiting := false } :=
  { hinv with
    prepared := fun other hother => by
      obtain ⟨online, will, hholds, hwill, hfresh, _⟩ :=
        hinv.prepared other (hpub other hother)
      exact ⟨online, will, hholds, hwill, hfresh, nofun⟩ }

theorem step (hinv : StatusInvariant state) {action : StatusAction}
    {next : StatusState} (hsafe : statusSafe state action)
    (hstep : statusStep state action = some next) : StatusInvariant next := by
  cases action with
  | start preparation =>
    simp only [statusStep] at hstep
    split at hstep
    next => cases hstep
    next hnone =>
      rw [Option.some.injEq] at hstep
      rw [← hstep, state.prepared_notAwaiting]
      exact (hinv.withAgent fun _ hother => hother).prepare rfl preparation
  | accept =>
    simp only [statusStep] at hstep
    split at hstep
    next will hpub =>
      cases hstep
      exact hinv.accept hpub rfl hsafe.1 hsafe.2
    next => cases hstep
  | connected first last =>
    simp only [statusStep] at hstep
    split at hstep
    next publisher hpub hawaiting =>
      obtain ⟨online, will, ⟨hpair, _⟩, _⟩ := hinv.prepared publisher hpub
      have hconnected : state.onConnected publisher first last =
          (state.publishedOnline online).prepared last := by
        unfold StatusState.onConnected
        rw [hpair]
      rw [Option.some.injEq, hconnected, StatusState.prepared_notAwaiting] at hstep
      rw [← hstep]
      apply StatusInvariant.prepare _ rfl
      apply hinv.publishOnline hpub _ hawaiting hsafe
      rw [hpair]
    next => cases hstep
  | gracefulOffline eventId =>
    simp only [statusStep] at hstep
    split at hstep
    next newest earlier eventId _ hconns =>
      cases hstep
      obtain ⟨hlast, hnumber⟩ := state.sequences.next_lastNumber "status"
      exact hinv.gracefulOffline hconns hnumber hlast
    next =>
      cases hstep
      exact hinv
    next => cases hstep
  | stop =>
    simp only [statusStep, Option.some.injEq] at hstep
    rw [← hstep]
    exact hinv.withAgent nofun

theorem ordered (hinv : StatusInvariant state) : state.Ordered where
  online_lt := hinv.online_lt
  earlier_lt := hinv.earlier_lt
  accepted := by
    intro newest earlier online hconns honline received hreceived
    have hearlier := hinv.earlier_lt
    rw [hconns] at hearlier
    have hbelow := (List.pairwise_cons.mp hearlier).1
    apply advanceCursor_accepts (receive_shown received)
    intro message hmessage
    rcases hreceived message hmessage with hsame | ⟨connection, hconn, status, hstatus, heq⟩
    · exact .inr hsame
    · left
      rw [heq]
      exact hbelow connection hconn online honline status hstatus

end StatusInvariant

/-- Along every run whose steps are safe the numbers of the status stream are in
order. -/
theorem statusStream_ordered {state : StatusState}
    (hreach : Reaches statusStep statusSafe .initial state) : state.Ordered := by
  apply StatusInvariant.ordered
  apply hreach.invariant
  · intro current action next hinv hsafe hstep
    exact hinv.step hsafe hstep
  · exact .initial

/-- Two connections of one agent with failures of SQLite around them, a graceful
end, and a connection of the next agent. -/
def restartedAgent : List StatusAction :=
  [.start .firstFails, .start .secondFails, .start (.succeeds "online-1" "will-1"),
    .accept, .connected .firstFails (.succeeds "online-2" "will-2"), .accept,
    .connected .firstFails .secondFails, .gracefulOffline none,
    .gracefulOffline (some "offline-1"), .stop,
    .start (.succeeds "online-3" "will-3"), .accept,
    .connected .firstFails (.succeeds "online-4" "will-4")]

theorem statusStream_ordered_restarted :
    ∃ state, runFrom statusStep .initial restartedAgent = some state ∧
      state.Ordered := by
  have hsafe : StepsMeet statusStep statusSafe .initial restartedAgent := by
    decide +kernel
  have hruns : (runFrom statusStep .initial restartedAgent).isSome = true := by
    decide +kernel
  obtain ⟨state, hstate⟩ := Option.isSome_iff_exists.mp hruns
  exact ⟨state, hstate, statusStream_ordered (.of_stepsMeet hsafe hstate)⟩

/-- The broker accepts a CONNECT, the connection is lost before the agent handles
the CONNACK, and the client connects again. -/
def lostConnack : List StatusAction :=
  [.start (.succeeds "online-1" "will-1"), .accept, .accept,
    .connected .firstFails (.succeeds "online-2" "will-2")]

/-- The online status of the second connection is numbered below the will of the
first one. -/
theorem statusStream_not_ordered :
    ¬ ∀ actions state, runFrom statusStep .initial actions = some state →
      state.Ordered := by
  intro hall
  have hrun : (runFrom statusStep .initial lostConnack).map
      StatusState.connections = some [⟨⟨"will-1", 2, .offline, "mqtt last will", false⟩,
          some ⟨"online-1", 1, .online, "device agent connected", true⟩, []⟩,
          ⟨⟨"will-1", 2, .offline, "mqtt last will", false⟩, none, []⟩] := by
    decide +kernel
  obtain ⟨state, hstate, hconns⟩ := Option.map_eq_some_iff.mp hrun
  have hearlier := (hall _ state hstate).earlier_lt
  rw [hconns] at hearlier
  have hlt := (List.pairwise_cons.mp hearlier).1 _ List.mem_cons_self _ rfl _
    List.mem_cons_self
  exact absurd hlt (by decide)

end Nexolab
