import Nexolab.NewestFirst
import Nexolab.OrderedDictionary
import Nexolab.TelemetryContract

/-!
# Loading a history window

The server answers with the newest samples of a window, and the browser walks
backwards by a cursor in milliseconds while samples have microseconds.  Two loaders
have the same loop.
-/

namespace Nexolab

/-- The columns of a sample which are filtered by or read; `ι` has the event
identifiers. -/
structure HistorySample (ι : Type) where
  eventId : ι
  (nodeId equipmentId channelId metric unit quality : String)
  alarm : Option String
  capturedAt : Instant
  deriving DecidableEq

structure TelemetryFilters where
  (nodeId equipmentId channelId metric quality alarm : Option String)
  deriving DecidableEq

def TelemetryFilters.none : TelemetryFilters := ⟨.none, .none, .none, .none, .none, .none⟩

structure HistoryRequest where
  filters : TelemetryFilters
  (fromAt toAt : ℤ)
  snapshotAt : Option Instant
  (limit offset : ℕ)

structure HistoryPage (ι : Type) where
  items : List (HistorySample ι)
  nextOffset : Option ℕ
  snapshotAt : Option Instant

/-- `Date.parse` reads a microsecond timestamp to the millisecond. -/
def millis (capturedAt : Instant) : ℤ := capturedAt / 1000

theorem millis_mono {first second : Instant} (hle : first ≤ second) :
    millis first ≤ millis second :=
  Int.ediv_le_ediv (by decide) hle

theorem lt_date_iff {capturedAt : Instant} {date : ℤ} :
    capturedAt < date * 1000 ↔ millis capturedAt ≤ date - 1 := by
  unfold millis
  rw [Int.le_sub_one_iff, Int.ediv_lt_iff_lt_mul (by decide)]

section Server

variable {ι : Type}

def TelemetryFilters.matches (filters : TelemetryFilters) (sample : HistorySample ι) :
    Bool :=
  filters.nodeId.all (· = sample.nodeId) && filters.equipmentId.all (· = sample.equipmentId) &&
    filters.channelId.all (· = sample.channelId) &&
    filters.metric.all (· = sample.metric) &&
    filters.quality.all (· = sample.quality) &&
    filters.alarm.all (sample.alarm = some ·)

variable [LinearOrder ι]

def NewerFirst (first second : HistorySample ι) : Prop :=
  toLex (second.capturedAt, second.eventId) ≤ toLex (first.capturedAt, first.eventId)

instance : DecidableRel (NewerFirst (ι := ι)) :=
  fun _ _ => inferInstanceAs (Decidable (toLex _ ≤ toLex _))

instance : Std.Total (NewerFirst (ι := ι)) := ⟨fun _ _ => le_total _ _⟩

instance : IsTrans (HistorySample ι) NewerFirst :=
  ⟨fun _ _ _ hfirst hsecond => hsecond.trans hfirst⟩

/-- The stored samples of one snapshot; the event identifier is unique. -/
structure HistorySnapshot (ι : Type) where
  samples : List (HistorySample ι)
  distinct : (samples.map (·.eventId)).Nodup
  takenAt : Instant

namespace HistorySnapshot

variable (snapshot : HistorySnapshot ι) (filters : TelemetryFilters)

def within (start stop : ℤ) : List (HistorySample ι) :=
  snapshot.samples.filter fun sample => filters.matches sample &&
    start * 1000 ≤ sample.capturedAt && sample.capturedAt < stop * 1000

def window (start stop : ℤ) : List (HistorySample ι) :=
  (snapshot.within filters start stop).insertionSort NewerFirst

def history (request : HistoryRequest) : HistoryPage ι :=
  let rows := ((snapshot.window request.filters request.fromAt request.toAt).drop
    request.offset).take (request.limit + 1)
  { items := rows.take request.limit
    nextOffset :=
      if request.limit < rows.length then some (request.offset + request.limit)
      else none
    snapshotAt := some (request.snapshotAt.getD snapshot.takenAt) }

end HistorySnapshot

end Server

/-- The requests which were made, and what came of them. -/
structure HistoryRun (β : Type) where
  requests : List HistoryRequest
  outcome : Except String β

/-- A loop over pages.  `keep` says which samples are collected, `noCursor` is the
text for an empty page, and `advance` gives the next cursor from the oldest captured
time and the present cursor. -/
structure HistoryPager (ι : Type) where
  filters : TelemetryFilters
  fromAt : ℤ
  pageSize : ℕ
  keep : HistorySample ι → Bool
  noCursor : String
  advance : ℤ → ℤ → Except String ℤ

namespace HistoryPager

variable {ι : Type} [DecidableEq ι] (pager : HistoryPager ι)

/-- The samples by event identifier, in the order in which they were first set. -/
abbrev Collected (ι : Type) := Dictionary ι (HistorySample ι)

def collect (items : List (HistorySample ι)) (collected : Collected ι) :
    Collected ι :=
  items.foldl (fun collected sample =>
    if pager.keep sample then collected.set sample.eventId sample else collected)
    collected

/-- A page ends the loop with the samples collected, or gives the next cursor. -/
def readPage (response : HistoryPage ι) (cursorTo : ℤ) (snapshotAt : Option Instant)
    (collected : Collected ι) :
    Except String (Collected ι × Option (ℤ × Option Instant)) := do
  let responseSnapshotAt ← match response.snapshotAt with
    | some responseSnapshotAt => pure responseSnapshotAt
    | none =>
      throw "Telemetry history page did not provide an ingestion snapshot watermark"
  let snapshotAt := snapshotAt.getD responseSnapshotAt
  if responseSnapshotAt ≠ snapshotAt then
    throw "Telemetry history ingestion snapshot changed during pagination"
  let collected := pager.collect response.items collected
  if response.nextOffset = none then
    return (collected, none)
  let capturedTimes := response.items.map fun sample => millis sample.capturedAt
  match capturedTimes.min? with
  | none => throw pager.noCursor
  | some oldestCapturedAt =>
    if oldestCapturedAt ≤ pager.fromAt then
      return (collected, none)
    if pager.pageSize ≤ capturedTimes.count oldestCapturedAt then
      throw "Telemetry history timestamp density exceeds the safe cursor window"
    let cursorTo ← pager.advance oldestCapturedAt cursorTo
    return (collected, some (cursorTo, some snapshotAt))

def load (adapter : HistoryRequest → HistoryPage ι) :
    ℕ → ℤ → Option Instant → Collected ι → HistoryRun (Collected ι × Option Instant)
  | 0, _, _, _ =>
    ⟨[], .error "Telemetry history exceeded the supported pagination window"⟩
  | pages + 1, cursorTo, snapshotAt, collected =>
    let request : HistoryRequest :=
      ⟨pager.filters, pager.fromAt, cursorTo, snapshotAt, pager.pageSize, 0⟩
    let response := adapter request
    match pager.readPage response cursorTo snapshotAt collected with
    | .error text => ⟨[request], .error text⟩
    | .ok (collected, none) =>
      ⟨[request], .ok (collected, snapshotAt <|> response.snapshotAt)⟩
    | .ok (collected, some (cursorTo, snapshotAt)) =>
      let run := load adapter pages cursorTo snapshotAt collected
      ⟨request :: run.requests, run.outcome⟩

end HistoryPager

/-! ## The two loaders -/

/-- A locale compares event identifiers; different ones may be equal to it. -/
structure Collation (ι : Type) where
  le : ι → ι → Bool
  total : ∀ first second, le first second = true ∨ le second first = true
  trans : ∀ first second third, le first second = true → le second third = true →
    le first third = true

section Loaders

variable {ι : Type} [DecidableEq ι]

def Collation.Before (collation : Collation ι) (left right : HistorySample ι) : Prop :=
  millis left.capturedAt < millis right.capturedAt ∨
    millis left.capturedAt = millis right.capturedAt ∧
      collation.le left.eventId right.eventId = true

instance (collation : Collation ι) : DecidableRel collation.Before :=
  fun _ _ => inferInstanceAs (Decidable (_ ∨ _))

def orderedUnique (collation : Collation ι) (samples : List (HistorySample ι)) :
    List (HistorySample ι) :=
  let byEventId : Dictionary ι (HistorySample ι) := samples.foldl (fun known sample =>
    if (known.get? sample.eventId).isSome then known
    else known.set sample.eventId sample) []
  byEventId.values.insertionSort collation.Before

structure CompleteTelemetryHistoryResult (ι : Type) where
  samples : List (HistorySample ι)
  snapshotAt : Option Instant

structure TelemetryHistoryLoadOptions where
  snapshotAt : Option Instant
  (pageSize maxPages : Option ℤ)

def telemetryPager (filters : TelemetryFilters) (start : ℤ) (pageSize : ℕ) :
    HistoryPager ι where
  filters
  fromAt := start
  pageSize
  keep _ := true
  noCursor := "Telemetry history page did not provide a stable captured-time cursor"
  advance oldestCapturedAt currentCursor :=
    let nextCursor := min (oldestCapturedAt + 1) (currentCursor - 1)
    if nextCursor ≤ start ∨ currentCursor ≤ nextCursor then
      .error "Telemetry history cursor did not advance safely"
    else .ok nextCursor

def TelemetryHistoryLoadOptions.size (options : TelemetryHistoryLoadOptions) : ℤ :=
  options.pageSize.getD 1000

def TelemetryHistoryLoadOptions.pages (options : TelemetryHistoryLoadOptions) : ℤ :=
  options.maxPages.getD 500

def loadCompleteTelemetryHistory (collation : Collation ι)
    (adapter : HistoryRequest → HistoryPage ι) (filters : TelemetryFilters)
    (start stop : ℤ) (options : TelemetryHistoryLoadOptions) :
    HistoryRun (CompleteTelemetryHistoryResult ι) :=
  if stop ≤ start then
    ⟨[], .error "Telemetry history window must have a finite positive duration"⟩
  else if options.size < 1 ∨ 1000 < options.size then
    ⟨[], .error "Telemetry history pageSize must be an integer between 1 and 1000"⟩
  else if options.pages < 1 then
    ⟨[], .error "Telemetry history maxPages must be a positive integer"⟩
  else
    let run := (telemetryPager filters start options.size.toNat).load adapter
      options.pages.toNat stop options.snapshotAt []
    ⟨run.requests, run.outcome.map fun (collected, snapshotAt) =>
      ⟨orderedUnique collation collected.values, snapshotAt⟩⟩

def historyPageSize : ℕ := 1000

def maxHistoryPages : ℕ := 100

structure EnergyHistoryWindow where
  (nodeId metric : String)
  (fromAt toAt : ℤ)

def EnergyHistoryWindow.filters (window : EnergyHistoryWindow) : TelemetryFilters :=
  { TelemetryFilters.none with
    nodeId := some window.nodeId
    metric := some window.metric }

def energyPager (isEnergySample : HistorySample ι → Bool)
    (window : EnergyHistoryWindow) : HistoryPager ι where
  filters := window.filters
  fromAt := window.fromAt
  pageSize := historyPageSize
  keep sample := sample.nodeId = window.nodeId && sample.metric = window.metric &&
    isEnergySample sample
  noCursor := "Telemetry history page did not provide a stable cursor"
  advance oldestCapturedAt currentCursor :=
    .ok (if oldestCapturedAt + 1 < currentCursor then oldestCapturedAt + 1
      else currentCursor - 1)

/-- What `loadCompleteEnergyHistory` gives to `downsampleEnergyHistory`. -/
def collectEnergyHistory (isEnergySample : HistorySample ι → Bool)
    (adapter : HistoryRequest → HistoryPage ι) (window : EnergyHistoryWindow)
    (initialSnapshotAt : Option Instant) : HistoryRun (List (HistorySample ι)) :=
  let run := (energyPager isEnergySample window).load adapter maxHistoryPages window.toAt
    initialSnapshotAt []
  ⟨run.requests, run.outcome.map fun (collected, _) => collected.values⟩

def loadCompleteEnergyHistory {β : Type} (downsample : List (HistorySample ι) → β)
    (isEnergySample : HistorySample ι → Bool)
    (adapter : HistoryRequest → HistoryPage ι) (window : EnergyHistoryWindow)
    (initialSnapshotAt : Option Instant) : HistoryRun β :=
  let run := collectEnergyHistory isEnergySample adapter window initialSnapshotAt
  ⟨run.requests, run.outcome.map downsample⟩

end Loaders

end Nexolab
