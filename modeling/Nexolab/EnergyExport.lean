import Mathlib.Data.Prod.Lex
import Mathlib.Data.String.Basic
import Nexolab.Binary64
import Nexolab.IntervalTiling
import Nexolab.KeysetPages
import Nexolab.TelemetryDatabase

/-!
# The energy export

An export freezes the samples of its series in a staging table and computes one
cell for each bucket of the range.  For an energy counter a cell holds the
consumption between the last readings at or before the bounds of the bucket, as
long as nothing in between speaks against it.  `casefold` is `str.casefold`.
-/

namespace Nexolab

def counterMetric : String := "electrical.energy.active"

structure SeriesSelection where
  (nodeId equipmentId channelId metric unit : String)
  deriving DecidableEq

structure ExportOptions where
  series : List SeriesSelection
  (fromAt toAt : Instant)
  stepSeconds : ℕ
  range : fromAt < toAt

inductive ExportError where
  | historyChanged
  | stepUnavailable
  /-- The primary key of the staging table. -/
  | stagingConstraint
  deriving DecidableEq

inductive StagedQuality where
  | recorded (quality : Quality)
  | invalidNonfinite
  deriving DecidableEq

/-- A row of `samples` in the staging table of one series. -/
structure StagedSample where
  capturedUs : Instant
  eventId : String
  value : Option ℚ
  observedUnit : String
  quality : StagedQuality
  source : String
  anchor : Bool
  deriving DecidableEq

structure Resolution where
  (minimumUs maximumUs : Option ℤ)
  sourceEvents : ℕ
  deriving DecidableEq

structure FrozenSeries where
  samples : List StagedSample
  resolution : Resolution
  deriving DecidableEq

namespace EnergyExport

def InScope (series : SeriesSelection) (snapshotAt : Instant)
    (sourceIdWatermark : Option ℕ) (sample : TelemetrySample FloatValue) : Prop :=
  sample.event.nodeId.text = series.nodeId ∧ sample.event.equipmentId.text = series.equipmentId ∧
    sample.event.channelId.text = series.channelId ∧
    sample.event.metric.text = series.metric ∧
    sample.receivedAt ≤ snapshotAt ∧
    ∀ watermark ∈ sourceIdWatermark, sample.id ≤ watermark

instance (series : SeriesSelection) (snapshotAt : Instant)
    (sourceIdWatermark : Option ℕ) (sample : TelemetrySample FloatValue) :
    Decidable (InScope series snapshotAt sourceIdWatermark sample) :=
  inferInstanceAs (Decidable (_ ∧ _ ∧ _ ∧ _ ∧ _ ∧ _))

def count (scope : List (TelemetrySample FloatValue)) (options : ExportOptions) :
    ℕ :=
  scope.countP fun sample => options.fromAt ≤ sample.event.capturedAt ∧
    sample.event.capturedAt < options.toAt

def captureOrder (sample : TelemetrySample FloatValue) : ℤ ×ₗ String :=
  toLex (sample.event.capturedAt, sample.event.eventId.text)

def stagedRow (sample : TelemetrySample FloatValue) (anchor : Bool) :
    StagedSample :=
  let value : Option ℚ := match sample.event.value with
    | some (.finite value) => some value
    | _ => none
  { capturedUs := sample.event.capturedAt
    eventId := sample.event.eventId.text
    value
    observedUnit := sample.event.unit.text
    quality :=
      if value.isSome ∨ sample.event.value.isNone then
        .recorded sample.event.quality
      else .invalidNonfinite
    source := sample.event.source.text
    anchor }

def insert (staged : List StagedSample) (sample : TelemetrySample FloatValue)
    (anchor : Bool) : Except ExportError (List StagedSample) :=
  if staged.any fun row => row.eventId = sample.event.eventId.text then
    .error .stagingConstraint
  else .ok (staged ++ [stagedRow sample anchor])

def previousAnchors (scope : List (TelemetrySample FloatValue))
    (options : ExportOptions) : List (TelemetrySample FloatValue) :=
  let anchors := ((scope.filter fun sample =>
    sample.event.capturedAt < options.fromAt).insertionSort
      fun first second => captureOrder second ≤ captureOrder first).take 2
  match anchors with
  | [] => []
  | latest :: _ => anchors.reverse.filter fun sample =>
    sample.event.capturedAt = latest.event.capturedAt

def pageSize : ℕ := 1000

structure FreezeProgress where
  samples : List StagedSample
  previousUs : Option Instant
  (minimum maximum : Option ℤ)
  actualCount : ℕ

def stagePageRow (options : ExportOptions) (progress : FreezeProgress)
    (sample : TelemetrySample FloatValue) : Except ExportError FreezeProgress := do
  let captured := sample.event.capturedAt
  let anchor := decide (options.toAt ≤ captured)
  let samples ← insert progress.samples sample anchor
  if anchor then return { progress with samples }
  else
    let actualCount := progress.actualCount + 1
    match progress.previousUs with
    | some previous =>
      if previous < captured then
        let difference := captured - previous
        return {
          samples
          previousUs := some captured
          minimum := some (match progress.minimum with
            | none => difference
            | some minimum => min minimum difference)
          maximum := some (match progress.maximum with
            | none => difference
            | some maximum => max maximum difference)
          actualCount }
      else return { progress with
        samples
        previousUs := some captured
        actualCount }
    | none => return { progress with
        samples
        previousUs := some captured
        actualCount }

/-- The previous reading of a counter is staged as an anchor, and so is another
one with its time. -/
def stageAnchors (scope : List (TelemetrySample FloatValue))
    (options : ExportOptions) (series : SeriesSelection) :
    Except ExportError (List StagedSample) :=
  if series.metric = counterMetric then
    (previousAnchors scope options).foldlM (fun staged sample => insert staged sample true) []
  else .ok []

def freezeSeries (tables : TelemetryTables FloatValue) (options : ExportOptions)
    (snapshotAt : Instant) (sourceIdWatermark : Option ℕ)
    (series : SeriesSelection) : Except ExportError FrozenSeries := do
  let scope := tables.samples.filter fun sample =>
    InScope series snapshotAt sourceIdWatermark sample
  let anchored ← stageAnchors scope options series
  let rows := readPages captureOrder (scope.filter fun sample =>
      options.fromAt ≤ sample.event.capturedAt ∧
        (if series.metric = counterMetric then
          sample.event.capturedAt ≤ options.toAt
        else sample.event.capturedAt < options.toAt)) pageSize none
  let progress ← rows.foldlM (stagePageRow options) ⟨anchored, none, none, none, 0⟩
  if progress.actualCount ≠ count scope options then .error .historyChanged
  else return ⟨progress.samples,
    ⟨progress.minimum, progress.maximum, progress.actualCount⟩⟩

def freezeSource (tables : TelemetryTables FloatValue) (options : ExportOptions)
    (snapshotAt : Instant) (sourceIdWatermark : Option ℕ) :
    Except ExportError (List FrozenSeries) :=
  options.series.mapM (freezeSeries tables options snapshotAt sourceIdWatermark)

/-! ## Cells -/

def availableSteps (frozen : List FrozenSeries) : List ℕ :=
  match frozen.mapM fun series => series.resolution.maximumUs with
  | none => [0]
  | some [] => [0]
  | some (first :: rest) => 0 :: [10, 30, 60, 300, 600, 900, 1800, 3600].filter
      fun step : ℕ => rest.foldl max first ≤ (step : ℤ) * 1000000

section Cells

variable (casefold : String → String)

def normalizedUnit (value : String) : String :=
  let result := casefold (stripText value)
  if result = "degc" ∨ result = "°c" then "degc" else result

def Valid (unit : String) (row : StagedSample) : Prop :=
  row.quality = .recorded .valid ∧
    normalizedUnit casefold row.observedUnit = normalizedUnit casefold unit ∧
    ∃ value ∈ row.value, normalizedUnit casefold unit ≠ "kwh" ∨ 0 ≤ value

instance (unit : String) (row : StagedSample) :
    Decidable (Valid casefold unit row) :=
  inferInstanceAs (Decidable (_ ∧ _ ∧ _))

def StagedSample.order (row : StagedSample) : ℤ ×ₗ String :=
  toLex (row.capturedUs, row.eventId)

/-- `_counter_anchor`: the last reading at or before the boundary, and whether
another one has its time. -/
def counterAnchor (samples : List StagedSample) (boundary : Instant) :
    Option StagedSample × Bool :=
  match ((samples.filter fun row => row.capturedUs ≤ boundary).insertionSort
      fun first second => StagedSample.order second ≤ StagedSample.order first).take 2 with
  | [] => (none, false)
  | [row] => (some row, false)
  | row :: other :: _ => (some row, row.capturedUs = other.capturedUs)

inductive Continuity where
  | ambiguousCounterTimestamp
  | missingAnchor
  | insufficientBoundaryCoverage
  | invalidAnchor
  | invalidCounter
  | counterDecrease
  | sourceGap

def Continuity.text : Continuity → String
  | .ambiguousCounterTimestamp => "ambiguous_counter_timestamp"
  | .missingAnchor => "missing_anchor"
  | .insufficientBoundaryCoverage => "insufficient_boundary_coverage"
  | .invalidAnchor => "invalid_anchor"
  | .invalidCounter => "invalid_counter"
  | .counterDecrease => "counter_decrease"
  | .sourceGap => "source_gap"

/-- The previous reading and what has spoken against the counter so far. -/
structure CounterScan where
  previous : Option StagedSample
  continuity : List Continuity

/-- What two readings one after the other say about the counter. -/
def continuityBetween (tolerance : Option ℤ) (previous row : StagedSample) :
    List Continuity :=
  (if ∃ before ∈ previous.value, ∃ value ∈ row.value, value < before
    then [.counterDecrease] else []) ++
  (if row.capturedUs - previous.capturedUs = 0 then [.ambiguousCounterTimestamp]
    else if ∀ limit ∈ tolerance, limit * 3 < row.capturedUs - previous.capturedUs
    then [.sourceGap] else [])

def checkCounter (unit : String) (tolerance : Option ℤ) (scan : CounterScan)
    (row : StagedSample) : CounterScan :=
  let found := if ¬ Valid casefold unit row then [Continuity.invalidCounter]
    else match scan.previous with
      | none => []
      | some previous =>
        if row.eventId = previous.eventId then []
        else if ¬ Valid casefold unit previous then [.invalidCounter]
        else continuityBetween tolerance previous row
  ⟨some row, scan.continuity ++ found⟩

def bucketRows (samples : List StagedSample) (start stop : Instant) :
    List StagedSample :=
  (samples.filter fun row => start ≤ row.capturedUs ∧ row.capturedUs < stop ∧
    row.anchor = false).insertionSort
      fun first second => StagedSample.order first ≤ StagedSample.order second

def anchorContinuity (unit : String) (tolerance : Option ℤ)
    (startAnchor endAnchor : Option StagedSample × Bool) (start stop : Instant) :
    List Continuity :=
  (if startAnchor.2 ∨ endAnchor.2 then [.ambiguousCounterTimestamp] else []) ++
  (match startAnchor.1, endAnchor.1 with
    | some first, some last =>
      if ∀ limit ∈ tolerance, limit < start - first.capturedUs ∨ limit < stop - last.capturedUs
      then [.insufficientBoundaryCoverage] else []
    | _, _ => [.missingAnchor]) ++
  (if ∃ first ∈ startAnchor.1, ¬ Valid casefold unit first
    then [.invalidAnchor] else [])

def continuityText (continuity : List Continuity) : String :=
  ";".intercalate ((continuity.map Continuity.text).dedup.insertionSort (· ≤ ·))

/-- The cell of a counter; `avg`, `min` and `max` are null. -/
structure CounterCell where
  value : Option ℚ
  quality : String
  (sourceCount validCount invalidCount : ℕ)
  (firstUs lastUs : Option Instant)
  deltaKwh : Option ℚ
  deltaStatus : String
  (anchorStartUs anchorEndUs : Option Instant)
  (anchorToleranceUs coveredUs : Option ℤ)

def bucketContinuity (samples : List StagedSample) (unit : String)
    (tolerance : Option ℤ) (start stop : Instant) : List Continuity :=
  let startAnchor := counterAnchor samples start
  let endAnchor := counterAnchor samples stop
  let scan := (bucketRows samples start stop).foldl (checkCounter casefold unit tolerance)
    ⟨startAnchor.1, anchorContinuity casefold unit tolerance startAnchor endAnchor start stop⟩
  match endAnchor.1 with
  | none => scan.continuity
  | some last =>
    if ∀ previous ∈ scan.previous, last.eventId ≠ previous.eventId then
      (checkCounter casefold unit tolerance scan last).continuity
    else scan.continuity

/-- `end_anchor["value"] - start_anchor["value"]` when it is a finite number
which is not negative. -/
def anchorDelta (startAnchor endAnchor : Option StagedSample) : Option ℚ :=
  match startAnchor.bind StagedSample.value, endAnchor.bind StagedSample.value with
  | some before, some after => (roundBinary64 (after - before)).filter (0 ≤ ·)
  | _, _ => none

def bucketCell (samples : List StagedSample) (unit : String)
    (tolerance : Option ℤ) (start stop : Instant) : CounterCell :=
  let startAnchor := (counterAnchor samples start).1
  let endAnchor := (counterAnchor samples stop).1
  let rows := bucketRows samples start stop
  let validCount := rows.countP fun row => Valid casefold unit row
  let invalidCount := rows.countP fun row => ¬ Valid casefold unit row
  let continuity := bucketContinuity casefold samples unit tolerance start stop
  let delta := if continuity = [] then anchorDelta startAnchor endAnchor else none
  { value := (endAnchor.filter fun row => Valid casefold unit row).bind StagedSample.value
    quality :=
      if delta = none then "incomplete_counter"
      else if validCount ≠ 0 then
        if invalidCount ≠ 0 then "partial" else "valid"
      else if rows.length ≠ 0 then "invalid"
      else "missing"
    sourceCount := rows.length
    validCount
    invalidCount
    firstUs := rows.head?.map StagedSample.capturedUs
    lastUs := rows.getLast?.map StagedSample.capturedUs
    deltaKwh := delta
    deltaStatus :=
      if continuity ≠ [] then continuityText continuity
      else if delta = none then "invalid_delta"
      else "boundary_tolerance"
    anchorStartUs := startAnchor.map StagedSample.capturedUs
    anchorEndUs := endAnchor.map StagedSample.capturedUs
    anchorToleranceUs := tolerance
    coveredUs := startAnchor.bind fun first => endAnchor.map fun last =>
      last.capturedUs - first.capturedUs }

def exportBuckets (options : ExportOptions) : List (Instant × Instant) :=
  bucketBounds options.fromAt options.toAt (options.stepSeconds * 1000000)

/-- The cells `materialize_cells` writes for a counter with a positive step. -/
def materializeCounter (options : ExportOptions) (frozen : List FrozenSeries)
    (unit : String) (series : FrozenSeries) : Except ExportError (List CounterCell) :=
  if options.stepSeconds ∉ availableSteps frozen then .error .stepUnavailable
  else .ok ((exportBuckets options).map fun bucket =>
    bucketCell casefold series.samples unit series.resolution.minimumUs bucket.1 bucket.2)

end Cells

end EnergyExport

end Nexolab
