import Nexolab.CounterBuckets

/-!
# The consumption of a range

The buckets of an export tile its range and share the readings at their bounds,
so that the differences of these readings add up to the one over the range.  A
consumption is such a difference rounded to a double.
-/

namespace Nexolab

namespace EnergyExport

variable {options : ExportOptions}

theorem exportBuckets_tiles (hstep : 0 < options.stepSeconds) :
    Tiles options.fromAt options.toAt (exportBuckets options) := by
  have hmicros : (0 : ℤ) < options.stepSeconds * 1000000 := by omega
  exact bucketBounds_tiles hmicros options.range.le

theorem exportBuckets_inside (hstep : 0 < options.stepSeconds) {bucket : Instant × Instant}
    (hbucket : bucket ∈ exportBuckets options) :
    Inside options bucket.1 bucket.2 := by
  have htiles := exportBuckets_tiles hstep
  obtain ⟨hfrom, hto⟩ := htiles.within hbucket
  exact ⟨hfrom, htiles.lt_of_mem hbucket, hto⟩

def readingAt (samples : List StagedSample) (boundary : Instant) : ℚ :=
  ((counterAnchor samples boundary).1.bind StagedSample.value).getD 0

theorem readingAt_eq {samples : List StagedSample} {boundary : Instant}
    {anchor : StagedSample} {value : ℚ} (hanchor : anchor ∈ (counterAnchor samples boundary).1)
    (hvalue : value ∈ anchor.value) : readingAt samples boundary = value := by
  rw [Option.mem_def] at hanchor hvalue
  unfold readingAt
  rw [hanchor, Option.bind_some, hvalue]
  rfl

theorem sum_rounded_error {cells : List CounterCell} {differences : List ℚ}
    (hrounded : List.Forall₂ (fun cell difference =>
      cell.deltaKwh = roundBinary64 difference) cells differences)
    (hdeltas : ∀ cell ∈ cells, cell.deltaKwh ≠ none) :
    |(cells.filterMap CounterCell.deltaKwh).sum - differences.sum| ≤
      (differences.map fun difference => unitInLastPlace difference / 2).sum := by
  induction hrounded with
  | nil => simp
  | @cons cell difference cells differences hcell hrest ih =>
    obtain ⟨delta, hdelta⟩ := Option.ne_none_iff_exists'.mp (hdeltas cell List.mem_cons_self)
    have herror := roundBinary64_error (hcell.symm.trans hdelta)
    have hothers := ih fun other hother =>
      hdeltas other (List.mem_cons_of_mem _ hother)
    rw [List.filterMap_cons_some hdelta, List.sum_cons, List.sum_cons, List.map_cons, List.sum_cons]
    calc
      |delta + (cells.filterMap CounterCell.deltaKwh).sum -
            (difference + differences.sum)| =
          |(delta - difference) +
            ((cells.filterMap CounterCell.deltaKwh).sum - differences.sum)| := by
          congr 1
          ring
      _ ≤ |delta - difference| +
            |(cells.filterMap CounterCell.deltaKwh).sum - differences.sum| :=
          abs_add_le _ _
      _ ≤ unitInLastPlace difference / 2 + (differences.map fun difference =>
              unitInLastPlace difference / 2).sum :=
          add_le_add herror hothers

theorem energyExport_sound {casefold : String → String}
    {tables : TelemetryTables FloatValue}
    {snapshotAt : Instant} {sourceIdWatermark : Option ℕ}
    {frozen : List FrozenSeries} {series : SeriesSelection}
    {source : FrozenSeries} {cells : List CounterCell}
    (hstep : 0 < options.stepSeconds)
    (hfreeze : freezeSource tables options snapshotAt sourceIdWatermark = .ok frozen)
    (hsource : (series, source) ∈ options.series.zip frozen)
    (hcells : materializeCounter casefold options frozen series.unit source =
      .ok cells) :
    Tiles options.fromAt options.toAt (exportBuckets options) ∧
    (∀ row ∈ source.samples, row.anchor = false →
      ∃! bucket, bucket ∈ exportBuckets options ∧
        row ∈ bucketRows source.samples bucket.1 bucket.2) ∧
    List.Forall₂ (fun bucket cell =>
      cell.sourceCount = (bucketRows source.samples bucket.1 bucket.2).length ∧
      cell.anchorStartUs = (counterAnchor source.samples bucket.1).1.map
        StagedSample.capturedUs ∧
      cell.anchorEndUs = (counterAnchor source.samples bucket.2).1.map
        StagedSample.capturedUs ∧
      (∀ delta ∈ cell.deltaKwh, 0 ≤ delta) ∧
      (Broken casefold series.unit source.samples bucket.1 bucket.2 →
        cell.deltaKwh = none)) (exportBuckets options) cells ∧
    ((∀ cell ∈ cells, cell.deltaKwh ≠ none) →
      ∃ first ∈ (counterAnchor source.samples options.fromAt).1,
      ∃ last ∈ (counterAnchor source.samples options.toAt).1,
      ∃ before ∈ first.value, ∃ after ∈ last.value, ∃ differences,
        List.Forall₂ (fun cell difference =>
          cell.deltaKwh = roundBinary64 difference) cells differences ∧
        differences.sum = after - before ∧
        |(cells.filterMap CounterCell.deltaKwh).sum - (after - before)| ≤
          (differences.map fun difference =>
            unitInLastPlace difference / 2).sum) := by
  have htiles := exportBuckets_tiles hstep
  have hstaged : Staged options source.samples := by
    obtain ⟨other, _, hseries⟩ :=
      exists_mem_of_mapM_ok hfreeze (List.of_mem_zip hsource).2
    exact freezeSeries_staged hseries
  unfold materializeCounter at hcells
  split_ifs at hcells
  rw [Except.ok.injEq] at hcells
  refine ⟨htiles, ?_, ?_, ?_⟩
  · intro row hrow hanchor
    obtain ⟨hfrom, hto⟩ := (hstaged.anchor_iff row hrow).mp hanchor
    obtain ⟨bucket, ⟨hmem, hstart, hstop⟩, hunique⟩ :=
      htiles.existsUnique hfrom hto
    refine ⟨bucket, ⟨hmem, mem_bucketRows.mpr ⟨hrow, hstart, hstop, hanchor⟩⟩, ?_⟩
    rintro other ⟨hother, hotherRow⟩
    obtain ⟨_, hotherStart, hotherStop, _⟩ := mem_bucketRows.mp hotherRow
    exact hunique other ⟨hother, hotherStart, hotherStop⟩
  · rw [← hcells, List.forall₂_map_right_iff, List.forall₂_same]
    intro bucket hmem
    refine ⟨rfl, rfl, rfl, ?_, ?_⟩
    · intro delta hdelta
      exact (bucketCell_delta hstaged (exportBuckets_inside hstep hmem) hdelta).2.1
    · exact Broken.deltaKwh hstaged (exportBuckets_inside hstep hmem)
  · intro hdeltas
    have hexact : ∀ bucket ∈ exportBuckets options, ∃ delta,
        (bucketCell casefold source.samples series.unit
          source.resolution.minimumUs bucket.1 bucket.2).deltaKwh = some delta ∧
          AnchorDifference source.samples bucket.1 bucket.2 delta := by
      intro bucket hmem
      have hcell := hdeltas _ (hcells ▸ List.mem_map_of_mem hmem)
      obtain ⟨delta, hdelta⟩ := Option.ne_none_iff_exists'.mp hcell
      exact ⟨delta, hdelta,
        (bucketCell_delta hstaged (exportBuckets_inside hstep hmem) hdelta).1⟩
    obtain ⟨firstBucket, hfirstMem, hfirstStart⟩ :=
      htiles.exists_first options.range
    obtain ⟨lastBucket, hlastMem, hlastEnd⟩ := htiles.exists_last options.range
    obtain ⟨_, _, first, hfirst, _, _, before, hbefore, _⟩ :=
      hexact firstBucket hfirstMem
    obtain ⟨_, _, _, _, last, hlast, _, _, after, hafter, _⟩ :=
      hexact lastBucket hlastMem
    rw [hfirstStart] at hfirst
    rw [hlastEnd] at hlast
    let differences := (exportBuckets options).map fun bucket =>
      readingAt source.samples bucket.2 - readingAt source.samples bucket.1
    have hrounded : List.Forall₂ (fun cell difference =>
        cell.deltaKwh = roundBinary64 difference) cells differences := by
      rw [← hcells, List.forall₂_map_left_iff, List.forall₂_map_right_iff,
        List.forall₂_same]
      intro bucket hmem
      obtain ⟨delta, hdelta, start, hstart, stop, hstop, low, hlow, high, hhigh,
        hround⟩ := hexact bucket hmem
      rw [readingAt_eq hstart hlow, readingAt_eq hstop hhigh, hround]
      exact hdelta
    have hsum : differences.sum = after - before := by
      rw [htiles.sum_sub (readingAt source.samples), readingAt_eq hfirst hbefore,
        readingAt_eq hlast hafter]
    refine ⟨first, hfirst, last, hlast, before, hbefore, after, hafter,
      differences, hrounded, hsum, ?_⟩
    rw [← hsum]
    exact sum_rounded_error hrounded hdeltas

/-! ## A meter over twenty seconds -/

def meterReading (id : ℕ) (eventId : UuidText) (seconds : ℤ) (value : ℚ)
    (hcapt : minInstant ≤ seconds * 1000000 ∧
      seconds * 1000000 ≤ maxInstant) : TelemetrySample FloatValue where
  id
  event := {
    eventId
    nodeId := ⟨"n", by decide, by decide⟩
    capturedAt := seconds * 1000000
    metric := ⟨counterMetric, by decide, by decide⟩
    value := some (.finite value)
    unit := ⟨"kWh", by decide, by decide⟩
    quality := .valid
    source := ⟨"m", by decide, by decide⟩
    equipmentId := ⟨"e", by decide, by decide⟩
    channelId := ⟨"c", by decide, by decide⟩
    alarm := none
    rawValue := none
    rawStatus := none
    captured_range := hcapt
    value_present := value_present_finite value }
  rawPayload := []
  rawPayloadRetained := true
  receivedAt := seconds * 1000000

def meterTables : TelemetryTables FloatValue :=
  { TelemetryTables.empty FloatValue with
    samples := [ meterReading 1 firstEventId 0 (3602879701896397 / 36028797018963968) (by decide),
      meterReading 2 secondEventId 10 (5404319552844595 / 18014398509481984) (by decide),
      meterReading 3 thirdEventId 20 (3039929748475085 / 1125899906842624) (by decide)] }

def meterSeries : SeriesSelection := ⟨"n", "e", "c", counterMetric, "kWh"⟩

def meterOptions : ExportOptions :=
  ⟨[meterSeries], 0, 20000000, 10, by decide⟩

def meterFrozen : FrozenSeries where
  samples := [
    ⟨0, firstEventId.text, some (3602879701896397 / 36028797018963968), "kWh",
      .recorded .valid, "m", false⟩,
    ⟨10000000, secondEventId.text, some (5404319552844595 / 18014398509481984),
      "kWh", .recorded .valid, "m", false⟩,
    ⟨20000000, thirdEventId.text, some (3039929748475085 / 1125899906842624),
      "kWh", .recorded .valid, "m", true⟩]
  resolution := ⟨some 10000000, some 10000000, 2⟩

theorem freezeSource_meter :
    freezeSource meterTables meterOptions 30000000 none = .ok [meterFrozen] := by
  have hscope : (meterTables.samples.filter fun sample =>
      InScope meterSeries 30000000 none sample) = meterTables.samples :=
    List.filter_eq_self.mpr (by decide +kernel)
  have hrange : (meterTables.samples.filter fun sample =>
      meterOptions.fromAt ≤ sample.event.capturedAt ∧
        (if meterSeries.metric = counterMetric then
          sample.event.capturedAt ≤ meterOptions.toAt
        else sample.event.capturedAt < meterOptions.toAt)) =
      meterTables.samples :=
    List.filter_eq_self.mpr (by decide +kernel)
  have hbehind : rowsBehind captureOrder meterTables.samples none = meterTables.samples := by
    have hall : (meterTables.samples.filter fun row =>
        decide (∀ last ∈ (none : Option (ℤ ×ₗ String)),
          last < captureOrder row)) = meterTables.samples :=
      List.filter_eq_self.mpr (by simp)
    have hsorted : meterTables.samples.Pairwise fun first second =>
        captureOrder first ≤ captureOrder second := by decide +kernel
    unfold rowsBehind
    rw [hall]
    exact hsorted.insertionSort_eq
  have hpages : readPages captureOrder meterTables.samples pageSize none = meterTables.samples := by
    rw [readPages_of_length_le (by rw [hbehind]; decide), hbehind]
  have hseries : freezeSeries meterTables meterOptions 30000000 none meterSeries =
      .ok meterFrozen := by
    unfold freezeSeries
    rw [hscope]
    dsimp only
    rw [hrange, hpages]
    decide +kernel
  change [meterSeries].mapM _ = _
  rw [List.mapM_cons, hseries]
  rfl

def meterCells : List CounterCell :=
  (exportBuckets meterOptions).map fun bucket =>
    bucketCell id meterFrozen.samples "kWh" (some 10000000) bucket.1 bucket.2

theorem materializeCounter_meter :
    materializeCounter id meterOptions [meterFrozen] "kWh" meterFrozen = .ok meterCells := by
  unfold materializeCounter
  rw [if_neg (by decide +kernel)]
  rfl

theorem energyExport_sound_meter : ∃ differences : List ℚ,
    differences.sum = 3039929748475085 / 1125899906842624 -
      3602879701896397 / 36028797018963968 ∧
    |(meterCells.filterMap CounterCell.deltaKwh).sum - differences.sum| ≤
      (differences.map fun difference => unitInLastPlace difference / 2).sum := by
  have hsource : (meterSeries, meterFrozen) ∈
      meterOptions.series.zip [meterFrozen] := by decide +kernel
  have hdeltas : ∀ cell ∈ meterCells, cell.deltaKwh ≠ none := by decide +kernel
  obtain ⟨first, hfirst, last, hlast, before, hbefore, after, hafter, differences,
    _, hsum, herror⟩ := (energyExport_sound (by decide) freezeSource_meter
      hsource materializeCounter_meter).2.2.2 hdeltas
  have hbeforeEq : readingAt meterFrozen.samples meterOptions.fromAt = before :=
    readingAt_eq hfirst hbefore
  have hafterEq : readingAt meterFrozen.samples meterOptions.toAt = after :=
    readingAt_eq hlast hafter
  have hbeforeValue : readingAt meterFrozen.samples meterOptions.fromAt =
      3602879701896397 / 36028797018963968 := by decide +kernel
  have hafterValue : readingAt meterFrozen.samples meterOptions.toAt =
      3039929748475085 / 1125899906842624 := by decide +kernel
  rw [← hbeforeEq, ← hafterEq, hbeforeValue, hafterValue] at hsum
  refine ⟨differences, hsum, ?_⟩
  rw [hsum, ← hbeforeValue, ← hafterValue, hbeforeEq, hafterEq]
  exact herror

/-- A meter shows 0.1, 0.3 and 2.7 kWh.  The consumption of the two buckets adds
up to 2.6000000000000005 and that of the range is 2.6. -/
theorem meterTotal_differs :
    freezeSource meterTables meterOptions 30000000 none = .ok [meterFrozen] ∧
    materializeCounter id meterOptions [meterFrozen] "kWh" meterFrozen =
      .ok meterCells ∧
    (∀ cell ∈ meterCells, cell.deltaKwh ≠ none) ∧
    (meterCells.filterMap CounterCell.deltaKwh).sum ≠
      readingAt meterFrozen.samples meterOptions.toAt -
        readingAt meterFrozen.samples meterOptions.fromAt ∧
    roundBinary64 (meterCells.filterMap CounterCell.deltaKwh).sum ≠
      roundBinary64 (readingAt meterFrozen.samples meterOptions.toAt -
        readingAt meterFrozen.samples meterOptions.fromAt) := by
  refine ⟨freezeSource_meter, materializeCounter_meter, ?_, ?_, ?_⟩
  · decide +kernel
  · decide +kernel
  · decide +kernel

end EnergyExport

end Nexolab
