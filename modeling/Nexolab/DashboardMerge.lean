import Nexolab.LatestProjection

/-!
# The dashboard's samples

`mergeDashboardTelemetry` keeps one sample per series key and replaces it by any
sample which was not captured earlier, to the millisecond.  However the samples
of the server are delivered, the stored sample of a key is one of the newest in
that precision; it is the sample of `telemetry_latest` for every delivery exactly
when keys tell series apart and the newest sample of a series is the only one in
its millisecond.
-/

namespace Nexolab

variable {F : Type}

structure DashboardTelemetryStore (F : Type) where
  samples : String → Option (TelemetrySample F)
  seenEventIds : List String
  rejectedFutureSamples : ℕ

def createDashboardTelemetryStore (F : Type) : DashboardTelemetryStore F :=
  ⟨fun _ => none, [], 0⟩

structure MergeTelemetryOptions where
  now : ℚ
  maxFutureSkewMs : ℚ := 30000
  maxSeenEventIds : ℕ := 10000

def SeriesKey.telemetrySeriesKey (series : SeriesKey) : String :=
  ":".intercalate [series.nodeId, series.equipmentId, series.channelId,
    series.metric]

def telemetrySeriesKey (sample : TelemetrySample F) : String :=
  sample.event.series.telemetrySeriesKey

/-- `Date.parse` of the text of the instant, which drops the microseconds. -/
def capturedMs (sample : TelemetrySample F) : ℤ := sample.event.capturedAt / 1000

def isFuture (options : MergeTelemetryOptions) (sample : TelemetrySample F) :
    Prop :=
  options.now + options.maxFutureSkewMs < capturedMs sample

instance isFuture.decidable (options : MergeTelemetryOptions)
    (sample : TelemetrySample F) : Decidable (isFuture options sample) :=
  inferInstanceAs (Decidable (_ < _))

def mergedSample (stored : Option (TelemetrySample F))
    (sample : TelemetrySample F) : TelemetrySample F :=
  match stored with
  | none => sample
  | some current =>
    if capturedMs current ≤ capturedMs sample then sample else current

def mergeSample (options : MergeTelemetryOptions)
    (draft : DashboardTelemetryStore F × Bool) (sample : TelemetrySample F) :
    DashboardTelemetryStore F × Bool :=
  if sample.event.eventId.text ∈ draft.1.seenEventIds then draft
  else if isFuture options sample then
    ({ draft.1 with
        rejectedFutureSamples := draft.1.rejectedFutureSamples + 1 }, true)
  else
    ({ draft.1 with
        samples := Function.update draft.1.samples (telemetrySeriesKey sample)
          (some (mergedSample (draft.1.samples (telemetrySeriesKey sample)) sample))
        seenEventIds := draft.1.seenEventIds ++ [sample.event.eventId.text] },
      true)

def mergeDashboardTelemetry (current : DashboardTelemetryStore F)
    (incoming : List (TelemetrySample F)) (options : MergeTelemetryOptions) :
    DashboardTelemetryStore F :=
  let (merged, changed) := incoming.foldl (mergeSample options) (current, false)
  if changed then
    { merged with
      seenEventIds := merged.seenEventIds.drop
        (merged.seenEventIds.length - options.maxSeenEventIds) }
  else current

abbrev TelemetryDelivery (F : Type) :=
  List (MergeTelemetryOptions × List (TelemetrySample F))

def deliver (store : DashboardTelemetryStore F) (delivery : TelemetryDelivery F) :
    DashboardTelemetryStore F :=
  delivery.foldl (fun store call => mergeDashboardTelemetry store call.2 call.1) store

def keyed (key : String) (samples : List (TelemetrySample F)) :
    List (TelemetrySample F) :=
  samples.filter fun sample => telemetrySeriesKey sample = key

theorem keyed_append_self (samples : List (TelemetrySample F)) (sample : TelemetrySample F) :
    keyed (telemetrySeriesKey sample) (samples ++ [sample]) =
      keyed (telemetrySeriesKey sample) samples ++ [sample] := by
  simp [keyed, List.filter_append]

theorem keyed_append_other {samples : List (TelemetrySample F)}
    {sample : TelemetrySample F} {key : String} (hkey : telemetrySeriesKey sample ≠ key) :
    keyed key (samples ++ [sample]) = keyed key samples := by
  simp [keyed, List.filter_append, hkey]

structure HoldsNewest (delivered : List (TelemetrySample F))
    (store : DashboardTelemetryStore F) : Prop where
  seen : ∀ id ∈ store.seenEventIds, ∃ sample ∈ delivered, sample.event.eventId.text = id
  newest : ∀ key, RunningMaximum capturedMs (keyed key delivered) (store.samples key)

/-- Two samples with one event id are one sample. -/
def EventsDistinct (samples : List (TelemetrySample F)) : Prop :=
  ∀ first ∈ samples, ∀ second ∈ samples,
    first.event.eventId = second.event.eventId → first = second

theorem eventId_ext {first second : UuidText} (htext : first.text = second.text) :
    first = second := by
  cases first
  cases second
  congr

theorem mergedSample_newest {delivered : List (TelemetrySample F)}
    {stored : Option (TelemetrySample F)} (hmax : RunningMaximum capturedMs delivered stored)
    (sample : TelemetrySample F) :
    RunningMaximum capturedMs (delivered ++ [sample]) (some (mergedSample stored sample)) := by
  unfold mergedSample
  cases stored with
  | none => exact hmax.replace (fun _ hnone => by cases hnone)
  | some current =>
    dsimp only
    split_ifs with hlater
    · exact hmax.replace (fun _ hsome => by cases hsome; exact hlater)
    · exact hmax.keep (not_le.mp hlater).le

namespace HoldsNewest

variable {samples delivered batch : List (TelemetrySample F)}
  {store : DashboardTelemetryStore F} {options : MergeTelemetryOptions}

theorem congr (hholds : HoldsNewest delivered store)
    (hsame : ∀ sample, sample ∈ batch ↔ sample ∈ delivered) :
    HoldsNewest batch store where
  seen := by
    intro id hid
    obtain ⟨sample, hsample, htext⟩ := hholds.seen id hid
    exact ⟨sample, (hsame sample).mpr hsample, htext⟩
  newest := by
    intro key
    refine (hholds.newest key).congr fun sample => ?_
    simp only [keyed, List.mem_filter, hsame]

theorem mergeSample (hholds : HoldsNewest delivered store) {changed : Bool}
    (hdistinct : EventsDistinct samples) {sample : TelemetrySample F}
    (hsubset : ∀ other ∈ delivered, other ∈ samples) (hmem : sample ∈ samples)
    (haccepted : ¬ isFuture options sample) :
    HoldsNewest (delivered ++ [sample])
      (Nexolab.mergeSample options (store, changed) sample).1 := by
  unfold Nexolab.mergeSample
  split_ifs with hseen
  · obtain ⟨other, hother, htext⟩ := hholds.seen _ hseen
    have hsame : other = sample := hdistinct other (hsubset other hother) sample
      hmem (eventId_ext htext)
    subst hsame
    refine hholds.congr fun x => ?_
    simp only [List.mem_append, List.mem_singleton, or_iff_left_iff_imp]
    rintro rfl
    exact hother
  · constructor
    case seen =>
      intro id hid
      rcases List.mem_append.mp hid with hold | hnew
      · obtain ⟨other, hother, htext⟩ := hholds.seen id hold
        exact ⟨other, List.mem_append_left _ hother, htext⟩
      · exact ⟨sample, by simp, (List.mem_singleton.mp hnew).symm⟩
    case newest =>
      intro key
      dsimp only
      rw [Function.update_apply]
      split_ifs with hkey
      · subst hkey
        rw [keyed_append_self]
        exact mergedSample_newest (hholds.newest _) sample
      · rw [keyed_append_other (Ne.symm hkey)]
        exact hholds.newest key

theorem fold (hdistinct : EventsDistinct samples)
    (draft : DashboardTelemetryStore F × Bool) (batch : List (TelemetrySample F))
    (hholds : HoldsNewest delivered draft.1)
    (hsubset : ∀ other ∈ delivered ++ batch, other ∈ samples)
    (haccepted : ∀ other ∈ batch, ¬ isFuture options other) :
    HoldsNewest (delivered ++ batch) (batch.foldl (Nexolab.mergeSample options) draft).1 := by
  induction batch generalizing delivered draft with
  | nil => simpa using hholds
  | cons sample rest ih =>
    rw [List.foldl_cons, List.append_cons]
    rw [List.append_cons] at hsubset
    refine ih _ ?_ hsubset fun other hother =>
      haccepted other (List.mem_cons_of_mem _ hother)
    exact hholds.mergeSample hdistinct (fun other hother => hsubset other (by simp [hother]))
      (hsubset sample (by simp)) (haccepted sample List.mem_cons_self)

end HoldsNewest

theorem fold_unchanged {options : MergeTelemetryOptions}
    {batch : List (TelemetrySample F)} {draft : DashboardTelemetryStore F × Bool}
    (hkept : (batch.foldl (mergeSample options) draft).2 = false) :
    (batch.foldl (mergeSample options) draft).1 = draft.1 := by
  induction batch using List.reverseRecOn with
  | nil => rfl
  | append_singleton rest sample ih =>
    simp only [List.foldl_append, List.foldl_cons, List.foldl_nil] at hkept ⊢
    generalize rest.foldl (mergeSample options) draft = before at hkept ih ⊢
    unfold mergeSample at hkept ⊢
    split_ifs at hkept ⊢
    exact ih hkept

theorem mergeDashboardTelemetry_samples (store : DashboardTelemetryStore F)
    (batch : List (TelemetrySample F)) (options : MergeTelemetryOptions) :
    (mergeDashboardTelemetry store batch options).samples =
        (batch.foldl (mergeSample options) (store, false)).1.samples ∧
      ∀ id ∈ (mergeDashboardTelemetry store batch options).seenEventIds,
        id ∈ (batch.foldl (mergeSample options) (store, false)).1.seenEventIds := by
  unfold mergeDashboardTelemetry
  dsimp only
  split_ifs with hchanged
  · exact ⟨rfl, fun id hid => List.mem_of_mem_drop hid⟩
  · rw [fold_unchanged (by simpa using hchanged)]
    exact ⟨rfl, fun id hid => hid⟩

theorem HoldsNewest.deliver {samples delivered : List (TelemetrySample F)}
    {store : DashboardTelemetryStore F} (delivery : TelemetryDelivery F)
    (hdistinct : EventsDistinct samples) (hholds : HoldsNewest delivered store)
    (hsubset : ∀ other ∈ delivered ++ delivery.flatMap Prod.snd, other ∈ samples)
    (haccepted : ∀ call ∈ delivery, ∀ other ∈ call.2, ¬ isFuture call.1 other) :
    HoldsNewest (delivered ++ delivery.flatMap Prod.snd) (Nexolab.deliver store delivery) := by
  induction delivery generalizing delivered store with
  | nil => simpa [Nexolab.deliver] using hholds
  | cons call rest ih =>
    rw [List.flatMap_cons, ← List.append_assoc] at hsubset ⊢
    refine ih ?_ hsubset fun other hother =>
      haccepted other (List.mem_cons_of_mem _ hother)
    have hfold := HoldsNewest.fold hdistinct (store, false) call.2 hholds
      (fun other hother => hsubset other (List.mem_append_left _ hother))
      (haccepted call List.mem_cons_self)
    obtain ⟨hsamples, hseen⟩ := mergeDashboardTelemetry_samples store call.2 call.1
    refine ⟨fun id hid => hfold.seen id (hseen id hid), ?_⟩
    rw [hsamples]
    exact hfold.newest

/-! ## The projection of the server -/

structure Delivers (samples : List (TelemetrySample F))
    (delivery : TelemetryDelivery F) : Prop where
  complete : ∀ sample, sample ∈ delivery.flatMap Prod.snd ↔ sample ∈ samples
  accepted : ∀ call ∈ delivery, ∀ sample ∈ call.2, ¬ isFuture call.1 sample

def IsRow (sample : TelemetrySample F) (row : TelemetryLatest F) : Prop :=
  row.event = sample.event ∧ row.sampleId = sample.id

structure ShowsLatest (tables : TelemetryTables F) (store : DashboardTelemetryStore F) : Prop where
  rows : ∀ series row, tables.latest series = some row →
    ∃ sample, store.samples series.telemetrySeriesKey = some sample ∧ IsRow sample row
  only : ∀ key sample, store.samples key = some sample →
    ∃ row, tables.latest sample.event.series = some row ∧ IsRow sample row

structure ToldApart (samples : List (TelemetrySample F)) : Prop where
  keys : ∀ first ∈ samples, ∀ second ∈ samples,
    telemetrySeriesKey first = telemetrySeriesKey second → first.event.series = second.event.series
  newest : ∀ latest ∈ samples, (∀ other ∈ samples,
      other.event.series = latest.event.series → other.order ≤ latest.order) →
    ∀ other ∈ samples, other.event.series = latest.event.series →
      other ≠ latest → capturedMs other < capturedMs latest

section Projection

variable [PythonFloat F] {state : ProjectionState F}

theorem latest_row (hshows : ∀ series, state.ShowsMaximum series)
    {series : SeriesKey} {row : TelemetryLatest F} (hrow : state.tables.latest series = some row) :
    ∃ sample ∈ state.inserted, sample.event.series = series ∧ IsRow sample row ∧
      ∀ other ∈ state.inserted, other.event.series = series → other.order ≤ sample.order := by
  obtain ⟨stored, hmax, hstored⟩ := hshows series
  cases stored with
  | none =>
    rw [hstored] at hrow
    cases hrow
  | some sample =>
    obtain ⟨shown, hshown, hvalues⟩ := hstored
    rw [hrow] at hshown
    cases hshown
    have hmem := hmax.mem sample rfl
    simp only [samplesOf, List.mem_filter, decide_eq_true_eq] at hmem
    refine ⟨sample, hmem.1, hmem.2, latestValues_spec hvalues, ?_⟩
    intro other hother hseries
    exact hmax.le sample rfl other (by simp [samplesOf, hother, hseries])

theorem row_exists (hshows : ∀ series, state.ShowsMaximum series)
    {sample : TelemetrySample F} (hmem : sample ∈ state.inserted) :
    ∃ row, state.tables.latest sample.event.series = some row := by
  obtain ⟨stored, hmax, hstored⟩ := hshows sample.event.series
  cases stored with
  | none =>
    have hnone := hmax.absent rfl
    rw [samplesOf, List.filter_eq_nil_iff] at hnone
    simpa using hnone sample hmem
  | some other =>
    obtain ⟨row, hrow, _⟩ := hstored
    exact ⟨row, hrow⟩

theorem shows_of_toldApart (hshows : ∀ series, state.ShowsMaximum series)
    (htold : ToldApart state.inserted) {store : DashboardTelemetryStore F}
    (hholds : HoldsNewest state.inserted store) :
    ShowsLatest state.tables store := by
  have hheld : ∀ (sample current : TelemetrySample F) (row : TelemetryLatest F),
      sample ∈ state.inserted →
      store.samples (telemetrySeriesKey sample) = some current →
      state.tables.latest sample.event.series = some row → IsRow current row := by
    intro sample current row hsample hcur hrow
    obtain ⟨latest, hlatest, hseries, hisRow, hle⟩ := latest_row hshows hrow
    have hmem := (hholds.newest _).mem current hcur
    simp only [keyed, List.mem_filter, decide_eq_true_eq] at hmem
    have hsame : current.event.series = latest.event.series :=
      (htold.keys current hmem.1 sample hsample hmem.2).trans hseries.symm
    by_cases hother : current = latest
    · rwa [hother]
    · have hlater := htold.newest latest hlatest (by rwa [hseries]) current hmem.1 hsame hother
      have hkey : telemetrySeriesKey latest = telemetrySeriesKey sample := by
        unfold telemetrySeriesKey
        rw [hseries]
      have hnewest := (hholds.newest _).le current hcur latest (by simp [keyed, hlatest, hkey])
      exact absurd hlater (not_lt.mpr hnewest)
  constructor
  case rows =>
    intro series row hrow
    obtain ⟨latest, hlatest, rfl, _, _⟩ := latest_row hshows hrow
    cases hcur : store.samples latest.event.series.telemetrySeriesKey with
    | none =>
      have hnone := (hholds.newest _).absent hcur
      rw [keyed, List.filter_eq_nil_iff] at hnone
      have hkey := hnone latest hlatest
      simp [telemetrySeriesKey] at hkey
    | some current => exact ⟨current, rfl, hheld latest current row hlatest hcur hrow⟩
  case only =>
    intro key sample hsample
    have hmem := (hholds.newest key).mem sample hsample
    simp only [keyed, List.mem_filter, decide_eq_true_eq] at hmem
    obtain ⟨row, hrow⟩ := row_exists hshows hmem.1
    refine ⟨row, hrow, hheld sample sample row hmem.1 ?_ hrow⟩
    rw [hmem.2]
    exact hsample

/-- Options under which no sample of the contract lies in the future. -/
def lastInstantOptions : MergeTelemetryOptions where
  now := maxInstant

section

omit [PythonFloat F]

theorem not_isFuture (sample : TelemetrySample F) :
    ¬ isFuture lastInstantOptions sample := by
  have hrange : (_ : ℤ) ≤ (253402300799999999 : ℤ) :=
    sample.event.captured_range.2
  have hms : capturedMs sample ≤ maxInstant := by
    unfold capturedMs maxInstant
    omega
  have hcast : (capturedMs sample : ℚ) ≤ maxInstant := by exact_mod_cast hms
  have hskew : (0 : ℚ) ≤ lastInstantOptions.maxFutureSkewMs := by
    norm_num [lastInstantOptions]
  unfold isFuture
  exact not_lt.mpr (le_add_of_le_of_nonneg hcast hskew)

theorem holdsNewest_create :
    HoldsNewest [] (createDashboardTelemetryStore F) :=
  ⟨by simp [createDashboardTelemetryStore], fun _ => RunningMaximum.empty _⟩

theorem delivers_last {samples : List (TelemetrySample F)}
    (hdistinct : EventsDistinct samples) {sample : TelemetrySample F} (hmem : sample ∈ samples)
    (hnewest : ∀ other ∈ samples, telemetrySeriesKey other = telemetrySeriesKey sample →
        capturedMs other ≤ capturedMs sample) :
    ∃ delivery, Delivers samples delivery ∧
      (deliver (createDashboardTelemetryStore F) delivery).samples
        (telemetrySeriesKey sample) = some sample := by
  classical
  let rest := samples.filter fun other => other ≠ sample
  have hrest : ∀ other, other ∈ rest ↔ other ∈ samples ∧ other ≠ sample := by
    simp [rest]
  refine ⟨[(lastInstantOptions, rest ++ [sample])], ⟨?_, ?_⟩, ?_⟩
  · intro other
    by_cases hsame : other = sample
    · simp [hsame, hmem]
    · simp [hrest, hsame]
  · intro call _ other _
    simp only [List.mem_singleton] at *
    subst call
    exact not_isFuture other
  · have hholds := HoldsNewest.fold hdistinct
      (createDashboardTelemetryStore F, false) rest holdsNewest_create
      (fun other hother => ((hrest other).mp (by simpa using hother)).1)
      (fun other _ => not_isFuture other)
    unfold deliver
    rw [List.foldl_cons, List.foldl_nil, (mergeDashboardTelemetry_samples _ _ _).1,
      List.foldl_append, List.foldl_cons, List.foldl_nil]
    generalize rest.foldl (mergeSample lastInstantOptions) _ = before at hholds ⊢
    have hunseen : sample.event.eventId.text ∉ before.1.seenEventIds := by
      intro hseen
      obtain ⟨other, hother, htext⟩ := hholds.seen _ hseen
      obtain ⟨hin, hne⟩ := (hrest other).mp hother
      exact hne (hdistinct other hin sample hmem (eventId_ext htext))
    unfold mergeSample
    rw [if_neg hunseen, if_neg (not_isFuture sample)]
    simp only [Function.update_self, Option.some.injEq]
    unfold mergedSample
    cases hstored : before.1.samples (telemetrySeriesKey sample) with
    | none => rfl
    | some current =>
      have hcur := (hholds.newest _).mem current hstored
      simp only [keyed, List.mem_filter, decide_eq_true_eq] at hcur
      exact if_pos (hnewest current ((hrest current).mp hcur.1).1 hcur.2)

end

theorem toldApart_of_shows (hshows : ∀ series, state.ShowsMaximum series)
    (hdistinct : EventsDistinct state.inserted)
    (hdelivered : ∀ delivery, Delivers state.inserted delivery →
      ShowsLatest state.tables (deliver (createDashboardTelemetryStore F) delivery)) :
    ToldApart state.inserted := by
  have hkeys : ∀ first ∈ state.inserted, ∀ second ∈ state.inserted,
      telemetrySeriesKey first = telemetrySeriesKey second →
        first.event.series = second.event.series := by
    intro first hfst second hsnd hkey
    have hlatest := hdelivered [(lastInstantOptions, state.inserted)]
      ⟨by simp, by simp [not_isFuture]⟩
    have hseries : ∀ sample ∈ state.inserted, ∃ shown, (deliver (createDashboardTelemetryStore F)
          [(lastInstantOptions, state.inserted)]).samples (telemetrySeriesKey sample) = some shown ∧
          shown.event.series = sample.event.series := by
      intro sample hsample
      obtain ⟨row, hrow⟩ := row_exists hshows hsample
      obtain ⟨shown, hshown, hisRow⟩ := hlatest.rows _ row hrow
      obtain ⟨latest, _, hsame, hlatestRow, _⟩ := latest_row hshows hrow
      exact ⟨shown, hshown, by rw [← hsame, ← hlatestRow.1, hisRow.1]⟩
    obtain ⟨shown, hshown, hfirstSeries⟩ := hseries first hfst
    obtain ⟨other, hother, hsecondSeries⟩ := hseries second hsnd
    rw [← hkey, hshown] at hother
    cases hother
    rw [← hfirstSeries, hsecondSeries]
  refine ⟨hkeys, ?_⟩
  intro latest hlatest hle other hother hseries hne
  by_contra hnot
  have hms : ∀ sample ∈ state.inserted, sample.event.series = latest.event.series →
        capturedMs sample ≤ capturedMs latest := by
    intro sample hsample hsame
    have hord := hle sample hsample hsame
    have hcapt : sample.event.capturedAt ≤ latest.event.capturedAt :=
      (Prod.Lex.le_iff.mp hord).elim le_of_lt fun hboth => hboth.1.le
    exact Int.ediv_le_ediv (by norm_num) hcapt
  obtain ⟨row, hrow⟩ := row_exists hshows hlatest
  obtain ⟨top, htop, _, htopRow, _⟩ := latest_row hshows hrow
  have htopOf : ∀ sample ∈ state.inserted, sample.event.series = latest.event.series →
      capturedMs latest ≤ capturedMs sample → sample = top := by
    intro sample hsample hsame hnewest
    obtain ⟨delivery, hdelivers, hstored⟩ := delivers_last hdistinct hsample
      (fun third hthird hkey => (hms third hthird
        ((hkeys third hthird sample hsample hkey).trans hsame)).trans hnewest)
    obtain ⟨shown, hshown, hisRow⟩ := (hdelivered delivery hdelivers).only _ _ hstored
    rw [hsame, hrow] at hshown
    cases hshown
    refine hdistinct sample hsample top htop ?_
    rw [← hisRow.1, htopRow.1]
  exact hne ((htopOf other hother hseries (not_lt.mp hnot)).trans
    (htopOf latest hlatest rfl le_rfl).symm)

/-- However the samples of a reachable database are delivered, the dashboard ends
with the rows of the projection, exactly when no two series share a key and the
newest sample of a series is alone in its millisecond. -/
theorem deliveries_showLatest_iff
    (hreach : Reaches ProjectionState.step (fun _ _ => True) (.empty F) state)
    (hdistinct : EventsDistinct state.inserted) :
    (∀ delivery, Delivers state.inserted delivery → ShowsLatest state.tables
        (deliver (createDashboardTelemetryStore F) delivery)) ↔
      ToldApart state.inserted := by
  have hshows := ProjectionState.showsMaximum_of_reaches hreach
  constructor
  · exact toldApart_of_shows hshows hdistinct
  · intro htold delivery hdelivers
    have hholds := HoldsNewest.deliver delivery hdistinct holdsNewest_create
      (fun other hother => (hdelivers.complete other).mp (by simpa using hother))
      hdelivers.accepted
    exact shows_of_toldApart hshows htold
      (hholds.congr fun sample => by simp [hdelivers.complete])

end Projection

/-! ### Two samples of one channel within a millisecond -/

def laterReading : TelemetryEvent FloatValue :=
  exampleReading secondEventId 1000400 (.finite 22) (by decide)

def readBoth (later : TelemetryEvent FloatValue) :
    List (DatabaseAction FloatValue) :=
  [deliverFirst .plain 1, .persist .plain ⟨2, 2000000⟩ later []]

theorem eventsDistinct_of_nodup {samples : List (TelemetrySample F)}
    (hnodup : (samples.map fun sample => sample.event.eventId).Nodup) :
    EventsDistinct samples :=
  fun _ hfst _ hsnd => List.inj_on_of_nodup_map hnodup hfst hsnd

theorem deliveries_showLatest_readBoth :
    ∃ state, runFrom ProjectionState.step (.empty FloatValue)
        (readBoth laterReading) = some state ∧
      ((∀ delivery, Delivers state.inserted delivery → ShowsLatest state.tables
          (deliver (createDashboardTelemetryStore FloatValue) delivery)) ↔
        ToldApart state.inserted) := by
  have hevents : (runFrom ProjectionState.step (.empty FloatValue)
      (readBoth laterReading)).map (fun state =>
        state.inserted.map fun sample => sample.event.eventId) =
      some [firstEventId, secondEventId] := by
    decide +kernel
  obtain ⟨state, hrun, hids⟩ := Option.map_eq_some_iff.mp hevents
  refine ⟨state, hrun, ?_⟩
  refine deliveries_showLatest_iff (.of_runFrom (fun _ _ _ => trivial) hrun) ?_
  exact eventsDistinct_of_nodup (by rw [hids]; decide)

/-- The later of the two samples is delivered first: the earlier one replaces
it. -/
theorem earlierSample_shown :
    ∃ state, runFrom ProjectionState.step (.empty FloatValue)
        (readBoth laterReading) = some state ∧
      EventsDistinct state.inserted ∧
      ∃ delivery, Delivers state.inserted delivery ∧
        ¬ ShowsLatest state.tables
          (deliver (createDashboardTelemetryStore FloatValue) delivery) := by
  have hshown : (runFrom ProjectionState.step (.empty FloatValue)
      (readBoth laterReading)).map (fun state =>
        (state.inserted.map (fun sample => sample.event.eventId),
          (state.tables.latest firstReading.series).map TelemetryLatest.sampleId,
          ((deliver (createDashboardTelemetryStore FloatValue)
            [(lastInstantOptions, state.inserted.reverse)]).samples
              firstReading.series.telemetrySeriesKey).map TelemetrySample.id)) =
      some ([firstEventId, secondEventId], some 2, some 1) := by
    decide +kernel
  obtain ⟨state, hrun, hvalues⟩ := Option.map_eq_some_iff.mp hshown
  simp only [Prod.mk.injEq] at hvalues
  obtain ⟨hids, hlatest, hstored⟩ := hvalues
  refine ⟨state, hrun, eventsDistinct_of_nodup (by rw [hids]; decide),
    [(lastInstantOptions, state.inserted.reverse)], ⟨by simp, ?_⟩, ?_⟩
  · intro call hcall sample _
    cases List.mem_singleton.mp hcall
    exact not_isFuture sample
  · intro hshows
    obtain ⟨row, hrow, hid⟩ := Option.map_eq_some_iff.mp hlatest
    obtain ⟨sample, hsample, _, hsampleId⟩ := hshows.rows _ row hrow
    rw [hsample, Option.map_some, ← hsampleId, hid] at hstored
    cases hstored

end Nexolab
