import Nexolab.LatestProjection

/-!
# The startup reconciliation of the latest projection

The migration builds `telemetry_latest` from the history once.  At every start
the service looks at the samples whose id is above every projected sample id and
upserts them.  These samples are the ones a previous version of the service has
stored without the projection, and the late ones which did not advance it.
-/

namespace Nexolab

variable {F : Type}

/-- No sample comes before this one in `ORDER BY captured_at DESC, id DESC`. -/
def TelemetrySample.RanksFirst (samples : List (TelemetrySample F))
    (sample : TelemetrySample F) : Prop :=
  ∀ other ∈ samples, other.event.capturedAt < sample.event.capturedAt ∨
    (other.event.capturedAt = sample.event.capturedAt ∧ other.id ≤ sample.id)

instance (samples : List (TelemetrySample F)) (sample : TelemetrySample F) :
    Decidable (sample.RanksFirst samples) :=
  inferInstanceAs (Decidable (∀ other ∈ samples, _ ∨ _ ∧ _))

/-- The database after the migration.  `stale` is the expression which reads the
staleness of a sample in the dialect of the database. -/
def ProjectionState.migrated (stale : JsonFields F → Option F)
    (samples : List (TelemetrySample F)) (deadLetters : List DeadLetterEvent)
    (contexts : List TelemetrySessionContext) : ProjectionState F where
  tables := {
    samples
    latest := fun series =>
      ((samplesOf samples series).find? fun sample =>
        sample.RanksFirst (samplesOf samples series)).map fun sample =>
          ⟨sample.id, sample.event, stale sample.rawPayload, sample.receivedAt⟩
    deadLetters
    contexts }
  inserted := samples

structure LatestRows (latest : SeriesKey → Option (TelemetryLatest F)) where
  rows : List (TelemetryLatest F)
  mem_iff : ∀ series row, latest series = some row ↔ row ∈ rows ∧ row.event.series = series

inductive ReconcileError where
  | maxRowsNotPositive
  | emptyProjection
  | exceedsDeploymentGap (maxRows : ℕ)
  | values (error : PersistError)

def ReconcileError.message : ReconcileError → String
  | .maxRowsNotPositive => "max_rows must be positive"
  | .emptyProjection =>
    "telemetry_latest is empty while telemetry history exists; " ++
    "run the latest-projection migration backfill before starting ingestion"
  | .exceedsDeploymentGap maxRows =>
    "latest-projection startup reconciliation exceeds bounded deployment " ++
    "gap (" ++ toString maxRows ++
    " rows); investigate migration/cutover state"
  | .values _ => "integer too large to convert to a floating-point number"

def maxStartupReconcileRows : ℕ := 10000

def wouldAdvanceLatest (tables : TelemetryTables F) (row : TelemetrySample F) :
    Bool :=
  match tables.latest row.event.series with
  | none => true
  | some existing =>
    decide (existing.event.capturedAt < row.event.capturedAt ∨
      (row.event.capturedAt = existing.event.capturedAt ∧ existing.sampleId < row.id))

def samplesAbove (tables : TelemetryTables F) (sampleId : ℕ) :
    List (TelemetrySample F) :=
  (tables.samples.filter fun sample => sampleId < sample.id).insertionSort
    fun first second => first.id ≤ second.id

section Reconciliation

variable [PythonFloat F]

def reconcileRow (progress : TelemetryTables F × ℕ) (row : TelemetrySample F) :
    Except PersistError (TelemetryTables F × ℕ) := do
  let values ← latestValues row.event row.id row.receivedAt row.rawPayload
  return (upsertLatest progress.1 values,
    if wouldAdvanceLatest progress.1 row then progress.2 + 1 else progress.2)

def reconcileLatestProjection (tables : TelemetryTables F)
    (latest : LatestRows tables.latest) (maxRows : ℕ) :
    Except ReconcileError (TelemetryTables F × ℕ) :=
  if maxRows < 1 then .error .maxRowsNotPositive
  else match (tables.samples.map TelemetrySample.id).max? with
  | none => .ok (tables, 0)
  | some historyMaxId =>
    match (latest.rows.map TelemetryLatest.sampleId).max? with
    | none => .error .emptyProjection
    | some latestMaxSampleId =>
      if historyMaxId ≤ latestMaxSampleId then .ok (tables, 0)
      else
        let rows :=
          (samplesAbove tables latestMaxSampleId).take (maxRows + 1)
        if maxRows < rows.length then
          .error (.exceedsDeploymentGap maxRows)
        else (rows.foldlM reconcileRow (tables, 0)).mapError .values

end Reconciliation

/-! ## What the reconciliation looks at -/

/-- The stored samples with an id above every projected sample id. -/
def unprojected (tables : TelemetryTables F) (latest : LatestRows tables.latest) :
    List (TelemetrySample F) :=
  tables.samples.filter fun sample =>
    ∀ row ∈ latest.rows, row.sampleId < sample.id

def ShowsSample (row : TelemetryLatest F) (sample : TelemetrySample F) : Prop :=
  row.event = sample.event ∧ row.sampleId = sample.id

def SameSample (first second : TelemetrySample F) : Prop :=
  first.event = second.event ∧ first.id = second.id

theorem SameSample.order_eq {first second : TelemetrySample F}
    (hsame : SameSample first second) : first.order = second.order := by
  unfold TelemetrySample.order
  rw [hsame.1, hsame.2]

variable {sample : TelemetrySample F} {samples : List (TelemetrySample F)}
  {tables : TelemetryTables F}

theorem mem_samplesOf {series : SeriesKey} :
    sample ∈ samplesOf samples series ↔ sample ∈ samples ∧ sample.event.series = series := by
  simp [samplesOf]

theorem ShowsLargestBy.congr {first second : List (TelemetrySample F)}
    {latest : SeriesKey → Option (TelemetryLatest F)} {series : SeriesKey}
    (hforth : ∀ sample ∈ first, ∃ other ∈ second, SameSample sample other)
    (hback : ∀ sample ∈ second, ∃ other ∈ first, SameSample sample other)
    (hshows : ShowsLargestBy ShowsSample first latest series) :
    ShowsLargestBy ShowsSample second latest series := by
  obtain ⟨stored, hmaximum, hrow⟩ := hshows
  have hbackOf : ∀ sample ∈ samplesOf second series,
      ∃ other ∈ samplesOf first series, SameSample sample other := by
    intro sample hsamp
    obtain ⟨hmem, hseries⟩ := mem_samplesOf.mp hsamp
    obtain ⟨other, hother, hsame⟩ := hback sample hmem
    refine ⟨other, mem_samplesOf.mpr ⟨hother, ?_⟩, hsame⟩
    rw [← hsame.1]
    exact hseries
  cases stored with
  | none =>
    refine ⟨none, ⟨fun _ => ?_, ?_, ?_⟩, hrow⟩
    · rw [List.eq_nil_iff_forall_not_mem]
      intro sample hsamp
      obtain ⟨other, hother, _⟩ := hbackOf sample hsamp
      rw [hmaximum.absent rfl] at hother
      cases hother
    · exact fun _ hvalue => by cases hvalue
    · exact fun _ hvalue => by cases hvalue
  | some largest =>
    obtain ⟨hmem, hseries⟩ := mem_samplesOf.mp (hmaximum.mem largest rfl)
    obtain ⟨counterpart, hcounterpart, hsame⟩ := hforth largest hmem
    obtain ⟨row, hlat, hevent, hid⟩ := hrow
    refine ⟨some counterpart, ⟨fun habsent => (by cases habsent), ?_, ?_⟩, row,
      hlat, hevent.trans hsame.1, hid.trans hsame.2⟩
    · rintro _ ⟨rfl⟩
      refine mem_samplesOf.mpr ⟨hcounterpart, ?_⟩
      rw [← hsame.1]
      exact hseries
    · rintro _ ⟨rfl⟩ other hother
      obtain ⟨old, hold, holdSame⟩ := hbackOf other hother
      rw [holdSame.order_eq, ← hsame.order_eq]
      exact hmaximum.le largest rfl old hold

/-- The projection shows the largest of the inserted samples, and every stored
sample is one of these. -/
structure ProjectionState.Current (state : ProjectionState F) : Prop where
  shown : ∀ series, ShowsLargestBy ShowsSample state.inserted state.tables.latest series
  stored : ∀ sample ∈ state.tables.samples, ∃ other ∈ state.inserted, SameSample sample other

theorem TelemetrySample.ranksFirst_iff :
    sample.RanksFirst samples ↔ ∀ other ∈ samples, other.order ≤ sample.order := by
  unfold TelemetrySample.RanksFirst TelemetrySample.order
  simp only [Prod.Lex.toLex_le_toLex]

theorem runningMaximum_find (samples : List (TelemetrySample F)) :
    RunningMaximum TelemetrySample.order samples
      (samples.find? fun sample => sample.RanksFirst samples) := by
  constructor
  case absent =>
    intro hnone
    rw [List.find?_eq_none] at hnone
    cases hlargest : samples.argmax TelemetrySample.order with
    | none => exact List.argmax_eq_none.mp hlargest
    | some largest =>
      have hfirst : largest.RanksFirst samples :=
        TelemetrySample.ranksFirst_iff.mpr fun other hother =>
          List.le_of_mem_argmax hother hlargest
      exact absurd (decide_eq_true hfirst) (hnone largest (List.argmax_mem hlargest))
  case mem => exact fun _ hfound => List.mem_of_find?_eq_some hfound
  case le =>
    intro sample hfound
    have hfirst := List.find?_some hfound
    exact TelemetrySample.ranksFirst_iff.mp (of_decide_eq_true hfirst)

theorem ProjectionState.Current.migrated (stale : JsonFields F → Option F)
    (samples : List (TelemetrySample F)) (deadLetters : List DeadLetterEvent)
    (contexts : List TelemetrySessionContext) :
    (ProjectionState.migrated stale samples deadLetters contexts).Current := by
  constructor
  case shown =>
    intro series
    refine ⟨_, runningMaximum_find (samplesOf samples series), ?_⟩
    · split
      next hnone => simp [ProjectionState.migrated, hnone]
      next largest hlargest =>
        refine ⟨⟨largest.id, largest.event, stale largest.rawPayload,
          largest.receivedAt⟩, ?_, rfl, rfl⟩
        simp [ProjectionState.migrated, hlargest]
  case stored => exact fun sample hsamp => ⟨sample, hsamp, rfl, rfl⟩

theorem cleanupRetention_samples (tables : TelemetryTables F) (now : Instant)
    (policy : RetentionPolicy) (sample : TelemetrySample F)
    (hsamp : sample ∈ (Database.cleanupRetention tables now policy).samples) :
    ∃ other ∈ tables.samples, SameSample sample other := by
  simp only [Database.cleanupRetention, List.mem_map] at hsamp
  obtain ⟨other, hother, rfl⟩ := hsamp
  refine ⟨other, (List.mem_filter.mp hother).1, ?_⟩
  split <;> exact ⟨rfl, rfl⟩

variable [PythonFloat F]

theorem ProjectionState.Current.step {state next : ProjectionState F}
    {action : DatabaseAction F} (hcur : state.Current)
    (hstep : state.step action = some next) : next.Current := by
  cases action with
  | persist path allocation event rawPayload =>
    simp only [ProjectionState.step] at hstep
    split_ifs at hstep
    split at hstep
    next error _ =>
      cases hstep
      exact hcur
    next tables hpers =>
      cases hstep
      obtain ⟨written, hinsert, hsamples, hlat, _⟩ :=
        persistVia_inserts hpers
      rcases insertSample_cases hinsert with ⟨_, _, rfl⟩ | ⟨hfalse, _⟩
      · constructor
        case shown =>
          intro series
          dsimp only
          rw [hlat]
          exact hcur.shown series
        case stored =>
          dsimp only
          rw [hsamples]
          exact hcur.stored
      · cases hfalse
    next tables hpers =>
      cases hstep
      obtain ⟨written, hinsert, hsamples, hlat, _⟩ :=
        persistVia_inserts hpers
      rcases insertSample_cases hinsert with
        ⟨hfalse, _⟩ | ⟨_, _, values, hvalues, rfl⟩
      · cases hfalse
      · have hshows : ShowsSample values (insertedSample allocation event rawPayload) :=
          latestValues_spec hvalues
        constructor
        case shown =>
          intro series
          dsimp only
          rw [hlat]
          let stored : TelemetryTables F := { state.tables with
            samples := state.tables.samples ++ [insertedSample allocation event rawPayload] }
          have hstored : ShowsLargestBy ShowsSample state.inserted
              stored.latest series := hcur.shown series
          exact hstored.upsert ShowsSample (fun _ _ hrow => hrow) hshows
        case stored =>
          intro sample hsamp
          dsimp only at hsamp ⊢
          rw [hsamples, upsertLatest_samples, List.mem_append, List.mem_singleton] at hsamp
          rcases hsamp with hold | rfl
          · obtain ⟨other, hother, hsame⟩ := hcur.stored sample hold
            exact ⟨other, List.mem_append_left _ hother, hsame⟩
          · exact ⟨_, List.mem_append_right _ (List.mem_singleton_self _), rfl, rfl⟩
  | persistDeadLetter row =>
    cases hstep
    exact ⟨hcur.shown, hcur.stored⟩
  | cleanupRetention now policy =>
    cases hstep
    refine ⟨hcur.shown, ?_⟩
    intro sample hsamp
    obtain ⟨other, hother, hsame⟩ :=
      cleanupRetention_samples state.tables now policy sample hsamp
    obtain ⟨inserted, hinserted, hotherSame⟩ := hcur.stored other hother
    exact ⟨inserted, hinserted, hsame.1.trans hotherSame.1, hsame.2.trans hotherSame.2⟩

def FitsFloat (sample : TelemetrySample F) : Prop :=
  ∃ stale, staleAfterSeconds sample.rawPayload = .ok stale

theorem FitsFloat.latestValues (hfits : FitsFloat sample) :
    ∃ values, latestValues sample.event sample.id sample.receivedAt
        sample.rawPayload = .ok values ∧ ShowsSample values sample := by
  obtain ⟨stale, hstale⟩ := hfits
  refine ⟨⟨sample.id, sample.event, stale, sample.receivedAt⟩, ?_, rfl, rfl⟩
  unfold Nexolab.latestValues
  rw [hstale]
  rfl

omit [PythonFloat F] in
theorem samplesAbove_eq {latest : LatestRows tables.latest} {latestMaxSampleId : ℕ}
    (hmax : (latest.rows.map TelemetryLatest.sampleId).max? = some latestMaxSampleId) :
    samplesAbove tables latestMaxSampleId = (unprojected tables latest).insertionSort
        fun first second => first.id ≤ second.id := by
  rw [List.max?_eq_some_iff] at hmax
  obtain ⟨hmem, hle⟩ := hmax
  unfold samplesAbove unprojected
  congr 1
  apply List.filter_congr
  intro sample _
  rw [decide_eq_decide]
  constructor
  · intro habove row hrow
    exact (hle _ (List.mem_map_of_mem hrow)).trans_lt habove
  · intro habove
    obtain ⟨row, hrow, hid⟩ := List.mem_map.mp hmem
    rw [← hid]
    exact habove row hrow

theorem reconcileLatestProjection_eq
    {latest : LatestRows tables.latest} {maxRows : ℕ} (hpositive : 1 ≤ maxRows)
    (hprojected : tables.samples ≠ [] → latest.rows ≠ [])
    (hbound : (unprojected tables latest).length ≤ maxRows) :
    reconcileLatestProjection tables latest maxRows = ((((unprojected tables latest).insertionSort
        fun first second => first.id ≤ second.id).foldlM reconcileRow
          (tables, 0)).mapError .values) := by
  unfold reconcileLatestProjection
  rw [if_neg (by omega)]
  split
  next hempty =>
    rw [List.max?_eq_none_iff, List.map_eq_nil_iff] at hempty
    have hnone : unprojected tables latest = [] := by
      unfold unprojected
      rw [hempty]
      rfl
    rw [hnone]
    rfl
  next historyMaxId hhistory =>
    rw [List.max?_eq_some_iff] at hhistory
    obtain ⟨hhistoryMem, hhistoryLe⟩ := hhistory
    have hsamples : tables.samples ≠ [] := by
      intro hempty
      rw [hempty] at hhistoryMem
      cases hhistoryMem
    split
    next hempty =>
      rw [List.max?_eq_none_iff, List.map_eq_nil_iff] at hempty
      exact absurd hempty (hprojected hsamples)
    next latestMaxSampleId hlat =>
      have habove := samplesAbove_eq hlat
      rw [← habove]
      by_cases hcovered : historyMaxId ≤ latestMaxSampleId
      · rw [if_pos hcovered]
        have hnone : samplesAbove tables latestMaxSampleId = [] := by
          have hfilter : (tables.samples.filter fun sample =>
              latestMaxSampleId < sample.id) = [] := by
            rw [List.filter_eq_nil_iff]
            intro sample hsamp
            have hle := hhistoryLe _ (List.mem_map_of_mem hsamp)
            simp only [decide_eq_true_eq, not_lt]
            omega
          unfold samplesAbove
          rw [hfilter]
          rfl
        rw [hnone]
        rfl
      · have hlen : (samplesAbove tables latestMaxSampleId).length ≤ maxRows := by
          rw [habove, List.length_insertionSort]
          exact hbound
        dsimp only
        rw [if_neg hcovered, List.take_of_length_le (by omega),
          if_neg (by omega)]

theorem reconcileRow_settled {reconciled : ℕ}
    {sample largest : TelemetrySample F} {row : TelemetryLatest F} (hfits : FitsFloat sample)
    (hlat : tables.latest sample.event.series = some row)
    (hshows : ShowsSample row largest) (hle : sample.order ≤ largest.order) :
    reconcileRow (tables, reconciled) sample = .ok (tables, reconciled) := by
  obtain ⟨values, hvalues, hvaluesShow⟩ := hfits.latestValues
  have hnot : ¬ newer values row := by
    rw [newer_iff_order_lt hvaluesShow hshows]
    exact not_lt.mpr hle
  have hkeeps : upsertLatest tables values = tables := by
    unfold upsertLatest
    dsimp only
    rw [hvaluesShow.1, hlat]
    exact if_neg hnot
  have hadv : wouldAdvanceLatest tables sample = false := by
    unfold newer at hnot
    rw [hvaluesShow.1, hvaluesShow.2] at hnot
    unfold wouldAdvanceLatest
    rw [hlat]
    exact decide_eq_false hnot
  simp only [reconcileRow, hvalues, bind, Except.bind, pure, Except.pure, hkeeps,
    hadv, Bool.false_eq_true, if_false]

theorem foldlM_reconcileRow_settled {rows : List (TelemetrySample F)}
    (hrows : ∀ sample ∈ rows, reconcileRow (tables, 0) sample = .ok (tables, 0)) :
    rows.foldlM reconcileRow (tables, 0) = .ok (tables, 0) := by
  induction rows with
  | nil => rfl
  | cons sample rest ih =>
    rw [List.foldlM_cons, hrows sample List.mem_cons_self]
    exact ih fun other hother => hrows other (List.mem_cons_of_mem _ hother)

theorem foldlM_reconcileRow {rows shown : List (TelemetrySample F)}
    {progress : TelemetryTables F × ℕ} (hfits : ∀ sample ∈ rows, FitsFloat sample)
    (hshown : ∀ series, ShowsLargestBy ShowsSample shown progress.1.latest series) :
    ∃ next, rows.foldlM reconcileRow progress = .ok next ∧ next.1.samples = progress.1.samples ∧
      ∀ series, ShowsLargestBy ShowsSample (shown ++ rows) next.1.latest
        series := by
  induction rows generalizing shown progress with
  | nil =>
    refine ⟨progress, rfl, rfl, ?_⟩
    rw [List.append_nil]
    exact hshown
  | cons sample rest ih =>
    obtain ⟨values, hvalues, hvaluesShow⟩ :=
      (hfits sample List.mem_cons_self).latestValues
    have hrow : ∃ count, reconcileRow progress sample =
        .ok (upsertLatest progress.1 values, count) := by
      unfold reconcileRow
      rw [hvalues]
      exact ⟨_, rfl⟩
    obtain ⟨count, hrow⟩ := hrow
    have hupserted : ∀ series, ShowsLargestBy ShowsSample (shown ++ [sample])
        (upsertLatest progress.1 values).latest series := fun series =>
      (hshown series).upsert ShowsSample (fun _ _ hrow => hrow) hvaluesShow
    obtain ⟨next, hnext, hsamples, hnextShown⟩ :=
      @ih (shown ++ [sample]) (upsertLatest progress.1 values, count)
        (fun other hother => hfits other (List.mem_cons_of_mem _ hother))
        hupserted
    refine ⟨next, ?_, ?_, ?_⟩
    · rw [List.foldlM_cons, hrow]
      exact hnext
    · rw [hsamples]
      exact upsertLatest_samples _ _
    · intro series
      have happ := hnextShown series
      rw [List.append_assoc] at happ
      exact happ

end Nexolab
