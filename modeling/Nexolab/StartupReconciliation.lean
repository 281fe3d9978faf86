import Nexolab.ProjectionReconcile

/-!
# Starting the telemetry service

The reconciliation runs at every start, after a run of the service as much as
after a migration.  Within its bound it leaves a projection which is up to date
as it is and brings one which lags behind up to date.
-/

namespace Nexolab

variable {F : Type} [PythonFloat F]

omit [PythonFloat F] in
/-- The projection shows the largest of the `current` samples; the samples of
the gap were stored without it. -/
structure LagsBehind (tables : TelemetryTables F)
    (current gap : List (TelemetrySample F)) : Prop where
  shown : ∀ series, ShowsLargestBy ShowsSample current tables.latest series
  gap_stored : ∀ sample ∈ gap, sample ∈ tables.samples
  stored : ∀ sample ∈ tables.samples, sample ∈ gap ∨ ∃ other ∈ current, SameSample sample other

theorem ProjectionState.Current.of_reaches {before after : ProjectionState F}
    (hreach : Reaches ProjectionState.step (fun _ _ => True) before after)
    (hcur : before.Current) : after.Current :=
  hreach.invariant (fun _ _ _ hcur _ hstep => hcur.step hstep) hcur

theorem ProjectionState.Current.reconcileRow {state : ProjectionState F}
    (hcur : state.Current) {sample : TelemetrySample F}
    (hsamp : sample ∈ state.tables.samples) (hfits : FitsFloat sample) :
    reconcileRow (state.tables, 0) sample = .ok (state.tables, 0) := by
  obtain ⟨inserted, hinserted, hsame⟩ := hcur.stored sample hsamp
  have hmem : inserted ∈ samplesOf state.inserted sample.event.series :=
    mem_samplesOf.mpr ⟨hinserted, by rw [hsame.1]⟩
  obtain ⟨stored, hmaximum, hrow⟩ := hcur.shown sample.event.series
  cases stored with
  | none =>
    rw [hmaximum.absent rfl] at hmem
    cases hmem
  | some largest =>
    obtain ⟨row, hlat, hshows⟩ := hrow
    apply reconcileRow_settled hfits hlat hshows
    rw [hsame.order_eq]
    exact hmaximum.le largest rfl inserted hmem

omit [PythonFloat F] in
theorem ProjectionState.Current.projected {state : ProjectionState F}
    (hcur : state.Current) (latest : LatestRows state.tables.latest)
    (hsamples : state.tables.samples ≠ []) : latest.rows ≠ [] := by
  obtain ⟨sample, hsamp⟩ := List.exists_mem_of_ne_nil _ hsamples
  obtain ⟨inserted, hinserted, hsame⟩ := hcur.stored sample hsamp
  obtain ⟨stored, hmaximum, hrow⟩ := hcur.shown inserted.event.series
  cases stored with
  | none =>
    have hmem : inserted ∈ samplesOf state.inserted inserted.event.series :=
      mem_samplesOf.mpr ⟨hinserted, rfl⟩
    rw [hmaximum.absent rfl] at hmem
    cases hmem
  | some largest =>
    obtain ⟨row, hlat, _⟩ := hrow
    exact List.ne_nil_of_mem ((latest.mem_iff _ _).mp hlat).1

/-- In every database which is reached from a migrated one the reconciliation
changes nothing and counts nothing, and from a projection which lags behind it
restores the largest sample of every series: as long as its bound covers the
samples above the projection, these have a staleness which is a float, and the
samples of the gap are among them beside a projection which is not empty. -/
theorem startupReconciliation_sound :
    (∀ (stale : JsonFields F → Option F) samples deadLetters contexts state,
      Reaches ProjectionState.step (fun _ _ => True)
        (.migrated stale samples deadLetters contexts) state →
      ∀ (latest : LatestRows state.tables.latest) maxRows, 1 ≤ maxRows →
        (unprojected state.tables latest).length ≤ maxRows →
        (∀ sample ∈ unprojected state.tables latest, FitsFloat sample) →
          reconcileLatestProjection state.tables latest maxRows =
            .ok (state.tables, 0)) ∧
    ∀ (tables : TelemetryTables F) current gap, LagsBehind tables current gap →
      ∀ (latest : LatestRows tables.latest) maxRows, 1 ≤ maxRows →
        (tables.samples ≠ [] → latest.rows ≠ []) →
        (∀ sample ∈ gap, sample ∈ unprojected tables latest) →
        (unprojected tables latest).length ≤ maxRows →
        (∀ sample ∈ unprojected tables latest, FitsFloat sample) →
          ∃ next reconciled, reconcileLatestProjection tables latest maxRows =
              .ok (next, reconciled) ∧
            next.samples = tables.samples ∧
            ∀ series, ShowsLargestBy ShowsSample (current ++ gap) next.latest
              series := by
  constructor
  · intro stale samples deadLetters contexts state hreach latest maxRows hpositive
      hbound hfits
    have hcur := (ProjectionState.Current.migrated stale samples deadLetters
      contexts).of_reaches hreach
    rw [reconcileLatestProjection_eq hpositive (hcur.projected latest) hbound]
    have hsettled : ∀ sample ∈ (unprojected state.tables latest).insertionSort
        (fun first second => first.id ≤ second.id),
        reconcileRow (state.tables, 0) sample = .ok (state.tables, 0) := by
      intro sample hsamp
      rw [List.mem_insertionSort] at hsamp
      exact hcur.reconcileRow (List.mem_filter.mp hsamp).1 (hfits sample hsamp)
    rw [foldlM_reconcileRow_settled hsettled]
    rfl
  · intro tables current gap hlags latest maxRows hpositive hprojected hgap hbound hfits
    rw [reconcileLatestProjection_eq hpositive hprojected hbound]
    obtain ⟨next, hnext, hsamples, hshown⟩ := @foldlM_reconcileRow _ _
      ((unprojected tables latest).insertionSort
        fun first second => first.id ≤ second.id) current (tables, 0)
      (fun sample hsamp => hfits sample ((List.mem_insertionSort _).mp hsamp))
      hlags.shown
    refine ⟨next.1, next.2, ?_, hsamples, ?_⟩
    · rw [hnext]
      rfl
    · intro series
      refine ShowsLargestBy.congr ?_ ?_ (hshown series)
      · intro sample hsamp
        rcases List.mem_append.mp hsamp with hcur | hrow
        · exact ⟨sample, List.mem_append_left _ hcur, rfl, rfl⟩
        · rw [List.mem_insertionSort] at hrow
          rcases hlags.stored sample (List.mem_filter.mp hrow).1 with
            hmissed | ⟨other, hother, hsame⟩
          · exact ⟨sample, List.mem_append_right _ hmissed, rfl, rfl⟩
          · exact ⟨other, List.mem_append_left _ hother, hsame⟩
      · intro sample hsamp
        refine ⟨sample, ?_, rfl, rfl⟩
        rcases List.mem_append.mp hsamp with hcur | hmissed
        · exact List.mem_append_left _ hcur
        · exact List.mem_append_right _
            ((List.mem_insertionSort _).mpr (hgap sample hmissed))

def LatestRows.single (series : SeriesKey) (row : TelemetryLatest FloatValue)
    (hseries : row.event.series = series) :
    LatestRows (Function.update (fun _ => none) series (some row)) where
  rows := [row]
  mem_iff := by
    intro other found
    by_cases hother : other = series
    · subst hother
      rw [Function.update_self, Option.some.injEq, List.mem_singleton]
      constructor
      · rintro rfl
        exact ⟨rfl, hseries⟩
      · exact fun hfound => hfound.1.symm
    · rw [Function.update_of_ne hother, List.mem_singleton]
      constructor
      · exact fun hfound => by cases hfound
      · rintro ⟨rfl, hfound⟩
        exact absurd (hfound.symm.trans hseries) hother

def channelSample (id : ℕ) (event : TelemetryEvent FloatValue) :
    TelemetrySample FloatValue :=
  ⟨id, event, [], true, 2000000⟩

def channelRow (id : ℕ) (event : TelemetryEvent FloatValue) :
    TelemetryLatest FloatValue :=
  ⟨id, event, none, 2000000⟩

def channelTables (samples : List (TelemetrySample FloatValue))
    (row : TelemetryLatest FloatValue) : TelemetryTables FloatValue :=
  { TelemetryTables.empty FloatValue with
    samples
    latest := Function.update (fun _ => none) firstReading.series (some row) }

theorem channelTables_shown (samples : List (TelemetrySample FloatValue)) (id : ℕ)
    (series : SeriesKey) : ShowsLargestBy ShowsSample [channelSample id firstReading]
      (channelTables samples (channelRow id firstReading)).latest series := by
  have hnone : ShowsLargestBy ShowsSample ([] : List (TelemetrySample FloatValue))
      (TelemetryTables.empty FloatValue).latest series :=
    ⟨none, RunningMaximum.empty _, rfl⟩
  have hrow : ShowsSample (channelRow id firstReading) (channelSample id firstReading) := ⟨rfl, rfl⟩
  exact hnone.upsert ShowsSample (fun _ _ hshows => hshows) hrow

def secondReading : TelemetryEvent FloatValue :=
  exampleReading secondEventId 2000000 (.finite 22) twoSeconds_within

def firstRow : LatestRows (channelTables [channelSample 1 firstReading,
    channelSample 2 secondReading] (channelRow 1 firstReading)).latest :=
  .single firstReading.series (channelRow 1 firstReading) rfl

/-- A reading which a previous version of the service has stored is projected. -/
theorem startupReconciliation_restores : ∃ next reconciled,
    reconcileLatestProjection _ firstRow maxStartupReconcileRows =
      .ok (next, reconciled) ∧
    ∀ series, ShowsLargestBy ShowsSample
      [channelSample 1 firstReading, channelSample 2 secondReading] next.latest
        series := by
  have hlags : LagsBehind (channelTables [channelSample 1 firstReading,
      channelSample 2 secondReading] (channelRow 1 firstReading))
      [channelSample 1 firstReading] [channelSample 2 secondReading] := by
    constructor
    case shown =>
      intro series
      exact channelTables_shown _ 1 series
    case gap_stored => simp [channelTables]
    case stored =>
      intro sample hsamp
      simp only [channelTables, List.mem_cons, List.not_mem_nil, or_false] at hsamp
      rcases hsamp with rfl | rfl
      · exact .inr ⟨_, List.mem_singleton_self _, rfl, rfl⟩
      · exact .inl (List.mem_singleton_self _)
  have hunprojected : unprojected _ firstRow = [channelSample 2 secondReading] := rfl
  obtain ⟨next, reconciled, hreconciled, _, hshown⟩ :=
    startupReconciliation_sound.2 _ _ _ hlags firstRow maxStartupReconcileRows
      (by decide) (fun _ => List.cons_ne_nil _ _)
      (fun sample hsamp => hunprojected ▸ hsamp)
      (by rw [hunprojected]; decide)
      (by
        intro sample hsamp
        rw [hunprojected, List.mem_singleton] at hsamp
        subst hsamp
        exact ⟨none, rfl⟩)
  exact ⟨next, reconciled, hreconciled, hshown⟩

/-! ## Late samples -/

def bitDigit (n i : ℕ) : Char :=
  if n.testBit i then '1' else '0'

def numberedEventId (n : ℕ) : UuidText where
  text := String.ofList ((List.range 8).map (bitDigit n) ++ "-0000-4000-8000-".toList ++
      (List.range 12).map fun i => bitDigit n (8 + i))
  length_eq := by
    rw [String.length_ofList]
    simp
  chars := by
    have hdigit : ∀ i, bitDigit n i ∈ "0123456789abcdef-".toList := by
      intro i
      unfold bitDigit
      split <;> decide
    intro c hc
    rw [String.toList_ofList] at hc
    simp only [List.mem_append, List.mem_map] at hc
    rcases hc with (⟨i, _, rfl⟩ | hconst) | ⟨i, _, rfl⟩
    · exact hdigit i
    · revert c
      decide
    · exact hdigit (8 + i)

theorem bitDigit_inj {n m i : ℕ} (hdigit : bitDigit n i = bitDigit m i) :
    n.testBit i = m.testBit i := by
  unfold bitDigit at hdigit
  cases hn : n.testBit i <;> cases hm : m.testBit i <;>
    simp [hn, hm] at hdigit ⊢

theorem numberedEventId_inj {n m : ℕ} (hn : n < 2 ^ 20) (hm : m < 2 ^ 20)
    (hid : numberedEventId n = numberedEventId m) : n = m := by
  have hlist := congrArg (fun id : UuidText => id.text.toList) hid
  simp only [numberedEventId, String.toList_ofList] at hlist
  obtain ⟨hleft, hhigh⟩ := List.append_inj hlist (by simp)
  obtain ⟨hlow, _⟩ := List.append_inj hleft (by simp)
  rw [List.map_inj_left] at hlow hhigh
  apply Nat.eq_of_testBit_eq
  intro i
  by_cases hsmall : i < 8
  · exact bitDigit_inj (hlow i (List.mem_range.mpr hsmall))
  · by_cases hlarge : i < 20
    · have hdigit := hhigh (i - 8) (List.mem_range.mpr (by omega))
      have hindex : 8 + (i - 8) = i := by omega
      rw [hindex] at hdigit
      exact bitDigit_inj hdigit
    · have hbound : (2 : ℕ) ^ 20 ≤ 2 ^ i :=
        Nat.pow_le_pow_right (by decide) (by omega)
      rw [Nat.testBit_lt_two_pow (hn.trans_le hbound), Nat.testBit_lt_two_pow (hm.trans_le hbound)]

/-- The first reading is the latest one; all others were captured before. -/
def bufferedReading : ℕ → TelemetryEvent FloatValue
  | 0 => exampleReading (numberedEventId 0) 1000000 (.finite 21) oneSecond_within
  | n + 1 => exampleReading (numberedEventId (n + 1)) 0 (.finite 20) epoch_within

def bufferedSamples (n : ℕ) : List (TelemetrySample FloatValue) :=
  (List.range (n + 1)).map fun k => channelSample (k + 1) (bufferedReading k)

def bufferedState (n : ℕ) : ProjectionState FloatValue where
  tables := channelTables (bufferedSamples n) (channelRow 1 (bufferedReading 0))
  inserted := bufferedSamples n

/-- An edge node delivers its latest reading and then the ones it had buffered. -/
def bufferedDeliveries (n : ℕ) : List (DatabaseAction FloatValue) :=
  (List.range (n + 1)).map fun k =>
    .persist .plain ⟨k + 1, 2000000⟩ (bufferedReading k) []

theorem bufferedReading_eventId (n : ℕ) :
    (bufferedReading n).eventId = numberedEventId n := by
  cases n <;> rfl

theorem bufferedSamples_succ (n : ℕ) : bufferedSamples (n + 1) =
    bufferedSamples n ++ [channelSample (n + 2) (bufferedReading (n + 1))] := by
  unfold bufferedSamples
  rw [List.range_succ, List.map_append]
  rfl

theorem bufferedState_step {n : ℕ} (hn : n + 1 < 2 ^ 20) :
    (bufferedState n).step (.persist .plain ⟨n + 2, 2000000⟩ (bufferedReading (n + 1)) []) =
        some (bufferedState (n + 1)) := by
  have hfresh : ((bufferedState n).tables.samples.any fun sample =>
      sample.id = n + 2) = false := by
    rw [List.any_eq_false]
    intro sample hsamp
    obtain ⟨k, hk, rfl⟩ := List.mem_map.mp hsamp
    rw [List.mem_range] at hk
    have hne : k + 1 ≠ n + 2 := by omega
    simpa [channelSample] using hne
  have hnew : (bufferedState n).tables.stores (bufferedReading (n + 1)).eventId = false := by
    unfold TelemetryTables.stores
    rw [List.any_eq_false]
    intro sample hsamp
    obtain ⟨k, hk, rfl⟩ := List.mem_map.mp hsamp
    rw [List.mem_range] at hk
    simp only [channelSample, bufferedReading_eventId, decide_eq_true_eq]
    intro hid
    have heq := numberedEventId_inj (by omega) hn hid
    omega
  have hinsert : insertSample (bufferedState n).tables ⟨n + 2, 2000000⟩
      (bufferedReading (n + 1)) [] = .ok ((bufferedState (n + 1)).tables, true) := by
    unfold insertSample
    rw [hnew, if_neg Bool.false_ne_true]
    simp only [bufferedState, bufferedSamples_succ]
    rfl
  simp only [ProjectionState.step, persistVia, Database.persist]
  rw [if_neg (by rw [hfresh]; exact Bool.false_ne_true), hinsert]
  simp only [bufferedState, bufferedSamples_succ]
  rfl

theorem bufferedDeliveries_run {n : ℕ} (hn : n < 2 ^ 20) :
    runFrom ProjectionState.step (.empty FloatValue) (bufferedDeliveries n) =
      some (bufferedState n) := by
  induction n with
  | zero => rfl
  | succ n ih =>
    have hsucc : bufferedDeliveries (n + 1) = bufferedDeliveries n ++
        [.persist .plain ⟨n + 2, 2000000⟩ (bufferedReading (n + 1)) []] := by
      unfold bufferedDeliveries
      rw [List.range_succ, List.map_append]
      rfl
    rw [hsucc, runFrom_append, ih (by omega), Option.bind_some,
      runFrom_cons_of_step (bufferedState_step hn)]
    rfl

def bufferedRows (n : ℕ) : LatestRows (bufferedState n).tables.latest :=
  .single firstReading.series (channelRow 1 (bufferedReading 0)) rfl

theorem bufferedState_above (n : ℕ) :
    (samplesAbove (bufferedState n).tables 1).length = n := by
  have hfilter : ((bufferedSamples n).filter fun sample => 1 < sample.id) =
      (List.range n).map fun k =>
        channelSample (k + 2) (bufferedReading (k + 1)) := by
    unfold bufferedSamples
    rw [List.range_succ_eq_map, List.map_cons, List.filter_cons_of_neg (by decide), List.map_map]
    apply List.filter_eq_self.mpr
    intro sample hsamp
    obtain ⟨k, _, rfl⟩ := List.mem_map.mp hsamp
    simp [channelSample]
  change (((bufferedSamples n).filter fun sample => 1 < sample.id).insertionSort _).length = n
  rw [List.length_insertionSort, hfilter, List.length_map, List.length_range]

theorem bufferedState_refused {n maxRows : ℕ} (hpositive : 1 ≤ maxRows) (hbound : maxRows < n) :
    reconcileLatestProjection (bufferedState n).tables (bufferedRows n) maxRows =
      .error (.exceedsDeploymentGap maxRows) := by
  have hlat : ((bufferedRows n).rows.map TelemetryLatest.sampleId).max? = some 1 := rfl
  unfold reconcileLatestProjection
  rw [if_neg (by omega)]
  split
  next hempty =>
    rw [List.max?_eq_none_iff, List.map_eq_nil_iff] at hempty
    have habove := bufferedState_above n
    unfold samplesAbove at habove
    rw [hempty] at habove
    simp at habove
    omega
  next historyMaxId hhistory =>
    rw [hlat]
    have hlast : channelSample (n + 1) (bufferedReading n) ∈ bufferedSamples n :=
      List.mem_map.mpr ⟨n, List.mem_range.mpr (by omega), rfl⟩
    rw [List.max?_eq_some_iff] at hhistory
    have hle : n + 1 ≤ historyMaxId :=
      hhistory.2 _ (List.mem_map_of_mem (f := TelemetrySample.id) hlast)
    dsimp only
    rw [if_neg (by omega), List.length_take, bufferedState_above,
      if_pos (by omega)]

def historyTables : TelemetryTables FloatValue :=
  { TelemetryTables.empty FloatValue with
    samples := [channelSample 1 firstReading] }

def historyRows : LatestRows historyTables.latest where
  rows := []
  mem_iff := by
    intro series row
    constructor
    · exact fun hrow => by cases hrow
    · exact fun hrow => by cases hrow.1

/-- The later reading was stored first and without the projection. -/
def overtakenTables : TelemetryTables FloatValue :=
  channelTables [channelSample 1 secondReading, channelSample 2 firstReading]
    (channelRow 2 firstReading)

def overtakenRows : LatestRows overtakenTables.latest :=
  .single firstReading.series (channelRow 2 firstReading) rfl

theorem historyTables_lag : LagsBehind historyTables [] [channelSample 1 firstReading] where
  shown := fun _ => ⟨none, RunningMaximum.empty _, rfl⟩
  gap_stored := fun _ hsamp => hsamp
  stored := fun _ hsamp => .inl hsamp

theorem overtakenTables_lag : LagsBehind overtakenTables
    [channelSample 2 firstReading] [channelSample 1 secondReading] where
  shown := channelTables_shown _ 2
  gap_stored := by simp [overtakenTables, channelTables]
  stored := by
    intro sample hsamp
    simp only [overtakenTables, channelTables, List.mem_cons, List.not_mem_nil, or_false] at hsamp
    rcases hsamp with rfl | rfl
    · exact .inl (List.mem_singleton_self _)
    · exact .inr ⟨_, List.mem_singleton_self _, rfl, rfl⟩

theorem overtakenTables_not_shown : ¬ ShowsLargestBy ShowsSample
    [channelSample 2 firstReading, channelSample 1 secondReading]
    overtakenTables.latest firstReading.series := by
  rintro ⟨stored, hmaximum, hrow⟩
  cases stored with
  | none => cases hrow
  | some largest =>
    obtain ⟨row, hlat, hevent, hid⟩ := hrow
    obtain rfl : channelRow 2 firstReading = row := Option.some.inj hlat
    have hle := hmaximum.le largest rfl (channelSample 1 secondReading)
      (mem_samplesOf.mpr ⟨by simp, rfl⟩)
    unfold TelemetrySample.order at hle
    rw [← hevent, ← hid] at hle
    revert hle
    decide

/-- After 10 001 late readings of one edge node the service does not start.  A
history without a projection is refused, and a gap which a projected sample has
overtaken is not seen. -/
theorem startupReconciliation_fails :
    (∃ state, Reaches ProjectionState.step (fun _ _ => True)
        (.migrated (fun _ => (none : Option FloatValue)) [] [] []) state ∧
      ∃ latest : LatestRows state.tables.latest,
        reconcileLatestProjection state.tables latest maxStartupReconcileRows =
          .error (.exceedsDeploymentGap maxStartupReconcileRows)) ∧
    (LagsBehind historyTables [] [channelSample 1 firstReading] ∧
      reconcileLatestProjection historyTables historyRows
        maxStartupReconcileRows = .error .emptyProjection) ∧
    LagsBehind overtakenTables [channelSample 2 firstReading]
      [channelSample 1 secondReading] ∧
    reconcileLatestProjection overtakenTables overtakenRows
      maxStartupReconcileRows = .ok (overtakenTables, 0) ∧
    ¬ ShowsLargestBy ShowsSample
      [channelSample 2 firstReading, channelSample 1 secondReading]
      overtakenTables.latest firstReading.series := by
  refine ⟨?_, ⟨historyTables_lag, rfl⟩, overtakenTables_lag, rfl,
    overtakenTables_not_shown⟩
  have hreach : Reaches ProjectionState.step (fun _ _ => True)
      (.empty FloatValue) (bufferedState 10001) :=
    .of_runFrom (fun _ _ _ => trivial) (bufferedDeliveries_run (n := 10001) (by decide))
  exact ⟨bufferedState 10001, hreach, bufferedRows 10001,
    bufferedState_refused (by decide) (by decide)⟩

end Nexolab
