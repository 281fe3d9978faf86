import Nexolab.TransitionSystem
import Nexolab.RunningMaximum
import Nexolab.SessionAttribution

/-!
# The latest projection over whole runs

`telemetry_latest` is maintained by a conditional upsert in both persistence
paths and never recomputed.  Whatever order samples arrive in and whatever
retention deletes, the row of a series is the largest sample ever inserted by
capture time and then by sample id.  `ProjectionState` carries the log of these
samples beside the tables; no function of the source reads it.
-/

namespace Nexolab

variable {F : Type}

/-- The two persistence paths; the session-aware one reads the session tables
as they are at the delivery. -/
inductive PersistencePath (F : Type) where
  | plain
  | sessionAware (sessions : SessionTables F)

inductive DatabaseAction (F : Type) where
  | persist (path : PersistencePath F) (allocation : Allocation)
      (event : TelemetryEvent F) (rawPayload : JsonFields F)
  | persistDeadLetter (row : DeadLetterEvent)
  | cleanupRetention (now : Instant) (policy : RetentionPolicy)

structure ProjectionState (F : Type) where
  tables : TelemetryTables F
  inserted : List (TelemetrySample F)

def ProjectionState.empty (F : Type) : ProjectionState F where
  tables := .empty F
  inserted := []

def TelemetrySample.order (sample : TelemetrySample F) : ℤ ×ₗ ℕ :=
  toLex (sample.event.capturedAt, sample.id)

def samplesOf (samples : List (TelemetrySample F)) (series : SeriesKey) :
    List (TelemetrySample F) :=
  samples.filter fun sample => sample.event.series = series

def insertedSample (allocation : Allocation) (event : TelemetryEvent F)
    (rawPayload : JsonFields F) : TelemetrySample F :=
  ⟨allocation.id, event, rawPayload, true, allocation.receivedAt⟩

variable [PythonFloat F]

def persistVia (path : PersistencePath F) (tables : TelemetryTables F)
    (allocation : Allocation) (event : TelemetryEvent F) (rawPayload : JsonFields F) :
    Except PersistError (TelemetryTables F × Bool) :=
  match path with
  | .plain => Database.persist tables allocation event rawPayload
  | .sessionAware sessions =>
    SessionAwareDatabase.persist sessions tables allocation event rawPayload

/-- One transaction.  A transaction which raises changes nothing, and the
database does not choose the id of a stored sample for a new one. -/
def ProjectionState.step (state : ProjectionState F) :
    DatabaseAction F → Option (ProjectionState F)
  | .persist path allocation event rawPayload =>
    if state.tables.samples.any fun sample => sample.id = allocation.id
    then none
    else match persistVia path state.tables allocation event rawPayload with
      | .error _ => some state
      | .ok (tables, false) => some { state with tables }
      | .ok (tables, true) => some {
          tables
          inserted := state.inserted ++ [insertedSample allocation event rawPayload] }
  | .persistDeadLetter row =>
    some { state with
      tables := Database.persistDeadLetter state.tables row }
  | .cleanupRetention now policy =>
    some { state with
      tables := Database.cleanupRetention state.tables now policy }

def ProjectionState.ShowsMaximum (state : ProjectionState F) (series : SeriesKey) : Prop :=
  ∃ stored, RunningMaximum TelemetrySample.order (samplesOf state.inserted series) stored ∧
    match stored with
    | none => state.tables.latest series = none
    | some sample => ∃ row, state.tables.latest series = some row ∧
        latestValues sample.event sample.id sample.receivedAt sample.rawPayload = .ok row

variable {event : TelemetryEvent F} {rawPayload : JsonFields F}
  {allocation : Allocation} {tables next : TelemetryTables F}

theorem latestValues_spec {sampleId : ℕ} {receivedAt : Instant} {row : TelemetryLatest F}
    (hvalues : latestValues event sampleId receivedAt rawPayload = .ok row) :
    row.event = event ∧ row.sampleId = sampleId := by
  unfold latestValues at hvalues
  cases hstale : staleAfterSeconds rawPayload with
  | error error => simp [hstale, bind, Except.bind] at hvalues
  | ok stale =>
    simp only [hstale, bind, Except.bind, pure, Except.pure] at hvalues
    cases hvalues
    exact ⟨rfl, rfl⟩

variable {isNew : Bool} {path : PersistencePath F}

theorem insertSample_cases
    (hinsert : insertSample tables allocation event rawPayload = .ok (next, isNew)) :
    (isNew = false ∧ tables.stores event.eventId = true ∧ next = tables) ∨
      (isNew = true ∧ tables.stores event.eventId = false ∧ ∃ values,
        latestValues event allocation.id allocation.receivedAt rawPayload = .ok values ∧
        next = upsertLatest
          { tables with
            samples := tables.samples ++
              [insertedSample allocation event rawPayload] } values) := by
  unfold insertSample at hinsert
  split_ifs at hinsert with hstored
  · simp only [Except.ok.injEq, Prod.mk.injEq] at hinsert
    exact .inl ⟨hinsert.2.symm, hstored, hinsert.1.symm⟩
  · right
    cases hvalues : latestValues event allocation.id allocation.receivedAt rawPayload with
    | error error => simp [hvalues, bind, Except.bind] at hinsert
    | ok values =>
      simp only [hvalues, bind, Except.bind, pure, Except.pure,
        Except.ok.injEq, Prod.mk.injEq] at hinsert
      exact ⟨hinsert.2.symm, by simpa using hstored, values, rfl, hinsert.1.symm⟩

section

omit [PythonFloat F]

theorem upsertLatest_samples (tables : TelemetryTables F) (values : TelemetryLatest F) :
    (upsertLatest tables values).samples = tables.samples := by
  unfold upsertLatest
  dsimp only
  split
  next => rfl
  next => split_ifs <;> rfl

theorem upsertLatest_deadLetters (tables : TelemetryTables F) (values : TelemetryLatest F) :
    (upsertLatest tables values).deadLetters = tables.deadLetters := by
  unfold upsertLatest
  dsimp only
  split
  next => rfl
  next => split_ifs <;> rfl

theorem upsertLatest_other (tables : TelemetryTables F)
    (values : TelemetryLatest F) {series : SeriesKey} (hother : series ≠ values.event.series) :
    (upsertLatest tables values).latest series = tables.latest series := by
  unfold upsertLatest
  dsimp only
  split
  next => simp [Function.update_of_ne hother]
  next =>
    split_ifs
    · simp [Function.update_of_ne hother]
    · rfl

theorem attributeSample_frame {sessions : SessionTables F}
    (hattr : attributeSample sessions tables event = .ok next) :
    next.samples = tables.samples ∧ next.latest = tables.latest ∧
      next.deadLetters = tables.deadLetters := by
  unfold attributeSample at hattr
  split at hattr
  next => cases hattr
  next =>
    cases hattr
    exact ⟨rfl, rfl, rfl⟩
  next context _ =>
    unfold insertContext at hattr
    split_ifs at hattr
    cases hattr
    exact ⟨rfl, rfl, rfl⟩

end

theorem persistVia_inserts
    (hpers : persistVia path tables allocation event rawPayload = .ok (next, isNew)) :
    ∃ written, insertSample tables allocation event rawPayload = .ok (written, isNew) ∧
      next.samples = written.samples ∧ next.latest = written.latest ∧
      next.deadLetters = written.deadLetters := by
  cases path with
  | plain => exact ⟨next, hpers, rfl, rfl, rfl⟩
  | sessionAware sessions =>
    simp only [persistVia, SessionAwareDatabase.persist,
      SessionAwareDatabase.insertTelemetrySample] at hpers
    cases hinsert : insertSample tables allocation event rawPayload with
    | error error => simp [hinsert, bind, Except.bind] at hpers
    | ok outcome =>
      obtain ⟨written, inserted⟩ := outcome
      simp only [hinsert, bind, Except.bind] at hpers
      cases inserted with
      | false =>
        simp only [Bool.false_eq_true, if_false, pure, Except.pure,
          Except.ok.injEq, Prod.mk.injEq] at hpers
        obtain ⟨rfl, rfl⟩ := hpers
        exact ⟨written, rfl, rfl, rfl, rfl⟩
      | true =>
        simp only [if_true] at hpers
        cases hattr : attributeSample sessions written event with
        | error error => simp [hattr] at hpers
        | ok attributed =>
          simp only [hattr, pure, Except.pure, Except.ok.injEq, Prod.mk.injEq] at hpers
          obtain ⟨rfl, rfl⟩ := hpers
          exact ⟨written, rfl, attributeSample_frame hattr⟩

theorem persistVia_samples
    (hpers : persistVia path tables allocation event rawPayload = .ok (next, isNew)) :
    next.deadLetters = tables.deadLetters ∧
      ((tables.stores event.eventId = true ∧ next.samples = tables.samples) ∨
        (tables.stores event.eventId = false ∧ next.samples = tables.samples ++
          [insertedSample allocation event rawPayload])) := by
  obtain ⟨written, hinsert, hsamples, _, hdeadLetters⟩ :=
    persistVia_inserts hpers
  rw [hsamples, hdeadLetters]
  rcases insertSample_cases hinsert with ⟨_, hstored, hwritten⟩ |
    ⟨_, hstored, values, _, hwritten⟩
  · subst hwritten
    exact ⟨rfl, .inl ⟨hstored, rfl⟩⟩
  · subst hwritten
    constructor
    · exact upsertLatest_deadLetters _ _
    · right
      exact ⟨hstored, upsertLatest_samples _ _⟩

/-! ## Every run -/

omit [PythonFloat F] in
theorem newer_iff_order_lt {row storedRow : TelemetryLatest F} {sample stored : TelemetrySample F}
    (hrow : row.event = sample.event ∧ row.sampleId = sample.id)
    (hstored : storedRow.event = stored.event ∧ storedRow.sampleId = stored.id) :
    newer row storedRow ↔ stored.order < sample.order := by
  unfold newer TelemetrySample.order
  rw [Prod.Lex.toLex_lt_toLex, hrow.1, hrow.2, hstored.1, hstored.2]
  constructor
  · rintro (hlt | ⟨heq, hlt⟩)
    · exact .inl hlt
    · exact .inr ⟨heq.symm, hlt⟩
  · rintro (hlt | ⟨heq, hlt⟩)
    · exact .inl hlt
    · exact .inr ⟨heq.symm, hlt⟩

/-- The row of a series shows, in the sense of `shows`, a largest sample of the
series among `samples`. -/
def ShowsLargestBy (shows : TelemetryLatest F → TelemetrySample F → Prop)
    (samples : List (TelemetrySample F))
    (latest : SeriesKey → Option (TelemetryLatest F)) (series : SeriesKey) :
    Prop :=
  ∃ stored, RunningMaximum TelemetrySample.order (samplesOf samples series) stored ∧
    match stored with
    | none => latest series = none
    | some sample => ∃ row, latest series = some row ∧ shows row sample

omit [PythonFloat F] in
theorem ShowsLargestBy.upsert (shows : TelemetryLatest F → TelemetrySample F → Prop)
    (hidentifies : ∀ row sample, shows row sample →
      row.event = sample.event ∧ row.sampleId = sample.id)
    {samples : List (TelemetrySample F)} {tables : TelemetryTables F} {series : SeriesKey}
    (hshows : ShowsLargestBy shows samples tables.latest series)
    {sample : TelemetrySample F} {values : TelemetryLatest F} (hvalues : shows values sample) :
    ShowsLargestBy shows (samples ++ [sample]) (upsertLatest tables values).latest series := by
  obtain ⟨stored, hmaximum, hrow⟩ := hshows
  have hvaluesSeries : values.event.series = sample.event.series := by
    rw [(hidentifies values sample hvalues).1]
  by_cases hseries : series = sample.event.series
  · subst hseries
    have hsamples : samplesOf (samples ++ [sample]) sample.event.series =
        samplesOf samples sample.event.series ++ [sample] := by
      simp [samplesOf]
    refine ⟨some (keepLarger TelemetrySample.order stored sample), ?_, ?_⟩
    · rw [hsamples]
      exact hmaximum.insert sample
    · cases stored with
      | none =>
        refine ⟨values, ?_, hvalues⟩
        dsimp only at hrow
        simp [upsertLatest, hvaluesSeries, hrow]
      | some largest =>
        obtain ⟨row, hrowEq, hrowShows⟩ := hrow
        have hnewer : newer values row ↔ largest.order < sample.order :=
          newer_iff_order_lt (hidentifies values sample hvalues) (hidentifies row largest hrowShows)
        dsimp only [keepLarger]
        split_ifs with hlarger
        · refine ⟨values, ?_, hvalues⟩
          simp [upsertLatest, hvaluesSeries, hrowEq, hnewer.mpr hlarger]
        · refine ⟨row, ?_, hrowShows⟩
          have hnot : ¬ newer values row := fun h => hlarger (hnewer.mp h)
          simp [upsertLatest, hvaluesSeries, hrowEq, hnot]
  · refine ⟨stored, ?_, ?_⟩
    · have hsame : samplesOf (samples ++ [sample]) series = samplesOf samples series := by
        simp [samplesOf, Ne.symm hseries]
      rw [hsame]
      exact hmaximum
    · have hother : (upsertLatest tables values).latest series = tables.latest series :=
        upsertLatest_other _ _ (by rw [hvaluesSeries]; exact hseries)
      rw [hother]
      exact hrow

theorem showsMaximum_afterInsert {state : ProjectionState F}
    (hshows : ∀ series, state.ShowsMaximum series) {values : TelemetryLatest F}
    (hvalues : latestValues event allocation.id allocation.receivedAt
      rawPayload = .ok values) {tables : TelemetryTables F}
    (hlat : tables.latest = (upsertLatest state.tables values).latest) (series : SeriesKey) :
    ProjectionState.ShowsMaximum
      { tables := tables
        inserted := state.inserted ++ [insertedSample allocation event rawPayload] } series := by
  have hupsert : ShowsLargestBy _ (state.inserted ++ [insertedSample allocation event rawPayload])
        (upsertLatest state.tables values).latest series := ShowsLargestBy.upsert
    (fun row sample => latestValues sample.event sample.id
      sample.receivedAt sample.rawPayload = .ok row)
    (fun _ _ hrow => latestValues_spec hrow) (hshows series) hvalues
  rw [← hlat] at hupsert
  exact hupsert

theorem ProjectionState.showsMaximum_step {state next : ProjectionState F}
    {action : DatabaseAction F} (hshows : ∀ series, state.ShowsMaximum series)
    (hstep : state.step action = some next) (series : SeriesKey) :
    next.ShowsMaximum series := by
  cases action with
  | persist path allocation event rawPayload =>
    simp only [ProjectionState.step] at hstep
    split_ifs at hstep
    split at hstep
    next error _ =>
      cases hstep
      exact hshows series
    next tables hpers =>
      cases hstep
      obtain ⟨written, hinsert, _, hlat, _⟩ := persistVia_inserts hpers
      rcases insertSample_cases hinsert with ⟨_, _, rfl⟩ | ⟨hfalse, _⟩
      · obtain ⟨stored, hmaximum, hrow⟩ := hshows series
        refine ⟨stored, hmaximum, ?_⟩
        simp only [hlat]
        exact hrow
      · cases hfalse
    next tables hpers =>
      cases hstep
      obtain ⟨written, hinsert, _, hlat, _⟩ := persistVia_inserts hpers
      rcases insertSample_cases hinsert with
        ⟨hfalse, _⟩ | ⟨_, _, values, hvalues, rfl⟩
      · cases hfalse
      · refine showsMaximum_afterInsert hshows hvalues ?_ series
        rw [hlat]
        unfold upsertLatest
        dsimp only
        split
        next => rfl
        next => split_ifs <;> rfl
  | persistDeadLetter row =>
    cases hstep
    exact hshows series
  | cleanupRetention now policy =>
    cases hstep
    exact hshows series

theorem ProjectionState.showsMaximum_of_reaches {state : ProjectionState F}
    (hreach : Reaches ProjectionState.step (fun _ _ => True)
      (.empty F) state) (series : SeriesKey) : state.ShowsMaximum series := by
  have hall : ∀ series, state.ShowsMaximum series := by
    refine Reaches.invariant (P := fun s : ProjectionState F =>
      ∀ series, s.ShowsMaximum series) ?_ hreach ?_
    · intro _ _ _ hshows _ hstep
      exact showsMaximum_step hshows hstep
    · intro other
      exact ⟨none, RunningMaximum.empty _, rfl⟩
  exact hall series

theorem persistVia_stored {tables : TelemetryTables F}
    (hstored : tables.stores event.eventId = true) (path : PersistencePath F)
    (allocation : Allocation) (rawPayload : JsonFields F) :
    persistVia path tables allocation event rawPayload = .ok (tables, false) := by
  cases path with
  | plain => simp [persistVia, Database.persist, insertSample, hstored]
  | sessionAware sessions =>
    simp [persistVia, SessionAwareDatabase.persist,
      SessionAwareDatabase.insertTelemetrySample, insertSample, hstored, bind,
      Except.bind, pure, Except.pure]

/-! ## The two paths on one sequence of deliveries -/

def DatabaseAction.onPlainPath : DatabaseAction F → DatabaseAction F
  | .persist _ allocation event rawPayload =>
    .persist .plain allocation event rawPayload
  | .persistDeadLetter row => .persistDeadLetter row
  | .cleanupRetention now policy => .cleanupRetention now policy

def AttributionSucceeds (state : ProjectionState F) :
    DatabaseAction F → Prop
  | .persist path allocation event rawPayload =>
    persistVia path state.tables allocation event rawPayload ≠ .error .contextConstraint ∧
      ∀ error, persistVia path state.tables allocation event rawPayload ≠
        .error (.attribution error)
  | _ => True

/-- Two databases which differ in their contexts only. -/
structure ProjectionState.SameSamples (state other : ProjectionState F) :
    Prop where
  samples : other.tables.samples = state.tables.samples
  latest : other.tables.latest = state.tables.latest
  deadLetters : other.tables.deadLetters = state.tables.deadLetters
  inserted : other.inserted = state.inserted

omit [PythonFloat F] in
theorem upsertLatest_congr (tables other : TelemetryTables F) (hlat : other.latest = tables.latest)
    (hdeadLetters : other.deadLetters = tables.deadLetters) (values : TelemetryLatest F) :
    (upsertLatest other values).latest = (upsertLatest tables values).latest ∧
      (upsertLatest other values).deadLetters = (upsertLatest tables values).deadLetters := by
  unfold upsertLatest
  dsimp only
  rw [hlat]
  split
  next => exact ⟨rfl, hdeadLetters⟩
  next =>
    split_ifs
    · exact ⟨rfl, hdeadLetters⟩
    · exact ⟨hlat, hdeadLetters⟩

theorem insertSample_congr {state other : ProjectionState F} (hsame : state.SameSamples other)
    {written : TelemetryTables F}
    (hinsert : insertSample state.tables allocation event rawPayload = .ok (written, isNew)) :
    ∃ otherWritten, insertSample other.tables allocation event rawPayload =
        .ok (otherWritten, isNew) ∧
      otherWritten.samples = written.samples ∧
      otherWritten.latest = written.latest ∧
      otherWritten.deadLetters = written.deadLetters := by
  have hstores : other.tables.stores event.eventId = state.tables.stores event.eventId := by
    simp [TelemetryTables.stores, hsame.samples]
  rcases insertSample_cases hinsert with
    ⟨rfl, hstored, rfl⟩ | ⟨rfl, hstored, values, hvalues, rfl⟩
  · refine ⟨other.tables, ?_, hsame.samples, hsame.latest, hsame.deadLetters⟩
    simp [insertSample, hstores, hstored]
  · have hcongr := upsertLatest_congr
      { state.tables with
        samples := state.tables.samples ++ [insertedSample allocation event rawPayload] }
      { other.tables with
        samples := other.tables.samples ++ [insertedSample allocation event rawPayload] }
      hsame.latest hsame.deadLetters values
    refine ⟨_, ?_, ?_, hcongr.1, hcongr.2⟩
    · simp [insertSample, hstores, hstored, hvalues, insertedSample, bind,
        Except.bind, pure, Except.pure]
    · simp [upsertLatest_samples, hsame.samples]

theorem persistVia_floatOverflow
    {state other : ProjectionState F} (hsame : state.SameSamples other) {error : PersistError}
    (hpers : persistVia path state.tables allocation event rawPayload = .error error)
    (hsucceeds : AttributionSucceeds state (.persist path allocation event rawPayload)) :
    ∃ otherError, Database.persist other.tables allocation event rawPayload =
      .error otherError := by
  have hinsert : ∃ first, insertSample state.tables allocation event rawPayload = .error first := by
    cases hres : insertSample state.tables allocation event rawPayload with
    | error first => exact ⟨first, rfl⟩
    | ok outcome =>
      exfalso
      obtain ⟨hconstraint, hattribution⟩ := hsucceeds
      rw [hpers] at hconstraint hattribution
      obtain ⟨written, isNew⟩ := outcome
      cases path with
      | plain =>
        simp [persistVia, Database.persist, hres] at hpers
      | sessionAware sessions =>
        simp only [persistVia, SessionAwareDatabase.persist,
          SessionAwareDatabase.insertTelemetrySample, hres, bind, Except.bind] at hpers
        cases isNew with
        | false => simp [pure, Except.pure] at hpers
        | true =>
          simp only [if_true] at hpers
          cases hattr :
              attributeSample sessions written event with
          | ok attributed =>
            simp [hattr, pure, Except.pure] at hpers
          | error raised =>
            simp only [hattr, Except.error.injEq] at hpers
            subst hpers
            unfold attributeSample at hattr
            split at hattr
            next cause _ =>
              rw [Except.error.injEq] at hattr
              exact hattribution cause (by rw [hattr])
            next => cases hattr
            next =>
              unfold insertContext at hattr
              split_ifs at hattr
              all_goals
                rw [Except.error.injEq] at hattr
                exact hconstraint (by rw [hattr])
  obtain ⟨first, hfirst⟩ := hinsert
  refine ⟨first, ?_⟩
  have hstores : other.tables.stores event.eventId = state.tables.stores event.eventId := by
    simp [TelemetryTables.stores, hsame.samples]
  have hunfolded := hfirst
  unfold insertSample at hunfolded
  unfold Database.persist insertSample
  rw [hstores]
  split_ifs at hunfolded ⊢ with hstored
  cases hvalues : latestValues event allocation.id allocation.receivedAt rawPayload with
  | error cause =>
    simpa [hvalues, bind, Except.bind] using hunfolded
  | ok values =>
    simp [hvalues, bind, Except.bind, pure, Except.pure] at hunfolded

theorem ProjectionState.plainPath_step
    {state other next : ProjectionState F} {action : DatabaseAction F}
    (hsame : state.SameSamples other) (hsucceeds : AttributionSucceeds state action)
    (hstep : state.step action = some next) :
    ∃ otherNext, other.step action.onPlainPath = some otherNext ∧ next.SameSamples otherNext := by
  cases action with
  | persist path allocation event rawPayload =>
    simp only [ProjectionState.step] at hstep
    simp only [DatabaseAction.onPlainPath, ProjectionState.step, persistVia, hsame.samples]
    split_ifs at hstep with hfresh
    rw [if_neg hfresh]
    cases hpers : persistVia path state.tables allocation event rawPayload with
    | error error =>
      simp only [hpers] at hstep
      cases hstep
      obtain ⟨otherError, hother⟩ :=
        persistVia_floatOverflow hsame hpers hsucceeds
      exact ⟨other, by simp [hother], hsame⟩
    | ok outcome =>
      obtain ⟨tables, isNew⟩ := outcome
      obtain ⟨written, hinsert, hsamples, hlat, hdeadLetters⟩ :=
        persistVia_inserts hpers
      obtain ⟨otherWritten, hother, hotherSamples, hotherLatest,
        hotherDeadLetters⟩ := insertSample_congr hsame hinsert
      have hplain : Database.persist other.tables allocation event
          rawPayload = .ok (otherWritten, isNew) := hother
      cases isNew with
      | false =>
        simp only [hpers] at hstep
        cases hstep
        refine ⟨{ other with tables := otherWritten }, by simp [hplain],
          ⟨?_, ?_, ?_, hsame.inserted⟩⟩
        · exact hotherSamples.trans hsamples.symm
        · exact hotherLatest.trans hlat.symm
        · exact hotherDeadLetters.trans hdeadLetters.symm
      | true =>
        simp only [hpers] at hstep
        cases hstep
        refine ⟨⟨otherWritten, other.inserted ++ [insertedSample allocation event rawPayload]⟩,
          by simp [hplain], ⟨?_, ?_, ?_, ?_⟩⟩
        · exact hotherSamples.trans hsamples.symm
        · exact hotherLatest.trans hlat.symm
        · exact hotherDeadLetters.trans hdeadLetters.symm
        · simp [hsame.inserted]
  | persistDeadLetter row =>
    cases hstep
    refine ⟨_, rfl, ⟨hsame.samples, hsame.latest, ?_, hsame.inserted⟩⟩
    simp [Database.persistDeadLetter, hsame.deadLetters]
  | cleanupRetention now policy =>
    cases hstep
    refine ⟨_, rfl, ⟨?_, hsame.latest, ?_, hsame.inserted⟩⟩
    · simp [Database.cleanupRetention, hsame.samples]
    · simp [Database.cleanupRetention, hsame.deadLetters]

/-- In every reachable database the projection of each series is the largest
sample ever inserted for it, a delivery whose event is stored changes nothing,
and deliveries whose attribution succeeds leave the samples and the projection
the plain path leaves. -/
theorem latestProjection {state : ProjectionState F}
    (hreach : Reaches ProjectionState.step (fun _ _ => True) (.empty F) state) :
    (∀ series, state.ShowsMaximum series) ∧
      (∀ path allocation event rawPayload, state.tables.stores event.eventId = true →
          persistVia path state.tables allocation event rawPayload =
            .ok (state.tables, false)) ∧
      ∀ actions after,
        StepsMeet ProjectionState.step AttributionSucceeds state actions →
        runFrom ProjectionState.step state actions = some after →
        ∃ plain, runFrom ProjectionState.step state
            (actions.map DatabaseAction.onPlainPath) = some plain ∧
          plain.tables.samples = after.tables.samples ∧
          plain.tables.latest = after.tables.latest := by
  refine ⟨ProjectionState.showsMaximum_of_reaches hreach, ?_, ?_⟩
  · intro path allocation event rawPayload hstored
    exact persistVia_stored hstored path allocation rawPayload
  · intro actions after hsucceeds hrun
    obtain ⟨plain, hplain, hsame⟩ := runFrom_simulates
      (fun _ _ _ _ hsame hguard hstep =>
        ProjectionState.plainPath_step hsame hguard hstep)
      (ProjectionState.SameSamples.mk rfl rfl rfl rfl) hsucceeds hrun
    exact ⟨plain, hplain, hsame.samples, hsame.latest⟩

def firstReading : TelemetryEvent FloatValue :=
  exampleReading firstEventId 1000000 (.finite 21) oneSecond_within

/-- A session of `node-1` open from the epoch whose snapshot binds the
channel. -/
def bindingSnapshot (sessionId : String) : SessionConfigSnapshot FloatValue where
  id := sessionId ++ "-snapshot"
  sessionId
  version := 1
  payload := .object [(codePoints "bindings", .array [.object [
    (codePoints "id", .string (codePoints (sessionId ++ "-binding"))),
    (codePoints "node_id", .string (codePoints "node-1")),
    (codePoints "equipment_id", .string (codePoints "xjp60d-7")),
    (codePoints "channel_id", .string (codePoints "7-01")),
    (codePoints "metric", .string (codePoints "temperature.probe"))]])]
  capturedAt := 0

def overlappingSessions : SessionTables FloatValue where
  sessions := [⟨"a", "node-1", some 0, none, none⟩,
    ⟨"b", "node-1", some 0, none, none⟩]
  snapshots := [bindingSnapshot "a", bindingSnapshot "b"]
  stages := []
  bindingIds := ["a-binding", "b-binding"]

def oneSession : SessionTables FloatValue :=
  { overlappingSessions with
    sessions := [⟨"a", "node-1", some 0, none, none⟩] }

def deliverFirst (path : PersistencePath FloatValue) (sampleId : ℕ) :
    DatabaseAction FloatValue :=
  .persist path ⟨sampleId, 2000000⟩ firstReading []

def yearlyCleanup : DatabaseAction FloatValue :=
  .cleanupRetention (365 * microsPerDay) ⟨1, 1, 1, 100⟩

def shownAfter (actions : List (DatabaseAction FloatValue)) :
    Option (Option ℕ) :=
  (runFrom ProjectionState.step (.empty FloatValue) actions).map fun state =>
    (state.tables.latest firstReading.series).map TelemetryLatest.sampleId

/-- A reading which two open sessions bind is stored by the plain path and
refused by the session-aware one; and a duplicate of a sample which retention
has deleted changes the projection. -/
theorem projection_differs :
    (shownAfter [deliverFirst .plain 1] = some (some 1) ∧
      shownAfter [deliverFirst (.sessionAware overlappingSessions) 1] = some none) ∧
    (shownAfter [deliverFirst .plain 1, yearlyCleanup] = some (some 1) ∧
      shownAfter [deliverFirst .plain 1, yearlyCleanup, deliverFirst .plain 2] =
        some (some 2)) := by
  refine ⟨⟨?_, ?_⟩, ?_, ?_⟩ <;> decide +kernel

/-- The projection after an attributed delivery, its duplicate and a cleanup. -/
theorem latestProjection_afterCleanup :
    ∃ state, runFrom ProjectionState.step (.empty FloatValue)
        [deliverFirst (.sessionAware oneSession) 1,
          deliverFirst (.sessionAware oneSession) 2, yearlyCleanup] =
          some state ∧
      state.ShowsMaximum firstReading.series := by
  have hrun : (runFrom ProjectionState.step (.empty FloatValue)
      [deliverFirst (.sessionAware oneSession) 1,
        deliverFirst (.sessionAware oneSession) 2, yearlyCleanup]).isSome := by
    decide +kernel
  obtain ⟨state, hstate⟩ := Option.isSome_iff_exists.mp hrun
  exact ⟨state, hstate,
    (latestProjection (.of_runFrom (fun _ _ _ => trivial) hstate)).1 _⟩

end Nexolab
