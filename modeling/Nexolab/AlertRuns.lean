import Nexolab.AlertSeries

/-!
# Decisions along a run

`Tracks` says that the snapshot of a series agrees with its history: the
watermark, the link to an alert, the cooldown and the starts of the two pending
runs.  Every run keeps it, so that the decisions of the evaluator fall at the
points of the history.  The largest deviation is a second invariant: it belongs
to the pending run as long as no run starts with a deviation kept from before.
-/

namespace Nexolab

section Runs

variable {F : Type} [PythonFloat F]

omit [PythonFloat F] in
@[simp] theorem runStart_nil :
    runStart ([] : List (TelemetryObservation F)) = none := rfl

omit [PythonFloat F] in
theorem runStart_cons (observation : TelemetryObservation F) (run : List (TelemetryObservation F)) :
    runStart (observation :: run) = some ((runStart run).getD observation.capturedAt) := by
  cases run with
  | nil => rfl
  | cons head rest =>
    have hlast : (observation :: head :: rest).getLast? = (head :: rest).getLast? := by
      simp
    unfold runStart
    rw [hlast]
    cases hrest : (head :: rest).getLast? with
    | none => simp at hrest
    | some last => rfl

theorem triggerRun_accepted (configuration : AlertRuleConfiguration F)
    (observation : TelemetryObservation F) (decision : AlertEvaluationDecision)
    (retained : Bool) (rest : List (SeriesEntry F)) :
    triggerRun configuration (.accepted observation decision retained :: rest) =
      if decision ≠ .trigger ∧ countsForTrigger configuration rest observation = true
      then observation :: triggerRun configuration rest else [] := rfl

theorem clearRun_accepted (configuration : AlertRuleConfiguration F)
    (observation : TelemetryObservation F) (decision : AlertEvaluationDecision)
    (retained : Bool) (rest : List (SeriesEntry F)) :
    clearRun configuration (.accepted observation decision retained :: rest) =
      if decision ≠ .resolve ∧ countsForClear configuration rest observation = true
      then observation :: clearRun configuration rest else [] := rfl

theorem runMaximum_cons {configuration : AlertRuleConfiguration F}
    {observation : TelemetryObservation F} {value : F} (hvalue : observation.value = some value)
    (run : List (TelemetryObservation F)) :
    runMaximum configuration (observation :: run) = PythonFloat.max (runMaximum configuration run)
        (configuration.deviation value) := by
  unfold runMaximum
  rw [List.foldr_cons, hvalue]

/-- The snapshot says of the history what the evaluator needs. -/
structure AlertSeries.Tracks (configuration : AlertRuleConfiguration F)
    (series : AlertSeries F) : Prop where
  event : series.snapshot.lastEventId = (lastAccepted series.history).map (·.eventId)
  instant : series.snapshot.lastCapturedAt = (lastAccepted series.history).map (·.capturedAt)
  linked : series.snapshot.activeAlertId.isSome = alertLinked series.history
  cooldown : series.snapshot.cooldownUntil = cooldownEnd configuration series.history
  triggering : series.snapshot.triggerPendingSince =
    runStart (triggerRun configuration series.history)
  clearing : series.snapshot.clearPendingSince = runStart (clearRun configuration series.history)

variable {configuration : AlertRuleConfiguration F} {series : AlertSeries F}

theorem AlertSeries.initial_tracks :
    (AlertSeries.initial (F := F)).Tracks configuration := by
  constructor <;> rfl

namespace AlertSeries.Tracks

variable (htracks : series.Tracks configuration) (observation : TelemetryObservation F)

include htracks

theorem acceptedBy_eq :
    acceptedBy series.snapshot observation = acceptable series.history observation := by
  unfold acceptedBy acceptable olderThanWatermark
  rw [htracks.event, htracks.instant]
  cases lastAccepted series.history with
  | none => simp
  | some last =>
    rw [Bool.eq_iff_iff]
    simp

theorem beforeCooldownEnd_eq :
    (!beforeCooldownEnd series.snapshot observation.capturedAt) =
      (cooldownEnd configuration series.history).all fun cooldownUntil =>
        cooldownUntil ≤ observation.capturedAt := by
  unfold beforeCooldownEnd
  rw [htracks.cooldown]
  cases cooldownEnd configuration series.history with
  | none => rfl
  | some cooldownUntil =>
    rw [Bool.eq_iff_iff]
    simp

theorem meetsTrigger_eq :
    meetsTrigger configuration series.snapshot observation =
      (acceptable series.history observation &&
        countsForTrigger configuration series.history observation) := by
  rw [← htracks.acceptedBy_eq]
  unfold meetsTrigger countsForTrigger
  rw [← htracks.beforeCooldownEnd_eq, ← htracks.linked, Option.not_isSome]
  cases observation.value with
  | none => simp
  | some value => simp [Bool.and_assoc]

theorem meetsClear_eq :
    meetsClear configuration series.snapshot observation = (acceptable series.history observation &&
        countsForClear configuration series.history observation) := by
  rw [← htracks.acceptedBy_eq]
  unfold meetsClear countsForClear
  rw [← htracks.linked]
  cases observation.value with
  | none => simp
  | some value => simp [Bool.and_assoc]

theorem triggerDue_le_iff :
    triggerDue configuration series.snapshot observation ≤ observation.capturedAt ↔
      runSpans (triggerRun configuration series.history) observation
        configuration.triggerDurationSeconds := by
  unfold triggerDue runSpans
  rw [htracks.triggering]

theorem clearDue_le_iff :
    clearDue configuration series.snapshot observation ≤ observation.capturedAt ↔
      runSpans (clearRun configuration series.history) observation
        configuration.clearDurationSeconds := by
  unfold clearDue runSpans
  rw [htracks.clearing]

theorem triggerPoint_iff :
    TriggerPoint configuration series.history observation ↔
      meetsTrigger configuration series.snapshot observation = true ∧
        triggerDue configuration series.snapshot observation ≤ observation.capturedAt := by
  unfold TriggerPoint
  rw [htracks.meetsTrigger_eq, htracks.triggerDue_le_iff, Bool.and_eq_true, and_assoc]

theorem resolvePoint_iff :
    ResolvePoint configuration series.history observation ↔
      meetsClear configuration series.snapshot observation = true ∧
        clearDue configuration series.snapshot observation ≤ observation.capturedAt := by
  unfold ResolvePoint
  rw [htracks.meetsClear_eq, htracks.clearDue_le_iff, Bool.and_eq_true, and_assoc]

end AlertSeries.Tracks

/-! ## Every step keeps the agreement -/

theorem AlertSeries.observe_cases (configuration : AlertRuleConfiguration F)
    (series : AlertSeries F) (observation : TelemetryObservation F)
    (alertId : RowId) (retains : Bool) :
    series.observe configuration observation alertId retains = series ∨
      ∃ result, evaluateThreshold configuration series.snapshot observation = .ok result ∧
        acceptedBy series.snapshot observation = true ∧
        series.observe configuration observation alertId retains =
          ⟨linkedSnapshot series.snapshot result alertId retains,
            .accepted observation result.decision retains :: series.history⟩ := by
  unfold AlertSeries.observe
  cases hres : evaluateThreshold configuration series.snapshot observation with
  | error error => exact .inl rfl
  | ok result =>
    dsimp only
    cases hacc : acceptedBy series.snapshot observation with
    | false =>
      left
      obtain ⟨hdec, hsnap⟩ :=
        evaluateThreshold_rejected hacc hres
      rw [if_pos hdec, hsnap]
    | true =>
      right
      obtain ⟨_, hdup, horder⟩ :=
        (evaluateThreshold_outcome hres).noticed hacc
      rw [if_neg (by simp [hdup, horder])]
      exact ⟨result, rfl, rfl, rfl⟩

section Linked

variable (snapshot : AlertEvaluationSnapshot F)
  (result : AlertEvaluationResult F) (alertId : RowId) (retains : Bool)

omit [PythonFloat F] in
theorem linkedSnapshot_eq :
    ∃ link, linkedSnapshot snapshot result alertId retains =
      { result.snapshot with activeAlertId := link } := by
  unfold linkedSnapshot
  split_ifs
  · exact ⟨_, rfl⟩
  · exact ⟨_, rfl⟩
  · exact ⟨_, rfl⟩

variable {snapshot result} in
theorem linkedSnapshot_isSome {configuration : AlertRuleConfiguration F}
    {observation : TelemetryObservation F}
    (heff : AcceptedEffect configuration snapshot observation result) :
    (linkedSnapshot snapshot result alertId retains).activeAlertId.isSome =
      match result.decision with
      | .trigger => true
      | .resolve => retains && snapshot.activeAlertId.isSome
      | _ => snapshot.activeAlertId.isSome := by
  have hact := heff.active
  unfold linkedSnapshot
  cases hdec : result.decision with
  | resolve =>
    rw [hdec] at hact
    cases retains with
    | true => simp
    | false => simpa using hact
  | _ =>
    rw [hdec] at hact
    simp_all

end Linked

theorem AlertSeries.Tracks.accepted (htracks : series.Tracks configuration)
    {observation : TelemetryObservation F} {result : AlertEvaluationResult F}
    (alertId : RowId) (retains : Bool) (hacc : acceptedBy series.snapshot observation = true)
    (hres : evaluateThreshold configuration series.snapshot observation = .ok result) :
    AlertSeries.Tracks configuration
      ⟨linkedSnapshot series.snapshot result alertId retains,
        .accepted observation result.decision retains :: series.history⟩ := by
  have heff := evaluateThreshold_effect hacc hres
  obtain ⟨hseen, _⟩ := (evaluateThreshold_outcome hres).noticed hacc
  have hacceptable : acceptable series.history observation = true := by
    rw [← htracks.acceptedBy_eq, hacc]
  have htrig := htracks.meetsTrigger_eq observation
  have hclear := htracks.meetsClear_eq observation
  rw [hacceptable, Bool.true_and] at htrig hclear
  obtain ⟨link, hlink⟩ := linkedSnapshot_eq series.snapshot result alertId retains
  constructor
  case event =>
    rw [hlink]
    exact hseen.event_seen
  case instant =>
    rw [hlink]
    exact hseen.instant_seen
  case linked =>
    rw [linkedSnapshot_isSome alertId retains heff, htracks.linked]
    rfl
  case cooldown =>
    rw [hlink]
    exact heff.cooldown.trans (by rw [htracks.cooldown]; rfl)
  case triggering =>
    rw [hlink]
    refine heff.trigger_pending.trans ?_
    rw [htrig, htracks.triggering, triggerRun_accepted]
    by_cases hcounts : result.decision ≠ .trigger ∧
        countsForTrigger configuration series.history observation = true
    · rw [if_pos hcounts, if_pos hcounts.symm, runStart_cons]
    · rw [if_neg hcounts, if_neg (fun h => hcounts h.symm), runStart_nil]
  case clearing =>
    rw [hlink]
    refine heff.clear_pending.trans ?_
    rw [hclear, htracks.clearing, clearRun_accepted]
    by_cases hcounts : result.decision ≠ .resolve ∧
        countsForClear configuration series.history observation = true
    · rw [if_pos hcounts, if_pos hcounts.symm, runStart_cons]
    · rw [if_neg hcounts, if_neg (fun h => hcounts h.symm), runStart_nil]

theorem AlertSeries.Tracks.released (htracks : series.Tracks configuration) :
    AlertSeries.Tracks configuration
      ⟨releasedSnapshot series.snapshot, .released :: series.history⟩ := by
  constructor
  case event => exact htracks.event
  case instant => exact htracks.instant
  case cooldown => exact htracks.cooldown
  all_goals rfl

theorem AlertSeries.Tracks.step (htracks : series.Tracks configuration)
    {action : SeriesAction F} {next : AlertSeries F}
    (hstep : series.step configuration action = some next) :
    next.Tracks configuration := by
  cases action with
  | observe observation alertId retains =>
    cases hstep
    rcases series.observe_cases configuration observation.toTelemetryObservation
      alertId retains with hsame | ⟨result, hres, hacc, hnext⟩
    · rw [hsame]
      exact htracks
    · rw [hnext]
      exact htracks.accepted alertId retains hacc hres
  | close alertId =>
    simp only [AlertSeries.step] at hstep
    split_ifs at hstep
    · cases hstep
      exact htracks.released
    · cases hstep
      exact htracks

/-- The largest deviation in the snapshot is the one of the pending run. -/
def AlertSeries.KeepsMaximum (configuration : AlertRuleConfiguration F)
    (series : AlertSeries F) : Prop :=
  triggerRun configuration series.history ≠ [] → series.snapshot.maximumDeviation =
      runMaximum configuration (triggerRun configuration series.history)

/-- What an observation has to find.  When it starts a run, the largest
deviation kept from before is not larger than its own; when it completes a
clear duration, the end of the cooldown is a `datetime`. -/
structure CleanStart (configuration : AlertRuleConfiguration F)
    (snapshot : AlertEvaluationSnapshot F) (observation : TelemetryObservation F) : Prop where
  nothing_kept : meetsTrigger configuration snapshot observation = true →
    snapshot.triggerPendingSince = none → ∀ value,
    observation.value = some value →
    PythonFloat.max snapshot.maximumDeviation (configuration.deviation value) =
      configuration.deviation value
  cooldown_dated : meetsClear configuration snapshot observation = true →
    clearDue configuration snapshot observation ≤ observation.capturedAt →
    observation.capturedAt + configuration.cooldownSeconds * microsPerSecond ≤ maxInstant

theorem cleanStart_iff {snapshot : AlertEvaluationSnapshot F}
    {observation : TelemetryObservation F} :
    CleanStart configuration snapshot observation ↔
      (meetsTrigger configuration snapshot observation = true →
        snapshot.triggerPendingSince = none → ∀ value ∈ observation.value,
        PythonFloat.max snapshot.maximumDeviation
          (configuration.deviation value) = configuration.deviation value) ∧
      (meetsClear configuration snapshot observation = true →
        clearDue configuration snapshot observation ≤ observation.capturedAt →
        observation.capturedAt + configuration.cooldownSeconds * microsPerSecond ≤ maxInstant) :=
  ⟨fun hclean => ⟨hclean.nothing_kept, hclean.cooldown_dated⟩, fun hboth => ⟨hboth.1, hboth.2⟩⟩

instance CleanStart.decidable [DecidableEq F] (configuration : AlertRuleConfiguration F)
    (snapshot : AlertEvaluationSnapshot F) (observation : TelemetryObservation F) :
    Decidable (CleanStart configuration snapshot observation) :=
  decidable_of_iff _ cleanStart_iff.symm

theorem max_zero_deviation (configuration : AlertRuleConfiguration F) (value : F) :
    PythonFloat.max PythonFloat.zero (configuration.deviation value) =
      configuration.deviation value := by
  have hmax : ∀ other : F,
      PythonFloat.max PythonFloat.zero (PythonFloat.max PythonFloat.zero other) =
        PythonFloat.max PythonFloat.zero other := by
    intro other
    unfold PythonFloat.max
    split_ifs with hlarger hzero
    · rfl
    · rfl
    · rfl
  unfold AlertRuleConfiguration.deviation
  cases configuration.condition with
  | thresholdHigh => exact hmax _
  | thresholdLow => exact hmax _

namespace AlertSeries

theorem Tracks.maximum_eq (htracks : series.Tracks configuration)
    (hkeeps : series.KeepsMaximum configuration)
    {observation : TelemetryObservation F} {result : AlertEvaluationResult F}
    (hclean : CleanStart configuration series.snapshot observation)
    (hacc : acceptedBy series.snapshot observation = true)
    (hres : evaluateThreshold configuration series.snapshot observation = .ok result)
    (hmeets : meetsTrigger configuration series.snapshot observation = true) :
    result.snapshot.maximumDeviation = runMaximum configuration
      (observation :: triggerRun configuration series.history) := by
  obtain ⟨value, hvalue⟩ : ∃ value, observation.value = some value := by
    cases hvalue : observation.value with
    | none => simp [meetsTrigger, hvalue] at hmeets
    | some value => exact ⟨value, rfl⟩
  rw [(evaluateThreshold_effect hacc hres).maximum value hvalue hmeets, runMaximum_cons hvalue]
  by_cases hrun : triggerRun configuration series.history = []
  · have hpend : series.snapshot.triggerPendingSince = none := by
      rw [htracks.triggering, hrun, runStart_nil]
    rw [hclean.nothing_kept hmeets hpend value hvalue, hrun]
    exact (max_zero_deviation configuration value).symm
  · rw [hkeeps hrun]

variable {action : SeriesAction F}

theorem KeepsMaximum.step (hkeeps : series.KeepsMaximum configuration)
    (htracks : series.Tracks configuration) {next : AlertSeries F}
    (hclean : ∀ observation alertId retains, action = .observe observation alertId retains →
      CleanStart configuration series.snapshot observation.toTelemetryObservation)
    (hstep : series.step configuration action = some next) :
    next.KeepsMaximum configuration := by
  cases action with
  | observe observation alertId retains =>
    cases hstep
    rcases series.observe_cases configuration observation.toTelemetryObservation
      alertId retains with hsame | ⟨result, hres, hacc, hnext⟩
    · rw [hsame]
      exact hkeeps
    · rw [hnext]
      intro hrun
      dsimp only at hrun ⊢
      rw [triggerRun_accepted] at hrun ⊢
      split_ifs at hrun ⊢ with hcounts
      · have hmeets : meetsTrigger configuration series.snapshot
            observation.toTelemetryObservation = true := by
          rw [htracks.meetsTrigger_eq, hcounts.2, ← htracks.acceptedBy_eq, hacc]
          rfl
        obtain ⟨link, hlink⟩ :=
          linkedSnapshot_eq series.snapshot result alertId retains
        rw [hlink]
        exact htracks.maximum_eq hkeeps (hclean observation alertId retains rfl) hacc hres hmeets
      · exact absurd rfl hrun
  | close alertId =>
    simp only [AlertSeries.step] at hstep
    split_ifs at hstep
    · cases hstep
      intro hrun
      exact absurd rfl hrun
    · cases hstep
      exact hkeeps

variable (configuration) in
def StartsClean (series : AlertSeries F) : SeriesAction F → Prop
  | .observe observation _ _ =>
    CleanStart configuration series.snapshot observation.toTelemetryObservation
  | .close _ => True

instance StartsClean.decidable [DecidableEq F]
    (configuration : AlertRuleConfiguration F) (series : AlertSeries F) :
    ∀ action, Decidable (StartsClean configuration series action)
  | .observe .. => inferInstanceAs (Decidable (CleanStart _ _ _))
  | .close _ => .isTrue trivial

variable (configuration) in
def Decides (series : AlertSeries F) (observation : TelemetryObservation F)
    (decision : AlertEvaluationDecision) : Prop :=
  ∃ result, evaluateThreshold configuration series.snapshot observation =
    .ok result ∧ result.decision = decision

variable (configuration) in
/-- The decision on an observation is the one its history asks for, and the
deviation of a TRIGGER is the one of its run. -/
def DecidesByHistory (series : AlertSeries F) : SeriesAction F → Prop
  | .observe observation _ _ =>
    (series.Decides configuration observation.toTelemetryObservation .trigger ↔
      TriggerPoint configuration series.history observation.toTelemetryObservation) ∧
    (series.Decides configuration observation.toTelemetryObservation .resolve ↔
      ResolvePoint configuration series.history observation.toTelemetryObservation) ∧
    ∀ result, evaluateThreshold configuration series.snapshot
        observation.toTelemetryObservation = .ok result →
      result.decision = .trigger →
      result.snapshot.maximumDeviation = runMaximum configuration
        (observation.toTelemetryObservation :: triggerRun configuration series.history)
  | .close _ => True

theorem Tracks.decides_trigger (htracks : series.Tracks configuration)
    (observation : DatedObservation F) :
    series.Decides configuration observation.toTelemetryObservation .trigger ↔
      TriggerPoint configuration series.history observation.toTelemetryObservation := by
  rw [htracks.triggerPoint_iff]
  constructor
  · intro hdecides
    obtain ⟨result, hres, hdec⟩ := hdecides
    cases hacc : acceptedBy series.snapshot observation.toTelemetryObservation with
    | false =>
      have hignored := (evaluateThreshold_rejected hacc hres).1
      simp [hdec] at hignored
    | true =>
      exact (evaluateThreshold_effect hacc hres).trigger_iff.mp hdec
  · intro hpoint
    obtain ⟨hmeets, hdue⟩ := hpoint
    obtain ⟨result, hres, hdec, _⟩ :=
      (evaluateThreshold_meetsTrigger hmeets).1 (hdue.trans observation.dated)
    exact ⟨result, hres, hdec.mpr hdue⟩

theorem Tracks.decides_resolve (htracks : series.Tracks configuration)
    (observation : DatedObservation F)
    (hclean : CleanStart configuration series.snapshot observation.toTelemetryObservation) :
    series.Decides configuration observation.toTelemetryObservation .resolve ↔
      ResolvePoint configuration series.history observation.toTelemetryObservation := by
  rw [htracks.resolvePoint_iff]
  constructor
  · intro hdecides
    obtain ⟨result, hres, hdec⟩ := hdecides
    cases hacc : acceptedBy series.snapshot observation.toTelemetryObservation with
    | false =>
      have hignored := (evaluateThreshold_rejected hacc hres).1
      simp [hdec] at hignored
    | true =>
      exact (evaluateThreshold_effect hacc hres).resolve_iff.mp hdec
  · intro hpoint
    obtain ⟨hmeets, hdue⟩ := hpoint
    obtain ⟨result, hres, hdec, _⟩ :=
      (evaluateThreshold_meetsClear hmeets).1
        ⟨hdue.trans observation.dated, hclean.cooldown_dated hmeets⟩
    exact ⟨result, hres, hdec.mpr hdue⟩

/-- What holds between the steps of a run which starts its runs clean. -/
structure Follows (configuration : AlertRuleConfiguration F) (series : AlertSeries F) : Prop where
  tracks : series.Tracks configuration
  keeps : series.KeepsMaximum configuration

theorem initial_follows : (initial (F := F)).Follows configuration :=
  ⟨initial_tracks, fun hrun => absurd rfl hrun⟩

theorem Follows.step (hfollows : series.Follows configuration) {next : AlertSeries F}
    (hclean : series.StartsClean configuration action)
    (hstep : series.step configuration action = some next) :
    next.Follows configuration := by
  refine ⟨hfollows.tracks.step hstep, hfollows.keeps.step hfollows.tracks ?_ hstep⟩
  intro observation alertId retains haction
  subst haction
  exact hclean

theorem Follows.decidesByHistory (hfollows : series.Follows configuration)
    (hclean : series.StartsClean configuration action) :
    series.DecidesByHistory configuration action := by
  cases action with
  | observe observation alertId retains =>
    refine ⟨hfollows.tracks.decides_trigger observation,
      hfollows.tracks.decides_resolve observation hclean, ?_⟩
    intro result hres hdec
    have hpoint := (hfollows.tracks.decides_trigger observation).mp
      ⟨result, hres, hdec⟩
    rw [hfollows.tracks.triggerPoint_iff] at hpoint
    have hacc : acceptedBy series.snapshot observation.toTelemetryObservation = true := by
      rw [hfollows.tracks.acceptedBy_eq]
      have hmeets := hpoint.1
      rw [hfollows.tracks.meetsTrigger_eq, Bool.and_eq_true] at hmeets
      exact hmeets.1
    exact hfollows.tracks.maximum_eq hfollows.keeps hclean hacc hres hpoint.1
  | close alertId => exact trivial

theorem run_decidesByHistory (configuration : AlertRuleConfiguration F)
    (actions : List (SeriesAction F))
    (hclean : StepsMeet (AlertSeries.step configuration)
      (StartsClean configuration) initial actions) :
    StepsMeet (AlertSeries.step configuration) (DecidesByHistory configuration)
      initial actions := by
  apply StepsMeet.of_invariant (P := Follows configuration) _ _ initial_follows hclean
  · intro state action next hfollows hguard hstep
    exact hfollows.step hguard hstep
  · intro state action hfollows hguard
    exact hfollows.decidesByHistory hguard

end AlertSeries

end Runs

def highRule : AlertRuleConfiguration FloatValue where
  condition := .thresholdHigh
  triggerThreshold := .finite 8
  clearThreshold := .finite 7
  minimumDurationSeconds := 60
  clearDurationSeconds := 60
  debounceSeconds := 0
  cooldownSeconds := 60
  minimum_nonneg := by decide
  clear_nonneg := by decide
  debounce_nonneg := by decide
  cooldown_nonneg := by decide
  thresholds_ordered := by decide +kernel

def sampleAt (eventId : String) (seconds : ℤ) (value : Option FloatValue)
    (hdated : seconds * microsPerSecond ≤ maxInstant) :
    DatedObservation FloatValue :=
  ⟨⟨eventId, seconds * microsPerSecond, value⟩, hdated⟩

/-- A high value for two minutes, and a clear one for two minutes. -/
def triggeredAndResolved : List (SeriesAction FloatValue) :=
  [.observe (sampleAt "a" 0 (some (.finite 9)) (by decide)) 1 true,
    .observe (sampleAt "b" 60 (some (.finite 10)) (by decide)) 1 true,
    .observe (sampleAt "c" 120 (some (.finite 6)) (by decide)) 2 true,
    .observe (sampleAt "d" 180 (some (.finite 6)) (by decide)) 2 true,
    .close 1]

theorem run_decidesByHistory_triggeredAndResolved :
    StepsMeet (AlertSeries.step highRule) (AlertSeries.DecidesByHistory highRule)
      AlertSeries.initial triggeredAndResolved :=
  AlertSeries.run_decidesByHistory highRule triggeredAndResolved (by decide +kernel)

/-- A value four above the threshold, a missing value and two values one above
it. -/
def interruptedSeriesRun : List (SeriesAction FloatValue) :=
  [.observe (sampleAt "a" 0 (some (.finite 12)) (by decide)) 1 true,
    .observe (sampleAt "b" 10 none (by decide)) 1 true,
    .observe (sampleAt "c" 20 (some (.finite 9)) (by decide)) 1 true]

def lastOfRun : DatedObservation FloatValue :=
  sampleAt "d" 80 (some (.finite 9)) (by decide)

def storedMaximum (series : AlertSeries FloatValue) : Option FloatValue :=
  match evaluateThreshold highRule series.snapshot
      lastOfRun.toTelemetryObservation with
  | .ok result =>
    if result.decision = .trigger then some result.snapshot.maximumDeviation
    else none
  | .error _ => none

/-- The deviation stored with the TRIGGER is the one before the missing value. -/
theorem interruptedRun_keeps_maximum :
    ¬ StepsMeet (AlertSeries.step highRule)
      (AlertSeries.DecidesByHistory highRule) AlertSeries.initial
      (interruptedSeriesRun ++ [.observe lastOfRun 1 true]) := by
  intro hmeet
  obtain ⟨series, hrun, hstored, hmaximum⟩ : ∃ series,
      runFrom (AlertSeries.step highRule) AlertSeries.initial interruptedSeriesRun =
        some series ∧
      storedMaximum series = some (.finite 4) ∧
      runMaximum highRule (lastOfRun.toTelemetryObservation ::
        triggerRun highRule series.history) = .finite 1 :=
    ⟨_, rfl, by decide +kernel, by decide +kernel⟩
  obtain ⟨hlast, _⟩ := hmeet.split.2 series hrun
  obtain ⟨_, _, hdeviation⟩ := hlast
  unfold storedMaximum at hstored
  cases hres : evaluateThreshold highRule series.snapshot
      lastOfRun.toTelemetryObservation with
  | error error =>
    rw [hres] at hstored
    cases hstored
  | ok result =>
    rw [hres] at hstored
    dsimp only at hstored
    split_ifs at hstored with hdec
    rw [Option.some.injEq] at hstored
    have hsame := hdeviation result hres hdec
    rw [hmaximum, hstored] at hsame
    exact absurd hsame (by decide +kernel)

end Nexolab
