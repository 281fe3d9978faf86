import Nexolab.RefusedWork

/-!
# Alert series as automata over their history

The snapshot of an evaluation series carries, from one observation to the next,
the start of a pending condition and the largest deviation.  `SeriesEntry` keeps
what a series really went through, and the points of the history at which an
alert is due are defined over it: a run is an uninterrupted stretch of accepted
observations which all count, and it has to span the duration of the rule.  The
snapshot tracks the runs of the history, and the decisions fall at those points;
the stored deviation is the one of the run when nothing was kept from before it.
-/

namespace Nexolab

section Effects

variable {F : Type} [PythonFloat F]

variable {configuration : AlertRuleConfiguration F}
  {snapshot : AlertEvaluationSnapshot F} {observation : TelemetryObservation F}
  {result : AlertEvaluationResult F}

/-! ## What an accepted observation does to the snapshot -/

/-- Everything the decision and the next snapshot depend on. -/
structure AcceptedEffect (configuration : AlertRuleConfiguration F)
    (snapshot : AlertEvaluationSnapshot F) (observation : TelemetryObservation F)
    (result : AlertEvaluationResult F) : Prop where
  trigger_iff : result.decision = .trigger ↔
    meetsTrigger configuration snapshot observation = true ∧
      triggerDue configuration snapshot observation ≤ observation.capturedAt
  resolve_iff : result.decision = .resolve ↔ meetsClear configuration snapshot observation = true ∧
      clearDue configuration snapshot observation ≤ observation.capturedAt
  trigger_pending : result.snapshot.triggerPendingSince =
    if meetsTrigger configuration snapshot observation = true ∧ result.decision ≠ .trigger
    then some (snapshot.triggerPendingSince.getD observation.capturedAt) else none
  clear_pending : result.snapshot.clearPendingSince =
    if meetsClear configuration snapshot observation = true ∧ result.decision ≠ .resolve
    then some (snapshot.clearPendingSince.getD observation.capturedAt) else none
  active : result.snapshot.activeAlertId =
    if result.decision = .resolve then none else snapshot.activeAlertId
  cooldown : result.snapshot.cooldownUntil =
    if result.decision = .resolve
    then some (observation.capturedAt + configuration.cooldownSeconds * microsPerSecond)
    else snapshot.cooldownUntil
  maximum : ∀ value, observation.value = some value →
    meetsTrigger configuration snapshot observation = true →
    result.snapshot.maximumDeviation =
      PythonFloat.max snapshot.maximumDeviation (configuration.deviation value)

variable {value : F}

theorem meetsTrigger_of_value (configuration : AlertRuleConfiguration F)
    (hvalue : observation.value = some value) (hacc : acceptedBy snapshot observation = true) :
    meetsTrigger configuration snapshot observation = (snapshot.activeAlertId.isNone &&
        !beforeCooldownEnd snapshot observation.capturedAt &&
        configuration.isTriggered value) := by
  simp [meetsTrigger, hvalue, hacc]

theorem meetsClear_of_value (configuration : AlertRuleConfiguration F)
    (hvalue : observation.value = some value) (hacc : acceptedBy snapshot observation = true) :
    meetsClear configuration snapshot observation =
      (snapshot.activeAlertId.isSome && configuration.isClear value) := by
  simp [meetsClear, hvalue, hacc]

theorem evaluateInactive_effect (hinact : snapshot.activeAlertId = none)
    (hacc : acceptedBy snapshot observation = true) (hvalue : observation.value = some value)
    (heval : evaluateInactive configuration snapshot observation value = .ok result) :
    AcceptedEffect configuration snapshot observation result := by
  have hclear : meetsClear configuration snapshot observation = false := by
    rw [meetsClear_of_value configuration hvalue hacc, hinact]
    rfl
  have htrig := meetsTrigger_of_value configuration hvalue hacc
  rw [hinact, Option.isNone_none, Bool.true_and] at htrig
  unfold evaluateInactive at heval
  dsimp only at heval
  split_ifs at heval with hcool htriggered hpend
  · cases heval
    have hmeets : meetsTrigger configuration snapshot observation = false := by
      rw [htrig, hcool]
      rfl
    constructor <;> simp [hmeets, hclear, acceptedSnapshot]
  · cases heval
    have hmeets : meetsTrigger configuration snapshot observation = false := by
      simp_all
    constructor <;> simp [hmeets, hclear, acceptedSnapshot]
  · cases heval
    have hmeets : meetsTrigger configuration snapshot observation = false := by
      simp_all
    constructor <;> simp [hmeets, hclear, acceptedSnapshot]
  · rw [bind_eq_ok] at heval
    obtain ⟨dueAt, hdueAt, heval⟩ := heval
    have hdue : dueAt = triggerDue configuration snapshot observation :=
      addSeconds_eq_ok hdueAt
    subst hdue
    have hmeets : meetsTrigger configuration snapshot observation = true := by
      rw [htrig]
      simp_all
    split_ifs at heval with hreached
    · cases heval
      constructor <;> simp [hmeets, hclear, hreached, hvalue, acceptedSnapshot]
    · cases heval
      constructor <;> simp [hmeets, hclear, hreached, hvalue, acceptedSnapshot]

theorem evaluateActive_effect (hact : snapshot.activeAlertId.isSome = true)
    (hacc : acceptedBy snapshot observation = true) (hvalue : observation.value = some value)
    (heval : evaluateActive configuration snapshot observation value = .ok result) :
    AcceptedEffect configuration snapshot observation result := by
  have htrig : meetsTrigger configuration snapshot observation = false := by
    rw [meetsTrigger_of_value configuration hvalue hacc, ← Option.not_isSome, hact]
    rfl
  have hmeetsClear := meetsClear_of_value configuration hvalue hacc
  rw [hact, Bool.true_and] at hmeetsClear
  unfold evaluateActive at heval
  dsimp only at heval
  split_ifs at heval with hclear hpend
  · cases heval
    rw [Bool.not_eq_true'] at hclear
    rw [hclear] at hmeetsClear
    constructor <;> simp [hmeetsClear, htrig, acceptedSnapshot]
  · cases heval
    rw [Bool.not_eq_true'] at hclear
    rw [hclear] at hmeetsClear
    constructor <;> simp [hmeetsClear, htrig, acceptedSnapshot]
  · simp only [Bool.not_eq_true', Bool.not_eq_false] at hclear
    rw [hclear] at hmeetsClear
    rw [bind_eq_ok] at heval
    obtain ⟨dueAt, hdueAt, heval⟩ := heval
    have hdue : dueAt = clearDue configuration snapshot observation :=
      addSeconds_eq_ok hdueAt
    subst hdue
    split_ifs at heval with hreached
    · rw [bind_eq_ok] at heval
      obtain ⟨cooldownUntil, hcool, heval⟩ := heval
      cases heval
      have hcooldownUntil := addSeconds_eq_ok hcool
      constructor <;>
        simp [hmeetsClear, htrig, hreached, hcooldownUntil, acceptedSnapshot]
    · cases heval
      constructor <;> simp [hmeetsClear, htrig, hreached, acceptedSnapshot]

theorem EvaluationOutcome.noticed
    (hout : EvaluationOutcome configuration snapshot observation result)
    (hacc : acceptedBy snapshot observation = true) :
    Accepted snapshot observation result ∧ result.decision ≠ .ignoreDuplicate ∧
      result.decision ≠ .ignoreOutOfOrder := by
  cases hout with
  | ignored _ hrejected => simp [hacc] at hrejected
  | triggered hseen hdec =>
    exact ⟨hseen, by simp [hdec], by simp [hdec]⟩
  | resolved _ hseen hdec =>
    exact ⟨hseen, by simp [hdec], by simp [hdec]⟩
  | noted hseen hdup horder => exact ⟨hseen, hdup, horder⟩

theorem evaluateThreshold_effect (hacc : acceptedBy snapshot observation = true)
    (heval : evaluateThreshold configuration snapshot observation = .ok result) :
    AcceptedEffect configuration snapshot observation result := by
  cases hvalue : observation.value with
  | none =>
    have htrig :
        meetsTrigger configuration snapshot observation = false := by
      simp [meetsTrigger, hvalue]
    have hclear : meetsClear configuration snapshot observation = false := by
      simp [meetsClear, hvalue]
    simp only [acceptedBy, Bool.and_eq_true, decide_eq_true_eq, Bool.not_eq_true'] at hacc
    unfold evaluateThreshold at heval
    rewrite [if_neg hacc.1, if_neg (by simp [hacc.2]), hvalue] at heval
    cases heval
    constructor <;> simp [htrig, hclear, acceptedSnapshot]
  | some value =>
    rw [evaluateThreshold_accepted hacc hvalue] at heval
    cases hact : snapshot.activeAlertId with
    | none =>
      rw [hact] at heval
      exact evaluateInactive_effect hact hacc hvalue heval
    | some id =>
      rw [hact] at heval
      exact evaluateActive_effect (by simp [hact]) hacc hvalue heval

theorem evaluateThreshold_rejected (hrejected : acceptedBy snapshot observation = false)
    (heval : evaluateThreshold configuration snapshot observation = .ok result) :
    (result.decision = .ignoreDuplicate ∨ result.decision = .ignoreOutOfOrder) ∧
      result.snapshot = snapshot := by
  unfold evaluateThreshold at heval
  split_ifs at heval with hdup hold
  · cases heval
    exact ⟨.inl rfl, rfl⟩
  · cases heval
    exact ⟨.inr rfl, rfl⟩
  · simp [acceptedBy, hdup, hold] at hrejected

end Effects

structure DatedObservation (F : Type) extends TelemetryObservation F where
  dated : capturedAt ≤ maxInstant

/-- What a series went through: an accepted observation with its decision, and
whether the caller keeps the alert linked after a RESOLVE, or the release of the
linked alert. -/
inductive SeriesEntry (F : Type) where
  | accepted (observation : TelemetryObservation F)
      (decision : AlertEvaluationDecision) (retained : Bool)
  | released

section History

variable {F : Type}

def lastAccepted : List (SeriesEntry F) → Option (TelemetryObservation F)
  | [] => none
  | .accepted observation _ _ :: _ => some observation
  | .released :: rest => lastAccepted rest

/-- An alert is linked: the last TRIGGER was not followed by a RESOLVE after
which the alert is let go, nor by its release. -/
def alertLinked : List (SeriesEntry F) → Bool
  | [] => false
  | .released :: _ => false
  | .accepted _ decision retained :: rest =>
    match decision with
    | .trigger => true
    | .resolve => retained && alertLinked rest
    | _ => alertLinked rest

variable [PythonFloat F] (configuration : AlertRuleConfiguration F)

def cooldownEnd : List (SeriesEntry F) → Option Instant
  | [] => none
  | .released :: rest => cooldownEnd rest
  | .accepted observation decision _ :: rest =>
    if decision = .resolve then
      some (observation.capturedAt + configuration.cooldownSeconds * microsPerSecond)
    else cooldownEnd rest

def acceptable (history : List (SeriesEntry F)) (observation : TelemetryObservation F) : Bool :=
  (lastAccepted history).all fun last =>
    last.eventId ≠ observation.eventId && last.capturedAt ≤ observation.capturedAt

/-- A triggering observation outside cooldown and without an alert. -/
def countsForTrigger (history : List (SeriesEntry F))
    (observation : TelemetryObservation F) : Bool :=
  !alertLinked history && ((cooldownEnd configuration history).all fun cooldownUntil =>
      cooldownUntil ≤ observation.capturedAt) &&
    observation.value.any configuration.isTriggered

def countsForClear (history : List (SeriesEntry F)) (observation : TelemetryObservation F) : Bool :=
  alertLinked history && observation.value.any configuration.isClear

/-- The uninterrupted run of triggering observations at the end of a history,
the latest first.  A TRIGGER ends its run. -/
def triggerRun : List (SeriesEntry F) → List (TelemetryObservation F)
  | [] => []
  | .released :: _ => []
  | .accepted observation decision _ :: rest =>
    if decision ≠ .trigger ∧ countsForTrigger configuration rest observation = true
    then observation :: triggerRun rest else []

def clearRun : List (SeriesEntry F) → List (TelemetryObservation F)
  | [] => []
  | .released :: _ => []
  | .accepted observation decision _ :: rest =>
    if decision ≠ .resolve ∧ countsForClear configuration rest observation = true
    then observation :: clearRun rest else []

def runStart (run : List (TelemetryObservation F)) : Option Instant :=
  run.getLast?.map (·.capturedAt)

def runSpans (run : List (TelemetryObservation F))
    (observation : TelemetryObservation F) (seconds : ℤ) : Prop :=
  (runStart run).getD observation.capturedAt + seconds * microsPerSecond ≤ observation.capturedAt

def runMaximum (run : List (TelemetryObservation F)) : F :=
  run.foldr (fun observation largest =>
    match observation.value with
    | none => largest
    | some value => PythonFloat.max largest (configuration.deviation value))
    PythonFloat.zero

/-- The observation ends a run of triggering observations which is long enough. -/
def TriggerPoint (history : List (SeriesEntry F)) (observation : TelemetryObservation F) : Prop :=
  acceptable history observation = true ∧
    countsForTrigger configuration history observation = true ∧
    runSpans (triggerRun configuration history) observation configuration.triggerDurationSeconds

/-- The observation ends a run of clear observations which is long enough. -/
def ResolvePoint (history : List (SeriesEntry F)) (observation : TelemetryObservation F) : Prop :=
  acceptable history observation = true ∧ countsForClear configuration history observation = true ∧
    runSpans (clearRun configuration history) observation configuration.clearDurationSeconds

end History

/-- The snapshot of a series, and its history beside it. -/
structure AlertSeries (F : Type) where
  snapshot : AlertEvaluationSnapshot F
  history : List (SeriesEntry F)

/-- The caller evaluates an observation, links the alert of a TRIGGER under a
new identifier and may keep the alert of a RESOLVE linked; an operator closes an
alert. -/
inductive SeriesAction (F : Type) where
  | observe (observation : DatedObservation F) (alertId : RowId) (retains : Bool)
  | close (alertId : RowId)

section Series

variable {F : Type} [PythonFloat F]

def linkedSnapshot (snapshot : AlertEvaluationSnapshot F)
    (result : AlertEvaluationResult F) (alertId : RowId) (retains : Bool) :
    AlertEvaluationSnapshot F :=
  if result.decision = .trigger then
    { result.snapshot with activeAlertId := some alertId }
  else if result.decision = .resolve ∧ retains = true then
    { result.snapshot with activeAlertId := snapshot.activeAlertId }
  else result.snapshot

def releasedSnapshot (snapshot : AlertEvaluationSnapshot F) :
    AlertEvaluationSnapshot F :=
  { snapshot with
    activeAlertId := none
    triggerPendingSince := none
    clearPendingSince := none
    maximumDeviation := PythonFloat.zero }

namespace AlertSeries

def initial : AlertSeries F :=
  ⟨⟨none, none, none, none, none, none, none, PythonFloat.zero⟩, []⟩

variable (configuration : AlertRuleConfiguration F)

/-- An observation whose evaluation raises leaves the series as it was. -/
def observe (series : AlertSeries F) (observation : TelemetryObservation F)
    (alertId : RowId) (retains : Bool) : AlertSeries F :=
  match evaluateThreshold configuration series.snapshot observation with
  | .error _ => series
  | .ok result =>
    if result.decision = .ignoreDuplicate ∨ result.decision = .ignoreOutOfOrder then
      { series with snapshot := result.snapshot }
    else
      ⟨linkedSnapshot series.snapshot result alertId retains,
        .accepted observation result.decision retains :: series.history⟩

def step (series : AlertSeries F) : SeriesAction F → Option (AlertSeries F)
  | .observe observation alertId retains =>
    some (series.observe configuration observation.toTelemetryObservation alertId retains)
  | .close alertId =>
    if series.snapshot.activeAlertId = some alertId then
      some ⟨releasedSnapshot series.snapshot, .released :: series.history⟩
    else some series

end AlertSeries

end Series

end Nexolab
