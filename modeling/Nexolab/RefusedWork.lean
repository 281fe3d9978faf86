import Nexolab.ColumnDomains

/-!
# Work the database refuses

The contract, the columns of the telemetry tables and those of the alert tables
bound the same values separately.  `writtenRows` is what the evaluation of one
rule writes for an event, and `attempt` is one try of the worker against a
database which checks every row against its columns.  Work which the columns
refuse fails at every try, and the worker does not pass to a later record before
it has succeeded.
-/

namespace Nexolab

section Model

variable {F : Type} [PythonFloat F]

/-- The rows which follow an accepted observation, beside the one of the
series. -/
def resultRows (tables : AlertTables F) (rule : AlertRule)
    (version : AlertRuleVersion F) (event : TelemetryEvent F)
    (context : PersistedTelemetryContext) (state : AlertEvaluationState F)
    (result : AlertEvaluationResult F) : List (Row F) :=
  if result.decision = .trigger then
    [alertColumns (newAlert tables.nextId rule version event context
        result.snapshot.maximumDeviation),
      transitionColumns (systemTransition tables.nextId .triggered none .active event
        [(codePoints "rule_id", .string (codePoints rule.id)),
          (codePoints "rule_version", .int version.version),
          (codePoints "trigger_threshold", .float version.triggerThreshold)]
        tables.nextId),
      evidenceColumns (evidenceRow tables.nextId event version.triggerThreshold
        result.deviation "triggered" tables.nextId)]
  else
    match state.snapshot.activeAlertId.bind tables.alerts with
    | none => []
    | some alert =>
      let touched := touchedAlert event alert result
      let captured := if shouldCaptureEvidence result.decision result.deviation
          state.snapshot.maximumDeviation
        then [evidenceColumns (evidenceRow alert.id event
          (evidenceThreshold version result.decision) result.deviation
          result.decision.text tables.nextId)]
        else []
      let resolution := if result.decision = .resolve
        then [alertColumns (resolvedAlert event touched),
          transitionColumns (systemTransition alert.id .resolved (some alert.state) .resolved event
            [(codePoints "clear_threshold", .float version.clearThreshold),
              (codePoints "maximum_deviation", .float touched.maximumDeviation)]
            tables.nextId)]
        else []
      alertColumns touched :: captured ++ resolution

def writtenRows (event : TelemetryEvent F) (context : PersistedTelemetryContext)
    (tables : AlertTables F) (record : AlertRule × AlertRuleVersion F) :
    Except AlertProcessingError (List (Row F)) := do
  let (rule, version) := record
  let key : EvaluationKey := (rule.id, resourceKey event context)
  let (loaded, state) := loadState tables key context event
  let configuration ← version.configuration
  let result ← evaluateThreshold configuration state.snapshot (observationOf event)
  if result.decision = .ignoreDuplicate ∨ result.decision = .ignoreOutOfOrder then
    return [stateColumns key state]
  else
    return stateColumns key { state with snapshot := result.snapshot } ::
      resultRows loaded rule version event context state result

inductive AttemptError where
  | refused (column : String)
  | persist (error : PersistError)
  | processing (error : AlertProcessingError)

def checkRow (row : Row F) : Except AttemptError Unit :=
  match row.find? fun column => !column.2.accepted with
  | none => .ok ()
  | some column => .error (.refused column.1)

/-- What the database holds while the worker tries a record.  Its rows have
passed the columns, rule versions were validated when they were created, and a
series is linked to an alert of its own. -/
structure DatabaseView (F : Type) [PythonFloat F] where
  path : PersistencePath F
  allocation : Allocation
  telemetry : TelemetryTables F
  /-- The session context stored with the sample. -/
  stored : Option PersistedTelemetryContext
  defaultOrganizationId : CodePoints
  rules : RuleBase F
  alerts : AlertTables F
  stored_fits : ∀ context ∈ stored, (contextColumns (F := F) context).fits = true
  default_fits : isEncodable defaultOrganizationId = true
  rules_fit : ∀ record ∈ rules, Row.fits (ruleColumns record) = true
  rules_valid : ∀ record ∈ rules, ∃ configuration, record.2.configuration = .ok configuration
  rules_distinct : (rules.map fun record => record.1.id).Nodup
  alerts_fit : alerts.Fits
  alerts_own : alerts.LinksOwn

namespace DatabaseView

variable (view : DatabaseView F) (work : TelemetryWork F)

def context : PersistedTelemetryContext :=
  contextForEvent view.stored view.defaultOrganizationId work.raw

def matching : RuleBase F := matchingRules view.rules work.event (view.context work)

end DatabaseView

def persistChecked (view : DatabaseView F) (work : TelemetryWork F) :
    Except AttemptError (TelemetryTables F) := do
  checkRow (sampleColumns work.event work.raw)
  match persistVia view.path view.telemetry view.allocation work.event work.raw with
  | .error error => throw (.persist error)
  | .ok (next, _) => return next

def evaluateChecked (event : TelemetryEvent F)
    (context : PersistedTelemetryContext) (tables : AlertTables F)
    (record : AlertRule × AlertRuleVersion F) :
    Except AttemptError (AlertTables F) :=
  match writtenRows event context tables record with
  | .error error => .error (.processing error)
  | .ok rows => do
    rows.forM checkRow
    match evaluateRule event context tables record with
    | .error error => throw (.processing error)
    | .ok next => return next

def processChecked (view : DatabaseView F) (work : TelemetryWork F) :
    Except AttemptError (AlertTables F) := do
  checkRow (queryColumns work.event (view.context work))
  (view.matching work).foldlM (evaluateChecked work.event (view.context work)) view.alerts

def attempt (view : DatabaseView F) (work : TelemetryWork F) :
    Except AttemptError (TelemetryTables F × AlertTables F) := do
  let persisted ← persistChecked view work
  let processed ← processChecked view work
  return (persisted, processed)

/-- The observation is accepted and meets the trigger condition of a series
without an alert and out of its cooldown. -/
def meetsTrigger (configuration : AlertRuleConfiguration F) (snapshot : AlertEvaluationSnapshot F)
    (observation : TelemetryObservation F) : Bool :=
  match observation.value with
  | none => false
  | some value =>
    acceptedBy snapshot observation && snapshot.activeAlertId.isNone &&
      !beforeCooldownEnd snapshot observation.capturedAt &&
      configuration.isTriggered value

def meetsClear (configuration : AlertRuleConfiguration F) (snapshot : AlertEvaluationSnapshot F)
    (observation : TelemetryObservation F) : Bool :=
  match observation.value with
  | none => false
  | some value =>
    acceptedBy snapshot observation && snapshot.activeAlertId.isSome && configuration.isClear value

def triggerDue (configuration : AlertRuleConfiguration F) (snapshot : AlertEvaluationSnapshot F)
    (observation : TelemetryObservation F) : ℤ :=
  snapshot.triggerPendingSince.getD observation.capturedAt +
    configuration.triggerDurationSeconds * microsPerSecond

def clearDue (configuration : AlertRuleConfiguration F) (snapshot : AlertEvaluationSnapshot F)
    (observation : TelemetryObservation F) : ℤ :=
  snapshot.clearPendingSince.getD observation.capturedAt +
    configuration.clearDurationSeconds * microsPerSecond

def resolvedDeviation (configuration : AlertRuleConfiguration F)
    (snapshot : AlertEvaluationSnapshot F) (alert : AlertInstance F)
    (observation : TelemetryObservation F) : F :=
  match observation.value with
  | none => PythonFloat.max alert.maximumDeviation snapshot.maximumDeviation
  | some value =>
    PythonFloat.max alert.maximumDeviation
      (PythonFloat.max snapshot.maximumDeviation (configuration.deviation value))

theorem isSurrogate_toNat (char : Char) : isSurrogate char.toNat = false := by
  have hvalid : char.val.toNat < 0xD800 ∨
      0xDFFF < char.val.toNat ∧ char.val.toNat < 0x110000 := char.valid
  have hpoint : char.toNat = char.val.toNat := rfl
  simp only [isSurrogate, hpoint, Bool.and_eq_false_iff, decide_eq_false_iff_not]
  omega

theorem isEncodable_codePoints {text : String} :
    isEncodable (codePoints text) = true ↔ 0 ∉ codePoints text := by
  simp only [isEncodable, codePoints, List.all_map, List.all_eq_true,
    Function.comp_apply, isSurrogate_toNat, Bool.not_false, Bool.and_true,
    decide_eq_true_eq, List.mem_map, not_exists, not_and]

theorem length_codePoints (text : String) : (codePoints text).length = text.length := by
  simp [codePoints, String.length_toList]

def fitsText (length : ℕ) (value : String) : Prop :=
  value.length ≤ length ∧ 0 ∉ codePoints value

instance (length : ℕ) (value : String) : Decidable (fitsText length value) :=
  inferInstanceAs (Decidable (_ ∧ _))

theorem varchar_accepted {length : ℕ} {value : String} :
    (ColumnValue.varchar (F := F) length (codePoints value)).accepted = true ↔
      fitsText length value := by
  simp [ColumnValue.accepted, length_codePoints, isEncodable_codePoints, fitsText]

theorem varcharText_accepted {name : String} {length : ℕ} {value : String} :
    (varcharText (F := F) name length value).2.accepted = true ↔ fitsText length value :=
  varchar_accepted

theorem Quality.fits (quality : Quality) : fitsText 32 quality.text := by
  cases quality <;> decide

theorem Alarm.fits (alarm : Alarm) : fitsText 32 alarm.text := by
  cases alarm <;> decide

theorem BoundedText.accepted {bound : ℕ} (text : BoundedText bound) (name : String) :
    (varcharText (F := F) name bound text.text).2.accepted = true ↔ 0 ∉ codePoints text.text := by
  rw [varcharText_accepted, fitsText]
  exact and_iff_right text.bounded

theorem UuidText.no_nul (eventId : UuidText) : 0 ∉ codePoints eventId.text := by
  intro hmem
  obtain ⟨char, hchar, hzero⟩ := List.mem_map.mp hmem
  have hall : ∀ digit ∈ "0123456789abcdef-".toList, digit.toNat ≠ 0 := by
    decide
  exact hall char (eventId.chars char hchar) hzero

theorem UuidText.accepted (eventId : UuidText) (name : String) :
    (varcharText (F := F) name 36 eventId.text).2.accepted = true :=
  varcharText_accepted.mpr ⟨eventId.length_eq.le, eventId.no_nul⟩

variable {rawPayload : JsonFields F}

section Evaluation

variable {configuration : AlertRuleConfiguration F}
  {snapshot : AlertEvaluationSnapshot F} {observation : TelemetryObservation F}

theorem addSeconds_eq (instant : Instant) (seconds : ℤ) :
    addSeconds instant seconds =
      if instant + seconds * microsPerSecond ≤ maxInstant
      then .ok (instant + seconds * microsPerSecond) else .error .dateOverflow :=
  rfl

theorem evaluateThreshold_accepted (hacc : acceptedBy snapshot observation = true) {value : F}
    (hvalue : observation.value = some value) :
    evaluateThreshold configuration snapshot observation =
      match snapshot.activeAlertId with
      | none => evaluateInactive configuration snapshot observation value
      | some _ => evaluateActive configuration snapshot observation value := by
  simp only [acceptedBy, Bool.and_eq_true, decide_eq_true_eq, Bool.not_eq_true'] at hacc
  unfold evaluateThreshold
  rewrite [if_neg hacc.1, if_neg (by simp [hacc.2]), hvalue]
  cases snapshot.activeAlertId <;> rfl

theorem evaluateThreshold_meetsTrigger
    (hmeets : meetsTrigger configuration snapshot observation = true) :
    (triggerDue configuration snapshot observation ≤ maxInstant →
      ∃ result, evaluateThreshold configuration snapshot observation = .ok result ∧
        (result.decision = .trigger ↔ triggerDue configuration snapshot observation ≤
            observation.capturedAt) ∧ result.decision ≠ .resolve) ∧
    (¬ triggerDue configuration snapshot observation ≤ maxInstant →
      evaluateThreshold configuration snapshot observation = .error .dateOverflow) := by
  unfold meetsTrigger at hmeets
  cases hvalue : observation.value with
  | none => simp [hvalue] at hmeets
  | some value =>
    rw [hvalue] at hmeets
    simp only [Bool.and_eq_true, Bool.not_eq_true', Option.isNone_iff_eq_none] at hmeets
    obtain ⟨⟨⟨hacc, hinact⟩, hcool⟩, htriggered⟩ := hmeets
    have heval : evaluateThreshold configuration snapshot observation =
        evaluateInactive configuration snapshot observation value := by
      rw [evaluateThreshold_accepted hacc hvalue, hinact]
    rw [heval]
    unfold evaluateInactive
    dsimp only
    rw [if_neg (by simp [hcool]), if_neg (by simp [htriggered]), addSeconds_eq]
    have hdueAt : snapshot.triggerPendingSince.getD observation.capturedAt +
        configuration.triggerDurationSeconds * microsPerSecond =
          triggerDue configuration snapshot observation := rfl
    rw [hdueAt]
    constructor
    · intro hdue
      rw [if_pos hdue]
      by_cases hnow : triggerDue configuration snapshot observation ≤ observation.capturedAt
      · simp only [bind, Except.bind, if_pos hnow, pure, Except.pure]
        exact ⟨_, rfl, by simp [hnow], by simp⟩
      · simp only [bind, Except.bind, if_neg hnow, pure, Except.pure]
        exact ⟨_, rfl, by simp [hnow], by simp⟩
    · intro hdue
      rw [if_neg hdue]
      rfl

theorem evaluateThreshold_meetsClear
    (hmeets : meetsClear configuration snapshot observation = true) :
    (clearDue configuration snapshot observation ≤ maxInstant ∧
      (clearDue configuration snapshot observation ≤ observation.capturedAt →
        observation.capturedAt + configuration.cooldownSeconds * microsPerSecond ≤ maxInstant) →
      ∃ result, evaluateThreshold configuration snapshot observation = .ok result ∧
        (result.decision = .resolve ↔ clearDue configuration snapshot observation ≤
            observation.capturedAt) ∧ result.decision ≠ .trigger ∧
        ∀ alert, PythonFloat.max alert.maximumDeviation result.snapshot.maximumDeviation =
            resolvedDeviation configuration snapshot alert observation) ∧
    (¬ (clearDue configuration snapshot observation ≤ maxInstant ∧
      (clearDue configuration snapshot observation ≤ observation.capturedAt →
        observation.capturedAt + configuration.cooldownSeconds * microsPerSecond ≤ maxInstant)) →
      evaluateThreshold configuration snapshot observation = .error .dateOverflow) := by
  unfold meetsClear at hmeets
  cases hvalue : observation.value with
  | none => simp [hvalue] at hmeets
  | some value =>
    rw [hvalue] at hmeets
    simp only [Bool.and_eq_true, Option.isSome_iff_exists] at hmeets
    obtain ⟨⟨hacc, id, hact⟩, hclear⟩ := hmeets
    have heval : evaluateThreshold configuration snapshot observation =
        evaluateActive configuration snapshot observation value := by
      rw [evaluateThreshold_accepted hacc hvalue, hact]
    have hdeviation : ∀ alert : AlertInstance F,
        resolvedDeviation configuration snapshot alert observation =
          PythonFloat.max alert.maximumDeviation (PythonFloat.max snapshot.maximumDeviation
              (configuration.deviation value)) := by
      intro alert
      simp [resolvedDeviation, hvalue]
    rw [heval]
    unfold evaluateActive
    dsimp only
    rw [if_neg (by simp [hclear]), addSeconds_eq, addSeconds_eq]
    have hdueAt : snapshot.clearPendingSince.getD observation.capturedAt +
        configuration.clearDurationSeconds * microsPerSecond =
          clearDue configuration snapshot observation := rfl
    rw [hdueAt]
    by_cases hdue : clearDue configuration snapshot observation ≤ maxInstant
    · rw [if_pos hdue]
      by_cases hnow : clearDue configuration snapshot observation ≤ observation.capturedAt
      · by_cases hend : observation.capturedAt +
            configuration.cooldownSeconds * microsPerSecond ≤ maxInstant
        · simp only [bind, Except.bind, if_pos hnow, if_pos hend, pure, Except.pure]
          refine ⟨fun _ => ⟨_, rfl, by simp [hnow], by simp, ?_⟩, ?_⟩
          · intro alert
            exact (hdeviation alert).symm
          · intro hnot
            exact absurd ⟨hdue, fun _ => hend⟩ hnot
        · simp only [bind, Except.bind, if_pos hnow, if_neg hend]
          exact ⟨fun hall => absurd (hall.2 hnow) hend, fun _ => trivial⟩
      · simp only [bind, Except.bind, if_neg hnow, pure, Except.pure]
        refine ⟨fun _ => ⟨_, rfl, by simp [hnow], by simp, ?_⟩, ?_⟩
        · intro alert
          exact (hdeviation alert).symm
        · intro hnot
          exact absurd ⟨hdue, fun h => absurd h hnow⟩ hnot
    · rw [if_neg hdue]
      exact ⟨fun hall => absurd hall.1 hdue, fun _ => rfl⟩

end Evaluation

/-! ## The rows of the alert tables -/

theorem AlertState.fits (state : AlertState) : fitsText 32 state.text := by
  cases state <;> decide

theorem AlertEventType.fits (eventType : AlertEventType) :
    fitsText 64 eventType.text := by
  cases eventType <;> decide

section Rows

variable {event : TelemetryEvent F} {context : PersistedTelemetryContext}
  {record : AlertRule × AlertRuleVersion F}

omit [PythonFloat F] in
theorem BoundedText.fits {bound : ℕ} {text : BoundedText bound}
    (hnul : 0 ∉ codePoints text.text) : fitsText bound text.text :=
  ⟨text.bounded, hnul⟩

theorem UuidText.fits (eventId : UuidText) : fitsText 36 eventId.text :=
  ⟨eventId.length_eq.le, eventId.no_nul⟩

variable {alert : AlertInstance F} {state : AlertEvaluationState F}

end Rows

namespace DatabaseView

variable {view : DatabaseView F} {work : TelemetryWork F}

end DatabaseView

section Attempts

variable {event : TelemetryEvent F} {context : PersistedTelemetryContext}
  {record : AlertRule × AlertRuleVersion F} {tables next : AlertTables F}

variable {error : AlertProcessingError}

end Attempts

end Model

end Nexolab
