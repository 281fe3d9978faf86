import Nexolab.FallibleList
import Nexolab.LifecycleModel

/-!
# The alert tables follow the lifecycle

Each evaluation of a rule and each command of an operator is a step of the
abstract lifecycle, except one: the processor keeps a resolved alert linked to
its series, so a later observation which completes the clear duration again
resolves it again.  `resolvesAgain` is that case, read off the tables before
the step.
-/

namespace Nexolab

variable {F : Type}

def AlertTransition.lifecycleRow (row : AlertTransition F) :
    LifecycleRow RowId :=
  ⟨row.alertId, row.eventType, row.previousState, row.nextState⟩

def AlertInstance.lifecycle (alert : AlertInstance F) :
    LifecycleAlert EvaluationKey :=
  ⟨(alert.ruleId, alert.resourceKey), alert.state, alert.resolvedAt, alert.lockVersion⟩

def AlertTables.view (tables : AlertTables F) :
    LifecycleView EvaluationKey RowId where
  link key := (tables.states key).bind fun state => state.snapshot.activeAlertId
  cooldownUntil key :=
    (tables.states key).bind fun state => state.snapshot.cooldownUntil
  alerts id := (tables.alerts id).map AlertInstance.lifecycle
  log := tables.transitions.map AlertTransition.lifecycleRow

/-- Identifiers are drawn in order and rows refer to drawn ones. -/
structure AlertTables.WellFormed (tables : AlertTables F) : Prop where
  alert_id : ∀ {id alert}, tables.alerts id = some alert → alert.id = id
  alert_lt : ∀ {id alert}, tables.alerts id = some alert → id < tables.nextId
  log_lt : ∀ row ∈ tables.transitions, row.alertId < tables.nextId

theorem AlertTables.WellFormed.fresh {tables : AlertTables F}
    (hwell : tables.WellFormed) {id : RowId} (hid : tables.nextId ≤ id) :
    tables.alerts id = none := by
  cases halert : tables.alerts id with
  | none => rfl
  | some alert => exact absurd (hwell.alert_lt halert) (not_lt.mpr hid)

theorem AlertTables.WellFormed.no_rows {tables : AlertTables F}
    (hwell : tables.WellFormed) {id : RowId} (hid : tables.nextId ≤ id) :
    rowsOf tables.view.log id = [] := by
  unfold rowsOf
  rw [List.filter_eq_nil_iff]
  intro row hrow
  obtain ⟨transition, htrans, rfl⟩ := List.mem_map.mp hrow
  have hlt : transition.alertId < id :=
    (hwell.log_lt transition htrans).trans_le hid
  rw [Bool.not_eq_true]
  exact decide_eq_false hlt.ne

variable {tables next : AlertTables F} {alert : AlertInstance F}
  {snapshot : AlertEvaluationSnapshot F} {state : AlertEvaluationState F}
  {context : PersistedTelemetryContext} {event : TelemetryEvent F}
  {result : AlertEvaluationResult F}

theorem addTransition_spec {row : RowId → AlertTransition F}
    (hadd : tables.addTransition row = .ok next) :
    next.states = tables.states ∧ next.alerts = tables.alerts ∧
      next.transitions = tables.transitions ++ [row tables.nextId] ∧
      next.nextId = tables.nextId + 1 := by
  unfold AlertTables.addTransition at hadd
  dsimp only at hadd
  split_ifs at hadd
  cases hadd
  exact ⟨rfl, rfl, rfl, rfl⟩

theorem addEvidence_spec {row : RowId → AlertEvidenceSample F}
    (hadd : tables.addEvidence row = .ok next) :
    next.states = tables.states ∧ next.alerts = tables.alerts ∧
      next.transitions = tables.transitions ∧
      next.nextId = tables.nextId + 1 := by
  unfold AlertTables.addEvidence at hadd
  dsimp only at hadd
  split_ifs at hadd
  cases hadd
  exact ⟨rfl, rfl, rfl, rfl⟩

theorem AlertTables.WellFormed.later (hwell : tables.WellFormed)
    (halerts : next.alerts = tables.alerts) (htranss : next.transitions = tables.transitions)
    (hnextId : tables.nextId ≤ next.nextId) : next.WellFormed := by
  refine ⟨?_, ?_, ?_⟩
  · rw [halerts]
    exact hwell.alert_id
  · intro id alert halert
    rw [halerts] at halert
    exact (hwell.alert_lt halert).trans_le hnextId
  · intro row hrow
    rw [htranss] at hrow
    exact (hwell.log_lt row hrow).trans_le hnextId

theorem view_eq_of_same (hstates : next.states = tables.states)
    (halerts : next.alerts = tables.alerts) (htranss : next.transitions = tables.transitions) :
    next.view = tables.view := by
  unfold AlertTables.view
  rw [hstates, halerts, htranss]

theorem AlertTables.WellFormed.setAlert {tables : AlertTables F} (hwell : tables.WellFormed)
    (hlt : alert.id < tables.nextId) : (tables.setAlert alert).WellFormed := by
  refine ⟨?_, ?_, hwell.log_lt⟩
  · intro id found hfound
    rcases update_eq_some hfound with ⟨rfl, rfl⟩ | ⟨_, hfound⟩
    · rfl
    · exact hwell.alert_id hfound
  · intro id found hfound
    rcases update_eq_some hfound with ⟨rfl, rfl⟩ | ⟨_, hfound⟩
    · exact hlt
    · exact hwell.alert_lt hfound

theorem view_applySnapshot (tables : AlertTables F) (key : EvaluationKey)
    (state : AlertEvaluationState F) (snapshot : AlertEvaluationSnapshot F) (updatedAt : Instant) :
    (applySnapshot tables key state snapshot updatedAt).view =
      { tables.view with
        link := Function.update tables.view.link key snapshot.activeAlertId
        cooldownUntil := Function.update tables.view.cooldownUntil key
          snapshot.cooldownUntil } := by
  have hent : ∀ {β : Type} (field : AlertEvaluationSnapshot F → Option β),
      (fun other => ((Function.update tables.states key (some { state with snapshot, updatedAt }))
            other).bind fun row => field row.snapshot) =
        Function.update (fun other => (tables.states other).bind
          fun row => field row.snapshot) key (field snapshot) := by
    intro β field
    funext other
    by_cases hother : other = key
    · subst hother
      simp
    · simp [Function.update_of_ne hother]
  apply LifecycleView.ext
  · exact hent AlertEvaluationSnapshot.activeAlertId
  · exact hent AlertEvaluationSnapshot.cooldownUntil
  · rfl
  · rfl

variable {key : EvaluationKey} {observation : TelemetryObservation F} {alertId : RowId}
  {rule : AlertRule}

theorem view_applySnapshot_same {tables : AlertTables F} (hstate : tables.states key = some state)
    (hlink : snapshot.activeAlertId = state.snapshot.activeAlertId)
    (hcool : snapshot.cooldownUntil = state.snapshot.cooldownUntil) (updatedAt : Instant) :
    (applySnapshot tables key state snapshot updatedAt).view = tables.view := by
  have hlinkAt : tables.view.link key = snapshot.activeAlertId := by
    simp [AlertTables.view, hstate, hlink]
  have hcooldownAt : tables.view.cooldownUntil key = snapshot.cooldownUntil := by
    simp [AlertTables.view, hstate, hcool]
  rw [view_applySnapshot, ← hlinkAt, ← hcooldownAt, Function.update_eq_self,
    Function.update_eq_self]

variable [PythonFloat F] {configuration : AlertRuleConfiguration F}
  {version : AlertRuleVersion F}

theorem loadState_spec {tables loaded : AlertTables F}
    (hload : loadState tables key context event = (loaded, state)) :
    loaded.states key = some state ∧ loaded.view = tables.view ∧ loaded.alerts = tables.alerts ∧
      loaded.transitions = tables.transitions ∧
      tables.nextId ≤ loaded.nextId ∧
      (tables.states key = some state ∨
        state.snapshot.activeAlertId = none) := by
  unfold loadState at hload
  split at hload
  next found hfound =>
    cases hload
    exact ⟨hfound, rfl, rfl, rfl, le_rfl, .inl hfound⟩
  next hnone =>
    cases hload
    refine ⟨by simp [AlertTables.setState], ?_, rfl, rfl, Nat.le_succ _, .inr rfl⟩
    have hent : ∀ {β : Type} (field : AlertEvaluationSnapshot F → Option β),
        field (newEvaluationState tables.nextId context event).snapshot = none →
        (fun other => (Function.update tables.states key
          (some (newEvaluationState tables.nextId context event)) other).bind
            fun row => field row.snapshot) =
          fun other => (tables.states other).bind fun row => field row.snapshot := by
      intro β field hfield
      funext other
      by_cases hother : other = key
      · subst hother
        simp [hnone, hfield]
      · simp [Function.update_of_ne hother]
    apply LifecycleView.ext
    · exact hent AlertEvaluationSnapshot.activeAlertId rfl
    · exact hent AlertEvaluationSnapshot.cooldownUntil rfl
    · rfl
    · rfl

/-! ## Evaluation as a step of the lifecycle -/

omit [PythonFloat F] in
def acceptedBy (snapshot : AlertEvaluationSnapshot F)
    (observation : TelemetryObservation F) : Bool :=
  snapshot.lastEventId ≠ some observation.eventId &&
    !olderThanWatermark snapshot observation.capturedAt

def completesClear (configuration : AlertRuleConfiguration F) (snapshot : AlertEvaluationSnapshot F)
    (observation : TelemetryObservation F) : Bool :=
  match observation.value with
  | none => false
  | some value =>
    configuration.isClear value && snapshot.clearPendingSince.getD observation.capturedAt +
          configuration.clearDurationSeconds * microsPerSecond ≤
        observation.capturedAt

/-- The series is linked to a resolved alert and the event completes its clear
duration once more. -/
def resolvesAgain (tables : AlertTables F) (record : AlertRule × AlertRuleVersion F)
    (context : PersistedTelemetryContext) (event : TelemetryEvent F) : Bool :=
  match tables.states (record.1.id, resourceKey event context) with
  | none => false
  | some state =>
    match state.snapshot.activeAlertId.bind tables.alerts with
    | none => false
    | some alert =>
      match record.2.configuration with
      | .error _ => false
      | .ok configuration =>
        alert.state = .resolved && acceptedBy state.snapshot (observationOf event) &&
          completesClear configuration state.snapshot (observationOf event)

theorem addSeconds_eq_ok {instant result : Instant} {seconds : ℤ}
    (hadd : addSeconds instant seconds = .ok result) :
    result = instant + seconds * microsPerSecond := by
  unfold addSeconds at hadd
  dsimp only at hadd
  split_ifs at hadd
  rw [Except.ok.injEq] at hadd
  exact hadd.symm

omit [PythonFloat F] in
/-- The observation was accepted and the snapshot remembers it. -/
structure Accepted (snapshot : AlertEvaluationSnapshot F) (observation : TelemetryObservation F)
    (result : AlertEvaluationResult F) : Prop where
  accepted : acceptedBy snapshot observation = true
  event_seen : result.snapshot.lastEventId = some observation.eventId
  instant_seen : result.snapshot.lastCapturedAt = some observation.capturedAt

/-- What a decision says about the snapshot it comes with. -/
inductive EvaluationOutcome (configuration : AlertRuleConfiguration F)
    (snapshot : AlertEvaluationSnapshot F)
    (observation : TelemetryObservation F)
    (result : AlertEvaluationResult F) : Prop
  | ignored :
      result.decision = .ignoreDuplicate ∨ result.decision = .ignoreOutOfOrder →
      acceptedBy snapshot observation = false →
      EvaluationOutcome configuration snapshot observation result
  | triggered :
      Accepted snapshot observation result →
      result.decision = .trigger → snapshot.activeAlertId = none →
      result.snapshot.cooldownUntil = snapshot.cooldownUntil →
      EvaluationOutcome configuration snapshot observation result
  | resolved (cooldownUntil : Instant) :
      Accepted snapshot observation result →
      result.decision = .resolve → snapshot.activeAlertId.isSome →
      completesClear configuration snapshot observation = true →
      result.snapshot.cooldownUntil = some cooldownUntil →
      EvaluationOutcome configuration snapshot observation result
  | noted :
      Accepted snapshot observation result →
      result.decision ≠ .ignoreDuplicate → result.decision ≠ .ignoreOutOfOrder →
      result.decision ≠ .trigger → result.decision ≠ .resolve →
      result.snapshot.activeAlertId = snapshot.activeAlertId →
      result.snapshot.cooldownUntil = snapshot.cooldownUntil →
      EvaluationOutcome configuration snapshot observation result

theorem evaluateInactive_outcome {value : F} (hinact : snapshot.activeAlertId = none)
    (hacc : acceptedBy snapshot observation = true)
    (heval : evaluateInactive configuration snapshot observation value = .ok result) :
    EvaluationOutcome configuration snapshot observation result := by
  unfold evaluateInactive at heval
  dsimp only at heval
  split_ifs at heval with hcool htriggered hpend
  · cases heval
    exact .noted ⟨hacc, rfl, rfl⟩ (by simp) (by simp) (by simp) (by simp)
      rfl rfl
  · cases heval
    exact .noted ⟨hacc, rfl, rfl⟩ (by simp) (by simp) (by simp) (by simp)
      rfl rfl
  · cases heval
    exact .noted ⟨hacc, rfl, rfl⟩ (by simp) (by simp) (by simp) (by simp)
      rfl rfl
  · rw [bind_eq_ok] at heval
    obtain ⟨dueAt, _, heval⟩ := heval
    split_ifs at heval with hdue
    · cases heval
      exact .triggered ⟨hacc, rfl, rfl⟩ rfl hinact rfl
    · cases heval
      exact .noted ⟨hacc, rfl, rfl⟩ (by simp) (by simp) (by simp) (by simp)
        rfl rfl

theorem evaluateActive_outcome {value : F} (hact : snapshot.activeAlertId.isSome)
    (hacc : acceptedBy snapshot observation = true) (hvalue : observation.value = some value)
    (heval : evaluateActive configuration snapshot observation value = .ok result) :
    EvaluationOutcome configuration snapshot observation result := by
  unfold evaluateActive at heval
  dsimp only at heval
  split_ifs at heval with hclear hpend
  · cases heval
    exact .noted ⟨hacc, rfl, rfl⟩ (by simp) (by simp) (by simp) (by simp)
      rfl rfl
  · cases heval
    exact .noted ⟨hacc, rfl, rfl⟩ (by simp) (by simp) (by simp) (by simp)
      rfl rfl
  · rw [bind_eq_ok] at heval
    obtain ⟨dueAt, hdueAt, heval⟩ := heval
    split_ifs at heval with hdue
    · rw [bind_eq_ok] at heval
      obtain ⟨cooldownUntil, _, heval⟩ := heval
      cases heval
      refine .resolved cooldownUntil ⟨hacc, rfl, rfl⟩ rfl hact ?_ rfl
      rw [addSeconds_eq_ok hdueAt] at hdue
      simp only [Bool.not_eq_true', Bool.not_eq_false] at hclear
      simp [completesClear, hvalue, hclear, hdue]
    · cases heval
      exact .noted ⟨hacc, rfl, rfl⟩ (by simp) (by simp) (by simp) (by simp)
        rfl rfl

theorem evaluateThreshold_outcome
    (heval : evaluateThreshold configuration snapshot observation = .ok result) :
    EvaluationOutcome configuration snapshot observation result := by
  unfold evaluateThreshold at heval
  split_ifs at heval with hdup hold
  · cases heval
    exact .ignored (.inl rfl) (by simp [acceptedBy, hdup])
  · cases heval
    exact .ignored (.inr rfl) (by simp [acceptedBy, hold])
  · have hacc : acceptedBy snapshot observation = true := by
      simp [acceptedBy, hdup, hold]
    split at heval
    next =>
      cases heval
      exact .noted ⟨hacc, rfl, rfl⟩ (by simp) (by simp) (by simp) (by simp)
        rfl rfl
    next value hvalue =>
      cases hact : snapshot.activeAlertId with
      | none =>
        rw [hact] at heval
        exact evaluateInactive_outcome hact hacc heval
      | some id =>
        rw [hact] at heval
        exact evaluateActive_outcome (by simp [hact]) hacc hvalue heval

omit [PythonFloat F] in
theorem view_setAlert_same {tables : AlertTables F}
    (halert : tables.alerts alert.id = some alert) (next : AlertInstance F)
    (hid : next.id = alert.id) (hlife : next.lifecycle = alert.lifecycle) :
    (tables.setAlert next).view = tables.view := by
  have halerts : (fun id => ((tables.setAlert next).alerts id).map AlertInstance.lifecycle) =
      fun id => (tables.alerts id).map AlertInstance.lifecycle := by
    funext id
    by_cases hsame : id = alert.id
    · subst hsame
      simp [AlertTables.setAlert, hid, halert, hlife]
    · simp [AlertTables.setAlert, hid, Function.update_of_ne hsame]
  apply LifecycleView.ext
  · rfl
  · rfl
  · exact halerts
  · rfl

theorem touchAlert_writes {tables touched : AlertTables F}
    {alert current : AlertInstance F} {previousMaximum : F}
    (htouch : touchAlert tables version event alert previousMaximum result =
      .ok (touched, current)) :
    current = touchedAlert event alert result ∧ touched.states = tables.states ∧
      touched.alerts = (tables.setAlert current).alerts ∧
      touched.transitions = tables.transitions ∧ tables.nextId ≤ touched.nextId := by
  unfold touchAlert at htouch
  dsimp only at htouch
  split_ifs at htouch
  · rw [bind_eq_ok] at htouch
    obtain ⟨evidenced, hadd, htouch⟩ := htouch
    cases htouch
    obtain ⟨hstates, halerts, htranss, hnextId⟩ := addEvidence_spec hadd
    exact ⟨rfl, hstates, halerts, htranss, hnextId.symm ▸ Nat.le_succ _⟩
  · cases htouch
    exact ⟨rfl, rfl, rfl, rfl, le_rfl⟩

theorem touchAlert_spec {tables touched : AlertTables F}
    {alert current : AlertInstance F} {previousMaximum : F} (hwell : tables.WellFormed)
    (halert : tables.alerts alert.id = some alert)
    (htouch : touchAlert tables version event alert previousMaximum result =
      .ok (touched, current)) :
    touched.states = tables.states ∧ touched.view = tables.view ∧
      touched.WellFormed ∧ current.id = alert.id ∧
      current.lifecycle = alert.lifecycle ∧
      touched.alerts current.id = some current := by
  obtain ⟨rfl, hstates, halerts, htranss, hnextId⟩ := touchAlert_writes htouch
  have hset : (tables.setAlert (touchedAlert event alert result)).WellFormed :=
    hwell.setAlert (hwell.alert_lt halert)
  refine ⟨hstates, ?_, hset.later halerts htranss hnextId, rfl, rfl, ?_⟩
  · rw [← view_setAlert_same halert (touchedAlert event alert result) rfl rfl]
    exact view_eq_of_same hstates halerts htranss
  · rw [halerts]
    simp [AlertTables.setAlert]

section

omit [PythonFloat F]

theorem view_record (tables : AlertTables F) {next : AlertTables F}
    (alert : AlertInstance F) (row : AlertTransition F) (hstates : next.states = tables.states)
    (halerts : next.alerts = (tables.setAlert alert).alerts)
    (htranss : next.transitions = tables.transitions ++ [row])
    (hrow : row.lifecycleRow = ⟨alert.id, alert.state.entryEvent, row.previousState, alert.state⟩) :
    next.view = tables.view.record alert.id alert.lifecycle row.previousState := by
  have hmap : (fun id => (next.alerts id).map AlertInstance.lifecycle) = Function.update
        (fun id => (tables.alerts id).map AlertInstance.lifecycle) alert.id
        (some alert.lifecycle) := by
    funext id
    rw [halerts]
    by_cases hsame : id = alert.id
    · subst hsame
      simp [AlertTables.setAlert]
    · simp [AlertTables.setAlert, Function.update_of_ne hsame]
  apply LifecycleView.ext
  · simp [AlertTables.view, LifecycleView.record, hstates]
  · simp [AlertTables.view, LifecycleView.record, hstates]
  · exact hmap
  · simp [AlertTables.view, LifecycleView.record, htranss, hrow, AlertInstance.lifecycle]

theorem AlertTables.WellFormed.record (hwell : (tables.setAlert alert).WellFormed)
    (row : AlertTransition F) (halerts : next.alerts = (tables.setAlert alert).alerts)
    (htranss : next.transitions = tables.transitions ++ [row])
    (hnextId : tables.nextId ≤ next.nextId)
    (hrow : row.alertId < next.nextId) : next.WellFormed := by
  refine ⟨?_, ?_, ?_⟩
  · rw [halerts]
    exact hwell.alert_id
  · intro id found hfound
    rw [halerts] at hfound
    exact lt_of_lt_of_le (hwell.alert_lt hfound) hnextId
  · intro other hother
    rw [htranss] at hother
    rcases List.mem_append.mp hother with hold | hnew
    · exact lt_of_lt_of_le (hwell.log_lt other hold) hnextId
    · rw [List.mem_singleton.mp hnew]
      exact hrow

theorem resolveAlert_spec (hwell : tables.WellFormed) (halert : tables.alerts alert.id = some alert)
    (hresv : resolveAlert tables version event alert = .ok next) :
    next.states = tables.states ∧ next.WellFormed ∧ next.view = tables.view.record alert.id
        { alert.lifecycle with
          state := .resolved
          resolvedAt := some event.capturedAt
          lockVersion := alert.lifecycle.lockVersion + 1 }
        (some alert.lifecycle.state) := by
  have hlt : alert.id < tables.nextId := hwell.alert_lt halert
  unfold resolveAlert at hresv
  obtain ⟨hstates, halerts, htranss, hnextId⟩ :=
    addTransition_spec hresv
  have hset : (tables.setAlert (resolvedAlert event alert)).WellFormed :=
    hwell.setAlert hlt
  refine ⟨hstates, ?_, view_record tables (resolvedAlert event alert) _ hstates halerts htranss rfl⟩
  refine hset.record _ halerts htranss (hnextId.symm ▸ Nat.le_succ _) ?_
  rw [hnextId]
  exact Nat.lt_succ_of_lt hlt

theorem triggerAlert_writes
    (htrig : triggerAlert tables rule version event context result = .ok (next, alertId)) :
    alertId = tables.nextId ∧ next.states = tables.states ∧
      next.alerts = (tables.setAlert (newAlert tables.nextId rule version event
        context result.snapshot.maximumDeviation)).alerts ∧
      next.nextId = tables.nextId + 3 ∧
      ∃ row, next.transitions = tables.transitions ++ [row] ∧
        row.lifecycleRow = ⟨tables.nextId, .triggered, none, .active⟩ := by
  unfold triggerAlert at htrig
  dsimp only at htrig
  split_ifs at htrig with hopen
  · cases htrig
  · rw [bind_eq_ok] at htrig
    obtain ⟨logged, hlogged, htrig⟩ := htrig
    rw [bind_eq_ok] at htrig
    obtain ⟨evidenced, hevidenced, htrig⟩ := htrig
    cases htrig
    obtain ⟨hstates, halerts, htranss, hnextId⟩ := addTransition_spec hlogged
    obtain ⟨hstates', halerts', htranss', hnextId'⟩ := addEvidence_spec hevidenced
    refine ⟨rfl, hstates'.trans hstates, halerts'.trans halerts, ?_, _, htranss'.trans htranss, rfl⟩
    rw [hnextId', hnextId]

theorem triggerAlert_spec (hwell : tables.WellFormed)
    (htrig : triggerAlert tables rule version event context result = .ok (next, alertId)) :
    alertId = tables.nextId ∧ next.states = tables.states ∧ next.WellFormed ∧
      next.view = tables.view.record tables.nextId
        ⟨(rule.id, resourceKey event context), .active, none, 1⟩ none := by
  obtain ⟨hid, hstates, halerts, hnext, row, htranss, hrow⟩ :=
    triggerAlert_writes htrig
  have hprevious : row.previousState = none :=
    congrArg LifecycleRow.previousState hrow
  refine ⟨hid, hstates, ⟨?_, ?_, ?_⟩, ?_⟩
  · intro id found hfound
    rw [halerts] at hfound
    rcases update_eq_some hfound with ⟨rfl, rfl⟩ | ⟨_, hfound⟩
    · rfl
    · exact hwell.alert_id hfound
  · intro id found hfound
    rw [halerts] at hfound
    rw [hnext]
    rcases update_eq_some hfound with ⟨rfl, rfl⟩ | ⟨_, hfound⟩
    · exact Nat.lt_add_of_pos_right (by norm_num)
    · exact Nat.lt_add_right 3 (hwell.alert_lt hfound)
  · intro other hother
    rw [htranss] at hother
    rw [hnext]
    rcases List.mem_append.mp hother with hold | hnew
    · exact Nat.lt_add_right 3 (hwell.log_lt other hold)
    · rw [List.mem_singleton.mp hnew, show row.alertId = tables.nextId from
        congrArg LifecycleRow.alertId hrow]
      exact Nat.lt_add_of_pos_right (by norm_num)
  · have hview := view_record tables (newAlert tables.nextId rule version event
      context result.snapshot.maximumDeviation) row hstates halerts htranss
      (by rw [hrow, hprevious]; rfl)
    rw [hprevious] at hview
    exact hview

theorem AlertTables.WellFormed.applySnapshot {tables : AlertTables F}
    (hwell : tables.WellFormed) (key : EvaluationKey)
    (state : AlertEvaluationState F) (snapshot : AlertEvaluationSnapshot F) (updatedAt : Instant) :
    (applySnapshot tables key state snapshot updatedAt).WellFormed :=
  hwell.later rfl rfl le_rfl

theorem link_of_state {tables : AlertTables F} (hstate : tables.states key = some state) :
    tables.view.link key = state.snapshot.activeAlertId := by
  simp [AlertTables.view, hstate]

theorem triggerAlert_step {tables triggered : AlertTables F} (hwell : tables.WellFormed)
    (hstate : tables.states (rule.id, resourceKey event context) = some state)
    (hunlinked : state.snapshot.activeAlertId = none)
    (hcool : result.snapshot.cooldownUntil = state.snapshot.cooldownUntil)
    (htriggered : triggerAlert tables rule version event context result =
      .ok (triggered, alertId)) :
    tables.view.ObservationStep (applySnapshot triggered (rule.id, resourceKey event context) state
        { result.snapshot with activeAlertId := some alertId }
        event.capturedAt).view ∧ triggered.WellFormed := by
  obtain ⟨rfl, _, htriggeredWell, hview⟩ := triggerAlert_spec hwell htriggered
  refine ⟨?_, htriggeredWell⟩
  have hcooldownAt : triggered.view.cooldownUntil
      (rule.id, resourceKey event context) = result.snapshot.cooldownUntil := by
    rw [hview, hcool]
    simp [LifecycleView.record, AlertTables.view, hstate]
  have hafter : (applySnapshot triggered (rule.id, resourceKey event context)
      state { result.snapshot with activeAlertId := some tables.nextId }
      event.capturedAt).view =
      { tables.view.record tables.nextId
          ⟨(rule.id, resourceKey event context), .active, none, 1⟩ none with
        link := Function.update tables.view.link
          (rule.id, resourceKey event context) (some tables.nextId) } := by
    rw [view_applySnapshot]
    dsimp only
    rw [← hcooldownAt, Function.update_eq_self, hview]
    rfl
  rw [hafter]
  refine .trigger _ _ _ ((link_of_state hstate).trans hunlinked) ?_ (hwell.no_rows le_rfl)
  simp [AlertTables.view, hwell.fresh le_rfl]

theorem resolveAlert_step {tables resolved : AlertTables F} {cooldownUntil : Instant}
    (hwell : tables.WellFormed)
    (hstate : tables.states (rule.id, resourceKey event context) = some state)
    (hlinked : state.snapshot.activeAlertId = some alert.id)
    (halert : tables.alerts alert.id = some alert) (hunresolved : alert.state ≠ .resolved)
    (hcool : snapshot.cooldownUntil = some cooldownUntil)
    (hresd : resolveAlert tables version event alert = .ok resolved) :
    tables.view.ObservationStep (applySnapshot resolved (rule.id, resourceKey event context) state
        { snapshot with activeAlertId := some alert.id }
        event.capturedAt).view ∧ resolved.WellFormed := by
  obtain ⟨_, hresolvedWell, hview⟩ := resolveAlert_spec hwell halert hresd
  refine ⟨?_, hresolvedWell⟩
  have hlinkAt := (link_of_state hstate).trans hlinked
  have hafter : (applySnapshot resolved (rule.id, resourceKey event context)
      state { snapshot with activeAlertId := some alert.id }
      event.capturedAt).view =
      { tables.view.record alert.id
          { alert.lifecycle with
            state := .resolved
            resolvedAt := some event.capturedAt
            lockVersion := alert.lifecycle.lockVersion + 1 }
          (some alert.lifecycle.state) with
        cooldownUntil := Function.update tables.view.cooldownUntil
          (rule.id, resourceKey event context) (some cooldownUntil) } := by
    rw [view_applySnapshot, hview]
    dsimp only [LifecycleView.record]
    rw [hcool, ← hlinkAt, Function.update_eq_self]
  rw [hafter]
  refine .resolve _ _ _ alert.lifecycle _ _ hlinkAt ?_ hunresolved
  simp [AlertTables.view, halert]

end

theorem applyResult_step (hwell : tables.WellFormed) (hsound : tables.view.Sound)
    (hstate : tables.states (rule.id, resourceKey event context) = some state)
    (hout : EvaluationOutcome configuration state.snapshot (observationOf event) result)
    (hacc : ¬ (result.decision = .ignoreDuplicate ∨
      result.decision = .ignoreOutOfOrder))
    (hagain : ∀ alert, state.snapshot.activeAlertId.bind tables.alerts = some alert →
      acceptedBy state.snapshot (observationOf event) = true →
      completesClear configuration state.snapshot (observationOf event) = true →
      alert.state ≠ .resolved)
    (happly : applyResult tables rule version event context state result = .ok next) :
    tables.view.ObservationStep next.view ∧ next.WellFormed := by
  unfold applyResult at happly
  dsimp only at happly
  by_cases htrig : result.decision = .trigger
  · rw [if_pos htrig, bind_eq_ok] at happly
    obtain ⟨⟨triggered, alertId⟩, htriggered, happly⟩ := happly
    cases happly
    cases hout with
    | ignored h => exact absurd h hacc
    | resolved _ _ h => rw [htrig] at h; cases h
    | noted _ _ _ h => exact absurd htrig h
    | triggered _ _ hunlinked hcool =>
      obtain ⟨hstep, htriggeredWell⟩ := triggerAlert_step hwell hstate hunlinked hcool htriggered
      exact ⟨hstep, htriggeredWell.applySnapshot _ _ _ _⟩
  · rw [if_neg htrig] at happly
    split at happly
    next hnone =>
      cases happly
      have hunlinked : state.snapshot.activeAlertId = none := by
        cases hact : state.snapshot.activeAlertId with
        | none => rfl
        | some id =>
          obtain ⟨alert, halert, _⟩ :=
            hsound.linked ((link_of_state hstate).trans hact)
          simp only [hact, Option.bind_some] at hnone
          simp [AlertTables.view, hnone] at halert
      cases hout with
      | ignored h => exact absurd h hacc
      | triggered _ h => exact absurd h htrig
      | resolved _ _ _ hsome => simp [hunlinked] at hsome
      | noted _ _ _ _ _ hlink hcool =>
        rw [view_applySnapshot_same hstate hlink hcool]
        exact ⟨.quiet _, hwell.applySnapshot _ _ _ _⟩
    next alert hbind =>
      obtain ⟨id, hact, halertAt⟩ := Option.bind_eq_some_iff.mp hbind
      have hid : alert.id = id := hwell.alert_id halertAt
      subst hid
      rw [bind_eq_ok] at happly
      obtain ⟨⟨touched, current⟩, htouched, happly⟩ := happly
      obtain ⟨htouchedStates, htouchedView, htouchedWell, hcurrentId, hcur,
        hcurrentAt⟩ := touchAlert_spec hwell halertAt htouched
      have htouchedState : touched.states (rule.id, resourceKey event context) = some state := by
        rw [htouchedStates]
        exact hstate
      dsimp only at happly
      rw [← htouchedView]
      by_cases hresv : result.decision = .resolve
      · rw [if_pos hresv, bind_eq_ok] at happly
        obtain ⟨resolved, hresd, happly⟩ := happly
        cases happly
        cases hout with
        | ignored h => exact absurd h hacc
        | triggered _ h => exact absurd h htrig
        | noted _ _ _ _ h => exact absurd hresv h
        | resolved cooldownUntil hnew _ _ hcomps hcool =>
          have hunresolved : current.state ≠ .resolved := by
            have hstateEq : current.state = alert.state :=
              congrArg LifecycleAlert.state hcur
            rw [hstateEq]
            exact hagain alert hbind hnew.accepted hcomps
          obtain ⟨hstep, hresolvedWell⟩ := resolveAlert_step htouchedWell
            htouchedState (by rw [hact, hcurrentId]) hcurrentAt hunresolved
            hcool hresd
          exact ⟨hstep, hresolvedWell.applySnapshot _ _ _ _⟩
      · rw [if_neg hresv, pure_eq_ok] at happly
        subst happly
        cases hout with
        | ignored h => exact absurd h hacc
        | triggered _ h => exact absurd h htrig
        | resolved _ _ h => exact absurd h hresv
        | noted _ _ _ _ _ hlink hcool =>
          rw [view_applySnapshot_same htouchedState hlink hcool]
          exact ⟨.quiet _, htouchedWell.applySnapshot _ _ _ _⟩

theorem evaluateRule_step {record : AlertRule × AlertRuleVersion F}
    (hwell : tables.WellFormed) (hsound : tables.view.Sound)
    (hagain : resolvesAgain tables record context event = false)
    (heval : evaluateRule event context tables record = .ok next) :
    tables.view.ObservationStep next.view ∧ next.WellFormed := by
  obtain ⟨rule, version⟩ := record
  unfold evaluateRule at heval
  dsimp only at heval
  cases hload : loadState tables (rule.id, resourceKey event context) context event with
  | mk loaded state =>
    obtain ⟨hstate, hloadedView, hloadedAlerts, hloadedRows, hloadedId,
      horigin⟩ := loadState_spec hload
    have hloadedWell : loaded.WellFormed :=
      hwell.later hloadedAlerts hloadedRows hloadedId
    rw [hload] at heval
    dsimp only at heval
    rw [bind_eq_ok] at heval
    obtain ⟨configuration, hconf, heval⟩ := heval
    rw [bind_eq_ok] at heval
    obtain ⟨result, hres, heval⟩ := heval
    rw [← hloadedView]
    by_cases hignored : result.decision = .ignoreDuplicate ∨ result.decision = .ignoreOutOfOrder
    · rw [if_pos hignored, pure_eq_ok] at heval
      subst heval
      exact ⟨.quiet _, hloadedWell⟩
    · rw [if_neg hignored] at heval
      refine applyResult_step hloadedWell (hloadedView.symm ▸ hsound) hstate
        (evaluateThreshold_outcome hres) hignored ?_ heval
      intro alert hbind hacc hcomps hresd
      rcases horigin with hstored | hunlinked
      · rw [hloadedAlerts] at hbind
        simp [resolvesAgain, hstored, hbind, hconf, hresd, hacc, hcomps] at hagain
      · rw [hunlinked] at hbind
        cases hbind

theorem view_releaseClosedAlertState (tables : AlertTables F) (alertId : RowId) :
    (releaseClosedAlertState tables alertId).view =
      { tables.view with
        link := fun key =>
          if tables.view.link key = some alertId then none
          else tables.view.link key } := by
  apply LifecycleView.ext
  · funext key
    cases hstate : tables.states key with
    | none => simp [AlertTables.view, releaseClosedAlertState, hstate]
    | some state =>
      by_cases hlinked : state.snapshot.activeAlertId = some alertId
      · simp [AlertTables.view, releaseClosedAlertState, releaseState, hstate, hlinked]
      · simp [AlertTables.view, releaseClosedAlertState, releaseState, hstate, hlinked]
  · funext key
    cases hstate : tables.states key with
    | none => simp [AlertTables.view, releaseClosedAlertState, hstate]
    | some state =>
      by_cases hlinked : state.snapshot.activeAlertId = some alertId
      · simp [AlertTables.view, releaseClosedAlertState, releaseState, hstate, hlinked]
      · simp [AlertTables.view, releaseClosedAlertState, releaseState, hstate, hlinked]
  · rfl
  · rfl

omit [PythonFloat F] in
theorem commandedTables_spec {tables : AlertTables F}
    (hwell : tables.WellFormed) (halert : tables.alerts alert.id = some alert)
    (command : LifecycleCommand) :
    (commandedTables tables command alert).WellFormed ∧
      (commandedTables tables command alert).view = tables.view.record alert.id
          { alert.lifecycle with
            state := command.action.edge.2.1
            lockVersion := alert.lifecycle.lockVersion + 1 }
          (some alert.lifecycle.state) := by
  have hlt : alert.id < tables.nextId := hwell.alert_lt halert
  have hent : command.action.edge.2.2 = command.action.edge.2.1.entryEvent := by
    cases command.action <;> rfl
  have hset : (tables.setAlert (commandedAlert command alert)).WellFormed :=
    hwell.setAlert hlt
  constructor
  · exact hset.record (commandTransition command alert tables.nextId) rfl rfl
      (Nat.le_succ _) (Nat.lt_succ_of_lt hlt)
  · refine view_record tables (commandedAlert command alert)
      (commandTransition command alert tables.nextId) rfl rfl rfl ?_
    simp [AlertTransition.lifecycleRow, commandTransition, commandedAlert, hent]

theorem transition_step {command : LifecycleCommand} (hwell : tables.WellFormed)
    (hcmd : transition tables command = .ok next) :
    tables.view.CommandStep next.view ∧ next.WellFormed := by
  unfold transition at hcmd
  dsimp only at hcmd
  cases hfound : tables.alerts command.alertId with
  | none =>
    rw [hfound] at hcmd
    split_ifs at hcmd
  | some alert =>
    rw [hfound] at hcmd
    dsimp only at hcmd
    have hid : alert.id = command.alertId := hwell.alert_id hfound
    have halert : tables.alerts alert.id = some alert := by rw [hid, hfound]
    have hview : tables.view.alerts alert.id = some alert.lifecycle := by
      simp [AlertTables.view, halert]
    split_ifs at hcmd with hkey hactor hsrc horg hreplay hstate hclose
    · cases hcmd
      exact ⟨.replay _, hwell⟩
    · rw [Except.ok.injEq] at hcmd
      rw [not_not, hclose] at hstate
      subst hcmd
      obtain ⟨hlogged, hrecorded⟩ := commandedTables_spec hwell halert command
      refine ⟨?_, hlogged.later rfl rfl le_rfl⟩
      rw [view_releaseClosedAlertState, hrecorded, hclose]
      exact .close _ _ _ hview hstate
    · rw [Except.ok.injEq] at hcmd
      have hacknowledge : command.action = .acknowledge := by
        cases haction : command.action with
        | acknowledge => rfl
        | close => exact absurd haction hclose
      rw [not_not, hacknowledge] at hstate
      subst hcmd
      obtain ⟨hlogged, hrecorded⟩ := commandedTables_spec hwell halert command
      refine ⟨?_, hlogged⟩
      rw [hrecorded, hacknowledge]
      exact .acknowledge _ _ _ hview hstate

/-! ## Runs -/

inductive AlertAction (F : Type) where
  /-- An event is processed under the rules and the context of that time. -/
  | process (rules : RuleBase F) (context : PersistedTelemetryContext) (event : TelemetryEvent F)
  | command (command : LifecycleCommand)

omit [PythonFloat F] in
def committed {ε : Type} (tables : AlertTables F)
    (outcome : Except ε (AlertTables F)) : AlertTables F :=
  match outcome with
  | .ok next => next
  | .error _ => tables

def alertStep (tables : AlertTables F) : AlertAction F → Option (AlertTables F)
  | .process rules context event =>
    some (committed tables (processEvent rules context tables event))
  | .command command => some (committed tables (transition tables command))

/-- No evaluation of the transaction resolves a resolved alert again. -/
def resolvesOnce (tables : AlertTables F) : AlertAction F → Prop
  | .process rules context event =>
    StepsMeet (fun current record => (evaluateRule event context current record).toOption)
      (fun current record => resolvesAgain current record context event = false)
      tables (matchingRules rules event context)
  | .command _ => True

instance (tables : AlertTables F) (action : AlertAction F) :
    Decidable (resolvesOnce tables action) :=
  match action with
  | .process .. => inferInstanceAs (Decidable (StepsMeet _ _ tables _))
  | .command _ => .isTrue trivial

theorem committed_processEvent_invariant {rules : RuleBase F}
    {tables : AlertTables F} {P : AlertTables F → Prop}
    (hpreserve : ∀ current record next, P current →
      resolvesAgain current record context event = false →
      evaluateRule event context current record = .ok next → P next)
    (honce : resolvesOnce tables (.process rules context event)) (htables : P tables) :
    P (committed tables (processEvent rules context tables event)) := by
  cases hprocess : processEvent rules context tables event with
  | error error => exact htables
  | ok next =>
    have hreach := Reaches.of_stepsMeet honce (runFrom_of_foldlM hprocess)
    refine hreach.invariant ?_ htables
    intro current record after hcur hguard hstep
    refine hpreserve current record after hcur hguard ?_
    cases heval : evaluateRule event context current record with
    | error error =>
      rw [heval] at hstep
      cases hstep
    | ok evaluated =>
      rw [heval] at hstep
      cases hstep
      rfl

structure AlertTables.Sound (tables : AlertTables F) : Prop where
  wellFormed : tables.WellFormed
  lifecycle : tables.view.Sound

omit [PythonFloat F] in
theorem AlertTables.Sound.empty : (AlertTables.empty F).Sound where
  wellFormed := ⟨nofun, nofun, nofun⟩
  lifecycle := ⟨nofun, nofun, nofun⟩

theorem AlertTables.Sound.evaluateRule {record : AlertRule × AlertRuleVersion F}
    (hsound : tables.Sound) (hagain : resolvesAgain tables record context event = false)
    (heval : evaluateRule event context tables record = .ok next) :
    next.Sound := by
  obtain ⟨hstep, hwell⟩ :=
    evaluateRule_step hsound.wellFormed hsound.lifecycle hagain heval
  exact ⟨hwell, hsound.lifecycle.observation hstep⟩

theorem AlertTables.Sound.step {action : AlertAction F} (hsound : tables.Sound)
    (honce : resolvesOnce tables action)
    (hstep : alertStep tables action = some next) : next.Sound := by
  cases action with
  | process rules context event =>
    cases hstep
    exact committed_processEvent_invariant (fun _ _ _ hcur hagain heval =>
        hcur.evaluateRule hagain heval) honce hsound
  | command command =>
    cases hstep
    cases hcmd : transition tables command with
    | error error => exact hsound
    | ok next =>
      obtain ⟨hcommandStep, hwell⟩ :=
        transition_step hsound.wellFormed hcmd
      exact ⟨hwell, hsound.lifecycle.command hcommandStep⟩

/-- The alert, its log and, until it is closed, the cooldown of its series are
those of the given tables. -/
structure FrozenAlert (tables next : AlertTables F) (id : RowId)
    (alert : LifecycleAlert EvaluationKey) : Prop where
  alert_same : next.view.alerts id = some alert
  log_same : rowsOf next.view.log id = rowsOf tables.view.log id
  cooldown_same : alert.state = .resolved →
    next.view.cooldownUntil alert.series = tables.view.cooldownUntil alert.series

theorem AlertTables.Sound.frozen {tables : AlertTables F} {rules : RuleBase F}
    (hsound : tables.Sound) (honce : resolvesOnce tables (.process rules context event))
    {id : RowId} {alert : LifecycleAlert EvaluationKey}
    (halert : tables.view.alerts id = some alert)
    (hfinished : alert.state = .resolved ∨ alert.state = .closed) :
    FrozenAlert tables (committed tables (processEvent rules context tables event)) id alert := by
  have hboth := committed_processEvent_invariant
    (P := fun current => current.Sound ∧ FrozenAlert tables current id alert)
    ?_ honce ⟨hsound, halert, rfl, fun _ => rfl⟩
  · exact hboth.2
  · rintro current record next ⟨hcur, hfrozen⟩ hagain heval
    obtain ⟨hstep, hwell⟩ := evaluateRule_step hcur.wellFormed hcur.lifecycle hagain heval
    obtain ⟨hsame, hlog, hcool⟩ := hcur.lifecycle.finished_frozen hstep hfrozen.alert_same hfinished
    refine ⟨⟨hwell, hcur.lifecycle.observation hstep⟩, hsame,
      hlog.trans hfrozen.log_same, fun hresd => ?_⟩
    exact (hcool hresd).trans (hfrozen.cooldown_same hresd)

/-- In every run whose evaluations resolve no alert twice, the log of each alert
is a path of the lifecycle with at most one resolution, and the next event of
such a run changes no alert which is resolved. -/
theorem alertLifecycle {tables : AlertTables F}
    (hreach : Reaches alertStep resolvesOnce (AlertTables.empty F) tables)
    {id : RowId} {alert : AlertInstance F}
    (halert : tables.alerts id = some alert) :
    LifecyclePath (rowsOf tables.view.log id) alert.state ∧
      resolutions (rowsOf tables.view.log id) ≤ 1 ∧
      (alert.state = .resolved ∨ alert.state = .closed → ∀ rules context event next,
          resolvesOnce tables (.process rules context event) →
          alertStep tables (.process rules context event) = some next →
          ∃ later, next.alerts id = some later ∧ later.state = alert.state ∧
            later.resolvedAt = alert.resolvedAt ∧
            later.lockVersion = alert.lockVersion ∧
            rowsOf next.view.log id = rowsOf tables.view.log id ∧
            (alert.state = .resolved →
              next.view.cooldownUntil (alert.ruleId, alert.resourceKey) =
                tables.view.cooldownUntil (alert.ruleId, alert.resourceKey))) := by
  have hsound : tables.Sound :=
    hreach.invariant (fun _ _ _ h honce hstep => h.step honce hstep) .empty
  have hview : tables.view.alerts id = some alert.lifecycle := by
    simp [AlertTables.view, halert]
  have hpath := hsound.lifecycle.logged hview
  refine ⟨hpath, hpath.resolutions_le_one, ?_⟩
  intro hfinished rules context event next honce hstep
  cases hstep
  have hfrozen := hsound.frozen honce hview hfinished
  obtain ⟨later, hlater, hlife⟩ :=
    Option.map_eq_some_iff.mp hfrozen.alert_same
  exact ⟨later, hlater, congrArg LifecycleAlert.state hlife,
    congrArg LifecycleAlert.resolvedAt hlife,
    congrArg LifecycleAlert.lockVersion hlife, hfrozen.log_same, hfrozen.cooldown_same⟩

def exampleRule : AlertRule × AlertRuleVersion FloatValue :=
  (⟨"rule-1", codePoints "org-1", true, "critical", none, none, none,
    "temperature.probe", none⟩,
  ⟨"rule-1-v1", "rule-1", 1, .thresholdHigh, .finite 25, .finite 20, 0, 0, 0, 60⟩)

def exampleContext : PersistedTelemetryContext :=
  ⟨codePoints "org-1", none, none, none, none⟩

def processReading (event : TelemetryEvent FloatValue) : AlertAction FloatValue :=
  .process [exampleRule] exampleContext event

def hotReading : TelemetryEvent FloatValue :=
  exampleReading firstEventId 1000000 (.finite 30) oneSecond_within

def coldReading : TelemetryEvent FloatValue :=
  exampleReading secondEventId 2000000 (.finite 10) twoSeconds_within

def nextColdReading : TelemetryEvent FloatValue :=
  exampleReading thirdEventId 3000000 (.finite 10) threeSeconds_within

/-- State, resolution time, lock version, number of `alert_resolved` rows and
cooldown of the series of an alert after a run. -/
def alertAfter (actions : List (AlertAction FloatValue)) (id : RowId) :
    Option (AlertState × Option Instant × ℕ × ℕ × Option Instant) := do
  let tables ← runFrom alertStep (AlertTables.empty FloatValue) actions
  let alert ← tables.alerts id
  return (alert.state, alert.resolvedAt, alert.lockVersion, resolutions (rowsOf tables.view.log id),
    tables.view.cooldownUntil (alert.ruleId, alert.resourceKey))

/-- A second clear reading resolves a resolved alert again and extends the
cooldown. -/
theorem alertResolved_twice :
    alertAfter [processReading hotReading, processReading coldReading] 1 =
        some (.resolved, some 2000000, 2, 1, some 62000000) ∧
      alertAfter [processReading hotReading, processReading coldReading,
          processReading nextColdReading] 1 =
        some (.resolved, some 3000000, 3, 2, some 63000000) := by
  constructor <;> decide +kernel

def closeCommand : LifecycleCommand where
  organizationId := codePoints "org-1"
  alertId := 1
  action := .close
  actorId := codePoints "operator-1"
  actorSource := codePoints "api"
  reason := none
  idempotencyKey := codePoints "close-1"
  occurredAt := 4000000

/-- The alert of a run in which it is resolved once and closed. -/
theorem alertLifecycle_closed :
    ∃ tables alert, runFrom alertStep (AlertTables.empty FloatValue)
        [processReading hotReading, processReading coldReading,
          .command closeCommand] = some tables ∧
      tables.alerts 1 = some alert ∧
      LifecyclePath (rowsOf tables.view.log 1) alert.state := by
  have hrun : ((runFrom alertStep (AlertTables.empty FloatValue)
      [processReading hotReading, processReading coldReading,
        .command closeCommand]).bind fun tables => tables.alerts 1).isSome := by
    decide +kernel
  have honce : StepsMeet alertStep resolvesOnce (AlertTables.empty FloatValue)
      [processReading hotReading, processReading coldReading,
        .command closeCommand] := by
    decide +kernel
  obtain ⟨alert, halert⟩ := Option.isSome_iff_exists.mp hrun
  obtain ⟨tables, htables, halertAt⟩ := Option.bind_eq_some_iff.mp halert
  exact ⟨tables, alert, htables, halertAt,
    (alertLifecycle (.of_stepsMeet honce htables) halertAt).1⟩

end Nexolab
