import Mathlib.Data.Prod.Lex
import Mathlib.Data.String.Basic
import Nexolab.AlertDomain
import Nexolab.OrderedDictionary

/-!
# The status of a daily report

`_alert_summary` selects the newest alerts of the equipment which were triggered
before the end of the window and not closed before its start, and replays their
transitions up to the end; `_build_payload` derives the status from the severities
of those which are open then.  The selection is bounded.
-/

namespace Nexolab

inductive AlertSeverity where
  | information
  | warning
  | alarm
  | critical
  | system
  deriving DecidableEq

def AlertSeverity.text : AlertSeverity → String
  | .information => "information"
  | .warning => "warning"
  | .alarm => "alarm"
  | .critical => "critical"
  | .system => "system"

/-- The columns of an alert which a report reads; identifiers are ordered. -/
structure ReportAlert (ι : Type) where
  id : ι
  (organizationId equipmentId channelId metric : String)
  severity : AlertSeverity
  triggeredAt : Instant
  (resolvedAt closedAt : Option Instant)
  deriving DecidableEq

structure ReportTransition (ι : Type) where
  (id alertId : ι)
  nextState : AlertState
  occurredAt : Instant

structure ReportChannel where
  (nodeId equipmentId channelId metric : String)

/-- The equipment of a report and the window it is about. -/
structure ReportScope where
  (organizationId equipmentId : String)
  controllerEquipmentId : Option String
  identities : List ReportChannel
  (windowStart windowEnd : Instant)

namespace ReportScope

variable {ι : Type} (scope : ReportScope)

def equipmentIds : List String :=
  scope.equipmentId :: scope.identities.map ReportChannel.equipmentId ++
    (scope.controllerEquipmentId.filter (· ≠ "")).toList

def channelIds : List String := scope.identities.map ReportChannel.channelId

def concerns (alert : ReportAlert ι) : Bool :=
  decide (alert.organizationId = scope.organizationId) &&
    (decide (alert.equipmentId ∈ scope.equipmentIds) ||
      decide (alert.channelId ∈ scope.channelIds))

def spans (alert : ReportAlert ι) : Bool :=
  decide (alert.triggeredAt < scope.windowEnd) &&
    alert.closedAt.all fun closedAt => decide (scope.windowStart ≤ closedAt)

end ReportScope

section Summary

variable {ι : Type}

def transitionsOf [DecidableEq ι] (scope : ReportScope)
    (alerts : List (ReportAlert ι)) (transitions : List (ReportTransition ι)) :
    List (ReportTransition ι) :=
  transitions.filter fun transition =>
    decide (transition.alertId ∈ alerts.map ReportAlert.id) &&
      decide (transition.occurredAt ≤ scope.windowEnd)

variable [LinearOrder ι]

def ReportAlert.NotOlder (first second : ReportAlert ι) : Prop :=
  toLex (second.triggeredAt, second.id) ≤ toLex (first.triggeredAt, first.id)

instance : DecidableRel (ReportAlert.NotOlder (ι := ι)) :=
  fun _ _ => inferInstanceAs (Decidable (toLex _ ≤ toLex _))

instance : Std.Total (ReportAlert.NotOlder (ι := ι)) := ⟨fun _ _ => le_total _ _⟩

instance : IsTrans (ReportAlert ι) ReportAlert.NotOlder :=
  ⟨fun _ _ _ hfirst hsecond => hsecond.trans hfirst⟩

def ReportTransition.NotLater (first second : ReportTransition ι) : Prop :=
  toLex (first.occurredAt, first.id) ≤ toLex (second.occurredAt, second.id)

instance : DecidableRel (ReportTransition.NotLater (ι := ι)) :=
  fun _ _ => inferInstanceAs (Decidable (toLex _ ≤ toLex _))

instance : Std.Total (ReportTransition.NotLater (ι := ι)) := ⟨fun _ _ => le_total _ _⟩

instance : IsTrans (ReportTransition ι) ReportTransition.NotLater :=
  ⟨fun _ _ _ hfirst hsecond => hfirst.trans hsecond⟩

variable (scope : ReportScope)

def alertLimit : ℕ := 50

def alertCandidates (alerts : List (ReportAlert ι)) : List (ReportAlert ι) :=
  alerts.filter fun alert => scope.concerns alert && scope.spans alert

def alertRows (alerts : List (ReportAlert ι)) : List (ReportAlert ι) :=
  ((alertCandidates scope alerts).insertionSort ReportAlert.NotOlder).take alertLimit

def stateAtEnd (alerts : List (ReportAlert ι))
    (transitions : List (ReportTransition ι)) : Dictionary ι AlertState :=
  let selected := transitionsOf scope (alertRows scope alerts) transitions
  (selected.insertionSort ReportTransition.NotLater).foldl
    (fun states transition => states.set transition.alertId transition.nextState) []

def activeAlerts (alerts : List (ReportAlert ι))
    (transitions : List (ReportTransition ι)) : List (ReportAlert ι) :=
  (alertRows scope alerts).filter fun row =>
    decide ((stateAtEnd scope alerts transitions).get? row.id ∈
      [some AlertState.active, some AlertState.acknowledged])

structure AlertSummaryItem (ι : Type) where
  id : ι
  severity : AlertSeverity
  (state equipmentId channelId metric : String)
  triggeredAt : Instant
  (resolvedAt closedAt : Option Instant)

structure AlertSummary (ι : Type) where
  (activeCount recentCount : ℕ)
  truncated : Bool
  activeSeverities : List AlertSeverity
  items : List (AlertSummaryItem ι)

def alertSummary (alerts : List (ReportAlert ι))
    (transitions : List (ReportTransition ι)) : AlertSummary ι :=
  let rows := alertRows scope alerts
  let active := activeAlerts scope alerts transitions
  { activeCount := active.length
    recentCount := rows.length
    truncated := decide (alertLimit ≤ rows.length)
    activeSeverities := (active.map ReportAlert.severity).dedup.mergeSort
      fun first second => decide (first.text ≤ second.text)
    items := (rows.take 20).map fun row => {
      id := row.id
      severity := row.severity
      state := (((stateAtEnd scope alerts transitions).get? row.id).map
        AlertState.text).getD "unknown"
      equipmentId := row.equipmentId
      channelId := row.channelId
      metric := row.metric
      triggeredAt := row.triggeredAt
      resolvedAt := row.resolvedAt.filter (· ≤ scope.windowEnd)
      closedAt := row.closedAt.filter (· ≤ scope.windowEnd) } }

end Summary

structure IntervalEvidence where
  available : Bool
  (requestedSeconds observedSeconds sourceGapSeconds : ℚ)
  continuityBreaks : ℕ

def IntervalEvidence.isComplete (evidence : IntervalEvidence) : Bool :=
  if evidence.requestedSeconds ≤ 0 ∨ evidence.observedSeconds ≤ 0 ∨
      evidence.sourceGapSeconds ≤ 0 ∨ 0 < evidence.continuityBreaks then false
  else decide (max 0 (evidence.requestedSeconds - evidence.observedSeconds) ≤
    evidence.sourceGapSeconds)

structure ControllerEvidence where
  controllerAvailable : Bool
  (compressor defrost : IntervalEvidence)

/-- What the other sections of a report say about its completeness. -/
structure ReportEvidence where
  (validChannels configuredChannels outOfLimitChannels : ℕ)
  controller : Option ControllerEvidence
  (energyConfigured energyAvailable : Bool)

def reasonIf (condition : Prop) [Decidable condition] (reason : String) : List String :=
  if condition then [reason] else []

def IntervalEvidence.reasons (evidence : IntervalEvidence) (name : String) :
    List String :=
  if evidence.available = false then [name ++ "_evidence_unavailable"]
  else reasonIf (evidence.isComplete = false) (name ++ "_coverage_incomplete")

def incompleteReasons (evidence : ReportEvidence) (truncated : Bool) : List String :=
  reasonIf (evidence.validChannels < evidence.configuredChannels) "m_packet_coverage_incomplete" ++
    (match evidence.controller with
      | none => ["controller_not_bound"]
      | some controller =>
        reasonIf (controller.controllerAvailable = false) "controller_state_unavailable" ++
        controller.compressor.reasons "compressor" ++
        controller.defrost.reasons "defrost") ++
    reasonIf (evidence.energyConfigured = true ∧ evidence.energyAvailable = false)
      "energy_evidence_unavailable" ++
    reasonIf (truncated = true) "alert_history_truncated"

inductive ReportStatus where
  | critical
  | attention
  | incomplete
  | normal
  deriving DecidableEq

def overallStatus {ι : Type} (evidence : ReportEvidence) (summary : AlertSummary ι) :
    ReportStatus :=
  if .critical ∈ summary.activeSeverities ∨ .alarm ∈ summary.activeSeverities then
    .critical
  else if .warning ∈ summary.activeSeverities ∨ 0 < evidence.outOfLimitChannels then
    .attention
  else if incompleteReasons evidence summary.truncated ≠ [] then .incomplete
  else .normal

theorem mem_take_iff {α : Type*} {R : α → α → Prop} [DecidableRel R]
    (hirrefl : ∀ item, ¬ R item item) (hasymm : ∀ first second, R first second → ¬ R second first)
    {items : List α} (hsorted : items.Pairwise R) (limit : ℕ) {item : α} (hmem : item ∈ items) :
    item ∈ items.take limit ↔ items.countP (fun other => R other item) < limit := by
  induction items generalizing limit with
  | nil => cases hmem
  | cons first rest ih =>
    obtain ⟨hfirst, hrest⟩ := List.pairwise_cons.mp hsorted
    cases limit with
    | zero => simp
    | succ limit =>
      rw [List.take_succ_cons, List.countP_cons]
      rcases List.mem_cons.mp hmem with rfl | hlater
      · have hnone : rest.countP (fun other => R other item) = 0 := by
          rw [List.countP_eq_zero]
          intro other hother
          simpa using hasymm item other (hfirst other hother)
        simp [hnone, hirrefl]
      · have hne : item ≠ first := by
          rintro rfl
          exact hirrefl item (hfirst item hlater)
        simp [hne, ih hrest limit hlater, hfirst item hlater]

/-! ## The state at the end of the window -/

section Status

variable {ι : Type} [LinearOrder ι] {scope : ReportScope}
  {alerts : List (ReportAlert ι)} {transitions : List (ReportTransition ι)}

/-- The last transition of an alert up to the end left it active or
acknowledged. -/
def OpenAtEnd (scope : ReportScope) (transitions : List (ReportTransition ι))
    (alertId : ι) : Prop :=
  ∃ last ∈ transitions, last.alertId = alertId ∧ last.occurredAt ≤ scope.windowEnd ∧
    (last.nextState = .active ∨ last.nextState = .acknowledged) ∧
    ∀ other ∈ transitions, other.alertId = alertId →
      other.occurredAt ≤ scope.windowEnd → other.NotLater last

instance (scope : ReportScope) (transitions : List (ReportTransition ι)) (alertId : ι) :
    Decidable (OpenAtEnd scope transitions alertId) :=
  inferInstanceAs (Decidable (∃ last ∈ transitions, _))

def RaisesCritical (scope : ReportScope) (transitions : List (ReportTransition ι))
    (alert : ReportAlert ι) : Prop :=
  scope.concerns alert = true ∧ (alert.severity = .critical ∨ alert.severity = .alarm) ∧
    OpenAtEnd scope transitions alert.id

instance (scope : ReportScope) (transitions : List (ReportTransition ι)) :
    DecidablePred (RaisesCritical scope transitions) :=
  fun _ => inferInstanceAs (Decidable (_ ∧ _))

def ReportAlert.Newer (first second : ReportAlert ι) : Prop :=
  toLex (second.triggeredAt, second.id) < toLex (first.triggeredAt, first.id)

instance : DecidableRel (ReportAlert.Newer (ι := ι)) :=
  fun _ _ => inferInstanceAs (Decidable (toLex _ < toLex _))

/-- The alert spans the window, and fewer newer ones do than the selection
holds. -/
def IsSelected (scope : ReportScope) (alerts : List (ReportAlert ι))
    (alert : ReportAlert ι) : Prop :=
  scope.spans alert = true ∧
    (alertCandidates scope alerts).countP (fun other => other.Newer alert) < alertLimit

instance (scope : ReportScope) (alerts : List (ReportAlert ι)) :
    DecidablePred (IsSelected scope alerts) :=
  fun _ => inferInstanceAs (Decidable (_ ∧ _))

theorem get?_replay (sorted : List (ReportTransition ι)) (alertId : ι) :
    Dictionary.get? (sorted.foldl
      (fun states transition => states.set transition.alertId transition.nextState)
      []) alertId =
      ((sorted.filter fun transition => transition.alertId = alertId).getLast?).map
        ReportTransition.nextState := by
  induction sorted using List.reverseRecOn with
  | nil => rfl
  | append_singleton init last ih =>
    rw [List.foldl_append, List.foldl_cons, List.foldl_nil, Dictionary.get?_set, List.filter_append]
    by_cases hsame : last.alertId = alertId
    · simp [hsame]
    · simp [hsame, ih]

theorem pairwise_getLast? {α : Type*} {R : α → α → Prop} (hrefl : ∀ item, R item item)
    {items : List α} (hsorted : items.Pairwise R) {last : α}
    (hlast : items.getLast? = some last) : ∀ item ∈ items, R item last := by
  obtain ⟨init, rfl⟩ := List.getLast?_eq_some_iff.mp hlast
  intro item hitem
  rcases List.mem_append.mp hitem with hinit | hend
  · exact (List.pairwise_append.mp hsorted).2.2 item hinit last (by simp)
  · rw [List.mem_singleton.mp hend]
    exact hrefl last

def replayed (scope : ReportScope) (alerts : List (ReportAlert ι))
    (transitions : List (ReportTransition ι)) (alertId : ι) :
    List (ReportTransition ι) :=
  ((transitionsOf scope (alertRows scope alerts) transitions).insertionSort
    ReportTransition.NotLater).filter fun transition => transition.alertId = alertId

theorem mem_replayed_iff {row : ReportAlert ι} (hrow : row ∈ alertRows scope alerts)
    {transition : ReportTransition ι} :
    transition ∈ replayed scope alerts transitions row.id ↔
      transition ∈ transitions ∧ transition.alertId = row.id ∧
        transition.occurredAt ≤ scope.windowEnd := by
  have hid : row.id ∈ (alertRows scope alerts).map ReportAlert.id :=
    List.mem_map_of_mem hrow
  unfold replayed transitionsOf
  simp only [List.mem_filter, List.mem_insertionSort, Bool.and_eq_true,
    decide_eq_true_eq]
  constructor
  · rintro ⟨⟨hmem, _, hbefore⟩, hsame⟩
    exact ⟨hmem, hsame, hbefore⟩
  · rintro ⟨hmem, hsame, hbefore⟩
    rw [hsame]
    exact ⟨⟨hmem, hid, hbefore⟩, rfl⟩

theorem stateAtEnd_open_iff (hids : (transitions.map ReportTransition.id).Nodup)
    {row : ReportAlert ι} (hrow : row ∈ alertRows scope alerts) :
    (stateAtEnd scope alerts transitions).get? row.id ∈
        [some AlertState.active, some AlertState.acknowledged] ↔
      OpenAtEnd scope transitions row.id := by
  have hget : (stateAtEnd scope alerts transitions).get? row.id =
      ((replayed scope alerts transitions row.id).getLast?).map
        ReportTransition.nextState := get?_replay _ row.id
  have hsorted : (replayed scope alerts transitions row.id).Pairwise
      ReportTransition.NotLater := (List.pairwise_insertionSort _ _).filter _
  have hlater : ∀ {last}, (replayed scope alerts transitions row.id).getLast? =
      some last → ∀ item ∈ replayed scope alerts transitions row.id, item.NotLater last :=
    fun hlast => pairwise_getLast? (R := ReportTransition.NotLater)
      (fun transition => le_refl (toLex (transition.occurredAt, transition.id)))
      hsorted hlast
  rw [hget]
  constructor
  · intro hopen
    cases hlast : (replayed scope alerts transitions row.id).getLast? with
    | none => simp [hlast] at hopen
    | some last =>
      obtain ⟨hmem, hsame, hbefore⟩ :=
        (mem_replayed_iff hrow).mp (List.mem_of_getLast? hlast)
      refine ⟨last, hmem, hsame, hbefore, ?_, ?_⟩
      · simpa [hlast] using hopen
      · intro other hother hotherSame hotherBefore
        exact hlater hlast other ((mem_replayed_iff hrow).mpr ⟨hother, hotherSame, hotherBefore⟩)
  · rintro ⟨last, hmem, hsame, hbefore, hstate, hmax⟩
    have hlastMem : last ∈ replayed scope alerts transitions row.id :=
      (mem_replayed_iff hrow).mpr ⟨hmem, hsame, hbefore⟩
    cases hfound : (replayed scope alerts transitions row.id).getLast? with
    | none =>
      rw [List.getLast?_eq_none_iff] at hfound
      rw [hfound] at hlastMem
      cases hlastMem
    | some found =>
      obtain ⟨hfoundMem, hfoundSame, hfoundBefore⟩ :=
        (mem_replayed_iff hrow).mp (List.mem_of_getLast? hfound)
      have hequal : last = found := by
        have hkey := le_antisymm (hlater hfound last hlastMem)
          (hmax found hfoundMem hfoundSame hfoundBefore)
        exact List.inj_on_of_nodup_map hids hmem hfoundMem
          (congrArg Prod.snd (toLex.injective hkey))
      subst hequal
      simpa using hstate

theorem mem_alertRows_iff (hids : (alerts.map ReportAlert.id).Nodup)
    {alert : ReportAlert ι} (hmem : alert ∈ alerts) (hconcerns : scope.concerns alert = true) :
    alert ∈ alertRows scope alerts ↔ IsSelected scope alerts alert := by
  have hperm := List.perm_insertionSort ReportAlert.NotOlder (alertCandidates scope alerts)
  have hinAlerts : ∀ other ∈ alertCandidates scope alerts, other ∈ alerts :=
    fun other hother => List.mem_of_mem_filter hother
  have hdist : ((alertCandidates scope alerts).insertionSort ReportAlert.NotOlder).Nodup :=
    hperm.nodup_iff.mpr ((List.Nodup.of_map _ hids).filter _)
  -- Distinct identifiers make the order of the rows a strict one.
  have hsorted : ((alertCandidates scope alerts).insertionSort
      ReportAlert.NotOlder).Pairwise ReportAlert.Newer := by
    refine ((List.pairwise_insertionSort ReportAlert.NotOlder _).and hdist).imp_of_mem ?_
    intro first second hfirst hsecond hboth
    refine lt_of_le_of_ne hboth.1 fun hkey => hboth.2 ?_
    refine List.inj_on_of_nodup_map hids (hinAlerts _ (hperm.mem_iff.mp hfirst))
      (hinAlerts _ (hperm.mem_iff.mp hsecond)) ?_
    exact (congrArg Prod.snd (toLex.injective hkey)).symm
  have hcand : alert ∈ alertCandidates scope alerts ↔ scope.spans alert = true := by
    unfold alertCandidates
    rw [List.mem_filter, Bool.and_eq_true]
    exact ⟨fun hboth => hboth.2.2, fun hspans => ⟨hmem, hconcerns, hspans⟩⟩
  unfold alertRows IsSelected
  by_cases hspans : scope.spans alert = true
  · have hin := hperm.mem_iff.mpr (hcand.mpr hspans)
    rw [mem_take_iff (R := ReportAlert.Newer)
      (fun item => lt_irrefl (toLex (item.triggeredAt, item.id)))
      (fun first second hbefore => lt_asymm hbefore) hsorted alertLimit hin,
      hperm.countP_eq]
    simp [hspans]
  · constructor
    · intro hrow
      exact absurd (hcand.mp (hperm.mem_iff.mp (List.mem_of_mem_take hrow))) hspans
    · exact fun hsel => absurd hsel.1 hspans

theorem mem_activeAlerts_iff (hevents : (transitions.map ReportTransition.id).Nodup)
    {alert : ReportAlert ι} :
    alert ∈ activeAlerts scope alerts transitions ↔
      alert ∈ alertRows scope alerts ∧ OpenAtEnd scope transitions alert.id := by
  unfold activeAlerts
  rw [List.mem_filter, decide_eq_true_eq]
  exact and_congr_right fun hrow => stateAtEnd_open_iff hevents hrow

omit [LinearOrder ι] in
theorem overallStatus_eq_critical {evidence : ReportEvidence} {summary : AlertSummary ι} :
    overallStatus evidence summary = .critical ↔
      .critical ∈ summary.activeSeverities ∨ .alarm ∈ summary.activeSeverities := by
  unfold overallStatus
  by_cases hcritical :
      .critical ∈ summary.activeSeverities ∨ .alarm ∈ summary.activeSeverities
  · simp [hcritical]
  · rw [if_neg hcritical]
    simp only [hcritical, iff_false]
    split_ifs <;> simp

theorem overallStatus_critical_iff (hids : (alerts.map ReportAlert.id).Nodup)
    (hevents : (transitions.map ReportTransition.id).Nodup) (evidence : ReportEvidence) :
    overallStatus evidence (alertSummary scope alerts transitions) = .critical ↔
      ∃ alert ∈ alerts, RaisesCritical scope transitions alert ∧ IsSelected scope alerts alert := by
  have hseverities : ∀ severity,
      severity ∈ (alertSummary scope alerts transitions).activeSeverities ↔
        ∃ alert ∈ activeAlerts scope alerts transitions, alert.severity = severity := by
    intro severity
    simp [alertSummary, List.mem_mergeSort]
  rw [overallStatus_eq_critical, hseverities, hseverities]
  constructor
  · intro hopen
    obtain ⟨alert, hact, hseverity⟩ : ∃ alert ∈ activeAlerts scope alerts transitions,
        alert.severity = .critical ∨ alert.severity = .alarm := by
      rcases hopen with ⟨alert, hact, hseverity⟩ | ⟨alert, hact, hseverity⟩
      · exact ⟨alert, hact, .inl hseverity⟩
      · exact ⟨alert, hact, .inr hseverity⟩
    obtain ⟨hrow, hopenAtEnd⟩ := (mem_activeAlerts_iff hevents).mp hact
    have hcand : alert ∈ alertCandidates scope alerts :=
      (List.mem_insertionSort _).mp (List.mem_of_mem_take hrow)
    obtain ⟨hmem, hfilter⟩ := List.mem_filter.mp hcand
    rw [Bool.and_eq_true] at hfilter
    exact ⟨alert, hmem, ⟨hfilter.1, hseverity, hopenAtEnd⟩,
      (mem_alertRows_iff hids hmem hfilter.1).mp hrow⟩
  · rintro ⟨alert, hmem, ⟨hconcerns, hseverity, hopenAtEnd⟩, hsel⟩
    have hact := (mem_activeAlerts_iff hevents).mpr
      ⟨(mem_alertRows_iff hids hmem hconcerns).mpr hsel, hopenAtEnd⟩
    rcases hseverity with hcritical | halarm
    · exact .inl ⟨alert, hact, hcritical⟩
    · exact .inr ⟨alert, hact, halarm⟩

/-- Every alert which is critical or an alarm and open at the end of the window makes
the status critical, exactly when one of these alerts is selected wherever there is
one. -/
theorem status_critical_of_open_iff (hids : (alerts.map ReportAlert.id).Nodup)
    (hevents : (transitions.map ReportTransition.id).Nodup)
    (evidence : ReportEvidence) :
    (∀ alert ∈ alerts, RaisesCritical scope transitions alert →
        overallStatus evidence (alertSummary scope alerts transitions) = .critical) ↔
      ∀ alert ∈ alerts, RaisesCritical scope transitions alert →
        ∃ selected ∈ alerts, RaisesCritical scope transitions selected ∧
          IsSelected scope alerts selected := by
  rw [overallStatus_critical_iff hids hevents]

end Status

/-! ### Fifty newer alerts -/

def cabinetScope : ReportScope where
  organizationId := "plant"
  equipmentId := "cabinet"
  controllerEquipmentId := none
  identities := []
  windowStart := 0
  windowEnd := 1000

def cabinetAlert (number : ℕ) (severity : AlertSeverity) : ReportAlert ℕ where
  id := number
  organizationId := "plant"
  equipmentId := "cabinet"
  channelId := "t1"
  metric := "temperature"
  severity
  triggeredAt := number
  resolvedAt := none
  closedAt := none

def crowdedAlerts (newer : ℕ) : List (ReportAlert ℕ) :=
  cabinetAlert 0 .critical ::
    (List.range newer).map fun number => cabinetAlert (number + 1) .information

def triggeredTransitions (newer : ℕ) : List (ReportTransition ℕ) :=
  (List.range (newer + 1)).map fun number => ⟨number, number, .active, number⟩

def completeEvidence : ReportEvidence := ⟨1, 1, 0, none, false, false⟩

theorem status_critical_of_open_iff_crowded :
    overallStatus completeEvidence
      (alertSummary cabinetScope (crowdedAlerts 49) (triggeredTransitions 49)) =
        .critical :=
  have hids : ((crowdedAlerts 49).map ReportAlert.id).Nodup := by decide +kernel
  have hevents : ((triggeredTransitions 49).map ReportTransition.id).Nodup := by
    decide +kernel
  (status_critical_of_open_iff hids hevents completeEvidence).mpr (by decide +kernel)
    (cabinetAlert 0 .critical) (by decide +kernel) (by decide +kernel)

/-- With fifty newer alerts the critical one is not selected. -/
theorem crowdedAlerts_hide_critical :
    (∃ alert ∈ crowdedAlerts 50,
      RaisesCritical cabinetScope (triggeredTransitions 50) alert) ∧
      overallStatus completeEvidence
        (alertSummary cabinetScope (crowdedAlerts 50) (triggeredTransitions 50)) =
          .incomplete := by
  decide +kernel

end Nexolab
