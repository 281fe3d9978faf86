import Nexolab.AlertLifecycle

/-!
# Redelivered events

The durable worker runs the alert processing again for every redelivery of a
stored event.  An evaluation ignores an event which is the last one of its
series or older than it.  A redelivered event which shares its instant with a
later event of the series is neither, so it is evaluated again.
`redeliveryIgnored` excludes that case, and redeliveries are transparent exactly
in the runs which meet it.
-/

namespace Nexolab

variable {F : Type}

/-! ## What an evaluation remembers of its series -/

def lastSeen (tables : AlertTables F) (key : EvaluationKey) :
    Option (Option String × Option Instant) :=
  (tables.states key).map fun state =>
    (state.snapshot.lastEventId, state.snapshot.lastCapturedAt)

def seenAs (event : TelemetryEvent F) : Option (Option String × Option Instant) :=
  some (some event.eventId.text, some event.capturedAt)

/-- An evaluation of the event ignores it, by what its series has seen. -/
def ignoredAfter (seen : Option (Option String × Option Instant))
    (event : TelemetryEvent F) : Bool :=
  match seen with
  | none => false
  | some (lastEventId, lastCapturedAt) =>
    lastEventId = some event.eventId.text ||
      match lastCapturedAt with
      | none => false
      | some lastCapturedAt => event.capturedAt < lastCapturedAt

theorem ignoredAfter_of_state {tables : AlertTables F} {key : EvaluationKey}
    {state : AlertEvaluationState F} (hstate : tables.states key = some state)
    (event : TelemetryEvent F) :
    ignoredAfter (lastSeen tables key) event =
      !acceptedBy state.snapshot (observationOf event) := by
  simp only [ignoredAfter, lastSeen, hstate, acceptedBy, olderThanWatermark,
    observationOf, Option.map_some]
  by_cases hsame : state.snapshot.lastEventId = some event.eventId.text
  · simp [hsame]
  · cases state.snapshot.lastCapturedAt with
    | none => simp [hsame]
    | some lastCapturedAt =>
      simp only [hsame, decide_false, Bool.false_or, ne_eq, not_false_eq_true,
        decide_true, Bool.true_and, Bool.not_not]
      exact decide_eq_decide.mpr Iff.rfl

theorem lastSeen_eq_of_states {tables next : AlertTables F}
    (hstates : next.states = tables.states) : lastSeen next = lastSeen tables := by
  funext key
  simp [lastSeen, hstates]

theorem lastSeen_applySnapshot (tables : AlertTables F) (key : EvaluationKey)
    (state : AlertEvaluationState F) (snapshot : AlertEvaluationSnapshot F) (updatedAt : Instant) :
    lastSeen (applySnapshot tables key state snapshot updatedAt) =
      Function.update (lastSeen tables) key
        (some (snapshot.lastEventId, snapshot.lastCapturedAt)) := by
  funext other
  by_cases hother : other = key
  · subst hother
    simp [lastSeen, applySnapshot, AlertTables.setState]
  · simp [lastSeen, applySnapshot, AlertTables.setState, Function.update_of_ne hother]

variable {result : AlertEvaluationResult F} {version : AlertRuleVersion F}
  {snapshot : AlertEvaluationSnapshot F} {record : AlertRule × AlertRuleVersion F}

variable [PythonFloat F]

theorem applyResult_lastSeen {tables next : AlertTables F} {rule : AlertRule}
    {event : TelemetryEvent F}
    {context : PersistedTelemetryContext} {state : AlertEvaluationState F}
    (hacc : Accepted snapshot (observationOf event) result)
    (happly : applyResult tables rule version event context state result = .ok next) :
    lastSeen next = Function.update (lastSeen tables)
      (rule.id, resourceKey event context) (seenAs event) := by
  have hwritten : ∀ {before : AlertTables F} {activeAlertId : Option RowId},
      before.states = tables.states →
      lastSeen (applySnapshot before (rule.id, resourceKey event context) state
        { result.snapshot with activeAlertId }
        event.capturedAt) =
      Function.update (lastSeen tables) (rule.id, resourceKey event context) (seenAs event) := by
    intro before activeAlertId hstates
    rw [lastSeen_applySnapshot, lastSeen_eq_of_states hstates, hacc.event_seen, hacc.instant_seen]
    rfl
  unfold applyResult at happly
  dsimp only at happly
  by_cases htrig : result.decision = .trigger
  · rw [if_pos htrig, bind_eq_ok] at happly
    obtain ⟨⟨triggered, alertId⟩, htriggered, happly⟩ := happly
    cases happly
    exact hwritten (triggerAlert_writes htriggered).2.1
  · rw [if_neg htrig] at happly
    split at happly
    next =>
      cases happly
      exact hwritten rfl
    next alert _ =>
      rw [bind_eq_ok] at happly
      obtain ⟨⟨touched, current⟩, htouched, happly⟩ := happly
      have htouchedStates := (touchAlert_writes htouched).2.1
      dsimp only at happly
      split_ifs at happly
      · rw [bind_eq_ok] at happly
        obtain ⟨resolved, hresd, happly⟩ := happly
        cases happly
        refine hwritten ?_
        rw [(addTransition_spec hresd).1]
        exact htouchedStates
      · cases happly
        exact hwritten htouchedStates

theorem loadState_lastSeen {tables loaded : AlertTables F} {key : EvaluationKey}
    {context : PersistedTelemetryContext} {event : TelemetryEvent F}
    {state : AlertEvaluationState F}
    (hload : loadState tables key context event = (loaded, state)) :
    (tables.states key = some state ∧ loaded = tables) ∨
      (tables.states key = none ∧ state.snapshot.lastEventId = none ∧
        state.snapshot.lastCapturedAt = none ∧
        ∀ other ≠ key, lastSeen loaded other = lastSeen tables other) := by
  unfold loadState at hload
  split at hload
  next found hfound =>
    cases hload
    exact .inl ⟨hfound, rfl⟩
  next hnone =>
    cases hload
    refine .inr ⟨hnone, rfl, rfl, ?_⟩
    intro other hother
    simp [lastSeen, AlertTables.setState, Function.update_of_ne hother]

/-- The effect of evaluating one rule on what its series has seen. -/
inductive SeenEffect (tables next : AlertTables F) (key : EvaluationKey)
    (event : TelemetryEvent F) : Prop
  | ignored :
      ignoredAfter (lastSeen tables key) event = true → next = tables →
      SeenEffect tables next key event
  | seen :
      ignoredAfter (lastSeen tables key) event = false →
      lastSeen next = Function.update (lastSeen tables) key (seenAs event) →
      SeenEffect tables next key event

def seriesKey (record : AlertRule × AlertRuleVersion F)
    (event : TelemetryEvent F) (context : PersistedTelemetryContext) :
    EvaluationKey :=
  (record.1.id, resourceKey event context)

theorem evaluateRule_seen {tables next : AlertTables F}
    {context : PersistedTelemetryContext} {event : TelemetryEvent F}
    (heval : evaluateRule event context tables record = .ok next) :
    SeenEffect tables next (seriesKey record event context) event := by
  obtain ⟨rule, version⟩ := record
  unfold evaluateRule at heval
  dsimp only at heval
  cases hload : loadState tables (rule.id, resourceKey event context) context event with
  | mk loaded state =>
    rw [hload] at heval
    dsimp only at heval
    rw [bind_eq_ok] at heval
    obtain ⟨configuration, _, heval⟩ := heval
    rw [bind_eq_ok] at heval
    obtain ⟨result, hres, heval⟩ := heval
    have hout := evaluateThreshold_outcome hres
    by_cases hignored : result.decision = .ignoreDuplicate ∨ result.decision = .ignoreOutOfOrder
    · rw [if_pos hignored, pure_eq_ok] at heval
      subst heval
      have hrejected : acceptedBy state.snapshot (observationOf event) = false := by
        cases hout with
        | ignored _ h => exact h
        | triggered _ h => simp [h] at hignored
        | resolved _ _ h => simp [h] at hignored
        | noted _ h h' => simp [h, h'] at hignored
      rcases loadState_lastSeen hload with ⟨hstate, hloaded⟩ |
        ⟨_, hnoEvent, hnoInstant, _⟩
      · refine .ignored ?_ hloaded
        unfold seriesKey
        rw [ignoredAfter_of_state hstate, hrejected]
        rfl
      · simp [acceptedBy, olderThanWatermark, hnoEvent, hnoInstant] at hrejected
    · rw [if_neg hignored] at heval
      have hacc : Accepted state.snapshot (observationOf event) result := by
        cases hout with
        | ignored h => exact absurd h hignored
        | triggered h => exact h
        | resolved _ h => exact h
        | noted h => exact h
      have hseen := applyResult_lastSeen hacc heval
      rcases loadState_lastSeen hload with ⟨hstate, hloaded⟩ |
        ⟨hnone, _, _, hothers⟩
      · subst hloaded
        refine .seen ?_ hseen
        unfold seriesKey
        rw [ignoredAfter_of_state hstate, hacc.accepted]
        rfl
      · refine .seen (by simp [ignoredAfter, lastSeen, seriesKey, hnone]) ?_
        rw [hseen]
        funext other
        by_cases hother : other = (rule.id, resourceKey event context)
        · subst hother
          simp [seriesKey]
        · simp [seriesKey, Function.update_of_ne hother, hothers other hother]

theorem evaluateThreshold_ignored {observation : TelemetryObservation F}
    (configuration : AlertRuleConfiguration F)
    (hrejected : acceptedBy snapshot observation = false) :
    ∃ result, evaluateThreshold configuration snapshot observation = .ok result ∧
      (result.decision = .ignoreDuplicate ∨
        result.decision = .ignoreOutOfOrder) := by
  unfold evaluateThreshold
  by_cases hdup : snapshot.lastEventId = some observation.eventId
  · exact ⟨_, if_pos hdup, .inl rfl⟩
  · have hold : olderThanWatermark snapshot observation.capturedAt = true := by
      simpa [acceptedBy, hdup] using hrejected
    rw [if_neg hdup, if_pos hold]
    exact ⟨_, rfl, .inr rfl⟩

theorem evaluateRule_ignored {tables : AlertTables F}
    {context : PersistedTelemetryContext} {event : TelemetryEvent F}
    {configuration : AlertRuleConfiguration F} (hconf : record.2.configuration = .ok configuration)
    (hignored : ignoredAfter (lastSeen tables (seriesKey record event context)) event = true) :
    evaluateRule event context tables record = .ok tables := by
  obtain ⟨rule, version⟩ := record
  cases hstate : tables.states (rule.id, resourceKey event context) with
  | none => simp [ignoredAfter, lastSeen, seriesKey, hstate] at hignored
  | some state =>
    have hrejected : acceptedBy state.snapshot (observationOf event) = false := by
      unfold seriesKey at hignored
      rw [ignoredAfter_of_state hstate] at hignored
      simpa using hignored
    have hload : loadState tables (rule.id, resourceKey event context) context
        event = (tables, state) := by
      simp [loadState, hstate]
    obtain ⟨result, hres, hdec⟩ := evaluateThreshold_ignored configuration hrejected
    unfold evaluateRule
    dsimp only at hconf ⊢
    rw [hload, hconf]
    dsimp only [bind, Except.bind]
    rw [hres]
    dsimp only
    rw [if_pos hdec]
    rfl

theorem evaluateRule_configuration {tables next : AlertTables F}
    {context : PersistedTelemetryContext} {event : TelemetryEvent F}
    (heval : evaluateRule event context tables record = .ok next) :
    ∃ configuration, record.2.configuration = .ok configuration := by
  obtain ⟨rule, version⟩ := record
  unfold evaluateRule at heval
  dsimp only at heval
  rw [bind_eq_ok] at heval
  obtain ⟨configuration, hconf, _⟩ := heval
  exact ⟨configuration, hconf⟩

section Processing

omit [PythonFloat F]

variable {tables next : AlertTables F} {key : EvaluationKey}
  {event : TelemetryEvent F}

theorem SeenEffect.same_or_seen (heff : SeenEffect tables next key event) (other : EvaluationKey) :
    lastSeen next other = lastSeen tables other ∨ lastSeen next other = seenAs event := by
  cases heff with
  | ignored _ hnext => exact .inl (by rw [hnext])
  | seen _ hseen =>
    rw [hseen]
    by_cases hother : other = key
    · subst hother
      exact .inr (Function.update_self ..)
    · exact .inl (Function.update_of_ne hother ..)

theorem SeenEffect.keeps_seen (heff : SeenEffect tables next key event)
    {other : EvaluationKey} (hseen : lastSeen tables other = seenAs event) :
    lastSeen next other = seenAs event := by
  rcases heff.same_or_seen other with hsame | hnew
  · exact hsame.trans hseen
  · exact hnew

def SeenUpTo (seen : Option (Option String × Option Instant)) (instant : Instant) : Prop :=
  ∃ lastEventId lastCapturedAt,
    seen = some (lastEventId, some lastCapturedAt) ∧ instant ≤ lastCapturedAt

theorem SeenEffect.keeps_seenUpTo (heff : SeenEffect tables next key event)
    {other : EvaluationKey} {instant : Instant} (hseen : SeenUpTo (lastSeen tables other) instant) :
    SeenUpTo (lastSeen next other) instant := by
  cases heff with
  | ignored _ hnext =>
    rw [hnext]
    exact hseen
  | seen hacc hupdate =>
    rw [hupdate]
    by_cases hother : other = key
    · subst hother
      obtain ⟨lastEventId, lastCapturedAt, hlast, hle⟩ := hseen
      simp only [ignoredAfter, hlast, Bool.or_eq_false_iff,
        decide_eq_false_iff_not, not_lt] at hacc
      exact ⟨_, _, Function.update_self .., hle.trans hacc.2⟩
    · rw [Function.update_of_ne hother]
      exact hseen

theorem seenUpTo_of_ignored {seen : Option (Option String × Option Instant)}
    (hignored : ignoredAfter seen event = true)
    (hown : ∀ instant, seen = some (some event.eventId.text, instant) →
      instant = some event.capturedAt) :
    SeenUpTo seen event.capturedAt := by
  obtain _ | ⟨lastEventId, lastCapturedAt⟩ := seen
  · cases hignored
  · simp only [ignoredAfter, Bool.or_eq_true, decide_eq_true_eq] at hignored
    rcases hignored with hsame | holder
    · subst hsame
      exact ⟨_, _, by rw [hown lastCapturedAt rfl], le_rfl⟩
    · cases lastCapturedAt with
      | none => cases holder
      | some lastCapturedAt =>
        exact ⟨_, _, rfl, (of_decide_eq_true holder).le⟩

end Processing

section Folding

variable {tables next : AlertTables F} {event : TelemetryEvent F}
  {context : PersistedTelemetryContext}
  {records : List (AlertRule × AlertRuleVersion F)}

theorem foldlM_seen (hfold : records.foldlM (evaluateRule event context) tables = .ok next)
    {record : AlertRule × AlertRuleVersion F} (hrec : record ∈ records)
    (hacc : ignoredAfter (lastSeen tables (seriesKey record event context)) event = false) :
    lastSeen next (seriesKey record event context) = seenAs event := by
  have hkeeps : ∀ {first last : AlertTables F}
      {rest : List (AlertRule × AlertRuleVersion F)},
      rest.foldlM (evaluateRule event context) first = .ok last →
      lastSeen first (seriesKey record event context) = seenAs event →
      lastSeen last (seriesKey record event context) = seenAs event := by
    intro first last rest hrest hfirst
    exact foldlM_invariant (P := fun current =>
        lastSeen current (seriesKey record event context) = seenAs event)
      (fun _ _ _ hseen hstep => (evaluateRule_seen hstep).keeps_seen hseen)
      hrest hfirst
  induction records generalizing tables with
  | nil => cases hrec
  | cons head rest ih =>
    obtain ⟨middle, hmiddle, hrest⟩ := foldlM_cons_eq_ok.mp hfold
    have heff := evaluateRule_seen hmiddle
    rcases List.mem_cons.mp hrec with rfl | hmem
    · cases heff with
      | ignored hignored _ =>
        rw [hacc] at hignored
        cases hignored
      | seen _ hseen =>
        refine hkeeps hrest ?_
        rw [hseen]
        exact Function.update_self ..
    · rcases heff.same_or_seen (seriesKey record event context) with
        hsame | hnew
      · exact ih hrest hmem (by rw [hsame]; exact hacc)
      · exact hkeeps hrest hnew

theorem foldlM_seenUpTo (hfold : records.foldlM (evaluateRule event context) tables = .ok next)
    (hown : ∀ key instant, lastSeen tables key = some (some event.eventId.text, instant) →
      instant = some event.capturedAt)
    {record : AlertRule × AlertRuleVersion F} (hrec : record ∈ records) :
    SeenUpTo (lastSeen next (seriesKey record event context)) event.capturedAt := by
  induction records generalizing tables with
  | nil => cases hrec
  | cons head rest ih =>
    obtain ⟨middle, hmiddle, hrest⟩ := foldlM_cons_eq_ok.mp hfold
    have heff := evaluateRule_seen hmiddle
    rcases List.mem_cons.mp hrec with rfl | hmem
    · have hfirst : SeenUpTo (lastSeen middle (seriesKey record event context))
          event.capturedAt := by
        cases heff with
        | ignored hignored hnext =>
          rw [hnext]
          exact seenUpTo_of_ignored hignored (hown _)
        | seen _ hseen =>
          rw [hseen]
          exact ⟨_, _, Function.update_self .., le_rfl⟩
      exact foldlM_invariant (P := fun current => SeenUpTo
          (lastSeen current (seriesKey record event context)) event.capturedAt)
        (fun _ _ _ hseen hstep =>
          (evaluateRule_seen hstep).keeps_seenUpTo hseen) hrest hfirst
    · refine ih hrest ?_ hmem
      intro key instant hlast
      rcases heff.same_or_seen key with hsame | hnew
      · exact hown key instant (hsame.symm.trans hlast)
      · rw [hnew] at hlast
        simp only [seenAs, Option.some.injEq, Prod.mk.injEq, true_and] at hlast
        exact hlast.symm

end Folding

/-! ## Runs with redeliveries -/

structure AlertDelivery (F : Type) where
  event : TelemetryEvent F
  context : PersistedTelemetryContext

inductive DeliveryAction (F : Type) where
  /-- The first delivery of an event. -/
  | first (delivery : AlertDelivery F)
  /-- Another delivery of the event which was processed at this position. -/
  | again (position : ℕ)
  | command (command : LifecycleCommand)

def DeliveryAction.isRedelivery : DeliveryAction F → Bool
  | .again _ => true
  | _ => false

structure DeliveryState (F : Type) where
  tables : AlertTables F
  /-- The deliveries processed without an error, in order. -/
  processed : List (AlertDelivery F)

def DeliveryState.empty (F : Type) : DeliveryState F := ⟨.empty F, []⟩

/-- A first delivery which raises is not processed and will be tried again. -/
def deliveryStep (rules : RuleBase F) (state : DeliveryState F) :
    DeliveryAction F → Option (DeliveryState F)
  | .first delivery =>
    if state.processed.any fun other =>
        other.event.eventId.text = delivery.event.eventId.text then none
    else
      match processEvent rules delivery.context state.tables delivery.event with
      | .ok next => some ⟨next, state.processed ++ [delivery]⟩
      | .error _ => some state
  | .again position =>
    match state.processed[position]? with
    | none => none
    | some delivery => some { state with
        tables := committed state.tables
          (processEvent rules delivery.context state.tables delivery.event) }
  | .command command => some { state with
      tables := committed state.tables (transition state.tables command) }

def tiedWithLater (tables : AlertTables F)
    (record : AlertRule × AlertRuleVersion F) (delivery : AlertDelivery F) :
    Bool :=
  match lastSeen tables (seriesKey record delivery.event delivery.context) with
  | none => false
  | some (lastEventId, lastCapturedAt) =>
    lastCapturedAt = some delivery.event.capturedAt &&
      lastEventId ≠ some delivery.event.eventId.text

/-- A redelivered event is not tied with a later one in any series it is
evaluated for. -/
def redeliveryIgnored (rules : RuleBase F) (state : DeliveryState F) :
    DeliveryAction F → Prop
  | .again position =>
    ∀ delivery, state.processed[position]? = some delivery →
      ∀ record ∈ matchingRules rules delivery.event delivery.context,
        tiedWithLater state.tables record delivery = false
  | _ => True

/-- Redeliveries neither raise nor change what the run without them leaves. -/
structure RedeliveryTransparent (rules : RuleBase F)
    (actions : List (DeliveryAction F)) : Prop where
  same : ∀ done rest, actions = done ++ rest →
    ∀ state, runFrom (deliveryStep rules) (.empty F) done = some state →
      ∃ plain, runFrom (deliveryStep rules) (.empty F)
          (done.filter fun action => !action.isRedelivery) = some plain ∧
        plain.tables = state.tables
  succeeds : ∀ done position rest, actions = done ++ .again position :: rest →
    ∀ state, runFrom (deliveryStep rules) (.empty F) done = some state →
      ∀ delivery, state.processed[position]? = some delivery →
        ∃ next, processEvent rules delivery.context state.tables delivery.event = .ok next

structure ProcessedBefore (rules : RuleBase F) (tables : AlertTables F)
    (delivery : AlertDelivery F) : Prop where
  configured :
    ∀ record ∈ matchingRules rules delivery.event delivery.context,
      ∃ configuration, record.2.configuration = .ok configuration
  seen : ∀ record ∈ matchingRules rules delivery.event delivery.context,
    SeenUpTo (lastSeen tables (seriesKey record delivery.event delivery.context))
      delivery.event.capturedAt

structure RedeliveryInvariant (rules : RuleBase F) (state : DeliveryState F) :
    Prop where
  processed : ∀ delivery ∈ state.processed, ProcessedBefore rules state.tables delivery
  known : ∀ key eventId instant, lastSeen state.tables key = some (some eventId, instant) →
    ∃ delivery ∈ state.processed, delivery.event.eventId.text = eventId

section Redelivery

variable {rules : RuleBase F} {state next : DeliveryState F}
  {delivery : AlertDelivery F}

omit [PythonFloat F] in
theorem ignoredAfter_of_untied {tables : AlertTables F} {record : AlertRule × AlertRuleVersion F}
    (hseen : SeenUpTo (lastSeen tables (seriesKey record delivery.event delivery.context))
      delivery.event.capturedAt)
    (huntied : tiedWithLater tables record delivery = false) :
    ignoredAfter (lastSeen tables (seriesKey record delivery.event delivery.context))
      delivery.event = true := by
  obtain ⟨lastEventId, lastCapturedAt, hlast, hle⟩ := hseen
  simp only [tiedWithLater, hlast] at huntied
  simp only [ignoredAfter, hlast]
  rcases hle.lt_or_eq with hlt | heq
  · simp [hlt]
  · subst heq
    have hsame : lastEventId = some delivery.event.eventId.text := by
      simpa using huntied
    simp [hsame]

theorem processEvent_untied (hprocessed : ProcessedBefore rules state.tables delivery)
    (huntied : ∀ record ∈ matchingRules rules delivery.event delivery.context,
      tiedWithLater state.tables record delivery = false) :
    processEvent rules delivery.context state.tables delivery.event = .ok state.tables := by
  apply foldlM_fixed
  intro record hrec
  obtain ⟨configuration, hconf⟩ := hprocessed.configured record hrec
  apply evaluateRule_ignored hconf
  exact ignoredAfter_of_untied (hprocessed.seen record hrec) (huntied record hrec)

theorem untied_of_processEvent {tables : AlertTables F}
    (hsame : processEvent rules delivery.context tables delivery.event = .ok tables)
    {record : AlertRule × AlertRuleVersion F}
    (hrec : record ∈ matchingRules rules delivery.event delivery.context) :
    tiedWithLater tables record delivery = false := by
  cases htied : tiedWithLater tables record delivery with
  | false => rfl
  | true =>
    cases hlast : lastSeen tables (seriesKey record delivery.event delivery.context) with
    | none => simp [tiedWithLater, hlast] at htied
    | some last =>
      obtain ⟨lastEventId, lastCapturedAt⟩ := last
      simp only [tiedWithLater, hlast, ne_eq, Bool.and_eq_true,
        decide_eq_true_eq] at htied
      have hacc : ignoredAfter (lastSeen tables (seriesKey record delivery.event delivery.context))
          delivery.event = false := by
        simp [ignoredAfter, hlast, htied.1, htied.2]
      have hseen := foldlM_seen hsame hrec hacc
      rw [hlast] at hseen
      simp only [seenAs, Option.some.injEq, Prod.mk.injEq] at hseen
      exact absurd hseen.1 htied.2

omit [PythonFloat F] in
theorem lastSeen_releaseState [PythonFloat F] (tables : AlertTables F) (alertId : RowId) :
    lastSeen (releaseClosedAlertState tables alertId) = lastSeen tables := by
  funext key
  cases hstate : tables.states key with
  | none => simp [lastSeen, releaseClosedAlertState, hstate]
  | some found =>
    have hsame : (releaseState alertId found).snapshot.lastEventId = found.snapshot.lastEventId ∧
        (releaseState alertId found).snapshot.lastCapturedAt = found.snapshot.lastCapturedAt := by
      unfold releaseState
      split_ifs <;> exact ⟨rfl, rfl⟩
    simp [lastSeen, releaseClosedAlertState, hstate, hsame]

theorem transition_lastSeen {tables after : AlertTables F} {command : LifecycleCommand}
    (hcmd : transition tables command = .ok after) :
    lastSeen after = lastSeen tables := by
  unfold transition at hcmd
  dsimp only at hcmd
  cases hfound : tables.alerts command.alertId with
  | none =>
    rw [hfound] at hcmd
    split_ifs at hcmd
  | some alert =>
    rw [hfound] at hcmd
    dsimp only at hcmd
    have hlogged : lastSeen (commandedTables tables command alert) =
        lastSeen tables := lastSeen_eq_of_states rfl
    split_ifs at hcmd
    · rw [Except.ok.injEq] at hcmd
      rw [← hcmd]
    · rw [Except.ok.injEq] at hcmd
      rw [← hcmd, lastSeen_releaseState, hlogged]
    · rw [Except.ok.injEq] at hcmd
      rw [← hcmd, hlogged]

theorem processEvent_same_or_seen {context : PersistedTelemetryContext}
    {tables after : AlertTables F} {event : TelemetryEvent F}
    (hprocess : processEvent rules context tables event = .ok after) (key : EvaluationKey) :
    lastSeen after key = lastSeen tables key ∨ lastSeen after key = seenAs event := by
  apply foldlM_invariant (P := fun current =>
    lastSeen current key = lastSeen tables key ∨
      lastSeen current key = seenAs event) ?_ hprocess (.inl rfl)
  intro before record between hbefore hstep
  have heff := evaluateRule_seen hstep
  rcases heff.same_or_seen key with hsame | hnew
  · rw [hsame]
    exact hbefore
  · exact .inr hnew

theorem ProcessedBefore.of_lastSeen {tables after : AlertTables F}
    (hprocessed : ProcessedBefore rules tables delivery)
    (hlast : lastSeen after = lastSeen tables) :
    ProcessedBefore rules after delivery := by
  refine ⟨hprocessed.configured, ?_⟩
  rw [hlast]
  exact hprocessed.seen

theorem ProcessedBefore.processEvent {context : PersistedTelemetryContext}
    {tables after : AlertTables F} {event : TelemetryEvent F}
    (hprocessed : ProcessedBefore rules tables delivery)
    (hprocess : processEvent rules context tables event = .ok after) :
    ProcessedBefore rules after delivery := by
  refine ⟨hprocessed.configured, ?_⟩
  intro record hrec
  apply foldlM_invariant (P := fun current => SeenUpTo
    (lastSeen current (seriesKey record delivery.event delivery.context))
    delivery.event.capturedAt) ?_ hprocess (hprocessed.seen record hrec)
  intro before other between hbefore hstep
  exact (evaluateRule_seen hstep).keeps_seenUpTo hbefore

namespace RedeliveryInvariant

theorem empty : RedeliveryInvariant rules (DeliveryState.empty F) := by
  constructor
  · intro delivery hdelivery
    exact absurd hdelivery List.not_mem_nil
  · intro key eventId instant hkey
    have hnone : lastSeen (AlertTables.empty F) key = none := rfl
    have hsome : lastSeen (AlertTables.empty F) key = some (some eventId, instant) := hkey
    rw [hnone] at hsome
    cases hsome

theorem of_lastSeen (hinv : RedeliveryInvariant rules state)
    {tables : AlertTables F} (hlast : lastSeen tables = lastSeen state.tables) :
    RedeliveryInvariant rules { state with tables } := by
  constructor
  · intro other hother
    exact (hinv.processed other hother).of_lastSeen hlast
  · intro key eventId instant hkey
    rw [hlast] at hkey
    exact hinv.known key eventId instant hkey

theorem first (hinv : RedeliveryInvariant rules state) {tables : AlertTables F}
    (hfresh : ∀ other ∈ state.processed, other.event.eventId.text ≠ delivery.event.eventId.text)
    (hprocess : processEvent rules delivery.context state.tables delivery.event = .ok tables) :
    RedeliveryInvariant rules ⟨tables, state.processed ++ [delivery]⟩ := by
  have hown : ∀ key instant, lastSeen state.tables key =
      some (some delivery.event.eventId.text, instant) →
      instant = some delivery.event.capturedAt := by
    intro key instant hkey
    obtain ⟨other, hother, heventId⟩ := hinv.known key _ _ hkey
    exact absurd heventId (hfresh other hother)
  constructor
  · intro other hother
    rcases List.mem_append.mp hother with hold | hnew
    · exact (hinv.processed other hold).processEvent hprocess
    · rw [List.mem_singleton.mp hnew]
      constructor
      · intro record hrec
        obtain ⟨before, after, hstep⟩ :=
          exists_step_of_foldlM_ok hprocess hrec
        exact evaluateRule_configuration hstep
      · intro record hrec
        exact foldlM_seenUpTo hprocess hown hrec
  · intro key eventId instant hkey
    rcases processEvent_same_or_seen hprocess key with hsame | hnew
    · rw [hsame] at hkey
      obtain ⟨other, hother, heventId⟩ := hinv.known key _ _ hkey
      exact ⟨other, List.mem_append_left _ hother, heventId⟩
    · rw [hnew] at hkey
      simp only [seenAs, Option.some.injEq, Prod.mk.injEq] at hkey
      exact ⟨delivery, List.mem_append_right _ List.mem_cons_self, hkey.1⟩

theorem step (hinv : RedeliveryInvariant rules state)
    {action : DeliveryAction F} (hguard : redeliveryIgnored rules state action)
    (hstep : deliveryStep rules state action = some next) :
    RedeliveryInvariant rules next ∧ (action.isRedelivery = true → next = state) := by
  cases action with
  | first delivery =>
    refine ⟨?_, nofun⟩
    simp only [deliveryStep] at hstep
    split_ifs at hstep with hknown
    have hfresh : ∀ other ∈ state.processed,
        other.event.eventId.text ≠ delivery.event.eventId.text := by
      simpa using hknown
    cases hprocess : processEvent rules delivery.context state.tables delivery.event with
    | error error =>
      rw [hprocess] at hstep
      cases hstep
      exact hinv
    | ok tables =>
      rw [hprocess] at hstep
      cases hstep
      exact hinv.first hfresh hprocess
  | again position =>
    simp only [deliveryStep] at hstep
    cases hposition : state.processed[position]? with
    | none =>
      rw [hposition] at hstep
      cases hstep
    | some delivery =>
      rw [hposition] at hstep
      dsimp only at hstep
      have hmem : delivery ∈ state.processed :=
        List.mem_of_getElem? hposition
      have huntied := hguard delivery hposition
      rw [processEvent_untied (hinv.processed delivery hmem) huntied] at hstep
      cases hstep
      exact ⟨hinv, fun _ => rfl⟩
  | command command =>
    refine ⟨?_, nofun⟩
    cases hstep
    apply hinv.of_lastSeen
    cases hcmd : transition state.tables command with
    | error error => rfl
    | ok tables => exact transition_lastSeen hcmd

theorem run_without_redeliveries (hinv : RedeliveryInvariant rules state)
    {actions : List (DeliveryAction F)}
    (hguard : StepsMeet (deliveryStep rules) (redeliveryIgnored rules) state actions)
    (hrun : runFrom (deliveryStep rules) state actions = some next) :
    RedeliveryInvariant rules next ∧ runFrom (deliveryStep rules) state
        (actions.filter fun action => !action.isRedelivery) = some next := by
  induction actions generalizing state with
  | nil =>
    cases hrun
    exact ⟨hinv, rfl⟩
  | cons action rest ih =>
    obtain ⟨hhead, htail⟩ := hguard
    obtain ⟨middle, hstep, hrest⟩ := runFrom_cons_eq_some hrun
    obtain ⟨hmiddle, hsame⟩ := hinv.step hhead hstep
    obtain ⟨hnext, hplain⟩ := ih hmiddle (htail middle hstep) hrest
    refine ⟨hnext, ?_⟩
    cases hredelivery : action.isRedelivery with
    | true =>
      have hmiddleEq : middle = state := hsame hredelivery
      rw [List.filter_cons_of_neg (by simp [hredelivery]), ← hmiddleEq]
      exact hplain
    | false =>
      rw [List.filter_cons_of_pos (by simp [hredelivery]), runFrom_cons_of_step hstep]
      exact hplain

end RedeliveryInvariant

/-- The redeliveries of a run are transparent exactly when each of them is
untied with the later events of its series. -/
theorem redelivery_transparent_iff (rules : RuleBase F)
    (actions : List (DeliveryAction F)) :
    RedeliveryTransparent rules actions ↔
      StepsMeet (deliveryStep rules) (redeliveryIgnored rules) (.empty F)
        actions := by
  constructor
  · intro htransparent
    apply StepsMeet.of_prefixes
    intro done action rest hsplit middle hmiddle
    cases action with
    | first delivery => exact trivial
    | command command => exact trivial
    | again position =>
      intro delivery hposition record hrec
      obtain ⟨after, hafter⟩ := htransparent.succeeds done position rest hsplit
        middle hmiddle delivery hposition
      have hextended : runFrom (deliveryStep rules) (.empty F)
          (done ++ [.again position]) = some { middle with tables := after } := by
        rw [runFrom_append, hmiddle]
        simp [runFrom, deliveryStep, hposition, hafter, committed]
      obtain ⟨plain, hplain, hplainTables⟩ :=
        htransparent.same done _ hsplit middle hmiddle
      obtain ⟨other, hother, hotherTables⟩ := htransparent.same
        (done ++ [.again position]) rest (by rw [hsplit]; simp) _ hextended
      have hfilter : (done ++ [DeliveryAction.again position]).filter
            (fun action => !action.isRedelivery) =
          done.filter fun action => !action.isRedelivery := by
        simp [List.filter_append, DeliveryAction.isRedelivery]
      rw [hfilter, hplain] at hother
      cases hother
      have hsame : after = middle.tables :=
        hotherTables.symm.trans hplainTables
      rw [hsame] at hafter
      exact untied_of_processEvent hafter hrec
  · intro hguard
    constructor
    · intro done rest hsplit middle hmiddle
      rw [hsplit] at hguard
      exact ⟨middle, (RedeliveryInvariant.empty.run_without_redeliveries
        hguard.split.1 hmiddle).2, rfl⟩
    · intro done position rest hsplit middle hmiddle delivery hposition
      rw [hsplit] at hguard
      obtain ⟨hdone, hrest⟩ := hguard.split
      have hinv : RedeliveryInvariant rules middle :=
        (RedeliveryInvariant.empty.run_without_redeliveries hdone hmiddle).1
      have huntied := (hrest middle hmiddle).1 delivery hposition
      have hmem : delivery ∈ middle.processed := List.mem_of_getElem? hposition
      exact ⟨middle.tables, processEvent_untied (hinv.processed delivery hmem) huntied⟩

end Redelivery

def slowClearRule : AlertRule × AlertRuleVersion FloatValue :=
  (exampleRule.1, { exampleRule.2 with clearDurationSeconds := 60 })

def firstDelivery (event : TelemetryEvent FloatValue) :
    DeliveryAction FloatValue :=
  .first ⟨event, exampleContext⟩

def tiedClearDeliveries : List (DeliveryAction FloatValue) :=
  [firstDelivery hotReading, firstDelivery coldReading,
    firstDelivery (exampleReading thirdEventId 2000000 (.finite 10) twoSeconds_within)]

def tiedHotDeliveries : List (DeliveryAction FloatValue) :=
  [firstDelivery hotReading,
    firstDelivery (exampleReading secondEventId 1000000 (.finite 30) oneSecond_within)]

/-- The first of two tied readings, delivered again, violates the uniqueness of
its evidence; and where it appends no evidence it becomes the last event of its
series again. -/
theorem redelivery_not_transparent :
    ¬ RedeliveryTransparent [slowClearRule] (tiedClearDeliveries ++ [.again 1]) ∧
      ¬ RedeliveryTransparent [exampleRule] (tiedHotDeliveries ++ [.again 0]) := by
  constructor
  · intro htransparent
    have hraises : (runFrom (deliveryStep [slowClearRule]) (.empty FloatValue)
        tiedClearDeliveries).any (fun state =>
          state.processed[1]?.any fun delivery =>
            (processEvent [slowClearRule] delivery.context state.tables
              delivery.event).toOption.isNone) = true := by
      decide +kernel
    rw [Option.any_eq_true] at hraises
    obtain ⟨state, hstate, hposition⟩ := hraises
    rw [Option.any_eq_true] at hposition
    obtain ⟨delivery, hdelivery, hnone⟩ := hposition
    obtain ⟨next, hnext⟩ := htransparent.succeeds tiedClearDeliveries 1 [] rfl
      state hstate delivery hdelivery
    rw [hnext] at hnone
    cases hnone
  · intro htransparent
    have hbefore : (runFrom (deliveryStep [exampleRule]) (.empty FloatValue)
        tiedHotDeliveries).map (fun state =>
          lastSeen state.tables (seriesKey exampleRule hotReading exampleContext)) =
        some (some (some secondEventId.text, some 1000000)) := by
      decide +kernel
    have hafter : (runFrom (deliveryStep [exampleRule]) (.empty FloatValue)
        (tiedHotDeliveries ++ [.again 0])).map (fun state =>
          lastSeen state.tables (seriesKey exampleRule hotReading exampleContext)) =
        some (some (some firstEventId.text, some 1000000)) := by
      decide +kernel
    rw [Option.map_eq_some_iff] at hafter
    obtain ⟨state, hstate, hlast⟩ := hafter
    obtain ⟨plain, hplain, hsame⟩ :=
      htransparent.same (tiedHotDeliveries ++ [.again 0]) [] (by simp) state hstate
    have hfilter : (tiedHotDeliveries ++ [DeliveryAction.again 0]).filter
        (fun action => !action.isRedelivery) = tiedHotDeliveries := rfl
    rw [hfilter] at hplain
    rw [hplain, Option.map_some, hsame, hlast] at hbefore
    revert hbefore
    decide

end Nexolab
