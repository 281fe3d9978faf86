import Nexolab.PolicyEnvironment
import Nexolab.SchedulerOperations

/-!
# Fairness among due jobs

The worker of a bus repeats the same turn: `_select` chooses one of the due
jobs and `observe_completion` counts its execution.  Between two turns the
scheduler may change in every other respect, so a turn is given with the jobs,
the bus map and the endpoints its selection finds.  Only the counters of the
bus are carried from one turn to the next, and two of them force a choice: a
low job after a burst of other executions, and a job which is not high after a
burst of high executions.

The two forced choices reset each other's counter.  The bursts of the policy
decide whether the first one leaves room for the second.
-/

namespace Nexolab

/-- Every contiguous part of the list without the given entry has at most
`bound` entries. -/
def GapsWithin {α : Type*} (entry : α) (bound : ℕ) (list : List α) : Prop :=
  ∀ window, window <:+: list → entry ∉ window → window.length ≤ bound

/-- At most `bound` entries have followed the last occurrence of the given
one, or the beginning of the list. -/
def CurrentGapWithin {α : Type*} (entry : α) (bound : ℕ) (list : List α) :
    Prop :=
  ∀ window, window <:+ list → entry ∉ window → window.length ≤ bound

section Gaps

variable {α : Type*} {entry : α} {bound : ℕ} {list : List α}

theorem CurrentGapWithin.nil : CurrentGapWithin entry bound [] := by
  intro window hwindow _
  rw [List.suffix_nil] at hwindow
  simp [hwindow]

theorem CurrentGapWithin.mono {larger : ℕ}
    (hgap : CurrentGapWithin entry bound list) (hle : bound ≤ larger) :
    CurrentGapWithin entry larger list :=
  fun window hwindow hmem => (hgap window hwindow hmem).trans hle

theorem CurrentGapWithin.concat_self (entry : α) (bound : ℕ) (list : List α) :
    CurrentGapWithin entry bound (list ++ [entry]) := by
  intro window hwindow hmem
  rcases List.suffix_concat_iff.mp hwindow with rfl | ⟨shorter, rfl, _⟩
  · exact Nat.zero_le _
  · simp at hmem

theorem CurrentGapWithin.concat (last : α) (hgap : CurrentGapWithin entry bound list) :
    CurrentGapWithin entry (bound + 1) (list ++ [last]) := by
  intro window hwindow hmem
  rcases List.suffix_concat_iff.mp hwindow with rfl | ⟨shorter, rfl, hshorter⟩
  · exact Nat.zero_le _
  · have hnot : entry ∉ shorter := fun hin =>
      hmem (List.mem_append_left _ hin)
    have hle := hgap shorter hshorter hnot
    simp only [List.length_append, List.length_singleton]
    omega

theorem GapsWithin.nil : GapsWithin entry bound [] := by
  intro window hwindow _
  rw [List.infix_nil] at hwindow
  simp [hwindow]

theorem GapsWithin.concat {last : α} (hgaps : GapsWithin entry bound list)
    (hcur : CurrentGapWithin entry bound (list ++ [last])) :
    GapsWithin entry bound (list ++ [last]) := by
  intro window hwindow hmem
  rcases List.infix_concat_iff.mp hwindow with hsuffix | hinfix
  · exact hcur window hsuffix hmem
  · exact hgaps window hinfix hmem

end Gaps

/-- What the source counts on a bus outside of selections and executions. -/
inductive CounterUpdate where
  | callbackError
  | cooldown (deferred : ℕ)
  | skipped (count : ℕ)

def CounterUpdate.apply (metrics : BusSchedulerMetrics) :
    CounterUpdate → BusSchedulerMetrics
  | .callbackError => metrics.observeCallbackError
  | .cooldown deferred => metrics.observeCooldown deferred
  | .skipped count => metrics.observeSkipped count

/-- The counters of a bus, and the classes of the executions counted so far. -/
structure BusService where
  metrics : BusSchedulerMetrics
  executed : List Priority

/-- What `_complete` passes to `observe_completion`. -/
structure Completion where
  (completed duration : ℚ)
  (failed callbackError : Bool)

/-- The completion of a turn is missing when the read is not counted: its
latest value could not be stored, or its target has been removed. -/
inductive ServiceAction where
  | turn (found : Scheduler) (now : ℚ) (completion : Option Completion)
  | observe (update : CounterUpdate)

namespace BusService

/-- The scheduler a selection finds, with the policy and the counters which
the service has. -/
def selecting (policy : SchedulerPolicy) (busId : String)
    (service : BusService) (found : Scheduler) : Scheduler :=
  { found with policy }.setMetrics busId service.metrics

def count (service : BusService) (metrics : BusSchedulerMetrics) (job : Job) :
    Option Completion → BusService
  | none => { service with metrics }
  | some completion =>
    { metrics := metrics.observeCompletion job.target.priority
        completion.completed completion.duration job.target.intervalSeconds
        completion.failed completion.callbackError
      executed := service.executed ++ [job.target.priority] }

/-- A turn selects a job and counts its execution.  A turn which finds no due
job counts the selection only. -/
def step (policy : SchedulerPolicy) (busId : String) (service : BusService) :
    ServiceAction → Option BusService
  | .turn found now completion =>
    match (service.selecting policy busId found).beginRun busId now with
    | .error _ => none
    | .ok (selected, none) =>
      (selected.metrics busId).map fun metrics =>
        { service with metrics }
    | .ok (selected, some job) =>
      (selected.metrics busId).map fun metrics =>
        service.count metrics job completion
  | .observe update =>
    some { service with metrics := update.apply service.metrics }

def ClassDue (busId : String) (priority : Priority) (_service : BusService) :
    ServiceAction → Prop
  | .turn found now _ =>
    ∃ items, found.due busId now = .ok items ∧ ∃ item ∈ items, item.1.target.priority = priority
  | .observe _ => True

/-- The counters which a worker has left on the bus since they were
created. -/
def Left (policy : SchedulerPolicy) (busId : String) (metrics : BusSchedulerMetrics) : Prop :=
  ∃ executed, Reaches (BusService.step policy busId) (fun _ _ => True)
    ⟨{}, []⟩ ⟨metrics, executed⟩

end BusService

def BusSchedulerMetrics.bursts (metrics : BusSchedulerMetrics) : ℕ × ℕ :=
  (metrics.consecutiveHigh, metrics.consecutiveNonLow)

theorem chooseDue_bursts (policy : SchedulerPolicy)
    (metrics : BusSchedulerMetrics) (first : Job × ℚ) (rest : List (Job × ℚ)) :
    (chooseDue policy metrics first rest).1.bursts = metrics.bursts := by
  have hhigh : (chooseAfterHighBurst policy metrics first rest).1.bursts = metrics.bursts := by
    unfold chooseAfterHighBurst
    dsimp only
    split
    · split_ifs <;> rfl
    · rfl
  unfold chooseDue
  dsimp only
  split
  · split_ifs
    · rfl
    · exact hhigh
  · exact hhigh

theorem dueBefore_rank_le {left right : Job × ℚ} (hbefore : dueBefore left right) :
    left.1.target.priority.rank ≤ right.1.target.priority.rank := by
  rcases hbefore with hlt | ⟨heq, _⟩
  · exact hlt.le
  · exact heq.le

instance : Std.Total dueBefore where
  total left right := by
    unfold dueBefore
    rcases lt_trichotomy left.1.target.priority.rank
      right.1.target.priority.rank with hrank | hrank | hrank
    · exact .inl (.inl hrank)
    · rcases lt_trichotomy left.2 right.2 with hdue | hdue | hdue
      · exact .inl (.inr ⟨hrank, .inl hdue⟩)
      · rcases Nat.le_total left.1.sequence right.1.sequence with hle | hle
        · exact .inl (.inr ⟨hrank, .inr ⟨hdue, hle⟩⟩)
        · exact .inr (.inr ⟨hrank.symm, .inr ⟨hdue.symm, hle⟩⟩)
      · exact .inr (.inr ⟨hrank.symm, .inl hdue⟩)
    · exact .inr (.inl hrank)

instance : IsTrans (Job × ℚ) dueBefore where
  trans first second third hfirst hsecond := by
    rcases hfirst with hfirst | ⟨hrank, hfirst⟩
    · exact .inl (hfirst.trans_le (dueBefore_rank_le hsecond))
    · rcases hsecond with hsecond | ⟨hrank', hsecond⟩
      · exact .inl (hrank ▸ hsecond)
      · refine .inr ⟨hrank.trans hrank', ?_⟩
        rcases hfirst with hfirst | ⟨hdue, hfirst⟩
        · rcases hsecond with hsecond | ⟨hdue', _⟩
          · exact .inl (hfirst.trans hsecond)
          · exact .inl (hdue' ▸ hfirst)
        · rcases hsecond with hsecond | ⟨hdue', hsecond⟩
          · exact .inl (hdue ▸ hsecond)
          · exact .inr ⟨hdue.trans hdue', hfirst.trans hsecond⟩

variable {policy : SchedulerPolicy} {metrics : BusSchedulerMetrics}
  {first : Job × ℚ} {rest : List (Job × ℚ)} {busId : String}
  {action : ServiceAction} {service next : BusService}

theorem chooseAfterHighBurst_of_medium_due (hsorted : (first :: rest).Pairwise dueBefore)
    (hmedium : ∃ item ∈ first :: rest, item.1.target.priority = .medium) :
    (chooseAfterHighBurst policy metrics first rest).2.1.target.priority = .medium ∨
      (chooseAfterHighBurst policy metrics first rest).2.1.target.priority = .high ∧
        metrics.consecutiveHigh < policy.fairnessHighBurst := by
  obtain ⟨medium, hmem, hpriority⟩ := hmedium
  have hfirst : first.1.target.priority ≠ .low := by
    intro hlow
    rcases List.mem_cons.mp hmem with rfl | hrest
    · rw [hpriority] at hlow
      cases hlow
    · have hrank := dueBefore_rank_le ((List.pairwise_cons.mp hsorted).1 _ hrest)
      rw [hlow, hpriority] at hrank
      simp [Priority.rank] at hrank
  unfold chooseAfterHighBurst
  dsimp only
  split
  next item others hfilter =>
    have hitem : item.1.target.priority ≠ .high := by
      have hin : item ∈ (first :: rest).filter fun item =>
          decide (item.1.target.priority ≠ .high) := by
        rw [hfilter]
        exact List.mem_cons_self
      simpa using (List.mem_filter.mp hin).2
    have hin : medium ∈ item :: others := by
      rw [← hfilter, List.mem_filter]
      exact ⟨hmem, by simp [hpriority]⟩
    have hord : (item :: others).Pairwise dueBefore := by
      rw [← hfilter]
      exact hsorted.filter _
    have hchosen : item.1.target.priority = .medium := by
      rcases List.mem_cons.mp hin with rfl | hrest
      · exact hpriority
      · have hrank := dueBefore_rank_le ((List.pairwise_cons.mp hord).1 _ hrest)
        rw [hpriority] at hrank
        cases hcase : item.1.target.priority with
        | high => exact absurd hcase hitem
        | medium => rfl
        | low =>
          rw [hcase] at hrank
          simp [Priority.rank] at hrank
    split_ifs with hburst
    · exact .inl hchosen
    · cases hcase : first.1.target.priority with
      | high => exact .inr ⟨rfl, by omega⟩
      | medium => exact .inl rfl
      | low => exact absurd hcase hfirst
  next hfilter =>
    have hin : medium ∈ (first :: rest).filter fun item =>
        decide (item.1.target.priority ≠ .high) := by
      rw [List.mem_filter]
      exact ⟨hmem, by simp [hpriority]⟩
    rw [hfilter] at hin
    cases hin

theorem chooseDue_of_medium_due (hsorted : (first :: rest).Pairwise dueBefore)
    (hmedium : ∃ item ∈ first :: rest, item.1.target.priority = .medium) :
    (chooseDue policy metrics first rest).2.1.target.priority = .medium ∨
      (chooseDue policy metrics first rest).2.1.target.priority = .high ∧
        metrics.consecutiveHigh < policy.fairnessHighBurst ∨
      (chooseDue policy metrics first rest).2.1.target.priority = .low ∧
        policy.fairnessLowBurst ≤ metrics.consecutiveNonLow := by
  have hhigh := @chooseAfterHighBurst_of_medium_due policy metrics _ _ hsorted hmedium
  unfold chooseDue
  dsimp only
  split
  next item others hfilter =>
    split_ifs with hburst
    · refine .inr (.inr ⟨?_, hburst⟩)
      have hmem := earliestDue_mem item others
      rw [← hfilter, List.mem_filter] at hmem
      simpa using hmem.2
    · rcases hhigh with hcase | hcase
      · exact .inl hcase
      · exact .inr (.inl hcase)
  next =>
    rcases hhigh with hcase | hcase
    · exact .inl hcase
    · exact .inr (.inl hcase)

theorem chooseDue_of_low_due (hlow : ∃ item ∈ first :: rest, item.1.target.priority = .low) :
    (chooseDue policy metrics first rest).2.1.target.priority = .low ∨
      metrics.consecutiveNonLow < policy.fairnessLowBurst := by
  obtain ⟨low, hmem, hpriority⟩ := hlow
  unfold chooseDue
  dsimp only
  split
  next item others hfilter =>
    split_ifs with hburst
    · left
      have hin := earliestDue_mem item others
      rw [← hfilter, List.mem_filter] at hin
      simpa using hin.2
    · exact .inr (by omega)
  next hfilter =>
    have hin : low ∈ (first :: rest).filter fun item =>
        decide (item.1.target.priority = .low) := by
      rw [List.mem_filter]
      exact ⟨hmem, by simp [hpriority]⟩
    rw [hfilter] at hin
    cases hin

theorem Scheduler.beginRun_choice {scheduler selected : Scheduler} {now : ℚ}
    {choice : Option Job} {items : List (Job × ℚ)}
    (hmetrics : scheduler.metrics busId = some metrics) (hdue : scheduler.due busId now = .ok items)
    (hbegin : scheduler.beginRun busId now = .ok (selected, choice)) :
    ∃ counted, selected.metrics busId = some counted ∧ counted.bursts = metrics.bursts ∧
      (choice = none ∧ items = [] ∨ ∃ first rest, items.insertionSort dueBefore = first :: rest ∧
          choice = some (chooseDue scheduler.policy
            (metrics.observeQueue items.length) first rest).2.1) := by
  unfold Scheduler.beginRun Scheduler.select Scheduler.metricsOf at hbegin
  simp only [hdue, hmetrics, bind, Except.bind, pure, Except.pure] at hbegin
  cases hsort : items.insertionSort dueBefore with
  | nil =>
    have hperm := List.perm_insertionSort dueBefore items
    rw [hsort] at hbegin hperm
    cases hbegin
    refine ⟨metrics.observeQueue items.length, ?_, rfl, .inl ⟨rfl, ?_⟩⟩
    · simp [Scheduler.setMetrics]
    · exact List.perm_nil.mp hperm.symm
  | cons first rest =>
    rw [hsort] at hbegin
    simp only [Scheduler.setMetrics, Function.update_self, Except.ok.injEq, Prod.mk.injEq] at hbegin
    obtain ⟨rfl, rfl⟩ := hbegin
    refine ⟨_, Function.update_self .., ?_, .inr ⟨first, rest, rfl, rfl⟩⟩
    exact chooseDue_bursts scheduler.policy (metrics.observeQueue items.length) first rest

/-! ## What a turn does to the gaps -/

def burstsAfter (priority : Priority) (bursts : ℕ × ℕ) : ℕ × ℕ :=
  (if priority = .high then bursts.1 + 1 else 0,
    if priority ≠ .low then bursts.2 + 1 else 0)

theorem CounterUpdate.apply_bursts (metrics : BusSchedulerMetrics)
    (update : CounterUpdate) : (update.apply metrics).bursts = metrics.bursts := by
  cases update <;> rfl

/-- The classes a turn may execute, from the counters it starts with. -/
structure BusService.Chosen (policy : SchedulerPolicy) (busId : String)
    (service : BusService) (action : ServiceAction) (priority : Priority) :
    Prop where
  medium_due : ClassDue busId .medium service action → priority = .medium ∨ priority = .high ∧
        service.metrics.consecutiveHigh < policy.fairnessHighBurst ∨
      priority = .low ∧ policy.fairnessLowBurst ≤ service.metrics.consecutiveNonLow
  low_due : ClassDue busId .low service action → priority = .low ∨
      service.metrics.consecutiveNonLow < policy.fairnessLowBurst

theorem BusService.step_cases (hstep : service.step policy busId action = some next) :
    next.executed = service.executed ∧ next.metrics.bursts = service.metrics.bursts ∨
      ∃ priority, service.Chosen policy busId action priority ∧
        next.executed = service.executed ++ [priority] ∧
        next.metrics.bursts = burstsAfter priority service.metrics.bursts := by
  cases action with
  | observe update =>
    cases hstep
    exact .inl ⟨rfl, CounterUpdate.apply_bursts _ _⟩
  | turn found now completion =>
    have hmetrics : (service.selecting policy busId found).metrics busId =
        some service.metrics := by
      simp [BusService.selecting, Scheduler.setMetrics]
    cases hdue : found.due busId now with
    | error error =>
      have hselecting : (service.selecting policy busId found).due busId now = .error error := hdue
      simp [BusService.step, Scheduler.beginRun, Scheduler.select, hselecting,
        bind, Except.bind] at hstep
    | ok items =>
      have hselecting : (service.selecting policy busId found).due busId now = .ok items := hdue
      cases hbegin :
          (service.selecting policy busId found).beginRun busId now with
      | error error => simp [BusService.step, hbegin] at hstep
      | ok result =>
        obtain ⟨selected, choice⟩ := result
        obtain ⟨counted, hcounted, hbursts, hchoice⟩ :=
          Scheduler.beginRun_choice hmetrics hselecting hbegin
        rcases hchoice with ⟨rfl, _⟩ | ⟨first, rest, hsort, rfl⟩
        · simp only [BusService.step, hbegin, hcounted, Option.map_some, Option.some.injEq] at hstep
          subst hstep
          exact .inl ⟨rfl, hbursts⟩
        · simp only [BusService.step, hbegin, hcounted, Option.map_some, Option.some.injEq] at hstep
          subst hstep
          cases completion with
          | none => exact .inl ⟨rfl, hbursts⟩
          | some completion =>
            have hperm := List.perm_insertionSort dueBefore items
            have hsorted := List.pairwise_insertionSort dueBefore items
            rw [hsort] at hperm hsorted
            have hitems : ∀ priority, ClassDue busId priority service
                  (.turn found now (some completion)) →
                ∃ item ∈ first :: rest, item.1.target.priority = priority := by
              rintro priority ⟨known, hknown, item, hmem, hpriority⟩
              rw [hdue] at hknown
              cases hknown
              exact ⟨item, hperm.mem_iff.mpr hmem, hpriority⟩
            refine .inr ⟨_, ⟨?_, ?_⟩, rfl, ?_⟩
            · intro hmedium
              exact chooseDue_of_medium_due hsorted (hitems _ hmedium)
            · intro hlow
              exact chooseDue_of_low_due (hitems _ hlow)
            · rw [← hbursts]
              rfl

/-- The medium class is served within each of two phases: the high executions
before a forced low execution, and those after it.  A second low execution
would need a low burst which the high burst has already ended. -/
structure BusService.MediumServed (policy : SchedulerPolicy) (service : BusService) : Prop where
  gaps : GapsWithin .medium (2 * policy.fairnessHighBurst + 1) service.executed
  current : CurrentGapWithin .medium (min service.metrics.bursts.1 policy.fairnessHighBurst)
        service.executed ∨
      service.metrics.bursts.1 = service.metrics.bursts.2 ∧
        service.metrics.bursts.2 ≤ policy.fairnessHighBurst ∧
        CurrentGapWithin .medium (policy.fairnessHighBurst + 1 + service.metrics.bursts.1)
          service.executed

theorem BusService.MediumServed.step (hbursts : policy.fairnessHighBurst < policy.fairnessLowBurst)
    (hserved : service.MediumServed policy) (hdue : ClassDue busId .medium service action)
    (hstep : service.step policy busId action = some next) :
    next.MediumServed policy := by
  rcases BusService.step_cases hstep with
    ⟨hexecuted, hsame⟩ | ⟨priority, hchosen, hexecuted, hafter⟩
  · constructor
    case gaps =>
      rw [hexecuted]
      exact hserved.gaps
    case current =>
      rw [hexecuted, hsame]
      exact hserved.current
  · have hcur := hserved.current
    have hchoice := hchosen.medium_due hdue
    generalize hpair : service.metrics.bursts = bursts at hcur hafter
    obtain ⟨high, nonLow⟩ := bursts
    have hhigh : service.metrics.consecutiveHigh = high := congrArg Prod.fst hpair
    have hnonLow : service.metrics.consecutiveNonLow = nonLow :=
      congrArg Prod.snd hpair
    rw [hhigh, hnonLow] at hchoice
    dsimp only at hcur
    have hgap : (CurrentGapWithin .medium
            (min next.metrics.bursts.1 policy.fairnessHighBurst) next.executed ∨
          next.metrics.bursts.1 = next.metrics.bursts.2 ∧
            next.metrics.bursts.2 ≤ policy.fairnessHighBurst ∧ CurrentGapWithin .medium
              (policy.fairnessHighBurst + 1 + next.metrics.bursts.1)
              next.executed) := by
      rw [hexecuted, hafter]
      rcases hchoice with rfl | ⟨rfl, hlt⟩ | ⟨rfl, hle⟩
      · exact .inl (.concat_self _ _ _)
      · simp only [burstsAfter, reduceIte, ne_eq, reduceCtorEq, not_false_eq_true]
        rcases hcur with hgap | ⟨heq, hle, hgap⟩
        · exact .inl ((hgap.concat _).mono (by omega))
        · exact .inr ⟨by omega, by omega, (hgap.concat _).mono (by omega)⟩
      · simp only [burstsAfter, reduceCtorEq, reduceIte, ne_eq, not_true_eq_false]
        rcases hcur with hgap | ⟨heq, hsmall, hgap⟩
        · exact .inr ⟨trivial, by omega, (hgap.concat _).mono (by omega)⟩
        · omega
    constructor
    case current => exact hgap
    case gaps =>
      rw [hexecuted] at hgap ⊢
      apply hserved.gaps.concat
      rcases hgap with hgap | ⟨heq, hle, hgap⟩
      · exact hgap.mono (by omega)
      · exact hgap.mono (by omega)

structure BusService.LowServed (policy : SchedulerPolicy) (service : BusService) : Prop where
  gaps : GapsWithin .low policy.fairnessLowBurst service.executed
  current : CurrentGapWithin .low
    (min service.metrics.bursts.2 policy.fairnessLowBurst) service.executed

theorem BusService.LowServed.step (hserved : service.LowServed policy)
    (hdue : ClassDue busId .low service action)
    (hstep : service.step policy busId action = some next) :
    next.LowServed policy := by
  rcases BusService.step_cases hstep with
    ⟨hexecuted, hsame⟩ | ⟨priority, hchosen, hexecuted, hafter⟩
  · constructor
    case gaps =>
      rw [hexecuted]
      exact hserved.gaps
    case current =>
      rw [hexecuted, hsame]
      exact hserved.current
  · have hgap : CurrentGapWithin .low
        (min next.metrics.bursts.2 policy.fairnessLowBurst) next.executed := by
      rw [hexecuted, hafter]
      rcases hchosen.low_due hdue with rfl | hlt
      · exact .concat_self _ _ _
      · cases priority with
        | low => exact .concat_self _ _ _
        | high =>
          have hgap := hserved.current.concat Priority.high
          have hnonLow : service.metrics.bursts.2 = service.metrics.consecutiveNonLow := rfl
          apply hgap.mono
          simp only [burstsAfter, ne_eq, reduceCtorEq, not_false_eq_true, reduceIte]
          omega
        | medium =>
          have hgap := hserved.current.concat Priority.medium
          have hnonLow : service.metrics.bursts.2 = service.metrics.consecutiveNonLow := rfl
          apply hgap.mono
          simp only [burstsAfter, ne_eq, reduceCtorEq, not_false_eq_true, reduceIte]
          omega
    constructor
    case current => exact hgap
    case gaps =>
      rw [hexecuted] at hgap ⊢
      exact hserved.gaps.concat (hgap.mono (min_le_right _ _))

/-- In every run during which a job of the class is due at every selection,
every window of that many executions has one of the class. -/
def SchedulerPolicy.ServesWithin (policy : SchedulerPolicy)
    (priority : Priority) (executions : ℕ) : Prop :=
  ∀ busId metrics actions service, BusService.Left policy busId metrics →
    StepsMeet (BusService.step policy busId)
      (BusService.ClassDue busId priority) ⟨metrics, []⟩ actions →
    runFrom (BusService.step policy busId) ⟨metrics, []⟩ actions = some service →
    ∀ window, window <:+: service.executed → window.length = executions → priority ∈ window

structure SchedulerPolicy.StarvesNoClass (policy : SchedulerPolicy) : Prop where
  medium : policy.ServesWithin .medium (policy.fairnessHighBurst + policy.fairnessLowBurst + 2)
  low : policy.ServesWithin .low (policy.fairnessLowBurst + 1)

theorem SchedulerPolicy.servesWithin_of_gaps
    {priority : Priority} {bound executions : ℕ} (hlt : bound < executions)
    (hgaps : ∀ busId metrics service, Reaches (BusService.step policy busId)
        (BusService.ClassDue busId priority) ⟨metrics, []⟩ service →
      GapsWithin priority bound service.executed) :
    policy.ServesWithin priority executions := by
  intro busId metrics actions service _ hmeet hrun window hwindow hlen
  by_contra hmem
  have hle := hgaps busId metrics service (.of_stepsMeet hmeet hrun) window hwindow hmem
  omega

theorem SchedulerPolicy.servesWithin_medium
    (hbursts : policy.fairnessHighBurst < policy.fairnessLowBurst) :
    policy.ServesWithin .medium (policy.fairnessHighBurst + policy.fairnessLowBurst + 2) := by
  refine servesWithin_of_gaps (by omega : 2 * policy.fairnessHighBurst + 1 < _) ?_
  intro busId metrics service hreach
  have hstart : BusService.MediumServed policy ⟨metrics, []⟩ :=
    ⟨.nil, .inl .nil⟩
  have hserved : service.MediumServed policy :=
    hreach.invariant (fun _ _ _ hinv hdue hstep => hinv.step hbursts hdue hstep) hstart
  exact hserved.gaps

theorem SchedulerPolicy.servesWithin_low (policy : SchedulerPolicy) :
    policy.ServesWithin .low (policy.fairnessLowBurst + 1) := by
  refine servesWithin_of_gaps (Nat.lt_succ_self policy.fairnessLowBurst) ?_
  intro busId metrics service hreach
  have hstart : BusService.LowServed policy ⟨metrics, []⟩ := ⟨.nil, .nil⟩
  have hserved : service.LowServed policy :=
    hreach.invariant (fun _ _ _ hinv hdue hstep => hinv.step hdue hstep) hstart
  exact hserved.gaps

/-! ## Equal bursts -/

def saturatedJob (targetId : String) (priority : Priority) (sequence : ℕ) : Job where
  target := {
    targetId
    busId := "rs485-main"
    deviceId := "le01mp-200"
    deviceFamily := "le01mp"
    unitId := 200
    key := targetId
    telemetryChannelId := targetId
    metric := targetId
    unit := ""
    priority
    intervalSeconds := 10 }
  nextDeadline := 0
  sequence

def saturatedBus : Scheduler where
  policy := { highIntervalSeconds := 5
              mediumIntervalSeconds := 10
              lowIntervalSeconds := 30 }
  jobs := fun targetId =>
    if targetId = "probe" then some (saturatedJob "probe" .high 1)
    else if targetId = "voltage" then some (saturatedJob "voltage" .medium 2)
    else if targetId = "energy" then some (saturatedJob "energy" .low 3)
    else none
  busJobs := fun _ => ["probe", "voltage", "energy"]
  endpoints := fun _ => some {}
  metrics := fun _ => none
  sequence := 3
  registryRevision := 1

def saturatedTurn : ServiceAction :=
  .turn saturatedBus 0 (some ⟨0, 0, false, false⟩)

theorem saturatedBus_due : saturatedBus.due "rs485-main" 0 =
    .ok [(saturatedJob "probe" .high 1, 0),
      (saturatedJob "voltage" .medium 2, 0),
      (saturatedJob "energy" .low 3, 0)] := by
  decide +kernel

theorem saturatedBus_sorted :
    [(saturatedJob "probe" .high 1, (0 : ℚ)),
        (saturatedJob "voltage" .medium 2, 0),
        (saturatedJob "energy" .low 3, 0)].insertionSort dueBefore =
      [(saturatedJob "probe" .high 1, 0),
        (saturatedJob "voltage" .medium 2, 0),
        (saturatedJob "energy" .low 3, 0)] := by
  decide +kernel

theorem chooseDue_saturated (policy : SchedulerPolicy) (metrics : BusSchedulerMetrics) :
    (chooseDue policy metrics (saturatedJob "probe" .high 1, 0)
        [(saturatedJob "voltage" .medium 2, 0),
          (saturatedJob "energy" .low 3, 0)]).2.1.target.priority =
      if policy.fairnessLowBurst ≤ metrics.consecutiveNonLow then .low
      else if policy.fairnessHighBurst ≤ metrics.consecutiveHigh then .medium
      else .high := by
  unfold chooseDue chooseAfterHighBurst
  simp only [saturatedJob, List.filter, reduceCtorEq, decide_false, decide_true,
    ne_eq, not_true_eq_false, not_false_eq_true, earliestDue, List.foldl]
  split_ifs <;> rfl

theorem BusService.step_saturatedTurn (policy : SchedulerPolicy) (service : BusService) :
    ∃ next priority, service.step policy "rs485-main" saturatedTurn = some next ∧
        next.executed = service.executed ++ [priority] ∧
        next.metrics.bursts = burstsAfter priority service.metrics.bursts ∧
        priority =
          if policy.fairnessLowBurst ≤ service.metrics.consecutiveNonLow
          then .low
          else if policy.fairnessHighBurst ≤ service.metrics.consecutiveHigh
          then .medium else .high := by
  have hdue : (service.selecting policy "rs485-main" saturatedBus).due
      "rs485-main" 0 = .ok [(saturatedJob "probe" .high 1, 0),
        (saturatedJob "voltage" .medium 2, 0),
        (saturatedJob "energy" .low 3, 0)] := saturatedBus_due
  have hmetrics : (service.selecting policy "rs485-main" saturatedBus).metrics
      "rs485-main" = some service.metrics := by
    simp [BusService.selecting, Scheduler.setMetrics]
  have hbegin : ∃ selected choice, (service.selecting policy "rs485-main" saturatedBus).beginRun
        "rs485-main" 0 = .ok (selected, choice) := by
    unfold Scheduler.beginRun Scheduler.select Scheduler.metricsOf
    simp only [hdue, hmetrics, saturatedBus_sorted, bind, Except.bind, pure, Except.pure]
    simp [Scheduler.setMetrics]
  obtain ⟨selected, choice, hbegin⟩ := hbegin
  obtain ⟨counted, hcounted, hbursts, hchoice⟩ :=
    Scheduler.beginRun_choice hmetrics hdue hbegin
  rcases hchoice with ⟨_, hnil⟩ | ⟨first, rest, hsort, rfl⟩
  · cases hnil
  · rw [saturatedBus_sorted, List.cons.injEq] at hsort
    obtain ⟨rfl, rfl⟩ := hsort
    let job := (chooseDue policy (service.metrics.observeQueue 3)
      (saturatedJob "probe" .high 1, 0) [(saturatedJob "voltage" .medium 2, 0),
        (saturatedJob "energy" .low 3, 0)]).2.1
    refine ⟨service.count counted job (some ⟨0, 0, false, false⟩),
      job.target.priority, ?_, rfl, ?_, chooseDue_saturated policy _⟩
    · simp only [BusService.step, saturatedTurn, hbegin, hcounted, Option.map_some]
      rfl
    · rw [← hbursts]
      rfl

theorem BusService.run_saturatedTurns (hequal : policy.fairnessHighBurst = policy.fairnessLowBurst)
    (turns : ℕ) (service : BusService)
    (hlevel : service.metrics.bursts.1 = service.metrics.bursts.2) :
    ∃ last executed, runFrom (BusService.step policy "rs485-main") service
          (List.replicate turns saturatedTurn) = some last ∧
        last.executed = service.executed ++ executed ∧
        executed.length = turns ∧ Priority.medium ∉ executed := by
  induction turns generalizing service with
  | zero => exact ⟨service, [], rfl, by simp, rfl, by simp⟩
  | succ turns ih =>
    obtain ⟨next, priority, hstep, hexecuted, hafter, hpriority⟩ :=
      service.step_saturatedTurn policy
    have hcounters : service.metrics.consecutiveHigh = service.metrics.consecutiveNonLow := hlevel
    rw [hequal, hcounters] at hpriority
    have hnext : priority ≠ .medium ∧ next.metrics.bursts.1 = next.metrics.bursts.2 := by
      rw [hafter, hpriority]
      split_ifs
      · simp [burstsAfter]
      · simpa [burstsAfter] using hlevel
    obtain ⟨last, executed, hrun, hlast, hlen, hmem⟩ := ih next hnext.2
    refine ⟨last, priority :: executed, ?_, ?_, ?_, ?_⟩
    · rw [List.replicate_succ, runFrom_cons_of_step hstep]
      exact hrun
    · rw [hlast, hexecuted, List.append_assoc, List.singleton_append]
    · rw [List.length_cons, hlen]
    · rw [List.mem_cons, not_or]
      exact ⟨hnext.1.symm, hmem⟩

theorem SchedulerPolicy.starves_of_equal_bursts
    (hequal : policy.fairnessHighBurst = policy.fairnessLowBurst) :
    ¬ policy.StarvesNoClass := by
  intro hserves
  obtain ⟨last, executed, hrun, hlast, hlen, hmem⟩ :=
    BusService.run_saturatedTurns hequal (policy.fairnessHighBurst + policy.fairnessLowBurst + 2)
      ⟨{}, []⟩ rfl
  have hdue : ∀ service, ∀ action ∈ List.replicate
      (policy.fairnessHighBurst + policy.fairnessLowBurst + 2) saturatedTurn,
      BusService.ClassDue "rs485-main" .medium service action := by
    intro service action haction
    rw [List.eq_of_mem_replicate haction]
    exact ⟨_, saturatedBus_due, (saturatedJob "voltage" .medium 2, 0),
      by simp, rfl⟩
  apply hmem
  apply hserves.medium "rs485-main" {} _ last ⟨[], .refl _⟩
    (.of_forall hdue _) hrun executed
  · rw [hlast]
    exact List.infix_rfl
  · exact hlen

/-- An accepted policy starves no class exactly when its high burst is shorter
than its low burst; equal bursts are accepted as well. -/
theorem fromEnvironment_starvesNoClass_iff
    {environment : PolicyEnvironment} {legacyIntervalSeconds : ℚ}
    {policy : SchedulerPolicy}
    (hread : SchedulerPolicy.fromEnvironment environment
      legacyIntervalSeconds = .ok policy) :
    policy.StarvesNoClass ↔
      policy.fairnessHighBurst < policy.fairnessLowBurst := by
  have hacc := SchedulerPolicy.fromEnvironment_accepted hread
  constructor
  · intro hserves
    by_contra hnot
    have hequal : policy.fairnessHighBurst = policy.fairnessLowBurst :=
      le_antisymm hacc.bursts_le (by omega)
    exact SchedulerPolicy.starves_of_equal_bursts hequal hserves
  · intro hbursts
    exact ⟨SchedulerPolicy.servesWithin_medium hbursts,
      SchedulerPolicy.servesWithin_low policy⟩

def burstEnvironment (highBurst lowBurst : ℤ) : PolicyEnvironment where
  asFloat := fun _ => .blank
  asInt := fun name =>
    if name = "ACQUISITION_FAIRNESS_HIGH_BURST" then .number highBurst
    else if name = "ACQUISITION_FAIRNESS_LOW_BURST" then .number lowBurst
    else .blank

def burstPolicy (highBurst lowBurst : ℕ) : SchedulerPolicy where
  highIntervalSeconds := 5
  mediumIntervalSeconds := 10
  lowIntervalSeconds := 30
  fairnessHighBurst := highBurst
  fairnessLowBurst := lowBurst

theorem burstEnvironment_starvesNoClass_iff :
    SchedulerPolicy.fromEnvironment (burstEnvironment 8 12) 5 = .ok (burstPolicy 8 12) ∧
      ((burstPolicy 8 12).StarvesNoClass ↔ 8 < 12) := by
  have hread : SchedulerPolicy.fromEnvironment (burstEnvironment 8 12) 5 =
      .ok (burstPolicy 8 12) := by decide +kernel
  exact ⟨hread, fromEnvironment_starvesNoClass_iff hread⟩

/-- Two bursts of one: high and low executions alternate and the medium job,
due all the time, is never executed. -/
theorem fromEnvironment_starves :
    ¬ ∀ environment legacyIntervalSeconds policy,
      SchedulerPolicy.fromEnvironment environment legacyIntervalSeconds =
        .ok policy → policy.StarvesNoClass := by
  intro hclaim
  have hread : SchedulerPolicy.fromEnvironment (burstEnvironment 1 1) 5 =
      .ok (burstPolicy 1 1) := by decide +kernel
  exact SchedulerPolicy.starves_of_equal_bursts rfl (hclaim _ _ _ hread)

end Nexolab
