import Mathlib.Data.Prod.Lex
import Mathlib.Data.String.Basic
import Nexolab.ClampedIntervals
import Nexolab.OrderedDictionary
import Nexolab.PythonValues

/-!
# Durations of a daily report

`calculate_compressor_runtime` and `calculate_state_duration` sort the points of a
controller, keep one point for each timestamp, and add up what the intervals
between neighbours have in common with the window.  An interval counts when both
of its points are valid and it is no longer than the gap, which is derived from
all points.  Timestamps are exact seconds.
-/

namespace Nexolab

structure TelemetryPoint where
  capturedAt : ℚ
  value : Option FloatValue
  (quality eventId : String)

def defaultSourceGapSeconds : ℚ := 90

def sourceGapMultiplier : ℚ := 3

def TelemetryPoint.isValid (point : TelemetryPoint) : Bool :=
  decide (point.quality = "valid") &&
    match point.value with
    | some (.finite value) => decide (0 ≤ value)
    | _ => false

def TelemetryPoint.normalized (point : TelemetryPoint) : TelemetryPoint :=
  if point.isValid then point
  else { point with value := none, quality := "invalid" }

def TelemetryPoint.Precedes (first second : TelemetryPoint) : Prop :=
  toLex (first.capturedAt, first.eventId) ≤ toLex (second.capturedAt, second.eventId)

instance : DecidableRel TelemetryPoint.Precedes :=
  fun _ _ => inferInstanceAs (Decidable (toLex _ ≤ toLex _))

instance : Std.Total TelemetryPoint.Precedes := ⟨fun _ _ => le_total _ _⟩

instance : IsTrans TelemetryPoint TelemetryPoint.Precedes :=
  ⟨fun _ _ _ hfirst hsecond => hfirst.trans hsecond⟩

def sortedPoints (points : List TelemetryPoint) : List TelemetryPoint :=
  points.insertionSort TelemetryPoint.Precedes

/-- `_normalize_points`: the last point of a timestamp is the one which stays. -/
def normalizePoints (points : List TelemetryPoint) : List TelemetryPoint :=
  let byTimestamp : Dictionary ℚ TelemetryPoint :=
    Dictionary.ofItems TelemetryPoint.capturedAt
      ((sortedPoints points).map TelemetryPoint.normalized)
  (byTimestamp.keys.insertionSort (· ≤ ·)).filterMap byTimestamp.get?

def median (data : List ℚ) : ℚ :=
  let middle := data.length / 2
  if data.length % 2 = 1 then data.getD middle 0
  else (data.getD (middle - 1) 0 + data.getD middle 0) / 2

def deriveSourceGapSeconds (points : List TelemetryPoint) : ℚ :=
  let timestamps := (points.map TelemetryPoint.capturedAt).dedup.insertionSort (· ≤ ·)
  let deltas := (((neighbours timestamps).filter fun pair =>
    decide (pair.1 < pair.2)).map fun pair => pair.2 - pair.1).insertionSort (· ≤ ·)
  if deltas.length < 2 then defaultSourceGapSeconds
  else max defaultSourceGapSeconds (median deltas * sourceGapMultiplier)

/-! ## The loop -/

structure DurationTotals where
  (active observed : ℚ)
  breaks : ℕ

def observePair (gap start stop : ℚ) (isActive : FloatValue → Bool)
    (totals : DurationTotals) (pair : TelemetryPoint × TelemetryPoint) :
    DurationTotals :=
  let duration := pair.2.capturedAt - pair.1.capturedAt
  let overlap := min stop pair.2.capturedAt - max start pair.1.capturedAt
  if duration ≤ 0 then totals
  else if overlap ≤ 0 then totals
  else if gap < duration ∨ pair.1.isValid = false ∨ pair.2.isValid = false then
    { totals with breaks := totals.breaks + 1 }
  else
    { totals with
      observed := totals.observed + overlap
      active := if pair.1.value.any isActive then totals.active + overlap
        else totals.active }

def durationTotals (points : List TelemetryPoint) (start stop : ℚ)
    (isActive : FloatValue → Bool) : DurationTotals :=
  let ordered := normalizePoints points
  (neighbours ordered).foldl
    (observePair (deriveSourceGapSeconds ordered) start stop isActive) ⟨0, 0, 0⟩

structure CompressorRuntimeResult where
  status : String
  dutyPercent : Option ℚ
  (coveragePercent runningSeconds observedSeconds requestedSeconds : ℚ)
  continuityBreaks : ℕ
  sourceGapSeconds : ℚ

structure StateDurationResult where
  status : String
  durationSeconds : Option ℚ
  (observedSeconds requestedSeconds coveragePercent : ℚ)
  continuityBreaks : ℕ
  sourceGapSeconds : ℚ

def isRunning (value : FloatValue) : Bool := FloatValue.lt (.finite 0) value

def isActiveState (activeValues : List ℤ) : FloatValue → Bool
  | .finite value => decide (⌊value⌋ ∈ activeValues)
  | _ => false

def statusOf (observed : ℚ) : String :=
  if 0 < observed then "available" else "unavailable"

def coveragePercent (observed requested : ℚ) : ℚ :=
  min 100 (observed / requested * 100)

def calculateCompressorRuntime (points : List TelemetryPoint) (start stop : ℚ) :
    Except String CompressorRuntimeResult :=
  if stop ≤ start then .error "compressor window must be a positive interval"
  else
    let totals := durationTotals points start stop isRunning
    .ok {
      status := statusOf totals.observed
      dutyPercent := if 0 < totals.observed then
        some (totals.active / totals.observed * 100) else none
      coveragePercent := coveragePercent totals.observed (stop - start)
      runningSeconds := totals.active
      observedSeconds := totals.observed
      requestedSeconds := stop - start
      continuityBreaks := totals.breaks
      sourceGapSeconds := deriveSourceGapSeconds (normalizePoints points) }

def calculateStateDuration (points : List TelemetryPoint) (start stop : ℚ)
    (activeValues : List ℤ) : Except String StateDurationResult :=
  if stop ≤ start then .error "state-duration window must be a positive interval"
  else
    let totals := durationTotals points start stop (isActiveState activeValues)
    .ok {
      status := statusOf totals.observed
      durationSeconds := if 0 < totals.observed then some totals.active else none
      observedSeconds := totals.observed
      requestedSeconds := stop - start
      coveragePercent := coveragePercent totals.observed (stop - start)
      continuityBreaks := totals.breaks
      sourceGapSeconds := deriveSourceGapSeconds (normalizePoints points) }

variable {points others : List TelemetryPoint}

theorem sortedPoints_perm
    (hperm : points.Perm others) (hids : (points.map TelemetryPoint.eventId).Nodup) :
    sortedPoints points = sortedPoints others := by
  refine List.Perm.eq_of_pairwise ?_ (List.pairwise_insertionSort _ points)
    (List.pairwise_insertionSort _ others) ?_
  · intro first second hfirst hsecond hbefore hafter
    have hid : first.eventId = second.eventId :=
      congrArg Prod.snd (toLex.injective (le_antisymm hbefore hafter))
    exact List.inj_on_of_nodup_map hids ((List.mem_insertionSort _).mp hfirst)
      (hperm.mem_iff.mpr ((List.mem_insertionSort _).mp hsecond)) hid
  · exact ((List.perm_insertionSort _ points).trans hperm).trans
      (List.perm_insertionSort _ others).symm

theorem normalizePoints_perm
    (hperm : points.Perm others) (hids : (points.map TelemetryPoint.eventId).Nodup) :
    normalizePoints points = normalizePoints others := by
  unfold normalizePoints
  rw [sortedPoints_perm hperm hids]

theorem ofItems_keyed {κ ν : Type*} [DecidableEq κ] (key : ν → κ) (items : List ν) :
    Dictionary.Keyed key (Dictionary.ofItems key items) := by
  have hgeneral : ∀ dictionary : Dictionary κ ν, Dictionary.Keyed key dictionary →
      Dictionary.Keyed key
        (items.foldl (fun done item => done.set (key item) item) dictionary) := by
    induction items with
    | nil => exact fun dictionary hkeyed => hkeyed
    | cons item rest ih => exact fun dictionary hkeyed => ih _ (hkeyed.set item)
  exact hgeneral [] fun entry hmem => (by cases hmem)

theorem normalizePoints_sorted (points : List TelemetryPoint) :
    (normalizePoints points).Pairwise fun left right =>
      left.capturedAt ≤ right.capturedAt := by
  have hkeyed := ofItems_keyed TelemetryPoint.capturedAt
    ((sortedPoints points).map TelemetryPoint.normalized)
  unfold normalizePoints
  dsimp only
  rw [List.pairwise_filterMap]
  refine (List.pairwise_insertionSort (· ≤ ·) _).imp ?_
  intro left right hle first hfirst second hsecond
  have hleft := hkeyed _ (Dictionary.mem_of_get? hfirst)
  have hright := hkeyed _ (Dictionary.mem_of_get? hsecond)
  rw [hleft, hright]
  exact hle

section Pairs

variable (gap start stop : ℚ) (isActive : FloatValue → Bool)

def counts (pair : TelemetryPoint × TelemetryPoint) : Bool :=
  decide (pair.1.capturedAt < pair.2.capturedAt ∧
    pair.2.capturedAt - pair.1.capturedAt ≤ gap) &&
    (pair.1.isValid && pair.2.isValid)

def observedPart (pair : TelemetryPoint × TelemetryPoint) : ℚ :=
  if counts gap pair = true then
    clampedLength start stop pair.1.capturedAt pair.2.capturedAt
  else 0

def activePart (pair : TelemetryPoint × TelemetryPoint) : ℚ :=
  if pair.1.value.any isActive = true then observedPart gap start stop pair else 0

theorem observePair_eq (totals : DurationTotals) (pair : TelemetryPoint × TelemetryPoint) :
    (observePair gap start stop isActive totals pair).active =
        totals.active + activePart gap start stop isActive pair ∧
      (observePair gap start stop isActive totals pair).observed =
        totals.observed + observedPart gap start stop pair := by
  unfold observePair activePart observedPart counts
  dsimp only
  by_cases hduration : pair.2.capturedAt - pair.1.capturedAt ≤ 0
  · have hnot : ¬ pair.1.capturedAt < pair.2.capturedAt := by linarith
    simp [hduration, hnot]
  · have hlt : pair.1.capturedAt < pair.2.capturedAt := by linarith
    rw [if_neg hduration]
    by_cases hoverlap :
        min stop pair.2.capturedAt - max start pair.1.capturedAt ≤ 0
    · have hzero : clampedLength start stop pair.1.capturedAt pair.2.capturedAt = 0 :=
        max_eq_left hoverlap
      simp [hoverlap, hzero]
    · have hpart : clampedLength start stop pair.1.capturedAt pair.2.capturedAt =
          min stop pair.2.capturedAt - max start pair.1.capturedAt :=
        max_eq_right (le_of_not_ge hoverlap)
      rw [if_neg hoverlap, hpart]
      by_cases hbreak : gap < pair.2.capturedAt - pair.1.capturedAt ∨
          pair.1.isValid = false ∨ pair.2.isValid = false
      · rw [if_pos hbreak]
        have hnot : ¬ (decide (pair.1.capturedAt < pair.2.capturedAt ∧
            pair.2.capturedAt - pair.1.capturedAt ≤ gap) &&
            (pair.1.isValid && pair.2.isValid)) = true := by
          rcases hbreak with hlong | hfirst | hsecond
          · simp [not_le.mpr hlong]
          · simp [hfirst]
          · simp [hsecond]
        rw [if_neg hnot]
        simp
      · rw [if_neg hbreak]
        push Not at hbreak
        simp only [Bool.not_eq_false] at hbreak
        have hcounts : (decide (pair.1.capturedAt < pair.2.capturedAt ∧
            pair.2.capturedAt - pair.1.capturedAt ≤ gap) &&
            (pair.1.isValid && pair.2.isValid)) = true := by
          simp [hlt, hbreak.1, hbreak.2.1, hbreak.2.2]
        rw [if_pos hcounts]
        constructor
        · split <;> simp
        · rfl

theorem foldl_observePair (pairs : List (TelemetryPoint × TelemetryPoint))
    (totals : DurationTotals) :
    (pairs.foldl (observePair gap start stop isActive) totals).active =
        totals.active + (pairs.map (activePart gap start stop isActive)).sum ∧
      (pairs.foldl (observePair gap start stop isActive) totals).observed =
        totals.observed + (pairs.map (observedPart gap start stop)).sum := by
  induction pairs generalizing totals with
  | nil => simp
  | cons pair rest ih =>
    obtain ⟨hact, hobsd⟩ := observePair_eq gap start stop isActive totals pair
    obtain ⟨hrestActive, hrestObserved⟩ :=
      ih (observePair gap start stop isActive totals pair)
    rw [List.foldl_cons, hrestActive, hrestObserved, hact, hobsd]
    simp only [List.map_cons, List.sum_cons]
    constructor <;> ring

theorem observedPart_nonneg (pair : TelemetryPoint × TelemetryPoint) :
    0 ≤ observedPart gap start stop pair := by
  unfold observedPart
  split
  · exact le_max_left _ _
  · exact le_refl _

theorem activePart_bounds (pair : TelemetryPoint × TelemetryPoint) :
    0 ≤ activePart gap start stop isActive pair ∧
      activePart gap start stop isActive pair ≤ observedPart gap start stop pair := by
  have hobsd := observedPart_nonneg gap start stop pair
  unfold activePart
  split
  · exact ⟨hobsd, le_refl _⟩
  · exact ⟨le_refl _, hobsd⟩

end Pairs

theorem observedPart_split {gap start middle stop : ℚ} (hbefore : start ≤ middle)
    (hafter : middle ≤ stop) (pair : TelemetryPoint × TelemetryPoint) :
    observedPart gap start stop pair =
      observedPart gap start middle pair + observedPart gap middle stop pair := by
  unfold observedPart
  split
  next hcounts =>
    have hlt : pair.1.capturedAt < pair.2.capturedAt := by
      simp only [counts, Bool.and_eq_true, decide_eq_true_eq] at hcounts
      exact hcounts.1.1
    exact clampedLength_split hbefore hafter hlt.le
  next => simp

theorem durationTotals_eq (points : List TelemetryPoint) (start stop : ℚ)
    (isActive : FloatValue → Bool) :
    (durationTotals points start stop isActive).active =
        ((neighbours (normalizePoints points)).map (activePart
          (deriveSourceGapSeconds (normalizePoints points)) start stop isActive)).sum ∧
      (durationTotals points start stop isActive).observed =
        ((neighbours (normalizePoints points)).map (observedPart
          (deriveSourceGapSeconds (normalizePoints points)) start stop)).sum := by
  have hfold := foldl_observePair (deriveSourceGapSeconds (normalizePoints points))
    start stop isActive (neighbours (normalizePoints points)) ⟨0, 0, 0⟩
  unfold durationTotals
  simpa using hfold

theorem durationTotals_bounds (points : List TelemetryPoint) {start stop : ℚ}
    (hwindow : start ≤ stop) (isActive : FloatValue → Bool) :
    0 ≤ (durationTotals points start stop isActive).active ∧
      (durationTotals points start stop isActive).active ≤
        (durationTotals points start stop isActive).observed ∧
      (durationTotals points start stop isActive).observed ≤ stop - start := by
  obtain ⟨hact, hobsd⟩ := durationTotals_eq points start stop isActive
  rw [hact, hobsd]
  refine ⟨?_, ?_, ?_⟩
  · apply List.sum_nonneg
    intro part hpart
    obtain ⟨pair, _, rfl⟩ := List.mem_map.mp hpart
    exact (activePart_bounds _ _ _ _ pair).1
  · exact List.sum_le_sum fun pair _ => (activePart_bounds _ _ _ _ pair).2
  · refine (List.sum_le_sum fun pair _ => ?_).trans
      (sum_clampedLength_le hwindow (normalizePoints_sorted points))
    unfold observedPart
    split
    · exact le_refl _
    · exact le_max_left _ _

theorem durationTotals_split (points : List TelemetryPoint) {start middle stop : ℚ}
    (hbefore : start ≤ middle) (hafter : middle ≤ stop) (isActive : FloatValue → Bool) :
    (durationTotals points start stop isActive).active =
        (durationTotals points start middle isActive).active +
          (durationTotals points middle stop isActive).active ∧
      (durationTotals points start stop isActive).observed =
        (durationTotals points start middle isActive).observed +
          (durationTotals points middle stop isActive).observed := by
  obtain ⟨hact, hobsd⟩ := durationTotals_eq points start stop isActive
  obtain ⟨hactiveLeft, hobservedLeft⟩ := durationTotals_eq points start middle isActive
  obtain ⟨hactiveRight, hobservedRight⟩ := durationTotals_eq points middle stop isActive
  rw [hact, hobsd, hactiveLeft, hobservedLeft, hactiveRight, hobservedRight,
    ← List.sum_map_add, ← List.sum_map_add]
  constructor
  · congr 1
    apply List.map_congr_left
    intro pair _
    unfold activePart
    split
    · exact observedPart_split hbefore hafter pair
    · simp
  · congr 1
    exact List.map_congr_left fun pair _ => observedPart_split hbefore hafter pair

def StateDurationResult.activeSeconds (result : StateDurationResult) : ℚ :=
  result.durationSeconds.getD 0

theorem activeSeconds_eq {points : List TelemetryPoint} {start stop : ℚ}
    {activeValues : List ℤ} {result : StateDurationResult}
    (hres : calculateStateDuration points start stop activeValues = .ok result) :
    result.activeSeconds = (durationTotals points start stop (isActiveState activeValues)).active ∧
      result.observedSeconds =
        (durationTotals points start stop (isActiveState activeValues)).observed ∧
      result.requestedSeconds = stop - start ∧ start < stop := by
  unfold calculateStateDuration at hres
  split at hres
  next => cases hres
  next hwindow =>
    cases hres
    have hlt := not_le.mp hwindow
    refine ⟨?_, rfl, rfl, hlt⟩
    obtain ⟨hnonneg, hle, _⟩ := durationTotals_bounds points hlt.le (isActiveState activeValues)
    unfold StateDurationResult.activeSeconds
    dsimp only
    split
    next => rfl
    next hnone => exact le_antisymm hnonneg (hle.trans (not_lt.mp hnone))

theorem runningSeconds_eq {points : List TelemetryPoint} {start stop : ℚ}
    {result : CompressorRuntimeResult}
    (hres : calculateCompressorRuntime points start stop = .ok result) :
    result.runningSeconds = (durationTotals points start stop isRunning).active ∧
      result.observedSeconds = (durationTotals points start stop isRunning).observed ∧
      result.requestedSeconds = stop - start ∧ start < stop := by
  unfold calculateCompressorRuntime at hres
  split at hres
  next => cases hres
  next hwindow =>
    cases hres
    exact ⟨rfl, rfl, rfl, not_le.mp hwindow⟩

/-- The durations of both functions do not depend on the order of the points, lie
within the window, and add up over its parts. -/
theorem reportDurations_lawful (points : List TelemetryPoint)
    (hids : (points.map TelemetryPoint.eventId).Nodup) (activeValues : List ℤ) :
    (∀ others, points.Perm others → ∀ start stop,
      calculateCompressorRuntime points start stop =
          calculateCompressorRuntime others start stop ∧
        calculateStateDuration points start stop activeValues =
          calculateStateDuration others start stop activeValues) ∧
    (∀ start stop runtime, calculateCompressorRuntime points start stop = .ok runtime →
        0 ≤ runtime.runningSeconds ∧ runtime.runningSeconds ≤ runtime.observedSeconds ∧
          runtime.observedSeconds ≤ runtime.requestedSeconds) ∧
    (∀ start stop duration,
      calculateStateDuration points start stop activeValues = .ok duration →
        0 ≤ duration.activeSeconds ∧ duration.activeSeconds ≤ duration.observedSeconds ∧
          duration.observedSeconds ≤ duration.requestedSeconds) ∧
    (∀ start middle stop, start < middle → middle < stop → ∃ left right whole,
        calculateCompressorRuntime points start middle = .ok left ∧
        calculateCompressorRuntime points middle stop = .ok right ∧
        calculateCompressorRuntime points start stop = .ok whole ∧
        left.runningSeconds + right.runningSeconds = whole.runningSeconds ∧
        left.observedSeconds + right.observedSeconds = whole.observedSeconds) ∧
    ∀ start middle stop, start < middle → middle < stop →
      ∃ left right whole,
        calculateStateDuration points start middle activeValues = .ok left ∧
        calculateStateDuration points middle stop activeValues = .ok right ∧
        calculateStateDuration points start stop activeValues = .ok whole ∧
        left.activeSeconds + right.activeSeconds = whole.activeSeconds ∧
        left.observedSeconds + right.observedSeconds = whole.observedSeconds := by
  refine ⟨?_, ?_, ?_, ?_, ?_⟩
  · intro others hperm start stop
    have hnormalized := normalizePoints_perm hperm hids
    unfold calculateCompressorRuntime calculateStateDuration durationTotals
    rw [hnormalized]
    exact ⟨rfl, rfl⟩
  · intro start stop runtime hruntime
    obtain ⟨hrun, hobsd, hrequested, hlt⟩ := runningSeconds_eq hruntime
    rw [hrun, hobsd, hrequested]
    exact durationTotals_bounds points hlt.le isRunning
  · intro start stop duration hduration
    obtain ⟨hact, hobsd, hrequested, hlt⟩ := activeSeconds_eq hduration
    rw [hact, hobsd, hrequested]
    exact durationTotals_bounds points hlt.le (isActiveState activeValues)
  · intro start middle stop hbefore hafter
    obtain ⟨hact, hobsd⟩ :=
      durationTotals_split points hbefore.le hafter.le isRunning
    have hres (left right : ℚ) (hlt : left < right) : ∃ result,
        calculateCompressorRuntime points left right = .ok result := by
      unfold calculateCompressorRuntime
      rw [if_neg (not_le.mpr hlt)]
      exact ⟨_, rfl⟩
    obtain ⟨left, hleft⟩ := hres start middle hbefore
    obtain ⟨right, hright⟩ := hres middle stop hafter
    obtain ⟨whole, hwhole⟩ := hres start stop (hbefore.trans hafter)
    obtain ⟨hleftActive, hleftObserved, _⟩ := runningSeconds_eq hleft
    obtain ⟨hrightActive, hrightObserved, _⟩ := runningSeconds_eq hright
    obtain ⟨hwholeActive, hwholeObserved, _⟩ := runningSeconds_eq hwhole
    refine ⟨left, right, whole, hleft, hright, hwhole, ?_, ?_⟩
    · rw [hleftActive, hrightActive, hwholeActive, hact]
    · rw [hleftObserved, hrightObserved, hwholeObserved, hobsd]
  · intro start middle stop hbefore hafter
    obtain ⟨hact, hobsd⟩ :=
      durationTotals_split points hbefore.le hafter.le (isActiveState activeValues)
    have hres (left right : ℚ) (hlt : left < right) : ∃ result,
        calculateStateDuration points left right activeValues = .ok result := by
      unfold calculateStateDuration
      rw [if_neg (not_le.mpr hlt)]
      exact ⟨_, rfl⟩
    obtain ⟨left, hleft⟩ := hres start middle hbefore
    obtain ⟨right, hright⟩ := hres middle stop hafter
    obtain ⟨whole, hwhole⟩ := hres start stop (hbefore.trans hafter)
    obtain ⟨hleftActive, hleftObserved, _⟩ := activeSeconds_eq hleft
    obtain ⟨hrightActive, hrightObserved, _⟩ := activeSeconds_eq hright
    obtain ⟨hwholeActive, hwholeObserved, _⟩ := activeSeconds_eq hwhole
    refine ⟨left, right, whole, hleft, hright, hwhole, ?_, ?_⟩
    · rw [hleftActive, hrightActive, hwholeActive, hact]
    · rw [hleftObserved, hrightObserved, hwholeObserved, hobsd]

/-- A compressor which runs from 0 to 60 and stands still to 120; one timestamp is
doubled, and the last value is missing. -/
def compressorPoints : List TelemetryPoint :=
  [⟨120, none, "valid", "e"⟩, ⟨60, some (.finite 0), "valid", "d"⟩,
    ⟨0, some (.finite 0), "valid", "a"⟩, ⟨0, some (.finite 50), "valid", "b"⟩,
    ⟨110, some (.finite 0), "valid", "c"⟩]

theorem reportDurations_lawful_split :
    (compressorPoints.map TelemetryPoint.eventId).Nodup ∧
      (calculateCompressorRuntime compressorPoints 10 130).toOption.map
        (fun result => (result.runningSeconds, result.observedSeconds,
          result.continuityBreaks)) = some (50, 100, 1) ∧
      ∃ left right whole,
        calculateCompressorRuntime compressorPoints 10 40 = .ok left ∧
        calculateCompressorRuntime compressorPoints 40 130 = .ok right ∧
        calculateCompressorRuntime compressorPoints 10 130 = .ok whole ∧
        left.runningSeconds + right.runningSeconds = whole.runningSeconds ∧
        left.observedSeconds + right.observedSeconds = whole.observedSeconds :=
  ⟨by decide +kernel, by decide +kernel,
    (reportDurations_lawful compressorPoints (by decide +kernel) [3]).2.2.2.1 10 40 130
      (by norm_num) (by norm_num)⟩

end Nexolab
