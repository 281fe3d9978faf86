import Nexolab.AcquisitionCapacity

/-!
# The recommended interval

The recommendation is computed from other figures than the ones the safety of a
bus is decided by: without changed devices the work is summed as it is displayed,
and the tolerance of the comparison is left out.  It is the least safe interval
exactly when no interval lies between the two computations.
-/

namespace Nexolab

/-- An interval in whole seconds which a policy may contain. -/
structure CadenceInterval where
  seconds : ℤ
  bounded : cadenceMinSeconds ≤ seconds ∧ (seconds : ℚ) ≤ cadenceMaxSeconds

def CadencePolicy.override (policy : CadencePolicy) (deviceIds : List String)
    (interval : CadenceInterval) : CadencePolicy :=
  { policy with
    deviceOverrides := deviceIds.map (⟨·, interval.seconds⟩) ++
      policy.deviceOverrides.filter fun item => item.deviceId ∉ deviceIds }

namespace AcquisitionRegistry

def retimed (registry : AcquisitionRegistry) (deviceIds : List String)
    (interval : CadenceInterval) : AcquisitionRegistry where
  document :=
    { registry.document with
      cadence := registry.document.cadence.override deviceIds interval }
  deviceIds_nodup := registry.deviceIds_nodup
  targetIds_nodup := registry.targetIds_nodup
  intervals_bounded := by
    intro seconds hseconds
    rcases List.mem_append.mp hseconds with hdefault | hoverride
    · exact registry.intervals_bounded _ (List.mem_append_left _ hdefault)
    · obtain ⟨item, hitem, rfl⟩ := List.mem_map.mp hoverride
      rcases List.mem_append.mp hitem with hnew | hold
      · obtain ⟨deviceId, _, rfl⟩ := List.mem_map.mp hnew
        exact interval.bounded
      · exact registry.intervals_bounded _ (List.mem_append_right _
          (List.mem_map_of_mem (List.mem_of_mem_filter hold)))

def retimedDevices (registry : AcquisitionRegistry) (requests : TargetRequests)
    (changed : List String) (busId : String) : List String :=
  if changed ≠ [] then
    ((registry.document.devices.filter fun device =>
      device.busId = busId ∧ device.deviceId ∈ changed).map RegistryDevice.deviceId)
  else (registry.activeDevices requests busId).map RegistryDevice.deviceId

end AcquisitionRegistry

def CapacitySummary.safeOn (summary : CapacitySummary) (busId : String) :
    Option Bool :=
  (summary.buses.find? fun report => report.busId = busId).map BusReport.safe

def safeAt (registry : AcquisitionRegistry)
    (profiles : String → Option BusCapacityProfile) (busIds changed : List String)
    (maxUtilization : ℚ) (busId : String) (interval : CadenceInterval) :
    Option Bool := do
  let requests ← (targetRequests registry).toOption
  let deviceIds := registry.retimedDevices requests changed busId
  let summary ← ((registry.retimed deviceIds interval).evaluateCapacity profiles
    busIds changed maxUtilization).toOption
  summary.safeOn busId

namespace BusEvaluation

variable (evaluation : BusEvaluation) (changed : List String) (maxUtilization : ℚ)

def retimedWork : ℚ :=
  if changed ≠ [] then evaluation.changedWork changed
  else (evaluation.loads.map DeviceLoad.workSeconds).sum

/-- No interval lies between the displayed work in the allowed share and the work
in the share the comparison tolerates. -/
def FiguresAgree : Prop :=
  ∀ seconds : ℤ, 10 ≤ seconds →
    (evaluation.dividedWork changed ≤ seconds * (maxUtilization - evaluation.fixedShare changed) ↔
      evaluation.retimedWork changed ≤
        seconds * (maxUtilization + 1 / 10 ^ 9 - evaluation.fixedShare changed))

end BusEvaluation

section Retimed

variable {registry : AcquisitionRegistry} {requests : TargetRequests}
  {profiles : String → Option BusCapacityProfile} {busIds changed : List String}
  {maxUtilization : ℚ} {busId : String}

theorem CadencePolicy.override_effectiveInterval {policy : CadencePolicy}
    {deviceIds : List String} {interval : CadenceInterval} (deviceId familyBus family : String) :
    (policy.override deviceIds interval).effectiveInterval deviceId familyBus family =
      if deviceId ∈ deviceIds then .ok (↑interval.seconds, .deviceOverride)
      else policy.effectiveInterval deviceId familyBus family := by
  unfold effectiveInterval override
  rw [List.find?_append]
  split_ifs with hretimed
  · have hfind : (deviceIds.map fun id =>
        (⟨id, interval.seconds⟩ : DeviceCadenceOverride)).find?
          (fun item => item.deviceId = deviceId) =
        some ⟨deviceId, interval.seconds⟩ := by
      rw [List.find?_map]
      have hsome : deviceIds.find? ((fun item : DeviceCadenceOverride =>
          decide (item.deviceId = deviceId)) ∘ fun id => ⟨id, ↑interval.seconds⟩) =
          some deviceId := by
        rw [List.find?_eq_some_iff_append]
        obtain ⟨before, after, hsplit, hnot⟩ :=
          List.eq_append_cons_of_mem hretimed
        refine ⟨by simp, before, after, hsplit, ?_⟩
        intro other hother
        simp only [Function.comp_apply, Bool.not_eq_true', decide_eq_false_iff_not]
        rintro rfl
        exact hnot hother
      rw [hsome]
      rfl
    rw [hfind]
    rfl
  · have hnone : (deviceIds.map fun id =>
        (⟨id, interval.seconds⟩ : DeviceCadenceOverride)).find?
          (fun item => item.deviceId = deviceId) = none := by
      rw [List.find?_eq_none]
      intro item hitem hsame
      obtain ⟨id, hid, rfl⟩ := List.mem_map.mp hitem
      simp only [decide_eq_true_eq] at hsame
      exact hretimed (hsame ▸ hid)
    have hkept : (policy.deviceOverrides.filter fun item =>
        decide (item.deviceId ∉ deviceIds)).find? (fun item => item.deviceId = deviceId) =
        policy.deviceOverrides.find? fun item => item.deviceId = deviceId := by
      rw [List.find?_filter]
      congr 1
      funext item
      by_cases hsame : item.deviceId = deviceId <;> simp [hsame, hretimed]
    rw [hnone, hkept]
    rfl

def DeviceLoad.retimed (load : DeviceLoad) (deviceIds : List String)
    (interval : CadenceInterval) : DeviceLoad :=
  if load.deviceId ∈ deviceIds then
    { load with
      effectiveInterval := interval.seconds
      cadenceSource := .deviceOverride }
  else load

variable {load : DeviceLoad} {report : BusReport}

theorem deviceLoad_id {budget : ℚ} {device : RegistryDevice}
    (hload : deviceLoad registry requests budget device = .ok load) :
    load.deviceId = device.deviceId := by
  simp only [deviceLoad, bind_eq_ok, pure_eq_ok] at hload
  obtain ⟨_, _, rfl⟩ := hload
  rfl

theorem deviceLoad_retimed {budget : ℚ} {device : RegistryDevice}
    (deviceIds : List String) (interval : CadenceInterval)
    (hload : deviceLoad registry requests budget device = .ok load) :
    deviceLoad (registry.retimed deviceIds interval) requests budget device =
      .ok (load.retimed deviceIds interval) := by
  have hid := deviceLoad_id hload
  simp only [deviceLoad, bind_eq_ok, pure_eq_ok] at hload
  obtain ⟨⟨seconds, source⟩, hcadence, hload⟩ := hload
  have hretimed : (registry.retimed deviceIds interval).effectiveCadenceForDevice device.deviceId =
        if device.deviceId ∈ deviceIds then .ok (↑interval.seconds, .deviceOverride)
        else .ok (seconds, source) := by
    unfold AcquisitionRegistry.effectiveCadenceForDevice at hcadence ⊢
    have hsame : (registry.retimed deviceIds interval).device device.deviceId =
        registry.device device.deviceId := rfl
    rw [hsame]
    cases hfound : registry.device device.deviceId with
    | error error => simp [hfound, Except.mapError, bind, Except.bind] at hcadence
    | ok found =>
      have hfoundId : found.deviceId = device.deviceId := by
        unfold AcquisitionRegistry.device at hfound
        split at hfound
        next item hitem =>
          cases hfound
          simpa using List.find?_some hitem
        next => cases hfound
      rw [hfound, ok_bind] at hcadence
      rw [ok_bind]
      change (registry.document.cadence.override deviceIds interval).effectiveInterval _ _ _ = _
      rw [CadencePolicy.override_effectiveInterval, hfoundId]
      split_ifs
      · rfl
      · cases heffective : registry.document.cadence.effectiveInterval
            found.deviceId found.busId found.deviceFamily with
        | error error =>
          simp [heffective, Except.mapError] at hcadence
        | ok result =>
          rw [heffective, Except.mapError, Except.ok.injEq] at hcadence
          rw [← hfoundId, heffective, hcadence]
  unfold deviceLoad
  rw [hretimed]
  subst hload
  unfold DeviceLoad.retimed
  split_ifs <;> rfl

def BusEvaluation.retimed (evaluation : BusEvaluation) (deviceIds : List String)
    (interval : CadenceInterval) : BusEvaluation :=
  { evaluation with
    loads := evaluation.loads.map (·.retimed deviceIds interval) }

theorem evaluateLoads_retimed {evaluation : BusEvaluation} (deviceIds : List String)
    (interval : CadenceInterval)
    (hloads : registry.evaluateLoads requests profiles busId = .ok evaluation) :
    (registry.retimed deviceIds interval).evaluateLoads requests profiles busId =
      .ok (evaluation.retimed deviceIds interval) := by
  simp only [AcquisitionRegistry.evaluateLoads, bind_eq_ok,
    pure_eq_ok] at hloads ⊢
  obtain ⟨profile, hprofile, loads, hmap, rfl⟩ := hloads
  exact ⟨profile, hprofile, _, mapM_eq_ok_map hmap fun device load hload =>
    deviceLoad_retimed deviceIds interval hload, rfl⟩

theorem sum_contribution_retimed (loads : List DeviceLoad) (deviceIds : List String)
    (interval : CadenceInterval) :
    ((loads.map (·.retimed deviceIds interval)).map DeviceLoad.contribution).sum =
      ((loads.filter (·.deviceId ∈ deviceIds)).map DeviceLoad.workSeconds).sum / interval.seconds +
        ((loads.filter (·.deviceId ∉ deviceIds)).map DeviceLoad.contribution).sum := by
  induction loads with
  | nil => simp
  | cons load rest ih =>
    have hsame : (load.retimed deviceIds interval).contribution =
        if load.deviceId ∈ deviceIds then load.workSeconds / interval.seconds
        else load.contribution := by
      unfold DeviceLoad.retimed
      split_ifs <;> rfl
    rw [List.map_cons, List.map_cons, List.sum_cons, ih, hsame]
    by_cases hin : load.deviceId ∈ deviceIds
    · simp only [hin, List.filter_cons, if_true, decide_true, not_true_eq_false,
        decide_false, Bool.false_eq_true, if_false, List.map_cons, List.sum_cons]
      ring
    · simp only [hin, List.filter_cons, if_false, decide_true, not_false_eq_true,
        decide_false, Bool.false_eq_true, if_true, List.map_cons, List.sum_cons]
      ring

theorem mem_retimedDevices {evaluation : BusEvaluation}
    (hloads : registry.evaluateLoads requests profiles busId = .ok evaluation)
    (hload : load ∈ evaluation.loads) :
    load.deviceId ∈ registry.retimedDevices requests changed busId ↔
      changed = [] ∨ load.deviceId ∈ changed := by
  simp only [AcquisitionRegistry.evaluateLoads, bind_eq_ok,
    pure_eq_ok] at hloads
  obtain ⟨profile, _, loads, hmap, rfl⟩ := hloads
  obtain ⟨device, hsorted, hdev⟩ := exists_mem_of_mapM_ok hmap hload
  have hact : device ∈ registry.activeDevices requests busId := by
    unfold AcquisitionRegistry.sortedDevices at hsorted
    rwa [List.mem_insertionSort] at hsorted
  have hlisted := (List.mem_filter.mp hact).1
  have hbus := of_decide_eq_true (List.mem_filter.mp hact).2
  rw [deviceLoad_id hdev]
  unfold AcquisitionRegistry.retimedDevices
  split_ifs with hchanged
  · constructor
    · intro hmem
      obtain ⟨other, hother, hsame⟩ := List.mem_map.mp hmem
      have hin := of_decide_eq_true (List.mem_filter.mp hother).2
      exact .inr (hsame ▸ hin.2)
    · intro hin
      exact List.mem_map_of_mem (List.mem_filter.mpr
        ⟨hlisted, by simpa using ⟨hbus.1, hin.resolve_left hchanged⟩⟩)
  · exact ⟨fun _ => .inl (not_not.mp hchanged), fun _ => List.mem_map_of_mem hact⟩

theorem isSafe_retimed {evaluation : BusEvaluation} (interval : CadenceInterval)
    (hloads : registry.evaluateLoads requests profiles busId = .ok evaluation) :
    (evaluation.retimed (registry.retimedDevices requests changed busId)
        interval).isSafe maxUtilization = true ↔
      evaluation.retimedWork changed ≤ interval.seconds *
        (maxUtilization + 1 / 10 ^ 9 - evaluation.fixedShare changed) := by
  have hpositive : (0 : ℚ) < interval.seconds := by
    have hmin := interval.bounded.1
    unfold cadenceMinSeconds at hmin
    linarith
  have hin : evaluation.loads.filter (fun load => load.deviceId ∈
        registry.retimedDevices requests changed busId) =
      evaluation.loads.filter fun load => changed = [] ∨ load.deviceId ∈ changed :=
    List.filter_congr fun load hload =>
      decide_eq_decide.mpr (mem_retimedDevices hloads hload)
  have hout : evaluation.loads.filter (fun load => load.deviceId ∉
        registry.retimedDevices requests changed busId) =
      evaluation.loads.filter fun load =>
        ¬ (changed = [] ∨ load.deviceId ∈ changed) :=
    List.filter_congr fun load hload =>
      decide_eq_decide.mpr (not_congr (mem_retimedDevices hloads hload))
  have hutilization : (evaluation.retimed
      (registry.retimedDevices requests changed busId) interval).utilization =
      evaluation.retimedWork changed / interval.seconds + evaluation.fixedShare changed := by
    unfold BusEvaluation.utilization BusEvaluation.retimed BusEvaluation.retimedWork
      BusEvaluation.fixedShare BusEvaluation.changedWork
      BusEvaluation.fixedUtilization
    rw [sum_contribution_retimed, hin, hout]
    by_cases hchanged : changed = [] <;> simp [hchanged]
  unfold BusEvaluation.isSafe
  rw [hutilization, decide_eq_true_eq, ← le_sub_iff_add_le, div_le_iff₀ hpositive, mul_comm]

/-! ## The recommendation -/

theorem recommendUniformChangedInterval_eq_some {allowed fixed work : ℚ} {seconds : ℤ}
    (hrecommend : recommendUniformChangedInterval allowed fixed work = some seconds) :
    10 ≤ seconds ∧ (seconds : ℚ) ≤ cadenceMaxSeconds ∧ fixed < allowed ∧
      ∀ other : ℤ, 10 ≤ other → (work ≤ other * (allowed - fixed) ↔ seconds ≤ other) := by
  unfold recommendUniformChangedInterval at hrecommend
  dsimp only at hrecommend
  split_ifs at hrecommend with hnone hmax
  cases hrecommend
  have hremaining : 0 < allowed - fixed := by
    by_contra hle
    exact hnone (.inl (not_lt.mp hle))
  refine ⟨le_max_left _ _, hmax, sub_pos.mp hremaining, ?_⟩
  intro other hother
  rw [← div_le_iff₀ hremaining, ← Int.ceil_le, max_le_iff]
  exact ⟨fun hceil => ⟨hother, hceil⟩, fun hboth => hboth.2⟩

theorem evaluateBus_id
    (hreport : registry.evaluateBus requests profiles changed maxUtilization busId =
      .ok report) : report.busId = busId := by
  unfold AcquisitionRegistry.evaluateBus at hreport
  split_ifs at hreport
  · cases hreport
    rfl
  · simp only [bind_eq_ok, pure_eq_ok] at hreport
    obtain ⟨evaluation, _, rfl⟩ := hreport
    rfl

theorem evaluateBus_retimed (deviceIds : List String) (interval : CadenceInterval)
    (hreport : registry.evaluateBus requests profiles changed maxUtilization busId = .ok report) :
    ∃ after, (registry.retimed deviceIds interval).evaluateBus requests profiles
      changed maxUtilization busId = .ok after := by
  unfold AcquisitionRegistry.evaluateBus at hreport ⊢
  have hact : (registry.retimed deviceIds interval).activeDevices requests busId =
      registry.activeDevices requests busId := rfl
  rw [hact]
  split_ifs at hreport ⊢
  · exact ⟨_, rfl⟩
  · simp only [bind_eq_ok, pure_eq_ok] at hreport ⊢
    obtain ⟨evaluation, hloads, _⟩ := hreport
    exact ⟨_, _, evaluateLoads_retimed deviceIds interval hloads, rfl⟩

theorem safeAt_eq {evaluation : BusEvaluation} {summary : CapacitySummary}
    (interval : CadenceInterval) (hreqs : targetRequests registry = .ok requests)
    (hsummary : registry.evaluateCapacity profiles busIds changed maxUtilization = .ok summary)
    (hreport : report ∈ summary.buses) (hbus : report.busId = busId)
    (hloads : registry.evaluateLoads requests profiles busId = .ok evaluation)
    (hact : registry.activeDevices requests busId ≠ []) :
    safeAt registry profiles busIds changed maxUtilization busId interval =
      some ((evaluation.retimed (registry.retimedDevices requests changed busId)
        interval).isSafe maxUtilization) := by
  unfold AcquisitionRegistry.evaluateCapacity AcquisitionRegistry.evaluateBuses at hsummary
  split_ifs at hsummary with hrange
  simp only [hreqs, ok_bind, bind_eq_ok, pure_eq_ok] at hsummary
  obtain ⟨reports, hmap, rfl⟩ := hsummary
  let retimed := registry.retimed (registry.retimedDevices requests changed busId) interval
  obtain ⟨after, hafter⟩ := mapM_total
    (f := retimed.evaluateBus requests profiles changed maxUtilization)
    fun id hid => by
      obtain ⟨before, _, hbefore⟩ := exists_of_forall₂ (forall₂_of_mapM_ok hmap) hid
      exact evaluateBus_retimed _ interval hbefore
  have heval : retimed.evaluateCapacity profiles busIds changed maxUtilization =
      .ok ⟨after.all BusReport.safe, roundTo 3 (maxUtilization * 100),
        roundTo 3 ((1 - maxUtilization) * 100), after⟩ := by
    unfold AcquisitionRegistry.evaluateCapacity AcquisitionRegistry.evaluateBuses
    have hsame : targetRequests retimed = .ok requests := hreqs
    rw [if_neg (not_not_intro hrange), hsame, ok_bind, hafter]
    rfl
  have hbusReport : retimed.evaluateBus requests profiles changed maxUtilization busId =
      .ok ((evaluation.retimed (registry.retimedDevices requests changed busId)
        interval).report changed maxUtilization busId) := by
    have hidle : retimed.activeDevices requests busId ≠ [] := hact
    unfold AcquisitionRegistry.evaluateBus
    rw [if_neg hidle, evaluateLoads_retimed _ interval hloads]
    rfl
  obtain ⟨id, hid, hidReport⟩ := exists_mem_of_mapM_ok hmap hreport
  obtain rfl : id = busId := (evaluateBus_id hidReport).symm.trans hbus
  have hfind : ∃ found, after.find? (fun row => row.busId = id) = some found := by
    rw [← Option.isSome_iff_exists, List.find?_isSome]
    obtain ⟨row, hrow, hrowReport⟩ :=
      exists_of_forall₂ (forall₂_of_mapM_ok hafter) hid
    exact ⟨row, hrow, by simpa using evaluateBus_id hrowReport⟩
  obtain ⟨found, hfound⟩ := hfind
  obtain ⟨other, _, hother⟩ := exists_mem_of_mapM_ok hafter (List.mem_of_find?_eq_some hfound)
  obtain rfl : other = id := by
    rw [← evaluateBus_id hother]
    simpa using List.find?_some hfound
  rw [hbusReport, Except.ok.injEq] at hother
  unfold safeAt CapacitySummary.safeOn
  simp only [hreqs, Except.toOption, Option.bind_eq_bind, Option.bind_some]
  change Option.bind (Except.toOption (retimed.evaluateCapacity profiles busIds
    changed maxUtilization)) _ = _
  rw [heval]
  simp only [Except.toOption, Option.bind_some, hfound, ← hother, Option.map_some]
  rfl

theorem recommendation_least_iff {summary : CapacitySummary} {report : BusReport}
    {seconds : ℤ}
    (hsummary : registry.evaluateCapacity profiles busIds changed maxUtilization =
      .ok summary)
    (hreport : report ∈ summary.buses)
    (hseconds : report.recommendedMinimumIntervalSeconds = some seconds) :
    (∃ interval : CadenceInterval, interval.seconds = seconds ∧
        safeAt registry profiles busIds changed maxUtilization report.busId interval =
          some true ∧ ∀ shorter : CadenceInterval, shorter.seconds < seconds →
          safeAt registry profiles busIds changed maxUtilization report.busId
            shorter = some false) ↔
      ∃ requests evaluation, targetRequests registry = .ok requests ∧
        registry.evaluateLoads requests profiles report.busId = .ok evaluation ∧
        evaluation.FiguresAgree changed maxUtilization := by
  obtain ⟨requests, hreqs, heval⟩ :
      ∃ requests, targetRequests registry = .ok requests ∧
        registry.evaluateBus requests profiles changed maxUtilization report.busId =
          .ok report := by
    unfold AcquisitionRegistry.evaluateCapacity AcquisitionRegistry.evaluateBuses
      at hsummary
    split_ifs at hsummary
    simp only [bind_eq_ok, pure_eq_ok] at hsummary
    obtain ⟨reports, ⟨requests, hreqs, hmap⟩, rfl⟩ := hsummary
    obtain ⟨id, _, hid⟩ := exists_mem_of_mapM_ok hmap hreport
    exact ⟨requests, hreqs, by rw [evaluateBus_id hid]; exact hid⟩
  have hbus := heval
  unfold AcquisitionRegistry.evaluateBus at hbus
  split_ifs at hbus with hact
  · rw [Except.ok.injEq] at hbus
    rw [← hbus] at hseconds
    cases hseconds
  simp only [bind_eq_ok, pure_eq_ok] at hbus
  obtain ⟨evaluation, hloads, hsame⟩ := hbus
  have hrecommended : evaluation.recommendation changed maxUtilization =
      some seconds := by
    rw [← hsame] at hseconds
    exact hseconds
  unfold BusEvaluation.recommendation at hrecommended
  split_ifs at hrecommended
  obtain ⟨hmin, hmax, hfixed, hleast⟩ :=
    recommendUniformChangedInterval_eq_some hrecommended
  have hsafe : ∀ (interval : CadenceInterval) (safe : Bool),
      safeAt registry profiles busIds changed maxUtilization report.busId interval =
          some safe ↔
        (safe = true ↔ evaluation.retimedWork changed ≤ interval.seconds *
          (maxUtilization + 1 / 10 ^ 9 - evaluation.fixedShare changed)) := by
    intro interval safe
    rw [safeAt_eq interval hreqs hsummary hreport rfl hloads hact,
      Option.some.injEq, ← isSafe_retimed interval hloads]
    cases safe <;> simp
  have hbounds : ∀ other : ℤ, 10 ≤ other → other ≤ seconds →
      cadenceMinSeconds ≤ other ∧ (other : ℚ) ≤ cadenceMaxSeconds := by
    intro other hother hle
    have hten : ((10 : ℤ) : ℚ) ≤ other := Int.cast_le.mpr hother
    exact ⟨hten, (Int.cast_le.mpr hle).trans hmax⟩
  constructor
  · rintro ⟨interval, hint, hsufficient, hminimal⟩
    refine ⟨requests, evaluation, hreqs, hloads, ?_⟩
    intro other hother
    have henough := ((hsafe interval true).mp hsufficient).mp rfl
    rw [hint] at henough
    rw [hleast other hother]
    constructor
    · intro hle
      refine henough.trans (mul_le_mul_of_nonneg_right (Int.cast_le.mpr hle) ?_)
      linarith
    · intro hworks
      by_contra hlt
      have hshort := hminimal ⟨other, hbounds other hother (not_le.mp hlt).le⟩
        (not_le.mp hlt)
      rw [hsafe] at hshort
      exact Bool.false_ne_true (hshort.mpr hworks)
  · rintro ⟨_, found, hsameRequests, hfound, hagree⟩
    rw [hreqs] at hsameRequests
    cases hsameRequests
    rw [hloads] at hfound
    cases hfound
    refine ⟨⟨seconds, hbounds seconds hmin le_rfl⟩, rfl, ?_, ?_⟩
    · rw [hsafe]
      exact ⟨fun _ => (hagree seconds hmin).mp ((hleast seconds hmin).mpr le_rfl),
        fun _ => rfl⟩
    · intro shorter hshorter
      have hmin : ((10 : ℤ) : ℚ) ≤ shorter.seconds := shorter.bounded.1
      have hten := Int.cast_le.mp hmin
      rw [hsafe, ← hagree _ hten, hleast _ hten]
      simp [hshorter]

end Retimed

/-- A meter with eight targets on a bus whose requests take 1.8693542 seconds. -/
def meteredRegistry : AcquisitionRegistry where
  document :=
    { revision := 1
      devices := [⟨"le01mp-1", "rs485-main", "le01mp", 1, "active"⟩]
      targets := ["a", "b", "c", "d", "e", "f", "g", "h"].map fun key =>
        ⟨"le01mp-1." ++ key, "le01mp-1", key, key, key, "V", "active", 3⟩
      cadence := ⟨[⟨"rs485-main", "le01mp", 10⟩], []⟩ }
  deviceIds_nodup := by decide
  targetIds_nodup := by decide
  intervals_bounded := by decide

def meteredProfile : String → Option BusCapacityProfile :=
  fun _ => some
    ⟨"rs485-main", 9600, "N", 1, 2, 0, some (18693542 / 10 ^ 7), none, 20⟩

def twentySeconds : CadenceInterval where
  seconds := 20
  bounded := by decide +kernel

theorem recommendation_least_metered : ∃ requests evaluation,
    targetRequests meteredRegistry = .ok requests ∧
      meteredRegistry.evaluateLoads requests meteredProfile "rs485-main" =
        .ok evaluation ∧
      ¬ evaluation.FiguresAgree [] (3 / 4) := by
  have hvalues : ((meteredRegistry.evaluateCapacity meteredProfile ["rs485-main"] []
      (3 / 4)).toOption.bind (·.buses.head?)).map (fun report =>
        (report.busId, report.recommendedMinimumIntervalSeconds)) =
      some ("rs485-main", some 20) := by
    decide +kernel
  have hunsafe : safeAt meteredRegistry meteredProfile ["rs485-main"] [] (3 / 4)
      "rs485-main" twentySeconds = some false := by
    decide +kernel
  cases hsummary : meteredRegistry.evaluateCapacity meteredProfile ["rs485-main"] []
      (3 / 4) with
  | error error => simp [hsummary, Except.toOption] at hvalues
  | ok summary =>
    rw [hsummary, Option.map_eq_some_iff] at hvalues
    obtain ⟨report, hhead, hreport⟩ := hvalues
    rw [Prod.mk.injEq] at hreport
    have hmem : report ∈ summary.buses := List.mem_of_head? hhead
    have hiff := recommendation_least_iff hsummary hmem hreport.2
    rw [hreport.1] at hiff
    have hevaluation : ((targetRequests meteredRegistry).toOption.bind fun requests =>
        (meteredRegistry.evaluateLoads requests meteredProfile
          "rs485-main").toOption).isSome = true := by
      decide +kernel
    cases hreqs : targetRequests meteredRegistry with
    | error error => simp [hreqs, Except.toOption] at hevaluation
    | ok requests =>
      cases hloads : meteredRegistry.evaluateLoads requests meteredProfile
          "rs485-main" with
      | error error => simp [hreqs, hloads, Except.toOption] at hevaluation
      | ok evaluation =>
        refine ⟨requests, evaluation, rfl, hloads, ?_⟩
        intro hagree
        obtain ⟨interval, hseconds, hsafe, _⟩ :=
          hiff.mpr ⟨requests, evaluation, hreqs, hloads, hagree⟩
        have hint : interval = twentySeconds := by
          cases interval
          cases hseconds
          rfl
        rw [hint, hunsafe] at hsafe
        cases hsafe

/-- The work of 15.0000003 seconds is displayed as 15, which fills three quarters of
twenty seconds exactly. -/
theorem recommendation_stays_unsafe :
    ((meteredRegistry.evaluateCapacity meteredProfile ["rs485-main"] []
        (3 / 4)).toOption.bind (·.buses.head?)).map (fun report =>
          (report.busId, report.recommendedMinimumIntervalSeconds)) =
        some ("rs485-main", some twentySeconds.seconds) ∧
      safeAt meteredRegistry meteredProfile ["rs485-main"] [] (3 / 4) "rs485-main"
        twentySeconds = some false := by
  constructor <;> decide +kernel

end Nexolab
