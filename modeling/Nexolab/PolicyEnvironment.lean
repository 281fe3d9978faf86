import Nexolab.FallibleList
import Nexolab.SchedulerPolicy

/-!
# Scheduler policies read from the environment

`fromEnvironment` reads each setting of the policy from a variable of the
process or falls back on a default, checks its range and then checks the
settings against one another.  A variable is given by what `float` and `int`
make of its stripped text.  An infinity and a NaN fail every range check and
count as texts which do not convert.
-/

namespace Nexolab

inductive EnvironmentText (α : Type) where
  | blank
  | invalid (message : String)
  | number (value : α)

structure PolicyEnvironment where
  asFloat : String → EnvironmentText ℚ
  asInt : String → EnvironmentText ℤ

def EnvironmentText.valueOr {α : Type} (text : EnvironmentText α) (default : α) : Except String α :=
  match text with
  | .blank => .ok default
  | .invalid message => .error message
  | .number value => .ok value

def envFloat (environment : PolicyEnvironment) (name : String) (default : ℚ) :
    Except String ℚ := do
  let value ← (environment.asFloat name).valueOr default
  if 1 ≤ value ∧ value ≤ 3600 then return value
  else throw (name ++ " must be between 1 and 3600 seconds")

def envInt (environment : PolicyEnvironment) (name : String)
    (default maximum : ℤ) : Except String ℤ := do
  let value ← (environment.asInt name).valueOr default
  if 1 ≤ value ∧ value ≤ maximum then return value
  else throw (name ++ " must be between 1 and " ++ toString maximum)

def requireSetting (holds : Prop) [Decidable holds] (message : String) :
    Except String Unit :=
  if holds then .ok () else .error message

def SchedulerPolicy.fromEnvironment (environment : PolicyEnvironment)
    (legacyIntervalSeconds : ℚ) : Except String SchedulerPolicy := do
  let high ← envFloat environment "ACQUISITION_HIGH_INTERVAL_SECONDS"
    (max 5 legacyIntervalSeconds)
  let medium ← envFloat environment "ACQUISITION_MEDIUM_INTERVAL_SECONDS"
    (max 10 high)
  let low ← envFloat environment "ACQUISITION_LOW_INTERVAL_SECONDS"
    (max 30 medium)
  requireSetting (high ≤ medium ∧ medium ≤ low)
    "Adaptive intervals must satisfy high <= medium <= low"
  let cooldownInitial ← envFloat environment "ACQUISITION_COOLDOWN_INITIAL_SECONDS" 30
  let cooldownMax ← envFloat environment "ACQUISITION_COOLDOWN_MAX_SECONDS" 300
  requireSetting (cooldownInitial ≤ cooldownMax) "Initial cooldown must not exceed maximum cooldown"
  let fairnessHighBurst ← envInt environment "ACQUISITION_FAIRNESS_HIGH_BURST" 8 100
  let fairnessLowBurst ← envInt environment "ACQUISITION_FAIRNESS_LOW_BURST" 12 200
  requireSetting (fairnessHighBurst ≤ fairnessLowBurst)
    ("ACQUISITION_FAIRNESS_LOW_BURST must be greater than or " ++
      "equal to ACQUISITION_FAIRNESS_HIGH_BURST")
  let startupSpread ← envFloat environment "ACQUISITION_STARTUP_SPREAD_SECONDS" (min 5 high)
  let failureThreshold ← envInt environment "ACQUISITION_FAILURE_THRESHOLD" 3 20
  return {
    highIntervalSeconds := high
    mediumIntervalSeconds := medium
    lowIntervalSeconds := low
    startupSpreadSeconds := startupSpread
    failureThreshold := failureThreshold.toNat
    cooldownInitialSeconds := cooldownInitial
    cooldownMaxSeconds := cooldownMax
    fairnessHighBurst := fairnessHighBurst.toNat
    fairnessLowBurst := fairnessLowBurst.toNat }

/-- What `fromEnvironment` has checked of the breaker and the fairness bursts
of a policy it returns. -/
structure SchedulerPolicy.Accepted (policy : SchedulerPolicy) : Prop where
  threshold_pos : 1 ≤ policy.failureThreshold
  threshold_le : policy.failureThreshold ≤ 20
  initial_ge : 1 ≤ policy.cooldownInitialSeconds
  initial_le : policy.cooldownInitialSeconds ≤ policy.cooldownMaxSeconds
  max_le : policy.cooldownMaxSeconds ≤ 3600
  highBurst_pos : 1 ≤ policy.fairnessHighBurst
  bursts_le : policy.fairnessHighBurst ≤ policy.fairnessLowBurst

variable {environment : PolicyEnvironment}

theorem envFloat_bounds {name : String} {default value : ℚ}
    (hread : envFloat environment name default = .ok value) :
    1 ≤ value ∧ value ≤ 3600 := by
  unfold envFloat at hread
  rw [bind_eq_ok] at hread
  obtain ⟨raw, _, hread⟩ := hread
  split_ifs at hread with hrange
  rw [pure_eq_ok] at hread
  exact hread ▸ hrange

theorem envInt_bounds {name : String} {default maximum value : ℤ}
    (hread : envInt environment name default maximum = .ok value) :
    1 ≤ value ∧ value ≤ maximum := by
  unfold envInt at hread
  rw [bind_eq_ok] at hread
  obtain ⟨raw, _, hread⟩ := hread
  split_ifs at hread with hrange
  rw [pure_eq_ok] at hread
  exact hread ▸ hrange

theorem of_requireSetting {holds : Prop} [Decidable holds] {message : String}
    {checked : Unit} (hcheck : requireSetting holds message = .ok checked) :
    holds := by
  unfold requireSetting at hcheck
  split_ifs at hcheck with hholds
  exact hholds

theorem SchedulerPolicy.fromEnvironment_accepted {legacyIntervalSeconds : ℚ}
    {policy : SchedulerPolicy}
    (hread : fromEnvironment environment legacyIntervalSeconds = .ok policy) :
    policy.Accepted := by
  unfold fromEnvironment at hread
  simp only [bind_eq_ok] at hread
  obtain ⟨high, _, medium, _, low, _, _, _, initial, hinitial, maximum, hmaximum,
    _, hcool, highBurst, hhigh, lowBurst, hlow, _, hbursts, spread, _,
    threshold, hthreshold, hread⟩ := hread
  cases hread
  have hinitial := envFloat_bounds hinitial
  have hmaximum := envFloat_bounds hmaximum
  have hhigh := envInt_bounds hhigh
  have hlow := envInt_bounds hlow
  have hthreshold := envInt_bounds hthreshold
  have hbursts := of_requireSetting hbursts
  exact {
    threshold_pos := by dsimp only; omega
    threshold_le := by dsimp only; omega
    initial_ge := hinitial.1
    initial_le := of_requireSetting hcool
    max_le := hmaximum.2
    highBurst_pos := by dsimp only; omega
    bursts_le := by dsimp only; omega }

end Nexolab
