import Nexolab.PythonValues

/-!
# The telemetry event contract

A `TelemetryEvent` exists only after validation, so the checks of the contract
are fields of the structure: the bounded identifiers, a canonical UUID text, an
instant in UTC and a value where the quality is `valid`.  Instants are
microseconds since the Unix epoch within the range of `datetime`.
-/

namespace Nexolab

abbrev Instant := ℤ

def minInstant : Instant := -62135596800000000

def maxInstant : Instant := 253402300799999999

def microsPerSecond : ℤ := 1000000

def microsPerDay : ℤ := 86400 * microsPerSecond

inductive Quality where
  | valid
  | sensorError
  | communicationError
  | unknown
  deriving DecidableEq

inductive Alarm where
  | low
  | high

/-- `str(UUID)`: 32 lower-case hexadecimal digits and four hyphens. -/
structure UuidText where
  text : String
  length_eq : text.length = 36
  chars : ∀ c ∈ text.toList, c ∈ "0123456789abcdef-".toList
  deriving DecidableEq

/-- A `str` field with `min_length=1` and a maximal length. -/
structure BoundedText (maxLength : ℕ) where
  text : String
  nonempty : 1 ≤ text.length
  bounded : text.length ≤ maxLength

structure TelemetryEvent (F : Type) where
  eventId : UuidText
  nodeId : BoundedText 128
  capturedAt : Instant
  metric : BoundedText 128
  value : Option F
  unit : BoundedText 32
  quality : Quality
  (source equipmentId channelId : BoundedText 128)
  alarm : Option Alarm
  (rawValue rawStatus : Option ℤ)
  captured_range : minInstant ≤ capturedAt ∧ capturedAt ≤ maxInstant
  value_present : quality = .valid → value.isSome

structure SeriesKey where
  (nodeId equipmentId channelId metric : String)
  deriving DecidableEq

def TelemetryEvent.series {F : Type} (event : TelemetryEvent F) : SeriesKey where
  nodeId := event.nodeId.text
  equipmentId := event.equipmentId.text
  channelId := event.channelId.text
  metric := event.metric.text

/-! ## Example events -/

def firstEventId : UuidText where
  text := "00000000-0000-4000-8000-000000000001"
  length_eq := by decide
  chars := by decide

def secondEventId : UuidText where
  text := "00000000-0000-4000-8000-000000000002"
  length_eq := by decide
  chars := by decide

def thirdEventId : UuidText where
  text := "00000000-0000-4000-8000-000000000003"
  length_eq := by decide
  chars := by decide

theorem epoch_within : minInstant ≤ 0 ∧ 0 ≤ maxInstant := by decide

theorem oneSecond_within : minInstant ≤ 1000000 ∧ 1000000 ≤ maxInstant := by
  decide

theorem twoSeconds_within : minInstant ≤ 2000000 ∧ 2000000 ≤ maxInstant := by
  decide

theorem threeSeconds_within : minInstant ≤ 3000000 ∧ 3000000 ≤ maxInstant := by
  decide

theorem value_present_some (value : FloatValue) :
    Quality.valid = .valid → (some value).isSome := fun _ => rfl

theorem value_present_finite (value : ℚ) :
    Quality.valid = .valid → (some (FloatValue.finite value)).isSome :=
  value_present_some (.finite value)

def exampleReading (eventId : UuidText) (capturedAt : Instant) (value : FloatValue)
    (hcapt : minInstant ≤ capturedAt ∧ capturedAt ≤ maxInstant) :
    TelemetryEvent FloatValue where
  eventId
  nodeId := ⟨"node-1", by decide, by decide⟩
  capturedAt
  metric := ⟨"temperature.probe", by decide, by decide⟩
  value := some value
  unit := ⟨"degC", by decide, by decide⟩
  quality := .valid
  source := ⟨"modbus", by decide, by decide⟩
  equipmentId := ⟨"xjp60d-7", by decide, by decide⟩
  channelId := ⟨"7-01", by decide, by decide⟩
  alarm := none
  rawValue := some 210
  rawStatus := none
  captured_range := hcapt
  value_present := value_present_some value

end Nexolab
