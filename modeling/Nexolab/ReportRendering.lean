import Nexolab.TelegramOutbox
import Nexolab.TelemetryContract
import Nexolab.ZonedTime

/-!
# The message of a report

A report snapshot is rendered from its payload, of which any JSON object may arrive.
What is missing or of another type is left out of the text; a number which is too large
for a float and a time at the end of the calendar raise.
-/

namespace Nexolab

variable {F : Type} [PythonFloat F]

/-- `ReportSnapshot`, as far as the gateway reads it. -/
structure ReportSnapshot (F : Type) where
  (id organizationId : CodePoints)
  scheduledFor : Instant
  payloadSha256 : String
  payload : JsonFields F

structure RenderedMessage where
  (text buttonUrl : CodePoints)

/-- What the gateway's calls raise; a `RenderError` and a `UnicodeEncodeError` are
`ValueError`s. -/
inductive GatewayException where
  | backendError (code : String)
  | valueError
  | overflowError
  | zoneError
  | outboxError (fault : OutboxFault)
  | sqliteError
  | httpException
  | osError
  deriving DecidableEq

inductive ZoneLookup where
  | found (zone : TimeZone)
  | notFound
  | valueError
  | failed

/-- The parts of the standard library which format a report. -/
structure ReportLibrary (F : Type) where
  zoneInfo : CodePoints → ZoneLookup
  /-- `datetime.fromisoformat` of an aware time. -/
  fromIsoFormat : CodePoints → Option Instant
  strftime : ℤ → CodePoints
  /-- `f"{value:.nf}"` -/
  fixed : ℕ → F → CodePoints
  /-- `f"{value:+.nf}"` -/
  signedFixed : ℕ → F → CodePoints
  /-- `f"{value:g}"` -/
  general : F → CodePoints
  /-- `value / 60.0` -/
  sixtieth : F → F
  /-- `round(value)` of a value which is close to it. -/
  closeWhole : F → Option ℤ

/-- The template with its one `{snapshot_id}` taken out. -/
structure UrlTemplate where
  (front back : CodePoints)

def unavailable : CodePoints := codePoints "недоступно"

def intText (value : ℤ) : CodePoints := codePoints (toString value)

def joinedCodePoints (text : CodePoints) : CodePoints :=
  [32].intercalate ((text.splitOnP isPythonSpace).filter (· ≠ []))

def rightStrip (text : CodePoints) : CodePoints := text.rdropWhile isPythonSpace

def clipText (text : CodePoints) (maximum : ℕ) : CodePoints :=
  if text.length ≤ maximum then text
  else rightStrip (text.take (maximum - 1)) ++ codePoints "…"

def clipLine (value : CodePoints) (maximum : ℕ) : CodePoints :=
  clipText (joinedCodePoints value) maximum

def isLoneSurrogate (point : ℕ) : Bool := 0xD800 ≤ point && point ≤ 0xDFFF

/-- The text as SQLite stores it; a lone surrogate is not encoded. -/
def encodedText (text : CodePoints) : Except GatewayException String :=
  if text.any isLoneSurrogate then .error .valueError
  else .ok (String.ofList (text.map Char.ofNat))

def utf8Octets (point : ℕ) : List ℕ :=
  if point < 0x80 then [point]
  else if point < 0x800 then [0xC0 + point / 64, 0x80 + point % 64]
  else if point < 0x10000 then
    [0xE0 + point / 4096, 0x80 + point / 64 % 64, 0x80 + point % 64]
  else
    [0xF0 + point / 262144, 0x80 + point / 4096 % 64, 0x80 + point / 64 % 64, 0x80 + point % 64]

def percentDigit (value : ℕ) : ℕ := if value < 10 then 48 + value else 55 + value

def quoteOctet (octet : ℕ) : CodePoints :=
  let unreserved := codePoints "ABCDEFGHIJKLMNOPQRSTUVWXYZabcdefghijklmnopqrstuvwxyz0123456789_.-~"
  if octet ∈ unreserved then [octet]
  else [37, percentDigit (octet / 16), percentDigit (octet % 16)]

def quoteText (text : CodePoints) : Except GatewayException CodePoints :=
  if text.any isLoneSurrogate then .error .valueError
  else .ok ((text.flatMap utf8Octets).flatMap quoteOctet)

def mapping : Option (JsonValue F) → JsonFields F
  | some (.object fields) => fields
  | _ => []

def firstText (fields : JsonFields F) : List String → Option CodePoints
  | [] => none
  | key :: keys =>
    match dictGet fields key with
    | some (.string text) =>
      if pythonStrip text ≠ [] then some (pythonStrip text) else firstText fields keys
    | _ => firstText fields keys

def finiteNumber : Option (JsonValue F) → Except GatewayException (Option F)
  | some (.int value) =>
    match PythonFloat.ofInt value with
    | none => .error .overflowError
    | some number => .ok (if PythonFloat.isFinite number then some number else none)
  | some (.float number) =>
    .ok (if PythonFloat.isFinite number then some number else none)
  | _ => .ok none

def hasText (value : Option (JsonValue F)) (text : String) : Bool :=
  match value with
  | some (.string found) => decide (found = codePoints text)
  | _ => false

def qualityHas (quality : JsonFields F) (reason : String) : Bool :=
  match dictGet quality "reasons" with
  | some (.array reasons) => reasons.any fun value => hasText (some value) reason
  | _ => false

/-! ## Lines -/

variable (library : ReportLibrary F)

def statusLabel (report : JsonFields F) : CodePoints :=
  let status := dictGet report "status"
  codePoints (if hasText status "normal" then "🟢 НОРМА"
    else if hasText status "attention" then "🟡 УВАГА"
    else if hasText status "critical" then "🔴 КРИТИЧНО"
    else "⚪ НЕПОВНІ ДАНІ")

def zoneOf (name : CodePoints) : Except GatewayException TimeZone :=
  match library.zoneInfo name with
  | .found zone => .ok zone
  | .notFound =>
    match library.zoneInfo (codePoints "Europe/Kyiv") with
    | .found zone => .ok zone
    | .valueError => .error .valueError
    | _ => .error .zoneError
  | .valueError => .error .valueError
  | .failed => .error .zoneError

def localTime (zone : TimeZone) (time : Instant) : Except GatewayException ℤ :=
  if time < minInstant ∨ maxInstant < time then .error .overflowError
  else if zone.toWall time < minInstant ∨ maxInstant < zone.toWall time then
    .error .overflowError
  else .ok (zone.toWall time)

def reportDateTime (report : JsonFields F) (snapshot : ReportSnapshot F) :
    Except GatewayException CodePoints := do
  let name := match dictGet report "timezone" with
    | some (.string text) =>
      if pythonStrip text = [] then codePoints "Europe/Kyiv" else text
    | _ => codePoints "Europe/Kyiv"
  let zone ← zoneOf library name
  let scheduled := match dictGet report "scheduled_for" with
    | some (.string text) => (library.fromIsoFormat text).getD snapshot.scheduledFor
    | _ => snapshot.scheduledFor
  let wall ← localTime zone scheduled
  .ok (library.strftime wall)

def temperatureText (value : Option (JsonValue F)) :
    Except GatewayException CodePoints := do
  match ← finiteNumber value with
  | none => .ok unavailable
  | some number => .ok (library.signedFixed 1 number ++ codePoints " °C")

def countPair (packets : JsonFields F) : CodePoints :=
  match dictGet packets "valid_channels", dictGet packets "configured_channels" with
  | some (.int valid), some (.int configured) =>
    if configured < 0 then unavailable
    else intText valid ++ codePoints "/" ++ intText configured
  | _, _ => unavailable

def firstFinite (fields : JsonFields F) :
    List String → Except GatewayException (Option F)
  | [] => .ok none
  | key :: keys => do
    match ← finiteNumber (dictGet fields key) with
    | some number => .ok (some number)
    | none => firstFinite fields keys

def metricText (value : Option (JsonValue F)) (defaultUnit : String) :
    Except GatewayException CodePoints := do
  let fields := mapping value
  if hasText (dictGet fields "status") "available" then
    match ← firstFinite fields ["value", "value_c", "temperature_c", "value_k",
        "delta_k"] with
    | none => .ok unavailable
    | some number =>
      let unit := match dictGet fields "unit" with
        | some (.string text) =>
          if pythonStrip text = [] then codePoints defaultUnit else pythonStrip text
        | _ => codePoints defaultUnit
      .ok (pythonStrip (library.fixed 1 number ++ codePoints " " ++ unit))
  else .ok unavailable

def compressorText (compressor quality : JsonFields F) :
    Except GatewayException CodePoints := do
  if hasText (dictGet compressor "status") "available" then
    match ← finiteNumber (dictGet compressor "duty_percent") with
    | none => .ok unavailable
    | some duty =>
      .ok (library.fixed 1 duty ++ codePoints " %" ++
        if qualityHas quality "compressor_coverage_incomplete" then
          codePoints " · неповні дані" else [])
  else .ok unavailable

def windowText (report : JsonFields F) : Except GatewayException CodePoints :=
  match dictGet report "analysis_window_minutes" with
  | some (.int minutes) =>
    if minutes ≤ 0 then .ok []
    else
      match PythonFloat.ofInt minutes with
      | none => .error .overflowError
      | some number => .ok (codePoints " / " ++
          library.general (library.sixtieth number) ++ codePoints " год")
  | _ => .ok []

def energyText (energy report quality : JsonFields F) :
    Except GatewayException CodePoints := do
  if hasText (dictGet energy "status") "available" then
    match ← finiteNumber (dictGet energy "interval_kwh") with
    | none => .ok unavailable
    | some value => do
      let window ← windowText library report
      .ok (library.fixed 2 value ++ codePoints " kWh" ++ window ++
        if qualityHas quality "energy_evidence_unavailable" then
          codePoints " · неповні дані" else [])
  else .ok unavailable

def defrostText (defrost : JsonFields F) : Except GatewayException CodePoints := do
  if hasText (dictGet defrost "status") "available" then
    match ← finiteNumber (dictGet defrost "duration_seconds") with
    | none => .ok unavailable
    | some seconds =>
      if PythonFloat.lt seconds PythonFloat.zero then .ok unavailable
      else
        let minutes := library.sixtieth seconds
        match library.closeWhole minutes with
        | some whole => .ok (intText whole ++ codePoints " хв")
        | none => .ok (library.fixed 1 minutes ++ codePoints " хв")
  else .ok unavailable

def warningSummary (alerts quality : JsonFields F) : List CodePoints :=
  let active := match dictGet alerts "active_count" with
    | some (.int count) =>
      if 0 < count then [codePoints "активні тривоги: " ++ intText count] else []
    | _ => []
  let incomplete :=
    if hasText (dictGet quality "status") "incomplete" then
      [codePoints "якість даних: неповні дані"] else []
  let parts := active ++ incomplete
  if parts = [] then []
  else [[], codePoints "⚠️ " ++ (codePoints "; ").intercalate parts]

def renderReport (snapshot : ReportSnapshot F) (template : UrlTemplate)
    (maxChars : ℕ) : Except GatewayException RenderedMessage := do
  let part := fun key => mapping (dictGet snapshot.payload key)
  let report := part "report"
  let quality := part "quality"
  let packets := part "m_packets"
  let circuit := part "refrigeration_circuit"
  let equipment := clipLine ((firstText (part "identity")
    ["equipment_name", "equipment_code"]).getD (codePoints "Обладнання не вказано")) 120
  let dateTime ← reportDateTime library report snapshot
  let minimum ← temperatureText library (dictGet packets "minimum_c")
  let maximum ← temperatureText library (dictGet packets "maximum_c")
  let evaporation ←
    metricText library (dictGet circuit "evaporation_saturation_temperature") "°C"
  let superheat ← metricText library (dictGet circuit "superheat") "K"
  let condensation ←
    metricText library (dictGet circuit "condensation_saturation_temperature") "°C"
  let subcooling ← metricText library (dictGet circuit "subcooling") "K"
  let compressor ← compressorText library (part "compressor") quality
  let energy ← energyText library (part "energy") report quality
  let defrost ← defrostText library (part "defrost")
  let lines := [codePoints "❄️ NEXOLAB · Ранковий звіт", equipment, dateTime, [],
    statusLabel report, [], codePoints "🌡 М-пакети",
    codePoints "Tmin  " ++ minimum, codePoints "Tmax  " ++ maximum,
    codePoints "Валідні " ++ countPair packets, [],
    codePoints "❄️ Холодильний контур", codePoints "Кипіння: " ++ evaporation,
    codePoints "Перегрів: " ++ superheat, codePoints "Конденсація: " ++ condensation,
    codePoints "Переохолодження: " ++ subcooling, [],
    codePoints "⚙️ Компресор: " ++ compressor, codePoints "⚡ Енергія: " ++ energy,
    codePoints "🔄 Відтайка: " ++ defrost] ++
    warningSummary (part "alerts") quality
  let text := clipText (pythonStrip ([10].intercalate lines)) maxChars
  let quoted ← quoteText snapshot.id
  .ok ⟨text, template.front ++ quoted ++ template.back⟩

end Nexolab
