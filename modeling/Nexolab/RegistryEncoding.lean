import Nexolab.ReloadedDocument

/-!
# The stored form of a registry document

`document_to_json` writes a document as an object of arrays of objects and
`document_from_json` reads it back.  The reader strips the ids of the cadence
entries, which the validator of documents does not ask to be stripped.
-/

namespace Nexolab

abbrev RegistryJson := JsonValue ℚ

def textMember (text : String) : RegistryJson := .string (codePoints text)

def recordFields (fields : List (String × RegistryJson)) : JsonFields ℚ :=
  fields.map fun field => (codePoints field.1, field.2)

def InventoryBus.toJson (bus : InventoryBus) : RegistryJson :=
  .object (recordFields [("bus_id", textMember bus.busId),
    ("protocol", textMember bus.protocol), ("read_only", .bool bus.readOnly)])

def InventoryDevice.toJson (device : InventoryDevice) : RegistryJson :=
  .object (recordFields [("device_id", textMember device.deviceId),
    ("bus_id", textMember device.busId),
    ("device_family", textMember device.deviceFamily),
    ("unit_id", .int device.unitId),
    ("profile_version", textMember device.profileVersion),
    ("lifecycle", textMember device.lifecycle)])

def InventoryTarget.toJson (target : InventoryTarget) : RegistryJson :=
  .object (recordFields [("target_id", textMember target.targetId),
    ("device_id", textMember target.deviceId), ("kind", textMember target.kind),
    ("key", textMember target.key),
    ("telemetry_channel_id", textMember target.telemetryChannelId),
    ("metric", textMember target.metric), ("unit", textMember target.unit),
    ("profile_version", textMember target.profileVersion),
    ("lifecycle", textMember target.lifecycle),
    ("function", .int target.function),
    ("addresses", .array (target.addresses.map .int))])

def FamilyCadenceDefault.toJson (item : FamilyCadenceDefault) : RegistryJson :=
  .object (recordFields [("bus_id", textMember item.busId),
    ("device_family", textMember item.deviceFamily),
    ("interval_seconds", .float item.intervalSeconds)])

def DeviceCadenceOverride.toJson (item : DeviceCadenceOverride) : RegistryJson :=
  .object (recordFields [("device_id", textMember item.deviceId),
    ("interval_seconds", .float item.intervalSeconds)])

def cadenceToPayload (policy : CadencePolicy) : RegistryJson :=
  .object (recordFields [ ("family_defaults", .array (policy.familyDefaults.map (·.toJson))),
    ("device_overrides", .array (policy.deviceOverrides.map (·.toJson)))])

def documentToJson (document : InventoryDocument) : RegistryJson :=
  .object (recordFields [("schema_version", .int document.schemaVersion),
    ("revision", .int document.revision),
    ("buses", .array (document.buses.map (·.toJson))),
    ("devices", .array (document.devices.map (·.toJson))),
    ("targets", .array (document.targets.map (·.toJson))),
    ("cadence", cadenceToPayload document.cadence),
    ("updated_at", textMember document.updatedAt)])

namespace RegistryJson

def text : RegistryJson → Option String
  | .string points => some (String.ofList (points.map Char.ofNat))
  | _ => none

def flag : RegistryJson → Option Bool
  | .bool value => some value
  | _ => none

def integer : RegistryJson → Option ℤ
  | .int value => some value
  | _ => none

def number : RegistryJson → Option ℚ
  | .int value => some value
  | .float value => some value
  | _ => none

def items : RegistryJson → Option (List RegistryJson)
  | .array items => some items
  | _ => none

def fields : RegistryJson → Option (JsonFields ℚ)
  | .object fields => some fields
  | _ => none

end RegistryJson

/-- The value of a field, read in the given way; a missing field has the default,
if there is one. -/
def readField {α : Type} (fields : JsonFields ℚ) (key : String)
    (read : RegistryJson → Option α) (default : Option α := none) : Option α :=
  (dictGet fields key).elim default read

def readItems {α : Type} (read : RegistryJson → Option α)
    (value : RegistryJson) : Option (List α) :=
  value.items.bind fun items => items.mapM read

/-- The fields of an object which is unpacked into a record with the given field
names; an unexpected field is refused. -/
def unpackedFields (names : List String) (value : RegistryJson) :
    Option (JsonFields ℚ) :=
  value.fields.filter fun fields =>
    ∀ field ∈ fields, field.1 ∈ names.map codePoints

def parseBus (value : RegistryJson) : Option InventoryBus := do
  let fields ← unpackedFields ["bus_id", "protocol", "read_only"] value
  return {
    busId := ← readField fields "bus_id" RegistryJson.text
    protocol := ← readField fields "protocol" RegistryJson.text
    readOnly := ← readField fields "read_only" RegistryJson.flag }

def parseDevice (value : RegistryJson) : Option InventoryDevice := do
  let fields ← unpackedFields ["device_id", "bus_id", "device_family",
    "unit_id", "profile_version", "lifecycle"] value
  return {
    deviceId := ← readField fields "device_id" RegistryJson.text
    busId := ← readField fields "bus_id" RegistryJson.text
    deviceFamily := ← readField fields "device_family" RegistryJson.text
    unitId := (← readField fields "unit_id" RegistryJson.integer).toNat
    profileVersion := ← readField fields "profile_version" RegistryJson.text
    lifecycle := ← readField fields "lifecycle" RegistryJson.text }

def parseTarget (value : RegistryJson) : Option InventoryTarget := do
  let fields ← unpackedFields ["target_id", "device_id", "kind", "key",
    "telemetry_channel_id", "metric", "unit", "profile_version", "lifecycle",
    "function", "addresses"] value
  return {
    targetId := ← readField fields "target_id" RegistryJson.text
    deviceId := ← readField fields "device_id" RegistryJson.text
    kind := ← readField fields "kind" RegistryJson.text
    key := ← readField fields "key" RegistryJson.text
    telemetryChannelId :=
      ← readField fields "telemetry_channel_id" RegistryJson.text
    metric := ← readField fields "metric" RegistryJson.text
    unit := ← readField fields "unit" RegistryJson.text
    profileVersion := ← readField fields "profile_version" RegistryJson.text
    lifecycle := ← readField fields "lifecycle" RegistryJson.text
    function := (← readField fields "function" RegistryJson.integer).toNat
    addresses := ← readField fields "addresses"
      (readItems RegistryJson.integer) (some []) }

def readFamilyDefault (value : RegistryJson) : Option FamilyCadenceDefault := do
  let fields ← value.fields
  return {
    busId := ← readField fields "bus_id" RegistryJson.text
    deviceFamily := ← readField fields "device_family" RegistryJson.text
    intervalSeconds := ← readField fields "interval_seconds" RegistryJson.number }

def readDeviceOverride (value : RegistryJson) : Option DeviceCadenceOverride := do
  let fields ← value.fields
  return {
    deviceId := ← readField fields "device_id" RegistryJson.text
    intervalSeconds := ← readField fields "interval_seconds" RegistryJson.number }

def readCadence (value : RegistryJson) : Option CadencePolicy := do
  let fields ← value.fields
  return {
    familyDefaults := ← readField fields "family_defaults"
      (readItems readFamilyDefault) (some [])
    deviceOverrides := ← readField fields "device_overrides"
      (readItems readDeviceOverride) (some []) }

def readPayload (value : RegistryJson) : Option InventoryDocument := do
  let fields ← value.fields
  return {
    schemaVersion := (← readField fields "schema_version"
      RegistryJson.integer (some 0)).toNat
    revision := (← readField fields "revision" RegistryJson.integer
      (some 0)).toNat
    buses := ← readField fields "buses" (readItems parseBus) (some [])
    devices := ← readField fields "devices" (readItems parseDevice) (some [])
    targets := ← readField fields "targets" (readItems parseTarget) (some [])
    cadence := ← readField fields "cadence" readCadence
    updatedAt := ← readField fields "updated_at" RegistryJson.text (some "") }

/-- `document_from_json` of the stored value.  A value without the fields and
types of a document raises. -/
def loadStored (value : RegistryJson) : Except RegistryFault InventoryDocument :=
  match readPayload value with
  | none => .error (.invalid "Acquisition registry payload is malformed")
  | some payload => documentFromJson payload

/-! ## Reading what was written -/

theorem readField_recordFields {α : Type} (fields : List (String × RegistryJson))
    (key : String) (read : RegistryJson → Option α) (default : Option α) :
    readField (recordFields fields) key read default =
      ((fields.find? fun field => field.1 = key).map Prod.snd).elim default
        read := by
  unfold readField dictGet recordFields
  rw [List.find?_map, Option.map_map]
  have hkeys : ((fun field : CodePoints × RegistryJson =>
      decide (field.1 = codePoints key)) ∘
        fun field : String × RegistryJson => (codePoints field.1, field.2)) =
      fun field => decide (field.1 = key) := by
    funext field
    simp only [Function.comp_apply, codePoints_injective.eq_iff]
  rw [hkeys]
  rfl

@[simp]
theorem text_textMember (text : String) : (textMember text).text = some text := by
  simp only [textMember, RegistryJson.text, codePoints, List.map_map, Option.some.injEq]
  have hchars : Char.ofNat ∘ Char.toNat = id := by
    funext char
    exact Char.ofNat_toNat char
  rw [hchars, List.map_id, String.ofList_toList]

theorem readItems_map {α : Type} {read : RegistryJson → Option α}
    {write : α → RegistryJson} (hread : ∀ item, read (write item) = some item)
    (items : List α) : readItems read (.array (items.map write)) = some items := by
  have hmap : (items.map write).mapM read = some items := by
    induction items with
    | nil => rfl
    | cons item rest ih => simp [hread, ih]
  exact hmap

@[simp]
theorem fields_object (fields : JsonFields ℚ) :
    RegistryJson.fields (.object fields) = some fields := rfl

theorem unpackedFields_record {names : List String} (fields : List (String × RegistryJson))
    (hnames : ∀ field ∈ fields, field.1 ∈ names) :
    unpackedFields names (.object (recordFields fields)) = some (recordFields fields) := by
  have hknown : ∀ field ∈ recordFields fields, field.1 ∈ names.map codePoints := by
    intro field hfield
    obtain ⟨named, hnamed, rfl⟩ := List.mem_map.mp hfield
    exact List.mem_map_of_mem (hnames named hnamed)
  simp only [unpackedFields, RegistryJson.fields, Option.filter]
  exact if_pos (decide_eq_true hknown)

theorem parseBus_toJson (bus : InventoryBus) : parseBus bus.toJson = some bus := by
  unfold parseBus InventoryBus.toJson
  simp [unpackedFields_record, readField_recordFields, RegistryJson.flag]

theorem parseDevice_toJson (device : InventoryDevice) :
    parseDevice device.toJson = some device := by
  unfold parseDevice InventoryDevice.toJson
  simp [unpackedFields_record, readField_recordFields, RegistryJson.integer]

theorem parseTarget_toJson (target : InventoryTarget) :
    parseTarget target.toJson = some target := by
  unfold parseTarget InventoryTarget.toJson
  have hinteger : ∀ address : ℤ, RegistryJson.integer (.int address) = some address := fun _ => rfl
  have haddresses := readItems_map hinteger target.addresses
  simp [unpackedFields_record, readField_recordFields, RegistryJson.integer, haddresses]

theorem readCadence_toPayload (policy : CadencePolicy) :
    readCadence (cadenceToPayload policy) = some policy := by
  have hdefs : readItems readFamilyDefault
      (.array (policy.familyDefaults.map (·.toJson))) = some policy.familyDefaults := by
    refine readItems_map (fun item => ?_) _
    unfold readFamilyDefault FamilyCadenceDefault.toJson
    simp [readField_recordFields, RegistryJson.number]
  have hovers : readItems readDeviceOverride (.array (policy.deviceOverrides.map (·.toJson))) =
        some policy.deviceOverrides := by
    refine readItems_map (fun item => ?_) _
    unfold readDeviceOverride DeviceCadenceOverride.toJson
    simp [readField_recordFields, RegistryJson.number]
  unfold readCadence cadenceToPayload
  simp [readField_recordFields, hdefs, hovers]

theorem readPayload_toJson (document : InventoryDocument) :
    readPayload (documentToJson document) = some document := by
  have hbuses := readItems_map parseBus_toJson document.buses
  have hdevs := readItems_map parseDevice_toJson document.devices
  have htargets := readItems_map parseTarget_toJson document.targets
  unfold readPayload documentToJson
  simp [readField_recordFields, RegistryJson.integer, hbuses, hdevs, htargets,
    readCadence_toPayload]

/-- A checked document is read back as it was written exactly when the ids of its
cadence entries are stripped and no override names a blank device. -/
theorem loadStored_documentToJson_iff (document : InventoryDocument)
    (hchecked : document.Checked) :
    loadStored (documentToJson document) = .ok document ↔
      (∀ item ∈ document.cadence.familyDefaults, Stripped item.busId) ∧
        document.cadence.OverridesStripped := by
  unfold loadStored
  rw [readPayload_toJson]
  constructor
  · intro hread
    simp only [documentFromJson, bind_eq_ok] at hread
    obtain ⟨_, _, cadence, hcadence, hvalidate⟩ := hread
    have hsame : cadence = document.cadence :=
      (congrArg InventoryDocument.cadence (validateDocument_eq hvalidate)).symm
    rw [hsame] at hcadence
    exact cadenceFromPayload_shape hcadence
  · rintro ⟨hdefs, hovers⟩
    exact documentFromJson_fixed hchecked hdefs hovers

theorem separateDocument_reloaded_iff :
    loadStored (documentToJson BusTopology.separateDocument) =
        .ok BusTopology.separateDocument ↔
      (∀ item ∈ BusTopology.separateDocument.cadence.familyDefaults,
          Stripped item.busId) ∧
        BusTopology.separateDocument.cadence.OverridesStripped :=
  loadStored_documentToJson_iff _ BusTopology.separateRegistry.valid

def spacedDocument : InventoryDocument :=
  { BusTopology.separateDocument with
    buses := [⟨" a", "modbus_rtu", true⟩]
    devices := [BusTopology.coldRoomDevice " a" "x1" 1]
    cadence := ⟨[⟨" a", "xjp60d", 10⟩], []⟩ }

theorem spacedDocument_not_reloaded :
    spacedDocument.Checked ∧
      ∃ message, loadStored (documentToJson spacedDocument) =
        .error (.invalid message) := by
  refine ⟨by unfold InventoryDocument.Checked; decide +kernel, ?_⟩
  unfold loadStored
  rw [readPayload_toJson]
  exact ⟨_, (by decide +kernel : documentFromJson spacedDocument =
    .error (.invalid "Cadence default references unknown bus: a"))⟩

end Nexolab
