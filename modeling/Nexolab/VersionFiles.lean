import Nexolab.PythonValues

/-!
# The files of the version management

The service, the update orchestrator and the version manager share a directory with the
deployed release, the catalog of packages, the requests and the operations.  Two programs
validate a package of the catalog, each in its own way.
-/

namespace Nexolab

variable {F : Type}

def textValue : Option (JsonValue F) → Option CodePoints
  | some (.string text) => some text
  | _ => none

def objectValue : Option (JsonValue F) → Option (JsonFields F)
  | some (.object fields) => some fields
  | _ => none

def isBool (expected : Bool) : Option (JsonValue F) → Bool
  | some (.bool value) => value = expected
  | _ => false

def isPresent (value : Option (JsonValue F)) : Bool :=
  (textValue value).any fun text => pythonStrip text ≠ []

def equalsOne [PythonFloat F] : Option (JsonValue F) → Bool
  | some (.int value) => value = 1
  | some (.bool value) => value
  | some (.float value) => (PythonFloat.ofInt 1).any fun one =>
    PythonFloat.le value one && PythonFloat.le one value
  | _ => false

def requiredString (fields : JsonFields F) (key : String) : Option CodePoints := do
  let text ← textValue (dictGet fields key)
  guard (pythonStrip text ≠ [])
  return pythonStrip text

def stringTuple (fields : JsonFields F) (key : String) : Option (List CodePoints) :=
  match dictGet fields key with
  | some (.array (item :: items)) => do
    let texts ← (item :: items).mapM fun value => textValue (some value)
    guard (∀ text ∈ texts, pythonStrip text ≠ [])
    return (texts.map pythonStrip).dedup.insertionSort (· ≤ ·)
  | _ => none

inductive JsonFile (F : Type) where
  | missing
  | unreadable
  | notUnicode
  | notJson
  | json (value : JsonValue F)

def JsonFile.value : JsonFile F → Option (JsonValue F)
  | .json value => some value
  | _ => none

/-- The bytes of a file by their SHA-256 and what `json.loads` makes of them. -/
structure DigestedFile (F : Type) where
  sha256 : CodePoints
  content : Option (JsonValue F)

structure BundleFiles (F : Type) where
  /-- `manifest.json`, if it is readable. -/
  manifest : Option (DigestedFile F)
  /-- `.nexolab-validated.json` -/
  marker : JsonFile F
  /-- `evidence/provenance.json`, if it is readable and no link. -/
  provenance : Option (DigestedFile F)

structure VersionDirectory (F : Type) where
  current : JsonFile F
  /-- The directories in `catalog` by their names. -/
  catalog : List (CodePoints × BundleFiles F)
  distinct : (catalog.map Prod.fst).Nodup
  /-- What a path through `catalog` leads to, with the last part of the path. -/
  elsewhere : CodePoints → CodePoints × BundleFiles F
  operations : List (JsonFile F)
  /-- The names in `requests`. -/
  requests : List CodePoints

def BundleFiles.absent : BundleFiles F := ⟨none, .missing, none⟩

def isChildName (name : CodePoints) : Bool :=
  name ≠ [] && 47 ∉ name && name ≠ codePoints "." && name ≠ codePoints ".."

def VersionDirectory.bundleAt (directory : VersionDirectory F) (bundleId : CodePoints) :
    CodePoints × BundleFiles F :=
  if isChildName bundleId then
    (bundleId, ((directory.catalog.find? fun bundle => bundle.1 = bundleId).map
      Prod.snd).getD .absent)
  else directory.elsewhere bundleId

/-! ## The manifest -/

def persistentDataFlags : List String :=
  ["packaged", "delete_volumes", "compose_down_v_allowed"]

def managementFlags : List String :=
  ["backup_required", "migration_before_readiness", "preserve_named_volumes",
   "preserve_edge_sqlite"]

def validatedCatalogManifest [PythonFloat F] (name : CodePoints) (files : BundleFiles F) :
    Option (JsonFields F) := do
  let file ← files.manifest
  let marker ← objectValue files.marker.value
  let manifest ← objectValue file.content
  guard (textValue (dictGet marker "manifest_sha256") = some file.sha256)
  guard (equalsOne (dictGet manifest "schema_version"))
  let management ← objectValue (dictGet manifest "version_management")
  guard (textValue (dictGet management "bundle_id") = some name)
  let _ ← objectValue (dictGet management "database_schema")
  let policy ← objectValue (dictGet manifest "persistent_data_policy")
  guard (persistentDataFlags.all fun key => isBool false (dictGet policy key))
  guard (managementFlags.all fun key => isBool true (dictGet management key))
  return manifest

def databaseSchema (manifest : JsonFields F) : JsonFields F :=
  ((objectValue (dictGet manifest "version_management")).bind fun management =>
    objectValue (dictGet management "database_schema")).getD []

structure VersionCatalogEntry where
  (bundleId release sourceCommit createdAt platform schemaHead : CodePoints)
  (upgradeFrom runtimeCompatibleSchemaHeads : List CodePoints)
  manifestSha256 : CodePoints
  deriving DecidableEq

def isLowerHex (point : ℕ) : Bool :=
  (48 ≤ point && point ≤ 57) || (97 ≤ point && point ≤ 102)

def isAlphanumeric (point : ℕ) : Bool :=
  (48 ≤ point && point ≤ 57) || (65 ≤ point && point ≤ 90) || (97 ≤ point && point ≤ 122)

def isSha (text : CodePoints) : Bool := text.length = 40 && text.all isLowerHex

def isBundleId : CodePoints → Bool
  | [] => false
  | first :: rest => isAlphanumeric first && rest.length ≤ 127 &&
      rest.all fun point => isAlphanumeric point || point = 46 || point = 95 || point = 45

def parseManifest [PythonFloat F] (name : CodePoints) (files : BundleFiles F) :
    Option VersionCatalogEntry := do
  let file ← files.manifest
  let marker ← objectValue files.marker.value
  guard (textValue (dictGet marker "manifest_sha256") = some file.sha256)
  let payload ← objectValue file.content
  guard (equalsOne (dictGet payload "schema_version"))
  let policy ← objectValue (dictGet payload "persistent_data_policy")
  guard (persistentDataFlags.all fun key => isBool false (dictGet policy key))
  let management ← objectValue (dictGet payload "version_management")
  let schema ← objectValue (dictGet management "database_schema")
  let bundleId ← requiredString management "bundle_id"
  let commit ← requiredString payload "source_commit"
  guard (isBundleId bundleId && isSha commit)
  guard (name = bundleId)
  let release ← requiredString payload "bundle_version"
  let createdAt ← requiredString payload "created_at"
  let platform ← requiredString payload "platform"
  let schemaHead ← requiredString schema "head"
  let upgradeFrom ← stringTuple schema "upgrade_from"
  let compatible ← stringTuple schema "runtime_compatible_schema_heads"
  return {
    bundleId
    release
    sourceCommit := commit
    createdAt
    platform
    schemaHead
    upgradeFrom
    runtimeCompatibleSchemaHeads := compatible
    manifestSha256 := file.sha256 }

structure VersionOperation (F : Type) where
  id : CodePoints
  organizationId : Option CodePoints
  actorSubject : CodePoints
  action : String
  (sourceBundleId sourceRelease : Option (JsonValue F))
  (targetBundleId targetRelease targetCommit startedAt : CodePoints)
  reason : Option CodePoints

end Nexolab
