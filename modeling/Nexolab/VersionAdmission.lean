import Nexolab.FallibleList
import Nexolab.VersionFiles

/-!
# The admission of a version operation

An administrator asks the service for an update or a rollback, and the update timer
activates a package by itself.  Both read the same directory and check it each in its
own way.
-/

namespace Nexolab

variable {F : Type} [PythonFloat F]

structure VersionManagementError where
  (code message : String)

def NewerEntry (first second : VersionCatalogEntry) : Prop :=
  toLex (second.createdAt, second.bundleId) ≤ toLex (first.createdAt, first.bundleId)

instance : DecidableRel NewerEntry := fun _ _ => inferInstanceAs (Decidable (toLex _ ≤ toLex _))

namespace VersionDirectory

variable (directory : VersionDirectory F) (catalogLimit : ℕ)

def catalogEntries : List VersionCatalogEntry :=
  ((directory.catalog.filterMap fun bundle =>
    parseManifest bundle.1 bundle.2).insertionSort NewerEntry).take catalogLimit

def currentFields : Option (JsonFields F) := objectValue directory.current.value

def currentBundleId (current : JsonFields F) : Option CodePoints :=
  requiredString current "bundle_id"

def runtimeStateKnown (current : JsonFields F) : Bool :=
  (dictGet current "runtime_state_known").all fun value => isBool true (some value)

def hasRelease (current : JsonFields F) (entry : VersionCatalogEntry) : Bool :=
  textValue (dictGet current "release") = some entry.release &&
    textValue (dictGet current "source_commit") = some entry.sourceCommit &&
    textValue (dictGet current "platform") = some entry.platform

def knownPackagedRelease (current : JsonFields F) : Bool :=
  current ≠ [] && runtimeStateKnown current &&
    ((directory.catalogEntries catalogLimit).find? fun entry =>
      some entry.bundleId = currentBundleId current).any (hasRelease current)

def requiredKeys : List String :=
  ["bundle_id", "release", "source_commit", "build_timestamp", "runtime_mode", "platform",
   "schema_head", "deployed_at", "health"]

def currentPayload : Option (JsonFields F) :=
  directory.currentFields.filter fun current =>
    requiredKeys.all fun key => (dictGet current key).isSome

def operationStatus (operation : JsonFields F) : Option CodePoints :=
  textValue (dictGet operation "status")

def isActiveStatus (status : Option CodePoints) : Bool :=
  status = some (codePoints "queued") || status = some (codePoints "running")

/-- `_operations`, of which the service looks at the latest hundred. -/
def operationPayloads : List (JsonFields F) :=
  (directory.operations.filterMap fun file => objectValue file.value).filter fun operation =>
    equalsOne (dictGet operation "schema_version")

end VersionDirectory

structure VersionActionRequest where
  update : Bool
  (targetBundleId confirmation : CodePoints)
  reason : Option CodePoints

structure AuthorizedCall where
  (organizationId subject operationId now : CodePoints)

section Service

open VersionDirectory

variable (directory : VersionDirectory F) (catalogLimit : ℕ)

/-- The active operation among the latest ones by `str(started_at)`. -/
def activeOperation (startedText : JsonFields F → CodePoints) : Bool :=
  ((directory.operationPayloads.insertionSort fun first second =>
      startedText second ≤ startedText first).take 100).any fun operation =>
    isActiveStatus (operationStatus operation)

def schemaDeclared (current : JsonFields F) (heads : List CodePoints) : Bool :=
  (textValue (dictGet current "schema_head")).any fun schema => schema ∈ heads

def confirmationOf (update : Bool) (targetId : CodePoints) : CodePoints :=
  codePoints (if update then "APPLY " else "ROLLBACK ") ++ targetId

def checkTarget (current : JsonFields F) (update : Bool) (target : VersionCatalogEntry) :
    Except VersionManagementError Unit := do
  if textValue (dictGet current "platform") ≠ some target.platform then
    throw ⟨"platform_incompatible", "Target package platform does not match runtime"⟩
  if textValue (dictGet current "bundle_id") = some target.bundleId then
    throw ⟨"target_is_current", "Target package is already deployed"⟩
  if ¬ update ∧ textValue (dictGet current "previous_bundle_id") ≠ some target.bundleId then
    throw ⟨"rollback_target_not_previous",
      "Rollback is limited to the explicit previous known-good package"⟩
  if ¬ schemaDeclared current (if update then target.upgradeFrom
      else target.runtimeCompatibleSchemaHeads) then
    throw ⟨"schema_compatibility_unknown",
      "Target does not explicitly declare compatibility with the current schema"⟩

def enqueueVersionAction (startedText : JsonFields F → CodePoints)
    (payload : VersionActionRequest) (call : AuthorizedCall) :
    Except VersionManagementError (VersionOperation F) := do
  let targetId := pythonStrip payload.targetBundleId
  if ¬ isBundleId targetId then
    throw ⟨"invalid_bundle_id", "Invalid bundle identifier"⟩
  if payload.confirmation ≠ confirmationOf payload.update targetId then
    throw ⟨"confirmation_mismatch", "Confirmation must exactly match"⟩
  if activeOperation directory startedText then
    throw ⟨"operation_in_progress", "Another version operation is active"⟩
  match directory.currentPayload with
  | none => throw ⟨"current_release_unverified",
      "Current deployment is not bound to a validated local package"⟩
  | some current =>
    if ¬ directory.knownPackagedRelease catalogLimit current then
      throw ⟨"current_release_unverified",
        "Current deployment is not bound to a validated local package"⟩
    match (directory.catalogEntries catalogLimit).find? fun entry =>
        entry.bundleId = targetId with
    | none => throw ⟨"target_release_unverified",
        "Target is not a validated local package"⟩
    | some target =>
      checkTarget current payload.update target
      return {
        id := call.operationId
        organizationId := some call.organizationId
        actorSubject := call.subject
        action := if payload.update then "update" else "rollback"
        sourceBundleId := dictGet current "bundle_id"
        sourceRelease := dictGet current "release"
        targetBundleId := targetId
        targetRelease := target.release
        targetCommit := target.sourceCommit
        startedAt := call.now
        reason := payload.reason.map pythonStrip }

end Service

/-! ## The update timer -/

inductive ActivationError where
  | blocked (code message : String)
  | raised

section Timer

variable (directory : VersionDirectory F)

def timerActiveOperation : List (JsonFile F) → Except ActivationError Bool
  | [] => .ok false
  | file :: rest =>
    match file with
    | .notUnicode => .error .raised
    | .json (.object (field :: fields)) =>
      match dictGet (field :: fields) "status" with
      | some (.array _) => .error .raised
      | some (.object _) => .error .raised
      | status =>
        if VersionDirectory.isActiveStatus (textValue status) then .ok true
        else timerActiveOperation rest
    | _ => timerActiveOperation rest

def timerCurrent : Except ActivationError (Option (JsonFields F)) :=
  match directory.current with
  | .missing => .ok none
  | .json (.object fields) => .ok (some fields)
  | _ => .error .raised

structure BundleCandidate (F : Type) where
  name : CodePoints
  files : BundleFiles F
  manifest : JsonFields F

def targetPackages (targetCommit : CodePoints) : List (BundleCandidate F) :=
  (directory.catalog.filterMap fun (name, files) =>
    (validatedCatalogManifest name files).bind fun manifest =>
      if textValue (dictGet manifest "source_commit") = some targetCommit then
        some ⟨name, files, manifest⟩
      else none).insertionSort fun first second => first.name ≤ second.name

def onPlatform (platform : CodePoints) (candidate : BundleCandidate F) : Bool :=
  textValue (dictGet candidate.manifest "platform") = some platform

def upgradesFrom (schema : CodePoints) (candidate : BundleCandidate F) : Bool :=
  match dictGet (databaseSchema candidate.manifest) "upgrade_from" with
  | some (.array items) => items.any fun item => textValue (some item) = some schema
  | _ => false

def supersededBy (candidates : List (BundleCandidate F)) (candidate : BundleCandidate F) :
    Option CodePoints := do
  let records ← match dictGet candidate.manifest "files" with
    | some (.array items) => some (items.filterMap fun item => objectValue (some item))
    | _ => none
  let records := records.filter fun record =>
    textValue (dictGet record "path") = some (codePoints "evidence/provenance.json")
  let [record] := records | none
  let provenance ← candidate.files.provenance
  guard (textValue (dictGet record "sha256") = some provenance.sha256)
  let content ← objectValue provenance.content
  let reissue ← objectValue (dictGet content "reissue")
  let original ← candidates.find? fun other =>
    textValue (dictGet reissue "original_bundle_id") = some other.name
  guard (original.name ≠ candidate.name)
  let manifest ← original.files.manifest
  guard (textValue (dictGet reissue "original_manifest_sha256") = some manifest.sha256)
  return original.name

def validatedCandidateBundle (targetCommit : CodePoints) :
    Except ActivationError (Except String CodePoints) := do
  match ← timerCurrent directory with
  | none => return .error "current_release_unverified"
  | some current =>
    if ¬ ["bundle_id", "release", "source_commit", "platform", "schema_head"].all
        (fun key => isPresent (dictGet current key)) then
      return .error "current_release_unverified"
    let bundleId := (textValue (dictGet current "bundle_id")).getD []
    let platform := (textValue (dictGet current "platform")).getD []
    let schema := (textValue (dictGet current "schema_head")).getD []
    let (name, files) := directory.bundleAt bundleId
    match validatedCatalogManifest name files with
    | none => return .error "current_release_unverified"
    | some manifest =>
      if textValue (dictGet manifest "bundle_version") ≠ textValue (dictGet current "release") ∨
          textValue (dictGet manifest "source_commit") ≠
            textValue (dictGet current "source_commit") ∨
          textValue (dictGet manifest "platform") ≠ some platform then
        return .error "current_release_unverified"
      let packages := targetPackages directory targetCommit
      let fitting := packages.filter (onPlatform platform)
      let candidates := fitting.filter (upgradesFrom schema)
      match candidates.find? fun candidate =>
          candidate.name ∉ candidates.filterMap (supersededBy candidates) with
      | some candidate => return .ok candidate.name
      | none =>
        if ¬ fitting.all (upgradesFrom schema) then
          return .error "schema_compatibility_unknown"
        else if ¬ packages.all (onPlatform platform) then
          return .error "platform_incompatible"
        else if packages ≠ [] then return .error "target_release_unverified"
        else return .error "validated_package_required"

def enqueueScheduledActivation (check : JsonFields F) (operationId now : CodePoints) :
    Except ActivationError (VersionOperation F) := do
  if textValue (dictGet check "source") ≠ some (codePoints "scheduled") ∨
      textValue (dictGet check "actor") ≠ some (codePoints "system:update-timer") then
    throw (.blocked "invalid_scheduled_activation"
      "Only the scheduled system actor may auto-activate")
  if ¬ isBool true (dictGet check "activation_eligible") then
    throw (.blocked "candidate_not_eligible"
      "Scheduled candidate is not activation eligible")
  match textValue (dictGet check "target_commit"),
      textValue (dictGet check "candidate_bundle_id") with
  | some targetCommit, some expected =>
    if (← timerActiveOperation directory.operations) ∨ directory.requests ≠ [] then
      throw (.blocked "operation_in_progress"
        "Another update or rollback operation is active")
    match ← validatedCandidateBundle directory targetCommit with
    | .error reason => throw (.blocked reason
        "Validated target package changed before scheduled activation")
    | .ok bundleId =>
      if bundleId ≠ expected then
        throw (.blocked "candidate_revalidation_failed"
          "Validated target package changed before scheduled activation")
      match ← timerCurrent directory, validatedCatalogManifest
          (directory.bundleAt bundleId).1 (directory.bundleAt bundleId).2 with
      | some current, some target =>
        match textValue (dictGet current "bundle_id"), textValue (dictGet current "release"),
            textValue (dictGet target "bundle_version") with
        | some sourceBundle, some sourceRelease, some targetRelease =>
          if sourceBundle = [] ∨ sourceRelease = [] ∨ targetRelease = [] then
            throw (.blocked "candidate_identity_missing"
              "Version operation identity is incomplete")
          return {
            id := operationId
            organizationId := none
            actorSubject := codePoints "system:update-timer"
            action := "update"
            sourceBundleId := some (.string sourceBundle)
            sourceRelease := some (.string sourceRelease)
            targetBundleId := bundleId
            targetRelease
            targetCommit
            startedAt := now
            reason := some (codePoints "automatic 02:00 update") }
        | _, _, _ => throw (.blocked "candidate_identity_missing"
            "Version operation identity is incomplete")
      | _, _ => throw (.blocked "candidate_revalidation_failed"
          "Current or target package evidence is missing")
  | _, _ => throw (.blocked "candidate_identity_missing"
      "Scheduled candidate identity is incomplete")

end Timer

end Nexolab
