import Nexolab.VersionAdmission

/-!
# Which activations the service would admit

The timer does not look at the state of the runtime, at what else is recorded of the
deployed release, at the rest of a manifest, or at the size of the catalog.  Where these
are as the service wants them, both admit the same package.
-/

namespace Nexolab

theorem mem_mapM_option {α β : Type*} {f : α → Option β} {items : List α}
    {results : List β} (hmap : items.mapM f = some results) (result : β) :
    result ∈ results ↔ ∃ item ∈ items, f item = some result := by
  induction items generalizing results with
  | nil =>
    rw [List.mapM_nil] at hmap
    cases hmap
    simp
  | cons item rest ih =>
    rw [List.mapM_cons] at hmap
    simp only [Option.bind_eq_bind, Option.bind_eq_some_iff, Option.pure_def,
      Option.some.injEq] at hmap
    obtain ⟨first, hfirst, later, hlater, rfl⟩ := hmap
    rw [List.mem_cons, ih hlater]
    simp [hfirst, eq_comm]

theorem refuse_eq_ok {ε α : Type} {refused : Prop} [Decidable refused] {error : ε}
    {next : Unit → Except ε α} {rest : Except ε α} {result : α} :
    (if refused then (throw error : Except ε Unit) >>= next else rest) = .ok result ↔
      ¬ refused ∧ rest = .ok result := by
  split_ifs with hrefused
  · simp [hrefused, throw, throwThe, MonadExceptOf.throw, bind, Except.bind]
  · simp [hrefused]

variable {F : Type}

theorem isPythonSpace_of_isAlphanumeric {point : ℕ}
    (halphanumeric : isAlphanumeric point = true) : isPythonSpace point = false := by
  simp only [isAlphanumeric, Bool.or_eq_true, Bool.and_eq_true, decide_eq_true_eq] at halphanumeric
  simp only [isPythonSpace, Bool.or_eq_false_iff, Bool.and_eq_false_iff,
    decide_eq_false_iff_not]
  omega

variable {text : CodePoints} {fields : JsonFields F} {name : CodePoints}
  {startedText : JsonFields F → CodePoints}

theorem pythonStrip_of_isBundleId (htext : isBundleId text = true) :
    pythonStrip text = text := by
  apply stripWith_eq_self
  cases text with
  | nil => simp
  | cons first rest =>
    simp only [isBundleId, Bool.and_eq_true, List.all_eq_true] at htext
    obtain ⟨⟨hfirst, _⟩, hrest⟩ := htext
    intro point hpoint
    rcases List.mem_cons.mp hpoint with rfl | hlater
    · exact isPythonSpace_of_isAlphanumeric hfirst
    · have hallowed := hrest point hlater
      simp only [Bool.or_eq_true, decide_eq_true_eq] at hallowed
      rcases hallowed with ((hletter | rfl) | rfl) | rfl
      · exact isPythonSpace_of_isAlphanumeric hletter
      · rfl
      · rfl
      · rfl

theorem requiredString_eq_some {key : String} (hrequired : requiredString fields key = some text) :
    ∃ raw, textValue (dictGet fields key) = some raw ∧ pythonStrip raw = text := by
  simp only [requiredString, Option.bind_eq_bind, Option.bind_eq_some_iff,
    Option.guard_eq_some', Option.pure_def, Option.some.injEq] at hrequired
  obtain ⟨raw, hraw, _, _, hstrip⟩ := hrequired
  exact ⟨raw, hraw, hstrip⟩

theorem pythonStrip_of_requiredString {key : String}
    (hrequired : requiredString fields key = some text) :
    pythonStrip text = text := by
  obtain ⟨raw, _, rfl⟩ := requiredString_eq_some hrequired
  exact stripWith_idem _ _

theorem mem_stringTuple {key : String} {texts : List CodePoints}
    (htuple : stringTuple fields key = some texts) (text : CodePoints) :
    text ∈ texts ↔ ∃ items raw, dictGet fields key = some (.array items) ∧
      (∃ item ∈ items, textValue (some item) = some raw) ∧ pythonStrip raw = text := by
  unfold stringTuple at htuple
  split at htuple
  next item items hitems =>
    simp only [Option.bind_eq_bind, Option.bind_eq_some_iff, Option.guard_eq_some',
      Option.pure_def, Option.some.injEq] at htuple
    obtain ⟨raws, hraws, _, _, rfl⟩ := htuple
    rw [List.mem_insertionSort, List.mem_dedup, List.mem_map]
    have hmem : ∀ raw, raw ∈ raws ↔ ∃ found ∈ item :: items, textValue (some found) = some raw :=
      mem_mapM_option hraws
    constructor
    · rintro ⟨raw, hraw, rfl⟩
      exact ⟨_, raw, hitems, (hmem raw).mp hraw, rfl⟩
    · rintro ⟨found, raw, hfound, hraw, rfl⟩
      cases hitems.symm.trans hfound
      exact ⟨raw, (hmem raw).mpr hraw, rfl⟩
  next => cases htuple

variable [PythonFloat F]

theorem parseManifest_spec {files : BundleFiles F}
    {entry : VersionCatalogEntry} (hparse : parseManifest name files = some entry) :
    ∃ file payload, files.manifest = some file ∧ objectValue file.content = some payload ∧
      entry.bundleId = name ∧ isBundleId name = true ∧
        requiredString payload "platform" = some entry.platform ∧
          stringTuple (databaseSchema payload) "upgrade_from" = some entry.upgradeFrom := by
  simp only [parseManifest, Option.bind_eq_bind, Option.bind_eq_some_iff,
    Option.guard_eq_some', Option.pure_def, Option.some.injEq] at hparse
  obtain ⟨file, hfile, _, _, _, _, payload, hpayload, _, _, _, _, _, _, management,
    hmanagement, schema, hschema, bundleId, _, commit, _, _, hidentity, _, hname, _, _,
    _, _, platform, hplatform, _, _, upgradeFrom, hupgrade, _, _, rfl⟩ := hparse
  refine ⟨file, payload, hfile, hpayload, hname.symm, ?_, hplatform, ?_⟩
  · rw [hname]
    exact (Bool.and_eq_true_iff.mp hidentity).1
  · have hdb : databaseSchema payload = schema := by
      unfold databaseSchema
      rw [hmanagement, Option.bind_some, hschema]
      rfl
    rw [hdb]
    exact hupgrade

theorem validatedCatalogManifest_spec {files : BundleFiles F} {manifest : JsonFields F}
    (hvalid : validatedCatalogManifest name files = some manifest) :
    ∃ file, files.manifest = some file ∧ objectValue file.content = some manifest := by
  simp only [validatedCatalogManifest, Option.bind_eq_bind, Option.bind_eq_some_iff,
    Option.guard_eq_some', Option.pure_def, Option.some.injEq] at hvalid
  obtain ⟨file, hfile, _, _, found, hfound, _, _, _, _, _, _, _, _, _, _, _, _, _, _, _, _,
    rfl⟩ := hvalid
  exact ⟨file, hfile, hfound⟩

/-- What the timer has found when it queues a package. -/
structure TimerAdmission (directory : VersionDirectory F) (current : JsonFields F)
    (targetId platform schema : CodePoints) (manifest : JsonFields F) : Prop where
  idle : timerActiveOperation directory.operations = .ok false
  runtime : directory.current = .json (.object current)
  bundle : (textValue (dictGet current "bundle_id")).isSome
  release : (textValue (dictGet current "release")).isSome
  commit : (textValue (dictGet current "source_commit")).isSome
  onPlatform : textValue (dictGet current "platform") = some platform
  atSchema : textValue (dictGet current "schema_head") = some schema
  target : ∃ files, (targetId, files) ∈ directory.catalog ∧
    validatedCatalogManifest targetId files = some manifest
  targetPlatform : textValue (dictGet manifest "platform") = some platform
  targetSchema : ∃ items, dictGet (databaseSchema manifest) "upgrade_from" =
    some (.array items) ∧ ∃ item ∈ items, textValue (some item) = some schema

omit [PythonFloat F] in
theorem timerCurrent_eq {directory : VersionDirectory F} {current : JsonFields F}
    (hcur : timerCurrent directory = .ok (some current)) :
    directory.current = .json (.object current) := by
  unfold timerCurrent at hcur
  split at hcur
  next => cases hcur
  next hfields =>
    cases hcur
    exact hfields
  next => cases hcur

omit [PythonFloat F] in
theorem textValue_of_isPresent {value : Option (JsonValue F)}
    (hpresent : isPresent value = true) : ∃ text, textValue value = some text := by
  unfold isPresent at hpresent
  obtain ⟨text, htext, _⟩ := Option.any_eq_true _ _ |>.mp hpresent
  exact ⟨text, htext⟩

theorem mem_targetPackages {directory : VersionDirectory F} {targetCommit : CodePoints}
    {candidate : BundleCandidate F} (hcand : candidate ∈ targetPackages directory targetCommit) :
    (candidate.name, candidate.files) ∈ directory.catalog ∧
      validatedCatalogManifest candidate.name candidate.files = some candidate.manifest := by
  unfold targetPackages at hcand
  rw [List.mem_insertionSort, List.mem_filterMap] at hcand
  obtain ⟨⟨name, files⟩, hmem, hfound⟩ := hcand
  simp only [Option.bind_eq_some_iff] at hfound
  obtain ⟨manifest, hmanifest, hsame⟩ := hfound
  split_ifs at hsame
  cases hsame
  exact ⟨hmem, hmanifest⟩

theorem mem_fitting {directory : VersionDirectory F}
    {targetCommit platform schema : CodePoints} {candidate : BundleCandidate F}
    (hcand : candidate ∈ ((targetPackages directory targetCommit).filter
      (onPlatform platform)).filter (upgradesFrom schema)) :
    ((candidate.name, candidate.files) ∈ directory.catalog ∧
      validatedCatalogManifest candidate.name candidate.files = some candidate.manifest) ∧
      textValue (dictGet candidate.manifest "platform") = some platform ∧
        ∃ items, dictGet (databaseSchema candidate.manifest) "upgrade_from" =
          some (.array items) ∧ ∃ item ∈ items, textValue (some item) = some schema := by
  obtain ⟨hfitting, hupgrade⟩ := List.mem_filter.mp hcand
  obtain ⟨hpackage, hplatform⟩ := List.mem_filter.mp hfitting
  refine ⟨mem_targetPackages hpackage, of_decide_eq_true hplatform, ?_⟩
  unfold upgradesFrom at hupgrade
  split at hupgrade
  next items hitems =>
    obtain ⟨item, hitem, hsame⟩ := List.any_eq_true.mp hupgrade
    exact ⟨items, hitems, item, hitem, of_decide_eq_true hsame⟩
  next => cases hupgrade

theorem validatedCandidateBundle_spec {directory : VersionDirectory F}
    {targetCommit bundleId : CodePoints}
    (hidle : timerActiveOperation directory.operations = .ok false)
    (hbundle : validatedCandidateBundle directory targetCommit = .ok (.ok bundleId)) :
    ∃ current platform schema manifest,
      TimerAdmission directory current bundleId platform schema manifest := by
  simp only [validatedCandidateBundle, bind_eq_ok] at hbundle
  obtain ⟨read, hread, hbundle⟩ := hbundle
  cases read with
  | none => cases hbundle
  | some current =>
    dsimp only at hbundle
    split at hbundle
    next => cases hbundle
    next hpresent =>
      simp only [List.all_cons, List.all_nil, Bool.and_true, Bool.and_eq_true, not_not] at hpresent
      obtain ⟨hid, hrelease, hcommit, hplatform, hschema⟩ := hpresent
      obtain ⟨id, hid⟩ := textValue_of_isPresent hid
      obtain ⟨release, hrelease⟩ := textValue_of_isPresent hrelease
      obtain ⟨commit, hcommit⟩ := textValue_of_isPresent hcommit
      obtain ⟨platform, hplatform⟩ := textValue_of_isPresent hplatform
      obtain ⟨schema, hschema⟩ := textValue_of_isPresent hschema
      rw [hplatform, hschema, hid] at hbundle
      dsimp only [Option.getD_some] at hbundle
      split at hbundle
      next => cases hbundle
      next =>
        split at hbundle
        next => cases hbundle
        next =>
          split at hbundle
          next candidate hcand =>
            cases hbundle
            obtain ⟨⟨hcatalog, hmanifest⟩, hsamePlatform, hupgrade⟩ :=
              mem_fitting (List.mem_of_find?_eq_some hcand)
            exact ⟨current, platform, schema, candidate.manifest, hidle,
              timerCurrent_eq hread, by simp [hid], by simp [hrelease],
              by simp [hcommit], hplatform, hschema,
              ⟨candidate.files, hcatalog, hmanifest⟩, hsamePlatform, hupgrade⟩
          next => split_ifs at hbundle <;> cases hbundle

theorem enqueueScheduledActivation_spec {directory : VersionDirectory F}
    {check : JsonFields F} {operationId now : CodePoints} {operation : VersionOperation F}
    (hqueue : enqueueScheduledActivation directory check operationId now = .ok operation) :
    textValue (dictGet check "candidate_bundle_id") = some operation.targetBundleId ∧
      ∃ current platform schema manifest,
        TimerAdmission directory current operation.targetBundleId platform schema
          manifest := by
  unfold enqueueScheduledActivation at hqueue
  rw [refuse_eq_ok, refuse_eq_ok] at hqueue
  obtain ⟨_, _, hqueue⟩ := hqueue
  split at hqueue
  next targetCommit expected _ hexpected =>
    rw [bind_eq_ok] at hqueue
    obtain ⟨active, hact, hqueue⟩ := hqueue
    rw [refuse_eq_ok] at hqueue
    obtain ⟨hidle, hqueue⟩ := hqueue
    have hinact : active = false := by
      simpa using fun hact => hidle (Or.inl hact)
    subst hinact
    rw [bind_eq_ok] at hqueue
    obtain ⟨found, hfound, hqueue⟩ := hqueue
    cases found with
    | error reason => cases hqueue
    | ok bundleId =>
      dsimp only at hqueue
      rw [refuse_eq_ok, bind_eq_ok] at hqueue
      obtain ⟨hsame, read, _, hqueue⟩ := hqueue
      have htarget : operation.targetBundleId = bundleId := by
        split at hqueue
        next current target _ =>
          split at hqueue
          next =>
            rw [refuse_eq_ok] at hqueue
            cases hqueue.2
            rfl
          next => cases hqueue
        next => cases hqueue
      rw [htarget]
      refine ⟨?_, validatedCandidateBundle_spec hact hfound⟩
      rw [hexpected, not_not.mp hsame]
  next => cases hqueue

/-! ## The service -/

/-- What the service asks of the deployed release and the timer does not. -/
structure StatedAndListed (directory : VersionDirectory F) (catalogLimit : ℕ)
    (targetId : CodePoints) (current : JsonFields F) : Prop where
  known : VersionDirectory.runtimeStateKnown current = true
  stated : (["build_timestamp", "runtime_mode", "deployed_at", "health"].all fun key =>
    (dictGet current key).isSome) = true
  deployed : ∃ entry ∈ directory.catalogEntries catalogLimit,
    VersionDirectory.currentBundleId current = some entry.bundleId ∧
      VersionDirectory.hasRelease current entry = true
  listed : ∃ entry ∈ directory.catalogEntries catalogLimit, entry.bundleId = targetId
  other : textValue (dictGet current "bundle_id") ≠ some targetId
  trimmed : ∀ schema, textValue (dictGet current "schema_head") = some schema →
    pythonStrip schema = schema

/-- The directory and the candidate of the check are as the service wants them. -/
def AdministratorMayUpdate (directory : VersionDirectory F) (catalogLimit : ℕ)
    (check : JsonFields F) : Prop :=
  ∃ current targetId, directory.current = .json (.object current) ∧
    textValue (dictGet check "candidate_bundle_id") = some targetId ∧
      StatedAndListed directory catalogLimit targetId current

theorem mem_catalogEntries {directory : VersionDirectory F} {catalogLimit : ℕ}
    {entry : VersionCatalogEntry} (hent : entry ∈ directory.catalogEntries catalogLimit) :
    ∃ files, (entry.bundleId, files) ∈ directory.catalog ∧
      parseManifest entry.bundleId files = some entry := by
  have hsorted := List.mem_of_mem_take hent
  rw [List.mem_insertionSort, List.mem_filterMap] at hsorted
  obtain ⟨⟨name, files⟩, hmem, hparse⟩ := hsorted
  obtain ⟨_, _, _, _, hname, _⟩ := parseManifest_spec hparse
  dsimp only at hparse
  rw [hname]
  exact ⟨files, hmem, hparse⟩

omit [PythonFloat F] in
theorem files_unique {directory : VersionDirectory F}
    {first second : BundleFiles F} (hfirst : (name, first) ∈ directory.catalog)
    (hsecond : (name, second) ∈ directory.catalog) : first = second := by
  have hsame := List.inj_on_of_nodup_map directory.distinct hfirst hsecond rfl
  exact (Prod.mk.inj hsame).2

theorem entries_unique {directory : VersionDirectory F} {catalogLimit : ℕ}
    {first second : VersionCatalogEntry} (hfirst : first ∈ directory.catalogEntries catalogLimit)
    (hsecond : second ∈ directory.catalogEntries catalogLimit)
    (hsame : first.bundleId = second.bundleId) : first = second := by
  obtain ⟨files, hmem, hparse⟩ := mem_catalogEntries hfirst
  obtain ⟨others, hother, hparseOther⟩ := mem_catalogEntries hsecond
  rw [hsame] at hmem hparse
  rw [files_unique hmem hother] at hparse
  exact Option.some.inj (hparse.symm.trans hparseOther)

theorem find_entry {directory : VersionDirectory F} {catalogLimit : ℕ}
    {entry : VersionCatalogEntry} (hent : entry ∈ directory.catalogEntries catalogLimit) :
    ((directory.catalogEntries catalogLimit).find? fun other =>
      other.bundleId = entry.bundleId) = some entry := by
  cases hfind : (directory.catalogEntries catalogLimit).find? fun other =>
      other.bundleId = entry.bundleId with
  | none =>
    rw [List.find?_eq_none] at hfind
    simpa using hfind entry hent
  | some found =>
    have hsame := List.find?_some hfind
    rw [entries_unique (List.mem_of_find?_eq_some hfind) hent (of_decide_eq_true hsame)]

theorem knownPackagedRelease_iff {directory : VersionDirectory F} {catalogLimit : ℕ}
    {current : JsonFields F} :
    directory.knownPackagedRelease catalogLimit current = true ↔
      VersionDirectory.runtimeStateKnown current = true ∧
        ∃ entry ∈ directory.catalogEntries catalogLimit,
          VersionDirectory.currentBundleId current = some entry.bundleId ∧
            VersionDirectory.hasRelease current entry = true := by
  unfold VersionDirectory.knownPackagedRelease
  rw [Bool.and_eq_true, Bool.and_eq_true, Option.any_eq_true, and_assoc]
  constructor
  · rintro ⟨_, hknown, entry, hfind, hrelease⟩
    have hid := List.find?_some hfind
    exact ⟨hknown, entry, List.mem_of_find?_eq_some hfind, (of_decide_eq_true hid).symm, hrelease⟩
  · rintro ⟨hknown, entry, hent, hid, hrelease⟩
    refine ⟨?_, hknown, entry, ?_, hrelease⟩
    · cases current with
      | nil => cases hid
      | cons => simp
    · rw [hid]
      simpa using find_entry hent

omit [PythonFloat F] in
theorem timerActiveOperation_cons {first : JsonFile F} {rest : List (JsonFile F)}
    (hidle : timerActiveOperation (first :: rest) = .ok false) :
    timerActiveOperation rest = .ok false ∧ ∀ fields, fields ≠ [] →
      objectValue first.value = some fields →
        VersionDirectory.isActiveStatus (VersionDirectory.operationStatus fields) = false := by
  unfold timerActiveOperation at hidle
  split at hidle
  next => cases hidle
  next field others =>
    split at hidle
    next => cases hidle
    next => cases hidle
    next =>
      split at hidle
      next => cases hidle
      next hinact =>
        refine ⟨hidle, fun fields _ hfields => ?_⟩
        cases hfields
        exact Bool.eq_false_of_not_eq_true hinact
  next _ hother =>
    refine ⟨hidle, fun fields hsome hfields => ?_⟩
    cases first with
    | json value =>
      cases value with
      | object entries =>
        cases hfields
        cases fields with
        | nil => exact absurd rfl hsome
        | cons field others => exact absurd rfl (hother field others)
      | _ => cases hfields
    | _ => cases hfields

omit [PythonFloat F] in
theorem isActiveStatus_of_timer {operations : List (JsonFile F)}
    (hidle : timerActiveOperation operations = .ok false) {file : JsonFile F}
    (hfile : file ∈ operations)
    (hfields : objectValue file.value = some fields) (hsome : fields ≠ []) :
    VersionDirectory.isActiveStatus (VersionDirectory.operationStatus fields) = false := by
  induction operations with
  | nil => cases hfile
  | cons first rest ih =>
    obtain ⟨hrest, hfirst⟩ := timerActiveOperation_cons hidle
    rcases List.mem_cons.mp hfile with rfl | hlater
    · exact hfirst fields hsome hfields
    · exact ih hrest hlater

theorem activeOperation_of_timer {directory : VersionDirectory F}
    (startedText : JsonFields F → CodePoints)
    (hidle : timerActiveOperation directory.operations = .ok false) :
    activeOperation directory startedText = false := by
  unfold activeOperation
  rw [List.any_eq_false]
  intro fields hfields
  have hpayload := (List.mem_insertionSort _).mp (List.mem_of_mem_take hfields)
  unfold VersionDirectory.operationPayloads at hpayload
  obtain ⟨hread, hver⟩ := List.mem_filter.mp hpayload
  obtain ⟨file, hfile, hobject⟩ := List.mem_filterMap.mp hread
  have hsome : fields ≠ [] := by
    rintro rfl
    cases hver
  simp [isActiveStatus_of_timer hidle hfile hobject hsome]

omit [PythonFloat F] in
theorem checkTarget_update {current : JsonFields F} {target : VersionCatalogEntry} :
    checkTarget current true target = .ok () ↔
      textValue (dictGet current "platform") = some target.platform ∧
        textValue (dictGet current "bundle_id") ≠ some target.bundleId ∧
          schemaDeclared current target.upgradeFrom = true := by
  unfold checkTarget
  rw [refuse_eq_ok, refuse_eq_ok, refuse_eq_ok]
  rw [if_pos rfl, not_not]
  cases hschema : schemaDeclared current target.upgradeFrom with
  | false => simp [throw, throwThe, MonadExceptOf.throw]
  | true => simp [pure, Except.pure]

theorem enqueueVersionAction_update {directory : VersionDirectory F} {catalogLimit : ℕ}
    {targetId confirmation : CodePoints}
    {reason : Option CodePoints} {call : AuthorizedCall} {accepted : VersionOperation F}
    (haccept : enqueueVersionAction directory catalogLimit startedText
      ⟨true, targetId, confirmation, reason⟩ call = .ok accepted) :
    accepted.targetBundleId = pythonStrip targetId ∧
      ∃ current, directory.currentPayload = some current ∧
        directory.knownPackagedRelease catalogLimit current = true ∧
          ∃ target ∈ directory.catalogEntries catalogLimit, target.bundleId = pythonStrip targetId ∧
              checkTarget current true target = .ok () := by
  unfold enqueueVersionAction at haccept
  dsimp only at haccept
  rw [refuse_eq_ok, refuse_eq_ok, refuse_eq_ok] at haccept
  obtain ⟨_, _, _, haccept⟩ := haccept
  split at haccept
  next => cases haccept
  next current hcur =>
    rw [refuse_eq_ok] at haccept
    obtain ⟨hknown, haccept⟩ := haccept
    split at haccept
    next => cases haccept
    next target htarget =>
      rw [bind_eq_ok] at haccept
      obtain ⟨_, hcheck, haccept⟩ := haccept
      cases haccept
      have hid := List.find?_some htarget
      exact ⟨rfl, current, hcur, not_not.mp hknown, target,
        List.mem_of_find?_eq_some htarget, of_decide_eq_true hid, hcheck⟩

theorem enqueueVersionAction_of_checks {directory : VersionDirectory F} {catalogLimit : ℕ}
    {targetId : CodePoints} {reason : Option CodePoints} {call : AuthorizedCall}
    {current : JsonFields F} {target : VersionCatalogEntry} (hid : isBundleId targetId = true)
    (hidle : activeOperation directory startedText = false)
    (hcur : directory.currentPayload = some current)
    (hknown : directory.knownPackagedRelease catalogLimit current = true)
    (htarget : target ∈ directory.catalogEntries catalogLimit) (hsame : target.bundleId = targetId)
    (hcheck : checkTarget current true target = .ok ()) :
    ∃ accepted, enqueueVersionAction directory catalogLimit startedText
      ⟨true, targetId, confirmationOf true targetId, reason⟩ call = .ok accepted ∧
        accepted.targetBundleId = targetId := by
  have hstrip := pythonStrip_of_isBundleId hid
  have hfind := find_entry htarget
  rw [hsame] at hfind
  unfold enqueueVersionAction
  simp [hstrip, hid, hidle, hcur, hknown, hfind, hcheck, bind, Except.bind, pure, Except.pure]

def ServiceAccepts (directory : VersionDirectory F) (catalogLimit : ℕ)
    (startedText : JsonFields F → CodePoints) (targetId : CodePoints)
    (reason : Option CodePoints) (call : AuthorizedCall) : Prop :=
  ∃ confirmation accepted, enqueueVersionAction directory catalogLimit startedText
    ⟨true, targetId, confirmation, reason⟩ call = .ok accepted ∧ accepted.targetBundleId = targetId

section Inclusion

variable {directory : VersionDirectory F} {current : JsonFields F}
  {targetId platform schema : CodePoints} {manifest : JsonFields F}
  (hadm : TimerAdmission directory current targetId platform schema manifest)
  {catalogLimit : ℕ} {entry : VersionCatalogEntry}
  (hent : entry ∈ directory.catalogEntries catalogLimit) (hid : entry.bundleId = targetId)

include hadm hent hid

theorem entry_reads_manifest :
    requiredString manifest "platform" = some entry.platform ∧
      stringTuple (databaseSchema manifest) "upgrade_from" = some entry.upgradeFrom := by
  obtain ⟨files, hmem, hvalid⟩ := hadm.target
  obtain ⟨others, hother, hparse⟩ := mem_catalogEntries hent
  rw [hid] at hother hparse
  have hfiles : others = files := files_unique hother hmem
  subst hfiles
  obtain ⟨file, payload, hfile, hpayload, _, _, hplatform, hupgrade⟩ :=
    parseManifest_spec hparse
  obtain ⟨otherFile, hotherFile, hmanifest⟩ := validatedCatalogManifest_spec hvalid
  have hsameFile : otherFile = file := Option.some.inj (hotherFile.symm.trans hfile)
  subst hsameFile
  have hsame : manifest = payload := Option.some.inj (hmanifest.symm.trans hpayload)
  rw [hsame]
  exact ⟨hplatform, hupgrade⟩

theorem entry_platform (hstripped : pythonStrip platform = platform) :
    entry.platform = platform := by
  obtain ⟨hplatform, _⟩ := entry_reads_manifest hadm hent hid
  obtain ⟨raw, hraw, hstrip⟩ := requiredString_eq_some hplatform
  rw [hadm.targetPlatform] at hraw
  rw [← hstrip, ← Option.some.inj hraw, hstripped]

theorem schema_mem_upgradeFrom :
    schema ∈ entry.upgradeFrom ↔ pythonStrip schema = schema := by
  obtain ⟨_, hupgrade⟩ := entry_reads_manifest hadm hent hid
  rw [mem_stringTuple hupgrade]
  constructor
  · rintro ⟨_, raw, _, _, rfl⟩
    exact stripWith_idem _ _
  · intro htrimmed
    obtain ⟨items, hitems, item, hitem, htext⟩ := hadm.targetSchema
    exact ⟨items, schema, hitems, ⟨item, hitem, htext⟩, htrimmed⟩

end Inclusion

theorem TimerAdmission.currentFields {directory : VersionDirectory F}
    {current : JsonFields F} {targetId platform schema : CodePoints} {manifest : JsonFields F}
    (hadm : TimerAdmission directory current targetId platform schema manifest) :
    directory.currentFields = some current := by
  unfold VersionDirectory.currentFields
  rw [hadm.runtime]
  rfl

omit [PythonFloat F] in
theorem platform_of_hasRelease {current : JsonFields F} {entry : VersionCatalogEntry}
    (hrelease : VersionDirectory.hasRelease current entry = true) :
    textValue (dictGet current "platform") = some entry.platform := by
  unfold VersionDirectory.hasRelease at hrelease
  rw [Bool.and_eq_true, Bool.and_eq_true] at hrelease
  exact of_decide_eq_true hrelease.2

theorem TimerAdmission.currentPayload {directory : VersionDirectory F}
    {current : JsonFields F} {targetId platform schema : CodePoints} {manifest : JsonFields F}
    (hadm : TimerAdmission directory current targetId platform schema manifest) :
    directory.currentPayload = some current ↔
      (["build_timestamp", "runtime_mode", "deployed_at", "health"].all fun key =>
        (dictGet current key).isSome) = true := by
  have hisSome : ∀ key, (textValue (dictGet current key)).isSome →
      (dictGet current key).isSome = true := by
    intro key hkey
    cases hvalue : dictGet current key with
    | none =>
      rw [hvalue] at hkey
      cases hkey
    | some value => rfl
  have hbundle := hisSome _ hadm.bundle
  have hrelease := hisSome _ hadm.release
  have hcommit := hisSome _ hadm.commit
  have hplatform := hisSome "platform" (by simp [hadm.onPlatform])
  have hschema := hisSome "schema_head" (by simp [hadm.atSchema])
  unfold VersionDirectory.currentPayload
  rw [hadm.currentFields, Option.filter_eq_some_iff]
  simp [VersionDirectory.requiredKeys, hbundle, hrelease, hcommit, hplatform, hschema]

/-! ## A night after a failed update -/

abbrev textJson (text : String) : JsonValue FloatValue := .string (codePoints text)

def fieldsOf (fields : List (String × JsonValue FloatValue)) : JsonFields FloatValue :=
  fields.map fun field => (codePoints field.1, field.2)

def packageCommit (point : ℕ) : CodePoints := List.replicate 40 point

def packageManifest (bundleId : String) (commit : CodePoints) : JsonFields FloatValue :=
  fieldsOf [("schema_version", .int 1), ("bundle_version", textJson bundleId),
     ("source_commit", .string commit), ("created_at", textJson "2026"),
     ("platform", textJson "linux"),
     ("persistent_data_policy",
      .object (fieldsOf (persistentDataFlags.map fun key => (key, .bool false)))),
     ("version_management", .object (fieldsOf
      ([("bundle_id", textJson bundleId),
        ("database_schema", .object (fieldsOf
          [("head", textJson "s2"), ("upgrade_from", .array [textJson "s1"]),
           ("runtime_compatible_schema_heads", .array [textJson "s2"])]))] ++
        managementFlags.map fun key => (key, .bool true))))]

def packageFiles (bundleId : String) (commit : CodePoints) : BundleFiles FloatValue where
  manifest := some ⟨commit, some (.object (packageManifest bundleId commit))⟩
  marker := .json (.object (fieldsOf [("manifest_sha256", .string commit)]))
  provenance := none

/-- The release `a` is deployed, whether or not its runtime is known. -/
def deployedRelease (known : Bool) : JsonFields FloatValue :=
  fieldsOf [("bundle_id", textJson "a"), ("release", textJson "a"),
     ("source_commit", .string (packageCommit 97)), ("build_timestamp", textJson "2026"),
     ("runtime_mode", textJson "packaged"), ("platform", textJson "linux"),
     ("schema_head", textJson "s1"), ("deployed_at", textJson "2026"),
     ("health", textJson "ready"), ("runtime_state_known", .bool known)]

def nightDirectory (known : Bool) : VersionDirectory FloatValue where
  current := .json (.object (deployedRelease known))
  catalog := [(codePoints "a", packageFiles "a" (packageCommit 97)),
    (codePoints "b", packageFiles "b" (packageCommit 98))]
  distinct := by decide +kernel
  elsewhere name := (name, .absent)
  operations := []
  requests := []

def scheduledCheck : JsonFields FloatValue :=
  fieldsOf [("source", textJson "scheduled"), ("actor", textJson "system:update-timer"),
     ("activation_eligible", .bool true), ("target_commit", .string (packageCommit 98)),
     ("candidate_bundle_id", textJson "b")]

def startedAtText (operation : JsonFields FloatValue) : CodePoints :=
  (textValue (dictGet operation "started_at")).getD []

def administratorCall : AuthorizedCall := ⟨[1], [2], [3], [4]⟩

def queuedUpdate : VersionOperation FloatValue where
  id := [1]
  organizationId := none
  actorSubject := codePoints "system:update-timer"
  action := "update"
  sourceBundleId := some (textJson "a")
  sourceRelease := some (textJson "a")
  targetBundleId := codePoints "b"
  targetRelease := codePoints "b"
  targetCommit := packageCommit 98
  startedAt := [2]
  reason := some (codePoints "automatic 02:00 update")

theorem nightDirectory_queues (known : Bool) :
    enqueueScheduledActivation (nightDirectory known) scheduledCheck [1] [2] =
      .ok queuedUpdate := by
  cases known <;> rfl

/-- A package which the timer queues is one which the service accepts if and only if the
runtime is stated, known, listed and not the target. -/
theorem activation_accepted_iff {directory : VersionDirectory F} {check : JsonFields F}
    {operationId now : CodePoints} {operation : VersionOperation F}
    (hqueue : enqueueScheduledActivation directory check operationId now = .ok operation)
    (catalogLimit : ℕ) (startedText : JsonFields F → CodePoints)
    (reason : Option CodePoints) (call : AuthorizedCall) :
    ServiceAccepts directory catalogLimit startedText operation.targetBundleId reason call ↔
      AdministratorMayUpdate directory catalogLimit check := by
  obtain ⟨hcand, current, platform, schema, manifest, hadm⟩ :=
    enqueueScheduledActivation_spec hqueue
  constructor
  · rintro ⟨confirmation, accepted, haccept, hsame⟩
    obtain ⟨hstrip, other, hpayload, hknown, target, htarget, hid, hcheck⟩ :=
      enqueueVersionAction_update haccept
    rw [← hstrip, hsame] at hid
    have hother : other = current := by
      have hfields := (Option.filter_eq_some_iff.mp hpayload).1
      rw [hadm.currentFields] at hfields
      exact (Option.some.inj hfields).symm
    subst hother
    obtain ⟨hstate, hdeployed⟩ := knownPackagedRelease_iff.mp hknown
    obtain ⟨_, hnotCurrent, hschema⟩ := checkTarget_update.mp hcheck
    rw [hid] at hnotCurrent
    refine ⟨other, _, hadm.runtime, hcand, hstate,
      hadm.currentPayload.mp hpayload, hdeployed, ⟨target, htarget, hid⟩, hnotCurrent, ?_⟩
    intro text htext
    rw [hadm.atSchema] at htext
    cases htext
    rw [← schema_mem_upgradeFrom hadm htarget hid]
    unfold schemaDeclared at hschema
    simpa [hadm.atSchema] using hschema
  · rintro ⟨other, targetId, hother, htargetId, hlisted⟩
    rw [hcand] at htargetId
    cases htargetId
    have hsame : other = current := by
      rw [hadm.runtime] at hother
      cases hother
      rfl
    subst hsame
    obtain ⟨target, htarget, hid⟩ := hlisted.listed
    have htrimmed := hlisted.trimmed schema hadm.atSchema
    have hknown := knownPackagedRelease_iff.mpr ⟨hlisted.known, hlisted.deployed⟩
    obtain ⟨deployed, hdeployed, _, hrelease⟩ := hlisted.deployed
    have hplatform : pythonStrip platform = platform := by
      obtain ⟨_, _, hparse⟩ := mem_catalogEntries hdeployed
      obtain ⟨_, _, _, _, _, _, hstripped, _⟩ := parseManifest_spec hparse
      have hstated := platform_of_hasRelease hrelease
      rw [hadm.onPlatform] at hstated
      rw [Option.some.inj hstated]
      exact pythonStrip_of_requiredString hstripped
    have hcheck : checkTarget other true target = .ok () := by
      rw [checkTarget_update, entry_platform hadm htarget hid hplatform, hid]
      refine ⟨hadm.onPlatform, hlisted.other, ?_⟩
      unfold schemaDeclared
      rw [hadm.atSchema]
      simpa using (schema_mem_upgradeFrom hadm htarget hid).mpr htrimmed
    obtain ⟨_, _, hparse⟩ := mem_catalogEntries htarget
    obtain ⟨_, _, _, _, _, hbundle, _⟩ := parseManifest_spec hparse
    rw [hid] at hbundle
    obtain ⟨accepted, haccept, htargetId⟩ := enqueueVersionAction_of_checks hbundle
      (activeOperation_of_timer startedText hadm.idle)
      (hadm.currentPayload.mpr hlisted.stated) hknown htarget hid hcheck
    exact ⟨_, accepted, haccept, htargetId⟩

theorem known_runtime_accepted :
    enqueueScheduledActivation (nightDirectory true) scheduledCheck [1] [2] =
      .ok queuedUpdate ∧
    (ServiceAccepts (nightDirectory true) 20 startedAtText queuedUpdate.targetBundleId none
        administratorCall ↔
      AdministratorMayUpdate (nightDirectory true) 20 scheduledCheck) :=
  ⟨nightDirectory_queues true, activation_accepted_iff (nightDirectory_queues true) 20
    startedAtText none administratorCall⟩

/-- After an update which failed half way nobody knows what is running, and the timer
queues the next one. -/
theorem unknown_runtime_updated :
    ¬ ∀ (directory : VersionDirectory FloatValue) (check : JsonFields FloatValue)
        (operationId now : CodePoints) (operation : VersionOperation FloatValue),
      enqueueScheduledActivation directory check operationId now = .ok operation →
        ServiceAccepts directory 20 startedAtText operation.targetBundleId none
          administratorCall := by
  intro hclaim
  obtain ⟨_, _, haccept, _⟩ :=
    hclaim (nightDirectory false) _ _ _ _ (nightDirectory_queues false)
  obtain ⟨_, current, hcur, hknown, _⟩ := enqueueVersionAction_update haccept
  have hstate := (knownPackagedRelease_iff.mp hknown).1
  have hfields : deployedRelease false = current :=
    Option.some.inj (Option.filter_eq_some_iff.mp hcur).1
  rw [← hfields] at hstate
  have hunknown : VersionDirectory.runtimeStateKnown (deployedRelease false) = false := by
    decide +kernel
  rw [hunknown] at hstate
  cases hstate

end Nexolab
