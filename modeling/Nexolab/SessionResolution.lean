import Mathlib.Data.Prod.Lex
import Mathlib.Data.String.Basic
import Nexolab.SessionRows
import Nexolab.VersionTimeline

/-!
# Resolution over the session database

The payloads the repository freezes are well formed, so on the tables of the
session database the resolver can only fail on two sessions or two stages of one
session.  What it finds for a session is the snapshot in force, and in it the
binding of the series.
-/

namespace Nexolab

theorem textOf_codePoints (text : String) : textOf (codePoints text) = text := by
  unfold textOf codePoints
  rw [List.map_map]
  have hid : (Char.ofNat ∘ Char.toNat) = id := by
    funext char
    simp
  rw [hid, List.map_id, String.ofList_toList]

theorem codePoints_id_ne_nil (id : UuidText) : codePoints id.text ≠ [] := by
  intro hnil
  have hlen := congrArg List.length hnil
  unfold codePoints at hlen
  rw [List.length_map, String.length_toList, id.length_eq] at hlen
  simp at hlen

section Resolution

variable {F : Type}

/-! ## The binding of a series in a payload -/

theorem dictGet_cons (key wanted : String) (value : JsonValue F) (rest : JsonFields F) :
    dictGet ((codePoints key, value) :: rest) wanted =
      if key = wanted then some value else dictGet rest wanted := by
  unfold dictGet
  rw [List.find?_cons]
  by_cases hkey : key = wanted
  · simp [hkey]
  · have hpoints : codePoints key ≠ codePoints wanted := by
      intro hequal
      exact hkey (codePoints_injective hequal)
    simp [hkey, hpoints]

theorem fieldIs_cons (key wanted value text : String) (rest : JsonFields F) :
    fieldIs ((codePoints key, .string (codePoints text)) :: rest) wanted value =
      if key = wanted then decide (text = value)
      else fieldIs rest wanted value := by
  unfold fieldIs
  rw [dictGet_cons]
  by_cases hkey : key = wanted
  · rw [if_pos hkey, if_pos hkey]
    exact decide_eq_decide.mpr codePoints_injective.eq_iff
  · rw [if_neg hkey, if_neg hkey]

theorem matchBinding_toJson (event : TelemetryEvent F)
    (matchingIds : List CodePoints) (binding : FrozenBinding) :
    matchBinding event matchingIds binding.toJson = .ok (if binding.identity = event.series then
        matchingIds ++ [codePoints binding.id.text] else matchingIds) := by
  have hseries : binding.identity = event.series ↔ binding.identity.nodeId = event.nodeId.text ∧
        binding.identity.equipmentId = event.equipmentId.text ∧
        binding.identity.channelId = event.channelId.text ∧
        binding.identity.metric = event.metric.text := by
    cases hidentity : binding.identity
    simp [TelemetryEvent.series]
  unfold matchBinding FrozenBinding.toJson
  simp only [fieldIs_cons, dictGet_cons]
  by_cases hmatch : binding.identity = event.series
  · cases hid : codePoints binding.id.text with
    | nil => exact absurd hid (codePoints_id_ne_nil binding.id)
    | cons point rest => simp [hmatch, TelemetryEvent.series]
  · have hsome : ¬ (binding.identity.nodeId = event.nodeId.text ∧
        binding.identity.equipmentId = event.equipmentId.text ∧
        binding.identity.channelId = event.channelId.text ∧
        binding.identity.metric = event.metric.text) :=
      fun hall => hmatch (hseries.mpr hall)
    simp [hmatch]
    tauto

def ConfigSnapshotRecord.bindingOf (snapshot : ConfigSnapshotRecord)
    (series : SeriesKey) : Option FrozenBinding :=
  snapshot.bindings.find? fun binding => binding.identity = series

theorem foldlM_matchBinding (event : TelemetryEvent F)
    (bindings : List FrozenBinding) (matchingIds : List CodePoints) :
    (bindings.map FrozenBinding.toJson).foldlM (matchBinding event) matchingIds =
      .ok (matchingIds ++ (bindings.filter fun binding =>
        binding.identity = event.series).map fun binding =>
          codePoints binding.id.text) := by
  induction bindings generalizing matchingIds with
  | nil =>
    rw [List.filter_nil, List.map_nil, List.map_nil, List.append_nil]
    rfl
  | cons binding rest ih =>
    rw [List.map_cons, List.foldlM_cons, matchBinding_toJson]
    by_cases hmatch : binding.identity = event.series
    · rw [if_pos hmatch, List.filter_cons_of_pos (by simpa using hmatch)]
      change List.foldlM _ _ _ = _
      rw [ih, List.map_cons, List.append_assoc]
      rfl
    · rw [if_neg hmatch, List.filter_cons_of_neg (by simpa using hmatch)]
      exact ih matchingIds

theorem filter_eq_find?_toList {α κ : Type} [DecidableEq κ] {key : α → κ}
    {items : List α} (hnodup : (items.map key).Nodup) (wanted : κ) :
    (items.filter fun item => key item = wanted) =
      (items.find? fun item => key item = wanted).toList := by
  induction items with
  | nil => rfl
  | cons item rest ih =>
    rw [List.map_cons, List.nodup_cons] at hnodup
    obtain ⟨hfresh, hrest⟩ := hnodup
    by_cases hitem : key item = wanted
    · rw [List.filter_cons_of_pos (by simpa using hitem),
        List.find?_cons_of_pos (by simpa using hitem)]
      have hnone : (rest.filter fun item => key item = wanted) = [] := by
        rw [List.filter_eq_nil_iff]
        intro other hother hwanted
        apply hfresh
        rw [hitem, ← of_decide_eq_true hwanted]
        exact List.mem_map_of_mem hother
      rw [hnone]
      rfl
    · rw [List.filter_cons_of_neg (by simpa using hitem),
        List.find?_cons_of_neg (by simpa using hitem)]
      exact ih hrest

def ConfigSnapshotRecord.Distinct (snapshot : ConfigSnapshotRecord) : Prop :=
  (snapshot.bindings.map FrozenBinding.identity).Nodup

variable {snapshot : ConfigSnapshotRecord} {time : Instant}
  {claim : String × CodePoints × String}

theorem snapshotBindingId_payload (hdist : snapshot.Distinct) (event : TelemetryEvent F) :
    snapshotBindingId snapshot.payload event =
      .ok ((snapshot.bindingOf event.series).map fun binding =>
        codePoints binding.id.text) := by
  unfold snapshotBindingId ConfigSnapshotRecord.payload
  simp only [dictGet_cons]
  simp only [String.reduceEq, if_false, if_true, foldlM_matchBinding, List.nil_append]
  rw [filter_eq_find?_toList hdist]
  unfold ConfigSnapshotRecord.bindingOf
  cases snapshot.bindings.find? fun binding => binding.identity = event.series with
  | none => rfl
  | some binding => rfl

/-- The resolver prefers the latest capture, then the largest version. -/
def snapshotRank (snapshot : ConfigSnapshotRecord) : ℤ ×ₗ ℕ ×ₗ String :=
  toLex (snapshot.capturedAt, toLex (snapshot.version, snapshot.id.text))

def SessionDatabase.snapshotsOf (database : SessionDatabase)
    (sessionId : String) : List ConfigSnapshotRecord :=
  database.snapshots.filter fun snapshot => snapshot.sessionId = sessionId

def SessionDatabase.snapshotInForce (database : SessionDatabase)
    (sessionId : String) (time : Instant) : Option ConfigSnapshotRecord :=
  let matching := database.snapshots.filter fun snapshot =>
    snapshot.sessionId = sessionId ∧ snapshot.capturedAt ≤ time
  (matching.insertionSort fun left right =>
    right.capturedAt < left.capturedAt ∨ right.capturedAt = left.capturedAt ∧
        (right.version < left.version ∨
          right.version = left.version ∧ right.id.text ≤ left.id.text)).head?

theorem snapshotAt_tables (database : SessionDatabase) (sessionId : String) (time : Instant) :
    snapshotAt (database.tables : SessionTables F) sessionId time =
      (database.snapshotInForce sessionId time).map ConfigSnapshotRecord.row := by
  unfold snapshotAt SessionDatabase.snapshotInForce SessionDatabase.tables
  simp only [List.filter_map]
  rw [← List.map_insertionSort (r := fun left right : ConfigSnapshotRecord =>
    right.capturedAt < left.capturedAt ∨ right.capturedAt = left.capturedAt ∧
        (right.version < left.version ∨
          right.version = left.version ∧ right.id.text ≤ left.id.text)),
    List.head?_map]
  · rfl
  · intro left _ right _
    rfl

theorem snapshotOrder_iff (left right : ConfigSnapshotRecord) :
    (right.capturedAt < left.capturedAt ∨ right.capturedAt = left.capturedAt ∧
        (right.version < left.version ∨
          right.version = left.version ∧ right.id.text ≤ left.id.text)) ↔
      snapshotRank right ≤ snapshotRank left := by
  unfold snapshotRank
  rw [Prod.Lex.toLex_le_toLex, Prod.Lex.toLex_le_toLex]

variable {database : SessionDatabase} {sessionId : String} {event : TelemetryEvent F}

theorem snapshotInForce_inForce (hsnap : database.snapshotInForce sessionId time = some snapshot) :
    InForce ConfigSnapshotRecord.capturedAt snapshotRank
      (database.snapshotsOf sessionId) time snapshot := by
  unfold SessionDatabase.snapshotInForce at hsnap
  simp only [snapshotOrder_iff] at hsnap
  have : Std.Total fun left right : ConfigSnapshotRecord =>
      snapshotRank right ≤ snapshotRank left :=
    ⟨fun left right => le_total (snapshotRank right) (snapshotRank left)⟩
  have : IsTrans ConfigSnapshotRecord fun left right =>
      snapshotRank right ≤ snapshotRank left :=
    ⟨fun _ _ _ hfirst hsecond => hsecond.trans hfirst⟩
  obtain ⟨hmem, hlast⟩ := mem_and_le_of_head?_insertionSort hsnap
  have hmatch : ∀ other, other ∈ database.snapshots.filter (fun snapshot =>
      snapshot.sessionId = sessionId ∧ snapshot.capturedAt ≤ time) ↔
      other ∈ database.snapshotsOf sessionId ∧ other.capturedAt ≤ time := by
    intro other
    simp [SessionDatabase.snapshotsOf, and_assoc]
  refine ⟨((hmatch _).mp hmem).1, ((hmatch _).mp hmem).2, ?_⟩
  intro other hother hstarted
  rcases hlast other ((hmatch other).mpr ⟨hother, hstarted⟩) with hequal | hrank
  · rw [hequal]
  · exact hrank

theorem snapshotInForce_eq_none :
    database.snapshotInForce sessionId time = none ↔
      ∀ snapshot ∈ database.snapshotsOf sessionId, time < snapshot.capturedAt := by
  unfold SessionDatabase.snapshotInForce
  rw [head?_insertionSort_eq_none, List.filter_eq_nil_iff]
  simp [SessionDatabase.snapshotsOf]

def TestSession.openAt (session : TestSession) (time : Instant) : Bool :=
  startedBy session.startedAt time && endsAfter session.completedAt time &&
    endsAfter session.cancelledAt time

theorem mem_openSessions {tables : SessionTables F} :
    sessionId ∈ openSessions tables event ↔ ∃ session ∈ tables.sessions, session.id = sessionId ∧
        session.nodeId = event.nodeId.text ∧
        session.openAt event.capturedAt = true := by
  unfold openSessions TestSession.openAt
  simp only [List.mem_map, List.mem_insertionSort, List.mem_filter,
    Bool.and_eq_true, decide_eq_true_eq]
  constructor
  · rintro ⟨session, ⟨hmem, ⟨⟨hnode, hstarted⟩, hcompleted⟩, hcanc⟩, hid⟩
    exact ⟨session, hmem, hid, hnode, ⟨hstarted, hcompleted⟩, hcanc⟩
  · rintro ⟨session, hmem, hid, hnode, ⟨hstarted, hcompleted⟩, hcanc⟩
    exact ⟨session, ⟨hmem, ⟨⟨hnode, hstarted⟩, hcompleted⟩, hcanc⟩, hid⟩

theorem openSessions_nodup {tables : SessionTables F}
    (hkeys : (tables.sessions.map TestSession.id).Nodup)
    (event : TelemetryEvent F) : (openSessions tables event).Nodup := by
  unfold openSessions
  have hperm := (List.perm_insertionSort (fun left right : TestSession =>
    right.startedAt.getD 0 < left.startedAt.getD 0 ∨
      right.startedAt.getD 0 = left.startedAt.getD 0 ∧ right.id ≤ left.id)
    (tables.sessions.filter fun session =>
      session.nodeId = event.nodeId.text && startedBy session.startedAt event.capturedAt &&
        endsAfter session.completedAt event.capturedAt &&
        endsAfter session.cancelledAt event.capturedAt)).map TestSession.id
  exact hperm.nodup_iff.mpr (hkeys.sublist ((List.filter_sublist).map TestSession.id))

/-- What a session has for a series at a time: the binding and the snapshot. -/
def SessionDatabase.claimOf (database : SessionDatabase) (series : SeriesKey)
    (time : Instant) (sessionId : String) :
    Option (String × CodePoints × String) :=
  (database.snapshotInForce sessionId time).bind fun snapshot =>
    (snapshot.bindingOf series).map fun binding =>
      (sessionId, codePoints binding.id.text, snapshot.id.text)

theorem snapshotInForce_mem (hsnap : database.snapshotInForce sessionId time = some snapshot) :
    snapshot ∈ database.snapshots ∧ snapshot.sessionId = sessionId := by
  have hmem := (snapshotInForce_inForce hsnap).mem
  simpa [SessionDatabase.snapshotsOf] using hmem

theorem matchSession_tables (hdist : ∀ snapshot ∈ database.snapshots, snapshot.Distinct)
    (event : TelemetryEvent F) (found : List (String × CodePoints × String)) (sessionId : String) :
    matchSession database.tables event found sessionId =
      .ok (found ++ (database.claimOf event.series event.capturedAt sessionId).toList) := by
  unfold matchSession SessionDatabase.claimOf
  rw [snapshotAt_tables]
  cases hsnap : database.snapshotInForce sessionId event.capturedAt with
  | none => simp
  | some snapshot =>
    have hmem := (snapshotInForce_mem hsnap).1
    simp only [Option.map_some, ConfigSnapshotRecord.row, Option.bind_some]
    rw [snapshotBindingId_payload (hdist snapshot hmem)]
    cases snapshot.bindingOf event.series with
    | none =>
      rw [Option.map_none, Option.map_none, Option.toList_none, List.append_nil]
      rfl
    | some binding => rfl

theorem foldlM_matchSession (hdist : ∀ snapshot ∈ database.snapshots, snapshot.Distinct)
    (event : TelemetryEvent F) (sessionIds : List String)
    (found : List (String × CodePoints × String)) :
    sessionIds.foldlM (matchSession database.tables event) found =
      .ok (found ++ sessionIds.filterMap (database.claimOf event.series event.capturedAt)) := by
  induction sessionIds generalizing found with
  | nil =>
    rw [List.filterMap_nil, List.append_nil]
    rfl
  | cons sessionId rest ih =>
    rw [List.foldlM_cons, matchSession_tables hdist]
    change List.foldlM _ _ _ = _
    rw [ih, List.append_assoc]
    cases hclaim : database.claimOf event.series event.capturedAt sessionId with
    | none => simp [hclaim]
    | some claim => simp [hclaim]

/-- At a time the session is open on the node of the series, and its snapshot
in force binds the series. -/
def SessionDatabase.Holds (database : SessionDatabase) (sessionId : String)
    (series : SeriesKey) (time : Instant) : Prop :=
  ∃ session ∈ database.sessions, session.id = sessionId ∧
    session.nodeId = series.nodeId ∧ session.openAt time = true ∧
    ∃ snapshot, database.snapshotInForce sessionId time = some snapshot ∧
      ∃ binding, snapshot.bindingOf series = some binding

theorem claimOf_eq_some {series : SeriesKey}
    (hclaim : database.claimOf series time sessionId = some claim) :
    ∃ snapshot binding, database.snapshotInForce sessionId time = some snapshot ∧
      snapshot.bindingOf series = some binding ∧
      claim = (sessionId, codePoints binding.id.text, snapshot.id.text) := by
  unfold SessionDatabase.claimOf at hclaim
  rw [Option.bind_eq_some_iff] at hclaim
  obtain ⟨snapshot, hsnap, hbind⟩ := hclaim
  rw [Option.map_eq_some_iff] at hbind
  obtain ⟨binding, hbind, rfl⟩ := hbind
  exact ⟨snapshot, binding, hsnap, hbind, rfl⟩

theorem holds_of_claim (hopen : sessionId ∈ openSessions (database.tables : SessionTables F) event)
    (hclaim : database.claimOf event.series event.capturedAt sessionId = some claim) :
    database.Holds sessionId event.series event.capturedAt := by
  obtain ⟨session, hsess, hid, hnode, hopenAt⟩ := mem_openSessions.mp hopen
  obtain ⟨record, hrec, rfl⟩ := List.mem_map.mp hsess
  obtain ⟨snapshot, binding, hsnap, hbind, _⟩ := claimOf_eq_some hclaim
  exact ⟨record, hrec, hid, hnode, hopenAt, snapshot, hsnap, binding, hbind⟩

theorem length_le_one_of_nodup {α : Type} {items : List α} (hnodup : items.Nodup)
    (hequal : ∀ left ∈ items, ∀ right ∈ items, left = right) :
    items.length ≤ 1 := by
  cases items with
  | nil => simp
  | cons first rest =>
    cases rest with
    | nil => simp
    | cons second rest =>
      have hsame := hequal first (by simp) second (by simp)
      rw [List.nodup_cons] at hnodup
      exact absurd (by rw [hsame]; simp) hnodup.1

theorem claims_length_le_one (hkeys : (database.sessions.map fun record => record.id).Nodup)
    (hexcl : ∀ first second, database.Holds first event.series event.capturedAt →
      database.Holds second event.series event.capturedAt → first = second) :
    ((openSessions (database.tables : SessionTables F) event).filterMap
      (database.claimOf event.series event.capturedAt)).length ≤ 1 := by
  have hopen : (openSessions (database.tables : SessionTables F) event).Nodup := by
    apply openSessions_nodup
    simpa [SessionDatabase.tables, Function.comp_def] using hkeys
  apply length_le_one_of_nodup
  · refine hopen.filterMap ?_
    intro first second claim hfirst hsecond
    obtain ⟨_, _, _, _, hone⟩ := claimOf_eq_some hfirst
    obtain ⟨_, _, _, _, htwo⟩ := claimOf_eq_some hsecond
    rw [hone] at htwo
    exact congrArg Prod.fst htwo
  · intro left hleft right hright
    obtain ⟨first, hfirst, hclaim⟩ := List.mem_filterMap.mp hleft
    obtain ⟨second, hsecond, hother⟩ := List.mem_filterMap.mp hright
    have hsame := hexcl first second (holds_of_claim hfirst hclaim) (holds_of_claim hsecond hother)
    subst hsame
    rw [hclaim] at hother
    exact Option.some.inj hother

theorem resolveTelemetryContext_ok (hdist : ∀ snapshot ∈ database.snapshots, snapshot.Distinct)
    (hkeys : (database.sessions.map fun record => record.id).Nodup)
    (hexcl : ∀ first second, database.Holds first event.series event.capturedAt →
      database.Holds second event.series event.capturedAt → first = second)
    (hstages : ∀ sessionId, (openStages (database.tables : SessionTables F)
      sessionId event.capturedAt).length ≤ 1) :
    ∃ context, resolveTelemetryContext (database.tables : SessionTables F) event = .ok context := by
  have hclaims := claims_length_le_one hkeys hexcl
  unfold resolveTelemetryContext
  rw [foldlM_matchSession hdist, List.nil_append, ok_bind]
  cases hfound : (openSessions (database.tables : SessionTables F) event).filterMap
      (database.claimOf event.series event.capturedAt) with
  | nil => exact ⟨none, rfl⟩
  | cons claim rest =>
    rw [hfound] at hclaims
    cases rest with
    | cons second rest => simp at hclaims
    | nil =>
      obtain ⟨sessionId, bindingId, snapshotId⟩ := claim
      have hone := hstages sessionId
      simp only
      cases hstage : openStages (database.tables : SessionTables F) sessionId event.capturedAt with
      | nil => exact ⟨_, rfl⟩
      | cons stage rest =>
        rw [hstage] at hone
        cases rest with
        | nil => exact ⟨_, rfl⟩
        | cons second rest => simp at hone

theorem resolved_context {context : ResolvedTelemetryContext}
    (hdist : ∀ snapshot ∈ database.snapshots, snapshot.Distinct)
    (hresd : resolveTelemetryContext (database.tables : SessionTables F)
      event = .ok (some context)) :
    context.sessionId ∈
        openSessions (database.tables : SessionTables F) event ∧
      ∃ snapshot binding, database.snapshotInForce context.sessionId event.capturedAt =
          some snapshot ∧
        snapshot.bindingOf event.series = some binding ∧
        context.configSnapshotId = snapshot.id.text ∧
        context.bindingId = binding.id.text := by
  unfold resolveTelemetryContext at hresd
  rw [foldlM_matchSession hdist, List.nil_append, ok_bind] at hresd
  split at hresd
  next => cases hresd
  next sessionId bindingId snapshotId hfound =>
    have hclaim : (sessionId, bindingId, snapshotId) ∈
        (openSessions (database.tables : SessionTables F) event).filterMap
          (database.claimOf event.series event.capturedAt) := by
      rw [hfound]
      simp
    obtain ⟨found, hopen, hclaim⟩ := List.mem_filterMap.mp hclaim
    obtain ⟨snapshot, binding, hsnap, hbind, hparts⟩ :=
      claimOf_eq_some hclaim
    cases hparts
    have hcontext : context.sessionId = sessionId ∧ context.bindingId = binding.id.text ∧
        context.configSnapshotId = snapshot.id.text := by
      split at hresd
      next =>
        cases hresd
        exact ⟨rfl, textOf_codePoints _, rfl⟩
      next =>
        cases hresd
        exact ⟨rfl, textOf_codePoints _, rfl⟩
      next => cases hresd
    obtain ⟨hsess, hid, hver⟩ := hcontext
    rw [hsess]
    exact ⟨hopen, snapshot, binding, hsnap, hbind, hver, hid⟩
  next => cases hresd

end Resolution

end Nexolab
