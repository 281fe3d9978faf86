import Nexolab.MonitoringCache

/-!
# Values after an invalidation

`outdated` says by the history of a cache that a loader was started before an
invalidation of a key.  Most operations only take values and scopes away
(`Shrinks`), so that the invariant is about the values a bucket holds and the
requests a read of it can join.
-/

namespace Nexolab

namespace MonitoringCache

variable {V E : Type} [DecidableEq V] [DecidableEq E]

/-- The loader of a request was started before an invalidation of the key; the
latest event comes first. -/
def outdated (scope key : String) (request : ℕ) : List ReadModelEvent → Bool
  | [] => false
  | .started _ :: rest => outdated scope key request rest
  | .invalidated other keyPrefix :: rest =>
    (other = scope && keyCovered keyPrefix key &&
      decide (ReadModelEvent.started request ∈ rest)) ||
      outdated scope key request rest

theorem outdated_of_not_started {scope key : String} {request : ℕ} {history : List ReadModelEvent}
    (hstarted : ReadModelEvent.started request ∉ history) :
    outdated scope key request history = false := by
  induction history with
  | nil => rfl
  | cons event rest ih =>
    have hrest : ReadModelEvent.started request ∉ rest :=
      fun hmem => hstarted (List.mem_cons_of_mem _ hmem)
    cases event with
    | started other => exact ih hrest
    | invalidated other keyPrefix =>
      unfold outdated
      rw [ih hrest, decide_eq_false hrest]
      simp

/-! ## What the parts of the operations leave alone -/

section Parts

variable (cache before : MonitoringCache V E) (id set : ℕ) (key scope : String)

@[simp] theorem mark_buckets : (before.mark cache).buckets = cache.buckets := rfl
@[simp] theorem mark_scopes : (before.mark cache).scopes = cache.scopes := rfl
@[simp] theorem mark_nextBucket :
    (before.mark cache).nextBucket = cache.nextBucket := rfl

section

omit [DecidableEq V] [DecidableEq E]

theorem notify_eq : ∃ subscriptions, cache.notify id key = { cache with subscriptions } := by
  unfold notify
  cases (cache.buckets id).listeners.get? key with
  | none => exact ⟨_, rfl⟩
  | some set => exact ⟨_, rfl⟩

theorem callSets_eq (sets : List ℕ) : ∃ subscriptions,
    sets.foldl callSet cache = { cache with subscriptions } := by
  induction sets generalizing cache with
  | nil => exact ⟨_, rfl⟩
  | cons set rest ih =>
    obtain ⟨subscriptions, hrest⟩ := ih (cache.callSet set)
    exact ⟨subscriptions, hrest⟩

theorem notifyAll_eq : ∃ subscriptions, cache.notifyAll id = { cache with subscriptions } :=
  callSets_eq cache _

end

end Parts

/-- The operation only takes values and scopes away. -/
structure Shrinks (before after : MonitoringCache V E) : Prop where
  scopes : ∀ scope id, after.scopes.get? scope = some id → before.scopes.get? scope = some id
  values : ∀ id key entry, (after.buckets id).values.get? key = some entry →
    ∃ old, (before.buckets id).values.get? key = some old ∧ old.producer = entry.producer
  inflight : ∀ id, (after.buckets id).inflight = (before.buckets id).inflight
  requests : after.requests = before.requests
  history : after.history = before.history
  nextBucket : after.nextBucket = before.nextBucket
  nextRequest : after.nextRequest = before.nextRequest

namespace Shrinks

omit [DecidableEq V] [DecidableEq E]

theorem refl (cache : MonitoringCache V E) : Shrinks cache cache :=
  ⟨fun _ _ h => h, fun _ _ entry h => ⟨entry, h, rfl⟩, fun _ => rfl, rfl, rfl, rfl,
    rfl⟩

theorem trans {first second third : MonitoringCache V E}
    (hfirst : Shrinks first second) (hsecond : Shrinks second third) :
    Shrinks first third := by
  constructor
  case scopes =>
    intro scope id hget
    exact hfirst.scopes scope id (hsecond.scopes scope id hget)
  case values =>
    intro id key entry hget
    obtain ⟨middle, hmiddle, hsame⟩ := hsecond.values id key entry hget
    obtain ⟨old, hold, hproducer⟩ := hfirst.values id key middle hmiddle
    exact ⟨old, hold, hproducer.trans hsame⟩
  case inflight =>
    intro id
    exact (hsecond.inflight id).trans (hfirst.inflight id)
  case requests => exact hsecond.requests.trans hfirst.requests
  case history => exact hsecond.history.trans hfirst.history
  case nextBucket => exact hsecond.nextBucket.trans hfirst.nextBucket
  case nextRequest => exact hsecond.nextRequest.trans hfirst.nextRequest

theorem of_eq {before after : MonitoringCache V E} (hscopes : after.scopes = before.scopes)
    (hbuckets : after.buckets = before.buckets) (hreqs : after.requests = before.requests)
    (hhistory : after.history = before.history) (hnextBucket : after.nextBucket = before.nextBucket)
    (hnextRequest : after.nextRequest = before.nextRequest) :
    Shrinks before after := by
  refine ⟨?_, ?_, ?_, hreqs, hhistory, hnextBucket, hnextRequest⟩
  · intro scope id hget
    rw [← hscopes]
    exact hget
  · intro id key entry hget
    rw [hbuckets] at hget
    exact ⟨entry, hget, rfl⟩
  · intro id
    rw [hbuckets]

theorem foldl {α : Type} {f : MonitoringCache V E → α → MonitoringCache V E}
    (hf : ∀ cache item, Shrinks cache (f cache item)) (items : List α)
    (cache : MonitoringCache V E) : Shrinks cache (items.foldl f cache) := by
  induction items generalizing cache with
  | nil => exact .refl cache
  | cons item rest ih => exact (hf cache item).trans (ih (f cache item))

theorem setBucket {cache : MonitoringCache V E} {id : ℕ} {bucket : ReadModelBucket V E}
    (hvalues : ∀ key entry, bucket.values.get? key = some entry →
      ∃ old, (cache.buckets id).values.get? key = some old ∧
        old.producer = entry.producer)
    (hinflight : bucket.inflight = (cache.buckets id).inflight) :
    Shrinks cache (cache.setBucket id bucket) := by
  refine ⟨fun _ _ h => h, ?_, ?_, rfl, rfl, rfl, rfl⟩
  · intro other key entry hget
    simp only [MonitoringCache.setBucket, Function.update_apply] at hget
    split_ifs at hget with hother
    · subst hother
      exact hvalues key entry hget
    · exact ⟨entry, hget, rfl⟩
  · intro other
    simp only [MonitoringCache.setBucket, Function.update_apply]
    split_ifs with hother
    · rw [hinflight, hother]
    · rfl

theorem notify (cache : MonitoringCache V E) (id : ℕ) (key : String) :
    Shrinks cache (cache.notify id key) := by
  obtain ⟨subscriptions, hnotify⟩ := notify_eq cache id key
  rw [hnotify]
  exact .of_eq rfl rfl rfl rfl rfl rfl

theorem notifyAll (cache : MonitoringCache V E) (id : ℕ) :
    Shrinks cache (cache.notifyAll id) := by
  obtain ⟨subscriptions, hnotify⟩ := notifyAll_eq cache id
  rw [hnotify]
  exact .of_eq rfl rfl rfl rfl rfl rfl

end Shrinks

theorem Shrinks.mark {cache after : MonitoringCache V E}
    (hshrinks : Shrinks cache after) (before : MonitoringCache V E) :
    Shrinks cache (before.mark after) :=
  hshrinks.trans (.of_eq rfl rfl rfl rfl rfl rfl)

theorem dropScope_shrinks (cache : MonitoringCache V E) (scope : String) :
    Shrinks cache (cache.dropScope scope) := by
  unfold dropScope
  split
  next => exact .refl cache
  next id _ =>
    have herased : Shrinks (cache.notifyAll id) { cache.notifyAll id with
        scopes := (cache.notifyAll id).scopes.erase scope } := by
      refine ⟨?_, fun _ _ entry h => ⟨entry, h, rfl⟩, fun _ => rfl, rfl, rfl, rfl,
        rfl⟩
      intro other found hget
      dsimp only at hget
      rw [Dictionary.get?_erase] at hget
      split_ifs at hget
      exact hget
    exact (Shrinks.notifyAll cache id).trans (herased.mark _)

theorem trimScopes_shrinks (cache : MonitoringCache V E) :
    Shrinks cache cache.trimScopes :=
  .foldl dropScope_shrinks _ cache

theorem deleteEntry_shrinks (cache : MonitoringCache V E) (id : ℕ)
    (key : String) : Shrinks cache (cache.deleteEntry id key) := by
  apply Shrinks.mark
  apply Shrinks.setBucket
  · intro other entry hget
    dsimp only at hget
    rw [Dictionary.get?_erase] at hget
    split_ifs at hget
    exact ⟨entry, hget, rfl⟩
  · rfl

theorem dropEntry_shrinks (id : ℕ) (cache : MonitoringCache V E)
    (key : String) : Shrinks cache (dropEntry id cache key) :=
  (deleteEntry_shrinks cache id key).trans (.notify _ id key)

theorem trimEntries_shrinks (cache : MonitoringCache V E) (id : ℕ)
    (maxEntries : ℤ) : Shrinks cache (cache.trimEntries id maxEntries) := by
  unfold trimEntries
  split_ifs
  · exact .refl cache
  · exact .foldl (dropEntry_shrinks id) _ cache

theorem clearAll_shrinks (cache : MonitoringCache V E) :
    Shrinks cache cache.clearAll := by
  have hcalled := Shrinks.foldl Shrinks.notifyAll cache.scopes.values cache
  apply Shrinks.mark
  apply hcalled.trans
  refine ⟨?_, fun _ _ entry h => ⟨entry, h, rfl⟩, fun _ => rfl, rfl, rfl, rfl,
    rfl⟩
  intro scope id hget
  cases hget

theorem peek_shrinks (cache : MonitoringCache V E) (scope key : String)
    (options : MonitoringReadModelCacheOptions) (now : ℤ) :
    Shrinks cache (cache.peek scope key options now).1 := by
  unfold peek
  split
  next => exact .refl cache
  next id _ =>
    dsimp only
    split
    next => exact .refl cache
    next stored hstored =>
      by_cases hexpired : options.staleTtl < max 0 (now - stored.storedAt)
      · rw [if_pos hexpired]
        exact deleteEntry_shrinks cache id key
      · rw [if_neg hexpired]
        apply Shrinks.setBucket
        · intro other entry hget
          dsimp only at hget
          rw [Dictionary.get?_set] at hget
          split_ifs at hget with hsame
          · subst hsame
            cases hget
            exact ⟨stored, hstored, rfl⟩
          · exact ⟨entry, hget, rfl⟩
        · rfl

/-- The values a scope holds and the requests a read of it joins are not
outdated. -/
structure CurrentInvariant (cache : MonitoringCache V E) : Prop where
  scope_bound : ∀ scope id, cache.scopes.get? scope = some id → id < cache.nextBucket
  scope_unique : ∀ first second id, cache.scopes.get? first = some id →
    cache.scopes.get? second = some id → first = second
  request_bucket : ∀ id request, cache.requests id = some request →
    request.bucket < cache.nextBucket
  requests_fresh : ∀ id, cache.nextRequest ≤ id → cache.requests id = none
  started_request : ∀ id, ReadModelEvent.started id ∈ cache.history →
    ∃ request, cache.requests id = some request ∧ request.phase ≠ .scheduled
  unfinished_inflight : ∀ id request, cache.requests id = some request → request.phase ≠ .finished →
    (cache.buckets request.bucket).inflight.get? request.key = some id
  stored_current : ∀ scope id key entry, cache.scopes.get? scope = some id →
    (cache.buckets id).values.get? key = some entry →
    outdated scope key entry.producer cache.history = false
  inflight_current : ∀ scope id key request, cache.scopes.get? scope = some id →
    (cache.buckets id).inflight.get? key = some request →
    outdated scope key request cache.history = false

section

omit [DecidableEq V] [DecidableEq E]

theorem initial_current : CurrentInvariant (initial : MonitoringCache V E) := by
  constructor <;> simp [initial, Dictionary.get?_nil]

theorem CurrentInvariant.shrinks {before after : MonitoringCache V E}
    (hcur : CurrentInvariant before) (hshrinks : Shrinks before after) :
    CurrentInvariant after := by
  constructor
  case scope_bound =>
    intro scope id hget
    rw [hshrinks.nextBucket]
    exact hcur.scope_bound scope id (hshrinks.scopes scope id hget)
  case scope_unique =>
    intro first second id hfirst hsecond
    exact hcur.scope_unique first second id (hshrinks.scopes first id hfirst)
      (hshrinks.scopes second id hsecond)
  case request_bucket =>
    rw [hshrinks.requests, hshrinks.nextBucket]
    exact hcur.request_bucket
  case requests_fresh =>
    rw [hshrinks.requests, hshrinks.nextRequest]
    exact hcur.requests_fresh
  case started_request =>
    rw [hshrinks.requests, hshrinks.history]
    exact hcur.started_request
  case unfinished_inflight =>
    intro id request hreq hphase
    rw [hshrinks.requests] at hreq
    rw [hshrinks.inflight]
    exact hcur.unfinished_inflight id request hreq hphase
  case stored_current =>
    intro scope id key entry hscope hent
    obtain ⟨old, hold, hproducer⟩ := hshrinks.values id key entry hent
    rw [← hproducer, hshrinks.history]
    exact hcur.stored_current scope id key old (hshrinks.scopes scope id hscope) hold
  case inflight_current =>
    intro scope id key request hscope hreq
    rw [hshrinks.inflight] at hreq
    rw [hshrinks.history]
    exact hcur.inflight_current scope id key request (hshrinks.scopes scope id hscope) hreq

theorem CurrentInvariant.newBucket {cache : MonitoringCache V E}
    (hcur : CurrentInvariant cache) {scope : String} (hmissing : cache.scopes.get? scope = none) :
    CurrentInvariant { cache.setBucket cache.nextBucket emptyBucket with
      scopes := cache.scopes.set scope cache.nextBucket
      nextBucket := cache.nextBucket + 1 } := by
  have hscopes : ∀ other id, (cache.scopes.set scope cache.nextBucket).get? other = some id →
      other = scope ∧ id = cache.nextBucket ∨
        cache.scopes.get? other = some id ∧ id < cache.nextBucket := by
    intro other id hget
    rw [Dictionary.get?_set] at hget
    split_ifs at hget with hsame
    · rw [Option.some.injEq] at hget
      exact .inl ⟨hsame.symm, hget.symm⟩
    · exact .inr ⟨hget, hcur.scope_bound other id hget⟩
  have hbuckets : ∀ id, id < cache.nextBucket →
      Function.update cache.buckets cache.nextBucket emptyBucket id = cache.buckets id := by
    intro id hbound
    exact Function.update_of_ne hbound.ne ..
  constructor
  case scope_bound =>
    intro other id hget
    rcases hscopes other id hget with ⟨_, rfl⟩ | ⟨_, hbound⟩
    · exact Nat.lt_succ_self _
    · exact Nat.lt_succ_of_lt hbound
  case scope_unique =>
    intro first second id hfirst hsecond
    rcases hscopes first id hfirst with ⟨rfl, rfl⟩ | ⟨hfirst, hbound⟩
    · rcases hscopes second _ hsecond with ⟨rfl, _⟩ | ⟨_, hbound⟩
      · rfl
      · exact absurd hbound (lt_irrefl _)
    · rcases hscopes second id hsecond with ⟨_, rfl⟩ | ⟨hsecond, _⟩
      · exact absurd hbound (lt_irrefl _)
      · exact hcur.scope_unique first second id hfirst hsecond
  case request_bucket =>
    intro id request hreq
    exact Nat.lt_succ_of_lt (hcur.request_bucket id request hreq)
  case requests_fresh => exact hcur.requests_fresh
  case started_request => exact hcur.started_request
  case unfinished_inflight =>
    intro id request hreq hphase
    simp only [setBucket]
    rw [hbuckets _ (hcur.request_bucket id request hreq)]
    exact hcur.unfinished_inflight id request hreq hphase
  case stored_current =>
    intro other id key entry hget hent
    simp only [setBucket] at hent
    rcases hscopes other id hget with ⟨_, rfl⟩ | ⟨hold, hbound⟩
    · rw [Function.update_self] at hent
      cases hent
    · rw [hbuckets id hbound] at hent
      exact hcur.stored_current other id key entry hold hent
  case inflight_current =>
    intro other id key request hget hreq
    simp only [setBucket] at hreq
    rcases hscopes other id hget with ⟨_, rfl⟩ | ⟨hold, hbound⟩
    · rw [Function.update_self] at hreq
      cases hreq
    · rw [hbuckets id hbound] at hreq
      exact hcur.inflight_current other id key request hold hreq

end

theorem dropScope_get?_of_ne (cache : MonitoringCache V E) {scope other : String}
    (hother : other ≠ scope) :
    (cache.dropScope other).scopes.get? scope = cache.scopes.get? scope := by
  unfold dropScope
  split
  next => rfl
  next id _ =>
    obtain ⟨subscriptions, hcalled⟩ := notifyAll_eq cache id
    dsimp only
    rw [mark_scopes]
    dsimp only
    rw [Dictionary.get?_erase, if_neg hother, hcalled]

theorem dropScopes_get?_of_not_mem (names : List String)
    (cache : MonitoringCache V E) {scope : String} (hscope : scope ∉ names) :
    (names.foldl dropScope cache).scopes.get? scope = cache.scopes.get? scope := by
  induction names generalizing cache with
  | nil => rfl
  | cons name rest ih =>
    rw [List.mem_cons, not_or] at hscope
    rw [List.foldl_cons, ih _ hscope.2]
    exact dropScope_get?_of_ne cache (fun h => hscope.1 h.symm)

theorem trimScopes_get?_last {cache : MonitoringCache V E} {scope : String}
    {earlier : Dictionary String ℕ} {id : ℕ} (hscopes : cache.scopes = earlier.set scope id)
    (hmissing : earlier.get? scope = none) :
    cache.trimScopes.scopes.get? scope = some id := by
  have hnotMem := Dictionary.get?_eq_none_iff.mp hmissing
  have happ : cache.scopes = earlier ++ [(scope, id)] := by
    rw [hscopes, Dictionary.set_of_not_mem id hnotMem]
  have htake : scope ∉ cache.scopes.keys.take (cache.scopes.length - maxScopes) := by
    rw [happ]
    unfold Dictionary.keys at hnotMem ⊢
    rw [List.map_append, List.take_append_of_le_length (by simp [maxScopes])]
    exact fun hmem => hnotMem (List.mem_of_mem_take hmem)
  unfold trimScopes
  rw [dropScopes_get?_of_not_mem _ _ htake, hscopes, Dictionary.get?_set, if_pos rfl]

theorem openBucket_get? (cache : MonitoringCache V E) (scope : String) :
    (cache.openBucket scope).1.scopes.get? scope = some (cache.openBucket scope).2 := by
  unfold openBucket
  split
  next hmissing => exact trimScopes_get?_last rfl hmissing
  next id _ =>
    dsimp only
    rw [Dictionary.get?_set, if_pos rfl]

theorem CurrentInvariant.openBucket {cache : MonitoringCache V E}
    (hcur : CurrentInvariant cache) (scope : String) :
    CurrentInvariant (cache.openBucket scope).1 := by
  unfold MonitoringCache.openBucket
  split
  next hmissing =>
    have hcreated := hcur.newBucket hmissing
    exact hcreated.shrinks (((Shrinks.refl _).mark cache).trans (trimScopes_shrinks _))
  next id hid =>
    refine hcur.shrinks ⟨?_, fun _ _ entry h => ⟨entry, h, rfl⟩, fun _ => rfl,
      rfl, rfl, rfl, rfl⟩
    intro other found hfound
    dsimp only at hfound
    rw [Dictionary.get?_set] at hfound
    split_ifs at hfound with hsame
    · subst hsame
      cases hfound
      exact hid
    · rw [Dictionary.get?_erase, if_neg hsame] at hfound
      exact hfound

/-! ## Requests -/

theorem clearError_shrinks (cache : MonitoringCache V E) (id : ℕ)
    (key : String) : Shrinks cache (cache.clearError id key) := by
  refine Shrinks.trans ?_ (.notify _ id key)
  apply Shrinks.mark
  apply Shrinks.setBucket
  · intro other entry hget
    exact ⟨entry, hget, rfl⟩
  · rfl

omit [DecidableEq V] [DecidableEq E] in
theorem CurrentInvariant.not_outdated {cache : MonitoringCache V E}
    (hcur : CurrentInvariant cache) {request : ℕ}
    (hreq : ∀ found, cache.requests request = some found →
      found.phase = .scheduled) (scope key : String) :
    outdated scope key request cache.history = false := by
  apply outdated_of_not_started
  intro hstarted
  obtain ⟨found, hfound, hphase⟩ := hcur.started_request request hstarted
  exact hphase (hreq found hfound)

omit [DecidableEq V] [DecidableEq E] in
theorem CurrentInvariant.registered {cache : MonitoringCache V E}
    (hcur : CurrentInvariant cache) {id : ℕ} {key : String} (hbound : id < cache.nextBucket)
    (hnone : (cache.buckets id).inflight.get? key = none)
    (options : MonitoringReadModelCacheOptions) :
    CurrentInvariant (cache.registered id key options) := by
  have hfresh := hcur.requests_fresh cache.nextRequest le_rfl
  have hreqs : ∀ other found, (cache.registered id key options).requests other = some found →
      other = cache.nextRequest ∧ found = ⟨id, key, options, .scheduled⟩ ∨
        cache.requests other = some found := by
    intro other found hfound
    exact (update_eq_some hfound).imp_right And.right
  have hinflight : ∀ other otherKey,
      ((cache.registered id key options).buckets other).inflight.get? otherKey =
        if other = id ∧ key = otherKey then some cache.nextRequest
        else (cache.buckets other).inflight.get? otherKey := by
    intro other otherKey
    simp only [MonitoringCache.registered, setRequest, setBucket, Function.update_apply]
    by_cases hother : other = id
    · simp [hother, Dictionary.get?_set]
    · simp [hother]
  constructor
  case scope_bound => exact hcur.scope_bound
  case scope_unique => exact hcur.scope_unique
  case request_bucket =>
    intro other found hfound
    rcases hreqs other found hfound with ⟨_, rfl⟩ | hold
    · exact hbound
    · exact hcur.request_bucket other found hold
  case requests_fresh =>
    intro other hother
    have hle : cache.nextRequest + 1 ≤ other := hother
    simp only [MonitoringCache.registered, setRequest]
    rw [Function.update_of_ne (by omega)]
    exact hcur.requests_fresh other (by omega)
  case started_request =>
    intro other hstarted
    obtain ⟨found, hfound, hphase⟩ := hcur.started_request other hstarted
    refine ⟨found, ?_, hphase⟩
    simp only [MonitoringCache.registered, setRequest]
    rw [Function.update_of_ne]
    · exact hfound
    · rintro rfl
      rw [hfresh] at hfound
      cases hfound
  case unfinished_inflight =>
    intro other found hfound hphase
    rw [hinflight]
    rcases hreqs other found hfound with ⟨rfl, rfl⟩ | hold
    · rw [if_pos ⟨rfl, rfl⟩]
    · have hget := hcur.unfinished_inflight other found hold hphase
      rw [if_neg]
      · exact hget
      · intro hsame
        rw [hsame.1, ← hsame.2, hnone] at hget
        cases hget
  case stored_current =>
    intro scope other otherKey entry hscope hent
    apply hcur.stored_current scope other otherKey entry hscope
    simp only [MonitoringCache.registered, setRequest, setBucket, Function.update_apply] at hent
    split_ifs at hent with hother
    · rwa [hother]
    · exact hent
  case inflight_current =>
    intro scope other otherKey request hscope hreq
    rw [hinflight] at hreq
    split_ifs at hreq
    · cases hreq
      apply hcur.not_outdated
      intro found hfound
      rw [hfresh] at hfound
      cases hfound
    · exact hcur.inflight_current scope other otherKey request hscope hreq

theorem CurrentInvariant.revalidate {cache : MonitoringCache V E}
    (hcur : CurrentInvariant cache) {id : ℕ} (key : String)
    (hbound : id < cache.nextBucket) (options : MonitoringReadModelCacheOptions) :
    CurrentInvariant (cache.revalidate id key options).1 := by
  unfold MonitoringCache.revalidate
  split
  next => exact hcur
  next hnone =>
    have hshrinks := clearError_shrinks cache id key
    have hcleared := hcur.shrinks hshrinks
    have hreg : CurrentInvariant ((cache.clearError id key).registered id key options) := by
      apply hcleared.registered
      · rw [hshrinks.nextBucket]
        exact hbound
      · rw [hshrinks.inflight]
        exact hnone
    exact hreg.shrinks (.notify _ id key)

variable {request : LoaderRequest V E}

omit [DecidableEq V] [DecidableEq E] in
theorem CurrentInvariant.advance {cache : MonitoringCache V E}
    (hcur : CurrentInvariant cache) {id : ℕ}
    (hreq : cache.requests id = some request) {phase : LoaderPhase V E}
    (hunfin : request.phase ≠ .finished) (hphase : phase ≠ .scheduled) :
    CurrentInvariant (cache.setRequest id { request with phase }) := by
  have hreqs : ∀ other found,
      (cache.setRequest id { request with phase }).requests other = some found →
      other = id ∧ found = { request with phase } ∨ cache.requests other = some found := by
    intro other found hfound
    exact (update_eq_some hfound).imp_right And.right
  refine { hcur with
    request_bucket := ?request_bucket, requests_fresh := ?requests_fresh,
    started_request := ?started_request, unfinished_inflight := ?unfinished_inflight }
  case request_bucket =>
    intro other found hfound
    rcases hreqs other found hfound with ⟨_, rfl⟩ | hold
    · exact hcur.request_bucket id request hreq
    · exact hcur.request_bucket other found hold
  case requests_fresh =>
    intro other hother
    have hfresh := hcur.requests_fresh other hother
    simp only [setRequest]
    rw [Function.update_of_ne]
    · exact hfresh
    · rintro rfl
      rw [hfresh] at hreq
      cases hreq
  case started_request =>
    intro other hstarted
    simp only [setRequest, Function.update_apply]
    split_ifs
    · exact ⟨_, rfl, hphase⟩
    · exact hcur.started_request other hstarted
  case unfinished_inflight =>
    intro other found hfound hnotFinished
    rcases hreqs other found hfound with ⟨rfl, rfl⟩ | hold
    · exact hcur.unfinished_inflight other request hreq hunfin
    · exact hcur.unfinished_inflight other found hold hnotFinished

omit [DecidableEq V] [DecidableEq E] in
theorem CurrentInvariant.setBucket {cache : MonitoringCache V E}
    (hcur : CurrentInvariant cache) {id : ℕ} {bucket : ReadModelBucket V E}
    (hvalues : ∀ key entry, bucket.values.get? key = some entry →
      (cache.buckets id).values.get? key = some entry ∨ ∀ scope, cache.scopes.get? scope = some id →
          outdated scope key entry.producer cache.history = false)
    (hinflight : ∀ key request, bucket.inflight.get? key = some request →
      (cache.buckets id).inflight.get? key = some request)
    (hkept : ∀ other found, cache.requests other = some found →
      found.phase ≠ .finished → found.bucket = id →
      bucket.inflight.get? found.key = some other) :
    CurrentInvariant (cache.setBucket id bucket) := by
  refine { hcur with
    unfinished_inflight := ?unfinished_inflight, stored_current := ?stored_current,
    inflight_current := ?inflight_current }
  case unfinished_inflight =>
    intro other found hfound hphase
    simp only [MonitoringCache.setBucket, Function.update_apply]
    split_ifs with hbucket
    · exact hkept other found hfound hphase hbucket
    · exact hcur.unfinished_inflight other found hfound hphase
  case stored_current =>
    intro scope other key entry hscope hent
    simp only [MonitoringCache.setBucket, Function.update_apply] at hent
    split_ifs at hent with hother
    · subst hother
      rcases hvalues key entry hent with hold | hnew
      · exact hcur.stored_current scope _ key entry hscope hold
      · exact hnew scope hscope
    · exact hcur.stored_current scope other key entry hscope hent
  case inflight_current =>
    intro scope other key found hscope hfound
    simp only [MonitoringCache.setBucket, Function.update_apply] at hfound
    split_ifs at hfound with hother
    · subst hother
      exact hcur.inflight_current scope _ key found hscope (hinflight key found hfound)
    · exact hcur.inflight_current scope other key found hscope hfound

theorem CurrentInvariant.writeValue {cache : MonitoringCache V E}
    (hcur : CurrentInvariant cache) {id : ℕ} (hreq : cache.requests id = some request)
    (hunfin : request.phase ≠ .finished) (value : Option V) (now : ℤ) :
    CurrentInvariant (cache.writeValue id request value now) := by
  have hinflight := hcur.unfinished_inflight id request hreq hunfin
  have hstored : CurrentInvariant (cache.setBucket request.bucket
      { cache.buckets request.bucket with
        values := (cache.buckets request.bucket).values.set request.key
          ⟨value, now, now, id⟩
        errors := (cache.buckets request.bucket).errors.erase request.key }) := by
    apply hcur.setBucket
    · intro key entry hent
      dsimp only at hent
      rw [Dictionary.get?_set] at hent
      split_ifs at hent with hkey
      · subst hkey
        cases hent
        exact .inr fun scope hscope =>
          hcur.inflight_current scope _ _ id hscope hinflight
      · exact .inl hent
    · exact fun _ _ hfound => hfound
    · intro other found hfound hphase hbucket
      rw [← hbucket]
      exact hcur.unfinished_inflight other found hfound hphase
  have hshrinks := ((Shrinks.refl _).mark cache).trans
    (trimEntries_shrinks (cache.mark (cache.setBucket request.bucket
      { cache.buckets request.bucket with
        values := (cache.buckets request.bucket).values.set request.key
          ⟨value, now, now, id⟩
        errors := (cache.buckets request.bucket).errors.erase request.key }))
      request.bucket request.options.maxEntries)
  apply (hstored.shrinks hshrinks).advance
  · rw [hshrinks.requests]
    exact hreq
  · exact hunfin
  · simp

theorem CurrentInvariant.writeError {cache : MonitoringCache V E}
    (hcur : CurrentInvariant cache) {id : ℕ} (hreq : cache.requests id = some request)
    (hunfin : request.phase ≠ .finished) (error : E) :
    CurrentInvariant (cache.writeError id request error) := by
  have hshrinks : Shrinks cache (cache.mark (cache.setBucket request.bucket
      { cache.buckets request.bucket with
        errors := (cache.buckets request.bucket).errors.set request.key error })) := by
    apply Shrinks.mark
    apply Shrinks.setBucket
    · intro key entry hget
      exact ⟨entry, hget, rfl⟩
    · rfl
  apply (hcur.shrinks hshrinks).advance
  · rw [hshrinks.requests]
    exact hreq
  · exact hunfin
  · simp

omit [DecidableEq V] [DecidableEq E] in
theorem CurrentInvariant.finish {cache : MonitoringCache V E}
    (hcur : CurrentInvariant cache) {id : ℕ} (hreq : cache.requests id = some request)
    (hunfin : request.phase ≠ .finished) :
    CurrentInvariant (cache.finish id request) := by
  have hadvanced : CurrentInvariant (cache.setRequest id { request with phase := .finished }) :=
    hcur.advance hreq hunfin (by simp)
  have herased : CurrentInvariant
      ((cache.setRequest id { request with phase := .finished }).setBucket
        request.bucket { cache.buckets request.bucket with
          inflight :=
            (cache.buckets request.bucket).inflight.erase request.key }) := by
    apply hadvanced.setBucket
    · exact fun _ _ hent => .inl hent
    · intro key found hfound
      dsimp only at hfound
      rw [Dictionary.get?_erase] at hfound
      split_ifs at hfound
      exact hfound
    · intro other found hfound hphase hbucket
      dsimp only
      rw [Dictionary.get?_erase, if_neg, ← hbucket]
      · exact hadvanced.unfinished_inflight other found hfound hphase
      · intro hkey
        simp only [setRequest, Function.update_apply] at hfound
        split_ifs at hfound with hsame
        · cases hfound
          exact hphase rfl
        · have hget := hcur.unfinished_inflight other found hfound hphase
          rw [hbucket, ← hkey, hcur.unfinished_inflight id request hreq
            hunfin, Option.some.injEq] at hget
          exact hsame hget.symm
  obtain ⟨subscriptions, hnotify⟩ := notify_eq (cache.setBucket request.bucket
    { cache.buckets request.bucket with
      inflight := (cache.buckets request.bucket).inflight.erase request.key })
    request.bucket request.key
  unfold MonitoringCache.finish
  dsimp only
  rw [hnotify]
  exact herased.shrinks (.of_eq rfl rfl rfl rfl rfl rfl)

omit [DecidableEq V] [DecidableEq E] in
theorem CurrentInvariant.startLoader {cache : MonitoringCache V E}
    (hcur : CurrentInvariant cache) {id : ℕ} (hreq : cache.requests id = some request)
    (hscheduled : request.phase = .scheduled) :
    CurrentInvariant
      { cache.setRequest id { request with phase := .running } with
        history := .started id :: cache.history } := by
  have hadvanced : CurrentInvariant (cache.setRequest id { request with phase := .running }) :=
    hcur.advance hreq (by simp [hscheduled]) (by simp)
  refine { hadvanced with started_request := ?started_request }
  case started_request =>
    intro other hstarted
    rcases List.mem_cons.mp hstarted with hother | hold
    · cases hother
      exact ⟨_, Function.update_self .., by simp⟩
    · exact hadvanced.started_request other hold

theorem dropEntry_values (id : ℕ) (cache : MonitoringCache V E) (key other : String) :
    ((dropEntry id cache key).buckets id).values.get? other =
      if key = other then none else (cache.buckets id).values.get? other := by
  obtain ⟨subscriptions, hnotify⟩ := notify_eq (cache.deleteEntry id key) id key
  unfold dropEntry
  rw [hnotify]
  simp only [deleteEntry, mark_buckets, setBucket]
  rw [Function.update_self]
  exact Dictionary.get?_erase ..

theorem dropEntries_values (id : ℕ) (keys : List String)
    (cache : MonitoringCache V E) (other : String) :
    ((keys.foldl (dropEntry id) cache).buckets id).values.get? other =
      if other ∈ keys then none else (cache.buckets id).values.get? other := by
  induction keys generalizing cache with
  | nil => simp
  | cons key rest ih =>
    rw [List.foldl_cons, ih, dropEntry_values]
    by_cases hrest : other ∈ rest
    · simp [hrest]
    · by_cases hkey : key = other
      · simp [hkey]
      · have hkey' : ¬ other = key := fun h => hkey h.symm
        simp [hrest, hkey, hkey']

/-- The requests of a bucket whose key an invalidation covers are still
scheduled. -/
def InvalidatesScheduled (cache : MonitoringCache V E) (id : ℕ)
    (keyPrefix : Option String) : Prop :=
  ∀ entry ∈ (cache.buckets id).inflight, keyCovered keyPrefix entry.1 = true →
    (cache.requests entry.2).all (fun request => request.phase = .scheduled) = true

variable {keyPrefix : Option String} {actions : List (ReadModelAction V E)}

omit [DecidableEq V] [DecidableEq E] in
theorem outdated_invalidated {scope other key : String}
    {request : ℕ} {history : List ReadModelEvent}
    (hold : outdated other key request history = false)
    (hcovered : scope = other → keyCovered keyPrefix key = true →
      ReadModelEvent.started request ∉ history) :
    outdated other key request (.invalidated scope keyPrefix :: history) = false := by
  unfold outdated
  rw [hold, Bool.or_false, Bool.and_eq_false_iff, Bool.and_eq_false_iff]
  by_cases hscope : scope = other
  · cases hkey : keyCovered keyPrefix key with
    | false => exact .inl (.inr rfl)
    | true => exact .inr (decide_eq_false (hcovered hscope hkey))
  · exact .inl (.inl (decide_eq_false hscope))

theorem CurrentInvariant.noted {cache : MonitoringCache V E}
    (hcur : CurrentInvariant cache) {scope : String}
    (hvalues : ∀ id, cache.scopes.get? scope = some id → ∀ key entry,
      keyCovered keyPrefix key = true → (cache.buckets id).values.get? key ≠ some entry)
    (hscheduled : ∀ id, cache.scopes.get? scope = some id →
      InvalidatesScheduled cache id keyPrefix) :
    CurrentInvariant
      { cache with history := .invalidated scope keyPrefix :: cache.history } := by
  refine { hcur with
    started_request := ?started_request, stored_current := ?stored_current,
    inflight_current := ?inflight_current }
  case started_request =>
    intro other hstarted
    rcases List.mem_cons.mp hstarted with hevent | hold
    · cases hevent
    · exact hcur.started_request other hold
  case stored_current =>
    intro other id key entry hget hent
    apply outdated_invalidated (hcur.stored_current other id key entry hget hent)
    intro hscope hkey
    exact absurd hent (hvalues id (hscope ▸ hget) key entry hkey)
  case inflight_current =>
    intro other id key request hget hreq
    apply outdated_invalidated (hcur.inflight_current other id key request hget hreq)
    intro hscope hkey hstarted
    obtain ⟨loader, hloader, hphase⟩ := hcur.started_request request hstarted
    have hall := hscheduled id (hscope ▸ hget) (key, request) (Dictionary.mem_of_get? hreq) hkey
    rw [hloader] at hall
    exact hphase (by simpa using hall)

theorem dropEntries_history (id : ℕ) (keys : List String) (history : List ReadModelEvent)
    (cache : MonitoringCache V E) :
    keys.foldl (dropEntry id) { cache with history } =
      { keys.foldl (dropEntry id) cache with history } := by
  induction keys generalizing cache with
  | nil => rfl
  | cons key rest ih =>
    have hdrop : dropEntry id { cache with history } key =
        { dropEntry id cache key with history } := by
      unfold dropEntry notify
      cases hset : ((cache.deleteEntry id key).buckets id).listeners.get? key with
      | none =>
        have hsame : (({ cache with history } :
            MonitoringCache V E).deleteEntry id key |>.buckets id).listeners.get? key = none := hset
        rw [hsame]
        rfl
      | some set =>
        have hsame : (({ cache with history } :
            MonitoringCache V E).deleteEntry id key |>.buckets
              id).listeners.get? key = some set := hset
        rw [hsame]
        rfl
    rw [List.foldl_cons, List.foldl_cons, hdrop, ih]

theorem CurrentInvariant.invalidate {cache : MonitoringCache V E}
    (hcur : CurrentInvariant cache) {scope : String}
    (hscheduled : ∀ id, cache.scopes.get? scope = some id →
      InvalidatesScheduled cache id keyPrefix) :
    CurrentInvariant (cache.invalidate scope keyPrefix) := by
  unfold MonitoringCache.invalidate
  dsimp only
  split
  next hmissing =>
    apply hcur.noted _ hscheduled
    intro id hid
    rw [hmissing] at hid
    cases hid
  next id hid =>
    let keys := (knownKeys (cache.buckets id)).filter (keyCovered keyPrefix)
    have hshrinks := Shrinks.foldl (dropEntry_shrinks id) keys cache
    rw [dropEntries_history, ← hshrinks.history]
    apply (hcur.shrinks hshrinks).noted
    · intro other hother key entry hkey hent
      have hsame := hshrinks.scopes scope other hother
      rw [hid] at hsame
      cases hsame
      rw [dropEntries_values] at hent
      split_ifs at hent with hdropped
      refine hdropped (List.mem_filter.mpr ⟨?_, hkey⟩)
      unfold knownKeys
      rw [List.mem_eraseDups, List.mem_append, List.mem_append]
      refine .inl (.inl ?_)
      by_contra hkeys
      rw [← Dictionary.get?_eq_none_iff] at hkeys
      rw [hkeys] at hent
      cases hent
    · intro other hother
      have hbefore := hscheduled other (hshrinks.scopes scope other hother)
      unfold InvalidatesScheduled at hbefore ⊢
      rw [hshrinks.inflight, hshrinks.requests]
      exact hbefore

/-! ## Runs -/

/-- An invalidation finds no covered key whose loader was called and whose
request is not finished. -/
def InvalidatesIdle (cache : MonitoringCache V E) : ReadModelAction V E → Prop
  | .invalidate scope keyPrefix =>
    ∀ id ∈ (normalizeName scope).bind cache.scopes.get?,
      InvalidatesScheduled cache id (keyPrefix.bind normalizeName)
  | _ => True

instance InvalidatesIdle.decidable (cache : MonitoringCache V E)
    (action : ReadModelAction V E) : Decidable (InvalidatesIdle cache action) :=
  match action with
  | .invalidate scope _ =>
    inferInstanceAs (Decidable (∀ id ∈ (normalizeName scope).bind cache.scopes.get?,
      ∀ entry ∈ (cache.buckets id).inflight, _ → _))
  | .peek .. | .read .. | .refresh .. | .subscribe .. | .unsubscribe _ | .clearScope _
  | .clearAll | .startLoader _ | .settleLoader .. | .write .. | .finish _ => .isTrue trivial

theorem CurrentInvariant.peek {cache : MonitoringCache V E}
    (hcur : CurrentInvariant cache) (scope key : String)
    (options : MonitoringReadModelCacheOptions) (now : ℤ) :
    CurrentInvariant (cache.peek scope key options now).1 :=
  hcur.shrinks (peek_shrinks cache scope key options now)

theorem CurrentInvariant.refresh {cache : MonitoringCache V E}
    (hcur : CurrentInvariant cache) (scope key : String)
    (options : MonitoringReadModelCacheOptions) :
    CurrentInvariant (cache.refresh scope key options).1 := by
  have hopened := hcur.openBucket scope
  exact hopened.revalidate key (hopened.scope_bound scope _ (openBucket_get? cache scope)) options

theorem CurrentInvariant.read {cache : MonitoringCache V E}
    (hcur : CurrentInvariant cache) (scope key : String)
    (options : MonitoringReadModelCacheOptions) (now : ℤ) :
    CurrentInvariant (cache.read scope key options now).1 := by
  have hpeeked := hcur.peek scope key options now
  unfold MonitoringCache.read
  dsimp only
  split
  next => exact hpeeked
  next => exact hpeeked.refresh scope key options
  next => exact hpeeked.refresh scope key options

omit [DecidableEq V] [DecidableEq E] in
theorem openSet_shrinks (cache : MonitoringCache V E) (id : ℕ) (key : String) :
    Shrinks cache (cache.openSet id key).1 := by
  unfold openSet
  dsimp only
  split
  next => exact .refl cache
  next =>
    have hset : Shrinks cache (cache.setBucket id { cache.buckets id with
        listeners := (cache.buckets id).listeners.set key cache.nextSet }) := by
      apply Shrinks.setBucket
      · intro other entry hget
        exact ⟨entry, hget, rfl⟩
      · rfl
    exact hset.trans (.of_eq rfl rfl rfl rfl rfl rfl)

theorem CurrentInvariant.subscribe {cache : MonitoringCache V E}
    (hcur : CurrentInvariant cache) (scope key : String) (listener : ℕ) :
    CurrentInvariant (cache.subscribe scope key listener) := by
  have hopened := hcur.openBucket scope
  have hset := openSet_shrinks (cache.openBucket scope).1 (cache.openBucket scope).2 key
  exact hopened.shrinks (hset.trans (.of_eq rfl rfl rfl rfl rfl rfl))

omit [DecidableEq V] [DecidableEq E] in
theorem unsubscribe_shrinks {cache next : MonitoringCache V E} {index : ℕ}
    (hunsubscribe : cache.unsubscribe index = some next) : Shrinks cache next := by
  simp only [unsubscribe, Option.bind_eq_bind, Option.bind_eq_some_iff] at hunsubscribe
  obtain ⟨subscription, _, hnext⟩ := hunsubscribe
  split_ifs at hnext
  · cases hnext
    have hset : Shrinks cache (cache.setBucket subscription.bucket
        { cache.buckets subscription.bucket with
          listeners := (cache.buckets subscription.bucket).listeners.erase subscription.key }) := by
      apply Shrinks.setBucket
      · intro key entry hget
        exact ⟨entry, hget, rfl⟩
      · rfl
    exact hset.trans (.of_eq rfl rfl rfl rfl rfl rfl)
  · cases hnext
    exact .of_eq rfl rfl rfl rfl rfl rfl

theorem CurrentInvariant.step {cache next : MonitoringCache V E}
    {action : ReadModelAction V E} (hcur : CurrentInvariant cache)
    (hidle : InvalidatesIdle cache action)
    (hstep : cache.step action = some next) : CurrentInvariant next := by
  cases action with
  | peek scope key options now =>
    simp only [MonitoringCache.step, Option.bind_eq_bind, Option.bind_eq_some_iff,
      Option.pure_def, Option.some.injEq] at hstep
    obtain ⟨scope, _, key, _, rfl⟩ := hstep
    exact hcur.peek scope key options now
  | read scope key options now =>
    simp only [MonitoringCache.step, Option.bind_eq_bind, Option.bind_eq_some_iff,
      Option.pure_def, Option.some.injEq] at hstep
    obtain ⟨scope, _, key, _, rfl⟩ := hstep
    exact hcur.read scope key options now
  | refresh scope key options =>
    obtain ⟨scope, _, hstep⟩ := Option.bind_eq_some_iff.mp hstep
    split at hstep
    next =>
      cases hstep
      exact hcur.openBucket scope
    next key _ =>
      cases hstep
      exact hcur.refresh scope key options
  | subscribe scope key listener =>
    obtain ⟨scope, _, hstep⟩ := Option.bind_eq_some_iff.mp hstep
    split at hstep
    next =>
      cases hstep
      exact hcur.openBucket scope
    next key _ =>
      cases hstep
      exact hcur.subscribe scope key listener
  | unsubscribe index => exact hcur.shrinks (unsubscribe_shrinks hstep)
  | invalidate scope keyPrefix =>
    obtain ⟨normalized, hnormalized, hstep⟩ := Option.bind_eq_some_iff.mp hstep
    cases hstep
    apply hcur.invalidate
    intro id hid
    apply hidle id
    rw [hnormalized]
    exact hid
  | clearScope scope =>
    obtain ⟨scope, _, hstep⟩ := Option.bind_eq_some_iff.mp hstep
    cases hstep
    exact hcur.shrinks (dropScope_shrinks cache scope)
  | clearAll =>
    cases hstep
    exact hcur.shrinks (clearAll_shrinks cache)
  | startLoader id =>
    obtain ⟨request, hreq, hstep⟩ := Option.bind_eq_some_iff.mp hstep
    split at hstep
    next hphase =>
      cases hstep
      exact hcur.startLoader hreq hphase
    next => cases hstep
  | settleLoader id outcome =>
    simp only [MonitoringCache.step, Option.bind_eq_bind, Option.bind_eq_some_iff] at hstep
    obtain ⟨request, hreq, hstep⟩ := hstep
    split at hstep
    next hphase =>
      cases hstep
      exact hcur.advance hreq (by simp [hphase]) (by simp)
    next hphase =>
      cases hstep
      exact hcur.advance hreq (by simp [hphase]) (by simp)
    next => cases hstep
  | write id now =>
    obtain ⟨request, hreq, hstep⟩ := Option.bind_eq_some_iff.mp hstep
    split at hstep
    next value hphase =>
      cases hstep
      exact hcur.writeValue hreq (by simp [hphase]) value now
    next error hphase =>
      cases hstep
      exact hcur.writeError hreq (by simp [hphase]) error
    next => cases hstep
  | finish id =>
    obtain ⟨request, hreq, hstep⟩ := Option.bind_eq_some_iff.mp hstep
    split at hstep
    next hphase =>
      cases hstep
      exact hcur.finish hreq (by simp [hphase])
    next => cases hstep

/-- No later read or peek returns a value whose loader was started before an
invalidation of its key. -/
def ReturnsCurrent (cache : MonitoringCache V E) : Prop :=
  ∀ scope key options now,
    (∀ producer, (cache.peek scope key options now).2.producer = some producer →
      outdated scope key producer cache.history = false) ∧
    outdated scope key (cache.read scope key options now).2.source cache.history = false

theorem openBucket_history (cache : MonitoringCache V E) (scope : String) :
    (cache.openBucket scope).1.history = cache.history := by
  unfold openBucket
  split
  next => exact (trimScopes_shrinks _).history
  next => rfl

theorem CurrentInvariant.refresh_source {cache : MonitoringCache V E}
    (hcur : CurrentInvariant cache) (scope key : String)
    (options : MonitoringReadModelCacheOptions) :
    outdated scope key (cache.refresh scope key options).2 cache.history = false := by
  have hopened := hcur.openBucket scope
  have hhistory := openBucket_history cache scope
  unfold MonitoringCache.refresh MonitoringCache.revalidate
  dsimp only
  rw [← hhistory]
  split
  next request hreq =>
    exact hopened.inflight_current scope _ key request (openBucket_get? cache scope) hreq
  next =>
    have hshrinks := clearError_shrinks (cache.openBucket scope).1 (cache.openBucket scope).2 key
    rw [← hshrinks.history]
    apply (hopened.shrinks hshrinks).not_outdated
    intro found hfound
    rw [(hopened.shrinks hshrinks).requests_fresh _ le_rfl] at hfound
    cases hfound

theorem CurrentInvariant.peek_source {cache : MonitoringCache V E}
    (hcur : CurrentInvariant cache) {scope key : String}
    {options : MonitoringReadModelCacheOptions} {now : ℤ} {producer : ℕ}
    (hproducer : (cache.peek scope key options now).2.producer = some producer) :
    outdated scope key producer cache.history = false := by
  unfold MonitoringCache.peek at hproducer
  split at hproducer
  next => cases hproducer
  next id hid =>
    dsimp only at hproducer
    split at hproducer
    next => cases hproducer
    next stored hstored =>
      by_cases hexpired : options.staleTtl < max 0 (now - stored.storedAt)
      · rw [if_pos hexpired] at hproducer
        cases hproducer
      · rw [if_neg hexpired] at hproducer
        cases hproducer
        exact hcur.stored_current scope id key stored hid hstored

theorem CurrentInvariant.returnsCurrent {cache : MonitoringCache V E}
    (hcur : CurrentInvariant cache) : ReturnsCurrent cache := by
  intro scope key options now
  refine ⟨fun producer hproducer => hcur.peek_source hproducer, ?_⟩
  have hhistory := (peek_shrinks cache scope key options now).history
  have hrefresh := (hcur.peek scope key options now).refresh_source scope key options
  rw [hhistory] at hrefresh
  unfold MonitoringCache.read
  dsimp only
  split
  next value producer _ hproducer _ => exact hcur.peek_source hproducer
  next value producer _ hproducer _ => exact hcur.peek_source hproducer
  next => exact hrefresh

theorem run_current {last : MonitoringCache V E}
    (hidle : StepsMeet step InvalidatesIdle initial actions)
    (hrun : runFrom step initial actions = some last) : CurrentInvariant last := by
  apply (Reaches.of_stepsMeet hidle hrun).invariant (P := CurrentInvariant)
  · intro before action after hbefore hguard hstep
    exact hbefore.step hguard hstep
  · exact initial_current

/-- In every run whose invalidations find no covered loader running, no read or
peek returns a value which was already being loaded when its key was
invalidated. -/
theorem run_returnsCurrent
    {last : MonitoringCache V E}
    (hidle : StepsMeet step InvalidatesIdle initial actions)
    (hrun : runFrom step initial actions = some last) : ReturnsCurrent last :=
  (run_current hidle hrun).returnsCurrent

def defaultCacheOptions : MonitoringReadModelCacheOptions := ⟨none, none, none⟩

def invalidatedAndReloaded : List (ReadModelAction String String) :=
  [.read "org-a" "nodes:list" defaultCacheOptions 0, .startLoader 0,
    .settleLoader 0 (.ok (some "v1")), .write 0 5, .finish 0,
    .invalidate "org-a" (some "nodes:"),
    .read "org-a" "nodes:list" defaultCacheOptions 10, .startLoader 1,
    .settleLoader 1 (.ok (some "v2")), .write 1 15, .finish 1]

theorem run_returnsCurrent_invalidatedAndReloaded :
    ∃ last, runFrom step initial invalidatedAndReloaded = some last ∧
      ReturnsCurrent last := by
  obtain ⟨last, hrun⟩ : ∃ last,
      runFrom step initial invalidatedAndReloaded = some last :=
    Option.isSome_iff_exists.mp (by decide +kernel)
  exact ⟨last, hrun, run_returnsCurrent (by decide +kernel) hrun⟩

def invalidatedWhileLoading : List (ReadModelAction String String) :=
  [.read "org-a" "nodes:list" defaultCacheOptions 0, .startLoader 0,
    .invalidate "org-a" (some "nodes:"), .settleLoader 0 (.ok (some "v1")),
    .write 0 5, .finish 0]

theorem invalidatedWhileLoading_serves :
    ∃ last, runFrom step initial invalidatedWhileLoading = some last ∧
      ¬ ReturnsCurrent last := by
  obtain ⟨last, hrun, hsrc⟩ : ∃ last,
      runFrom step initial invalidatedWhileLoading = some last ∧
      outdated "org-a" "nodes:list"
        (last.read "org-a" "nodes:list" defaultCacheOptions 10).2.source
        last.history = true := by
    have hlast : (runFrom step initial invalidatedWhileLoading).any
        (fun last => outdated "org-a" "nodes:list"
          (last.read "org-a" "nodes:list" defaultCacheOptions 10).2.source
          last.history) = true := by
      decide +kernel
    exact Option.any_eq_true _ _ |>.mp hlast
  refine ⟨last, hrun, fun hreturns => ?_⟩
  have hcur := (hreturns "org-a" "nodes:list" defaultCacheOptions 10).2
  rw [hsrc] at hcur
  cases hcur

end MonitoringCache

end Nexolab
