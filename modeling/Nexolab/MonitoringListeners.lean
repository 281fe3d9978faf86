import Nexolab.MonitoringInvalidation

/-!
# Listeners are told every change

A subscription is linked while its scope has the bucket it was made in and its
listener is in the set which that bucket calls for its key.  A linked listener is
called after every change of its key; between the callback which stores a result
and the one which ends the request the call is still due.
-/

namespace Nexolab

namespace MonitoringCache

variable {V E : Type}

/-- The calls for the key of a subscription reach its listener. -/
structure Linked (cache : MonitoringCache V E) (subscription : ReadModelSubscription) : Prop where
  scope : cache.scopes.get? subscription.scope = some subscription.bucket
  set : (cache.buckets subscription.bucket).listeners.get? subscription.key = some subscription.set
  listener : subscription.listener ∈ cache.listenerSets subscription.set

/-- A request of the key has stored its result and is still to end. -/
def CallDue (cache : MonitoringCache V E) (bucket : ℕ) (key : String) : Prop :=
  ∃ id request, cache.requests id = some request ∧ request.phase = .written ∧
    request.bucket = bucket ∧ request.key = key

/-- What live subscriptions have, and which of them may still be to call. -/
structure ToldExcept (cache : MonitoringCache V E) (due : ℕ → String → Prop) :
    Prop where
  linked : ∀ subscription ∈ cache.subscriptions, subscription.closed = false →
    Linked cache subscription
  told : ∀ subscription ∈ cache.subscriptions, subscription.closed = false →
    subscription.pending = true → due subscription.bucket subscription.key
  set_bound : ∀ id key set, (cache.buckets id).listeners.get? key = some set → set < cache.nextSet
  requests_fresh : ∀ id, cache.nextRequest ≤ id → cache.requests id = none
  scope_bound : ∀ scope id, cache.scopes.get? scope = some id → id < cache.nextBucket

/-- A listener is only to call while the end of a request is due. -/
def Told (cache : MonitoringCache V E) : Prop :=
  ToldExcept cache (CallDue cache)

theorem initial_told : Told (initial : MonitoringCache V E) := by
  constructor <;> simp [initial, emptyBucket]

variable {cache after : MonitoringCache V E} {due : ℕ → String → Prop}

theorem ToldExcept.mono {more : ℕ → String → Prop} (htold : ToldExcept cache due)
    (hmore : ∀ bucket key, due bucket key → more bucket key) :
    ToldExcept cache more := by
  refine ⟨htold.linked, ?_, htold.set_bound, htold.requests_fresh, htold.scope_bound⟩
  intro subscription hmem hlive hpend
  exact hmore _ _ (htold.told subscription hmem hlive hpend)

/-- The subscriptions and what they are linked to stay. -/
structure SameLinks (before after : MonitoringCache V E) : Prop where
  scopes : ∀ scope, after.scopes.get? scope = before.scopes.get? scope
  listeners : ∀ id, (after.buckets id).listeners = (before.buckets id).listeners
  listenerSets : after.listenerSets = before.listenerSets
  nextSet : after.nextSet = before.nextSet
  nextBucket : after.nextBucket = before.nextBucket
  requests_fresh : (∀ id, before.nextRequest ≤ id → before.requests id = none) →
    ∀ id, after.nextRequest ≤ id → after.requests id = none

variable {subscription : ReadModelSubscription}

theorem Linked.same (hlinked : Linked cache subscription) (hsame : SameLinks cache after) :
    Linked after subscription := by
  constructor
  · rw [hsame.scopes]
    exact hlinked.scope
  · rw [hsame.listeners]
    exact hlinked.set
  · rw [hsame.listenerSets]
    exact hlinked.listener

theorem ToldExcept.same (htold : ToldExcept cache due) (hsame : SameLinks cache after)
    (hsubs : after.subscriptions = cache.subscriptions) :
    ToldExcept after due := by
  constructor
  · intro subscription hmem hlive
    rw [hsubs] at hmem
    exact (htold.linked subscription hmem hlive).same hsame
  · rw [hsubs]
    exact htold.told
  · intro id key set hset
    rw [hsame.listeners] at hset
    rw [hsame.nextSet]
    exact htold.set_bound id key set hset
  · exact hsame.requests_fresh htold.requests_fresh
  · intro scope id hscope
    rw [hsame.scopes] at hscope
    rw [hsame.nextBucket]
    exact htold.scope_bound scope id hscope

theorem SameLinks.setBucket {id : ℕ} {bucket : ReadModelBucket V E}
    (hlisteners : bucket.listeners = (cache.buckets id).listeners) :
    SameLinks cache (cache.setBucket id bucket) := by
  refine ⟨fun _ => rfl, ?_, rfl, rfl, rfl, fun h => h⟩
  intro other
  simp only [MonitoringCache.setBucket]
  by_cases hother : other = id
  · subst hother
    rw [Function.update_self, hlisteners]
  · rw [Function.update_of_ne hother]

theorem SameLinks.setRequest {id : ℕ} {request : LoaderRequest V E}
    {found : LoaderRequest V E} (hfound : cache.requests id = some found) :
    SameLinks cache (cache.setRequest id request) := by
  refine ⟨fun _ => rfl, fun _ => rfl, rfl, rfl, rfl, ?_⟩
  intro hfresh other hother
  simp only [MonitoringCache.setRequest]
  have hne : other ≠ id := by
    intro hsame
    rw [hsame] at hother
    rw [hfresh id hother] at hfound
    cases hfound
  rw [Function.update_of_ne hne]
  exact hfresh other hother

section Marks

variable [DecidableEq V] [DecidableEq E]

theorem mem_mark {subscription : ReadModelSubscription}
    (hmem : subscription ∈ (cache.mark after).subscriptions) :
    ∃ old ∈ after.subscriptions, (subscription = old ∨ subscription = { old with pending := true } ∧
        cache.report old.scope old.key ≠ after.report old.scope old.key) := by
  simp only [mark, List.mem_map] at hmem
  obtain ⟨old, hold, hsub⟩ := hmem
  refine ⟨old, hold, ?_⟩
  split_ifs at hsub with hchanged
  · exact .inr ⟨hsub.symm, hchanged⟩
  · exact .inl hsub.symm

theorem ToldExcept.mark (htold : ToldExcept cache due) {id : ℕ} {key : String}
    (hsame : SameLinks cache after) (hsubs : after.subscriptions = cache.subscriptions)
    (hreport : ∀ subscription, Linked cache subscription →
      ¬ (subscription.bucket = id ∧ subscription.key = key) →
      cache.report subscription.scope subscription.key =
        after.report subscription.scope subscription.key) :
    ToldExcept (cache.mark after) fun bucket other =>
      due bucket other ∨ bucket = id ∧ other = key := by
  have hafter := htold.same hsame hsubs
  constructor
  · intro subscription hmem hlive
    obtain ⟨old, hold, hsub⟩ := mem_mark hmem
    rcases hsub with rfl | ⟨rfl, _⟩
    · obtain ⟨hscope, hset, hlist⟩ := hafter.linked _ hold hlive
      exact ⟨hscope, hset, hlist⟩
    · obtain ⟨hscope, hset, hlist⟩ := hafter.linked old hold hlive
      exact ⟨hscope, hset, hlist⟩
  · intro subscription hmem hlive hpend
    obtain ⟨old, hold, hsub⟩ := mem_mark hmem
    rcases hsub with rfl | ⟨rfl, hchanged⟩
    · exact .inl (hafter.told _ hold hlive hpend)
    · right
      by_contra hother
      rw [hsubs] at hold
      exact hchanged (hreport old (htold.linked old hold hlive) hother)
  · exact hafter.set_bound
  · exact hafter.requests_fresh
  · exact hafter.scope_bound

end Marks

theorem mem_notify {id : ℕ} {key : String}
    (hmem : subscription ∈ (cache.notify id key).subscriptions) :
    ∃ old ∈ cache.subscriptions,
      (subscription = old ∨ subscription = { old with pending := false }) ∧
      (Linked cache old → old.bucket = id → old.key = key →
        subscription = { old with pending := false }) := by
  unfold notify at hmem
  split at hmem
  next hnone =>
    refine ⟨subscription, hmem, .inl rfl, ?_⟩
    intro hlinked hbucket hkey
    have hset := hlinked.set
    rw [hbucket, hkey, hnone] at hset
    cases hset
  next set hset =>
    simp only [callSet, List.mem_map] at hmem
    obtain ⟨old, hold, hsub⟩ := hmem
    refine ⟨old, hold, ?_, ?_⟩
    · split_ifs at hsub
      · exact .inr hsub.symm
      · exact .inl hsub.symm
    · intro hlinked hbucket hkey
      have hlinkedSet := hlinked.set
      rw [hbucket, hkey, hset, Option.some.injEq] at hlinkedSet
      have hlist := hlinked.listener
      rw [← hlinkedSet] at hlist
      rw [if_pos ⟨hlinkedSet.symm, hlist⟩] at hsub
      exact hsub.symm

theorem SameLinks.notify (cache : MonitoringCache V E) (id : ℕ) (key : String) :
    SameLinks cache (cache.notify id key) := by
  obtain ⟨subscriptions, hnotify⟩ := notify_eq cache id key
  rw [hnotify]
  exact ⟨fun _ => rfl, fun _ => rfl, rfl, rfl, rfl, fun h => h⟩

theorem ToldExcept.notify (htold : ToldExcept cache due) (id : ℕ) (key : String) :
    ToldExcept (cache.notify id key) fun bucket other =>
      due bucket other ∧ ¬ (bucket = id ∧ other = key) := by
  have hsame := SameLinks.notify cache id key
  have hlinked : ∀ old ∈ cache.subscriptions, old.closed = false → Linked cache old := htold.linked
  constructor
  · intro subscription hmem hlive
    obtain ⟨old, hold, hsub, _⟩ := mem_notify hmem
    rcases hsub with rfl | rfl
    · exact (hlinked _ hold hlive).same hsame
    · obtain ⟨hscope, hset, hlist⟩ := (hlinked old hold hlive).same hsame
      exact ⟨hscope, hset, hlist⟩
  · intro subscription hmem hlive hpend
    obtain ⟨old, hold, hsub, hcalled⟩ := mem_notify hmem
    rcases hsub with rfl | rfl
    · refine ⟨htold.told _ hold hlive hpend, ?_⟩
      intro hhere
      have hcleared := hcalled (hlinked _ hold hlive) hhere.1 hhere.2
      rw [hcleared] at hpend
      cases hpend
    · cases hpend
  · intro other otherKey set hset
    rw [hsame.listeners] at hset
    rw [hsame.nextSet]
    exact htold.set_bound other otherKey set hset
  · exact hsame.requests_fresh htold.requests_fresh
  · intro scope other hscope
    rw [hsame.scopes] at hscope
    rw [hsame.nextBucket]
    exact htold.scope_bound scope other hscope

theorem ToldExcept.changeAndNotify [DecidableEq V] [DecidableEq E]
    (htold : ToldExcept cache due) {id : ℕ} {key : String} (hsame : SameLinks cache after)
    (hsubs : after.subscriptions = cache.subscriptions)
    (hreport : ∀ subscription, Linked cache subscription →
      ¬ (subscription.bucket = id ∧ subscription.key = key) →
      cache.report subscription.scope subscription.key =
        after.report subscription.scope subscription.key) :
    ToldExcept ((cache.mark after).notify id key) due := by
  apply ((htold.mark hsame hsubs hreport).notify id key).mono
  intro bucket other hdue
  obtain ⟨hdue | hhere, hnotHere⟩ := hdue
  · exact hdue
  · exact absurd hhere hnotHere

theorem Linked.report_eq (hlinked : Linked cache subscription) :
    cache.report subscription.scope subscription.key =
      (((cache.buckets subscription.bucket).values.get? subscription.key).bind (·.value),
        (cache.buckets subscription.bucket).errors.get? subscription.key) := by
  unfold report
  rw [hlinked.scope]

theorem report_setBucket {id : ℕ} {key : String} {bucket : ReadModelBucket V E}
    (hvalues : ∀ other, other ≠ key →
      bucket.values.get? other = (cache.buckets id).values.get? other)
    (herrors : ∀ other, other ≠ key →
      bucket.errors.get? other = (cache.buckets id).errors.get? other)
    (hlinked : Linked cache subscription)
    (helsewhere : ¬ (subscription.bucket = id ∧ subscription.key = key)) :
    cache.report subscription.scope subscription.key =
      (cache.setBucket id bucket).report subscription.scope subscription.key := by
  have hscope : (cache.setBucket id bucket).scopes.get? subscription.scope =
      some subscription.bucket := hlinked.scope
  rw [hlinked.report_eq]
  unfold report
  rw [hscope]
  simp only [setBucket]
  by_cases hbucket : subscription.bucket = id
  · have hkey : subscription.key ≠ key := fun hkey => helsewhere ⟨hbucket, hkey⟩
    rw [hbucket, Function.update_self, hvalues _ hkey, herrors _ hkey]
  · rw [Function.update_of_ne hbucket]

section Operations

variable [DecidableEq V] [DecidableEq E]

variable {id : ℕ} {scope : String} {options : MonitoringReadModelCacheOptions}
  {request : LoaderRequest V E}

theorem ToldExcept.setKey (htold : ToldExcept cache due) {key : String}
    {bucket : ReadModelBucket V E}
    (hvalues : ∀ other, other ≠ key →
      bucket.values.get? other = (cache.buckets id).values.get? other)
    (herrors : ∀ other, other ≠ key →
      bucket.errors.get? other = (cache.buckets id).errors.get? other)
    (hlisteners : bucket.listeners = (cache.buckets id).listeners) :
    ToldExcept ((cache.mark (cache.setBucket id bucket)).notify id key) due :=
  htold.changeAndNotify (.setBucket hlisteners) rfl
    (fun _ hlinked helsewhere => report_setBucket hvalues herrors hlinked helsewhere)

theorem ToldExcept.dropEntry (htold : ToldExcept cache due) (id : ℕ)
    (key : String) : ToldExcept (dropEntry id cache key) due := by
  apply htold.setKey
  · intro other hother
    dsimp only
    rw [Dictionary.get?_erase, if_neg hother.symm]
  · intro other hother
    dsimp only
    rw [Dictionary.get?_erase, if_neg hother.symm]
  · rfl

theorem ToldExcept.dropEntries (htold : ToldExcept cache due) (id : ℕ) (keys : List String) :
    ToldExcept (keys.foldl (MonitoringCache.dropEntry id) cache) due := by
  induction keys generalizing cache with
  | nil => exact htold
  | cons key rest ih => exact ih (htold.dropEntry id key)

theorem ToldExcept.trimEntries (htold : ToldExcept cache due) (id : ℕ)
    (maxEntries : ℤ) : ToldExcept (cache.trimEntries id maxEntries) due := by
  unfold MonitoringCache.trimEntries
  split_ifs
  · exact htold
  · exact htold.dropEntries id _

theorem ToldExcept.clearError (htold : ToldExcept cache due) (id : ℕ)
    (key : String) : ToldExcept (cache.clearError id key) due := by
  apply htold.setKey
  · intro other _
    rfl
  · intro other hother
    dsimp only
    rw [Dictionary.get?_erase, if_neg hother.symm]
  · rfl

omit [DecidableEq V] [DecidableEq E] in
theorem ToldExcept.registered (htold : ToldExcept cache due) (id : ℕ)
    (key : String) (options : MonitoringReadModelCacheOptions) :
    ToldExcept (cache.registered id key options) due := by
  have hbucket : SameLinks cache (cache.setBucket id { cache.buckets id with
      inflight := (cache.buckets id).inflight.set key cache.nextRequest }) :=
    .setBucket rfl
  refine htold.same ⟨hbucket.scopes, hbucket.listeners, rfl, rfl, rfl, ?_⟩ rfl
  intro hfresh other hother
  have hle : cache.nextRequest + 1 ≤ other := hother
  simp only [MonitoringCache.registered, MonitoringCache.setRequest]
  rw [Function.update_of_ne (by omega)]
  exact hfresh other (by omega)

theorem ToldExcept.revalidate (htold : ToldExcept cache due) (id : ℕ)
    (key : String) (options : MonitoringReadModelCacheOptions) :
    ToldExcept (cache.revalidate id key options).1 due := by
  unfold MonitoringCache.revalidate
  split
  next => exact htold
  next =>
    apply ((((htold.clearError id key).registered id key options)).notify id key).mono
    intro bucket other hdue
    exact hdue.1

/-! ## Scopes -/

section

omit [DecidableEq V] [DecidableEq E]

theorem ToldExcept.callSet (htold : ToldExcept cache due) (set : ℕ) :
    ToldExcept (cache.callSet set) due := by
  constructor
  · intro subscription hmem hlive
    simp only [MonitoringCache.callSet, List.mem_map] at hmem
    obtain ⟨old, hold, hsub⟩ := hmem
    split_ifs at hsub
    · subst hsub
      obtain ⟨hscope, hset, hlist⟩ := htold.linked old hold hlive
      exact ⟨hscope, hset, hlist⟩
    · subst hsub
      obtain ⟨hscope, hset, hlist⟩ := htold.linked old hold hlive
      exact ⟨hscope, hset, hlist⟩
  · intro subscription hmem hlive hpend
    simp only [MonitoringCache.callSet, List.mem_map] at hmem
    obtain ⟨old, hold, hsub⟩ := hmem
    split_ifs at hsub
    · subst hsub
      cases hpend
    · subst hsub
      exact htold.told old hold hlive hpend
  · exact htold.set_bound
  · exact htold.requests_fresh
  · exact htold.scope_bound

theorem ToldExcept.notifyAll (htold : ToldExcept cache due) (id : ℕ) :
    ToldExcept (cache.notifyAll id) due := by
  unfold MonitoringCache.notifyAll
  generalize (cache.buckets id).listeners.values = sets
  induction sets generalizing cache with
  | nil => exact htold
  | cons set rest ih => exact ih (htold.callSet set)

theorem notifyAll_scope
    (hunused : ∀ subscription ∈ cache.subscriptions,
      subscription.closed = false → subscription.scope ≠ scope) :
    ∀ subscription ∈ (cache.notifyAll id).subscriptions,
      subscription.closed = false → subscription.scope ≠ scope := by
  unfold MonitoringCache.notifyAll
  generalize (cache.buckets id).listeners.values = sets
  induction sets generalizing cache with
  | nil => exact hunused
  | cons set rest ih =>
    apply ih
    intro subscription hmem hlive
    simp only [MonitoringCache.callSet, List.mem_map] at hmem
    obtain ⟨old, hold, hsub⟩ := hmem
    split_ifs at hsub
    · subst hsub
      exact hunused old hold hlive
    · subst hsub
      exact hunused old hold hlive

end

theorem ToldExcept.dropScope (htold : ToldExcept cache due)
    (hunused : ∀ subscription ∈ cache.subscriptions,
      subscription.closed = false → subscription.scope ≠ scope) :
    ToldExcept (cache.dropScope scope) due := by
  unfold MonitoringCache.dropScope
  split
  next => exact htold
  next id _ =>
    have hcalled := htold.notifyAll id
    have hunusedCalled : ∀ subscription ∈ (cache.notifyAll id).subscriptions,
        subscription.closed = false → subscription.scope ≠ scope :=
      notifyAll_scope hunused
    have hscopes : ∀ other, other ≠ scope → ((cache.notifyAll id).scopes.erase scope).get? other =
          (cache.notifyAll id).scopes.get? other := by
      intro other hother
      rw [Dictionary.get?_erase, if_neg hother.symm]
    constructor
    · intro subscription hmem hlive
      obtain ⟨old, hold, hsub⟩ := mem_mark hmem
      have hlinkedOld : old.closed = false →
          Linked { cache.notifyAll id with
            scopes := (cache.notifyAll id).scopes.erase scope } old := by
        intro holdLive
        obtain ⟨hscope, hset, hlist⟩ := hcalled.linked old hold holdLive
        refine ⟨?_, hset, hlist⟩
        dsimp only
        rw [hscopes _ (hunusedCalled old hold holdLive)]
        exact hscope
      rcases hsub with rfl | ⟨rfl, _⟩
      · obtain ⟨hscope, hset, hlist⟩ := hlinkedOld hlive
        exact ⟨hscope, hset, hlist⟩
      · obtain ⟨hscope, hset, hlist⟩ := hlinkedOld hlive
        exact ⟨hscope, hset, hlist⟩
    · intro subscription hmem hlive hpend
      obtain ⟨old, hold, hsub⟩ := mem_mark hmem
      rcases hsub with rfl | ⟨rfl, hchanged⟩
      · exact hcalled.told _ hold hlive hpend
      · exfalso
        apply hchanged
        unfold report
        dsimp only
        rw [hscopes _ (hunusedCalled old hold hlive)]
    · exact hcalled.set_bound
    · exact hcalled.requests_fresh
    · intro other found hget
      rw [mark_scopes] at hget
      dsimp only at hget
      rw [Dictionary.get?_erase] at hget
      split_ifs at hget
      exact hcalled.scope_bound other found hget

theorem dropScope_unused {scope other : String}
    (hunused : ∀ subscription ∈ cache.subscriptions,
      subscription.closed = false → subscription.scope ≠ scope) :
    ∀ subscription ∈ (cache.dropScope other).subscriptions,
      subscription.closed = false → subscription.scope ≠ scope := by
  unfold MonitoringCache.dropScope
  split
  next => exact hunused
  next id _ =>
    intro subscription hmem hlive
    obtain ⟨old, hold, hsub⟩ := mem_mark hmem
    have hcalled := notifyAll_scope hunused old hold
    rcases hsub with rfl | ⟨rfl, _⟩
    · exact hcalled hlive
    · exact hcalled hlive

theorem ToldExcept.dropScopes (htold : ToldExcept cache due) (names : List String)
    (hunused : ∀ name ∈ names, ∀ subscription ∈ cache.subscriptions,
      subscription.closed = false → subscription.scope ≠ name) :
    ToldExcept (names.foldl MonitoringCache.dropScope cache) due := by
  induction names generalizing cache with
  | nil => exact htold
  | cons name rest ih =>
    apply ih (htold.dropScope (hunused name List.mem_cons_self))
    intro other hother
    exact dropScope_unused (hunused other (List.mem_cons_of_mem _ hother))

def evictedScopes (cache : MonitoringCache V E) (scope : String) : List String :=
  match cache.scopes.get? scope with
  | none => cache.scopes.keys.take (cache.scopes.length + 1 - maxScopes)
  | some _ => []

omit [DecidableEq V] [DecidableEq E] in
theorem Linked.newBucket {subscription : ReadModelSubscription}
    (hlinked : Linked cache subscription) (hbound : subscription.bucket < cache.nextBucket)
    (hmissing : cache.scopes.get? scope = none) :
    Linked { cache.setBucket cache.nextBucket emptyBucket with
      scopes := cache.scopes.set scope cache.nextBucket
      nextBucket := cache.nextBucket + 1 } subscription := by
  constructor
  · have hne : scope ≠ subscription.scope := by
      intro hsame
      have hget := hlinked.scope
      rw [← hsame, hmissing] at hget
      cases hget
    dsimp only
    rw [Dictionary.get?_set, if_neg hne]
    exact hlinked.scope
  · simp only [setBucket]
    rw [Function.update_of_ne hbound.ne]
    exact hlinked.set
  · exact hlinked.listener

theorem ToldExcept.openBucket (htold : ToldExcept cache due)
    (hevicted : ∀ name ∈ evictedScopes cache scope, ∀ subscription ∈ cache.subscriptions,
      subscription.closed = false → subscription.scope ≠ name) :
    ToldExcept (cache.openBucket scope).1 due := by
  unfold MonitoringCache.openBucket
  unfold evictedScopes at hevicted
  split
  next hmissing =>
    rw [hmissing] at hevicted
    have hreport : ∀ subscription ∈ cache.subscriptions,
        cache.report subscription.scope subscription.key = MonitoringCache.report
            { cache.setBucket cache.nextBucket emptyBucket with
              scopes := cache.scopes.set scope cache.nextBucket
              nextBucket := cache.nextBucket + 1 }
            subscription.scope subscription.key := by
      intro subscription _
      unfold MonitoringCache.report
      dsimp only
      rw [Dictionary.get?_set]
      by_cases hscope : scope = subscription.scope
      · rw [if_pos hscope, ← hscope, hmissing]
        simp only [setBucket]
        rw [Function.update_self]
        rfl
      · rw [if_neg hscope]
        cases hget : cache.scopes.get? subscription.scope with
        | none => rfl
        | some id =>
          have hbound := htold.scope_bound _ _ hget
          simp only [setBucket]
          rw [Function.update_of_ne hbound.ne]
    have hsubs : (cache.mark
        { cache.setBucket cache.nextBucket emptyBucket with
          scopes := cache.scopes.set scope cache.nextBucket
          nextBucket := cache.nextBucket + 1 }).subscriptions =
        cache.subscriptions := by
      unfold MonitoringCache.mark
      refine (List.map_congr_left ?_).trans (List.map_id _)
      intro subscription hmem
      rw [if_neg (not_not.mpr (hreport subscription hmem))]
      rfl
    have hcreated : ToldExcept (cache.mark
        { cache.setBucket cache.nextBucket emptyBucket with
          scopes := cache.scopes.set scope cache.nextBucket
          nextBucket := cache.nextBucket + 1 }) due := by
      constructor
      · intro subscription hmem hlive
        rw [hsubs] at hmem
        have hlinked := htold.linked subscription hmem hlive
        obtain ⟨hscope, hset, hlist⟩ := hlinked.newBucket
          (htold.scope_bound _ _ hlinked.scope) hmissing
        exact ⟨hscope, hset, hlist⟩
      · rw [hsubs]
        exact htold.told
      · intro id key set hset
        rw [mark_buckets] at hset
        simp only [setBucket] at hset
        by_cases hid : id = cache.nextBucket
        · subst hid
          rw [Function.update_self] at hset
          cases hset
        · rw [Function.update_of_ne hid] at hset
          exact htold.set_bound id key set hset
      · exact htold.requests_fresh
      · intro other id hget
        rw [mark_scopes] at hget
        dsimp only at hget
        rw [Dictionary.get?_set] at hget
        rw [mark_nextBucket]
        split_ifs at hget
        · cases hget
          exact Nat.lt_succ_self _
        · exact Nat.lt_succ_of_lt (htold.scope_bound other id hget)
    apply hcreated.dropScopes
    intro name hname subscription hmem hlive
    rw [hsubs] at hmem
    apply hevicted name _ subscription hmem hlive
    rw [mark_scopes] at hname
    dsimp only at hname
    rw [Dictionary.set_of_not_mem _ (Dictionary.get?_eq_none_iff.mp hmissing)] at hname
    unfold Dictionary.keys at hname ⊢
    rw [List.map_append, List.take_append_of_le_length
      (by simp [maxScopes]), List.length_append] at hname
    exact hname
  next id hid =>
    refine htold.same ⟨?_, fun _ => rfl, rfl, rfl, rfl, fun h => h⟩ rfl
    intro other
    dsimp only
    rw [Dictionary.get?_set]
    split_ifs with hsame
    · rw [← hsame, hid]
    · rw [Dictionary.get?_erase, if_neg hsame]

/-! ## Calls -/

def Unexpired (cache : MonitoringCache V E) (scope key : String)
    (options : MonitoringReadModelCacheOptions) (now : ℤ) : Prop :=
  ∀ id ∈ cache.scopes.get? scope, ∀ stored ∈ (cache.buckets id).values.get? key,
      max 0 (now - stored.storedAt) ≤ options.staleTtl

theorem peek_told (htold : ToldExcept cache due) {scope key : String} {now : ℤ}
    (hunexpired : Unexpired cache scope key options now) :
    ToldExcept (cache.peek scope key options now).1 due ∧
      (cache.peek scope key options now).1.subscriptions = cache.subscriptions ∧
      (cache.peek scope key options now).1.scopes = cache.scopes ∧
      (cache.peek scope key options now).1.requests = cache.requests := by
  unfold MonitoringCache.peek
  split
  next => exact ⟨htold, rfl, rfl, rfl⟩
  next id hid =>
    dsimp only
    split
    next => exact ⟨htold, rfl, rfl, rfl⟩
    next stored hstored =>
      have hage := hunexpired id hid stored hstored
      rw [if_neg (not_lt.mpr hage)]
      exact ⟨htold.same (.setBucket rfl) rfl, rfl, rfl, rfl⟩

/-- The opening of a bucket removes no scope of a live subscription. -/
def EvictsUnused (cache : MonitoringCache V E) (scope : String) : Prop :=
  ∀ name ∈ evictedScopes cache scope, ∀ subscription ∈ cache.subscriptions,
    subscription.closed = false → subscription.scope ≠ name

theorem ToldExcept.refresh (htold : ToldExcept cache due)
    (hevicts : EvictsUnused cache scope) (key : String)
    (options : MonitoringReadModelCacheOptions) :
    ToldExcept (cache.refresh scope key options).1 due :=
  (htold.openBucket hevicts).revalidate _ key options

theorem ToldExcept.read (htold : ToldExcept cache due) {scope key : String} {now : ℤ}
    (hunexpired : Unexpired cache scope key options now) (hevicts : EvictsUnused cache scope) :
    ToldExcept (cache.read scope key options now).1 due := by
  obtain ⟨hpeeked, hsubs, hscopes, _⟩ := peek_told htold hunexpired
  have hpeekedEvicts :
      EvictsUnused (cache.peek scope key options now).1 scope := by
    unfold EvictsUnused evictedScopes
    rw [hsubs, hscopes]
    exact hevicts
  unfold MonitoringCache.read
  dsimp only
  split
  next => exact hpeeked
  next => exact hpeeked.refresh hpeekedEvicts key options
  next => exact hpeeked.refresh hpeekedEvicts key options

omit [DecidableEq V] [DecidableEq E] in
theorem ToldExcept.openSet (htold : ToldExcept cache due) (id : ℕ) (key : String) :
    ToldExcept (cache.openSet id key).1 due ∧
      ((cache.openSet id key).1.buckets id).listeners.get? key = some (cache.openSet id key).2 ∧
      (cache.openSet id key).1.scopes = cache.scopes := by
  unfold MonitoringCache.openSet
  dsimp only
  split
  next set hset => exact ⟨htold, hset, rfl⟩
  next hnone =>
    have hlisteners : ∀ other otherKey,
        (Function.update cache.buckets id { cache.buckets id with
          listeners := (cache.buckets id).listeners.set key cache.nextSet }
            other).listeners.get? otherKey =
          if other = id ∧ key = otherKey then some cache.nextSet
          else (cache.buckets other).listeners.get? otherKey := by
      intro other otherKey
      by_cases hother : other = id
      · subst hother
        rw [Function.update_self]
        dsimp only
        rw [Dictionary.get?_set]
        simp
      · rw [Function.update_of_ne hother, if_neg (fun h => hother h.1)]
    refine ⟨?_, ?_, rfl⟩
    · constructor
      · intro subscription hmem hlive
        obtain ⟨hscope, hset, hlist⟩ := htold.linked subscription hmem hlive
        have hbound := htold.set_bound _ _ _ hset
        refine ⟨hscope, ?_, ?_⟩
        · simp only [setBucket]
          rw [hlisteners, if_neg]
          · exact hset
          · intro hhere
            rw [hhere.1, ← hhere.2, hnone] at hset
            cases hset
        · dsimp only
          rw [Function.update_of_ne hbound.ne]
          exact hlist
      · exact htold.told
      · intro other otherKey set hset
        simp only [setBucket] at hset
        rw [hlisteners] at hset
        split_ifs at hset
        · cases hset
          exact Nat.lt_succ_self _
        · exact Nat.lt_succ_of_lt (htold.set_bound other otherKey set hset)
      · exact htold.requests_fresh
      · exact htold.scope_bound
    · simp only [setBucket]
      rw [hlisteners, if_pos ⟨rfl, rfl⟩]

theorem ToldExcept.subscribe (htold : ToldExcept cache due)
    (hevicts : EvictsUnused cache scope) (key : String) (listener : ℕ) :
    ToldExcept (cache.subscribe scope key listener) due := by
  have hopened := htold.openBucket hevicts
  have hget := openBucket_get? cache scope
  obtain ⟨hcur, hset, hscopes⟩ :=
    hopened.openSet (cache.openBucket scope).2 key
  have hlist : ∀ other set, other ∈ ((cache.openBucket scope).1.openSet (cache.openBucket scope).2
        key).1.listenerSets set →
      other ∈ (cache.subscribe scope key listener).listenerSets set := by
    intro other set hmem
    simp only [MonitoringCache.subscribe]
    by_cases hsame : set = ((cache.openBucket scope).1.openSet (cache.openBucket scope).2 key).2
    · subst hsame
      rw [Function.update_self]
      exact List.mem_insert_of_mem hmem
    · rw [Function.update_of_ne hsame]
      exact hmem
  constructor
  · intro subscription hmem hlive
    simp only [MonitoringCache.subscribe, List.mem_append, List.mem_singleton] at hmem
    rcases hmem with hold | hnew
    · obtain ⟨hscope, hlinkedSet, hlinked⟩ :=
        hcur.linked subscription hold hlive
      exact ⟨hscope, hlinkedSet, hlist _ _ hlinked⟩
    · subst hnew
      refine ⟨?_, hset, ?_⟩
      · simp only [MonitoringCache.subscribe]
        rw [hscopes]
        exact hget
      · simp only [MonitoringCache.subscribe]
        rw [Function.update_self]
        exact List.mem_insert_self
  · intro subscription hmem hlive hpend
    simp only [MonitoringCache.subscribe, List.mem_append, List.mem_singleton] at hmem
    rcases hmem with hold | hnew
    · exact hcur.told subscription hold hlive hpend
    · subst hnew
      cases hpend
  · exact hcur.set_bound
  · exact hcur.requests_fresh
  · exact hcur.scope_bound

/-- What an `unsubscribe` must leave: no other live subscription has its
listener in its set, and no other set is registered for its key. -/
def RemovesOwn (cache : MonitoringCache V E) (index : ℕ) : Prop :=
  ∀ removed ∈ cache.subscriptions[index]?, (∀ subscription ∈ cache.subscriptions.eraseIdx index,
      subscription.closed = false → subscription.set = removed.set →
      subscription.listener ≠ removed.listener) ∧
    ((cache.listenerSets removed.set).erase removed.listener = [] →
      ∀ set ∈ (cache.buckets removed.bucket).listeners.get? removed.key,
        set = removed.set)

omit [DecidableEq V] [DecidableEq E] in
theorem ToldExcept.unsubscribe (htold : ToldExcept cache due) {index : ℕ}
    {next : MonitoringCache V E} (hremoves : RemovesOwn cache index)
    (hunsubscribe : cache.unsubscribe index = some next) :
    ToldExcept next due := by
  simp only [MonitoringCache.unsubscribe, Option.bind_eq_bind,
    Option.bind_eq_some_iff] at hunsubscribe
  obtain ⟨removed, hremoved, hnext⟩ := hunsubscribe
  obtain ⟨hlisteners, hsets⟩ := hremoves removed hremoved
  -- a live subscription afterwards is another one which was live before
  have hother : ∀ subscription ∈ cache.subscriptions.set index { removed with closed := true },
      subscription.closed = false →
      subscription ∈ cache.subscriptions ∧
        (subscription.set = removed.set →
          subscription.listener ≠ removed.listener) := by
    intro subscription hmem hlive
    obtain ⟨other, hget⟩ := List.mem_iff_getElem?.mp hmem
    by_cases hsame : other = index
    · subst hsame
      obtain ⟨hbound, _⟩ := List.getElem?_eq_some_iff.mp hremoved
      rw [List.getElem?_set_self hbound] at hget
      cases hget
      cases hlive
    · rw [List.getElem?_set_ne (fun h => hsame h.symm)] at hget
      refine ⟨List.mem_of_getElem? hget, ?_⟩
      exact hlisteners subscription (List.mem_eraseIdx_iff_getElem?.mpr ⟨other, hsame, hget⟩) hlive
  have hkept : ∀ subscription ∈ cache.subscriptions.set index { removed with closed := true },
      subscription.closed = false →
      subscription.listener ∈ Function.update cache.listenerSets removed.set
        ((cache.listenerSets removed.set).erase removed.listener) subscription.set := by
    intro subscription hmem hlive
    obtain ⟨hold, hdist⟩ := hother subscription hmem hlive
    have hlist := (htold.linked subscription hold hlive).listener
    by_cases hset : subscription.set = removed.set
    · rw [hset, Function.update_self]
      rw [hset] at hlist
      exact (List.mem_erase_of_ne (hdist hset)).mpr hlist
    · rw [Function.update_of_ne hset]
      exact hlist
  split_ifs at hnext with hempty
  · cases hnext
    have hreg : ∀ id key, (Function.update cache.buckets removed.bucket
        { cache.buckets removed.bucket with
          listeners := (cache.buckets removed.bucket).listeners.erase
            removed.key } id).listeners.get? key =
        if id = removed.bucket ∧ removed.key = key then none
        else (cache.buckets id).listeners.get? key := by
      intro id key
      by_cases hid : id = removed.bucket
      · subst hid
        rw [Function.update_self]
        dsimp only
        rw [Dictionary.get?_erase]
        simp
      · rw [Function.update_of_ne hid, if_neg (fun h => hid h.1)]
    constructor
    · intro subscription hmem hlive
      obtain ⟨hold, hdist⟩ := hother subscription hmem hlive
      have hlinked := htold.linked subscription hold hlive
      refine ⟨hlinked.scope, ?_, hkept subscription hmem hlive⟩
      simp only [setBucket]
      rw [hreg, if_neg]
      · exact hlinked.set
      · intro hhere
        have hset := hlinked.set
        rw [hhere.1, ← hhere.2] at hset
        have hsame := hsets hempty _ hset
        have hlist := hkept subscription hmem hlive
        rw [hsame, Function.update_self, hempty] at hlist
        cases hlist
    · intro subscription hmem hlive hpend
      exact htold.told subscription (hother subscription hmem hlive).1 hlive hpend
    · intro id key set hset
      simp only [setBucket] at hset
      rw [hreg] at hset
      split_ifs at hset
      exact htold.set_bound id key set hset
    · exact htold.requests_fresh
    · exact htold.scope_bound
  · cases hnext
    constructor
    · intro subscription hmem hlive
      obtain ⟨hold, _⟩ := hother subscription hmem hlive
      have hlinked := htold.linked subscription hold hlive
      exact ⟨hlinked.scope, hlinked.set, hkept subscription hmem hlive⟩
    · intro subscription hmem hlive hpend
      exact htold.told subscription (hother subscription hmem hlive).1 hlive hpend
    · exact htold.set_bound
    · exact htold.requests_fresh
    · exact htold.scope_bound

theorem ToldExcept.invalidate (htold : ToldExcept cache due) (scope : String)
    (keyPrefix : Option String) :
    ToldExcept (cache.invalidate scope keyPrefix) due := by
  have hnoted : ToldExcept { cache with
      history := .invalidated scope keyPrefix :: cache.history } due :=
    htold.same ⟨fun _ => rfl, fun _ => rfl, rfl, rfl, rfl, fun h => h⟩ rfl
  unfold MonitoringCache.invalidate
  dsimp only
  split
  next => exact hnoted
  next id _ => exact hnoted.dropEntries id _

theorem invalidate_requests (cache : MonitoringCache V E) (scope : String)
    (keyPrefix : Option String) :
    (cache.invalidate scope keyPrefix).requests = cache.requests := by
  unfold MonitoringCache.invalidate
  dsimp only
  split
  next => rfl
  next id _ => exact (Shrinks.foldl (dropEntry_shrinks id) _ _).requests

theorem ToldExcept.clearAll (htold : ToldExcept cache due)
    (hunused : ∀ subscription ∈ cache.subscriptions, subscription.closed = true) :
    ToldExcept cache.clearAll due := by
  have hcalled : ∀ (ids : List ℕ) (current : MonitoringCache V E), ToldExcept current due →
      (∀ subscription ∈ current.subscriptions, subscription.closed = true) →
      ToldExcept (ids.foldl MonitoringCache.notifyAll current) due ∧
        ∀ subscription ∈ (ids.foldl MonitoringCache.notifyAll current).subscriptions,
          subscription.closed = true := by
    intro ids
    induction ids with
    | nil =>
      intro current hcur hclosed
      exact ⟨hcur, hclosed⟩
    | cons id rest ih =>
      intro current hcur hclosed
      apply ih _ (hcur.notifyAll id)
      intro subscription hmem
      by_contra hlive
      exact notifyAll_scope (fun other hother hotherLive =>
        absurd (hclosed other hother) (by simp [hotherLive])) subscription hmem
        (by simpa using hlive) rfl
  obtain ⟨hlast, hclosed⟩ := hcalled cache.scopes.values cache htold hunused
  have hlive : ∀ subscription ∈ cache.clearAll.subscriptions, subscription.closed = true := by
    intro subscription hmem
    obtain ⟨old, hold, hsub⟩ := mem_mark hmem
    rcases hsub with rfl | ⟨rfl, _⟩
    · exact hclosed _ hold
    · exact hclosed old hold
  constructor
  · intro subscription hmem hopen
    rw [hlive subscription hmem] at hopen
    cases hopen
  · intro subscription hmem hopen
    rw [hlive subscription hmem] at hopen
    cases hopen
  · exact hlast.set_bound
  · exact hlast.requests_fresh
  · intro scope id hget
    cases hget

section

omit [DecidableEq V] [DecidableEq E]

theorem CallDue.setRequest {request changed : LoaderRequest V E}
    (hreq : cache.requests id = some request)
    (hphase : request.phase ≠ .written) {bucket : ℕ} {key : String}
    (hdue : CallDue cache bucket key) :
    CallDue (cache.setRequest id changed) bucket key := by
  obtain ⟨other, found, hfound, hwritten, hplace⟩ := hdue
  refine ⟨other, found, ?_, hwritten, hplace⟩
  simp only [MonitoringCache.setRequest]
  have hne : other ≠ id := by
    intro hsame
    rw [hsame, hreq] at hfound
    cases hfound
    exact hphase hwritten
  rw [Function.update_of_ne hne]
  exact hfound

theorem Told.advance (htold : Told cache) {request changed : LoaderRequest V E}
    (hreq : cache.requests id = some request) (hphase : request.phase ≠ .written) :
    Told (cache.setRequest id changed) :=
  (htold.same (.setRequest hreq) rfl).mono fun _ _ hdue => hdue.setRequest hreq hphase

theorem ToldExcept.written
    (htold : ToldExcept cache fun bucket key =>
      CallDue cache bucket key ∨ bucket = request.bucket ∧ key = request.key)
    (hreq : cache.requests id = some request) (hphase : request.phase ≠ .written) :
    Told (cache.setRequest id { request with phase := .written }) := by
  apply (htold.same (.setRequest hreq) rfl).mono
  intro bucket key hdue
  rcases hdue with hdue | ⟨hbucket, hkey⟩
  · exact hdue.setRequest hreq hphase
  · exact ⟨id, _, Function.update_self .., rfl, hbucket.symm, hkey.symm⟩

theorem CallDue.of_requests {bucket : ℕ} {key : String} (hdue : CallDue cache bucket key)
    (hreqs : ∀ id request, cache.requests id = some request →
      after.requests id = some request) : CallDue after bucket key := by
  obtain ⟨id, request, hreq, hwritten, hplace⟩ := hdue
  exact ⟨id, request, hreqs id request hreq, hwritten, hplace⟩

theorem ToldExcept.toTold (htold : ToldExcept after (CallDue cache))
    (hreqs : ∀ id request, cache.requests id = some request →
      after.requests id = some request) : Told after :=
  htold.mono fun _ _ hdue => hdue.of_requests hreqs

end

theorem Told.writeValue (htold : Told cache) (hreq : cache.requests id = some request)
    (hphase : request.phase ≠ .written) (value : Option V) (now : ℤ) :
    Told (cache.writeValue id request value now) := by
  have hstored : ToldExcept (cache.mark (cache.setBucket request.bucket
      { cache.buckets request.bucket with
        values := (cache.buckets request.bucket).values.set request.key
          ⟨value, now, now, id⟩
        errors := (cache.buckets request.bucket).errors.erase request.key }))
      fun bucket key => CallDue cache bucket key ∨ bucket = request.bucket ∧ key = request.key := by
    refine ToldExcept.mark htold (.setBucket ?_) ?_ ?_
    · rfl
    · rfl
    intro subscription hlinked helsewhere
    apply report_setBucket _ _ hlinked helsewhere
    · intro other hother
      dsimp only
      rw [Dictionary.get?_set, if_neg hother.symm]
    · intro other hother
      dsimp only
      rw [Dictionary.get?_erase, if_neg hother.symm]
  have htrimmed := hstored.trimEntries request.bucket request.options.maxEntries
  have hreqs := (trimEntries_shrinks (cache.mark (cache.setBucket
      request.bucket { cache.buckets request.bucket with
        values := (cache.buckets request.bucket).values.set request.key
          ⟨value, now, now, id⟩
        errors := (cache.buckets request.bucket).errors.erase request.key }))
    request.bucket request.options.maxEntries).requests
  apply ToldExcept.written _ (by rw [hreqs]; exact hreq) hphase
  apply htrimmed.mono
  intro bucket key hdue
  rcases hdue with hdue | hhere
  · refine .inl (hdue.of_requests ?_)
    intro other found hfound
    rw [hreqs]
    exact hfound
  · exact .inr hhere

theorem Told.writeError (htold : Told cache) (hreq : cache.requests id = some request)
    (hphase : request.phase ≠ .written) (error : E) :
    Told (cache.writeError id request error) := by
  unfold MonitoringCache.writeError
  dsimp only
  refine ToldExcept.written ?_ hreq hphase
  refine ToldExcept.mark htold (.setBucket ?_) ?_ ?_
  · rfl
  · rfl
  intro subscription hlinked helsewhere
  apply report_setBucket _ _ hlinked helsewhere
  · intro other _
    rfl
  · intro other hother
    dsimp only
    rw [Dictionary.get?_set, if_neg hother.symm]

omit [DecidableEq V] [DecidableEq E] in
theorem Told.finish (htold : Told cache) (hreq : cache.requests id = some request) :
    Told (cache.finish id request) := by
  have hremoved : ToldExcept (cache.setBucket request.bucket
      { cache.buckets request.bucket with
        inflight := (cache.buckets request.bucket).inflight.erase request.key })
      (CallDue cache) := htold.same (.setBucket rfl) rfl
  have hnotified := hremoved.notify request.bucket request.key
  obtain ⟨subscriptions, hnotify⟩ := notify_eq (cache.setBucket request.bucket
      { cache.buckets request.bucket with
        inflight := (cache.buckets request.bucket).inflight.erase request.key })
    request.bucket request.key
  unfold MonitoringCache.finish
  dsimp only
  rw [hnotify] at hnotified ⊢
  apply (hnotified.same (.setRequest hreq) rfl).mono
  intro bucket key hdue
  obtain ⟨⟨other, found, hfound, hwritten, hplace⟩, helsewhere⟩ := hdue
  refine ⟨other, found, ?_, hwritten, hplace⟩
  have hne : other ≠ id := by
    intro hsame
    rw [hsame, hreq] at hfound
    cases hfound
    exact helsewhere ⟨hplace.1.symm, hplace.2.symm⟩
  simp only [MonitoringCache.setRequest]
  rw [Function.update_of_ne hne]
  exact hfound

theorem openBucket_requests (cache : MonitoringCache V E) (scope : String) :
    (cache.openBucket scope).1.requests = cache.requests ∧
      (cache.openBucket scope).1.nextRequest = cache.nextRequest := by
  unfold MonitoringCache.openBucket
  split
  next =>
    exact ⟨(trimScopes_shrinks _).requests, (trimScopes_shrinks _).nextRequest⟩
  next => exact ⟨rfl, rfl⟩

theorem refresh_requests (htold : ToldExcept cache due) (scope key : String)
    (options : MonitoringReadModelCacheOptions) :
    ∀ id request, cache.requests id = some request →
      (cache.refresh scope key options).1.requests id = some request := by
  intro id request hreq
  have hopened := openBucket_requests cache scope
  have hne : id ≠ cache.nextRequest := by
    intro hsame
    rw [hsame, htold.requests_fresh _ le_rfl] at hreq
    cases hreq
  unfold MonitoringCache.refresh MonitoringCache.revalidate
  dsimp only
  split
  next =>
    rw [hopened.1]
    exact hreq
  next =>
    have hcleared := clearError_shrinks (cache.openBucket scope).1 (cache.openBucket scope).2 key
    obtain ⟨subscriptions, hnotify⟩ := notify_eq
      (((cache.openBucket scope).1.clearError (cache.openBucket scope).2
        key).registered (cache.openBucket scope).2 key options)
      (cache.openBucket scope).2 key
    rw [hnotify]
    simp only [MonitoringCache.registered, MonitoringCache.setRequest]
    rw [hcleared.nextRequest, hopened.2, Function.update_of_ne hne]
    change ((cache.openBucket scope).1.clearError (cache.openBucket scope).2
      key).requests id = some request
    rw [hcleared.requests, hopened.1]
    exact hreq

/-! ## Runs -/

/-- What the calls of a run must leave to a live subscription: its scope is not
cleared or evicted, its listener is not removed by another `unsubscribe`, and
no entry is found past its time. -/
def KeepsListeners (cache : MonitoringCache V E) : ReadModelAction V E → Prop
  | .peek scope key options now =>
    ∀ name ∈ normalizeName scope, ∀ keyName ∈ normalizeName key,
      Unexpired cache name keyName options now
  | .read scope key options now =>
    (∀ name ∈ normalizeName scope, ∀ keyName ∈ normalizeName key,
      Unexpired cache name keyName options now) ∧
    ∀ name ∈ normalizeName scope, EvictsUnused cache name
  | .refresh scope _ _ => ∀ name ∈ normalizeName scope, EvictsUnused cache name
  | .subscribe scope _ _ => ∀ name ∈ normalizeName scope, EvictsUnused cache name
  | .unsubscribe index => RemovesOwn cache index
  | .clearScope scope => ∀ name ∈ normalizeName scope, ∀ subscription ∈ cache.subscriptions,
        subscription.closed = false → subscription.scope ≠ name
  | .clearAll => ∀ subscription ∈ cache.subscriptions, subscription.closed = true
  | _ => True

theorem Told.step (htold : Told cache) {action : ReadModelAction V E}
    {next : MonitoringCache V E} (hkeeps : KeepsListeners cache action)
    (hstep : cache.step action = some next) : Told next := by
  cases action with
  | peek scope key options now =>
    simp only [MonitoringCache.step, Option.bind_eq_bind, Option.bind_eq_some_iff,
      Option.pure_def, Option.some.injEq] at hstep
    obtain ⟨scope', hscope, key', hkey, rfl⟩ := hstep
    obtain ⟨hpeeked, _, _, hreqs⟩ :=
      peek_told htold (hkeeps scope' hscope key' hkey)
    apply hpeeked.toTold
    intro id request hreq
    rw [hreqs]
    exact hreq
  | read scope key options now =>
    simp only [MonitoringCache.step, Option.bind_eq_bind, Option.bind_eq_some_iff,
      Option.pure_def, Option.some.injEq] at hstep
    obtain ⟨scope', hscope, key', hkey, rfl⟩ := hstep
    have hunexpired := hkeeps.1 scope' hscope key' hkey
    apply (htold.read hunexpired (hkeeps.2 scope' hscope)).toTold
    obtain ⟨hpeeked, _, _, hreqs⟩ := peek_told htold hunexpired
    intro id request hreq
    have hpeekedRequest := hreqs ▸ hreq
    unfold MonitoringCache.read
    dsimp only
    split
    next => exact hpeekedRequest
    next =>
      exact refresh_requests hpeeked scope' key' options id request hpeekedRequest
    next =>
      exact refresh_requests hpeeked scope' key' options id request hpeekedRequest
  | refresh scope key options =>
    obtain ⟨scope', hscope, hstep⟩ := Option.bind_eq_some_iff.mp hstep
    split at hstep
    next =>
      cases hstep
      apply (htold.openBucket (hkeeps scope' hscope)).toTold
      rw [(openBucket_requests cache scope').1]
      exact fun _ _ h => h
    next key' _ =>
      cases hstep
      exact (htold.refresh (hkeeps scope' hscope) key' options).toTold
        (refresh_requests htold scope' key' options)
  | subscribe scope key listener =>
    obtain ⟨scope', hscope, hstep⟩ := Option.bind_eq_some_iff.mp hstep
    split at hstep
    next =>
      cases hstep
      apply (htold.openBucket (hkeeps scope' hscope)).toTold
      rw [(openBucket_requests cache scope').1]
      exact fun _ _ h => h
    next key' _ =>
      cases hstep
      apply (htold.subscribe (hkeeps scope' hscope) key' listener).toTold
      have hset := (openSet_shrinks (cache.openBucket scope').1
        (cache.openBucket scope').2 key').requests
      have hreqs : (cache.subscribe scope' key' listener).requests =
          cache.requests := hset.trans (openBucket_requests cache scope').1
      rw [hreqs]
      exact fun _ _ h => h
  | unsubscribe index =>
    apply (htold.unsubscribe hkeeps hstep).toTold
    rw [(unsubscribe_shrinks hstep).requests]
    exact fun _ _ h => h
  | invalidate scope keyPrefix =>
    obtain ⟨scope', _, hstep⟩ := Option.bind_eq_some_iff.mp hstep
    cases hstep
    apply (htold.invalidate scope' (keyPrefix.bind normalizeName)).toTold
    rw [invalidate_requests]
    exact fun _ _ h => h
  | clearScope scope =>
    obtain ⟨scope', hscope, hstep⟩ := Option.bind_eq_some_iff.mp hstep
    cases hstep
    apply (htold.dropScope (hkeeps scope' hscope)).toTold
    rw [(dropScope_shrinks cache scope').requests]
    exact fun _ _ h => h
  | clearAll =>
    cases hstep
    apply (htold.clearAll hkeeps).toTold
    rw [(clearAll_shrinks cache).requests]
    exact fun _ _ h => h
  | startLoader id =>
    obtain ⟨request, hreq, hstep⟩ := Option.bind_eq_some_iff.mp hstep
    split at hstep
    next hphase =>
      cases hstep
      have hadvanced : Told (cache.setRequest id { request with phase := .running }) :=
        htold.advance hreq (by simp [hphase])
      exact hadvanced.same
        ⟨fun _ => rfl, fun _ => rfl, rfl, rfl, rfl, fun h => h⟩ rfl
    next => cases hstep
  | settleLoader id outcome =>
    simp only [MonitoringCache.step, Option.bind_eq_bind, Option.bind_eq_some_iff] at hstep
    obtain ⟨request, hreq, hstep⟩ := hstep
    split at hstep
    next hphase =>
      cases hstep
      exact htold.advance hreq (by simp [hphase])
    next hphase =>
      cases hstep
      exact htold.advance hreq (by simp [hphase])
    next => cases hstep
  | write id now =>
    obtain ⟨request, hreq, hstep⟩ := Option.bind_eq_some_iff.mp hstep
    split at hstep
    next value hphase =>
      cases hstep
      exact htold.writeValue hreq (by simp [hphase]) value now
    next error hphase =>
      cases hstep
      exact htold.writeError hreq (by simp [hphase]) error
    next => cases hstep
  | finish id =>
    obtain ⟨request, hreq, hstep⟩ := Option.bind_eq_some_iff.mp hstep
    split at hstep
    next =>
      cases hstep
      exact htold.finish hreq
    next => cases hstep

/-- Every listener which is subscribed was called after the last change of what
is reported for its scope and key, or the end of a request which calls it is
due. -/
def TellsChanges (cache : MonitoringCache V E) : Prop :=
  ∀ (index : ℕ) (subscription : ReadModelSubscription),
    cache.subscriptions[index]? = some subscription →
    subscription.closed = false → subscription.pending = true →
    ∃ id next told, cache.step (.finish id) = some next ∧
      next.subscriptions[index]? = some told ∧ told.pending = false

omit [DecidableEq V] [DecidableEq E] in
theorem callSet_calls {index : ℕ} {subscription : ReadModelSubscription}
    (cache : MonitoringCache V E) (hget : cache.subscriptions[index]? = some subscription)
    (hlist : subscription.listener ∈ cache.listenerSets subscription.set) :
    (cache.callSet subscription.set).subscriptions[index]? =
      some { subscription with pending := false } := by
  unfold MonitoringCache.callSet
  rw [List.getElem?_map, hget, Option.map_some, if_pos ⟨rfl, hlist⟩]

theorem Told.tellsChanges (htold : Told cache) : TellsChanges cache := by
  intro index subscription hget hlive hpend
  have hmem := List.mem_of_getElem? hget
  have hlinked := htold.linked subscription hmem hlive
  obtain ⟨id, request, hreq, hphase, hbucket, hkey⟩ :=
    htold.told subscription hmem hlive hpend
  refine ⟨id, cache.finish id request, { subscription with pending := false }, ?_, ?_, rfl⟩
  · simp only [MonitoringCache.step, hreq, hphase, Option.bind_eq_bind,
      Option.bind_some, Option.pure_def]
  · have hset : ((cache.setBucket request.bucket
        { cache.buckets request.bucket with
          inflight := (cache.buckets request.bucket).inflight.erase
            request.key }).buckets request.bucket).listeners.get? request.key =
        some subscription.set := by
      simp only [setBucket]
      rw [Function.update_self]
      dsimp only
      rw [hbucket, hkey]
      exact hlinked.set
    unfold MonitoringCache.finish MonitoringCache.notify
    dsimp only
    rw [hset]
    exact callSet_calls (cache.setBucket request.bucket
      { cache.buckets request.bucket with
        inflight := (cache.buckets request.bucket).inflight.erase request.key })
      hget hlinked.listener

theorem run_tellsChanges {actions : List (ReadModelAction V E)}
    {last : MonitoringCache V E}
    (hkeeps : StepsMeet step KeepsListeners initial actions)
    (hrun : runFrom step initial actions = some last) : TellsChanges last := by
  have htold : Told last := by
    apply (Reaches.of_stepsMeet hkeeps hrun).invariant (P := Told)
    · intro before action after hbefore hguard hstep
      exact hbefore.step hguard hstep
    · exact initial_told
  exact htold.tellsChanges

instance KeepsListeners.decidable (cache : MonitoringCache V E)
    (action : ReadModelAction V E) : Decidable (KeepsListeners cache action) := by
  cases action with
  | peek scope key options now =>
    unfold KeepsListeners Unexpired
    infer_instance
  | read scope key options now =>
    unfold KeepsListeners Unexpired EvictsUnused
    infer_instance
  | refresh scope key options =>
    unfold KeepsListeners EvictsUnused
    infer_instance
  | subscribe scope key listener =>
    unfold KeepsListeners EvictsUnused
    infer_instance
  | unsubscribe index =>
    unfold KeepsListeners RemovesOwn
    infer_instance
  | clearScope scope =>
    unfold KeepsListeners
    infer_instance
  | clearAll =>
    unfold KeepsListeners
    infer_instance
  | _ => exact .isTrue trivial

/-- A view subscribes, loads its value and is told of an invalidation. -/
def subscribedAndLoaded : List (ReadModelAction String String) :=
  [.subscribe "org-a" "nodes:list" 7,
    .read "org-a" "nodes:list" defaultCacheOptions 0, .startLoader 0,
    .settleLoader 0 (.ok (some "v1")), .write 0 5, .finish 0,
    .invalidate "org-a" none, .unsubscribe 0, .clearScope "org-a"]

theorem run_tellsChanges_subscribedAndLoaded :
    ∃ last, runFrom step initial subscribedAndLoaded = some last ∧
      TellsChanges last := by
  obtain ⟨last, hrun⟩ : ∃ last, runFrom step initial subscribedAndLoaded = some last :=
    Option.isSome_iff_exists.mp (by decide +kernel)
  exact ⟨last, hrun, run_tellsChanges (by decide +kernel) hrun⟩

/-- The scope of a view is cleared, and then read again by another one. -/
def clearedAndRead : List (ReadModelAction String String) :=
  [.subscribe "org-a" "nodes:list" 7, .clearScope "org-a",
    .read "org-a" "nodes:list" defaultCacheOptions 10, .startLoader 0,
    .settleLoader 0 (.ok (some "v1")), .write 0 15, .finish 0]

theorem clearedAndRead_untold :
    ∃ last, runFrom step initial clearedAndRead = some last ∧
      ¬ TellsChanges last := by
  obtain ⟨last, hrun, hlast⟩ : ∃ last, runFrom step initial clearedAndRead = some last ∧
      (last.subscriptions[0]?.any fun subscription =>
        !subscription.closed && subscription.pending) = true ∧
      last.nextRequest = 1 ∧
      (last.requests 0).map (·.phase) = some .finished := by
    have hall : (runFrom step initial clearedAndRead).any (fun last =>
        (last.subscriptions[0]?.any fun subscription =>
          !subscription.closed && subscription.pending) &&
        last.nextRequest = 1 &&
        (last.requests 0).map (·.phase) = some .finished) = true := by
      decide +kernel
    obtain ⟨last, hrun, hlast⟩ := (Option.any_eq_true _ _).mp hall
    simp only [Bool.and_eq_true, decide_eq_true_eq] at hlast
    exact ⟨last, hrun, hlast.1.1, hlast.1.2, hlast.2⟩
  obtain ⟨hlive, hnext, hphase⟩ := hlast
  have hfresh := (run_current (by decide +kernel) hrun).requests_fresh
  refine ⟨last, hrun, fun htells => ?_⟩
  obtain ⟨subscription, hget, hlive⟩ := (Option.any_eq_true _ _).mp hlive
  simp only [Bool.and_eq_true, Bool.not_eq_true'] at hlive
  obtain ⟨id, next, _, hstep, _⟩ := htells 0 subscription hget hlive.1 hlive.2
  obtain ⟨request, hreq, hstep⟩ := Option.bind_eq_some_iff.mp hstep
  have hid : id = 0 := by
    by_contra hid
    rw [hfresh id (by omega)] at hreq
    cases hreq
  rw [hid] at hreq
  rw [hreq, Option.map_some, Option.some.injEq] at hphase
  rw [hphase] at hstep
  cases hstep

end Operations

end MonitoringCache

end Nexolab
