import Nexolab.JavaScriptText
import Nexolab.OrderedDictionary
import Nexolab.TransitionSystem

/-!
# The monitoring read-model cache

The cache of the browser keeps a bucket of values, errors, running requests and
listeners for every scope.  A read joins the request of its key or starts one,
and the callbacks of a request write to the bucket it was started in.  Buckets,
requests and listener sets are objects with an identity, which outlive their
place in the map of scopes; each synchronous stretch of the code is one step.

What a listener has been told is kept beside its subscription: `pending` is set
when the value or the error reported for its scope and key changes, and cleared
when the listener is called.
-/

namespace Nexolab

structure MonitoringReadModelCacheOptions where
  (freshTtlMs staleTtlMs maxEntriesPerScope : Option ℤ)

def MonitoringReadModelCacheOptions.freshTtl (options : MonitoringReadModelCacheOptions) : ℤ :=
  max 0 (options.freshTtlMs.getD 30000)

def MonitoringReadModelCacheOptions.staleTtl (options : MonitoringReadModelCacheOptions) : ℤ :=
  max options.freshTtl (options.staleTtlMs.getD 300000)

def MonitoringReadModelCacheOptions.maxEntries (options : MonitoringReadModelCacheOptions) : ℤ :=
  max 1 (options.maxEntriesPerScope.getD 128)

def maxScopes : ℕ := 32

def normalizeName (name : String) : Option String :=
  let normalized := jsTrim name
  if normalized = "" then none else some normalized

inductive ReadModelFreshness where
  | missing
  | fresh
  | stale

/-- A stored value, `none` where the loader gave `null`, with the request which
loaded it. -/
structure ReadModelEntry (V : Type) where
  value : Option V
  (storedAt touchedAt : ℤ)
  producer : ℕ

structure ReadModelBucket (V E : Type) where
  values : Dictionary String (ReadModelEntry V)
  inflight : Dictionary String ℕ
  errors : Dictionary String E
  listeners : Dictionary String ℕ

inductive LoaderPhase (V E : Type) where
  | scheduled
  | running
  | loaded (value : Option V)
  | failed (error : E)
  | written
  | finished
  deriving DecidableEq

structure LoaderRequest (V E : Type) where
  bucket : ℕ
  key : String
  options : MonitoringReadModelCacheOptions
  phase : LoaderPhase V E

/-- A subscription: the listener in the set its `unsubscribe` refers to. -/
structure ReadModelSubscription where
  (scope key : String)
  (bucket set listener : ℕ)
  (closed pending : Bool)

/-- What the order of loaders and invalidations depends on. -/
inductive ReadModelEvent where
  | started (request : ℕ)
  | invalidated (scope : String) (keyPrefix : Option String)
  deriving DecidableEq

structure MonitoringCache (V E : Type) where
  scopes : Dictionary String ℕ
  buckets : ℕ → ReadModelBucket V E
  nextBucket : ℕ
  requests : ℕ → Option (LoaderRequest V E)
  nextRequest : ℕ
  listenerSets : ℕ → List ℕ
  nextSet : ℕ
  subscriptions : List ReadModelSubscription
  history : List ReadModelEvent

structure ReadModelSnapshot (V E : Type) where
  value : Option V
  freshness : ReadModelFreshness
  refreshing : Bool
  error : Option E
  storedAt : Option ℤ
  producer : Option ℕ

def ReadModelSnapshot.missing {V E : Type} (refreshing : Bool) (error : Option E) :
    ReadModelSnapshot V E :=
  ⟨none, .missing, refreshing, error, none, none⟩

/-- A read is answered with a stored value or with the promise of a request. -/
inductive ReadModelAnswer (V : Type) where
  | value (value : V) (producer : ℕ)
  | promise (request : ℕ)

def ReadModelAnswer.source {V : Type} : ReadModelAnswer V → ℕ
  | .value _ producer => producer
  | .promise request => request

namespace MonitoringCache

variable {V E : Type} [DecidableEq V] [DecidableEq E]

def emptyBucket : ReadModelBucket V E := ⟨[], [], [], []⟩

def initial : MonitoringCache V E :=
  ⟨[], fun _ => emptyBucket, 0, fun _ => none, 0, fun _ => [], 0, [], []⟩

def setBucket (cache : MonitoringCache V E) (id : ℕ)
    (bucket : ReadModelBucket V E) : MonitoringCache V E :=
  { cache with buckets := Function.update cache.buckets id bucket }

def setRequest (cache : MonitoringCache V E) (id : ℕ)
    (request : LoaderRequest V E) : MonitoringCache V E :=
  { cache with requests := Function.update cache.requests id (some request) }

def report (cache : MonitoringCache V E) (scope key : String) :
    Option V × Option E :=
  match cache.scopes.get? scope with
  | none => (none, none)
  | some id =>
    (((cache.buckets id).values.get? key).bind (·.value), (cache.buckets id).errors.get? key)

/-- The subscriptions for which the report is no longer the one before. -/
def mark (before after : MonitoringCache V E) : MonitoringCache V E :=
  { after with
    subscriptions := after.subscriptions.map fun subscription =>
      if before.report subscription.scope subscription.key ≠
          after.report subscription.scope subscription.key
      then { subscription with pending := true } else subscription }

def callSet (cache : MonitoringCache V E) (set : ℕ) : MonitoringCache V E :=
  { cache with
    subscriptions := cache.subscriptions.map fun subscription =>
      if subscription.set = set ∧ subscription.listener ∈ cache.listenerSets set
      then { subscription with pending := false } else subscription }

def notify (cache : MonitoringCache V E) (id : ℕ) (key : String) :
    MonitoringCache V E :=
  match (cache.buckets id).listeners.get? key with
  | none => cache
  | some set => cache.callSet set

def notifyAll (cache : MonitoringCache V E) (id : ℕ) : MonitoringCache V E :=
  (cache.buckets id).listeners.values.foldl callSet cache

def dropScope (cache : MonitoringCache V E) (scope : String) :
    MonitoringCache V E :=
  match cache.scopes.get? scope with
  | none => cache
  | some id =>
    let called := cache.notifyAll id
    called.mark { called with scopes := called.scopes.erase scope }

def trimScopes (cache : MonitoringCache V E) : MonitoringCache V E :=
  (cache.scopes.keys.take (cache.scopes.length - maxScopes)).foldl dropScope cache

/-- `bucket`: the bucket of a scope, which becomes the most recently used. -/
def openBucket (cache : MonitoringCache V E) (scope : String) :
    MonitoringCache V E × ℕ :=
  match cache.scopes.get? scope with
  | none =>
    let id := cache.nextBucket
    let created := { cache.setBucket id emptyBucket with
      scopes := cache.scopes.set scope id
      nextBucket := id + 1 }
    ((cache.mark created).trimScopes, id)
  | some id =>
    ({ cache with scopes := (cache.scopes.erase scope).set scope id }, id)

def deleteEntry (cache : MonitoringCache V E) (id : ℕ) (key : String) :
    MonitoringCache V E :=
  let bucket := cache.buckets id
  cache.mark (cache.setBucket id { bucket with
    values := bucket.values.erase key
    errors := bucket.errors.erase key })

/-- One key of `trimEntries` and of `invalidateMonitoringReadModel`. -/
def dropEntry (id : ℕ) (cache : MonitoringCache V E) (key : String) :
    MonitoringCache V E :=
  (cache.deleteEntry id key).notify id key

def oldestKeys (values : Dictionary String (ReadModelEntry V)) (maxEntries : ℤ) :
    List String :=
  ((values.mergeSort fun left right =>
    left.2.touchedAt ≤ right.2.touchedAt).take (values.length - maxEntries.toNat)).map Prod.fst

def trimEntries (cache : MonitoringCache V E) (id : ℕ) (maxEntries : ℤ) :
    MonitoringCache V E :=
  if ((cache.buckets id).values.length : ℤ) ≤ maxEntries then cache
  else (oldestKeys (cache.buckets id).values maxEntries).foldl (dropEntry id) cache

def clearError (cache : MonitoringCache V E) (id : ℕ) (key : String) :
    MonitoringCache V E :=
  let bucket := cache.buckets id
  (cache.mark (cache.setBucket id
    { bucket with errors := bucket.errors.erase key })).notify id key

def registered (cache : MonitoringCache V E) (id : ℕ) (key : String)
    (options : MonitoringReadModelCacheOptions) : MonitoringCache V E :=
  let bucket := cache.buckets id
  let request := cache.nextRequest
  { (cache.setBucket id { bucket with
        inflight := bucket.inflight.set key request }).setRequest request
        ⟨id, key, options, .scheduled⟩ with
    nextRequest := request + 1 }

/-- `revalidate` after the key was normalized: the request of a key is joined,
or a new one is registered. -/
def revalidate (cache : MonitoringCache V E) (id : ℕ) (key : String)
    (options : MonitoringReadModelCacheOptions) : MonitoringCache V E × ℕ :=
  match (cache.buckets id).inflight.get? key with
  | some request => (cache, request)
  | none =>
    let cleared := cache.clearError id key
    ((cleared.registered id key options).notify id key, cleared.nextRequest)

def writeValue (cache : MonitoringCache V E) (id : ℕ)
    (request : LoaderRequest V E) (value : Option V) (now : ℤ) :
    MonitoringCache V E :=
  let bucket := cache.buckets request.bucket
  let stored := cache.mark (cache.setBucket request.bucket { bucket with
    values := bucket.values.set request.key ⟨value, now, now, id⟩
    errors := bucket.errors.erase request.key })
  (stored.trimEntries request.bucket request.options.maxEntries).setRequest id
    { request with phase := .written }

def writeError (cache : MonitoringCache V E) (id : ℕ)
    (request : LoaderRequest V E) (error : E) : MonitoringCache V E :=
  let bucket := cache.buckets request.bucket
  (cache.mark (cache.setBucket request.bucket { bucket with
    errors := bucket.errors.set request.key error })).setRequest id
      { request with phase := .written }

def finish (cache : MonitoringCache V E) (id : ℕ)
    (request : LoaderRequest V E) : MonitoringCache V E :=
  let bucket := cache.buckets request.bucket
  let removed := cache.setBucket request.bucket { bucket with
    inflight := bucket.inflight.erase request.key }
  (removed.notify request.bucket request.key).setRequest id
    { request with phase := .finished }

/-! ## The calls -/

def peek (cache : MonitoringCache V E) (scope key : String)
    (options : MonitoringReadModelCacheOptions) (now : ℤ) :
    MonitoringCache V E × ReadModelSnapshot V E :=
  match cache.scopes.get? scope with
  | none => (cache, .missing false none)
  | some id =>
    let bucket := cache.buckets id
    let error := bucket.errors.get? key
    let refreshing := (bucket.inflight.get? key).isSome
    match bucket.values.get? key with
    | none => (cache, .missing refreshing error)
    | some stored =>
      let age := max 0 (now - stored.storedAt)
      if options.staleTtl < age then
        (cache.deleteEntry id key, .missing refreshing error)
      else
        (cache.setBucket id { bucket with
            values := bucket.values.set key { stored with touchedAt := now } },
          { value := stored.value
            freshness := if age ≤ options.freshTtl then .fresh else .stale
            refreshing
            error
            storedAt := some stored.storedAt
            producer := some stored.producer })

def refresh (cache : MonitoringCache V E) (scope key : String)
    (options : MonitoringReadModelCacheOptions) : MonitoringCache V E × ℕ :=
  let opened := cache.openBucket scope
  opened.1.revalidate opened.2 key options

def read (cache : MonitoringCache V E) (scope key : String)
    (options : MonitoringReadModelCacheOptions) (now : ℤ) :
    MonitoringCache V E × ReadModelAnswer V :=
  let (peeked, snapshot) := cache.peek scope key options now
  match snapshot.value, snapshot.producer, snapshot.freshness with
  | some value, some producer, .fresh => (peeked, .value value producer)
  | some value, some producer, .stale =>
    ((peeked.refresh scope key options).1, .value value producer)
  | _, _, _ =>
    let refreshed := peeked.refresh scope key options
    (refreshed.1, .promise refreshed.2)

def openSet (cache : MonitoringCache V E) (id : ℕ) (key : String) :
    MonitoringCache V E × ℕ :=
  let bucket := cache.buckets id
  match bucket.listeners.get? key with
  | some set => (cache, set)
  | none =>
    let set := cache.nextSet
    ({ cache.setBucket id
          { bucket with listeners := bucket.listeners.set key set } with
        listenerSets := Function.update cache.listenerSets set []
        nextSet := set + 1 }, set)

def subscribe (cache : MonitoringCache V E) (scope key : String)
    (listener : ℕ) : MonitoringCache V E :=
  let (opened, id) := cache.openBucket scope
  let (current, set) := opened.openSet id key
  { current with
    listenerSets := Function.update current.listenerSets set
      ((current.listenerSets set).insert listener)
    subscriptions := current.subscriptions ++ [⟨scope, key, id, set, listener, false, false⟩] }

def unsubscribe (cache : MonitoringCache V E) (index : ℕ) :
    Option (MonitoringCache V E) := do
  let subscription ← cache.subscriptions[index]?
  let remaining :=
    (cache.listenerSets subscription.set).erase subscription.listener
  let removed := { cache with
    listenerSets := Function.update cache.listenerSets subscription.set remaining
    subscriptions :=
      cache.subscriptions.set index { subscription with closed := true } }
  if remaining = [] then
    let bucket := removed.buckets subscription.bucket
    return removed.setBucket subscription.bucket { bucket with
      listeners := bucket.listeners.erase subscription.key }
  else return removed

/-- The key of an invalidation: every key, or those with a prefix. -/
def keyCovered (keyPrefix : Option String) (key : String) : Bool :=
  match keyPrefix with
  | none => true
  | some text => text.toList.isPrefixOf key.toList

def knownKeys (bucket : ReadModelBucket V E) : List String :=
  (bucket.values.keys ++ bucket.errors.keys ++ bucket.listeners.keys).eraseDups

def invalidate (cache : MonitoringCache V E) (scope : String)
    (keyPrefix : Option String) : MonitoringCache V E :=
  let noted := { cache with
    history := .invalidated scope keyPrefix :: cache.history }
  match noted.scopes.get? scope with
  | none => noted
  | some id =>
    ((knownKeys (noted.buckets id)).filter (keyCovered keyPrefix)).foldl (dropEntry id) noted

def clearAll (cache : MonitoringCache V E) : MonitoringCache V E :=
  let called := cache.scopes.values.foldl notifyAll cache
  called.mark { called with scopes := [] }

end MonitoringCache

/-- The calls of the module and the callbacks of its requests. -/
inductive ReadModelAction (V E : Type) where
  | peek (scope key : String) (options : MonitoringReadModelCacheOptions) (now : ℤ)
  | read (scope key : String) (options : MonitoringReadModelCacheOptions) (now : ℤ)
  | refresh (scope key : String) (options : MonitoringReadModelCacheOptions)
  | subscribe (scope key : String) (listener : ℕ)
  | unsubscribe (index : ℕ)
  | invalidate (scope : String) (keyPrefix : Option String)
  | clearScope (scope : String)
  | clearAll
  | startLoader (request : ℕ)
  | settleLoader (request : ℕ) (outcome : Except E (Option V))
  | write (request : ℕ) (now : ℤ)
  | finish (request : ℕ)

namespace MonitoringCache

variable {V E : Type} [DecidableEq V] [DecidableEq E]

/-- The callbacks of a request come in order; a call with a blank scope is
refused, and one with a blank key may only have opened its bucket. -/
def step (cache : MonitoringCache V E) :
    ReadModelAction V E → Option (MonitoringCache V E)
  | .peek scope key options now => do
    let scope ← normalizeName scope
    let key ← normalizeName key
    return (cache.peek scope key options now).1
  | .read scope key options now => do
    let scope ← normalizeName scope
    let key ← normalizeName key
    return (cache.read scope key options now).1
  | .refresh scope key options => do
    let scope ← normalizeName scope
    match normalizeName key with
    | none => return (cache.openBucket scope).1
    | some key => return (cache.refresh scope key options).1
  | .subscribe scope key listener => do
    let scope ← normalizeName scope
    match normalizeName key with
    | none => return (cache.openBucket scope).1
    | some key => return cache.subscribe scope key listener
  | .unsubscribe index => cache.unsubscribe index
  | .invalidate scope keyPrefix => do
    let scope ← normalizeName scope
    return cache.invalidate scope (keyPrefix.bind normalizeName)
  | .clearScope scope => do
    let scope ← normalizeName scope
    return cache.dropScope scope
  | .clearAll => some cache.clearAll
  | .startLoader id => do
    let request ← cache.requests id
    match request.phase with
    | .scheduled =>
      return { cache.setRequest id { request with phase := .running } with
        history := .started id :: cache.history }
    | _ => none
  | .settleLoader id outcome => do
    let request ← cache.requests id
    match request.phase, outcome with
    | .running, .ok value =>
      return cache.setRequest id { request with phase := .loaded value }
    | .running, .error error =>
      return cache.setRequest id { request with phase := .failed error }
    | _, _ => none
  | .write id now => do
    let request ← cache.requests id
    match request.phase with
    | .loaded value => return cache.writeValue id request value now
    | .failed error => return cache.writeError id request error
    | _ => none
  | .finish id => do
    let request ← cache.requests id
    match request.phase with
    | .written => return cache.finish id request
    | _ => none

end MonitoringCache

end Nexolab
