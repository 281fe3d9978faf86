import Nexolab.RequestCoordinator

/-!
# Every consumer settles once

`CoordinatorInvariant` relates the maps of the coordinator: a consumer waits in
the map of exactly one request until it is settled, a physical request which is
neither settled nor aborted is registered under its key, and the count is the
number of waiting consumers.  What it says of aborts needs that no call joins a
request whose abort is still to settle.
-/

namespace Nexolab

def InFlightRequest.live {K V E : Type} (request : InFlightRequest K V E) : Prop :=
  request.aborted = false ∧ ∀ outcome, request.phase ≠ .settled outcome

/-- The request was aborted, and its promise has not settled otherwise. -/
def InFlightRequest.abandoned {K V E : Type} (request : InFlightRequest K V E) :
    Bool :=
  request.aborted &&
    match request.phase with
    | .settled (.value _) => false
    | .settled (.failure _) => false
    | _ => true

namespace RequestCoordinator

variable {K V E : Type}

def waitingTokens (coordinator : RequestCoordinator K V E) : Finset ℕ :=
  (Finset.range coordinator.nextConsumer).filter fun token =>
    (coordinator.consumers token).any fun consumer => consumer.settlements.isEmpty

/-- What every call finds between the steps of a run. -/
structure CoordinatorInvariant (coordinator : RequestCoordinator K V E) : Prop where
  requests_fresh : ∀ id, coordinator.nextRequest ≤ id → coordinator.requests id = none
  consumers_fresh : ∀ token, coordinator.nextConsumer ≤ token → coordinator.consumers token = none
  entries_nodup : (coordinator.entries.map Prod.fst).Nodup
  entry_request : ∀ key id, (key, id) ∈ coordinator.entries →
    ∃ request, coordinator.requests id = some request ∧ request.key = key
  live_registered : ∀ id request, coordinator.requests id = some request →
    request.live → (request.key, id) ∈ coordinator.entries
  map_nodup : ∀ id request, coordinator.requests id = some request → request.consumers.Nodup
  map_waits : ∀ id request token, coordinator.requests id = some request →
    token ∈ request.consumers →
    ∃ consumer, coordinator.consumers token = some consumer ∧
      consumer.request = some id ∧ consumer.settlements = []
  waits_in_map : ∀ token consumer, coordinator.consumers token = some consumer →
    consumer.settlements = [] →
    ∃ id request, consumer.request = some id ∧
      coordinator.requests id = some request ∧ token ∈ request.consumers
  settled_once : ∀ token consumer, coordinator.consumers token = some consumer →
    consumer.settlements.length ≤ 1
  count : coordinator.consumerCount = coordinator.waitingTokens.card

structure AbortInvariant (coordinator : RequestCoordinator K V E) : Prop where
  abandoned_empty : ∀ id request, coordinator.requests id = some request →
    request.abandoned = true → request.consumers = []
  rejected_aborted : ∀ id request, coordinator.requests id = some request →
    request.phase = .settled .aborted → request.aborted = true
  abort_cause : ∀ token consumer, coordinator.consumers token = some consumer →
    consumer.settlements.any ConsumerSettlement.isAbort = true →
    consumer.signalAborted = true ∨ consumer.disposed = true

theorem initial_invariant :
    CoordinatorInvariant (initial : RequestCoordinator K V E) := by
  constructor <;> simp [initial, waitingTokens]

theorem initial_abortInvariant :
    AbortInvariant (initial : RequestCoordinator K V E) := by
  constructor <;> simp [initial]

/-! ## Releasing a consumer -/

variable {coordinator : RequestCoordinator K V E} {id token : ℕ}
  {request : InFlightRequest K V E} {consumer : RequestConsumer V E}

theorem mem_waitingTokens_iff {token : ℕ} :
    token ∈ coordinator.waitingTokens ↔ token < coordinator.nextConsumer ∧
      ∃ consumer, coordinator.consumers token = some consumer ∧ consumer.settlements = [] := by
  simp [waitingTokens, Option.any_eq_true]

theorem waitingTokens_release (hsettled : consumer.settlements ≠ []) :
    (coordinator.release id request token consumer).waitingTokens =
      coordinator.waitingTokens.erase token := by
  ext other
  rw [Finset.mem_erase, mem_waitingTokens_iff, mem_waitingTokens_iff]
  simp only [release, setConsumer, setRequest]
  by_cases hother : other = token
  · subst hother
    simp [hsettled]
  · rw [Function.update_of_ne hother]
    simp [hother]

theorem mem_waitingTokens (hinv : CoordinatorInvariant coordinator)
    (hreq : coordinator.requests id = some request)
    (hmem : token ∈ request.consumers) : token ∈ coordinator.waitingTokens := by
  obtain ⟨waiting, hwaiting, _, hnone⟩ :=
    hinv.map_waits id request token hreq hmem
  rw [mem_waitingTokens_iff]
  constructor
  · by_contra hfresh
    rw [hinv.consumers_fresh token (not_lt.mp hfresh)] at hwaiting
    cases hwaiting
  · exact ⟨waiting, hwaiting, hnone⟩

theorem CoordinatorInvariant.map_unique (hinv : CoordinatorInvariant coordinator) {other : ℕ}
    {otherRequest : InFlightRequest K V E} (hreq : coordinator.requests id = some request)
    (hmem : token ∈ request.consumers) (hother : coordinator.requests other = some otherRequest)
    (hotherMem : token ∈ otherRequest.consumers) : other = id := by
  obtain ⟨first, hfirst, hfirstId, _⟩ :=
    hinv.map_waits id request token hreq hmem
  obtain ⟨second, hsecond, hsecondId, _⟩ :=
    hinv.map_waits other otherRequest token hother hotherMem
  rw [hfirst] at hsecond
  cases hsecond
  rw [hfirstId, Option.some.injEq] at hsecondId
  exact hsecondId.symm

theorem CoordinatorInvariant.release (hinv : CoordinatorInvariant coordinator)
    (hreq : coordinator.requests id = some request)
    (hmem : token ∈ request.consumers) {settlement : ConsumerSettlement V E}
    (hsettled : consumer.settlements = [settlement]) :
    CoordinatorInvariant (coordinator.release id request token consumer) := by
  have hreqs : ∀ other found,
      (coordinator.release id request token consumer).requests other = some found →
      ∃ before, coordinator.requests other = some before ∧
        found = { before with consumers := before.consumers.erase token } := by
    intro other found hfound
    rcases update_eq_some hfound with ⟨rfl, rfl⟩ | ⟨hother, hfound⟩
    · exact ⟨request, hreq, rfl⟩
    · have hnotMem : token ∉ found.consumers := by
        intro hotherMem
        exact hother (hinv.map_unique hreq hmem hfound hotherMem)
      refine ⟨found, hfound, ?_⟩
      rw [List.erase_of_not_mem hnotMem]
  have hconsumers : ∀ other found,
      (coordinator.release id request token consumer).consumers other = some found →
      other = token ∧ found = consumer ∨
        other ≠ token ∧ coordinator.consumers other = some found := by
    exact fun other found hfound => update_eq_some hfound
  have hkept : ∀ other found, coordinator.requests other = some found →
      (coordinator.release id request token consumer).requests other =
        some { found with consumers := found.consumers.erase token } := by
    intro other found hfound
    simp only [RequestCoordinator.release, setConsumer, setRequest]
    by_cases hother : other = id
    · subst hother
      rw [hreq] at hfound
      cases hfound
      rw [Function.update_self]
    · rw [Function.update_of_ne hother, hfound]
      have hnotMem : token ∉ found.consumers := by
        intro hotherMem
        exact hother (hinv.map_unique hreq hmem hfound hotherMem)
      rw [List.erase_of_not_mem hnotMem]
  have hbound : token < coordinator.nextConsumer :=
    (mem_waitingTokens_iff.mp (mem_waitingTokens hinv hreq hmem)).1
  constructor
  case requests_fresh =>
    intro other hfresh
    cases hfound : (coordinator.release id request token consumer).requests other with
    | none => rfl
    | some found =>
      obtain ⟨before, hbefore, _⟩ := hreqs other found hfound
      rw [hinv.requests_fresh other hfresh] at hbefore
      cases hbefore
  case consumers_fresh =>
    intro other hfresh
    have hother : other ≠ token := by
      have hle : coordinator.nextConsumer ≤ other := hfresh
      omega
    simp only [RequestCoordinator.release, setConsumer]
    rw [Function.update_of_ne hother]
    exact hinv.consumers_fresh other hfresh
  case entries_nodup => exact hinv.entries_nodup
  case entry_request =>
    intro key other hent
    obtain ⟨found, hfound, hkey⟩ := hinv.entry_request key other hent
    exact ⟨_, hkept other found hfound, hkey⟩
  case live_registered =>
    intro other found hfound hlive
    obtain ⟨before, hbefore, rfl⟩ := hreqs other found hfound
    exact hinv.live_registered other before hbefore hlive
  case map_nodup =>
    intro other found hfound
    obtain ⟨before, hbefore, rfl⟩ := hreqs other found hfound
    exact (hinv.map_nodup other before hbefore).erase token
  case map_waits =>
    intro other found another hfound hin
    obtain ⟨before, hbefore, rfl⟩ := hreqs other found hfound
    have hbeforeNodup := hinv.map_nodup other before hbefore
    rw [hbeforeNodup.mem_erase_iff] at hin
    obtain ⟨waiting, hwaiting, hof, hnone⟩ :=
      hinv.map_waits other before another hbefore hin.2
    refine ⟨waiting, ?_, hof, hnone⟩
    simp only [RequestCoordinator.release, setConsumer]
    rw [Function.update_of_ne hin.1]
    exact hwaiting
  case waits_in_map =>
    intro other found hfound hnone
    rcases hconsumers other found hfound with ⟨_, rfl⟩ | ⟨hother, hbefore⟩
    · rw [hsettled] at hnone
      cases hnone
    · obtain ⟨owner, before, hof, howner, hin⟩ :=
        hinv.waits_in_map other found hbefore hnone
      refine ⟨owner, _, hof, hkept owner before howner, ?_⟩
      exact (List.mem_erase_of_ne hother).mpr hin
  case settled_once =>
    intro other found hfound
    rcases hconsumers other found hfound with ⟨_, rfl⟩ | ⟨_, hbefore⟩
    · rw [hsettled]
      rfl
    · exact hinv.settled_once other found hbefore
  case count =>
    rw [waitingTokens_release (by simp [hsettled]),
      Finset.card_erase_of_mem (mem_waitingTokens hinv hreq hmem),
      ← hinv.count]
    rfl

variable {changed : InFlightRequest K V E}

theorem CoordinatorInvariant.setRequest (hinv : CoordinatorInvariant coordinator)
    (hreq : coordinator.requests id = some request) (hkey : changed.key = request.key)
    (hconsumers : changed.consumers = request.consumers) (hlive : changed.live → request.live) :
    CoordinatorInvariant (coordinator.setRequest id changed) := by
  have hreqs : ∀ other found, (coordinator.setRequest id changed).requests other = some found →
      ∃ before, coordinator.requests other = some before ∧
        found.key = before.key ∧ found.consumers = before.consumers ∧
        (found.live → before.live) := by
    intro other found hfound
    rcases update_eq_some hfound with ⟨rfl, rfl⟩ | ⟨_, hfound⟩
    · exact ⟨request, hreq, hkey, hconsumers, hlive⟩
    · exact ⟨found, hfound, rfl, rfl, fun h => h⟩
  have hkept : ∀ other found, coordinator.requests other = some found →
      ∃ after, (coordinator.setRequest id changed).requests other = some after ∧
        after.key = found.key ∧ after.consumers = found.consumers := by
    intro other found hfound
    simp only [RequestCoordinator.setRequest]
    by_cases hother : other = id
    · subst hother
      rw [hreq] at hfound
      cases hfound
      exact ⟨changed, Function.update_self .., hkey, hconsumers⟩
    · rw [Function.update_of_ne hother]
      exact ⟨found, hfound, rfl, rfl⟩
  constructor
  case requests_fresh =>
    intro other hfresh
    cases hfound : (coordinator.setRequest id changed).requests other with
    | none => rfl
    | some found =>
      obtain ⟨before, hbefore, _⟩ := hreqs other found hfound
      rw [hinv.requests_fresh other hfresh] at hbefore
      cases hbefore
  case consumers_fresh => exact hinv.consumers_fresh
  case entries_nodup => exact hinv.entries_nodup
  case entry_request =>
    intro key other hent
    obtain ⟨found, hfound, hfoundKey⟩ := hinv.entry_request key other hent
    obtain ⟨after, hafter, hafterKey, _⟩ := hkept other found hfound
    exact ⟨after, hafter, hafterKey.trans hfoundKey⟩
  case live_registered =>
    intro other found hfound hfoundLive
    obtain ⟨before, hbefore, hbeforeKey, _, hbeforeLive⟩ :=
      hreqs other found hfound
    rw [hbeforeKey]
    exact hinv.live_registered other before hbefore (hbeforeLive hfoundLive)
  case map_nodup =>
    intro other found hfound
    obtain ⟨before, hbefore, _, hsame, _⟩ := hreqs other found hfound
    rw [hsame]
    exact hinv.map_nodup other before hbefore
  case map_waits =>
    intro other found another hfound hin
    obtain ⟨before, hbefore, _, hsame, _⟩ := hreqs other found hfound
    rw [hsame] at hin
    exact hinv.map_waits other before another hbefore hin
  case waits_in_map =>
    intro other found hfound hnone
    obtain ⟨owner, before, hof, howner, hin⟩ :=
      hinv.waits_in_map other found hfound hnone
    obtain ⟨after, hafter, _, hsame⟩ := hkept owner before howner
    exact ⟨owner, after, hof, hafter, by rw [hsame]; exact hin⟩
  case settled_once => exact hinv.settled_once
  case count => exact hinv.count

theorem CoordinatorInvariant.abortController (hinv : CoordinatorInvariant coordinator) (id : ℕ) :
    CoordinatorInvariant (coordinator.abortController id) := by
  unfold RequestCoordinator.abortController
  split
  next => exact hinv
  next request hreq =>
    refine hinv.setRequest hreq ?_ ?_ ?_
    · rfl
    · rfl
    · intro hlive
      cases hlive.1

/-! ## New entries and new consumers -/

theorem CoordinatorInvariant.rejectAborted (hinv : CoordinatorInvariant coordinator) :
    CoordinatorInvariant coordinator.rejectAborted := by
  have hconsumers : ∀ token found, coordinator.rejectAborted.consumers token = some found →
      token = coordinator.nextConsumer ∧ found = ⟨none, true, false, [.abortedError]⟩ ∨
        coordinator.consumers token = some found := by
    intro token found hfound
    exact (update_eq_some hfound).imp_right And.right
  have hkept : ∀ token found, coordinator.consumers token = some found →
      coordinator.rejectAborted.consumers token = some found := by
    intro token found hfound
    simp only [RequestCoordinator.rejectAborted, setConsumer]
    have hnew : token ≠ coordinator.nextConsumer := by
      intro hnew
      rw [hinv.consumers_fresh token hnew.ge] at hfound
      cases hfound
    rw [Function.update_of_ne hnew]
    exact hfound
  refine { hinv with
    consumers_fresh := ?consumers_fresh, map_waits := ?map_waits,
    waits_in_map := ?waits_in_map, settled_once := ?settled_once, count := ?count }
  case consumers_fresh =>
    intro token hfresh
    have hle : coordinator.nextConsumer + 1 ≤ token := hfresh
    cases hfound : coordinator.rejectAborted.consumers token with
    | none => rfl
    | some found =>
      rcases hconsumers token found hfound with ⟨hnew, _⟩ | hbefore
      · omega
      · rw [hinv.consumers_fresh token (by omega)] at hbefore
        cases hbefore
  case map_waits =>
    intro other found token hfound hin
    obtain ⟨waiting, hwaiting, hof, hnone⟩ :=
      hinv.map_waits other found token hfound hin
    exact ⟨waiting, hkept token waiting hwaiting, hof, hnone⟩
  case waits_in_map =>
    intro token found hfound hnone
    rcases hconsumers token found hfound with ⟨_, rfl⟩ | hbefore
    · cases hnone
    · exact hinv.waits_in_map token found hbefore hnone
  case settled_once =>
    intro token found hfound
    rcases hconsumers token found hfound with ⟨_, rfl⟩ | hbefore
    · rfl
    · exact hinv.settled_once token found hbefore
  case count =>
    refine hinv.count.trans ?_
    congr 1
    ext token
    rw [mem_waitingTokens_iff, mem_waitingTokens_iff]
    constructor
    · intro hwaits
      obtain ⟨hbound, found, hfound, hnone⟩ := hwaits
      exact ⟨Nat.lt_succ_of_lt hbound, found, hkept token found hfound, hnone⟩
    · intro hwaits
      obtain ⟨_, found, hfound, hnone⟩ := hwaits
      rcases hconsumers token found hfound with ⟨_, rfl⟩ | hbefore
      · cases hnone
      · refine ⟨?_, found, hbefore, hnone⟩
        by_contra hfresh
        rw [hinv.consumers_fresh token (not_lt.mp hfresh)] at hbefore
        cases hbefore

variable {next : RequestCoordinator K V E}

theorem CoordinatorInvariant.join (hinv : CoordinatorInvariant coordinator)
    (hjoin : coordinator.join id = some next) : CoordinatorInvariant next := by
  simp only [RequestCoordinator.join, Option.bind_eq_bind, Option.bind_eq_some_iff,
    Option.pure_def, Option.some.injEq] at hjoin
  obtain ⟨request, hreq, hnext⟩ := hjoin
  subst hnext
  have hnewToken : ∀ other found, coordinator.requests other = some found →
      coordinator.nextConsumer ∉ found.consumers := by
    intro other found hfound hin
    obtain ⟨waiting, hwaiting, _⟩ :=
      hinv.map_waits other found _ hfound hin
    rw [hinv.consumers_fresh _ le_rfl] at hwaiting
    cases hwaiting
  have hreqs : ∀ other found, (coordinator.joined id request).requests other = some found →
      ∃ before, coordinator.requests other = some before ∧
        found.key = before.key ∧ (found.live → before.live) ∧
        (found.consumers = before.consumers ∨ other = id ∧
          found.consumers = before.consumers ++ [coordinator.nextConsumer]) := by
    intro other found hfound
    rcases update_eq_some hfound with ⟨rfl, rfl⟩ | ⟨_, hfound⟩
    · exact ⟨request, hreq, rfl, fun h => h, .inr ⟨rfl, rfl⟩⟩
    · exact ⟨found, hfound, rfl, fun h => h, .inl rfl⟩
  have hkept : ∀ other found, coordinator.requests other = some found →
      ∃ after, (coordinator.joined id request).requests other = some after ∧ after.key = found.key ∧
        ∀ token ∈ found.consumers, token ∈ after.consumers := by
    intro other found hfound
    simp only [joined, setConsumer, RequestCoordinator.setRequest]
    by_cases hother : other = id
    · subst hother
      rw [hreq] at hfound
      cases hfound
      exact ⟨_, Function.update_self .., rfl, fun token hin => List.mem_append_left _ hin⟩
    · rw [Function.update_of_ne hother]
      exact ⟨found, hfound, rfl, fun token hin => hin⟩
  have hnew : (coordinator.joined id request).consumers coordinator.nextConsumer =
      some ⟨some id, false, false, []⟩ := by
    simp only [joined, setConsumer]
    exact Function.update_self ..
  have hold : ∀ token, token ≠ coordinator.nextConsumer →
      (coordinator.joined id request).consumers token = coordinator.consumers token := by
    intro token htoken
    simp only [joined, setConsumer]
    exact Function.update_of_ne htoken ..
  have hfreshToken : ∀ token found, coordinator.consumers token = some found →
      token ≠ coordinator.nextConsumer := by
    intro token found hfound htoken
    rw [hinv.consumers_fresh token htoken.ge] at hfound
    cases hfound
  constructor
  case requests_fresh =>
    intro other hfresh
    cases hfound : (coordinator.joined id request).requests other with
    | none => rfl
    | some found =>
      obtain ⟨before, hbefore, _⟩ := hreqs other found hfound
      rw [hinv.requests_fresh other hfresh] at hbefore
      cases hbefore
  case consumers_fresh =>
    intro token hfresh
    have hle : coordinator.nextConsumer + 1 ≤ token := hfresh
    rw [hold token (by omega)]
    exact hinv.consumers_fresh token (by omega)
  case entries_nodup => exact hinv.entries_nodup
  case entry_request =>
    intro key other hent
    obtain ⟨found, hfound, hfoundKey⟩ := hinv.entry_request key other hent
    obtain ⟨after, hafter, hafterKey, _⟩ := hkept other found hfound
    exact ⟨after, hafter, hafterKey.trans hfoundKey⟩
  case live_registered =>
    intro other found hfound hlive
    obtain ⟨before, hbefore, hkey, hbeforeLive, _⟩ := hreqs other found hfound
    rw [hkey]
    exact hinv.live_registered other before hbefore (hbeforeLive hlive)
  case map_nodup =>
    intro other found hfound
    obtain ⟨before, hbefore, _, _, hmap⟩ := hreqs other found hfound
    have hnodup := hinv.map_nodup other before hbefore
    rcases hmap with hmap | ⟨_, hmap⟩
    · rw [hmap]
      exact hnodup
    · rw [hmap, List.nodup_append]
      refine ⟨hnodup, List.nodup_singleton _, ?_⟩
      intro token hin another hanother
      rw [List.mem_singleton] at hanother
      subst hanother
      intro hsame
      subst hsame
      exact hnewToken other before hbefore hin
  case map_waits =>
    intro other found token hfound hin
    obtain ⟨before, hbefore, _, _, hmap⟩ := hreqs other found hfound
    have holdToken : token ∈ before.consumers →
        ∃ consumer, (coordinator.joined id request).consumers token =
          some consumer ∧ consumer.request = some other ∧
          consumer.settlements = [] := by
      intro hbeforeIn
      obtain ⟨waiting, hwaiting, hof, hnone⟩ :=
        hinv.map_waits other before token hbefore hbeforeIn
      refine ⟨waiting, ?_, hof, hnone⟩
      rw [hold token (hfreshToken token waiting hwaiting)]
      exact hwaiting
    rcases hmap with hmap | ⟨hsame, hmap⟩
    · rw [hmap] at hin
      exact holdToken hin
    · rw [hmap, List.mem_append, List.mem_singleton] at hin
      rcases hin with hin | hin
      · exact holdToken hin
      · subst hin
        subst hsame
        exact ⟨_, hnew, rfl, rfl⟩
  case waits_in_map =>
    intro token found hfound hnone
    by_cases htoken : token = coordinator.nextConsumer
    · subst htoken
      rw [hnew] at hfound
      cases hfound
      refine ⟨id, { request with
        consumers := request.consumers ++ [coordinator.nextConsumer] }, rfl, ?_, ?_⟩
      · simp only [joined, setConsumer, RequestCoordinator.setRequest]
        exact Function.update_self ..
      · exact List.mem_append_right _ (List.mem_singleton_self _)
    · rw [hold token htoken] at hfound
      obtain ⟨owner, before, hof, howner, hin⟩ :=
        hinv.waits_in_map token found hfound hnone
      obtain ⟨after, hafter, _, hsub⟩ := hkept owner before howner
      exact ⟨owner, after, hof, hafter, hsub token hin⟩
  case settled_once =>
    intro token found hfound
    by_cases htoken : token = coordinator.nextConsumer
    · subst htoken
      rw [hnew] at hfound
      cases hfound
      exact Nat.zero_le 1
    · rw [hold token htoken] at hfound
      exact hinv.settled_once token found hfound
  case count =>
    have hwaiting : (coordinator.joined id request).waitingTokens =
        insert coordinator.nextConsumer coordinator.waitingTokens := by
      ext token
      rw [Finset.mem_insert, mem_waitingTokens_iff, mem_waitingTokens_iff]
      by_cases htoken : token = coordinator.nextConsumer
      · subst htoken
        constructor
        · intro _
          exact .inl rfl
        · intro _
          exact ⟨Nat.lt_succ_self _, _, hnew, rfl⟩
      · rw [hold token htoken]
        have hbound : token < (coordinator.joined id request).nextConsumer ↔
            token < coordinator.nextConsumer := by
          change token < coordinator.nextConsumer + 1 ↔ _
          omega
        rw [hbound]
        simp [htoken]
    have hnotMem : coordinator.nextConsumer ∉ coordinator.waitingTokens := by
      rw [mem_waitingTokens_iff]
      simp
    rw [hwaiting, Finset.card_insert_of_notMem hnotMem, ← hinv.count]
    rfl

theorem CoordinatorInvariant.openEntry [DecidableEq K]
    (hinv : CoordinatorInvariant coordinator) (key : K) :
    CoordinatorInvariant (coordinator.openEntry key).1 := by
  unfold RequestCoordinator.openEntry
  split
  next => exact hinv
  next hmissing =>
    have hnotKey : key ∉ coordinator.entries.map Prod.fst := by
      intro hin
      obtain ⟨entry, hent, hkey⟩ := List.mem_map.mp hin
      unfold entry? at hmissing
      rw [List.lookup_eq_none_iff] at hmissing
      have hdiffers := hmissing entry hent
      simp [hkey] at hdiffers
    have hfreshId : ∀ other found, coordinator.requests other = some found →
        other ≠ coordinator.nextRequest := by
      intro other found hfound hother
      rw [hinv.requests_fresh other hother.ge] at hfound
      cases hfound
    have hreqs : ∀ other found, Function.update coordinator.requests coordinator.nextRequest
          (some ⟨key, .scheduled, false, []⟩) other = some found →
        other = coordinator.nextRequest ∧ found = ⟨key, .scheduled, false, []⟩ ∨
          coordinator.requests other = some found := by
      intro other found hfound
      exact (update_eq_some hfound).imp_right And.right
    have hkept : ∀ other found, coordinator.requests other = some found →
        Function.update coordinator.requests coordinator.nextRequest
          (some ⟨key, .scheduled, false, []⟩) other = some found := by
      intro other found hfound
      rw [Function.update_of_ne (hfreshId other found hfound)]
      exact hfound
    constructor
    case requests_fresh =>
      intro other hfresh
      have hle : coordinator.nextRequest + 1 ≤ other := hfresh
      simp only [RequestCoordinator.setRequest]
      rw [Function.update_of_ne (by omega)]
      exact hinv.requests_fresh other (by omega)
    case consumers_fresh => exact hinv.consumers_fresh
    case entries_nodup =>
      simp only [List.map_append, List.map_cons, List.map_nil]
      rw [List.nodup_append]
      refine ⟨hinv.entries_nodup, List.nodup_singleton _, ?_⟩
      intro other hother another hanother hsame
      rw [List.mem_singleton] at hanother
      subst hanother
      subst hsame
      exact hnotKey hother
    case entry_request =>
      intro otherKey other hent
      rw [List.mem_append, List.mem_singleton] at hent
      rcases hent with hent | hent
      · obtain ⟨found, hfound, hfoundKey⟩ :=
          hinv.entry_request otherKey other hent
        exact ⟨found, hkept other found hfound, hfoundKey⟩
      · cases hent
        exact ⟨_, Function.update_self .., rfl⟩
    case live_registered =>
      intro other found hfound hlive
      rcases hreqs other found hfound with ⟨rfl, rfl⟩ | hbefore
      · exact List.mem_append_right _ (List.mem_singleton_self _)
      · exact List.mem_append_left _ (hinv.live_registered other found hbefore hlive)
    case map_nodup =>
      intro other found hfound
      rcases hreqs other found hfound with ⟨_, rfl⟩ | hbefore
      · exact List.nodup_nil
      · exact hinv.map_nodup other found hbefore
    case map_waits =>
      intro other found token hfound hin
      rcases hreqs other found hfound with ⟨_, rfl⟩ | hbefore
      · cases hin
      · exact hinv.map_waits other found token hbefore hin
    case waits_in_map =>
      intro token found hfound hnone
      obtain ⟨owner, before, hof, howner, hin⟩ :=
        hinv.waits_in_map token found hfound hnone
      exact ⟨owner, before, hof, hkept owner before howner, hin⟩
    case settled_once => exact hinv.settled_once
    case count => exact hinv.count

theorem CoordinatorInvariant.removeSettledEntry [DecidableEq K]
    (hinv : CoordinatorInvariant coordinator) (hreq : coordinator.requests id = some request)
    {outcome : PhysicalOutcome V E} (hsettled : request.phase = .settled outcome) :
    CoordinatorInvariant (coordinator.removeSettledEntry id request.key) := by
  unfold RequestCoordinator.removeSettledEntry
  split_ifs with hreg
  · have hsub : (coordinator.entries.filter fun entry =>
        entry.1 ≠ request.key).Sublist coordinator.entries :=
      List.filter_sublist
    refine { hinv with
      entries_nodup := ?entries_nodup, entry_request := ?entry_request,
      live_registered := ?live_registered }
    case entries_nodup =>
      exact hinv.entries_nodup.sublist (hsub.map Prod.fst)
    case entry_request =>
      intro key other hent
      exact hinv.entry_request key other (hsub.subset hent)
    case live_registered =>
      intro other found hfound hlive
      have hent := hinv.live_registered other found hfound hlive
      refine List.mem_filter.mpr ⟨hent, ?_⟩
      rw [decide_eq_true_eq]
      intro hkey
      -- the entry of a key is unique, and this one is settled
      have hid : other = id := by
        unfold entry? at hreg
        obtain ⟨before, after, hsplit, _⟩ :=
          List.lookup_eq_some_iff.mp hreg
        have hin : (request.key, id) ∈ coordinator.entries := by
          rw [hsplit]
          simp
        dsimp only at hkey
        rw [hkey] at hent
        exact congrArg Prod.snd (List.inj_on_of_nodup_map hinv.entries_nodup hent hin rfl)
      subst hid
      rw [hreq] at hfound
      cases hfound
      exact hlive.2 outcome hsettled
  · exact hinv

theorem abortConsumer_eq (hreq : coordinator.requests id = some request)
    (hconsumer : coordinator.consumers token = some consumer)
    (hmem : token ∈ request.consumers) (disposes : Bool) :
    coordinator.abortConsumer id token disposes =
      let released := coordinator.release id request token
        { consumer with
          signalAborted := consumer.signalAborted || !disposes
          disposed := consumer.disposed || disposes
          settlements := consumer.settlements ++ [.abortedError] }
      if request.consumers.erase token = [] then released.abortController id
      else released := by
  unfold abortConsumer
  rw [hreq, hconsumer]
  dsimp only
  rw [if_pos hmem]

theorem abortConsumer_absent
    (habsent : ∀ request, coordinator.requests id = some request →
      token ∉ request.consumers) (disposes : Bool) :
    coordinator.abortConsumer id token disposes = coordinator := by
  unfold abortConsumer
  split
  next request consumer hreq hconsumer =>
    rw [if_neg (habsent request hreq)]
  next => rfl

theorem CoordinatorInvariant.abortConsumer (hinv : CoordinatorInvariant coordinator) (id token : ℕ)
    (disposes : Bool) :
    CoordinatorInvariant (coordinator.abortConsumer id token disposes) := by
  by_cases hwaiting : ∃ request, coordinator.requests id = some request ∧ token ∈ request.consumers
  · obtain ⟨request, hreq, hmem⟩ := hwaiting
    obtain ⟨consumer, hconsumer, _, hnone⟩ :=
      hinv.map_waits id request token hreq hmem
    rw [abortConsumer_eq hreq hconsumer hmem]
    dsimp only
    have hrel : CoordinatorInvariant (coordinator.release id request token
        { consumer with
          signalAborted := consumer.signalAborted || !disposes
          disposed := consumer.disposed || disposes
          settlements := consumer.settlements ++ [.abortedError] }) := by
      apply hinv.release hreq hmem
      rw [hnone]
      rfl
    split_ifs
    · exact hrel.abortController id
    · exact hrel
  · rw [abortConsumer_absent (fun request hreq hmem =>
      hwaiting ⟨request, hreq, hmem⟩)]
    exact hinv

theorem AbortInvariant.setRequest (haborts : AbortInvariant coordinator)
    (hempty : changed.abandoned = true → changed.consumers = [])
    (hrejected : changed.phase = .settled .aborted → changed.aborted = true) :
    AbortInvariant (coordinator.setRequest id changed) := by
  constructor
  case abandoned_empty =>
    intro other found hfound habandoned
    rcases update_eq_some hfound with ⟨rfl, rfl⟩ | ⟨_, hfound⟩
    · exact hempty habandoned
    · exact haborts.abandoned_empty other found hfound habandoned
  case rejected_aborted =>
    intro other found hfound hphase
    rcases update_eq_some hfound with ⟨rfl, rfl⟩ | ⟨_, hfound⟩
    · exact hrejected hphase
    · exact haborts.rejected_aborted other found hfound hphase
  case abort_cause => exact haborts.abort_cause

theorem AbortInvariant.setConsumer (haborts : AbortInvariant coordinator)
    (hcause : consumer.settlements.any ConsumerSettlement.isAbort = true →
      consumer.signalAborted = true ∨ consumer.disposed = true) :
    AbortInvariant (coordinator.setConsumer token consumer) := by
  refine { haborts with abort_cause := ?abort_cause }
  case abort_cause =>
    intro other found hfound hany
    rcases update_eq_some hfound with ⟨rfl, rfl⟩ | ⟨_, hfound⟩
    · exact hcause hany
    · exact haborts.abort_cause other found hfound hany

theorem AbortInvariant.of_maps (haborts : AbortInvariant coordinator)
    (hreqs : next.requests = coordinator.requests)
    (hconsumers : next.consumers = coordinator.consumers) : AbortInvariant next := by
  constructor
  case abandoned_empty =>
    rw [hreqs]
    exact haborts.abandoned_empty
  case rejected_aborted =>
    rw [hreqs]
    exact haborts.rejected_aborted
  case abort_cause =>
    rw [hconsumers]
    exact haborts.abort_cause

theorem AbortInvariant.release (haborts : AbortInvariant coordinator)
    (hreq : coordinator.requests id = some request)
    (hcause : consumer.settlements.any ConsumerSettlement.isAbort = true →
      consumer.signalAborted = true ∨ consumer.disposed = true) :
    AbortInvariant (coordinator.release id request token consumer) := by
  have hchanged : AbortInvariant (coordinator.setRequest id
      { request with consumers := request.consumers.erase token }) := by
    apply haborts.setRequest
    · intro habandoned
      have hempty := haborts.abandoned_empty id request hreq habandoned
      dsimp only
      rw [hempty]
      rfl
    · exact haborts.rejected_aborted id request hreq
  exact (hchanged.setConsumer hcause).of_maps rfl rfl

theorem AbortInvariant.abortController (haborts : AbortInvariant coordinator)
    (hempty : ∀ request, coordinator.requests id = some request →
      request.consumers = []) :
    AbortInvariant (coordinator.abortController id) := by
  unfold RequestCoordinator.abortController
  split
  next => exact haborts
  next request hreq =>
    exact haborts.setRequest (fun _ => hempty request hreq) (fun _ => rfl)

theorem release_request :
    (coordinator.release id request token consumer).requests id =
      some { request with consumers := request.consumers.erase token } := by
  simp only [release, RequestCoordinator.setConsumer, RequestCoordinator.setRequest]
  exact Function.update_self ..

theorem AbortInvariant.abortConsumer (haborts : AbortInvariant coordinator)
    (hinv : CoordinatorInvariant coordinator) (id token : ℕ) (disposes : Bool) :
    AbortInvariant (coordinator.abortConsumer id token disposes) := by
  by_cases hwaiting : ∃ request, coordinator.requests id = some request ∧ token ∈ request.consumers
  · obtain ⟨request, hreq, hmem⟩ := hwaiting
    obtain ⟨consumer, hconsumer, _, hnone⟩ :=
      hinv.map_waits id request token hreq hmem
    rw [abortConsumer_eq hreq hconsumer hmem]
    dsimp only
    have hrel : AbortInvariant (coordinator.release id request token
        { consumer with
          signalAborted := consumer.signalAborted || !disposes
          disposed := consumer.disposed || disposes
          settlements := consumer.settlements ++ [.abortedError] }) := by
      apply haborts.release hreq
      intro _
      cases disposes with
      | true => exact .inr (Bool.or_true _)
      | false => exact .inl (Bool.or_true _)
    split_ifs with hlast
    · apply hrel.abortController
      intro found hfound
      rw [release_request] at hfound
      cases hfound
      exact hlast
    · exact hrel
  · rw [abortConsumer_absent (fun request hreq hmem =>
      hwaiting ⟨request, hreq, hmem⟩)]
    exact haborts

/-- Aborts never take an abort back, and leave the registered entries. -/
structure AbortsMore (before after : RequestCoordinator K V E) : Prop where
  entries : after.entries = before.entries
  aborted : ∀ id request, before.requests id = some request →
    ∃ later, after.requests id = some later ∧ (request.aborted = true → later.aborted = true)

theorem AbortsMore.refl (coordinator : RequestCoordinator K V E) :
    AbortsMore coordinator coordinator :=
  ⟨rfl, fun _ request hreq => ⟨request, hreq, fun h => h⟩⟩

theorem AbortsMore.trans {first second third : RequestCoordinator K V E}
    (hfirst : AbortsMore first second) (hsecond : AbortsMore second third) :
    AbortsMore first third := by
  constructor
  · exact hsecond.entries.trans hfirst.entries
  · intro id request hreq
    obtain ⟨middle, hmiddle, hkeeps⟩ := hfirst.aborted id request hreq
    obtain ⟨last, hlast, hkeepsLast⟩ := hsecond.aborted id middle hmiddle
    exact ⟨last, hlast, fun h => hkeepsLast (hkeeps h)⟩

theorem AbortsMore.setRequest (hreq : coordinator.requests id = some request)
    (haborted : request.aborted = true → changed.aborted = true) :
    AbortsMore coordinator (coordinator.setRequest id changed) := by
  refine ⟨rfl, fun other found hfound => ?_⟩
  simp only [RequestCoordinator.setRequest]
  by_cases hother : other = id
  · subst hother
    rw [hreq] at hfound
    cases hfound
    exact ⟨changed, Function.update_self .., haborted⟩
  · rw [Function.update_of_ne hother]
    exact ⟨found, hfound, fun h => h⟩

theorem abortController_abortsMore (coordinator : RequestCoordinator K V E)
    (id : ℕ) : AbortsMore coordinator (coordinator.abortController id) := by
  unfold abortController
  split
  next => exact .refl _
  next request hreq => exact .setRequest hreq (fun _ => rfl)

theorem release_abortsMore (hreq : coordinator.requests id = some request) :
    AbortsMore coordinator (coordinator.release id request token consumer) := by
  have hset : AbortsMore coordinator (coordinator.setRequest id
      { request with consumers := request.consumers.erase token }) :=
    .setRequest hreq (fun h => h)
  exact ⟨rfl, hset.aborted⟩

theorem abortConsumer_abortsMore (coordinator : RequestCoordinator K V E)
    (id token : ℕ) (disposes : Bool) :
    AbortsMore coordinator (coordinator.abortConsumer id token disposes) := by
  unfold abortConsumer
  split
  next request consumer hreq hconsumer =>
    dsimp only
    split_ifs
    · exact (release_abortsMore hreq).trans (abortController_abortsMore _ _)
    · exact release_abortsMore hreq
    · exact .refl _
  next => exact .refl _

theorem abortTokens_spec (id : ℕ) (tokens : List ℕ) (hinv : CoordinatorInvariant coordinator)
    (haborts : AbortInvariant coordinator)
    (hreq : ∃ request, coordinator.requests id = some request ∧
      request.consumers = tokens) :
    let last := tokens.foldl (fun current token => current.abortConsumer id token true) coordinator
    CoordinatorInvariant last ∧ AbortInvariant last ∧ AbortsMore coordinator last ∧
      ∃ request, last.requests id = some request ∧ request.consumers = [] := by
  induction tokens generalizing coordinator with
  | nil => exact ⟨hinv, haborts, .refl _, hreq⟩
  | cons token rest ih =>
    obtain ⟨request, hfound, hconsumers⟩ := hreq
    have hmem : token ∈ request.consumers := by
      rw [hconsumers]
      exact List.mem_cons_self
    obtain ⟨consumer, hconsumer, _⟩ :=
      hinv.map_waits id request token hfound hmem
    have hrest : ∃ after, (coordinator.abortConsumer id token true).requests id = some after ∧
          after.consumers = rest := by
      rw [abortConsumer_eq hfound hconsumer hmem]
      dsimp only
      have herase : request.consumers.erase token = rest := by
        rw [hconsumers, List.erase_cons_head]
      split_ifs with hlast
      · unfold abortController
        rw [release_request]
        refine ⟨_, Function.update_self .., ?_⟩
        exact herase
      · exact ⟨_, release_request, herase⟩
    obtain ⟨hlast, hlastAborts, hmore, hempty⟩ :=
      ih (hinv.abortConsumer id token true) (haborts.abortConsumer hinv id token true) hrest
    exact ⟨hlast, hlastAborts,
      (abortConsumer_abortsMore coordinator id token true).trans hmore, hempty⟩

theorem abortEntry_spec (id : ℕ) (hinv : CoordinatorInvariant coordinator)
    (haborts : AbortInvariant coordinator) :
    CoordinatorInvariant (coordinator.abortEntry id) ∧ AbortInvariant (coordinator.abortEntry id) ∧
      AbortsMore coordinator (coordinator.abortEntry id) ∧
      ∀ request, coordinator.requests id = some request →
        ∃ later, (coordinator.abortEntry id).requests id = some later ∧ later.aborted = true := by
  unfold abortEntry
  split
  next hnone =>
    refine ⟨hinv, haborts, .refl _, ?_⟩
    intro request hreq
    rw [hnone] at hreq
    cases hreq
  next request hreq =>
    obtain ⟨hlast, hlastAborts, hmore, emptied, hemptied, hempty⟩ :=
      abortTokens_spec id request.consumers hinv haborts
        ⟨request, hreq, rfl⟩
    refine ⟨hlast.abortController id, hlastAborts.abortController ?_,
      hmore.trans (abortController_abortsMore _ _), ?_⟩
    · intro found hfound
      rw [hemptied] at hfound
      cases hfound
      exact hempty
    · intro _ _
      unfold abortController
      rw [hemptied]
      exact ⟨_, Function.update_self .., rfl⟩

theorem abortEntries_spec (ids : List ℕ) (hinv : CoordinatorInvariant coordinator)
    (haborts : AbortInvariant coordinator) :
    CoordinatorInvariant (ids.foldl abortEntry coordinator) ∧
      AbortInvariant (ids.foldl abortEntry coordinator) ∧
      AbortsMore coordinator (ids.foldl abortEntry coordinator) ∧
      ∀ id ∈ ids, ∀ request, coordinator.requests id = some request →
        ∃ later, (ids.foldl abortEntry coordinator).requests id = some later ∧
          later.aborted = true := by
  induction ids generalizing coordinator with
  | nil => exact ⟨hinv, haborts, .refl _, fun _ h => by cases h⟩
  | cons id rest ih =>
    obtain ⟨hfirst, hfirstAborts, hmore, haborted⟩ :=
      abortEntry_spec id hinv haborts
    obtain ⟨hlast, hlastAborts, hmoreRest, hrest⟩ := ih hfirst hfirstAborts
    refine ⟨hlast, hlastAborts, hmore.trans hmoreRest, ?_⟩
    intro other hother request hreq
    rw [List.mem_cons] at hother
    rcases hother with hother | hother
    · subst hother
      obtain ⟨middle, hmiddle, hmiddleAborted⟩ := haborted request hreq
      obtain ⟨later, hlater, hkeeps⟩ := hmoreRest.aborted other middle hmiddle
      exact ⟨later, hlater, hkeeps hmiddleAborted⟩
    · obtain ⟨middle, hmiddle, _⟩ := hmore.aborted other request hreq
      exact hrest other hother middle hmiddle

theorem CoordinatorInvariant.abortAll (hinv : CoordinatorInvariant coordinator)
    (haborts : AbortInvariant coordinator) :
    CoordinatorInvariant coordinator.abortAll ∧ AbortInvariant coordinator.abortAll := by
  obtain ⟨hlast, hlastAborts, hmore, hall⟩ :=
    abortEntries_spec (coordinator.entries.map Prod.snd) hinv haborts
  refine ⟨?_, hlastAborts.of_maps rfl rfl⟩
  refine { hlast with
    entries_nodup := ?entries_nodup, entry_request := ?entry_request,
    live_registered := ?live_registered }
  case entries_nodup => exact List.nodup_nil
  case entry_request =>
    intro key id hent
    cases hent
  case live_registered =>
    intro id request hreq hlive
    have hent := hlast.live_registered id request hreq hlive
    rw [hmore.entries] at hent
    obtain ⟨before, hbefore, _⟩ := hinv.entry_request _ id hent
    obtain ⟨later, hlater, haborted⟩ :=
      hall id (List.mem_map.mpr ⟨_, hent, rfl⟩) before hbefore
    have hsame := hlater.symm.trans hreq
    cases hsame
    exact absurd haborted (by simp [hlive.1])

/-! ## Runs -/

variable [DecidableEq K]

/-- A call which is not rejected at once joins no request whose abort is still
to settle. -/
def JoinsLive (coordinator : RequestCoordinator K V E) :
    CoordinatorAction K V E → Prop
  | .request key false =>
    ((coordinator.entry? key).bind coordinator.requests).all
      (fun request => !request.abandoned) = true
  | _ => True

instance JoinsLive.decidable (coordinator : RequestCoordinator K V E) :
    ∀ action, Decidable (coordinator.JoinsLive action)
  | .request _ false => inferInstanceAs (Decidable (_ = true))
  | .request _ true | .start _ | .settle .. | .removeSettled _ | .deliver ..
  | .abortSignal _ | .abortAll => .isTrue trivial

theorem openEntry_abandoned {key : K} (hjoins : JoinsLive coordinator (.request key false)) :
    ∀ request, (coordinator.openEntry key).1.requests (coordinator.openEntry key).2 = some request →
      request.abandoned = false := by
  intro request hreq
  unfold openEntry at hreq
  split at hreq
  next id hent =>
    simp only [JoinsLive] at hjoins
    dsimp only at hreq
    rw [hent, Option.bind_some, hreq] at hjoins
    simpa using hjoins
  next =>
    simp only [RequestCoordinator.setRequest] at hreq
    rw [Function.update_self] at hreq
    cases hreq
    rfl

theorem AbortInvariant.openEntry (haborts : AbortInvariant coordinator) (key : K) :
    AbortInvariant (coordinator.openEntry key).1 := by
  unfold RequestCoordinator.openEntry
  split
  next => exact haborts
  next =>
    have hset : AbortInvariant (coordinator.setRequest coordinator.nextRequest
        ⟨key, .scheduled, false, []⟩) := by
      apply haborts.setRequest
      · intro _
        rfl
      · intro hphase
        cases hphase
    exact hset.of_maps rfl rfl

omit [DecidableEq K] in
theorem AbortInvariant.join (haborts : AbortInvariant coordinator)
    (hlive : ∀ request, coordinator.requests id = some request →
      request.abandoned = false)
    (hjoin : coordinator.join id = some next) : AbortInvariant next := by
  obtain ⟨request, hreq, hjoin⟩ := Option.bind_eq_some_iff.mp hjoin
  cases hjoin
  have hset : AbortInvariant (coordinator.setRequest id
      { request with
        consumers := request.consumers ++ [coordinator.nextConsumer] }) := by
    apply haborts.setRequest
    · intro habandoned
      have hnot : request.abandoned = true := habandoned
      rw [hlive request hreq] at hnot
      cases hnot
    · exact haborts.rejected_aborted id request hreq
  have hjoined : AbortInvariant ((coordinator.setRequest id
      { request with
        consumers := request.consumers ++ [coordinator.nextConsumer] }).setConsumer
      coordinator.nextConsumer ⟨some id, false, false, []⟩) :=
    hset.setConsumer (fun h => by cases h)
  exact hjoined.of_maps rfl rfl

structure Settles (coordinator : RequestCoordinator K V E) : Prop where
  maps : CoordinatorInvariant coordinator
  aborts : AbortInvariant coordinator

omit [DecidableEq K] in
theorem Settles.advance (hsettles : Settles coordinator)
    (hreq : coordinator.requests id = some request)
    {phase : RequestPhase V E} (hrunning : ∀ outcome, request.phase ≠ .settled outcome)
    (haborted : phase = .settled .aborted → request.aborted = true) :
    Settles (coordinator.setRequest id { request with phase }) := by
  have hbefore : request.aborted = true → request.abandoned = true := by
    intro habort
    unfold InFlightRequest.abandoned
    rw [habort, Bool.true_and]
    cases hphase : request.phase with
    | scheduled => rfl
    | started => rfl
    | settled outcome => exact absurd hphase (hrunning outcome)
  constructor
  · refine hsettles.maps.setRequest hreq ?_ ?_ ?_
    · rfl
    · rfl
    · intro hlive
      exact ⟨hlive.1, hrunning⟩
  · apply hsettles.aborts.setRequest
    · intro habandoned
      simp only [InFlightRequest.abandoned, Bool.and_eq_true] at habandoned
      exact hsettles.aborts.abandoned_empty id request hreq (hbefore habandoned.1)
    · exact haborted

theorem Settles.start (hsettles : Settles coordinator)
    (hstep : coordinator.step (.start id) = some next) : Settles next := by
  obtain ⟨request, hreq, hstep⟩ := Option.bind_eq_some_iff.mp hstep
  split at hstep
  next hphase =>
    cases hstep
    apply hsettles.advance hreq
    · intro outcome hsettled
      rw [hphase] at hsettled
      cases hsettled
    · intro hsettled
      cases hsettled
  next => cases hstep

theorem Settles.settle (hsettles : Settles coordinator) {outcome : PhysicalOutcome V E}
    (hstep : coordinator.step (.settle id outcome) = some next) :
    Settles next := by
  simp only [RequestCoordinator.step, Option.bind_eq_bind, Option.bind_eq_some_iff] at hstep
  obtain ⟨request, hreq, hstep⟩ := hstep
  have hrunning : request.phase = .started → ∀ outcome, request.phase ≠ .settled outcome := by
    intro hphase outcome hsettled
    rw [hphase] at hsettled
    cases hsettled
  split at hstep
  next hphase =>
    split_ifs at hstep with haborted
    cases hstep
    exact hsettles.advance hreq (hrunning hphase) (fun _ => haborted)
  next hphase hnotAborted =>
    cases hstep
    apply hsettles.advance hreq (hrunning hphase)
    intro hsettled
    rw [RequestPhase.settled.injEq] at hsettled
    exact absurd hsettled hnotAborted
  next => cases hstep

omit [DecidableEq K] in
theorem Settles.deliver (hsettles : Settles coordinator)
    (hstep : coordinator.settleConsumer id token = some next) :
    Settles next := by
  obtain ⟨request, hreq, hstep⟩ := Option.bind_eq_some_iff.mp hstep
  split at hstep
  next outcome hphase =>
    split_ifs at hstep with hmem
    · obtain ⟨consumer, hconsumer, hstep⟩ := Option.bind_eq_some_iff.mp hstep
      cases hstep
      obtain ⟨waiting, hwaiting, _, hnone⟩ :=
        hsettles.maps.map_waits id request token hreq hmem
      rw [hconsumer] at hwaiting
      cases hwaiting
      constructor
      · apply hsettles.maps.release hreq hmem
        rw [hnone]
        rfl
      · apply hsettles.aborts.release hreq
        rw [hnone]
        intro habort
        cases outcome with
        | value value => cases habort
        | failure error => cases habort
        | aborted =>
          have haborted :=
            hsettles.aborts.rejected_aborted id request hreq hphase
          have hempty := hsettles.aborts.abandoned_empty id request hreq
            (by simp [InFlightRequest.abandoned, haborted, hphase])
          rw [hempty] at hmem
          cases hmem
    · cases hstep
      exact hsettles
  next => cases hstep

theorem Settles.step (hsettles : Settles coordinator) {action : CoordinatorAction K V E}
    (hjoins : JoinsLive coordinator action)
    (hstep : coordinator.step action = some next) : Settles next := by
  cases action with
  | request key signalAborted =>
    cases signalAborted with
    | true =>
      simp only [RequestCoordinator.step, if_true] at hstep
      cases hstep
      refine ⟨hsettles.maps.rejectAborted, ?_⟩
      exact (hsettles.aborts.setConsumer (fun _ => .inl rfl)).of_maps rfl rfl
    | false =>
      simp only [RequestCoordinator.step, Bool.false_eq_true, if_false] at hstep
      exact ⟨(hsettles.maps.openEntry key).join hstep,
        (hsettles.aborts.openEntry key).join (openEntry_abandoned hjoins) hstep⟩
  | start id => exact hsettles.start hstep
  | settle id outcome => exact hsettles.settle hstep
  | removeSettled id =>
    obtain ⟨request, hreq, hstep⟩ := Option.bind_eq_some_iff.mp hstep
    split at hstep
    next outcome hphase =>
      cases hstep
      refine ⟨hsettles.maps.removeSettledEntry hreq hphase, ?_⟩
      unfold RequestCoordinator.removeSettledEntry
      split_ifs
      · exact hsettles.aborts.of_maps rfl rfl
      · exact hsettles.aborts
    next => cases hstep
  | deliver id token => exact hsettles.deliver hstep
  | abortSignal token =>
    simp only [RequestCoordinator.step, RequestCoordinator.abortSignal,
      Option.bind_eq_bind, Option.bind_eq_some_iff] at hstep
    obtain ⟨consumer, _, hstep⟩ := hstep
    split at hstep
    next =>
      cases hstep
      exact hsettles
    next id hof =>
      cases hstep
      exact ⟨hsettles.maps.abortConsumer id token false,
        hsettles.aborts.abortConsumer hsettles.maps id token false⟩
  | abortAll =>
    cases hstep
    obtain ⟨hmaps, haborts⟩ := hsettles.maps.abortAll hsettles.aborts
    exact ⟨hmaps, haborts⟩

/-- What a run settles.  A consumer is settled at most once, and one which is
not yet waits for a request whose callback settles it; an abort reaches it by
its own signal or by `abortAll`; a key has one physical request in flight; and
the count is the number of consumers which are not settled. -/
structure SettlesOnce (coordinator : RequestCoordinator K V E) : Prop where
  at_most_once : ∀ token consumer, coordinator.consumers token = some consumer →
    consumer.settlements.length ≤ 1
  waits_for_request : ∀ token consumer,
    coordinator.consumers token = some consumer → consumer.settlements = [] →
    ∃ id request, coordinator.requests id = some request ∧
      ∀ outcome, request.phase = .settled outcome →
        ∃ next after, coordinator.step (.deliver id token) = some next ∧
          next.consumers token = some after ∧
          after.settlements = [.physical outcome]
  abort_cause : ∀ token consumer, coordinator.consumers token = some consumer →
    consumer.settlements.any ConsumerSettlement.isAbort = true →
    consumer.signalAborted = true ∨ consumer.disposed = true
  one_live : ∀ first second firstRequest secondRequest,
    coordinator.requests first = some firstRequest →
    coordinator.requests second = some secondRequest →
    firstRequest.live → secondRequest.live →
    firstRequest.key = secondRequest.key → first = second
  count : coordinator.consumerCount = coordinator.waitingTokens.card

theorem Settles.settlesOnce (hsettles : Settles coordinator) :
    SettlesOnce coordinator := by
  constructor
  case at_most_once => exact hsettles.maps.settled_once
  case abort_cause => exact hsettles.aborts.abort_cause
  case count => exact hsettles.maps.count
  case one_live =>
    intro first second firstRequest secondRequest hfirst hsecond hfirstLive hsecondLive hkey
    have hfirstEntry := hsettles.maps.live_registered first firstRequest hfirst hfirstLive
    have hsecondEntry := hsettles.maps.live_registered second secondRequest hsecond hsecondLive
    exact congrArg Prod.snd (List.inj_on_of_nodup_map
      hsettles.maps.entries_nodup hfirstEntry hsecondEntry hkey)
  case waits_for_request =>
    intro token consumer hconsumer hnone
    obtain ⟨id, request, _, hreq, hmem⟩ :=
      hsettles.maps.waits_in_map token consumer hconsumer hnone
    refine ⟨id, request, hreq, ?_⟩
    intro outcome hphase
    let settled : RequestConsumer V E :=
      { consumer with
        settlements := consumer.settlements ++ [.physical outcome] }
    refine ⟨coordinator.release id request token settled, settled, ?_, ?_, ?_⟩
    · simp only [RequestCoordinator.step, settleConsumer, hreq, hphase,
        hconsumer, Option.bind_eq_bind, Option.bind_some, if_pos hmem, Option.pure_def]
      rfl
    · simp only [release, RequestCoordinator.setConsumer]
      exact Function.update_self ..
    · simp [settled, hnone]

theorem run_settlesOnce {actions : List (CoordinatorAction K V E)}
    {last : RequestCoordinator K V E}
    (hjoins : StepsMeet step JoinsLive initial actions)
    (hrun : runFrom step initial actions = some last) : SettlesOnce last := by
  have hsettles : Settles last := by
    apply (Reaches.of_stepsMeet hjoins hrun).invariant (P := Settles)
    · intro before action after hbefore hguard hstep
      exact hbefore.step hguard hstep
    · exact ⟨initial_invariant, initial_abortInvariant⟩
  exact hsettles.settlesOnce

def sharedRequest : List (CoordinatorAction String String String) :=
  [.request "history:24h" false, .request "history:24h" false, .start 0,
    .abortSignal 0, .settle 0 (.value "history"), .removeSettled 0,
    .deliver 0 0, .deliver 0 1]

theorem run_settlesOnce_sharedRequest :
    ∃ last, runFrom step initial sharedRequest = some last ∧ SettlesOnce last := by
  obtain ⟨last, hrun⟩ : ∃ last, runFrom step initial sharedRequest = some last :=
    ⟨_, rfl⟩
  exact ⟨last, hrun, run_settlesOnce (by decide) hrun⟩

/-- A consumer calls after the last one of its key has left, and before the
aborted promise settles. -/
def joinedAbort : List (CoordinatorAction String String String) :=
  [.request "latest:edge-01" false, .start 0, .abortSignal 0,
    .request "latest:edge-01" false, .settle 0 .aborted, .removeSettled 0,
    .deliver 0 1]

theorem joinedAbort_rejects :
    ∃ last consumer, runFrom step initial joinedAbort = some last ∧
      last.consumers 1 = some consumer ∧
      consumer.settlements = [.physical .aborted] ∧
      consumer.signalAborted = false ∧ consumer.disposed = false ∧
      ¬ SettlesOnce last := by
  refine ⟨_, _, rfl, rfl, rfl, rfl, rfl, ?_⟩
  intro hsettles
  rcases hsettles.abort_cause 1 _ rfl rfl with hsignal | hdisposed
  · cases hsignal
  · cases hdisposed

end RequestCoordinator

end Nexolab
