import Nexolab.EquipmentDiscovery
import Nexolab.TransitionSystem

/-!
# Histories of equipment discovery

What scans may do to the candidates: which of them they mark as disappeared,
that the decisions of the operators stay, and that a candidate has at most one
asset.  A candidate is known by the ports which were open in the last
observation that tested them; the repository looks at its latest observation
only, so the law on ports needs scans which test every port a candidate they
observe is known by.
-/

namespace Nexolab

theorem map_replaceRow {α κ γ : Type*} [DecidableEq κ] {key : α → κ}
    {column : α → γ} {next : α} {rows : List α}
    (hsame : ∀ row ∈ rows, key row = key next → column row = column next) :
    (replaceRow key next rows).map column = rows.map column := by
  unfold replaceRow
  rw [List.map_map]
  apply List.map_congr_left
  intro row hrow
  rw [Function.comp_apply]
  by_cases hkey : key row = key next
  · rw [if_pos hkey, hsame row hrow hkey]
  · rw [if_neg hkey]

variable {scanId : String} {candidateId : String} {ids : DiscoveryIds}

theorem mem_of_findScan {tables : DiscoveryTables}
    {scan : DiscoveryScan} (hfound : tables.findScan scanId = .ok scan) :
    scan ∈ tables.scans ∧ scan.id = scanId := by
  unfold DiscoveryTables.findScan at hfound
  split at hfound
  next found hfind =>
    cases hfound
    have hpasses := mem_and_eq_of_find? hfind
    exact ⟨hpasses.1, by simpa using hpasses.2⟩
  next => cases hfound

variable {rows : List DiscoveryObservation} {result : DiscoveryScanResult}

theorem latestObservation_mem
    {row : DiscoveryObservation} (hlat : latestObservation rows = some row) :
    row ∈ rows := by
  induction rows with
  | nil => cases hlat
  | cons first rest ih =>
    unfold latestObservation at hlat
    split at hlat
    next =>
      cases hlat
      exact List.mem_cons_self
    next other hother =>
      split at hlat
      next =>
        cases hlat
        exact List.mem_cons_of_mem first (ih hother)
      next =>
        cases hlat
        exact List.mem_cons_self

theorem latestObservation_append
    {next : DiscoveryObservation} (hfirst : ∀ row ∈ rows, next.ComesFirst row) :
    latestObservation (rows ++ [next]) = some next := by
  induction rows with
  | nil => rfl
  | cons row rest ih =>
    rw [List.forall_mem_cons] at hfirst
    rw [List.cons_append, latestObservation, ih hfirst.2]
    exact if_pos hfirst.1

theorem observationsOf_nil :
    observationsOf candidateId [] = [] := rfl

theorem observationsOf_append_self {next : DiscoveryObservation} :
    observationsOf next.candidateId (rows ++ [next]) =
      observationsOf next.candidateId rows ++ [next] := by
  unfold observationsOf
  rw [List.filter_append, List.filter_cons_of_pos (by simp), List.filter_nil]

theorem observationsOf_append_other {next : DiscoveryObservation}
    (hother : next.candidateId ≠ candidateId) :
    observationsOf candidateId (rows ++ [next]) = observationsOf candidateId rows := by
  unfold observationsOf
  rw [List.filter_append, List.filter_cons_of_neg (by simpa using hother),
    List.filter_nil, List.append_nil]

def DiscoveryObservation.speaksOf (row : DiscoveryObservation) (port : ℤ) : Bool :=
  port ∈ row.openPorts || port ∈ row.scanScopeKey.ports

def lastWord (rows : List DiscoveryObservation) (candidateId : String)
    (port : ℤ) : Option DiscoveryObservation :=
  latestObservation ((observationsOf candidateId rows).filter fun row => row.speaksOf port)

def knownPorts (rows : List DiscoveryObservation) (candidateId : String) :
    List ℤ :=
  ((observationsOf candidateId rows).flatMap DiscoveryObservation.openPorts).filter fun port =>
      (lastWord rows candidateId port).any fun row => port ∈ row.openPorts

theorem mem_knownPorts {port : ℤ} :
    port ∈ knownPorts rows candidateId ↔ ∃ row, lastWord rows candidateId port = some row ∧
        port ∈ row.openPorts := by
  unfold knownPorts
  rw [List.mem_filter, Option.any_eq_true]
  constructor
  · intro hboth
    simpa using hboth.2
  · intro hword
    obtain ⟨row, hrow, hopen⟩ := hword
    have hmem := List.mem_of_mem_filter (latestObservation_mem hrow)
    exact ⟨List.mem_flatMap.mpr ⟨row, hmem, hopen⟩, row, hrow, by simpa using hopen⟩

theorem knownPorts_congr {rows others : List DiscoveryObservation}
    (hsame : observationsOf candidateId rows = observationsOf candidateId others) :
    knownPorts rows candidateId = knownPorts others candidateId := by
  unfold knownPorts lastWord
  rw [hsame]

def LatestShows (rows : List DiscoveryObservation) (candidateId : String) : Prop :=
  ∀ latest, latestObservation (observationsOf candidateId rows) = some latest →
    ∀ port ∈ knownPorts rows candidateId, port ∈ latest.openPorts

theorem LatestShows.congr {rows others : List DiscoveryObservation}
    (hshows : LatestShows others candidateId)
    (hsame : observationsOf candidateId rows = observationsOf candidateId others) :
    LatestShows rows candidateId := by
  unfold LatestShows
  rw [hsame, knownPorts_congr hsame]
  exact hshows

theorem latestShows_append {next : DiscoveryObservation}
    (hnewer : ∀ row ∈ observationsOf next.candidateId rows, row.observedAt < next.observedAt)
    (htested : ∀ port ∈ knownPorts rows next.candidateId, port ∈ next.scanScopeKey.ports) :
    LatestShows (rows ++ [next]) next.candidateId := by
  intro latest hlat port hport
  rw [observationsOf_append_self, latestObservation_append
    fun row hrow => .inl (hnewer row hrow)] at hlat
  cases hlat
  obtain ⟨row, hword, hopen⟩ := mem_knownPorts.mp hport
  unfold lastWord at hword
  rw [observationsOf_append_self, List.filter_append] at hword
  by_cases hspeaks : next.speaksOf port = true
  · have hkept : [next].filter (fun row => row.speaksOf port) = [next] := by
      simp [hspeaks]
    rw [hkept, latestObservation_append fun other hother =>
        .inl (hnewer other (List.mem_of_mem_filter hother))] at hword
    cases hword
    exact hopen
  · have hdropped : [next].filter (fun row => row.speaksOf port) = [] := by
      simp [hspeaks]
    rw [hdropped, List.append_nil] at hword
    have hknown : port ∈ knownPorts rows next.candidateId :=
      mem_knownPorts.mpr ⟨row, hword, hopen⟩
    exact absurd (by simp [DiscoveryObservation.speaksOf, htested port hknown]) hspeaks

inductive CandidateDecision where
  | adopted (linkedEquipmentKey : Option String)
  | ignored
  | linked (linkedEquipmentKey : String)

def DiscoveryCandidate.decision (candidate : DiscoveryCandidate) :
    Option CandidateDecision :=
  match candidate.lifecycle with
  | .adopted => some (.adopted candidate.linkedEquipmentKey)
  | .ignored => some .ignored
  | _ => candidate.linkedEquipmentKey.map .linked

/-- A disappeared candidate is not present, and a link is shown unless the
candidate disappeared. -/
structure DiscoveryCandidate.Lawful (candidate : DiscoveryCandidate) : Prop where
  disappeared : candidate.lifecycle = .disappeared → candidate.present = false
  linked : ∀ key, candidate.linkedEquipmentKey = some key → key ≠ "" ∧
    (candidate.lifecycle = .matchedExisting ∨ candidate.lifecycle = .adopted ∨
      candidate.lifecycle = .disappeared)

namespace DiscoveryCandidate

variable {candidate : DiscoveryCandidate}

theorem seen_decision (scanId : String) (observation : DiscoveryObservationInput) :
    (candidate.seen scanId observation).decision = candidate.decision := by
  unfold decision seen
  cases hlife : candidate.lifecycle with
  | disappeared =>
    dsimp only
    rw [if_pos rfl]
    by_cases hlinked : isLinked candidate = true
    · rw [if_pos hlinked]
    · rw [if_neg hlinked]
  | new => rfl
  | reviewed => rfl
  | matchedExisting => rfl
  | adopted => rfl
  | ignored => rfl

theorem absent_decision : candidate.absent.decision = candidate.decision := by
  unfold decision absent
  cases hlife : candidate.lifecycle with
  | new => rfl
  | reviewed => rfl
  | matchedExisting => rfl
  | adopted => rfl
  | ignored => rfl
  | disappeared => rfl

theorem seen_not_disappeared (scanId : String) (observation : DiscoveryObservationInput) :
    (candidate.seen scanId observation).lifecycle ≠ .disappeared := by
  unfold seen
  dsimp only
  split
  next =>
    split
    next => exact fun h => by cases h
    next => exact fun h => by cases h
  next hother => exact hother

theorem seen_adopted (scanId : String) (observation : DiscoveryObservationInput)
    (hadopted : candidate.lifecycle = .adopted) :
    (candidate.seen scanId observation).lifecycle = .adopted := by
  unfold seen
  dsimp only
  rw [hadopted]
  rfl

theorem absent_adopted (hadopted : candidate.lifecycle = .adopted) :
    candidate.absent.lifecycle = .adopted := by
  unfold absent
  dsimp only
  rw [hadopted]
  rfl

theorem Lawful.seen (h : candidate.Lawful) (scanId : String)
    (observation : DiscoveryObservationInput) :
    (candidate.seen scanId observation).Lawful := by
  constructor
  case disappeared =>
    intro hdisappeared
    exact absurd hdisappeared (seen_not_disappeared scanId observation)
  case linked =>
    intro key hkey
    have hkept : candidate.linkedEquipmentKey = some key := hkey
    have hlaw := h.linked key hkept
    refine ⟨hlaw.1, ?_⟩
    unfold DiscoveryCandidate.seen
    dsimp only
    by_cases hdisappeared : candidate.lifecycle = .disappeared
    · have hlinked : isLinked candidate = true := by
        simp [isLinked, hkept, hlaw.1]
      rw [if_pos hdisappeared, if_pos hlinked]
      exact .inl rfl
    · rw [if_neg hdisappeared]
      exact hlaw.2

theorem Lawful.absent (h : candidate.Lawful) : candidate.absent.Lawful := by
  constructor
  case disappeared => exact fun _ => rfl
  case linked =>
    intro key hkey
    have hlaw := h.linked key hkey
    refine ⟨hlaw.1, ?_⟩
    unfold DiscoveryCandidate.absent
    dsimp only
    split
    next => exact hlaw.2
    next => exact .inr (.inr rfl)

theorem decide_lawful {lifecycle : CandidateLifecycle} {link : Option String}
    (hlife : lifecycle ≠ .disappeared)
    (hlink : ∀ key, link = some key → key ≠ "" ∧
      (lifecycle = .matchedExisting ∨ lifecycle = .adopted)) :
    (candidate.decide lifecycle link).Lawful := by
  constructor
  case disappeared => exact fun hdisappeared => absurd hdisappeared hlife
  case linked =>
    intro key hkey
    have hshown := hlink key hkey
    exact ⟨hshown.1, hshown.2.imp_right .inl⟩

theorem newCandidate_lawful (id scanId : String) (observation : DiscoveryObservationInput) :
    (newCandidate id scanId observation).Lawful where
  disappeared := fun hdisappeared => by cases hdisappeared
  linked := fun _ hkey => by cases hkey

end DiscoveryCandidate

/-! ## The loop over the observations -/

theorem recordObservation_cases {scan : DiscoveryScan} {stored : List DiscoveryObservation}
    {work next : Reconciliation} {observation : DiscoveryObservationInput}
    (hrecorded : recordObservation scan stored ids work observation = .ok next) :
    ∃ candidateId rowId changed,
      next.observations = work.observations ++
        [observationRow rowId scan candidateId changed observation] ∧
      next.observedIds = work.observedIds ++ [candidateId] ∧
      ((next.candidates = work.candidates ++ [newCandidate candidateId scan.id observation] ∧
          candidateId ∉ work.candidates.map DiscoveryCandidate.id ∧
          ∀ candidate ∈ work.candidates, candidate.candidateKey ≠ observation.candidateKey) ∨
        ∃ candidate ∈ work.candidates, candidate.id = candidateId ∧
          candidate.candidateKey = observation.candidateKey ∧
          next.candidates = replaceRow DiscoveryCandidate.id
            (candidate.seen scan.id observation) work.candidates) := by
  have hrec : ∀ {started : Reconciliation} {rowId candidateId : String}
      {changed : Bool},
      started.record scan rowId candidateId changed observation = .ok next →
      next = { started with
        observations := started.observations ++
          [observationRow rowId scan candidateId changed observation]
        observedIds := started.observedIds ++ [candidateId] } := by
    intro started rowId candidateId changed hok
    unfold Reconciliation.record at hok
    split at hok
    next => cases hok
    next =>
      cases hok
      rfl
  unfold recordObservation at hrecorded
  dsimp only at hrecorded
  split at hrecorded
  next hnone =>
    split at hrecorded
    next => cases hrecorded
    next hfresh =>
      have hnext := hrec hrecorded
      subst hnext
      have hkeys : ∀ candidate ∈ work.candidates,
          candidate.candidateKey ≠ observation.candidateKey := by
        intro candidate hcand
        simpa using List.find?_eq_none.mp hnone candidate hcand
      exact ⟨_, _, _, rfl, rfl, .inl ⟨rfl, hfresh, hkeys⟩⟩
  next candidate hfound =>
    have hpasses := mem_and_eq_of_find? hfound
    have hnext := hrec hrecorded
    subst hnext
    exact ⟨_, _, _, rfl, rfl, .inr ⟨candidate, hpasses.1, rfl, by simpa using hpasses.2, rfl⟩⟩

/-- What the loop has made of the tables after some observations. -/
structure Recorded (tables : DiscoveryTables) (scan : DiscoveryScan)
    (done : List DiscoveryObservationInput) (work : Reconciliation) : Prop where
  ids : (work.candidates.map DiscoveryCandidate.id).Nodup
  keys : (work.candidates.map DiscoveryCandidate.candidateKey).Nodup
  owned : ∀ row ∈ work.observations, row.candidateId ∈ work.candidates.map DiscoveryCandidate.id
  kept : ∀ candidate ∈ tables.candidates, candidate.id ∈ work.candidates.map DiscoveryCandidate.id
  unobserved : ∀ candidate ∈ work.candidates,
    candidate.id ∉ work.observedIds → candidate ∈ tables.candidates ∧
      observationsOf candidate.id work.observations =
        observationsOf candidate.id tables.observations
  observed : ∀ candidate ∈ work.candidates, candidate.id ∈ work.observedIds →
    ∃ observation ∈ done, (∃ old ∈ tables.candidates, candidate = old.seen scan.id observation ∧
        old.candidateKey = observation.candidateKey) ∨
      candidate = newCandidate candidate.id scan.id observation ∧
        ∀ old ∈ tables.candidates, old.id ≠ candidate.id
  all : ∀ observation ∈ done, ∃ candidate ∈ work.candidates,
    candidate.candidateKey = observation.candidateKey ∧ candidate.id ∈ work.observedIds
  shows : ∀ candidate ∈ work.candidates, LatestShows work.observations candidate.id

/-- The scan may observe the candidate: the observation is the latest one and
the scan tests the ports the candidate is known by. -/
def TestsKnown (tables : DiscoveryTables) (scan : DiscoveryScan)
    (observation : DiscoveryObservationInput) : Prop :=
  ∀ candidate ∈ tables.candidates, candidate.candidateKey = observation.candidateKey →
    (∀ row ∈ observationsOf candidate.id tables.observations,
      row.observedAt < observation.observedAt) ∧
    ∀ port ∈ knownPorts tables.observations candidate.id, port ∈ scan.requestedPorts

namespace Recorded

variable {tables : DiscoveryTables} {scan : DiscoveryScan}
  {done : List DiscoveryObservationInput} {work next : Reconciliation}
  {observation : DiscoveryObservationInput}

theorem observed_key (h : Recorded tables scan done work)
    {candidate : DiscoveryCandidate} (hcand : candidate ∈ work.candidates)
    (hobsd : candidate.id ∈ work.observedIds) :
    ∃ observation ∈ done, candidate.candidateKey = observation.candidateKey := by
  obtain ⟨observation, hdone, hform⟩ := h.observed candidate hcand hobsd
  refine ⟨observation, hdone, ?_⟩
  rcases hform with ⟨old, _, hseen, hkey⟩ | ⟨hnew, _⟩
  · rw [hseen]
    exact hkey
  · rw [hnew]
    rfl

theorem rows_other {rowId candidateId : String} {changed : Bool}
    (hrows : next.observations = work.observations ++
      [observationRow rowId scan candidateId changed observation])
    {other : String} (hother : candidateId ≠ other) :
    observationsOf other next.observations = observationsOf other work.observations := by
  rw [hrows]
  exact observationsOf_append_other hother

theorem create (h : Recorded tables scan done work) {candidateId rowId : String} {changed : Bool}
    (hrows : next.observations = work.observations ++
      [observationRow rowId scan candidateId changed observation])
    (hids : next.observedIds = work.observedIds ++ [candidateId])
    (hcands : next.candidates = work.candidates ++ [newCandidate candidateId scan.id observation])
    (hfresh : candidateId ∉ work.candidates.map DiscoveryCandidate.id)
    (hkeys : ∀ candidate ∈ work.candidates, candidate.candidateKey ≠ observation.candidateKey) :
    Recorded tables scan (done ++ [observation]) next := by
  have hother : ∀ candidate ∈ work.candidates, candidateId ≠ candidate.id := by
    intro candidate hcand hsame
    exact hfresh (hsame ▸ List.mem_map_of_mem hcand)
  have hold : ∀ old ∈ tables.candidates, old.id ≠ candidateId := by
    intro old hmem hsame
    exact hfresh (hsame ▸ h.kept old hmem)
  have hnone : observationsOf candidateId work.observations = [] := by
    unfold observationsOf
    rw [List.filter_eq_nil_iff]
    intro row hrow hsame
    have howned := h.owned row hrow
    rw [show row.candidateId = candidateId by simpa using hsame] at howned
    exact hfresh howned
  constructor
  case ids =>
    rw [hcands]
    exact nodup_keys_append h.ids fun candidate hcand =>
      (hother candidate hcand).symm
  case keys =>
    rw [hcands]
    exact nodup_keys_append h.keys hkeys
  case owned =>
    intro row hrow
    rw [hcands, List.map_append, List.mem_append]
    rw [hrows, List.mem_append, List.mem_singleton] at hrow
    rcases hrow with hrow | rfl
    · exact .inl (h.owned row hrow)
    · exact .inr (List.mem_singleton_self _)
  case kept =>
    intro candidate hcand
    rw [hcands, List.map_append]
    exact List.mem_append_left _ (h.kept candidate hcand)
  case unobserved =>
    intro candidate hcand hunseen
    rw [hids, List.mem_append, List.mem_singleton, not_or] at hunseen
    rw [hcands, List.mem_append, List.mem_singleton] at hcand
    rcases hcand with hcand | rfl
    · have hbefore := h.unobserved candidate hcand hunseen.1
      rw [rows_other hrows (hother candidate hcand)]
      exact hbefore
    · exact absurd rfl hunseen.2
  case observed =>
    intro candidate hcand hseen
    rw [hids, List.mem_append, List.mem_singleton] at hseen
    rw [hcands, List.mem_append, List.mem_singleton] at hcand
    rcases hcand with hcand | rfl
    · have hbefore : candidate.id ∈ work.observedIds :=
        hseen.resolve_right fun hsame => hother candidate hcand hsame.symm
      obtain ⟨earlier, hdone, hform⟩ := h.observed candidate hcand hbefore
      exact ⟨earlier, List.mem_append_left _ hdone, hform⟩
    · exact ⟨observation, List.mem_append_right _ (List.mem_singleton_self _), .inr ⟨rfl, hold⟩⟩
  case all =>
    intro earlier hdone
    rw [hcands, hids]
    rw [List.mem_append, List.mem_singleton] at hdone
    rcases hdone with hdone | rfl
    · obtain ⟨candidate, hcand, hkey, hseen⟩ := h.all earlier hdone
      exact ⟨candidate, List.mem_append_left _ hcand, hkey, List.mem_append_left _ hseen⟩
    · exact ⟨_, List.mem_append_right _ (List.mem_singleton_self _), rfl,
        List.mem_append_right _ (List.mem_singleton_self _)⟩
  case shows =>
    intro candidate hcand
    rw [hcands, List.mem_append, List.mem_singleton] at hcand
    rcases hcand with hcand | rfl
    · exact (h.shows candidate hcand).congr (rows_other hrows (hother candidate hcand))
    · rw [hrows]
      have hsilent : knownPorts work.observations candidateId = [] := by
        rw [knownPorts_congr (hnone.trans observationsOf_nil.symm)]
        rfl
      apply latestShows_append
      · intro row hrow
        change row ∈ observationsOf candidateId work.observations at hrow
        rw [hnone] at hrow
        cases hrow
      · intro port hport
        change port ∈ knownPorts work.observations candidateId at hport
        rw [hsilent] at hport
        cases hport

theorem update (h : Recorded tables scan done work)
    {candidate : DiscoveryCandidate} {rowId : String} {changed : Bool}
    (hmem : candidate ∈ work.candidates) (hkey : candidate.candidateKey = observation.candidateKey)
    (hrows : next.observations = work.observations ++
      [observationRow rowId scan candidate.id changed observation])
    (hids : next.observedIds = work.observedIds ++ [candidate.id])
    (hcands : next.candidates = replaceRow DiscoveryCandidate.id
      (candidate.seen scan.id observation) work.candidates)
    (hnew : ∀ earlier ∈ done, earlier.candidateKey ≠ observation.candidateKey)
    (htests : TestsKnown tables scan observation) :
    Recorded tables scan (done ++ [observation]) next := by
  have hunseen : candidate.id ∉ work.observedIds := by
    intro hobsd
    obtain ⟨earlier, hdone, hsame⟩ := h.observed_key hmem hobsd
    exact hnew earlier hdone (hsame.symm.trans hkey)
  have hold := h.unobserved candidate hmem hunseen
  have hself : candidate.seen scan.id observation ∈ next.candidates := by
    rw [hcands]
    exact mem_replaceRow.mpr (.inl ⟨rfl, candidate, hmem, rfl⟩)
  have hcases : ∀ other ∈ next.candidates, other = candidate.seen scan.id observation ∨
        other ∈ work.candidates ∧ candidate.id ≠ other.id := by
    intro other hother
    rw [hcands, mem_replaceRow] at hother
    rcases hother with hother | hother
    · exact .inl hother.1
    · exact .inr ⟨hother.1, fun hsame => hother.2 hsame.symm⟩
  have hidsSame : next.candidates.map DiscoveryCandidate.id =
      work.candidates.map DiscoveryCandidate.id := by
    rw [hcands, keys_replaceRow]
  have hkeysSame : next.candidates.map DiscoveryCandidate.candidateKey =
      work.candidates.map DiscoveryCandidate.candidateKey := by
    rw [hcands]
    apply map_replaceRow
    intro row hrow hsame
    have hrowSame : row = candidate := row_eq_of_key h.ids hrow hmem hsame
    rw [hrowSame]
    rfl
  constructor
  case ids =>
    rw [hidsSame]
    exact h.ids
  case keys =>
    rw [hkeysSame]
    exact h.keys
  case owned =>
    intro row hrow
    rw [hidsSame]
    rw [hrows, List.mem_append, List.mem_singleton] at hrow
    rcases hrow with hrow | rfl
    · exact h.owned row hrow
    · exact List.mem_map_of_mem hmem
  case kept =>
    intro other hother
    rw [hidsSame]
    exact h.kept other hother
  case unobserved =>
    intro other hother hfree
    rw [hids, List.mem_append, List.mem_singleton, not_or] at hfree
    rcases hcases other hother with rfl | ⟨hwork, hdiffers⟩
    · exact absurd rfl hfree.2
    · rw [rows_other hrows hdiffers]
      exact h.unobserved other hwork hfree.1
  case observed =>
    intro other hother hseen
    rcases hcases other hother with rfl | ⟨hwork, hdiffers⟩
    · exact ⟨observation, List.mem_append_right _ (List.mem_singleton_self _),
        .inl ⟨candidate, hold.1, rfl, hkey⟩⟩
    · rw [hids, List.mem_append, List.mem_singleton] at hseen
      have hbefore : other.id ∈ work.observedIds :=
        hseen.resolve_right fun hsame => hdiffers hsame.symm
      obtain ⟨earlier, hdone, hform⟩ := h.observed other hwork hbefore
      exact ⟨earlier, List.mem_append_left _ hdone, hform⟩
  case all =>
    intro earlier hdone
    rw [hids]
    rw [List.mem_append, List.mem_singleton] at hdone
    rcases hdone with hdone | rfl
    · obtain ⟨other, hother, hsame, hseen⟩ := h.all earlier hdone
      have hdiffers : other.id ≠ candidate.id :=
        fun hequal => hunseen (hequal ▸ hseen)
      refine ⟨other, ?_, hsame, List.mem_append_left _ hseen⟩
      rw [hcands]
      exact mem_replaceRow.mpr (.inr ⟨hother, hdiffers⟩)
    · exact ⟨_, hself, hkey, List.mem_append_right _ (List.mem_singleton_self _)⟩
  case shows =>
    intro other hother
    rcases hcases other hother with rfl | ⟨hwork, hdiffers⟩
    · have hguard := htests candidate hold.1 hkey
      rw [hrows]
      apply latestShows_append
      · intro row hrow
        change row ∈ observationsOf candidate.id work.observations at hrow
        rw [hold.2] at hrow
        exact hguard.1 row hrow
      · intro port hport
        change port ∈ knownPorts work.observations candidate.id at hport
        rw [knownPorts_congr hold.2] at hport
        exact Multiset.mem_coe.mpr (hguard.2 port hport)
    · exact (h.shows other hwork).congr (rows_other hrows hdiffers)

theorem fold {stored : List DiscoveryObservation} {ids : DiscoveryIds}
    {rest : List DiscoveryObservationInput} (h : Recorded tables scan done work)
    (hfold : rest.foldlM (recordObservation scan stored ids) work = .ok next)
    (hdist : ((done ++ rest).map DiscoveryObservationInput.candidateKey).Nodup)
    (htests : ∀ observation ∈ rest, TestsKnown tables scan observation) :
    Recorded tables scan (done ++ rest) next := by
  induction rest generalizing done work with
  | nil =>
    cases hfold
    rw [List.append_nil]
    exact h
  | cons observation rest ih =>
    rw [List.foldlM_cons, bind_eq_ok] at hfold
    obtain ⟨middle, hrecorded, hfold⟩ := hfold
    rw [List.forall_mem_cons] at htests
    have hnew : ∀ earlier ∈ done, earlier.candidateKey ≠ observation.candidateKey := by
      intro earlier hdone hsame
      rw [List.map_append, List.nodup_append] at hdist
      exact hdist.2.2 _ (List.mem_map_of_mem hdone) _ (List.mem_map_of_mem List.mem_cons_self) hsame
    have hmiddle : Recorded tables scan (done ++ [observation]) middle := by
      obtain ⟨candidateId, rowId, changed, hrows, hids, hform⟩ :=
        recordObservation_cases hrecorded
      rcases hform with ⟨hcands, hfresh, hkeys⟩ |
        ⟨candidate, hmem, hid, hkey, hcands⟩
      · exact h.create hrows hids hcands hfresh hkeys
      · subst hid
        exact h.update hmem hkey hrows hids hcands hnew htests.1
    rw [List.append_cons] at hdist ⊢
    exact ih hmiddle hfold hdist htests.2

theorem successor (h : Recorded tables scan done work)
    (hids : (tables.candidates.map DiscoveryCandidate.id).Nodup)
    {candidate : DiscoveryCandidate} (hcand : candidate ∈ tables.candidates) :
    ∃ next ∈ work.candidates, next.id = candidate.id ∧
      (next = candidate ∧ candidate.id ∉ work.observedIds ∨
        candidate.id ∈ work.observedIds ∧ ∃ observation,
          next = candidate.seen scan.id observation) := by
  obtain ⟨next, hnext, hid⟩ := List.mem_map.mp (h.kept candidate hcand)
  refine ⟨next, hnext, hid, ?_⟩
  by_cases hobsd : next.id ∈ work.observedIds
  · right
    refine ⟨hid ▸ hobsd, ?_⟩
    obtain ⟨observation, _, hform⟩ := h.observed next hnext hobsd
    rcases hform with ⟨old, hold, hseen, _⟩ | ⟨_, hfresh⟩
    · have hsame : old = candidate := by
        apply row_eq_of_key hids hold hcand
        rw [← hid, hseen]
        rfl
      exact ⟨observation, hsame ▸ hseen⟩
    · exact absurd hid.symm (hfresh candidate hcand)
  · left
    have hsame : next = candidate :=
      row_eq_of_key hids (h.unobserved next hnext hobsd).1 hcand hid
    exact ⟨hsame, hsame ▸ hobsd⟩

end Recorded

/-! ## The tables of an organization -/

/-- What every transaction keeps of the discovery tables. -/
structure DiscoveryTables.Consistent (tables : DiscoveryTables) : Prop where
  ids : (tables.candidates.map DiscoveryCandidate.id).Nodup
  keys : (tables.candidates.map DiscoveryCandidate.candidateKey).Nodup
  owned : ∀ row ∈ tables.observations, row.candidateId ∈ tables.candidates.map DiscoveryCandidate.id
  shows : ∀ candidate ∈ tables.candidates, LatestShows tables.observations candidate.id
  lawful : ∀ candidate ∈ tables.candidates, candidate.Lawful
  assetKeys : (tables.assets.map NetworkAsset.assetKey).Nodup
  sources : (tables.assets.map NetworkAsset.sourceCandidateId).Nodup
  owners : ∀ asset ∈ tables.assets, ∃ candidate ∈ tables.candidates,
    candidate.id = asset.sourceCandidateId ∧ candidate.lifecycle = .adopted ∧
      candidate.linkedEquipmentKey = some asset.assetKey

theorem markAbsent_id (scan : DiscoveryScan) (work : Reconciliation)
    (candidate : DiscoveryCandidate) :
    (markAbsent scan work candidate).id = candidate.id := by
  unfold markAbsent
  split
  next => rfl
  next => rfl

theorem markAbsent_key (scan : DiscoveryScan) (work : Reconciliation)
    (candidate : DiscoveryCandidate) :
    (markAbsent scan work candidate).candidateKey = candidate.candidateKey := by
  unfold markAbsent
  split
  next => rfl
  next => rfl

theorem markAbsent_link (scan : DiscoveryScan) (work : Reconciliation)
    (candidate : DiscoveryCandidate) :
    (markAbsent scan work candidate).linkedEquipmentKey = candidate.linkedEquipmentKey := by
  unfold markAbsent
  split
  next => rfl
  next => rfl

theorem markAbsent_decision (scan : DiscoveryScan) (work : Reconciliation)
    (candidate : DiscoveryCandidate) :
    (markAbsent scan work candidate).decision = candidate.decision := by
  unfold markAbsent
  split
  next => exact DiscoveryCandidate.absent_decision
  next => rfl

theorem markAbsent_adopted (scan : DiscoveryScan) (work : Reconciliation)
    {candidate : DiscoveryCandidate} (hadopted : candidate.lifecycle = .adopted) :
    (markAbsent scan work candidate).lifecycle = .adopted := by
  unfold markAbsent
  split
  next => exact DiscoveryCandidate.absent_adopted hadopted
  next => exact hadopted

theorem DiscoveryCandidate.Lawful.markAbsent {candidate : DiscoveryCandidate}
    (h : candidate.Lawful) (scan : DiscoveryScan) (work : Reconciliation) :
    (Nexolab.markAbsent scan work candidate).Lawful := by
  unfold Nexolab.markAbsent
  split
  next => exact h.absent
  next => exact h

namespace DiscoveryTables.Consistent

variable {tables : DiscoveryTables} {scan : DiscoveryScan}

theorem empty : DiscoveryTables.empty.Consistent where
  ids := List.nodup_nil
  keys := List.nodup_nil
  owned := fun _ hrow => by cases hrow
  shows := fun _ hcand => by cases hcand
  lawful := fun _ hcand => by cases hcand
  assetKeys := List.nodup_nil
  sources := List.nodup_nil
  owners := fun _ hasset => by cases hasset

theorem setScan (h : tables.Consistent) (scan : DiscoveryScan) :
    (tables.setScan scan).Consistent :=
  ⟨h.ids, h.keys, h.owned, h.shows, h.lawful, h.assetKeys, h.sources, h.owners⟩

theorem recorded_nil (h : tables.Consistent) :
    Recorded tables scan []
      ⟨tables.candidates, tables.observations, [], 0, 0⟩ where
  ids := h.ids
  keys := h.keys
  owned := h.owned
  kept := fun _ hcand => List.mem_map_of_mem hcand
  unobserved := fun _ hcand _ => ⟨hcand, rfl⟩
  observed := fun _ _ hobsd => by cases hobsd
  all := fun _ hdone => by cases hdone
  shows := h.shows

theorem recorded_lawful (h : tables.Consistent)
    {done : List DiscoveryObservationInput} {work : Reconciliation}
    (hrecorded : Recorded tables scan done work)
    {candidate : DiscoveryCandidate} (hcand : candidate ∈ work.candidates) :
    candidate.Lawful := by
  by_cases hobsd : candidate.id ∈ work.observedIds
  · obtain ⟨observation, _, hform⟩ :=
      hrecorded.observed candidate hcand hobsd
    rcases hform with ⟨old, hold, hseen, _⟩ | ⟨hnew, _⟩
    · rw [hseen]
      exact (h.lawful old hold).seen scan.id observation
    · rw [hnew]
      exact DiscoveryCandidate.newCandidate_lawful _ _ _
  · exact h.lawful candidate (hrecorded.unobserved candidate hcand hobsd).1

theorem reconciled (h : tables.Consistent)
    {done : List DiscoveryObservationInput} {work : Reconciliation}
    (hrecorded : Recorded tables scan done work) (result : DiscoveryScanResult) (now : ℤ) :
    (tables.reconciled scan work result now).Consistent := by
  have hids : (work.candidates.map (markAbsent scan work)).map
      DiscoveryCandidate.id = work.candidates.map DiscoveryCandidate.id := by
    rw [List.map_map]
    exact List.map_congr_left fun candidate _ => markAbsent_id scan work candidate
  have hkeys : (work.candidates.map (markAbsent scan work)).map DiscoveryCandidate.candidateKey =
        work.candidates.map DiscoveryCandidate.candidateKey := by
    rw [List.map_map]
    exact List.map_congr_left fun candidate _ => markAbsent_key scan work candidate
  unfold DiscoveryTables.reconciled
  constructor
  case ids =>
    rw [hids]
    exact hrecorded.ids
  case keys =>
    rw [hkeys]
    exact hrecorded.keys
  case owned =>
    rw [hids]
    exact hrecorded.owned
  case shows =>
    intro candidate hcand
    obtain ⟨before, hbefore, rfl⟩ := List.mem_map.mp hcand
    rw [markAbsent_id]
    exact hrecorded.shows before hbefore
  case lawful =>
    intro candidate hcand
    obtain ⟨before, hbefore, rfl⟩ := List.mem_map.mp hcand
    exact (h.recorded_lawful hrecorded hbefore).markAbsent scan work
  case assetKeys => exact h.assetKeys
  case sources => exact h.sources
  case owners =>
    intro asset hasset
    obtain ⟨owner, howner, hid, hadopted, hlink⟩ := h.owners asset hasset
    obtain ⟨next, hnext, hsame, hform⟩ := hrecorded.successor h.ids howner
    have hkept : next.lifecycle = .adopted ∧
        next.linkedEquipmentKey = owner.linkedEquipmentKey := by
      rcases hform with ⟨rfl, _⟩ | ⟨_, observation, rfl⟩
      · exact ⟨hadopted, rfl⟩
      · exact ⟨DiscoveryCandidate.seen_adopted _ _ hadopted, rfl⟩
    refine ⟨markAbsent scan work next, List.mem_map_of_mem hnext, ?_, ?_, ?_⟩
    · rw [markAbsent_id, hsame, hid]
    · exact markAbsent_adopted scan work hkept.1
    · rw [markAbsent_link, hkept.2, hlink]

theorem setCandidate (h : tables.Consistent) {candidate : DiscoveryCandidate}
    (hmem : candidate ∈ tables.candidates)
    (hfree : ∀ asset ∈ tables.assets, asset.sourceCandidateId ≠ candidate.id)
    {lifecycle : CandidateLifecycle} {linkedEquipmentKey : Option String}
    (hlawful : (candidate.decide lifecycle linkedEquipmentKey).Lawful) :
    (tables.setCandidate (candidate.decide lifecycle linkedEquipmentKey)).Consistent := by
  have hids : (replaceRow DiscoveryCandidate.id
      (candidate.decide lifecycle linkedEquipmentKey) tables.candidates).map
        DiscoveryCandidate.id = tables.candidates.map DiscoveryCandidate.id :=
    keys_replaceRow _ _ _
  have hkeys : (replaceRow DiscoveryCandidate.id
      (candidate.decide lifecycle linkedEquipmentKey) tables.candidates).map
        DiscoveryCandidate.candidateKey =
        tables.candidates.map DiscoveryCandidate.candidateKey := by
    apply map_replaceRow
    intro row hrow hsame
    have hrowSame : row = candidate := row_eq_of_key h.ids hrow hmem hsame
    rw [hrowSame]
    rfl
  unfold DiscoveryTables.setCandidate
  constructor
  case ids =>
    rw [hids]
    exact h.ids
  case keys =>
    rw [hkeys]
    exact h.keys
  case owned =>
    rw [hids]
    exact h.owned
  case shows =>
    intro other hother
    obtain ⟨hsame, _⟩ | ⟨hmem', _⟩ := mem_replaceRow.mp hother
    · subst hsame
      exact h.shows candidate hmem
    · exact h.shows other hmem'
  case lawful =>
    intro other hother
    obtain ⟨hsame, _⟩ | ⟨hmem', _⟩ := mem_replaceRow.mp hother
    · subst hsame
      exact hlawful
    · exact h.lawful other hmem'
  case assetKeys => exact h.assetKeys
  case sources => exact h.sources
  case owners =>
    intro asset hasset
    obtain ⟨owner, howner, hid, hrest⟩ := h.owners asset hasset
    have hdiffers : owner.id ≠ candidate.id :=
      fun hsame => hfree asset hasset (hid.symm.trans hsame)
    exact ⟨owner, mem_replaceRow.mpr (.inr ⟨howner, hdiffers⟩), hid, hrest⟩

theorem no_asset (h : tables.Consistent) {candidate : DiscoveryCandidate}
    (hmem : candidate ∈ tables.candidates) (hother : candidate.lifecycle ≠ .adopted) :
    ∀ asset ∈ tables.assets, asset.sourceCandidateId ≠ candidate.id := by
  intro asset hasset hsrc
  obtain ⟨owner, howner, hid, hadopted, _⟩ := h.owners asset hasset
  have hsame : owner = candidate :=
    row_eq_of_key h.ids howner hmem (hid.trans hsrc)
  exact hother (hsame ▸ hadopted)

theorem adopt (h : tables.Consistent) {candidate : DiscoveryCandidate}
    (hmem : candidate ∈ tables.candidates) {assetId : String} {next : DiscoveryTables}
    (hadopt : adoptCandidate tables candidate assetId = .ok next) :
    next.Consistent := by
  unfold adoptCandidate at hadopt
  split at hadopt
  next => cases hadopt
  next =>
    split at hadopt
    next => cases hadopt
    next hnone =>
      split at hadopt
      next => cases hadopt
      next hfresh =>
        cases hadopt
        rw [not_or] at hfresh
        have hfree : ∀ asset ∈ tables.assets, asset.sourceCandidateId ≠ candidate.id := by
          simpa using hnone
        have hlawful : (candidate.decide .adopted (some ("network:" ++ assetId))).Lawful := by
          apply DiscoveryCandidate.decide_lawful
          · exact fun hcontra => by cases hcontra
          · intro key hkey
            cases hkey
            exact ⟨by simp, .inr rfl⟩
        have hset := h.setCandidate hmem hfree hlawful
        refine { hset with
          assetKeys := ?assetKeys, sources := ?sources, owners := ?owners }
        case assetKeys =>
          apply nodup_keys_append h.assetKeys
          intro asset hasset hsame
          exact hfresh.2 (List.mem_map.mpr ⟨asset, hasset, hsame⟩)
        case sources => exact nodup_keys_append h.sources hfree
        case owners =>
          intro asset hasset
          rcases List.mem_append.mp hasset with hasset | hasset
          · exact hset.owners asset hasset
          · rw [List.mem_singleton] at hasset
            subst hasset
            exact ⟨_, mem_replaceRow.mpr (.inl ⟨rfl, candidate, hmem, rfl⟩),
              rfl, rfl, rfl⟩

theorem canonical_ne_empty {registry : EquipmentRegistry}
    {assets : List NetworkAsset} {key : String}
    (hexists : canonicalEquipmentExists registry assets key = true) :
    key ≠ "" := by
  intro hempty
  subst hempty
  simp [canonicalEquipmentExists] at hexists

theorem act (h : tables.Consistent) {registry : EquipmentRegistry}
    {candidateId : String} {expectedVersion : ℕ} {action : CandidateAction} {next : DiscoveryTables}
    (hact : actOnCandidate tables registry candidateId expectedVersion action = .ok next) :
    next.Consistent := by
  unfold actOnCandidate at hact
  split at hact
  next => cases hact
  next candidate hfound =>
    have hmem := (mem_and_eq_of_find? hfound).1
    split at hact
    next => cases hact
    next =>
      cases action with
      | review =>
        dsimp only at hact
        split at hact
        next => cases hact
        next hother =>
          cases hact
          apply h.setCandidate hmem (h.no_asset hmem hother)
          apply DiscoveryCandidate.decide_lawful
          · exact fun hcontra => by cases hcontra
          · exact fun key hkey => by cases hkey
      | ignore =>
        dsimp only at hact
        split at hact
        next => cases hact
        next hother =>
          cases hact
          apply h.setCandidate hmem (h.no_asset hmem hother)
          apply DiscoveryCandidate.decide_lawful
          · exact fun hcontra => by cases hcontra
          · exact fun key hkey => by cases hkey
      | linkExisting linkedEquipmentKey =>
        dsimp only at hact
        split at hact
        next => cases hact
        next hother =>
          split at hact
          next => cases hact
          next key =>
            split at hact
            next => cases hact
            next hexists =>
              cases hact
              apply h.setCandidate hmem (h.no_asset hmem hother)
              apply DiscoveryCandidate.decide_lawful
              · exact fun hcontra => by cases hcontra
              · intro linked hlinked
                cases hlinked
                have hfound : canonicalEquipmentExists registry tables.assets
                    key = true := by simpa using hexists
                exact ⟨canonical_ne_empty hfound, .inl rfl⟩
      | adopt assetId => exact h.adopt hmem hact

end DiscoveryTables.Consistent

theorem applyScanResult_cases {tables next : DiscoveryTables} {now : ℤ}
    (happlied : applyScanResult tables scanId result ids now = .ok next) :
    ∃ scan ∈ tables.scans, scan.id = scanId ∧
      ((∃ finished, next = tables.setScan finished) ∨ (result.observations.map
          DiscoveryObservationInput.candidateKey).Nodup ∧
        ∃ work, reconcileObservations tables scan result ids = .ok work ∧
          next = tables.reconciled scan work result now) := by
  unfold applyScanResult at happlied
  rw [bind_eq_ok] at happlied
  obtain ⟨scan, hfound, happlied⟩ := happlied
  have hscan := mem_of_findScan hfound
  refine ⟨scan, hscan.1, hscan.2, ?_⟩
  split at happlied
  next => cases happlied
  next =>
    split at happlied
    next =>
      cases happlied
      exact .inl ⟨_, rfl⟩
    next =>
      split at happlied
      next => cases happlied
      next hdist =>
        rw [bind_eq_ok] at happlied
        obtain ⟨work, hwork, happlied⟩ := happlied
        cases happlied
        exact .inr ⟨not_not.mp hdist, work, hwork, rfl⟩

/-- Each applied scan tests the ports of the candidates it observes, after
their earlier observations. -/
def TestsKnownPorts (tables : DiscoveryTables) : DiscoveryAction → Prop
  | .applyScanResult scanId result _ _ =>
    ∀ scan ∈ tables.scans, scan.id = scanId →
      ∀ observation ∈ result.observations, TestsKnown tables scan observation
  | _ => True

instance TestsKnown.decidable (tables : DiscoveryTables) (scan : DiscoveryScan)
    (observation : DiscoveryObservationInput) :
    Decidable (TestsKnown tables scan observation) :=
  inferInstanceAs (Decidable (∀ candidate ∈ tables.candidates, _))

instance TestsKnownPorts.decidable (tables : DiscoveryTables) :
    ∀ action, Decidable (TestsKnownPorts tables action)
  | .applyScanResult .. =>
    inferInstanceAs (Decidable (∀ scan ∈ tables.scans, _))
  | .startScan .. | .requestCancel _ | .finishWithoutResults ..
  | .reconcileInterruptedScans _ | .actOnCandidate .. => .isTrue trivial

theorem DiscoveryTables.Consistent.recorded {tables : DiscoveryTables}
    (h : tables.Consistent) {scan : DiscoveryScan} {work : Reconciliation}
    (hwork : reconcileObservations tables scan result ids = .ok work)
    (hdist : (result.observations.map DiscoveryObservationInput.candidateKey).Nodup)
    (htests : ∀ observation ∈ result.observations, TestsKnown tables scan observation) :
    Recorded tables scan result.observations work := by
  have hfold := h.recorded_nil.fold hwork hdist htests
  exact hfold

theorem DiscoveryTables.Consistent.apply {tables next : DiscoveryTables}
    (h : tables.Consistent) {now : ℤ}
    (htests : TestsKnownPorts tables (.applyScanResult scanId result ids now))
    (happlied : applyScanResult tables scanId result ids now = .ok next) :
    next.Consistent := by
  obtain ⟨scan, hscan, hid, hform⟩ := applyScanResult_cases happlied
  rcases hform with ⟨finished, rfl⟩ | ⟨hdist, work, hwork, rfl⟩
  · exact h.setScan finished
  · exact h.reconciled (h.recorded hwork hdist (htests scan hscan hid)) result now

theorem toOption_eq_some {ε α : Type} {computed : Except ε α} {value : α}
    (hsome : computed.toOption = some value) : computed = .ok value := by
  cases computed with
  | error raised => cases hsome
  | ok found =>
    cases hsome
    rfl

theorem DiscoveryTables.Consistent.of_scans {tables next : DiscoveryTables}
    (h : tables.Consistent) (hcands : next.candidates = tables.candidates)
    (hobservations : next.observations = tables.observations)
    (hassets : next.assets = tables.assets) : next.Consistent := by
  cases next with
  | mk scans candidates observations assets =>
    cases hcands
    cases hobservations
    cases hassets
    exact ⟨h.ids, h.keys, h.owned, h.shows, h.lawful, h.assetKeys, h.sources, h.owners⟩

theorem DiscoveryTables.Consistent.step {tables next : DiscoveryTables}
    (h : tables.Consistent) {action : DiscoveryAction} (htests : TestsKnownPorts tables action)
    (hstep : tables.step action = some next) : next.Consistent := by
  cases action with
  | startScan id requestedCidrs requestedPorts =>
    have hok := toOption_eq_some hstep
    unfold startScan at hok
    split at hok
    next => cases hok
    next =>
      cases hok
      exact h.of_scans rfl rfl rfl
  | requestCancel scanId =>
    have hok := toOption_eq_some hstep
    unfold requestCancel at hok
    rw [bind_eq_ok] at hok
    obtain ⟨scan, _, hok⟩ := hok
    split at hok
    next =>
      cases hok
      exact h.setScan _
    next =>
      cases hok
      exact h
  | applyScanResult scanId result ids now =>
    exact h.apply htests (toOption_eq_some hstep)
  | finishWithoutResults scanId status errorCode errorMessage result now =>
    have hok := toOption_eq_some hstep
    unfold finishWithoutResults at hok
    rw [bind_eq_ok] at hok
    obtain ⟨scan, _, hok⟩ := hok
    split at hok
    next =>
      cases hok
      exact h
    next =>
      cases hok
      exact h.setScan _
  | reconcileInterruptedScans now =>
    cases hstep
    exact h.of_scans rfl rfl rfl
  | actOnCandidate registry candidateId expectedVersion action =>
    exact h.act (toOption_eq_some hstep)

/-! ## Laws -/

/-- A scan marks the candidate: it is no longer present or its lifecycle becomes
`disappeared`. -/
def DiscoveryCandidate.MarkedAs (candidate next : DiscoveryCandidate) : Prop :=
  candidate.present = true ∧ next.present = false ∨
    candidate.lifecycle ≠ .disappeared ∧ next.lifecycle = .disappeared

/-- The address of the candidate is a host of the networks of the scan, thus
one of the addresses a scan within its budget probes. -/
def DiscoveryScan.Includes (scan : DiscoveryScan) (candidate : DiscoveryCandidate) : Prop :=
  ∃ address, candidate.ipAddress = .v4 address ∧
    (∃ network ∈ scan.requestedCidrs, network.includesScannableHost address = true) ∧
    ∀ maxHosts addresses, boundedDeduplicatedHosts scan.requestedCidrs maxHosts = .ok addresses →
      address ∈ addresses

def DiscoveryTables.NeighborCovered (tables : DiscoveryTables)
    (candidate : DiscoveryCandidate) : Prop :=
  ∃ latest, latestObservation (observationsOf candidate.id tables.observations) = some latest ∧
    latest.openPorts = [] ∧ latest.neighborTable = true

structure ScanLaws (scan : DiscoveryScan) (result : DiscoveryScanResult)
    (tables next : DiscoveryTables) : Prop where
  marked : ∀ candidate ∈ tables.candidates, ∀ after ∈ next.candidates,
    after.id = candidate.id → candidate.MarkedAs after →
    candidate.present = true ∧
      (∀ observation ∈ result.observations, observation.candidateKey ≠ candidate.candidateKey) ∧
      scan.Includes candidate ∧
      ((∀ port ∈ knownPorts tables.observations candidate.id,
          port ∈ scan.requestedPorts) ∨ tables.NeighborCovered candidate)
  decisions : ∀ candidate ∈ tables.candidates, ∃ after ∈ next.candidates,
    after.id = candidate.id ∧ after.decision = candidate.decision
  created : ∀ after ∈ next.candidates, (∀ candidate ∈ tables.candidates, candidate.id ≠ after.id) →
    after.present = true ∧ after.lifecycle = .new
  assets : next.assets = tables.assets

def DiscoveryCandidate.LinkedTo (candidate : DiscoveryCandidate) (asset : NetworkAsset) : Prop :=
  asset.sourceCandidateId = candidate.id ∨ candidate.linkedEquipmentKey = some asset.assetKey

structure DiscoveryTables.Lawful (tables : DiscoveryTables) : Prop where
  disappeared : ∀ candidate ∈ tables.candidates,
    candidate.lifecycle = .disappeared → candidate.present = false
  linked : ∀ candidate ∈ tables.candidates, candidate.present = true →
    candidate.linkedEquipmentKey ≠ none →
    candidate.lifecycle = .matchedExisting ∨ candidate.lifecycle = .adopted
  oneAsset : ∀ candidate ∈ tables.candidates, ∀ asset ∈ tables.assets, ∀ other ∈ tables.assets,
    candidate.LinkedTo asset → candidate.LinkedTo other → asset = other

theorem DiscoveryTables.Consistent.tablesLawful {tables : DiscoveryTables}
    (h : tables.Consistent) : tables.Lawful := by
  have hlink : ∀ candidate ∈ tables.candidates, ∀ asset ∈ tables.assets, candidate.LinkedTo asset →
      candidate.linkedEquipmentKey = some asset.assetKey := by
    intro candidate hcand asset hasset hlinked
    rcases hlinked with hsrc | hlinked
    · obtain ⟨owner, howner, hid, _, hkey⟩ := h.owners asset hasset
      have hsame : owner = candidate :=
        row_eq_of_key h.ids howner hcand (hid.trans hsrc)
      exact hsame ▸ hkey
    · exact hlinked
  constructor
  case disappeared =>
    exact fun candidate hcand => (h.lawful candidate hcand).disappeared
  case linked =>
    intro candidate hcand hpresent hsome
    obtain ⟨key, hkey⟩ := Option.ne_none_iff_exists'.mp hsome
    rcases ((h.lawful candidate hcand).linked key hkey).2 with
      hmatched | hadopted | hdisappeared
    · exact .inl hmatched
    · exact .inr hadopted
    · have habsent := (h.lawful candidate hcand).disappeared hdisappeared
      rw [hpresent] at habsent
      cases habsent
  case oneAsset =>
    intro candidate hcand asset hasset other hother hfirst hsecond
    have hkeys := (hlink candidate hcand asset hasset hfirst).symm.trans
      (hlink candidate hcand other hother hsecond)
    exact row_eq_of_key h.assetKeys hasset hother (Option.some.inj hkeys)

theorem isAbsent_spec {tables : DiscoveryTables} (h : tables.Consistent)
    {scan : DiscoveryScan} {work : Reconciliation}
    {candidate : DiscoveryCandidate} (hcand : candidate ∈ tables.candidates)
    (hrows : observationsOf candidate.id work.observations =
      observationsOf candidate.id tables.observations)
    (habsent : isAbsent scan work candidate = true) :
    candidate.present = true ∧ candidate.id ∉ work.observedIds ∧ scan.Includes candidate ∧
      ((∀ port ∈ knownPorts tables.observations candidate.id, port ∈ scan.requestedPorts) ∨
        tables.NeighborCovered candidate) := by
  unfold isAbsent at habsent
  rw [Bool.and_eq_true, Bool.and_eq_true, decide_eq_true_eq] at habsent
  obtain ⟨⟨hpresent, hunseen⟩, hcovered⟩ := habsent
  refine ⟨hpresent, hunseen, ?_⟩
  cases haddress : candidate.ipAddress with
  | v6 address =>
    rw [haddress] at hcovered
    cases hcovered
  | v4 address =>
    rw [haddress] at hcovered
    dsimp only at hcovered
    rw [Bool.and_eq_true, List.any_eq_true, hrows] at hcovered
    obtain ⟨hscope, hevidence⟩ := hcovered
    refine ⟨⟨address, haddress, hscope, fun _ _ hbounded =>
      (mem_boundedDeduplicatedHosts hbounded address).mpr hscope⟩, ?_⟩
    split at hevidence
    next => cases hevidence
    next latest hlat =>
      unfold absenceCovered at hevidence
      split at hevidence
      next =>
        left
        intro port hport
        have hopen := h.shows candidate hcand latest hlat port hport
        have hall := List.all_eq_true.mp hevidence port hopen
        simpa using hall
      next hclosed =>
        exact .inr ⟨latest, hlat, not_not.mp hclosed, hevidence⟩

theorem reconciled_scanLaws {tables : DiscoveryTables} (h : tables.Consistent)
    {scan : DiscoveryScan} {work : Reconciliation}
    (hrecorded : Recorded tables scan result.observations work) (now : ℤ) :
    ScanLaws scan result tables (tables.reconciled scan work result now) := by
  constructor
  case marked =>
    intro candidate hcand after hafter hid hmarked
    obtain ⟨next, hnext, rfl⟩ := List.mem_map.mp hafter
    rw [markAbsent_id] at hid
    obtain ⟨found, hfound, hfoundId, hform⟩ :=
      hrecorded.successor h.ids hcand
    have hsame : next = found :=
      row_eq_of_key hrecorded.ids hnext hfound (hid.trans hfoundId.symm)
    subst hsame
    by_cases habsent : isAbsent scan work next = true
    · rcases hform with ⟨rfl, hunseen⟩ | ⟨hseen, _⟩
      · have hrows := (hrecorded.unobserved next hnext hunseen).2
        obtain ⟨hpresent, _, hscope, hcovered⟩ :=
          isAbsent_spec h hcand hrows habsent
        refine ⟨hpresent, ?_, hscope, hcovered⟩
        intro observation hobs hkey
        obtain ⟨other, hother, hotherKey, hseen⟩ :=
          hrecorded.all observation hobs
        have hotherSame : other = next :=
          row_eq_of_key hrecorded.keys hother hnext (hotherKey.trans hkey)
        exact hunseen (hotherSame ▸ hseen)
      · unfold isAbsent at habsent
        simp [hid, hseen] at habsent
    · unfold markAbsent at hmarked
      rw [if_neg habsent] at hmarked
      rcases hform with ⟨rfl, _⟩ | ⟨_, observation, rfl⟩
      · rcases hmarked with ⟨hpresent, hgone⟩ | ⟨hbefore, hlater⟩
        · rw [hpresent] at hgone
          cases hgone
        · exact absurd hlater hbefore
      · rcases hmarked with ⟨_, hgone⟩ | ⟨_, hlater⟩
        · cases hgone
        · exact absurd hlater (DiscoveryCandidate.seen_not_disappeared scan.id observation)
  case decisions =>
    intro candidate hcand
    obtain ⟨next, hnext, hid, hform⟩ := hrecorded.successor h.ids hcand
    refine ⟨markAbsent scan work next, List.mem_map_of_mem hnext, ?_, ?_⟩
    · rw [markAbsent_id, hid]
    · rw [markAbsent_decision]
      rcases hform with ⟨rfl, _⟩ | ⟨_, observation, rfl⟩
      · rfl
      · exact DiscoveryCandidate.seen_decision scan.id observation
  case created =>
    intro after hafter hnew
    obtain ⟨next, hnext, rfl⟩ := List.mem_map.mp hafter
    rw [markAbsent_id] at hnew
    by_cases hobsd : next.id ∈ work.observedIds
    · have hpresent : isAbsent scan work next = false := by
        unfold isAbsent
        simp [hobsd]
      have hkept : markAbsent scan work next = next := by
        unfold markAbsent
        rw [hpresent]
        rfl
      obtain ⟨observation, _, hform⟩ :=
        hrecorded.observed next hnext hobsd
      rcases hform with ⟨old, hold, hseen, _⟩ | ⟨hform, _⟩
      · have hsame : old.id = next.id := by
          rw [hseen]
          rfl
        exact absurd hsame (hnew old hold)
      · rw [hkept, hform]
        exact ⟨rfl, rfl⟩
    · exact absurd rfl (hnew next (hrecorded.unobserved next hnext hobsd).1)
  case assets => rfl

theorem applyScanResult_scanLaws {tables next : DiscoveryTables} (h : tables.Consistent) {now : ℤ}
    (htests : TestsKnownPorts tables (.applyScanResult scanId result ids now))
    (happlied : applyScanResult tables scanId result ids now = .ok next) :
    ∃ scan ∈ tables.scans, scan.id = scanId ∧ ScanLaws scan result tables next := by
  obtain ⟨scan, hscan, hid, hform⟩ := applyScanResult_cases happlied
  refine ⟨scan, hscan, hid, ?_⟩
  rcases hform with ⟨finished, rfl⟩ | ⟨hdist, work, hwork, rfl⟩
  · constructor
    case marked =>
      intro candidate hcand after hafter hsame hmarked
      have hequal : after = candidate :=
        row_eq_of_key h.ids hafter hcand hsame
      subst hequal
      rcases hmarked with ⟨hpresent, hgone⟩ | ⟨hbefore, hlater⟩
      · rw [hpresent] at hgone
        cases hgone
      · exact absurd hlater hbefore
    case decisions =>
      exact fun candidate hcand => ⟨candidate, hcand, rfl, rfl⟩
    case created =>
      exact fun after hafter hnew => absurd rfl (hnew after hafter)
    case assets => rfl
  · exact reconciled_scanLaws h (h.recorded hwork hdist (htests scan hscan hid)) now

/-- In every run in which each scan tests the ports the candidates it observes
are known by, scans mark only candidates they show to be absent and keep the
decisions of the operators, and every state is lawful. -/
theorem run_discoveryLawful {actions : List DiscoveryAction}
    {last : DiscoveryTables}
    (hmeet : StepsMeet DiscoveryTables.step TestsKnownPorts .empty actions)
    (hrun : runFrom DiscoveryTables.step .empty actions = some last) :
    last.Lawful ∧ ∀ scanId result ids now next,
      TestsKnownPorts last (.applyScanResult scanId result ids now) →
      last.step (.applyScanResult scanId result ids now) = some next →
      next.Lawful ∧ ∃ scan ∈ last.scans, scan.id = scanId ∧
        ScanLaws scan result last next := by
  have hlast : last.Consistent :=
    (Reaches.of_stepsMeet hmeet hrun).invariant
      (fun _ _ _ h htests hstep => h.step htests hstep) .empty
  refine ⟨hlast.tablesLawful, ?_⟩
  intro scanId result ids now next htests hstep
  have happlied := toOption_eq_some hstep
  exact ⟨(hlast.apply htests happlied).tablesLawful,
    applyScanResult_scanLaws hlast htests happlied⟩

def laboratoryNetwork : Ipv4Network where
  networkAddress := 3232248320
  prefixLength := 29
  prefixLength_le := by decide
  aligned := by decide
  networkAddress_lt := by decide

def laboratoryHost (ports : List ℤ) (observedAt : ℤ) :
    DiscoveryObservationInput :=
  { ipAddress := .v4 3232248322
    macAddress := none
    hostname := none
    sourceInterface := none
    sourceSubnet := "192.168.50.0/29"
    services := ports.map some
    neighborTable := false
    observedAt
    fingerprintSha256 := "" }

def scanResult (observations : List DiscoveryObservationInput) :
    DiscoveryScanResult :=
  { observations := observations
    hostsConsidered := 6
    probesAttempted := 6
    durationMs := 0
    processCpuMs := 0
    networkConnectAttempts := 6
    networkPayloadBytes := 0 }

def laboratoryIds (observationId : String) : DiscoveryIds :=
  ⟨fun _ => "candidate-1", fun _ => observationId⟩

/-- The host is found by one port; a scan which tests this port again finds it
by another port. -/
def coveringRun : List DiscoveryAction :=
  [.startScan "scan-1" [laboratoryNetwork] [80],
    .applyScanResult "scan-1" (scanResult [laboratoryHost [80] 10])
      (laboratoryIds "observation-1") 11,
    .startScan "scan-2" [laboratoryNetwork] [80, 443],
    .applyScanResult "scan-2" (scanResult [laboratoryHost [443] 20])
      (laboratoryIds "observation-2") 21,
    .startScan "scan-3" [laboratoryNetwork] [443]]

theorem run_discoveryLawful_covering :
    ∃ last next, runFrom DiscoveryTables.step .empty coveringRun = some last ∧
      last.step (.applyScanResult "scan-3" (scanResult [])
        (laboratoryIds "observation-3") 31) = some next ∧
      next.candidates.map DiscoveryCandidate.lifecycle = [.disappeared] ∧
      next.Lawful ∧ ∃ scan ∈ last.scans, scan.id = "scan-3" ∧
        ScanLaws scan (scanResult []) last next := by
  obtain ⟨last, hlast⟩ : ∃ last,
      runFrom DiscoveryTables.step .empty coveringRun = some last := ⟨_, rfl⟩
  obtain ⟨next, hnext, hgone⟩ : ∃ next,
      last.step (.applyScanResult "scan-3" (scanResult [])
        (laboratoryIds "observation-3") 31) = some next ∧
      next.candidates.map DiscoveryCandidate.lifecycle = [.disappeared] := by
    cases hlast
    exact ⟨_, rfl, by decide +kernel⟩
  have hmeet : StepsMeet DiscoveryTables.step TestsKnownPorts .empty
      coveringRun := by
    decide +kernel
  have htests : TestsKnownPorts last (.applyScanResult "scan-3" (scanResult [])
      (laboratoryIds "observation-3") 31) :=
    fun _ _ _ _ hnone => absurd hnone List.not_mem_nil
  obtain ⟨hlawful, hlaws⟩ :=
    (run_discoveryLawful hmeet hlast).2 _ _ _ _ _ htests hnext
  exact ⟨last, next, hlast, hnext, hgone, hlawful, hlaws⟩

/-- The host is found with two open ports, then by a scan of one of them. -/
def narrowedRun : List DiscoveryAction :=
  [.startScan "scan-1" [laboratoryNetwork] [80, 443],
    .applyScanResult "scan-1" (scanResult [laboratoryHost [80, 443] 10])
      (laboratoryIds "observation-1") 11,
    .startScan "scan-2" [laboratoryNetwork] [443],
    .applyScanResult "scan-2" (scanResult [laboratoryHost [443] 20])
      (laboratoryIds "observation-2") 21,
    .startScan "scan-3" [laboratoryNetwork] [443]]

/-- A scan of one port marks the host although the other port, which was open
when it was last tested, is not scanned. -/
theorem narrowedScans_mark_host :
    ∃ last next, runFrom DiscoveryTables.step .empty narrowedRun = some last ∧
      last.step (.applyScanResult "scan-3" (scanResult [])
        (laboratoryIds "observation-3") 31) = some next ∧
      ¬ ∃ scan ∈ last.scans, scan.id = "scan-3" ∧
        ScanLaws scan (scanResult []) last next := by
  obtain ⟨last, hlast⟩ : ∃ last,
      runFrom DiscoveryTables.step .empty narrowedRun = some last := ⟨_, rfl⟩
  obtain ⟨next, hnext⟩ : ∃ next, last.step (.applyScanResult "scan-3" (scanResult [])
        (laboratoryIds "observation-3") 31) = some next := by
    cases hlast
    exact ⟨_, rfl⟩
  have hports : ∀ scan ∈ last.scans, scan.id = "scan-3" →
      80 ∉ scan.requestedPorts := by
    cases hlast
    decide +kernel
  have hmarked : ∃ candidate ∈ last.candidates, ∃ after ∈ next.candidates,
      after.id = candidate.id ∧ candidate.present = true ∧
        after.present = false ∧
        80 ∈ knownPorts last.observations candidate.id ∧
        ∀ row ∈ observationsOf candidate.id last.observations, row.openPorts ≠ [] := by
    cases hlast
    cases hnext
    decide +kernel
  refine ⟨last, next, hlast, hnext, ?_⟩
  rintro ⟨scan, hscan, hid, hlaws⟩
  obtain ⟨candidate, hcand, after, hafter, hsame, hpresent, hgone, hknown,
    hopen⟩ := hmarked
  obtain ⟨_, _, _, hcovered⟩ := hlaws.marked candidate hcand after hafter
    hsame (.inl ⟨hpresent, hgone⟩)
  rcases hcovered with hscanned | ⟨latest, hlat, hclosed, _⟩
  · exact hports scan hscan hid (hscanned 80 hknown)
  · exact hopen latest (latestObservation_mem hlat) hclosed

end Nexolab
