import Nexolab.TelemetryHistory

/-!
# Which history windows are loaded whole

A loader collects the newest samples of its window, page by page.  It leaves samples
out exactly when a page ends within the first millisecond of the window and is not
the last one.
-/

namespace Nexolab

section Windows

variable {ι : Type} [LinearOrder ι] {snapshot : HistorySnapshot ι}
  {filters : TelemetryFilters} {start stop : ℤ}

def HistorySample.stamp (sample : HistorySample ι) : ℤ := millis sample.capturedAt

theorem window_pairwise :
    (snapshot.window filters start stop).Pairwise NewerFirst :=
  List.pairwise_insertionSort _ _

theorem NewerFirst.capturedAt_le {first second : HistorySample ι}
    (hnewer : NewerFirst first second) : second.capturedAt ≤ first.capturedAt := by
  rcases Prod.Lex.le_iff.mp hnewer with hlt | ⟨hsame, _⟩
  · exact le_of_lt hlt
  · exact le_of_eq hsame

theorem window_stamps : (snapshot.window filters start stop).Pairwise
    fun first second => second.stamp ≤ first.stamp :=
  window_pairwise.imp fun hnewer => millis_mono hnewer.capturedAt_le

theorem window_perm :
    (snapshot.window filters start stop).Perm (snapshot.within filters start stop) :=
  List.perm_insertionSort _ _

theorem window_distinct :
    ((snapshot.window filters start stop).map (·.eventId)).Nodup :=
  (window_perm.map _).nodup_iff.mpr (snapshot.distinct.sublist (List.filter_sublist.map _))

theorem window_earlier {cursor : ℤ} (hcursor : cursor ≤ stop) :
    snapshot.window filters start cursor = (snapshot.window filters start stop).filter fun sample =>
        decide (sample.stamp ≤ cursor - 1) := by
  refine List.Perm.eq_of_pairwise ?_ window_pairwise (window_pairwise.filter _) ?_
  · intro first second hfirst hsecond hnewer holder
    have hid : first.eventId = second.eventId := by
      have hequal := toLex.injective (le_antisymm holder hnewer)
      exact congrArg Prod.snd hequal
    have hstored : ∀ {limit : ℤ} {sample : HistorySample ι},
        sample ∈ snapshot.window filters start limit → sample ∈ snapshot.samples :=
      fun hsamp => List.mem_of_mem_filter (window_perm.mem_iff.mp hsamp)
    exact List.inj_on_of_nodup_map snapshot.distinct (hstored hfirst)
      (hstored (List.mem_of_mem_filter hsecond)) hid
  · refine window_perm.trans (.trans ?_ (window_perm.filter _).symm)
    unfold HistorySnapshot.within
    rw [List.filter_filter]
    refine .of_eq (List.filter_congr fun sample _ => ?_)
    have hend : decide (sample.capturedAt < cursor * 1000) = (decide (sample.stamp ≤ cursor - 1) &&
          decide (sample.capturedAt < stop * 1000)) := by
      rw [← Bool.decide_and, decide_eq_decide, HistorySample.stamp, lt_date_iff, lt_date_iff]
      omega
    rw [hend]
    cases filters.matches sample <;> cases decide (sample.stamp ≤ cursor - 1) <;> simp

end Windows

section Collecting

variable {ι : Type} [DecidableEq ι] (pager : HistoryPager ι)

def HistoryPager.entries (rows : List (HistorySample ι)) :
    HistoryPager.Collected ι :=
  (rows.filter pager.keep).map fun sample => (sample.eventId, sample)

omit [DecidableEq ι] in
theorem HistoryPager.values_entries (rows : List (HistorySample ι)) :
    (pager.entries rows).values = rows.filter pager.keep := by
  simp [HistoryPager.entries, Dictionary.values, Function.comp_def]

omit [DecidableEq ι] in
theorem HistoryPager.keys_entries (rows : List (HistorySample ι)) :
    (pager.entries rows).keys = (rows.filter pager.keep).map (·.eventId) := by
  simp [HistoryPager.entries, Dictionary.keys, Function.comp_def]

theorem HistoryPager.collect_append (first second : List (HistorySample ι))
    (collected : HistoryPager.Collected ι) :
    pager.collect (first ++ second) collected =
      pager.collect second (pager.collect first collected) :=
  List.foldl_append

omit [DecidableEq ι] in
theorem Dictionary.set_of_mem {κ ν : Type*} [DecidableEq κ]
    {dictionary : Dictionary κ ν} {key : κ} {value : ν}
    (hnodup : dictionary.keys.Nodup) (hmem : (key, value) ∈ dictionary) :
    dictionary.set key value = dictionary := by
  induction dictionary with
  | nil => cases hmem
  | cons entry rest ih =>
    rw [Dictionary.keys, List.map_cons, List.nodup_cons] at hnodup
    rw [Dictionary.set]
    rcases List.mem_cons.mp hmem with rfl | hrest
    · rw [if_pos rfl]
    · have hne : entry.1 ≠ key :=
        fun hsame => hnodup.1 (hsame ▸ List.mem_map_of_mem hrest)
      rw [if_neg hne, ih hnodup.2 hrest]

variable {pager}

variable {collected : HistoryPager.Collected ι}

theorem HistoryPager.collect_known {items : List (HistorySample ι)} (hnodup : collected.keys.Nodup)
    (hknown : ∀ sample ∈ items, pager.keep sample = true →
      (sample.eventId, sample) ∈ collected) :
    pager.collect items collected = collected := by
  induction items with
  | nil => rfl
  | cons sample rest ih =>
    have hrest := ih fun other hother => hknown other (List.mem_cons_of_mem _ hother)
    rw [HistoryPager.collect, List.foldl_cons]
    split_ifs with hkeep
    · rw [Dictionary.set_of_mem hnodup (hknown sample List.mem_cons_self hkeep)]
      exact hrest
    · exact hrest

theorem HistoryPager.collect_new {items : List (HistorySample ι)}
    (hdist : (collected.keys ++ items.map (·.eventId)).Nodup) :
    pager.collect items collected = collected ++ pager.entries items := by
  induction items generalizing collected with
  | nil => simp [HistoryPager.collect, HistoryPager.entries]
  | cons sample rest ih =>
    have hnew : sample.eventId ∉ collected.keys := by
      intro hmem
      exact (List.nodup_append.mp hdist).2.2 _ hmem _ (by simp) rfl
    rw [HistoryPager.collect, List.foldl_cons]
    split_ifs with hkeep
    · rw [Dictionary.set_of_not_mem _ hnew]
      refine (ih ?_).trans ?_
      · simpa [Dictionary.keys] using hdist
      · simp [HistoryPager.entries, hkeep]
    · refine (ih ?_).trans ?_
      · refine hdist.sublist ?_
        exact (List.Sublist.refl _).append (List.sublist_cons_self _ _)
      · simp [HistoryPager.entries, hkeep]

theorem HistoryPager.collect_page {rows : List (HistorySample ι)}
    (hdist : (rows.map (·.eventId)).Nodup) {first done size : ℕ}
    (hfirst : first ≤ done) (hdone : done ≤ first + size) :
    pager.collect ((rows.drop first).take size) (pager.entries (rows.take done)) =
      pager.entries (rows.take (first + size)) := by
  have hsplit : rows.take (first + size) =
      rows.take done ++ (rows.drop done).take (first + size - done) := by
    rw [← List.take_add]
    congr 1
    omega
  have htake : ((rows.take done).map (·.eventId) ++
      ((rows.drop done).take (first + size - done)).map (·.eventId)).Nodup := by
    rw [← List.map_append, ← hsplit]
    exact hdist.sublist ((List.take_sublist _ _).map _)
  have hkeys : (pager.entries (rows.take done)).keys.Sublist
      ((rows.take done).map (·.eventId)) := by
    rw [keys_entries]
    exact List.filter_sublist.map _
  have hknown : pager.collect ((rows.take done).drop first)
      (pager.entries (rows.take done)) = pager.entries (rows.take done) := by
    refine collect_known (hkeys.nodup (List.nodup_append.mp htake).1) ?_
    intro sample hsamp hkeep
    refine List.mem_map.mpr ⟨sample, ?_, rfl⟩
    exact List.mem_filter.mpr ⟨List.mem_of_mem_drop hsamp, hkeep⟩
  rw [page_extends hfirst hdone, collect_append, hknown, collect_new, hsplit]
  · simp [entries]
  · exact htake.sublist (hkeys.append (List.Sublist.refl _))

end Collecting

/-! ## Runs of the loop -/

section Loading

variable {ι : Type} [LinearOrder ι] {snapshot : HistorySnapshot ι}
  {pager : HistoryPager ι} {rows : List (HistorySample ι)}

def HistoryPager.EndsAs (pager : HistoryPager ι) (rows : List (HistorySample ι))
    (outcome : Except String (HistoryPager.Collected ι × Option Instant)) :
    PagesEnd (HistorySample ι) → Prop
  | .whole => ∃ snapshotAt, outcome = .ok (pager.entries rows, snapshotAt)
  | .cut left => ∃ got snapshotAt, rows = got ++ left ∧
      outcome = .ok (pager.entries got, snapshotAt)
  | .dense => ∃ text, outcome = .error text
  | .beyond => ∃ text, outcome = .error text

theorem history_eq {first : ℕ} {cursorTo : ℤ} (snapshotAt : Option Instant)
    (hrows : snapshot.window pager.filters pager.fromAt cursorTo = rows.drop first) :
    snapshot.history ⟨pager.filters, pager.fromAt, cursorTo, snapshotAt, pager.pageSize, 0⟩ =
      { items := (rows.drop first).take pager.pageSize
        nextOffset := if pager.pageSize < (rows.drop first).length
          then some pager.pageSize else none
        snapshotAt := some (snapshotAt.getD snapshot.takenAt) } := by
  unfold HistorySnapshot.history
  dsimp only
  rw [hrows, List.drop_zero, List.take_take, Nat.min_eq_left (Nat.le_succ _),
    List.length_take, Nat.zero_add]
  congr 1
  exact if_congr (by omega) rfl rfl

omit [LinearOrder ι] in
theorem dropWhile_eq_drop {first size : ℕ} {oldest newest : HistorySample ι}
    (hrows : rows.Pairwise fun first second => second.stamp ≤ first.stamp)
    (holdest : oldest ∈ (rows.drop first).take size)
    (hnewest : newest ∈ (rows.drop first).take size) (hlt : oldest.stamp < newest.stamp) :
    ∃ next, first ≤ next ∧ next ≤ first + size ∧
      (rows.drop first).dropWhile (fun sample =>
        decide (oldest.stamp < sample.stamp)) = rows.drop next ∧
      (rows.filter fun sample => decide (sample.stamp ≤ oldest.stamp)) = rows.drop next := by
  have hbefore : ∀ sample ∈ rows.take first,
      decide (oldest.stamp < sample.stamp) = true := by
    intro sample hsamp
    rw [← List.take_append_drop first rows] at hrows
    exact decide_eq_true (hlt.trans_le ((List.pairwise_append.mp hrows).2.2 sample
      hsamp newest (List.mem_of_mem_take hnewest)))
  have hsame : rows.dropWhile (fun sample => decide (oldest.stamp < sample.stamp)) =
      (rows.drop first).dropWhile fun sample =>
        decide (oldest.stamp < sample.stamp) := by
    conv_lhs => rw [← List.take_append_drop first rows]
    exact List.dropWhile_append_of_pos hbefore
  have hdrop : (rows.drop first).dropWhile (fun sample =>
      decide (oldest.stamp < sample.stamp)) = rows.drop (first +
        ((rows.drop first).takeWhile fun sample =>
          decide (oldest.stamp < sample.stamp)).length) := by
    rw [← List.drop_drop, dropWhile_eq_drop_length]
  refine ⟨_, Nat.le_add_right _ _, ?_, hdrop, ?_⟩
  · by_contra hlong
    have hstart := List.takeWhile_prefix (l := rows.drop first)
      fun sample => decide (oldest.stamp < sample.stamp)
    rw [List.prefix_iff_eq_take] at hstart
    have hmem : oldest ∈ (rows.drop first).takeWhile fun sample =>
        decide (oldest.stamp < sample.stamp) := by
      rw [hstart]
      exact List.take_subset_take_left _ (by omega) holdest
    have hlater := List.mem_takeWhile_imp hmem
    exact lt_irrefl _ (of_decide_eq_true hlater)
  · rw [filter_le_eq_dropWhile hrows, hsame, hdrop]

omit [LinearOrder ι] in
theorem stamp_last_le (hrows : rows.Pairwise fun first second =>
    second.stamp ≤ first.stamp) {oldest sample : HistorySample ι}
    (hlast : rows.getLast? = some oldest) (hsamp : sample ∈ rows) :
    oldest.stamp ≤ sample.stamp := by
  have hmin := min?_map_eq_last hrows hlast
  rw [List.min?_eq_some_iff] at hmin
  exact hmin.2 _ (List.mem_map_of_mem hsamp)

theorem HistoryPager.readPage_eq (items : List (HistorySample ι))
    (nextOffset : Option ℕ) (cursorTo : ℤ) (snapshotAt : Option Instant)
    (takenAt : Instant) (collected : HistoryPager.Collected ι) :
    pager.readPage ⟨items, nextOffset, some (snapshotAt.getD takenAt)⟩ cursorTo
      snapshotAt collected =
      if nextOffset = none then .ok (pager.collect items collected, none)
      else
        match (items.map HistorySample.stamp).min? with
        | none => .error pager.noCursor
        | some oldest =>
          if oldest ≤ pager.fromAt then
            .ok (pager.collect items collected, none)
          else if pager.pageSize ≤ (items.map HistorySample.stamp).count oldest then
            .error "Telemetry history timestamp density exceeds the safe cursor window"
          else
            (pager.advance oldest cursorTo).map fun next =>
              (pager.collect items collected, some (next, some (snapshotAt.getD takenAt))) := by
  have hgetD : snapshotAt.getD (snapshotAt.getD takenAt) = snapshotAt.getD takenAt := by
    cases snapshotAt <;> rfl
  unfold HistoryPager.readPage
  refine Eq.trans (pure_bind _ _) ?_
  dsimp only
  rw [hgetD, if_neg (not_not_intro rfl)]
  refine if_congr Iff.rfl rfl ?_
  change (match (items.map HistorySample.stamp).min? with
    | none => _
    | some oldest => _) = _
  cases (items.map HistorySample.stamp).min? with
  | none => rfl
  | some oldest =>
    refine if_congr Iff.rfl rfl (if_congr Iff.rfl rfl ?_)
    cases pager.advance oldest cursorTo <;> rfl

theorem HistoryPager.load_endsAs
    (hadv : ∀ oldest cursor, pager.fromAt < oldest → oldest + 1 < cursor →
      pager.advance oldest cursor = .ok (oldest + 1)) {stop : ℤ}
    (hrows : rows = snapshot.window pager.filters pager.fromAt stop)
    (pages : ℕ) {first done : ℕ} {cursorTo : ℤ} (snapshotAt : Option Instant)
    (hcursor : cursorTo ≤ stop)
    (hbehind : snapshot.window pager.filters pager.fromAt cursorTo = rows.drop first)
    (hfirst : first ≤ done) (hdone : done ≤ first + pager.pageSize) :
    (pager.load snapshot.history pages cursorTo snapshotAt
      (pager.entries (rows.take done))).requests.length ≤ pages ∧
    pager.EndsAs rows (pager.load snapshot.history pages cursorTo snapshotAt
      (pager.entries (rows.take done))).outcome
      (pagesEnd HistorySample.stamp pager.fromAt pager.pageSize pages (rows.drop first)) := by
  induction pages generalizing first done cursorTo snapshotAt with
  | zero => exact ⟨le_rfl, _, rfl⟩
  | succ pages ih =>
    have hdist : (rows.map (·.eventId)).Nodup := hrows ▸ window_distinct
    have hstamps : rows.Pairwise fun first second => second.stamp ≤ first.stamp :=
      hrows ▸ window_stamps
    have hpage : ((rows.drop first).take pager.pageSize).Pairwise
        fun first second => second.stamp ≤ first.stamp :=
      hstamps.sublist ((List.take_sublist _ _).trans (List.drop_sublist _ _))
    rw [load]
    dsimp only
    rw [history_eq snapshotAt hbehind, readPage_eq, collect_page hdist hfirst hdone, pagesEnd]
    by_cases hwhole : (rows.drop first).length ≤ pager.pageSize
    · have hall : rows.take (first + pager.pageSize) = rows := by
        rw [List.length_drop] at hwhole
        exact List.take_of_length_le (by omega)
      rw [if_neg (not_lt.mpr hwhole), if_pos rfl, if_pos hwhole, hall]
      exact ⟨Nat.le_add_left _ _, _, rfl⟩
    rw [if_pos (not_le.mp hwhole), if_neg (Option.some_ne_none _), if_neg hwhole]
    cases hlast : ((rows.drop first).take pager.pageSize).getLast? with
    | none =>
      rw [List.getLast?_eq_none_iff.mp hlast]
      exact ⟨Nat.le_add_left _ _, _, rfl⟩
    | some oldest =>
      rw [min?_map_eq_last hpage hlast]
      dsimp only
      have holdest := List.mem_of_getLast? hlast
      by_cases hstart : oldest.stamp ≤ pager.fromAt
      · rw [if_pos hstart, if_pos hstart]
        refine ⟨Nat.le_add_left _ _, rows.take (first + pager.pageSize), _, ?_, rfl⟩
        rw [List.drop_drop, List.take_append_drop]
      rw [if_neg hstart, if_neg hstart]
      have hlen : ((rows.drop first).take pager.pageSize).length = pager.pageSize :=
        List.length_take_of_le (le_of_not_ge hwhole)
      by_cases hdense : ∀ sample ∈ (rows.drop first).take pager.pageSize,
          sample.stamp = oldest.stamp
      · have hcount : pager.pageSize ≤ (((rows.drop first).take
            pager.pageSize).map HistorySample.stamp).count oldest.stamp := by
          rw [List.count_eq_length.mpr, List.length_map, hlen]
          intro time htime
          obtain ⟨sample, hsamp, rfl⟩ := List.mem_map.mp htime
          exact (hdense sample hsamp).symm
        rw [if_pos hcount, if_pos hdense]
        exact ⟨Nat.le_add_left _ _, _, rfl⟩
      · have hcount : ¬ pager.pageSize ≤ (((rows.drop first).take
            pager.pageSize).map HistorySample.stamp).count oldest.stamp := by
          intro hle
          refine hdense fun sample hsamp => ?_
          have hfull : (((rows.drop first).take pager.pageSize).map
              HistorySample.stamp).count oldest.stamp =
              (((rows.drop first).take pager.pageSize).map HistorySample.stamp).length := by
            refine le_antisymm List.count_le_length ?_
            rwa [List.length_map, hlen]
          exact (List.count_eq_length.mp hfull _ (List.mem_map_of_mem hsamp)).symm
        rw [if_neg hcount, if_neg hdense]
        push Not at hdense
        obtain ⟨newest, hnewest, hne⟩ := hdense
        have hlt : oldest.stamp < newest.stamp :=
          lt_of_le_of_ne (stamp_last_le hpage hlast hnewest) hne.symm
        have hbound : newest.stamp ≤ cursorTo - 1 := by
          have hmem := List.mem_of_mem_take hnewest
          rw [← hbehind, window_earlier hcursor] at hmem
          exact of_decide_eq_true (List.mem_filter.mp hmem).2
        rw [hadv oldest.stamp cursorTo (not_le.mp hstart) (by omega)]
        obtain ⟨next, hnext, hle, hdrop, hfilter⟩ :=
          dropWhile_eq_drop hstamps holdest hnewest hlt
        rw [hdrop]
        have hearlier : snapshot.window pager.filters pager.fromAt
            (oldest.stamp + 1) = rows.drop next := by
          rw [window_earlier (show oldest.stamp + 1 ≤ stop by omega), ← hrows,
            ← hfilter, Int.add_sub_cancel]
        obtain ⟨hreqs, hends⟩ := @ih next (first + pager.pageSize)
          (oldest.stamp + 1) (some (snapshotAt.getD snapshot.takenAt)) (by omega)
          hearlier hle (by omega)
        exact ⟨Nat.succ_le_succ hreqs, hends⟩

end Loading

section Ordering

variable {ι : Type} [DecidableEq ι] {collation : Collation ι}
  {rows : List (HistorySample ι)}

omit [DecidableEq ι] in
instance (collation : Collation ι) : Std.Total collation.Before where
  total left right := by
    rcases lt_trichotomy (millis left.capturedAt) (millis right.capturedAt) with
      hlt | hsame | hlt
    · exact .inl (.inl hlt)
    · exact (collation.total left.eventId right.eventId).imp
        (fun hle => .inr ⟨hsame, hle⟩) (fun hle => .inr ⟨hsame.symm, hle⟩)
    · exact .inr (.inl hlt)

omit [DecidableEq ι] in
instance (collation : Collation ι) : IsTrans (HistorySample ι) collation.Before where
  trans first second third := by
    rintro (hlt | ⟨hsame, hle⟩) (hnext | ⟨hequal, hthen⟩)
    · exact .inl (hlt.trans hnext)
    · exact .inl (hlt.trans_eq hequal)
    · exact .inl (hsame.trans_lt hnext)
    · exact .inr ⟨hsame.trans hequal, collation.trans _ _ _ hle hthen⟩

theorem orderedUnique_eq (hdist : (rows.map (·.eventId)).Nodup) :
    orderedUnique collation rows = rows.insertionSort collation.Before := by
  have hgeneral : ∀ (known : Dictionary ι (HistorySample ι)) (rest : List (HistorySample ι)),
      (known.keys ++ rest.map (·.eventId)).Nodup →
      rest.foldl (fun known sample => if (known.get? sample.eventId).isSome then known
        else known.set sample.eventId sample) known =
        known ++ rest.map fun sample => (sample.eventId, sample) := by
    intro known rest
    induction rest generalizing known with
    | nil => simp
    | cons sample rest ih =>
      intro hnodup
      have hnew : sample.eventId ∉ known.keys := by
        intro hmem
        exact (List.nodup_append.mp hnodup).2.2 _ hmem _ (by simp) rfl
      have hnone := Dictionary.get?_eq_none_iff.mpr hnew
      rw [List.foldl_cons, hnone, Option.isSome_none, if_neg Bool.false_ne_true,
        Dictionary.set_of_not_mem _ hnew, ih]
      · simp
      · simpa [Dictionary.keys] using hnodup
  have hents := hgeneral [] rows (by simpa [Dictionary.keys] using hdist)
  unfold orderedUnique
  rw [hents]
  simp [Dictionary.values, Function.comp_def]

/-- Within a millisecond the event identifiers of later samples come later. -/
def OrderedWithin (collation : Collation ι) (rows : List (HistorySample ι)) : Prop :=
  ∀ first ∈ rows, ∀ second ∈ rows, first.stamp = second.stamp →
    first.capturedAt < second.capturedAt →
    collation.le second.eventId first.eventId = false

omit [DecidableEq ι] in
theorem ascending_iff [LinearOrder ι] (hrows : rows.Pairwise NewerFirst) :
    ((rows.insertionSort collation.Before).Pairwise fun first second =>
      first.capturedAt ≤ second.capturedAt) ↔ OrderedWithin collation rows := by
  constructor
  · intro hascending first hfirst second hsecond hstamp hlt
    by_contra hle
    have hbefore : collation.Before second first :=
      .inr ⟨hstamp.symm, by simpa using hle⟩
    obtain ⟨newer, older, rfl⟩ := List.append_of_mem hfirst
    have hnewer : second ∈ newer := by
      refine (List.mem_append.mp hsecond).resolve_right fun holder => ?_
      rcases List.mem_cons.mp holder with rfl | hrest
      · exact lt_irrefl _ hlt
      · have hall := (List.pairwise_append.mp hrows).2.1
        rw [List.pairwise_cons] at hall
        exact not_lt.mpr (hall.1 second hrest).capturedAt_le hlt
    have hpair : [second, first].Sublist (newer ++ first :: older) :=
      (List.singleton_sublist.mpr hnewer).append (List.singleton_sublist.mpr List.mem_cons_self)
    have hsorted := hascending.sublist (List.pair_sublist_insertionSort hbefore hpair)
    exact not_lt.mpr ((List.pairwise_cons.mp hsorted).1 first List.mem_cons_self) hlt
  · intro hord
    refine (List.pairwise_insertionSort collation.Before rows).imp_of_mem ?_
    rintro first second hfirst hsecond (hlt | ⟨hstamp, hle⟩)
    · exact le_of_not_gt fun hlater => not_lt.mpr (millis_mono hlater.le) hlt
    · by_contra hlater
      have hord := hord second ((List.mem_insertionSort _).mp hsecond) first
        ((List.mem_insertionSort _).mp hfirst) hstamp.symm (not_le.mp hlater)
      rw [hle] at hord
      cases hord

end Ordering

/-! ## Whole windows -/

section Whole

variable {ι : Type} [LinearOrder ι]

/-- At most so many requests are made, and a result has the samples of the window,
each once, by rising times. -/
def LoadsWindow (snapshot : HistorySnapshot ι) (filters : TelemetryFilters)
    (start stop : ℤ) (options : TelemetryHistoryLoadOptions)
    (run : HistoryRun (CompleteTelemetryHistoryResult ι)) : Prop :=
  run.requests.length ≤ options.pages.toNat ∧ ∀ result, run.outcome = .ok result →
      result.samples.Perm (snapshot.within filters start stop) ∧
        result.samples.Pairwise fun first second =>
          first.capturedAt ≤ second.capturedAt

def CollectsWindow (snapshot : HistorySnapshot ι)
    (isEnergySample : HistorySample ι → Bool) (window : EnergyHistoryWindow)
    (run : HistoryRun (List (HistorySample ι))) : Prop :=
  run.requests.length ≤ maxHistoryPages ∧ ∀ collected, run.outcome = .ok collected →
      collected.Perm ((snapshot.within window.filters window.fromAt window.toAt).filter
        isEnergySample)

/-- No page but the last one ends within the first millisecond of the window, and
the event identifiers have the order of the times within a millisecond; a window
with too many samples for the pages is refused. -/
def ReadsWhole (collation : Collation ι) (snapshot : HistorySnapshot ι)
    (filters : TelemetryFilters) (start stop : ℤ) (options : TelemetryHistoryLoadOptions) : Prop :=
  match pagesEnd HistorySample.stamp start options.size.toNat options.pages.toNat
      (snapshot.window filters start stop) with
  | .whole => OrderedWithin collation (snapshot.window filters start stop)
  | .cut _ => False
  | .dense => True
  | .beyond => True

def CutsNothing (snapshot : HistorySnapshot ι)
    (isEnergySample : HistorySample ι → Bool) (window : EnergyHistoryWindow) : Prop :=
  match pagesEnd HistorySample.stamp window.fromAt historyPageSize maxHistoryPages
      (snapshot.window window.filters window.fromAt window.toAt) with
  | .cut left => ∀ sample ∈ left, isEnergySample sample = false
  | _ => True

theorem HistoryPager.load_window {pager : HistoryPager ι}
    (hadv : ∀ oldest cursor, pager.fromAt < oldest → oldest + 1 < cursor →
      pager.advance oldest cursor = .ok (oldest + 1)) (snapshot : HistorySnapshot ι)
    (stop : ℤ) (pages : ℕ) (snapshotAt : Option Instant) :
    (pager.load snapshot.history pages stop snapshotAt []).requests.length ≤ pages ∧
    pager.EndsAs (snapshot.window pager.filters pager.fromAt stop)
      (pager.load snapshot.history pages stop snapshotAt []).outcome
      (pagesEnd HistorySample.stamp pager.fromAt pager.pageSize pages
        (snapshot.window pager.filters pager.fromAt stop)) :=
  @load_endsAs _ _ snapshot pager _ hadv stop rfl pages 0 0 stop snapshotAt le_rfl
    rfl le_rfl (Nat.zero_le _)

omit [LinearOrder ι] in
theorem telemetryPager_advance {filters : TelemetryFilters} {start : ℤ} {size : ℕ}
    {oldest cursor : ℤ} (hstart : start < oldest) (hcursor : oldest + 1 < cursor) :
    (telemetryPager (ι := ι) filters start size).advance oldest cursor = .ok (oldest + 1) := by
  dsimp only [telemetryPager]
  rw [min_eq_left (by omega), if_neg (by omega)]

omit [LinearOrder ι] in
theorem cut_ne_nil {stamp : HistorySample ι → ℤ} {start : ℤ} {size pages : ℕ}
    {rows left : List (HistorySample ι)}
    (hend : pagesEnd stamp start size pages rows = .cut left) : left ≠ [] := by
  induction pages generalizing rows with
  | zero => cases hend
  | succ pages ih =>
    unfold pagesEnd at hend
    split at hend
    next => cases hend
    next hlonger =>
      split at hend
      next => cases hend
      next =>
        split_ifs at hend
        · cases hend
          rw [Ne, List.drop_eq_nil_iff]
          exact hlonger
        · exact ih hend

theorem loadsWindow_iff (collation : Collation ι) (snapshot : HistorySnapshot ι)
    (filters : TelemetryFilters) (start stop : ℤ) (options : TelemetryHistoryLoadOptions) :
    LoadsWindow snapshot filters start stop options
        (loadCompleteTelemetryHistory collation snapshot.history filters start stop options) ↔
      (start < stop → 1 ≤ options.size → options.size ≤ 1000 → 1 ≤ options.pages →
        ReadsWhole collation snapshot filters start stop options) := by
  have hrefused : ∀ text : String, LoadsWindow snapshot filters start stop options
      ⟨[], .error text⟩ :=
    fun _ => ⟨Nat.zero_le _, fun _ hres => nomatch hres⟩
  unfold loadCompleteTelemetryHistory
  split_ifs with hwindow hsize hpages
  · exact iff_of_true (hrefused _) fun hlt => absurd hlt (not_lt.mpr hwindow)
  · exact iff_of_true (hrefused _) fun _ hone hthousand => by omega
  · exact iff_of_true (hrefused _) fun _ _ _ hone => absurd hpages (not_lt.mpr hone)
  obtain ⟨hreqs, hends⟩ := @HistoryPager.load_window _ _
    (telemetryPager filters start options.size.toNat)
    (fun _ _ => telemetryPager_advance) snapshot stop options.pages.toNat
    options.snapshotAt
  have hvalues : ∀ rows : List (HistorySample ι),
      ((telemetryPager filters start options.size.toNat).entries rows).values = rows :=
    fun rows => (HistoryPager.values_entries _ rows).trans (List.filter_true rows)
  have hdropped : (start < stop → 1 ≤ options.size → options.size ≤ 1000 →
      1 ≤ options.pages → ReadsWhole collation snapshot filters start stop options) ↔
      ReadsWhole collation snapshot filters start stop options :=
    ⟨fun hread => hread (by omega) (by omega) (by omega) (by omega), fun hread _ _ _ _ => hread⟩
  rw [hdropped]
  unfold LoadsWindow ReadsWhole
  dsimp only [telemetryPager] at hends hreqs hvalues ⊢
  rw [and_iff_right hreqs]
  cases hend : pagesEnd HistorySample.stamp start options.size.toNat
      options.pages.toNat (snapshot.window filters start stop) with
  | whole =>
    rw [hend] at hends
    obtain ⟨snapshotAt, hout⟩ := hends
    rw [hout]
    constructor
    · intro hloads
      have hascending := (hloads _ rfl).2
      dsimp only at hascending
      rw [hvalues, orderedUnique_eq window_distinct] at hascending
      exact (ascending_iff window_pairwise).mp hascending
    · rintro hord _ ⟨⟩
      dsimp only
      rw [hvalues, orderedUnique_eq window_distinct]
      exact ⟨(List.perm_insertionSort _ _).trans window_perm,
        (ascending_iff window_pairwise).mpr hord⟩
  | cut left =>
    have hleft := cut_ne_nil hend
    rw [hend] at hends
    obtain ⟨got, snapshotAt, hrows, hout⟩ := hends
    rw [hout]
    refine iff_of_false (fun hloads => ?_) id
    have hdist : (got.map (·.eventId)).Nodup := by
      have hnodup : ((snapshot.window filters start stop).map (·.eventId)).Nodup :=
        window_distinct
      rw [hrows, List.map_append] at hnodup
      exact (List.nodup_append.mp hnodup).1
    have hlen := (hloads _ rfl).1.length_eq
    dsimp only at hlen
    rw [hvalues, orderedUnique_eq hdist, List.length_insertionSort,
      ← window_perm.length_eq, hrows, List.length_append] at hlen
    exact hleft (List.length_eq_zero_iff.mp (by omega))
  | dense =>
    rw [hend] at hends
    obtain ⟨text, hout⟩ := hends
    rw [hout]
    exact iff_of_true (fun _ hres => nomatch hres) trivial
  | beyond =>
    rw [hend] at hends
    obtain ⟨text, hout⟩ := hends
    rw [hout]
    exact iff_of_true (fun _ hres => nomatch hres) trivial

variable {isEnergySample : HistorySample ι → Bool}

omit [LinearOrder ι] in
theorem energyPager_advance
    {window : EnergyHistoryWindow} {oldest cursor : ℤ} (hcursor : oldest + 1 < cursor) :
    (energyPager isEnergySample window).advance oldest cursor = .ok (oldest + 1) := by
  dsimp only [energyPager]
  rw [if_pos hcursor]

omit [LinearOrder ι] in
theorem energyPager_keep {window : EnergyHistoryWindow} {sample : HistorySample ι}
    (hmatches : window.filters.matches sample = true) :
    (energyPager isEnergySample window).keep sample = isEnergySample sample := by
  simp only [TelemetryFilters.matches, EnergyHistoryWindow.filters, Option.all_some,
    Bool.and_eq_true, decide_eq_true_eq] at hmatches
  obtain ⟨⟨⟨⟨⟨hnode, _⟩, _⟩, hmetric⟩, _⟩, _⟩ := hmatches
  simp [energyPager, hnode, hmetric]

theorem collectsWindow_iff (snapshot : HistorySnapshot ι)
    (isEnergySample : HistorySample ι → Bool) (window : EnergyHistoryWindow)
    (initialSnapshotAt : Option Instant) :
    CollectsWindow snapshot isEnergySample window
        (collectEnergyHistory isEnergySample snapshot.history window initialSnapshotAt) ↔
      CutsNothing snapshot isEnergySample window := by
  obtain ⟨hreqs, hends⟩ := @HistoryPager.load_window _ _
    (energyPager isEnergySample window) (fun _ _ _ => energyPager_advance) snapshot
    window.toAt maxHistoryPages initialSnapshotAt
  have hkeep : ∀ rows : List (HistorySample ι),
      (∀ sample ∈ rows, window.filters.matches sample = true) →
      rows.filter (energyPager isEnergySample window).keep = rows.filter isEnergySample :=
    fun rows hrows => List.filter_congr fun sample hsamp =>
      energyPager_keep (hrows sample hsamp)
  have hmatches : ∀ sample ∈ snapshot.window window.filters window.fromAt window.toAt,
      window.filters.matches sample = true := by
    intro sample hsamp
    have hmem := window_perm.mem_iff.mp hsamp
    simp only [HistorySnapshot.within, List.mem_filter, Bool.and_eq_true] at hmem
    exact hmem.2.1.1
  unfold CollectsWindow CutsNothing collectEnergyHistory
  generalize (energyPager isEnergySample window).load snapshot.history maxHistoryPages
    window.toAt initialSnapshotAt [] = run at hreqs hends ⊢
  change (energyPager isEnergySample window).EndsAs
    (snapshot.window window.filters window.fromAt window.toAt) run.outcome
    (pagesEnd HistorySample.stamp window.fromAt historyPageSize maxHistoryPages
      (snapshot.window window.filters window.fromAt window.toAt)) at hends
  dsimp only
  rw [and_iff_right hreqs]
  cases hend : pagesEnd HistorySample.stamp window.fromAt historyPageSize
      maxHistoryPages (snapshot.window window.filters window.fromAt window.toAt) with
  | whole =>
    rw [hend] at hends
    obtain ⟨snapshotAt, hout⟩ := hends
    refine iff_of_true ?_ trivial
    rw [hout]
    rintro _ ⟨⟩
    dsimp only
    rw [HistoryPager.values_entries, hkeep _ hmatches]
    exact window_perm.filter _
  | cut left =>
    rw [hend] at hends
    obtain ⟨got, snapshotAt, hrows, hout⟩ := hends
    have hgot : got.filter (energyPager isEnergySample window).keep = got.filter isEnergySample :=
      hkeep got fun sample hsamp =>
        hmatches sample (hrows ▸ List.mem_append_left _ hsamp)
    have hperm : ((snapshot.within window.filters window.fromAt window.toAt).filter
        isEnergySample).Perm (got.filter isEnergySample ++
          left.filter isEnergySample) := by
      rw [← List.filter_append, ← hrows]
      exact (window_perm.filter _).symm
    rw [hout]
    constructor
    · intro hcollects
      have hlen := ((hcollects _ rfl).trans hperm).length_eq
      dsimp only at hlen
      rw [HistoryPager.values_entries, hgot, List.length_append] at hlen
      have hnone : left.filter isEnergySample = [] :=
        List.length_eq_zero_iff.mp (by omega)
      intro sample hsamp
      simpa using List.filter_eq_nil_iff.mp hnone sample hsamp
    · rintro hleft _ ⟨⟩
      have hnone : left.filter isEnergySample = [] :=
        List.filter_eq_nil_iff.mpr fun sample hsamp => by
          simp [hleft sample hsamp]
      dsimp only
      rw [HistoryPager.values_entries, hgot]
      rw [hnone, List.append_nil] at hperm
      exact hperm.symm
  | dense =>
    rw [hend] at hends
    obtain ⟨text, hout⟩ := hends
    rw [hout]
    exact iff_of_true (fun _ hcollected => nomatch hcollected) trivial
  | beyond =>
    rw [hend] at hends
    obtain ⟨text, hout⟩ := hends
    rw [hout]
    exact iff_of_true (fun _ hcollected => nomatch hcollected) trivial

/-- The history of a window is loaded whole exactly when no page which is not the
last one ends within the first millisecond of the window, and energy samples are
collected whole exactly when none is behind such a page. -/
theorem completeHistory_iff (collation : Collation ι) (snapshot : HistorySnapshot ι)
    (filters : TelemetryFilters) (start stop : ℤ)
    (options : TelemetryHistoryLoadOptions)
    (isEnergySample : HistorySample ι → Bool) (window : EnergyHistoryWindow)
    (initialSnapshotAt : Option Instant) :
    (LoadsWindow snapshot filters start stop options
        (loadCompleteTelemetryHistory collation snapshot.history filters start stop
          options) ↔
      (start < stop → 1 ≤ options.size → options.size ≤ 1000 → 1 ≤ options.pages →
        ReadsWhole collation snapshot filters start stop options)) ∧
    (CollectsWindow snapshot isEnergySample window
        (collectEnergyHistory isEnergySample snapshot.history window
          initialSnapshotAt) ↔ CutsNothing snapshot isEnergySample window) :=
  ⟨loadsWindow_iff collation snapshot filters start stop options,
    collectsWindow_iff snapshot isEnergySample window initialSnapshotAt⟩

end Whole

def edgeSnapshot : HistorySnapshot ℕ where
  samples :=
    [⟨1, "edge-1", "EQ-1", "CH-1", "temperature", "C", "valid", none, 0⟩,
     ⟨2, "edge-1", "EQ-1", "CH-1", "temperature", "C", "valid", none, 0⟩,
     ⟨3, "edge-1", "EQ-1", "CH-1", "temperature", "C", "valid", none, 5000⟩]
  distinct := by decide
  takenAt := 9000

def numericCollation : Collation ℕ where
  le first second := decide (first ≤ second)
  total first second := by simpa using le_total first second
  trans _ _ _ hfirst hsecond := by
    simp only [decide_eq_true_eq] at *
    exact hfirst.trans hsecond

/-- The first page ends at the start of the window, and the sample behind it is
left out. -/
theorem completeHistory_cut :
    ¬ ∀ (snapshot : HistorySnapshot ℕ) (filters : TelemetryFilters) (start stop : ℤ)
      (options : TelemetryHistoryLoadOptions),
      LoadsWindow snapshot filters start stop options
        (loadCompleteTelemetryHistory numericCollation snapshot.history filters start
          stop options) := by
  intro hclaim
  have hloads := hclaim edgeSnapshot .none 0 9 ⟨none, some 2, none⟩
  have hlost : ∃ result, (loadCompleteTelemetryHistory numericCollation
      edgeSnapshot.history .none 0 9 ⟨none, some 2, none⟩).outcome = .ok result ∧
      result.samples.map (·.eventId) = [2, 3] := by
    refine ⟨_, rfl, ?_⟩
    decide +kernel
  obtain ⟨result, hout, hids⟩ := hlost
  have hperm := ((hloads.2 result hout).1.map (·.eventId)).length_eq
  rw [hids] at hperm
  revert hperm
  decide +kernel

end Nexolab
