import Nexolab.EnergyExport
import Nexolab.FallibleList

/-!
# The buckets of an energy counter

What a cell with a consumption says about the readings of its bucket: they are
valid, no two have one time, and their values do not fall.
-/

namespace Nexolab

namespace EnergyExport

/-- The staged rows of an export: the event ids are a primary key, and the rows
inside the range are the ones which are not anchors. -/
structure Staged (options : ExportOptions) (samples : List StagedSample) :
    Prop where
  eventIds : (samples.map StagedSample.eventId).Nodup
  anchor_iff : ∀ row ∈ samples, row.anchor = false ↔
    options.fromAt ≤ row.capturedUs ∧ row.capturedUs < options.toAt

variable {options : ExportOptions} {samples : List StagedSample} {start stop : Instant}

theorem Staged.eq_of_eventId (hstaged : Staged options samples)
    {first second : StagedSample} (hfirst : first ∈ samples)
    (hsecond : second ∈ samples) (hid : first.eventId = second.eventId) :
    first = second :=
  List.inj_on_of_nodup_map hstaged.eventIds hfirst hsecond hid

theorem capturedUs_le_of_order_le {first second : StagedSample}
    (hle : StagedSample.order first ≤ StagedSample.order second) :
    first.capturedUs ≤ second.capturedUs := by
  unfold StagedSample.order at hle
  rw [Prod.Lex.toLex_le_toLex] at hle
  rcases hle with hlt | ⟨heq, _⟩
  · exact hlt.le
  · exact heq.le

variable {row : StagedSample} {first last : StagedSample}
  {sample : TelemetrySample FloatValue}

theorem mem_bucketRows : row ∈ bucketRows samples start stop ↔
      row ∈ samples ∧ start ≤ row.capturedUs ∧ row.capturedUs < stop ∧ row.anchor = false := by
  unfold bucketRows
  rw [List.mem_insertionSort, List.mem_filter, decide_eq_true_eq]

theorem bucketRows_pairwise (samples : List StagedSample) (start stop : Instant) :
    (bucketRows samples start stop).Pairwise fun first second =>
      StagedSample.order first ≤ StagedSample.order second := by
  have : Std.Total fun first second : StagedSample =>
      StagedSample.order first ≤ StagedSample.order second :=
    ⟨fun first second => le_total _ _⟩
  have : IsTrans StagedSample fun first second =>
      StagedSample.order first ≤ StagedSample.order second :=
    ⟨fun _ _ _ => le_trans⟩
  exact List.pairwise_insertionSort _ _

/-- The anchor of a boundary is a last reading at or before it; when it is not
ambiguous no other reading has its time. -/
structure AnchorOf (samples : List StagedSample) (boundary : Instant)
    (anchor : StagedSample) : Prop where
  mem : anchor ∈ samples
  before : anchor.capturedUs ≤ boundary
  last : ∀ row ∈ samples, row.capturedUs ≤ boundary →
    StagedSample.order row ≤ StagedSample.order anchor

theorem counterAnchor_spec (samples : List StagedSample) (boundary : Instant) :
    (∀ anchor ∈ (counterAnchor samples boundary).1, AnchorOf samples boundary anchor) ∧
    ((counterAnchor samples boundary).2 = false →
      ∀ anchor ∈ (counterAnchor samples boundary).1, ∀ row ∈ samples,
        row.capturedUs = anchor.capturedUs → row = anchor) := by
  have htotal : Std.Total fun first second : StagedSample =>
      StagedSample.order second ≤ StagedSample.order first :=
    ⟨fun first second => le_total _ _⟩
  have htrans : IsTrans StagedSample fun first second =>
      StagedSample.order second ≤ StagedSample.order first :=
    ⟨fun _ _ _ hfirst hsecond => le_trans hsecond hfirst⟩
  have hpairwise := List.pairwise_insertionSort (fun first second : StagedSample =>
      StagedSample.order second ≤ StagedSample.order first)
    (samples.filter fun row => row.capturedUs ≤ boundary)
  have hmem : ∀ row, row ∈ ((samples.filter fun row =>
      row.capturedUs ≤ boundary).insertionSort fun first second =>
        StagedSample.order second ≤ StagedSample.order first) ↔
      row ∈ samples ∧ row.capturedUs ≤ boundary := by
    intro row
    rw [List.mem_insertionSort, List.mem_filter, decide_eq_true_eq]
  unfold counterAnchor
  generalize ((samples.filter fun row => row.capturedUs ≤ boundary).insertionSort
    fun first second => StagedSample.order second ≤
      StagedSample.order first) = sorted at hpairwise hmem
  cases sorted with
  | nil =>
    constructor
    · exact fun _ hanchor => by cases hanchor
    · exact fun _ _ hanchor => by cases hanchor
  | cons anchor rest =>
    rw [List.pairwise_cons] at hpairwise
    obtain ⟨hanchorMem, hanchorBefore⟩ :=
      (hmem anchor).mp List.mem_cons_self
    have hlast : ∀ row ∈ samples, row.capturedUs ≤ boundary →
        StagedSample.order row ≤ StagedSample.order anchor := by
      intro row hrow hbefore
      rcases List.mem_cons.mp ((hmem row).mpr ⟨hrow, hbefore⟩) with rfl | htail
      · exact le_rfl
      · exact hpairwise.1 row htail
    have hspec : AnchorOf samples boundary anchor :=
      ⟨hanchorMem, hanchorBefore, hlast⟩
    cases rest with
    | nil =>
      constructor
      · rintro _ ⟨rfl⟩
        exact hspec
      · rintro _ _ ⟨rfl⟩ row hrow htime
        have hbefore : row.capturedUs ≤ boundary := htime.trans_le hanchorBefore
        exact List.mem_singleton.mp ((hmem row).mpr ⟨hrow, hbefore⟩)
    | cons other rest =>
      constructor
      · rintro _ ⟨rfl⟩
        exact hspec
      · rintro hdist _ ⟨rfl⟩ row hrow htime
        have hdist : anchor.capturedUs ≠ other.capturedUs :=
          of_decide_eq_false hdist
        have hbefore : row.capturedUs ≤ boundary := htime.trans_le hanchorBefore
        rcases List.mem_cons.mp ((hmem row).mpr ⟨hrow, hbefore⟩) with
          rfl | htail
        · rfl
        · exfalso
          have hotherLe := capturedUs_le_of_order_le (hpairwise.1 other List.mem_cons_self)
          have hrowLe : row.capturedUs ≤ other.capturedUs := by
            rcases List.mem_cons.mp htail with rfl | hrest
            · exact le_rfl
            · exact capturedUs_le_of_order_le ((List.pairwise_cons.mp hpairwise.2).1 row hrest)
          rw [htime] at hrowLe
          exact hdist (le_antisymm hrowLe hotherLe)

/-! ## The scan of a bucket -/

variable {casefold : String → String} {unit : String} {tolerance : Option ℤ}

/-- The second reading is the first one, or it is a later one of a valid first
one and its value is not smaller. -/
def Follows (casefold : String → String) (unit : String) (first second : StagedSample) : Prop :=
  first.eventId = second.eventId ∨
    (Valid casefold unit first ∧ first.capturedUs ≠ second.capturedUs ∧
      ∃ before ∈ first.value, ∃ after ∈ second.value, before ≤ after)

theorem continuityBetween_nil {previous row : StagedSample}
    (hprev : Valid casefold unit previous) (hrow : Valid casefold unit row)
    (hnil : continuityBetween tolerance previous row = []) :
    Follows casefold unit previous row := by
  unfold continuityBetween at hnil
  rw [List.append_eq_nil_iff] at hnil
  obtain ⟨hdecrease, htime⟩ := hnil
  obtain ⟨before, hbefore, _⟩ := hprev.2.2
  obtain ⟨after, hafter, _⟩ := hrow.2.2
  refine .inr ⟨hprev, ?_, before, hbefore, after, hafter, ?_⟩
  · intro hsame
    rw [if_pos (by rw [hsame, sub_self])] at htime
    cases htime
  · by_contra hlt
    rw [if_pos ⟨before, hbefore, after, hafter, not_le.mp hlt⟩] at hdecrease
    cases hdecrease

theorem checkCounter_nil {scan : CounterScan}
    (hnil : (checkCounter casefold unit tolerance scan row).continuity = []) :
    scan.continuity = [] ∧ Valid casefold unit row ∧
      ∀ previous ∈ scan.previous, Follows casefold unit previous row := by
  unfold checkCounter at hnil
  dsimp only at hnil
  rw [List.append_eq_nil_iff] at hnil
  obtain ⟨hbefore, hfound⟩ := hnil
  by_cases hvalid : Valid casefold unit row
  · refine ⟨hbefore, hvalid, ?_⟩
    intro previous hprev
    rw [Option.mem_def] at hprev
    rw [if_neg (not_not.mpr hvalid), hprev] at hfound
    dsimp only at hfound
    by_cases hsame : row.eventId = previous.eventId
    · exact .inl hsame.symm
    · rw [if_neg hsame] at hfound
      by_cases hpreviousValid : Valid casefold unit previous
      · rw [if_neg (not_not.mpr hpreviousValid)] at hfound
        exact continuityBetween_nil hpreviousValid hvalid hfound
      · rw [if_pos hpreviousValid] at hfound
        cases hfound
  · rw [if_pos hvalid] at hfound
    cases hfound

theorem foldl_checkCounter_previous (rows : List StagedSample) (scan : CounterScan) :
    (rows.foldl (checkCounter casefold unit tolerance) scan).previous =
      (scan.previous.toList ++ rows).getLast? := by
  induction rows generalizing scan with
  | nil => cases hprev : scan.previous <;> simp [hprev]
  | cons row rest ih =>
    rw [List.foldl_cons, ih]
    cases scan.previous <;> simp [checkCounter]

theorem foldl_checkCounter_nil {rows : List StagedSample} {scan : CounterScan}
    (hnil : (rows.foldl (checkCounter casefold unit tolerance) scan).continuity = []) :
    scan.continuity = [] ∧ (∀ row ∈ rows, Valid casefold unit row) ∧
      (scan.previous.toList ++ rows).IsChain (Follows casefold unit) := by
  induction rows generalizing scan with
  | nil =>
    refine ⟨hnil, fun _ hrow => (by cases hrow), ?_⟩
    cases scan.previous <;> simp
  | cons row rest ih =>
    rw [List.foldl_cons] at hnil
    obtain ⟨hchecked, hvalid, hchain⟩ := ih hnil
    obtain ⟨hbefore, hrowValid, hfollows⟩ := checkCounter_nil hchecked
    refine ⟨hbefore, ?_, ?_⟩
    · intro other hother
      rcases List.mem_cons.mp hother with rfl | hrest
      · exact hrowValid
      · exact hvalid other hrest
    · have hrest : (row :: rest).IsChain (Follows casefold unit) := hchain
      cases hprev : scan.previous with
      | none => exact hrest
      | some previous =>
        exact .cons_cons (hfollows previous hprev) hrest

theorem anchorContinuity_nil {startAnchor endAnchor : Option StagedSample × Bool}
    (hnil : anchorContinuity casefold unit tolerance startAnchor endAnchor start stop = []) :
    startAnchor.2 = false ∧ endAnchor.2 = false ∧
      ∃ first last, startAnchor.1 = some first ∧ endAnchor.1 = some last ∧
        Valid casefold unit first := by
  unfold anchorContinuity at hnil
  simp only [List.append_eq_nil_iff] at hnil
  obtain ⟨⟨hambiguous, hcoverage⟩, hvalid⟩ := hnil
  have hflags : ¬ (startAnchor.2 = true ∨ endAnchor.2 = true) := by
    intro hflag
    rw [if_pos hflag] at hambiguous
    cases hambiguous
  rw [not_or, Bool.not_eq_true, Bool.not_eq_true] at hflags
  refine ⟨hflags.1, hflags.2, ?_⟩
  cases hfirst : startAnchor.1 with
  | none =>
    rw [hfirst] at hcoverage
    cases hcoverage
  | some first =>
    cases hlast : endAnchor.1 with
    | none =>
      rw [hfirst, hlast] at hcoverage
      cases hcoverage
    | some last =>
      refine ⟨first, last, rfl, rfl, ?_⟩
      by_contra hinvalid
      rw [if_pos ⟨first, hfirst, hinvalid⟩] at hvalid
      cases hvalid

def anchoredRows (samples : List StagedSample) (first last : StagedSample)
    (start stop : Instant) : List StagedSample :=
  first :: bucketRows samples start stop ++ [last]

theorem bucketContinuity_nil (hstaged : Staged options samples)
    (hnil : bucketContinuity casefold samples unit tolerance start stop = []) :
    ∃ first last, counterAnchor samples start = (some first, false) ∧
      counterAnchor samples stop = (some last, false) ∧
      (∀ row ∈ anchoredRows samples first last start stop, Valid casefold unit row) ∧
      (anchoredRows samples first last start stop).IsChain (Follows casefold unit) := by
  have hscan : ((bucketRows samples start stop).foldl (checkCounter casefold unit tolerance)
      ⟨(counterAnchor samples start).1, anchorContinuity casefold unit tolerance
        (counterAnchor samples start) (counterAnchor samples stop) start stop⟩).continuity = [] ∧
      ∀ last ∈ (counterAnchor samples stop).1,
        (∀ previous ∈ ((counterAnchor samples start).1.toList ++
          bucketRows samples start stop).getLast?, last.eventId ≠ previous.eventId) →
        Valid casefold unit last ∧
          ∀ previous ∈ ((counterAnchor samples start).1.toList ++
            bucketRows samples start stop).getLast?,
            Follows casefold unit previous last := by
    unfold bucketContinuity at hnil
    dsimp only at hnil
    rw [foldl_checkCounter_previous] at hnil
    split at hnil
    next hnone =>
      refine ⟨hnil, ?_⟩
      rw [hnone]
      exact fun _ hlast => by cases hlast
    next last hlast =>
      by_cases hother : ∀ previous ∈ ((counterAnchor samples start).1.toList ++
          bucketRows samples start stop).getLast?, last.eventId ≠ previous.eventId
      · rw [if_pos hother] at hnil
        obtain ⟨hbefore, hvalid, hfollows⟩ := checkCounter_nil hnil
        refine ⟨hbefore, ?_⟩
        rw [hlast]
        rintro _ ⟨rfl⟩ _
        rw [foldl_checkCounter_previous] at hfollows
        exact ⟨hvalid, hfollows⟩
      · rw [if_neg hother] at hnil
        refine ⟨hnil, ?_⟩
        rw [hlast]
        rintro _ ⟨rfl⟩ hdist
        exact absurd hdist hother
  obtain ⟨hrows, hend⟩ := hscan
  obtain ⟨hanchors, hvalid, hchain⟩ := foldl_checkCounter_nil hrows
  obtain ⟨hstart, hstop, first, last, hfirst, hlast, hfirstValid⟩ :=
    anchorContinuity_nil hanchors
  dsimp only at hchain
  rw [hfirst, Option.toList_some, List.singleton_append] at hchain hend
  have hstartAnchor : counterAnchor samples start = (some first, false) :=
    Prod.ext hfirst hstart
  have hstopAnchor : counterAnchor samples stop = (some last, false) :=
    Prod.ext hlast hstop
  let previous := (first :: bucketRows samples start stop).getLast (List.cons_ne_nil _ _)
  have hprev : (first :: bucketRows samples start stop).getLast? =
      some previous := List.getLast?_eq_some_getLast _
  have hpreviousMem : previous ∈ first :: bucketRows samples start stop :=
    List.getLast_mem _
  have hrowsValid : ∀ row ∈ first :: bucketRows samples start stop,
      row ∈ samples ∧ Valid casefold unit row := by
    intro row hrow
    rcases List.mem_cons.mp hrow with rfl | hbucket
    · exact ⟨((counterAnchor_spec samples start).1 row hfirst).mem, hfirstValid⟩
    · exact ⟨(mem_bucketRows.mp hbucket).1, hvalid row hbucket⟩
  have hlastFollows : Valid casefold unit last ∧ Follows casefold unit previous last := by
    by_cases hsame : last.eventId = previous.eventId
    · have hlastMem := ((counterAnchor_spec samples stop).1 last hlast).mem
      have heq : last = previous := hstaged.eq_of_eventId hlastMem
        (hrowsValid previous hpreviousMem).1 hsame
      rw [heq]
      exact ⟨(hrowsValid previous hpreviousMem).2, .inl rfl⟩
    · obtain ⟨hlastValid, hfollows⟩ := hend last hlast (by
        intro other hother
        rw [hprev] at hother
        obtain rfl := Option.some.inj hother
        exact hsame)
      exact ⟨hlastValid, hfollows previous hprev⟩
  refine ⟨first, last, hstartAnchor, hstopAnchor, ?_, ?_⟩
  · intro row hrow
    rcases List.mem_append.mp hrow with hbefore | hend
    · exact (hrowsValid row hbefore).2
    · rw [List.mem_singleton.mp hend]
      exact hlastFollows.1
  · refine List.isChain_append.mpr ⟨hchain, List.isChain_singleton _, ?_⟩
    intro before hbefore after hafter
    rw [hprev] at hbefore
    obtain rfl := Option.some.inj hbefore
    obtain rfl := Option.some.inj hafter
    exact hlastFollows.2

/-! ## Cells with a consumption -/

def Rises (first second : StagedSample) : Prop :=
  first = second ∨ (first.capturedUs < second.capturedUs ∧
    ∃ before ∈ first.value, ∃ after ∈ second.value, before ≤ after)

theorem Rises.trans {first second third : StagedSample}
    (hfirst : Rises first second) (hsecond : Rises second third) :
    Rises first third := by
  rcases hfirst with rfl | ⟨hearly, before, hbefore, middle, hmiddle, hle⟩
  · exact hsecond
  · rcases hsecond with rfl | ⟨hlate, other, hother, after, hafter, hotherLe⟩
    · exact .inr ⟨hearly, before, hbefore, middle, hmiddle, hle⟩
    · obtain rfl : middle = other := Option.mem_unique hmiddle hother
      exact .inr ⟨hearly.trans hlate, before, hbefore, after, hafter, hle.trans hotherLe⟩

theorem isChain_and {α : Type*} {R S : α → α → Prop} {items : List α}
    (hfirst : items.IsChain R) (hsecond : items.IsChain S) :
    items.IsChain fun a b => R a b ∧ S a b := by
  induction items with
  | nil => exact .nil
  | cons head rest ih =>
    cases rest with
    | nil => exact .singleton head
    | cons next rest =>
      rw [List.isChain_cons_cons] at hfirst hsecond ⊢
      exact ⟨⟨hfirst.1, hsecond.1⟩, ih hfirst.2 hsecond.2⟩

theorem anchoredRows_pairwise (horder : start ≤ stop)
    (hfirst : AnchorOf samples start first) (hlast : AnchorOf samples stop last) :
    (anchoredRows samples first last start stop).Pairwise fun earlier later =>
      earlier.capturedUs ≤ later.capturedUs := by
  unfold anchoredRows
  rw [List.pairwise_append, List.pairwise_cons]
  refine ⟨⟨?_, ?_⟩, List.pairwise_singleton _ _, ?_⟩
  · intro row hrow
    exact hfirst.before.trans (mem_bucketRows.mp hrow).2.1
  · exact (bucketRows_pairwise samples start stop).imp fun hle => capturedUs_le_of_order_le hle
  · intro row hrow other hother
    rw [List.mem_singleton.mp hother]
    apply capturedUs_le_of_order_le
    rcases List.mem_cons.mp hrow with rfl | hbucket
    · exact hlast.last row hfirst.mem (hfirst.before.trans horder)
    · obtain ⟨hmem, _, hstop, _⟩ := mem_bucketRows.mp hbucket
      exact hlast.last row hmem hstop.le

theorem anchoredRows_mem
    (hfirst : AnchorOf samples start first) (hlast : AnchorOf samples stop last)
    (hrow : row ∈ anchoredRows samples first last start stop) :
    row ∈ samples := by
  unfold anchoredRows at hrow
  rw [List.mem_append, List.mem_cons, List.mem_singleton] at hrow
  rcases hrow with (rfl | hbucket) | rfl
  · exact hfirst.mem
  · exact (mem_bucketRows.mp hbucket).1
  · exact hlast.mem

def BucketReading (samples : List StagedSample) (start stop : Instant)
    (row : StagedSample) : Prop :=
  row ∈ samples ∧ row.capturedUs ≤ stop ∧
    ∀ anchor ∈ (counterAnchor samples start).1, anchor.capturedUs ≤ row.capturedUs

structure Inside (options : ExportOptions) (start stop : Instant) : Prop where
  fromAt : options.fromAt ≤ start
  order : start < stop
  toAt : stop ≤ options.toAt

theorem BucketReading.anchoredRows (hstaged : Staged options samples)
    (hinside : Inside options start stop)
    (hfirst : counterAnchor samples start = (some first, false))
    (hlast : counterAnchor samples stop = (some last, false))
    (hrow : BucketReading samples start stop row) :
    row ∈ anchoredRows samples first last start stop := by
  obtain ⟨hmem, hstop, hanchor⟩ := hrow
  have hfirstSpec := counterAnchor_spec samples start
  have hlastSpec := counterAnchor_spec samples stop
  rw [hfirst] at hfirstSpec hanchor
  rw [hlast] at hlastSpec
  have hlate := hanchor first rfl
  unfold EnergyExport.anchoredRows
  rw [List.mem_append, List.mem_cons, List.mem_singleton]
  by_cases hbefore : row.capturedUs ≤ start
  · have hle := capturedUs_le_of_order_le ((hfirstSpec.1 first rfl).last row hmem hbefore)
    exact .inl (.inl (hfirstSpec.2 rfl first rfl row hmem (le_antisymm hle hlate)))
  · rw [not_le] at hbefore
    rcases hstop.lt_or_eq with hinner | hend
    · have hrange : options.fromAt ≤ row.capturedUs ∧ row.capturedUs < options.toAt :=
        ⟨hinside.fromAt.trans hbefore.le, hinner.trans_le hinside.toAt⟩
      exact .inl (.inr (mem_bucketRows.mpr ⟨hmem, hbefore.le, hinner,
        (hstaged.anchor_iff row hmem).mpr hrange⟩))
    · have hle := capturedUs_le_of_order_le ((hlastSpec.1 last rfl).last row hmem hstop)
      have htime : row.capturedUs = last.capturedUs := by
        apply le_antisymm hle
        rw [hend]
        exact (hlastSpec.1 last rfl).before
      exact .inr (hlastSpec.2 rfl last rfl row hmem htime)

def AnchorDifference (samples : List StagedSample) (start stop : Instant) (delta : ℚ) : Prop :=
  ∃ first ∈ (counterAnchor samples start).1,
  ∃ last ∈ (counterAnchor samples stop).1,
  ∃ before ∈ first.value, ∃ after ∈ last.value, roundBinary64 (after - before) = some delta

theorem bucketCell_delta (hstaged : Staged options samples)
    (hinside : Inside options start stop) {delta : ℚ}
    (hdelta : (bucketCell casefold samples unit tolerance start stop).deltaKwh = some delta) :
    AnchorDifference samples start stop delta ∧ 0 ≤ delta ∧
    (∀ row, BucketReading samples start stop row → Valid casefold unit row) ∧
    ∀ row other, BucketReading samples start stop row →
      BucketReading samples start stop other → Rises row other ∨ Rises other row := by
  unfold bucketCell at hdelta
  dsimp only at hdelta
  by_cases hcontinuity :
      bucketContinuity casefold samples unit tolerance start stop = []
  · rw [if_pos hcontinuity] at hdelta
    obtain ⟨first, last, hfirst, hlast, hvalid, hchain⟩ :=
      bucketContinuity_nil hstaged hcontinuity
    have hfirstSpec := (counterAnchor_spec samples start).1 first (by rw [hfirst]; rfl)
    have hlastSpec := (counterAnchor_spec samples stop).1 last (by rw [hlast]; rfl)
    have hmem : ∀ row ∈ anchoredRows samples first last start stop,
        row ∈ samples := fun row => anchoredRows_mem hfirstSpec hlastSpec
    have hpairwise : (anchoredRows samples first last start stop).Pairwise
        Rises := by
      have : IsTrans StagedSample Rises := ⟨fun _ _ _ => Rises.trans⟩
      rw [← List.isChain_iff_pairwise]
      have htimes := (anchoredRows_pairwise hinside.order.le hfirstSpec hlastSpec).isChain
      refine (isChain_and hchain htimes).imp_of_mem_imp ?_
      intro row other hrow hother hboth
      obtain ⟨hfollows, hle⟩ := hboth
      rcases hfollows with hid | ⟨_, hne, hvalues⟩
      · exact .inl (hstaged.eq_of_eventId (hmem row hrow) (hmem other hother) hid)
      · exact .inr ⟨lt_of_le_of_ne hle hne, hvalues⟩
    unfold AnchorDifference
    rw [hfirst, hlast]
    unfold anchorDelta at hdelta
    rw [hfirst, hlast] at hdelta
    simp only [Option.bind_some] at hdelta
    split at hdelta
    next before after hbefore hafter =>
      rw [Option.filter_eq_some_iff, decide_eq_true_eq] at hdelta
      refine ⟨⟨first, rfl, last, rfl, before, hbefore, after, hafter, hdelta.1⟩, hdelta.2, ?_, ?_⟩
      · intro row hrow
        exact hvalid row (hrow.anchoredRows hstaged hinside hfirst hlast)
      · intro row other hrow hother
        have hrowMem := hrow.anchoredRows hstaged hinside hfirst hlast
        have hotherMem := hother.anchoredRows hstaged hinside hfirst hlast
        have : Std.Symm fun earlier later : StagedSample =>
            Rises earlier later ∨ Rises later earlier := ⟨fun _ _ => Or.symm⟩
        have hboth := hpairwise.imp (S := fun earlier later =>
          Rises earlier later ∨ Rises later earlier) Or.inl
        exact hboth.forall_of_forall (fun reading _ => .inl (.inl rfl)) hrowMem hotherMem
    next => cases hdelta
  · rw [if_neg hcontinuity] at hdelta
    cases hdelta

/-- Something in the bucket speaks against its consumption: an anchor is missing,
a reading is invalid, two readings have one time, or a value falls. -/
def Broken (casefold : String → String) (unit : String)
    (samples : List StagedSample) (start stop : Instant) : Prop :=
  (counterAnchor samples start).1 = none ∨
  (counterAnchor samples stop).1 = none ∨
  (∃ row, BucketReading samples start stop row ∧ ¬ Valid casefold unit row) ∨
  (∃ row other, BucketReading samples start stop row ∧
    BucketReading samples start stop other ∧ row ≠ other ∧
      row.capturedUs = other.capturedUs) ∨
  ∃ row other, BucketReading samples start stop row ∧ BucketReading samples start stop other ∧
      row.capturedUs < other.capturedUs ∧
        ∃ before ∈ row.value, ∃ after ∈ other.value, after < before

theorem Broken.deltaKwh (hstaged : Staged options samples) (hinside : Inside options start stop)
    (hbroken : Broken casefold unit samples start stop) :
    (bucketCell casefold samples unit tolerance start stop).deltaKwh = none := by
  cases hdelta : (bucketCell casefold samples unit tolerance start stop).deltaKwh with
  | none => rfl
  | some delta =>
    exfalso
    obtain ⟨⟨first, hfirst, last, hlast, _⟩, _, hvalid, hrises⟩ :=
      bucketCell_delta hstaged hinside hdelta
    rcases hbroken with hnone | hnone | ⟨row, hrow, hinvalid⟩ |
      ⟨row, other, hrow, hother, hne, htime⟩ |
      ⟨row, other, hrow, hother, hearlier, before, hbefore, after, hafter, hlt⟩
    · rw [hnone] at hfirst
      cases hfirst
    · rw [hnone] at hlast
      cases hlast
    · exact hinvalid (hvalid row hrow)
    · rcases hrises row other hrow hother with
        (rfl | ⟨hlt, _⟩) | (rfl | ⟨hlt, _⟩)
      · exact hne rfl
      · exact absurd htime hlt.ne
      · exact hne rfl
      · exact absurd htime.symm hlt.ne
    · rcases hrises row other hrow hother with
        (rfl | ⟨_, value, hvalue, otherValue, hotherValue, hle⟩) |
        (rfl | ⟨hlater, _⟩)
      · exact absurd hearlier (lt_irrefl _)
      · obtain rfl := Option.mem_unique hbefore hvalue
        obtain rfl := Option.mem_unique hafter hotherValue
        exact absurd hlt (not_lt.mpr hle)
      · exact absurd hearlier (lt_irrefl _)
      · exact absurd hearlier hlater.asymm

theorem insert_staged {staged next : List StagedSample} (hstaged : Staged options staged)
    {anchor : Bool}
    (hanchor : anchor = false ↔ options.fromAt ≤ sample.event.capturedAt ∧
      sample.event.capturedAt < options.toAt)
    (hinsert : insert staged sample anchor = .ok next) : Staged options next := by
  unfold insert at hinsert
  split_ifs at hinsert with hdup
  cases hinsert
  rw [Bool.not_eq_true, List.any_eq_false] at hdup
  constructor
  case eventIds =>
    rw [List.map_append, List.map_singleton, List.nodup_append]
    refine ⟨hstaged.eventIds, List.nodup_singleton _, ?_⟩
    intro id hid other hother
    obtain ⟨row, hrow, rfl⟩ := List.mem_map.mp hid
    rw [List.mem_singleton.mp hother]
    intro hsame
    exact hdup row hrow (decide_eq_true hsame)
  case anchor_iff =>
    intro row hrow
    rcases List.mem_append.mp hrow with hold | hnew
    · exact hstaged.anchor_iff row hold
    · rw [List.mem_singleton.mp hnew]
      exact hanchor

theorem previousAnchors_before {scope : List (TelemetrySample FloatValue)}
    (hsamp : sample ∈ previousAnchors scope options) :
    sample.event.capturedAt < options.fromAt := by
  unfold previousAnchors at hsamp
  dsimp only at hsamp
  split at hsamp
  next => cases hsamp
  next =>
    have hmem := List.mem_reverse.mp (List.mem_filter.mp hsamp).1
    have hsorted := List.mem_of_mem_take hmem
    rw [List.mem_insertionSort, List.mem_filter, decide_eq_true_eq] at hsorted
    exact hsorted.2

theorem stagePageRow_eq_ok {before after : FreezeProgress}
    (hstep : stagePageRow options before sample = .ok after) :
    ∃ inserted, insert before.samples sample
        (decide (options.toAt ≤ sample.event.capturedAt)) = .ok inserted ∧
      after.samples = inserted := by
  simp only [stagePageRow, bind_eq_ok] at hstep
  obtain ⟨inserted, hinserted, hstep⟩ := hstep
  refine ⟨inserted, hinserted, ?_⟩
  split at hstep
  next =>
    rw [pure_eq_ok] at hstep
    rw [← hstep]
  next =>
    split at hstep
    next =>
      split at hstep
      next =>
        rw [pure_eq_ok] at hstep
        rw [← hstep]
      next =>
        rw [pure_eq_ok] at hstep
        rw [← hstep]
    next =>
      rw [pure_eq_ok] at hstep
      rw [← hstep]

theorem freezeSeries_staged {tables : TelemetryTables FloatValue} {snapshotAt : Instant}
    {sourceIdWatermark : Option ℕ} {series : SeriesSelection} {frozen : FrozenSeries}
    (hfreeze : freezeSeries tables options snapshotAt sourceIdWatermark series =
      .ok frozen) : Staged options frozen.samples := by
  simp only [freezeSeries, bind_eq_ok] at hfreeze
  obtain ⟨anchored, hanchored, progress, hprogress, hfrozen⟩ := hfreeze
  split_ifs at hfrozen
  cases hfrozen
  have hanchoredStaged : Staged options anchored := by
    unfold stageAnchors at hanchored
    split_ifs at hanchored
    · refine foldlM_invariant_of_mem ?_ hanchored ⟨List.nodup_nil, by simp⟩
      intro staged sample next hsamp hstaged hinsert
      refine insert_staged hstaged ?_ hinsert
      have hearly := previousAnchors_before hsamp
      constructor
      · intro hfalse
        cases hfalse
      · intro hrange
        exact absurd hrange.1 (not_le.mpr hearly)
    · cases hanchored
      exact ⟨List.nodup_nil, by simp⟩
  refine @foldlM_invariant_of_mem _ _ _ _ (fun progress : FreezeProgress =>
    Staged options progress.samples) _ _ _ ?_ hprogress hanchoredStaged
  intro before sample after hsamp hstaged hstep
  have hin := mem_rows_of_mem_readPages hsamp
  rw [List.mem_filter, decide_eq_true_eq] at hin
  obtain ⟨inserted, hinserted, hafter⟩ := stagePageRow_eq_ok hstep
  rw [hafter]
  refine insert_staged hstaged ?_ hinserted
  rw [decide_eq_false_iff_not, not_le]
  exact ⟨fun hlt => ⟨hin.2.1, hlt⟩, fun hrange => hrange.2⟩

end EnergyExport

end Nexolab
