import Mathlib.Tactic

/-!
# Tilings of an interval

Half-open intervals which follow one another without a gap.  Every point lies in
exactly one of them, and the differences of a function over them telescope.
-/

namespace Nexolab

variable {α : Type*} [LinearOrder α]

/-- The intervals cover the points from `first` to `last`, each starting where
the one before it ends. -/
inductive Tiles : α → α → List (α × α) → Prop
  | nil (point : α) : Tiles point point []
  | cons {first middle last : α} {rest : List (α × α)} :
      first < middle → Tiles middle last rest → Tiles first last ((first, middle) :: rest)

namespace Tiles

variable {first last : α} {intervals : List (α × α)}

theorem le (htiles : Tiles first last intervals) : first ≤ last := by
  induction htiles with
  | nil point => exact le_rfl
  | cons hlt _ ih => exact hlt.le.trans ih

theorem lt_of_mem (htiles : Tiles first last intervals) {interval : α × α}
    (hmem : interval ∈ intervals) : interval.1 < interval.2 := by
  induction htiles with
  | nil point => cases hmem
  | cons hlt _ ih =>
    rcases List.mem_cons.mp hmem with rfl | hrest
    · exact hlt
    · exact ih hrest

theorem within (htiles : Tiles first last intervals) {interval : α × α}
    (hmem : interval ∈ intervals) :
    first ≤ interval.1 ∧ interval.2 ≤ last := by
  induction htiles with
  | nil point => cases hmem
  | cons hlt hrest ih =>
    rcases List.mem_cons.mp hmem with rfl | htail
    · exact ⟨le_rfl, hrest.le⟩
    · exact ⟨hlt.le.trans (ih htail).1, (ih htail).2⟩

theorem existsUnique (htiles : Tiles first last intervals) {point : α}
    (hfirst : first ≤ point) (hlast : point < last) :
    ∃! interval, interval ∈ intervals ∧ interval.1 ≤ point ∧ point < interval.2 := by
  induction htiles with
  | nil => exact absurd hlast (not_lt.mpr hfirst)
  | @cons first middle last rest hlt hrest ih =>
    by_cases hmiddle : point < middle
    · refine ⟨(first, middle), ⟨List.mem_cons_self, hfirst, hmiddle⟩, ?_⟩
      rintro other ⟨hother, hstart, _⟩
      rcases List.mem_cons.mp hother with rfl | htail
      · rfl
      · exact absurd (hstart.trans_lt hmiddle) (not_lt.mpr (hrest.within htail).1)
    · obtain ⟨interval, ⟨hmem, hstart, hend⟩, hunique⟩ :=
        ih (not_lt.mp hmiddle) hlast
      refine ⟨interval, ⟨List.mem_cons_of_mem _ hmem, hstart, hend⟩, ?_⟩
      rintro other ⟨hother, hotherStart, hotherEnd⟩
      rcases List.mem_cons.mp hother with rfl | htail
      · exact absurd hotherEnd hmiddle
      · exact hunique other ⟨htail, hotherStart, hotherEnd⟩

theorem exists_first (htiles : Tiles first last intervals)
    (hrange : first < last) : ∃ interval ∈ intervals, interval.1 = first := by
  cases htiles with
  | nil point => exact absurd hrange (lt_irrefl _)
  | cons hlt hrest => exact ⟨_, List.mem_cons_self, rfl⟩

theorem exists_last (htiles : Tiles first last intervals)
    (hrange : first < last) : ∃ interval ∈ intervals, interval.2 = last := by
  induction htiles with
  | nil point => exact absurd hrange (lt_irrefl _)
  | cons hlt hrest ih =>
    rcases hrest.le.lt_or_eq with hmore | rfl
    · obtain ⟨interval, hmem, hend⟩ := ih hmore
      exact ⟨interval, List.mem_cons_of_mem _ hmem, hend⟩
    · exact ⟨_, List.mem_cons_self, rfl⟩

theorem sum_sub {G : Type*} [AddCommGroup G] (htiles : Tiles first last intervals) (f : α → G) :
    (intervals.map fun interval => f interval.2 - f interval.1).sum = f last - f first := by
  induction htiles with
  | nil point => simp
  | cons hlt _ ih =>
    rw [List.map_cons, List.sum_cons, ih]
    abel

end Tiles

/-- The buckets of a range with a fixed step; the last one ends with the range. -/
def bucketBounds (first final step : ℤ) : List (ℤ × ℤ) :=
  (List.range ((final - first + step - 1) / step).toNat).map fun k : ℕ =>
    (first + k * step, min final (first + k * step + step))

theorem bucketBounds_cons {first final step : ℤ} (hstep : 0 < step) (hrange : first < final) :
    bucketBounds first final step = (first, min final (first + step)) ::
        bucketBounds (min final (first + step)) final step := by
  unfold bucketBounds
  by_cases hlast : final ≤ first + step
  · rw [min_eq_left hlast]
    have hone : (final - first + step - 1) / step = 1 := by
      rw [Int.ediv_eq_iff_of_pos hstep]
      constructor <;> linarith
    have hzero : (final - final + step - 1) / step = 0 := by
      rw [Int.ediv_eq_iff_of_pos hstep]
      constructor <;> linarith
    rw [hone, hzero]
    simp [min_eq_left hlast]
  · rw [not_le] at hlast
    rw [min_eq_right hlast.le]
    have hcount : ((final - first + step - 1) / step).toNat =
        ((final - (first + step) + step - 1) / step).toNat + 1 := by
      have hshift : final - first + step - 1 = final - (first + step) + step - 1 + step := by ring
      rw [hshift, Int.add_ediv_of_dvd_right (dvd_refl step), Int.ediv_self hstep.ne']
      have hnonneg : 0 ≤ (final - (first + step) + step - 1) / step :=
        Int.ediv_nonneg (by linarith) hstep.le
      omega
    rw [hcount, List.range_succ_eq_map, List.map_cons, List.map_map]
    congr 1
    · simp [min_eq_right hlast.le]
    · apply List.map_congr_left
      intro k _
      simp only [Function.comp_apply, Nat.succ_eq_add_one, Nat.cast_add, Nat.cast_one]
      congr 1 <;> ring_nf

theorem bucketBounds_tiles {first final step : ℤ} (hstep : 0 < step) (hrange : first ≤ final) :
    Tiles first final (bucketBounds first final step) := by
  induction hcount : (final - first).toNat using Nat.strong_induction_on generalizing first with
  | _ count ih =>
    rcases hrange.lt_or_eq with hlt | rfl
    · rw [bucketBounds_cons hstep hlt]
      have hnext : first < min final (first + step) := by
        rw [lt_min_iff]
        constructor <;> linarith
      refine .cons hnext (ih _ ?_ (min_le_left _ _) rfl)
      omega
    · have hempty : bucketBounds first first step = [] := by
        have hzero : (first - first + step - 1) / step = 0 := by
          rw [sub_self, zero_add]
          exact Int.ediv_eq_zero_of_lt (by linarith) (by linarith)
        unfold bucketBounds
        rw [hzero]
        rfl
      rw [hempty]
      exact .nil first

end Nexolab
