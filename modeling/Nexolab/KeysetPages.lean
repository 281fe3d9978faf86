import Mathlib.Tactic

/-!
# Reading a table by pages

Each page holds the first rows behind a cursor in the order of a key, and the
cursor of the next page is the key of the last row.  No row is left out as long
as no two rows share a key.
-/

namespace Nexolab

variable {α κ : Type*} [LinearOrder κ]

def rowsBehind (key : α → κ) (rows : List α) (cursor : Option κ) : List α :=
  (rows.filter fun row => decide (∀ last ∈ cursor, last < key row)).insertionSort
    fun first second => key first ≤ key second

variable {cursor : Option κ} {key : α → κ} {rows : List α}

theorem mem_rowsBehind
    {row : α} : row ∈ rowsBehind key rows cursor ↔
      row ∈ rows ∧ ∀ last ∈ cursor, last < key row := by
  unfold rowsBehind
  rw [List.mem_insertionSort, List.mem_filter, decide_eq_true_eq]

theorem rowsBehind_pairwise (key : α → κ) (rows : List α) (cursor : Option κ) :
    (rowsBehind key rows cursor).Pairwise fun first second =>
      key first ≤ key second := by
  have : Std.Total fun first second : α => key first ≤ key second :=
    ⟨fun first second => le_total (key first) (key second)⟩
  have : IsTrans α fun first second => key first ≤ key second :=
    ⟨fun _ _ _ => le_trans⟩
  exact List.pairwise_insertionSort _ _

theorem rowsBehind_length_lt {last : α} (hlast : last ∈ rowsBehind key rows cursor) :
    (rowsBehind key rows (some (key last))).length < (rowsBehind key rows cursor).length := by
  obtain ⟨hmem, hbehind⟩ := mem_rowsBehind.mp hlast
  unfold rowsBehind
  rw [List.length_insertionSort, List.length_insertionSort]
  have hfilter : (rows.filter fun row =>
      decide (∀ last' ∈ some (key last), last' < key row)) =
      (rows.filter fun row => decide (∀ last ∈ cursor, last < key row)).filter
        fun row => decide (key last < key row) := by
    rw [List.filter_filter]
    apply List.filter_congr
    intro row _
    simp only [Option.mem_some_iff, forall_eq', ← Bool.decide_and, decide_eq_decide]
    constructor
    · intro hlt
      exact ⟨hlt, fun other hother => (hbehind other hother).trans hlt⟩
    · exact fun hboth => hboth.1
  rw [hfilter, List.length_filter_lt_length_iff_exists]
  refine ⟨last, List.mem_filter.mpr ⟨hmem, decide_eq_true hbehind⟩, ?_⟩
  simp

def readPages (key : α → κ) (rows : List α) (pageSize : ℕ) (cursor : Option κ) :
    List α :=
  match _hlast : ((rowsBehind key rows cursor).take pageSize).getLast? with
  | none => []
  | some last => (rowsBehind key rows cursor).take pageSize ++
      readPages key rows pageSize (some (key last))
termination_by (rowsBehind key rows cursor).length
decreasing_by
  exact rowsBehind_length_lt (List.mem_of_mem_take (List.mem_of_getLast? _hlast))

theorem mem_rows_of_mem_readPages {pageSize : ℕ} {row : α}
    (hrow : row ∈ readPages key rows pageSize cursor) : row ∈ rows := by
  induction cursor using readPages.induct key rows pageSize with
  | case1 cursor hnone =>
    rw [readPages] at hrow
    split at hrow
    next => cases hrow
    next last hlast =>
      rw [hnone] at hlast
      cases hlast
  | case2 cursor last hlast ih =>
    rw [readPages] at hrow
    split at hrow
    next => cases hrow
    next found hfound =>
      obtain rfl : found = last := by
        rw [hlast] at hfound
        exact (Option.some.inj hfound).symm
      rcases List.mem_append.mp hrow with hpage | hrest
      · exact (mem_rowsBehind.mp (List.mem_of_mem_take hpage)).1
      · exact ih hrest

theorem readPages_of_length_le {pageSize : ℕ}
    (hlen : (rowsBehind key rows cursor).length ≤ pageSize) :
    readPages key rows pageSize cursor = rowsBehind key rows cursor := by
  rw [readPages, List.take_of_length_le hlen]
  split
  next hnone =>
    rw [List.getLast?_eq_none_iff] at hnone
    exact hnone.symm
  next last hlast =>
    have hempty : rowsBehind key rows (some (key last)) = [] := by
      rw [List.eq_nil_iff_forall_not_mem]
      intro row hrow
      obtain ⟨hmem, hbehind⟩ := mem_rowsBehind.mp hrow
      have hlastMem := List.mem_of_getLast? hlast
      have hlater := hbehind (key last) rfl
      have hrowMem : row ∈ rowsBehind key rows cursor :=
        mem_rowsBehind.mpr ⟨hmem, fun other hother =>
          ((mem_rowsBehind.mp hlastMem).2 other hother).trans hlater⟩
      have hle : key row ≤ key last := by
        obtain ⟨before, hsplit⟩ := List.getLast?_eq_some_iff.mp hlast
        have hpairwise := rowsBehind_pairwise key rows cursor
        rw [hsplit] at hpairwise hrowMem
        rcases List.mem_append.mp hrowMem with hbefore | hsame
        · exact (List.pairwise_append.mp hpairwise).2.2 row hbefore last (List.mem_singleton_self _)
        · rw [List.mem_singleton.mp hsame]
      exact absurd hlater (not_lt.mpr hle)
    rw [readPages, hempty, List.take_nil]
    simp

end Nexolab
