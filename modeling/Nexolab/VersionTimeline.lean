import Mathlib.Data.List.Sort
import Mathlib.Order.Lattice.Nat
import Mathlib.Tactic

/-!
# Records in force

Every record of a history carries a stamp and a rank.  At a time the record in
force is the one of the largest rank among those stamped no later.  A record
appended with a later stamp changes nothing at earlier times, and at any time the
record in force is the appended one or the one which was in force before.
-/

namespace Nexolab

variable {α τ κ : Type*} [LinearOrder τ] [LinearOrder κ]

structure InForce (stamp : α → τ) (rank : α → κ) (records : List α) (time : τ)
    (record : α) : Prop where
  mem : record ∈ records
  started : stamp record ≤ time
  last : ∀ other ∈ records, stamp other ≤ time → rank other ≤ rank record

namespace InForce

variable {stamp : α → τ} {rank : α → κ} {records : List α} {time : τ}
  {record other new : α}

theorem of_append (hforce : InForce stamp rank (records ++ [new]) time record) :
    record = new ∧ stamp new ≤ time ∨ InForce stamp rank records time record := by
  rcases List.mem_append.mp hforce.mem with hold | hnew
  · right
    exact ⟨hold, hforce.started, fun other hother hstamp =>
      hforce.last other (List.mem_append_left _ hother) hstamp⟩
  · left
    rw [List.mem_singleton] at hnew
    subst hnew
    exact ⟨rfl, hforce.started⟩

theorem rank_eq (hforce : InForce stamp rank records time record)
    (hother : InForce stamp rank records time other) : rank record = rank other :=
  le_antisymm (hother.last record hforce.mem hforce.started)
    (hforce.last other hother.mem hother.started)

theorem not_of_rank_lt (hmem : other ∈ records) (hstarted : stamp other ≤ time)
    (hrank : rank record < rank other) :
    ¬ InForce stamp rank records time record := by
  intro hforce
  exact absurd (hforce.last other hmem hstarted) (not_le.mpr hrank)

end InForce

/-! ## Sorted lists -/

section Sorted

variable {r : α → α → Prop} [DecidableRel r]

theorem mem_and_le_of_head?_insertionSort [Std.Total r] [IsTrans α r] {items : List α} {first : α}
    (hhead : (items.insertionSort r).head? = some first) :
    first ∈ items ∧ ∀ item ∈ items, item = first ∨ r first item := by
  cases hsorted : items.insertionSort r with
  | nil =>
    rw [hsorted] at hhead
    cases hhead
  | cons head rest =>
    rw [hsorted, List.head?_cons, Option.some.injEq] at hhead
    subst hhead
    have hpairwise := List.pairwise_insertionSort r items
    rw [hsorted, List.pairwise_cons] at hpairwise
    have hmem : ∀ item, item ∈ items ↔ item ∈ head :: rest := by
      intro item
      rw [← hsorted, List.mem_insertionSort]
    refine ⟨(hmem head).mpr List.mem_cons_self, ?_⟩
    intro item hitem
    rcases List.mem_cons.mp ((hmem item).mp hitem) with hfirst | hrest
    · exact .inl hfirst
    · exact .inr (hpairwise.1 item hrest)

theorem head?_insertionSort_eq_none {items : List α} :
    (items.insertionSort r).head? = none ↔ items = [] := by
  rw [List.head?_eq_none_iff, ← List.length_eq_zero_iff,
    List.length_insertionSort, List.length_eq_zero_iff]

end Sorted

end Nexolab
