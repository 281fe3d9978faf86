import Mathlib.Data.List.Nodup
import Mathlib.Tactic

/-!
# Tables of keyed rows

A table is a list of rows whose keys are distinct.  An update replaces the row
with the key of the new one, an insertion appends a row whose key is new.
-/

namespace Nexolab

variable {α κ : Type*} {key : α → κ}

section Update

variable [DecidableEq κ]

def replaceRow (key : α → κ) (next : α) (rows : List α) : List α :=
  rows.map fun row => if key row = key next then next else row

@[simp] theorem keys_replaceRow (key : α → κ) (next : α) (rows : List α) :
    (replaceRow key next rows).map key = rows.map key := by
  unfold replaceRow
  rw [List.map_map]
  apply List.map_congr_left
  intro row _
  rw [Function.comp_apply]
  split_ifs with hkey
  · exact hkey.symm
  · rfl

theorem mem_replaceRow {next item : α} {rows : List α} :
    item ∈ replaceRow key next rows ↔ item = next ∧ (∃ row ∈ rows, key row = key next) ∨
        item ∈ rows ∧ key item ≠ key next := by
  unfold replaceRow
  rw [List.mem_map]
  constructor
  · rintro ⟨row, hrow, hitem⟩
    split_ifs at hitem with hkey
    · exact .inl ⟨hitem.symm, row, hrow, hkey⟩
    · subst hitem
      exact .inr ⟨hrow, hkey⟩
  · rintro (⟨rfl, row, hrow, hkey⟩ | ⟨hitem, hkey⟩)
    · exact ⟨row, hrow, if_pos hkey⟩
    · exact ⟨item, hitem, if_neg hkey⟩

theorem exists_mem_replaceRow (key : α → κ) (next : α) {rows : List α} {row : α}
    (hrow : row ∈ rows) :
    ∃ item ∈ replaceRow key next rows, key item = key row ∧ (item = next ∨ item = row) := by
  by_cases hkey : key row = key next
  · exact ⟨next, mem_replaceRow.mpr (.inl ⟨rfl, row, hrow, hkey⟩), hkey.symm, .inl rfl⟩
  · exact ⟨row, mem_replaceRow.mpr (.inr ⟨hrow, hkey⟩), rfl, .inr rfl⟩

theorem replaceRow_replaceRow {first second : α} (hkey : key second = key first) (rows : List α) :
    replaceRow key second (replaceRow key first rows) = replaceRow key second rows := by
  unfold replaceRow
  rw [List.map_map]
  apply List.map_congr_left
  intro row _
  rw [Function.comp_apply]
  by_cases hrow : key row = key first
  · rw [if_pos hrow, if_pos hkey.symm, if_pos (hrow.trans hkey.symm)]
  · rw [if_neg hrow]

end Update

variable {rows : List α}

theorem row_eq_of_key (hkeys : (rows.map key).Nodup)
    {row other : α} (hrow : row ∈ rows) (hother : other ∈ rows)
    (hkey : key row = key other) : row = other :=
  List.inj_on_of_nodup_map hkeys hrow hother hkey

theorem nodup_keys_append {next : α}
    (hkeys : (rows.map key).Nodup) (hfresh : ∀ row ∈ rows, key row ≠ key next) :
    ((rows ++ [next]).map key).Nodup := by
  rw [List.map_append, List.map_singleton, List.nodup_append]
  refine ⟨hkeys, List.nodup_singleton _, ?_⟩
  intro first hfirst second hsecond hequal
  obtain ⟨row, hrow, rfl⟩ := List.mem_map.mp hfirst
  rw [List.mem_singleton] at hsecond
  exact hfresh row hrow (hequal.trans hsecond)

theorem mem_and_eq_of_find? {test : α → Bool} {row : α}
    (hfound : rows.find? test = some row) : row ∈ rows ∧ test row = true :=
  ⟨List.mem_of_find?_eq_some hfound, List.find?_some hfound⟩

theorem find?_eq_some_of_unique {test : α → Bool} {row : α}
    (hrow : row ∈ rows) (htest : test row = true)
    (hunique : ∀ other ∈ rows, test other = true → other = row) :
    rows.find? test = some row := by
  cases hfound : rows.find? test with
  | none => simp [List.find?_eq_none.mp hfound row hrow] at htest
  | some other =>
    obtain ⟨hother, hpasses⟩ := mem_and_eq_of_find? hfound
    rw [hunique other hother hpasses]

end Nexolab
