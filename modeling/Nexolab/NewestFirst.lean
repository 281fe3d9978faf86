import Mathlib.Tactic

/-!
# Reading a list backwards in time

Rows stand newest first.  A reader which knows the times of the rows only by coarse
stamps reads a page, and starts the next one at the first row with the stamp of the
last row of the page.  It has an end: all rows are read, the rest is left out at the
start of the window, one stamp fills a page, or there are more pages than allowed.
-/

namespace Nexolab

/-! ## Rows by falling stamps -/

section Falling

variable {α : Type*} {stamp : α → ℤ} {rows : List α}

theorem dropWhile_eq_drop_length (test : α → Bool) (rows : List α) :
    rows.dropWhile test = rows.drop (rows.takeWhile test).length := by
  induction rows with
  | nil => rfl
  | cons row rest ih =>
    by_cases htest : test row = true
    · rw [List.dropWhile_cons_of_pos htest, List.takeWhile_cons_of_pos htest, ih]
      rfl
    · rw [List.dropWhile_cons_of_neg htest, List.takeWhile_cons_of_neg htest]
      rfl

theorem filter_le_eq_dropWhile
    (hrows : rows.Pairwise fun first second => stamp second ≤ stamp first) (bound : ℤ) :
    (rows.filter fun row => decide (stamp row ≤ bound)) =
      rows.dropWhile fun row => decide (bound < stamp row) := by
  induction rows with
  | nil => rfl
  | cons row rest ih =>
    rw [List.pairwise_cons] at hrows
    by_cases hle : stamp row ≤ bound
    · rw [List.dropWhile_cons_of_neg (by simpa using hle), List.filter_eq_self]
      intro other hother
      rcases List.mem_cons.mp hother with rfl | hrest
      · exact decide_eq_true hle
      · exact decide_eq_true ((hrows.1 other hrest).trans hle)
    · rw [List.filter_cons_of_neg (by simpa using hle), ih hrows.2,
        List.dropWhile_cons_of_pos (by simpa using hle)]

theorem min?_map_eq_last (hrows : rows.Pairwise fun first second => stamp second ≤ stamp first)
    {oldest : α} (hlast : rows.getLast? = some oldest) :
    (rows.map stamp).min? = some (stamp oldest) := by
  obtain ⟨before, rfl⟩ := List.getLast?_eq_some_iff.mp hlast
  rw [List.min?_eq_some_iff]
  refine ⟨List.mem_map_of_mem (by simp), ?_⟩
  intro other hother
  obtain ⟨row, hrow, rfl⟩ := List.mem_map.mp hother
  rcases List.mem_append.mp hrow with hbefore | hoptions
  · exact (List.pairwise_append.mp hrows).2.2 row hbefore oldest (by simp)
  · rw [List.mem_singleton.mp hoptions]

end Falling

/-- How a reader comes to its end; `cut` has the rows which are left out. -/
inductive PagesEnd (α : Type*) where
  | whole
  | cut (left : List α)
  | dense
  | beyond

section Pages

variable {α : Type*}

def pagesEnd (stamp : α → ℤ) (start : ℤ) (size : ℕ) : ℕ → List α → PagesEnd α
  | 0, _ => .beyond
  | pages + 1, rows =>
    if rows.length ≤ size then .whole
    else
      match (rows.take size).getLast? with
      | none => .dense
      | some oldest =>
        if stamp oldest ≤ start then .cut (rows.drop size)
        else if ∀ row ∈ rows.take size, stamp row = stamp oldest then .dense
        else pagesEnd stamp start size pages
          (rows.dropWhile fun row => decide (stamp oldest < stamp row))

theorem page_extends {rows : List α} {first done size : ℕ} (hfirst : first ≤ done)
    (hdone : done ≤ first + size) :
    (rows.drop first).take size =
      (rows.take done).drop first ++ (rows.drop done).take (first + size - done) := by
  rw [List.drop_take, ← List.take_append_drop (done - first) ((rows.drop first).take size),
    List.take_take, List.drop_take, List.drop_drop]
  congr 2
  · omega
  · omega
  · congr 1
    omega

end Pages

end Nexolab
