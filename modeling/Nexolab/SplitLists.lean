import Mathlib.Tactic

/-!
# Splitting at a separator

A list is cut at each occurrence of a separator.  Cutting is undone by joining
the pieces, and the pieces of joined lists are the pieces of each of them in
order, so joined lists are told apart by their pieces and by how many of them
belong to each list.
-/

namespace Nexolab

variable {α : Type} [DecidableEq α]

theorem not_mem_of_mem_splitOn {separator : α} {elements piece : List α}
    (hpiece : piece ∈ elements.splitOn separator) : separator ∉ piece := by
  induction elements generalizing piece with
  | nil =>
    rw [List.splitOn_nil, List.mem_singleton] at hpiece
    rw [hpiece]
    exact List.not_mem_nil
  | cons first rest ih =>
    rw [List.splitOn_cons_eq_if_modifyHead] at hpiece
    split at hpiece
    · rcases List.mem_cons.mp hpiece with hnil | hrest
      · rw [hnil]
        exact List.not_mem_nil
      · exact ih hrest
    next hother =>
      cases hpieces : rest.splitOn separator with
      | nil => exact absurd hpieces (List.splitOn_ne_nil separator rest)
      | cons head tail =>
        rw [hpieces] at hpiece ih
        rw [List.modifyHead_cons] at hpiece
        rcases List.mem_cons.mp hpiece with hhead | htail
        · rw [hhead, List.mem_cons, not_or]
          constructor
          · intro hsame
            exact hother (by rw [hsame]; exact beq_self_eq_true first)
          · exact ih List.mem_cons_self
        · exact ih (List.mem_cons_of_mem head htail)

theorem length_splitOn (separator : α) (elements : List α) :
    (elements.splitOn separator).length = elements.count separator + 1 := by
  induction elements with
  | nil => rfl
  | cons first rest ih =>
    rw [List.splitOn_cons_eq_if_modifyHead, List.count_cons]
    split
    · rw [List.length_cons, ih]
    · rw [List.length_modifyHead, ih]

theorem splitOn_injective (separator : α) :
    Function.Injective (List.splitOn separator) := by
  intro left right hsame
  calc
    left = [separator].intercalate (left.splitOn separator) :=
      (List.intercalate_splitOn separator).symm
    _ = [separator].intercalate (right.splitOn separator) := by rw [hsame]
    _ = right := List.intercalate_splitOn separator

theorem splitOn_joined (separator : α) {parts : List (List α)} (hparts : parts ≠ []) :
    ([separator].intercalate parts).splitOn separator = parts.flatMap (List.splitOn separator) := by
  induction parts with
  | nil => exact absurd rfl hparts
  | cons part rest ih =>
    cases rest with
    | nil => simp [List.intercalate]
    | cons next rest =>
      have hjoin : [separator].intercalate (part :: next :: rest) =
          part ++ separator :: [separator].intercalate (next :: rest) := by
        simp [List.intercalate, List.intersperse]
      rw [hjoin, List.splitOn_append_cons_self, ih (List.cons_ne_nil _ _)]
      exact List.flatMap_cons.symm

theorem eq_of_pieces_of_counts {separator : α} {parts others : List (List α)}
    (hpieces : parts.flatMap (List.splitOn separator) = others.flatMap (List.splitOn separator))
    (hcounts : parts.map (List.count separator) =
      others.map (List.count separator)) : parts = others := by
  induction parts generalizing others with
  | nil =>
    cases others with
    | nil => rfl
    | cons other others => cases hcounts
  | cons part parts ih =>
    cases others with
    | nil => cases hcounts
    | cons other others =>
      rw [List.map_cons, List.map_cons, List.cons.injEq] at hcounts
      rw [List.flatMap_cons, List.flatMap_cons] at hpieces
      have hlen : (part.splitOn separator).length = (other.splitOn separator).length := by
        rw [length_splitOn, length_splitOn, hcounts.1]
      obtain ⟨hfirst, hrest⟩ := List.append_inj hpieces hlen
      rw [splitOn_injective separator hfirst, ih hrest hcounts.2]

end Nexolab
