import Mathlib.Tactic

/-!
# Intervals clamped to a window

What an interval has in common with a window is the distance of its clamped ends.
So the parts of consecutive intervals telescope, and the parts in two adjacent
windows add up.
-/

namespace Nexolab

section Clamp

variable {τ : Type*} [Field τ] [LinearOrder τ] [IsStrictOrderedRing τ]

def clamp (start stop time : τ) : τ := max start (min stop time)

def clampedLength (start stop left right : τ) : τ :=
  max 0 (min stop right - max start left)

omit [Field τ] [IsStrictOrderedRing τ] in
theorem clamp_bounds {start stop : τ} (hwindow : start ≤ stop) (time : τ) :
    start ≤ clamp start stop time ∧ clamp start stop time ≤ stop :=
  ⟨le_max_left _ _, max_le hwindow (min_le_left _ _)⟩

theorem clampedLength_eq {start stop left right : τ} (hwindow : start ≤ stop) (hle : left ≤ right) :
    clampedLength start stop left right = clamp start stop right - clamp start stop left := by
  unfold clampedLength clamp
  rcases le_total stop right with hright | hright
  · rw [min_eq_left hright, max_eq_right hwindow]
    rcases le_total stop left with hleft | hleft
    · rw [max_eq_right (hwindow.trans hleft), min_eq_left hleft, max_eq_right hwindow, sub_self]
      exact max_eq_left (sub_nonpos.mpr hleft)
    · rw [min_eq_right hleft]
      exact max_eq_right (sub_nonneg.mpr (max_le hwindow hleft))
  · rw [min_eq_right hright, min_eq_right (hle.trans hright)]
    rcases le_total start right with hstart | hstart
    · rw [max_eq_right hstart]
      exact max_eq_right (sub_nonneg.mpr (max_le hstart hle))
    · rw [max_eq_left hstart, max_eq_left (hle.trans hstart), sub_self]
      exact max_eq_left (sub_nonpos.mpr hstart)

omit [IsStrictOrderedRing τ] in
theorem clamp_split {start middle stop : τ} (hleft : start ≤ middle)
    (hright : middle ≤ stop) (time : τ) :
    clamp start stop time + middle = clamp start middle time + clamp middle stop time := by
  unfold clamp
  rcases le_total time middle with hbefore | hafter
  · rw [min_eq_right (hbefore.trans hright), min_eq_right hbefore, max_eq_left hbefore]
  · rw [min_eq_left hafter, max_eq_right hleft, max_eq_right (hleft.trans (le_min hright hafter)),
      max_eq_right (le_min hright hafter), add_comm]

theorem clampedLength_split {start middle stop left right : τ}
    (hbefore : start ≤ middle) (hafter : middle ≤ stop) (hle : left ≤ right) :
    clampedLength start stop left right = clampedLength start middle left right +
        clampedLength middle stop left right := by
  have hl := clamp_split hbefore hafter left
  have hr := clamp_split hbefore hafter right
  rw [clampedLength_eq (hbefore.trans hafter) hle, clampedLength_eq hbefore hle,
    clampedLength_eq hafter hle]
  linear_combination hr - hl

end Clamp

/-! ## Consecutive elements -/

section Consecutive

variable {α τ : Type*}

def neighbours (items : List α) : List (α × α) := items.zip items.tail

theorem neighbours_cons_cons (first second : α) (rest : List α) :
    neighbours (first :: second :: rest) = (first, second) :: neighbours (second :: rest) := rfl

variable [Field τ] [LinearOrder τ] [IsStrictOrderedRing τ]

theorem sum_clampedLength_le {time : α → τ} {items : List α} {start stop : τ}
    (hwindow : start ≤ stop) (hsorted : items.Pairwise fun left right => time left ≤ time right) :
    ((neighbours items).map fun pair =>
      clampedLength start stop (time pair.1) (time pair.2)).sum ≤ stop - start := by
  have htelescopes : ∀ first ∈ items.head?, ((neighbours items).map fun pair =>
      clampedLength start stop (time pair.1) (time pair.2)).sum ≤
        stop - clamp start stop (time first) := by
    induction items with
    | nil =>
      intro first hfirst
      cases hfirst
    | cons first rest ih =>
      intro head hhead
      cases hhead
      cases rest with
      | nil => exact sub_nonneg.mpr (clamp_bounds hwindow _).2
      | cons second rest =>
        obtain ⟨hfirst, hrest⟩ := List.pairwise_cons.mp hsorted
        have hlater := ih hrest second rfl
        rw [neighbours_cons_cons, List.map_cons, List.sum_cons,
          clampedLength_eq hwindow (hfirst second List.mem_cons_self)]
        linarith
  cases hhead : items.head? with
  | none =>
    rw [List.head?_eq_none_iff] at hhead
    rw [hhead]
    exact sub_nonneg.mpr hwindow
  | some first =>
    have hstart := (clamp_bounds hwindow (time first)).1
    exact (htelescopes first hhead).trans (sub_le_sub_left hstart _)

end Consecutive

end Nexolab
