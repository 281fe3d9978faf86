import Mathlib.Tactic

/-!
# Running maxima

A stored value which is replaced only by a value with a larger key is, after
any sequence of insertions, a maximum of everything inserted.  The order of the
insertions does not matter, and removing inserted values afterwards does not
change it.
-/

namespace Nexolab

variable {α κ : Type*} [LinearOrder κ]

/-- The stored value after one more insertion: an equal key keeps the old one. -/
def keepLarger (key : α → κ) (stored : Option α) (incoming : α) : α :=
  match stored with
  | none => incoming
  | some current => if key current < key incoming then incoming else current

/-- `stored` is a maximum of `inserted` by `key`, and is absent exactly when
nothing has been inserted. -/
structure RunningMaximum (key : α → κ) (inserted : List α) (stored : Option α) : Prop where
  absent : stored = none → inserted = []
  mem : ∀ value, stored = some value → value ∈ inserted
  le : ∀ value, stored = some value → ∀ other ∈ inserted, key other ≤ key value

namespace RunningMaximum

variable {key : α → κ} {inserted : List α} {stored : Option α}

theorem empty (key : α → κ) : RunningMaximum key ([] : List α) none :=
  ⟨fun _ => rfl, by simp, by simp⟩

theorem replace {incoming : α} (hmax : RunningMaximum key inserted stored)
    (hlarger : ∀ current, stored = some current → key current ≤ key incoming) :
    RunningMaximum key (inserted ++ [incoming]) (some incoming) := by
  refine ⟨by simp, by simp, ?_⟩
  rintro value ⟨rfl⟩ other hother
  rcases List.mem_append.mp hother with hold | hnew
  · cases stored with
    | none =>
      rw [hmax.absent rfl] at hold
      cases hold
    | some current =>
      exact (hmax.le current rfl other hold).trans (hlarger current rfl)
  · rw [List.mem_singleton.mp hnew]

theorem keep {incoming current : α} (hmax : RunningMaximum key inserted (some current))
    (hsmaller : key incoming ≤ key current) :
    RunningMaximum key (inserted ++ [incoming]) (some current) := by
  refine ⟨by simp, ?_, ?_⟩
  · rintro value ⟨rfl⟩
    exact List.mem_append_left _ (hmax.mem current rfl)
  · rintro value ⟨rfl⟩ other hother
    rcases List.mem_append.mp hother with hold | hnew
    · exact hmax.le current rfl other hold
    · rwa [List.mem_singleton.mp hnew]

theorem congr {others : List α} (hmax : RunningMaximum key inserted stored)
    (hsame : ∀ value, value ∈ others ↔ value ∈ inserted) :
    RunningMaximum key others stored where
  absent := by
    intro hnone
    rw [List.eq_nil_iff_forall_not_mem]
    intro value hvalue
    simpa [hmax.absent hnone] using (hsame value).mp hvalue
  mem := fun value hvalue => (hsame value).mpr (hmax.mem value hvalue)
  le := fun value hvalue other hother =>
    hmax.le value hvalue other ((hsame other).mp hother)

theorem insert (hmax : RunningMaximum key inserted stored) (incoming : α) :
    RunningMaximum key (inserted ++ [incoming]) (some (keepLarger key stored incoming)) := by
  unfold keepLarger
  cases stored with
  | none => exact hmax.replace (fun _ hnone => by cases hnone)
  | some current =>
    dsimp only
    split_ifs with hlarger
    · exact hmax.replace (fun _ hsome => by cases hsome; exact hlarger.le)
    · exact hmax.keep (not_lt.mp hlarger)

end RunningMaximum

end Nexolab
