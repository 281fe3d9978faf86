import Mathlib.Tactic

/-!
# Clock times of a time zone

A zone is the list of its transitions.  An instant has one clock time; a clock time
which is repeated is read as its first occurrence, and one which is left out by the
offset before the gap.
-/

namespace Nexolab

structure Transition where
  time : ℤ
  /-- The offset from the transition on. -/
  offset : ℤ

/-- The offset at an instant, from the one before the transitions. -/
def offsetAmong (before : ℤ) : List Transition → ℤ → ℤ
  | [], _ => before
  | transition :: rest, time =>
    if transition.time ≤ time then offsetAmong transition.offset rest time
    else before

def wallOffsetAmong (before : ℤ) : List Transition → ℤ → ℤ
  | [], _ => before
  | transition :: rest, wall =>
    if transition.time + max before transition.offset ≤ wall then
      wallOffsetAmong transition.offset rest wall
    else before

def dayLength : ℤ := 86400000000

/-- A zone with its transitions in order.  A clock time is never reached later than
the same one of the next day. -/
structure TimeZone where
  initial : ℤ
  transitions : List Transition
  ordered : (transitions.map Transition.time).Pairwise (· < ·)
  daysInOrder : ∀ wall, wall - wallOffsetAmong initial transitions wall ≤
    wall + dayLength - wallOffsetAmong initial transitions (wall + dayLength)

namespace TimeZone

variable (zone : TimeZone)

def offset (time : ℤ) : ℤ := offsetAmong zone.initial zone.transitions time

def wallOffset (wall : ℤ) : ℤ := wallOffsetAmong zone.initial zone.transitions wall

def toWall (time : ℤ) : ℤ := time + zone.offset time

def ofWall (wall : ℤ) : ℤ := wall - zone.wallOffset wall

theorem ofWall_day_le (wall : ℤ) :
    zone.ofWall wall ≤ zone.ofWall (wall + dayLength) :=
  zone.daysInOrder wall

/-- Comparing the clock times is not comparing the instants: the clock time is, as
seen from the instant, between the offset now in force and its own. -/
def Misjudged (time wall : ℤ) : Prop :=
  min (zone.offset time) (zone.wallOffset wall) < wall - time ∧
    wall - time ≤ max (zone.offset time) (zone.wallOffset wall)

variable {zone}

theorem not_misjudged_iff {time wall : ℤ} :
    ¬ zone.Misjudged time wall ↔ (wall ≤ zone.toWall time ↔ zone.ofWall wall ≤ time) := by
  unfold Misjudged toWall ofWall
  generalize zone.offset time = current
  generalize zone.wallOffset wall = own
  rw [min_lt_iff, le_max_iff, sub_le_comm, ← sub_le_iff_le_add']
  constructor
  · intro hagree
    constructor <;> intro hreached <;> omega
  · rintro hagree ⟨hlow, hhigh⟩
    omega

end TimeZone

end Nexolab
