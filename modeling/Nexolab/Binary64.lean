import Mathlib.Data.Int.Log
import Mathlib.Tactic

/-!
# Rounding to double precision

The result of an operation on floating-point numbers is the exact result rounded
to the nearest number with a significand of 53 bits, ties to the even one.
Magnitudes from `2 ^ 1024` on overflow.
-/

namespace Nexolab

def roundHalfEven (x : ℚ) : ℤ :=
  if x - ⌊x⌋ < 1 / 2 then ⌊x⌋
  else if 1 / 2 < x - ⌊x⌋ then ⌊x⌋ + 1
  else ⌊x⌋ + ⌊x⌋ % 2

/-- The distance of the numbers with a significand of 53 bits around `x`. -/
def unitInLastPlace (x : ℚ) : ℚ :=
  2 ^ (max (Int.log 2 |x|) (-1022) - 52)

def roundBinary64 (x : ℚ) : Option ℚ :=
  let rounded := roundHalfEven (x / unitInLastPlace x) * unitInLastPlace x
  if |rounded| < 2 ^ 1024 then some rounded else none

theorem roundHalfEven_error (x : ℚ) : |(roundHalfEven x : ℚ) - x| ≤ 1 / 2 := by
  have hlow := Int.floor_le x
  have hhigh := Int.lt_floor_add_one x
  unfold roundHalfEven
  split_ifs with hbelow habove
  · rw [abs_le]
    constructor <;> linarith
  · rw [abs_le]
    push_cast
    constructor <;> linarith
  · have hhalf : x - ⌊x⌋ = 1 / 2 :=
      le_antisymm (not_lt.mp habove) (not_lt.mp hbelow)
    have hparity : ⌊x⌋ % 2 = 0 ∨ ⌊x⌋ % 2 = 1 := by omega
    rw [abs_le]
    push_cast
    rcases hparity with heven | hodd
    · rw [heven]
      push_cast
      constructor <;> linarith
    · rw [hodd]
      push_cast
      constructor <;> linarith

theorem unitInLastPlace_pos (x : ℚ) : 0 < unitInLastPlace x := by
  unfold unitInLastPlace
  positivity

theorem roundBinary64_error {x rounded : ℚ} (hround : roundBinary64 x = some rounded) :
    |rounded - x| ≤ unitInLastPlace x / 2 := by
  unfold roundBinary64 at hround
  dsimp only at hround
  split_ifs at hround
  cases hround
  have hunit := unitInLastPlace_pos x
  have herror := roundHalfEven_error (x / unitInLastPlace x)
  have hscale : (roundHalfEven (x / unitInLastPlace x) : ℚ) * unitInLastPlace x -
      x = ((roundHalfEven (x / unitInLastPlace x) : ℚ) -
        x / unitInLastPlace x) * unitInLastPlace x := by
    field_simp
  rw [hscale, abs_mul, abs_of_pos hunit]
  calc
    |(roundHalfEven (x / unitInLastPlace x) : ℚ) - x / unitInLastPlace x| *
          unitInLastPlace x ≤ 1 / 2 * unitInLastPlace x :=
        mul_le_mul_of_nonneg_right herror hunit.le
    _ = unitInLastPlace x / 2 := by ring

end Nexolab
