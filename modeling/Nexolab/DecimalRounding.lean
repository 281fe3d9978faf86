import Nexolab.Binary64

/-!
# Rounding to decimal digits

A decimal context rounds the exact result of an operation to a number of
significant digits, and `quantize` rounds it to a number of decimals; both round
to the nearest number, ties to the even one.  Two roundings after each other give
the result of the second one alone where the first one cannot reach a midpoint of
the second.
-/

namespace Nexolab

theorem roundHalfEven_intCast (n : ℤ) : roundHalfEven n = n := by
  unfold roundHalfEven
  rw [Int.floor_intCast, sub_self]
  exact if_pos (by norm_num)

theorem roundHalfEven_eq_of_near {x : ℚ} {n : ℤ} (hnear : |x - n| < 1 / 2) :
    roundHalfEven x = n := by
  have herror := roundHalfEven_error x
  rw [abs_lt] at hnear
  rw [abs_le] at herror
  have hlow : (n : ℚ) - 1 < roundHalfEven x := by linarith
  have hhigh : (roundHalfEven x : ℚ) < n + 1 := by linarith
  have hlowInt : n - 1 < roundHalfEven x := by exact_mod_cast hlow
  have hhighInt : roundHalfEven x < n + 1 := by exact_mod_cast hhigh
  omega

theorem roundHalfEven_mono {x y : ℚ} (hle : x ≤ y) :
    roundHalfEven x ≤ roundHalfEven y := by
  by_contra hlt
  push Not at hlt
  have hx := roundHalfEven_error x
  have hy := roundHalfEven_error y
  rw [abs_le] at hx hy
  have hstep : (roundHalfEven y : ℚ) + 1 ≤ roundHalfEven x := by exact_mod_cast hlt
  -- Both numbers are the midpoint between the two results.
  have heq : x = y := by linarith
  rw [heq] at hlt
  exact lt_irrefl _ hlt

theorem roundHalfEven_congr {x y distance : ℚ} (hmoved : |x - y| < distance)
    (hmidpoint : ∀ n : ℤ, distance ≤ |y - (n + 1 / 2)|) :
    roundHalfEven x = roundHalfEven y := by
  apply roundHalfEven_eq_of_near
  have herror := roundHalfEven_error y
  have habove := hmidpoint (roundHalfEven y)
  have hbelow := hmidpoint (roundHalfEven y - 1)
  push_cast at hbelow
  rw [abs_le] at herror
  rw [abs_lt] at hmoved ⊢
  have hright : y - (roundHalfEven y + 1 / 2) ≤ 0 := by linarith
  have hleft : 0 ≤ y - ((roundHalfEven y : ℚ) - 1 + 1 / 2) := by linarith
  rw [abs_of_nonpos hright] at habove
  rw [abs_of_nonneg hleft] at hbelow
  constructor <;> linarith

/-! ## Significant digits -/

/-- The distance of the numbers with `digits` significant digits around `x`. -/
def digitUnit (digits : ℕ) (x : ℚ) : ℚ := 10 ^ (Int.log 10 |x| + 1 - digits)

/-- The result of a decimal context whose precision is `digits`. -/
def roundSignificant (digits : ℕ) (x : ℚ) : ℚ :=
  roundHalfEven (x / digitUnit digits x) * digitUnit digits x

theorem digitUnit_pos (digits : ℕ) (x : ℚ) : 0 < digitUnit digits x := by
  unfold digitUnit
  positivity

theorem digitUnit_le (digits : ℕ) {x : ℚ} (hne : x ≠ 0) {bound : ℤ}
    (hlt : |x| < 10 ^ bound) : digitUnit digits x ≤ 10 ^ (bound - digits) := by
  have hlog : Int.log 10 |x| < bound :=
    (Int.lt_zpow_iff_log_lt (by norm_num) (abs_pos.mpr hne)).mp (by exact_mod_cast hlt)
  unfold digitUnit
  apply zpow_le_zpow_right₀ (by norm_num)
  omega

@[simp] theorem roundSignificant_zero (digits : ℕ) : roundSignificant digits 0 = 0 := by
  have hzero : roundHalfEven 0 = 0 := roundHalfEven_intCast 0
  simp [roundSignificant, hzero]

theorem roundSignificant_error (digits : ℕ) {x : ℚ} {bound : ℤ} (hlt : |x| < 10 ^ bound) :
    |roundSignificant digits x - x| ≤ 10 ^ (bound - digits) / 2 := by
  by_cases hne : x = 0
  · rw [hne, roundSignificant_zero, sub_self, abs_zero]
    positivity
  · have hunit := digitUnit_pos digits x
    have herror := roundHalfEven_error (x / digitUnit digits x)
    have hscale : roundSignificant digits x - x =
        ((roundHalfEven (x / digitUnit digits x) : ℚ) - x / digitUnit digits x) *
          digitUnit digits x := by
      unfold roundSignificant
      field_simp
    rw [hscale, abs_mul, abs_of_pos hunit]
    calc
      |(roundHalfEven (x / digitUnit digits x) : ℚ) - x / digitUnit digits x| *
            digitUnit digits x ≤ 1 / 2 * digitUnit digits x :=
          mul_le_mul_of_nonneg_right herror hunit.le
      _ ≤ 1 / 2 * 10 ^ (bound - digits) :=
          mul_le_mul_of_nonneg_left (digitUnit_le digits hne hlt) (by norm_num)
      _ = 10 ^ (bound - digits) / 2 := by ring

theorem roundSignificant_exact {digits : ℕ} {x : ℚ} (n exponent : ℤ)
    (hx : x = n * 10 ^ exponent) (hdigits : |n| < 10 ^ digits) :
    roundSignificant digits x = x := by
  by_cases hne : x = 0
  · rw [hne, roundSignificant_zero]
  · have hlt : |x| < (10 : ℚ) ^ (digits + exponent : ℤ) := by
      have hcast : |(n : ℚ)| < 10 ^ digits := by exact_mod_cast hdigits
      rw [hx, abs_mul, abs_of_pos (by positivity : (0 : ℚ) < 10 ^ exponent),
        zpow_add₀ (by norm_num), zpow_natCast]
      exact mul_lt_mul_of_pos_right hcast (by positivity)
    have hlog : Int.log 10 |x| < digits + exponent :=
      (Int.lt_zpow_iff_log_lt (by norm_num) (abs_pos.mpr hne)).mp (by exact_mod_cast hlt)
    obtain ⟨shift, hshift⟩ : ∃ shift : ℕ, exponent = shift + (Int.log 10 |x| + 1 - digits) := by
      refine ⟨(exponent - (Int.log 10 |x| + 1 - digits)).toNat, ?_⟩
      omega
    have hinteger : x / digitUnit digits x = ((n * 10 ^ shift : ℤ) : ℚ) := by
      rw [div_eq_iff (digitUnit_pos digits x).ne']
      conv_lhs => rw [hx, hshift, zpow_add₀ (by norm_num), zpow_natCast]
      push_cast
      rw [digitUnit, mul_assoc]
    unfold roundSignificant
    rw [hinteger, roundHalfEven_intCast, ← hinteger, div_mul_cancel₀ _ (digitUnit_pos digits x).ne']

end Nexolab
