import Nexolab.DecimalRounding
import Nexolab.FallibleList

/-!
# Linear scaling of analog values

`scale_linear_two_point` maps an accepted raw sample to engineering units.  Its
operations round to 80 significant digits, and the result is rounded to the
stored scale.  Stored numbers have 18 decimals, so the differences and their
product are exact, and the quotient is too far from a midpoint of two results for
the first rounding to move it there.
-/

namespace Nexolab

structure AnalogScalingUnavailableError where
  (code message : String)

/-- A value as it is read: a number, or one which is infinite, not a number or
cannot be parsed. -/
inductive DecimalReading where
  | finite (value : ℚ)
  | invalid

def analogScalingStoragePrecision : ℕ := 38

def analogScalingStorageScale : ℕ := 18

def analogScalingIntermediatePrecision : ℕ := analogScalingStoragePrecision * 2 + 4

def analogScalingOutputQuantum : ℚ := 10 ^ (-(analogScalingStorageScale : ℤ))

def canonicalDecimal : DecimalReading → Except AnalogScalingUnavailableError ℚ
  | .finite value => .ok value
  | .invalid =>
    .error ⟨"analog_raw_value_invalid", "analog value must be a finite decimal"⟩

def inContext (exact : ℚ) : ℚ := roundSignificant analogScalingIntermediatePrecision exact

/-- `quantize` with the output quantum, which fails where the coefficient is longer
than the precision of the context. -/
def quantizeOutput (value : ℚ) : Option ℚ :=
  let coefficient := roundHalfEven (value / analogScalingOutputQuantum)
  if |coefficient| < 10 ^ analogScalingIntermediatePrecision then
    some (coefficient * analogScalingOutputQuantum)
  else none

def refuseScaling (condition : Prop) [Decidable condition] (code message : String) :
    Except AnalogScalingUnavailableError Unit :=
  if condition then .error ⟨code, message⟩ else .ok ()

def scaledInContext (raw lower upper engLower engUpper : ℚ) : ℚ :=
  inContext (engLower + inContext (inContext (inContext (raw - lower) *
    inContext (engUpper - engLower)) / inContext (upper - lower)))

def scaleLinearTwoPoint (rawValue rawMin rawMax engineeringMin engineeringMax : DecimalReading) :
    Except AnalogScalingUnavailableError ℚ := do
  let raw ← canonicalDecimal rawValue
  let lower ← canonicalDecimal rawMin
  let upper ← canonicalDecimal rawMax
  let engLower ← canonicalDecimal engineeringMin
  let engUpper ← canonicalDecimal engineeringMax
  refuseScaling (upper ≤ lower) "analog_raw_domain_invalid"
    "raw_min must be strictly less than raw_max"
  refuseScaling (raw < lower) "analog_under_range"
    "raw value is below the accepted analog profile domain"
  refuseScaling (upper < raw) "analog_over_range"
    "raw value is above the accepted analog profile domain"
  match quantizeOutput (scaledInContext raw lower upper engLower engUpper) with
  | some value => return value
  | none =>
    throw ⟨"analog_scaled_value_invalid",
      "scaled analog value cannot be represented at canonical precision"⟩

theorem inContext_error {exact : ℚ} (hlt : |exact| < 10 ^ (21 : ℤ)) :
    |inContext exact - exact| ≤ 10 ^ (-59 : ℤ) / 2 := by
  have hexponent : (21 : ℤ) - (analogScalingIntermediatePrecision : ℕ) = -59 := by
    decide
  have herror := roundSignificant_error analogScalingIntermediatePrecision hlt
  rw [hexponent] at herror
  exact herror

structure StoredNumber where
  /-- The number in units of the last decimal -/
  units : ℤ
  inRange : |units| < 10 ^ analogScalingStoragePrecision

def StoredNumber.value (number : StoredNumber) : ℚ :=
  number.units * analogScalingOutputQuantum

theorem quantum_pos : 0 < analogScalingOutputQuantum := by
  unfold analogScalingOutputQuantum
  positivity

namespace StoredNumber

theorem value_le_iff {first second : StoredNumber} :
    first.value ≤ second.value ↔ first.units ≤ second.units := by
  unfold value
  rw [mul_le_mul_iff_left₀ quantum_pos]
  exact Int.cast_le

theorem units_bounds (number : StoredNumber) :
    -10 ^ 38 < number.units ∧ number.units < 10 ^ 38 :=
  abs_lt.mp number.inRange

theorem inContext_sub (first second : StoredNumber) :
    inContext (first.value - second.value) = first.value - second.value := by
  have hfirst := first.units_bounds
  have hsecond := second.units_bounds
  refine roundSignificant_exact (first.units - second.units) (-18) ?_ ?_
  · unfold value analogScalingOutputQuantum analogScalingStorageScale
    push_cast
    ring
  · unfold analogScalingIntermediatePrecision analogScalingStoragePrecision
    rw [abs_lt]
    constructor <;> omega

end StoredNumber

/-- A scaling as it is stored, with a raw domain which is not empty. -/
structure AnalogScaling where
  (rawMin rawMax engineeringMin engineeringMax : StoredNumber)
  ordered : rawMin.value < rawMax.value

namespace AnalogScaling

variable (scaling : AnalogScaling)

def scale (raw : StoredNumber) : Except AnalogScalingUnavailableError ℚ :=
  scaleLinearTwoPoint (.finite raw.value) (.finite scaling.rawMin.value)
    (.finite scaling.rawMax.value) (.finite scaling.engineeringMin.value)
    (.finite scaling.engineeringMax.value)

def Accepts (raw : StoredNumber) : Prop :=
  scaling.rawMin.value ≤ raw.value ∧ raw.value ≤ scaling.rawMax.value

def linearMap (raw : ℚ) : ℚ :=
  scaling.engineeringMin.value + (raw - scaling.rawMin.value) *
    (scaling.engineeringMax.value - scaling.engineeringMin.value) /
    (scaling.rawMax.value - scaling.rawMin.value)

/-- The nearest number of the stored scale, ties to the even one -/
def roundToScale (value : ℚ) : ℚ :=
  roundHalfEven (value / analogScalingOutputQuantum) * analogScalingOutputQuantum

/-! ## Units of the last decimal -/

def offset (raw : StoredNumber) : ℚ :=
  ((raw.units - scaling.rawMin.units) *
    (scaling.engineeringMax.units - scaling.engineeringMin.units) : ℤ) /
    ((scaling.rawMax.units - scaling.rawMin.units : ℤ) : ℚ)

variable {scaling} {raw : StoredNumber}

theorem width_pos : 0 < scaling.rawMax.units - scaling.rawMin.units := by
  have hnot : ¬ scaling.rawMax.units ≤ scaling.rawMin.units := by
    rw [← StoredNumber.value_le_iff, not_le]
    exact scaling.ordered
  omega

theorem linearMap_eq :
    scaling.linearMap raw.value = (scaling.engineeringMin.units + scaling.offset raw) *
        analogScalingOutputQuantum := by
  have hwidth : ((scaling.rawMax.units - scaling.rawMin.units : ℤ) : ℚ) ≠ 0 := by
    exact_mod_cast width_pos.ne'
  have hquantum := quantum_pos.ne'
  unfold linearMap offset StoredNumber.value
  have hspan : (scaling.rawMax.units : ℚ) * analogScalingOutputQuantum -
      scaling.rawMin.units * analogScalingOutputQuantum =
        ((scaling.rawMax.units - scaling.rawMin.units : ℤ) : ℚ) *
          analogScalingOutputQuantum := by
    push_cast
    ring
  rw [hspan]
  push_cast
  push_cast at hwidth
  field_simp

theorem offset_bounds (haccepts : scaling.Accepts raw) :
    min 0 (scaling.engineeringMax.units - scaling.engineeringMin.units : ℚ) ≤ scaling.offset raw ∧
      scaling.offset raw ≤
        max 0 (scaling.engineeringMax.units - scaling.engineeringMin.units : ℚ) := by
  have hlow : scaling.rawMin.units ≤ raw.units :=
    StoredNumber.value_le_iff.mp haccepts.1
  have hhigh : raw.units ≤ scaling.rawMax.units :=
    StoredNumber.value_le_iff.mp haccepts.2
  have hwidth : (0 : ℚ) < (scaling.rawMax.units - scaling.rawMin.units : ℤ) := by
    exact_mod_cast width_pos
  have hshareLow : (0 : ℚ) ≤ ((raw.units - scaling.rawMin.units : ℤ) : ℚ) /
      ((scaling.rawMax.units - scaling.rawMin.units : ℤ) : ℚ) := by
    apply div_nonneg _ hwidth.le
    exact_mod_cast sub_nonneg.mpr hlow
  have hshareHigh : ((raw.units - scaling.rawMin.units : ℤ) : ℚ) /
      ((scaling.rawMax.units - scaling.rawMin.units : ℤ) : ℚ) ≤ 1 := by
    rw [div_le_one hwidth]
    exact_mod_cast sub_le_sub_right hhigh scaling.rawMin.units
  have hoffset : scaling.offset raw = ((raw.units - scaling.rawMin.units : ℤ) : ℚ) /
        ((scaling.rawMax.units - scaling.rawMin.units : ℤ) : ℚ) *
        (scaling.engineeringMax.units - scaling.engineeringMin.units : ℚ) := by
    unfold offset
    push_cast
    ring
  rw [hoffset]
  rcases le_total 0 (scaling.engineeringMax.units - scaling.engineeringMin.units : ℚ) with
    hspan | hspan
  · rw [min_eq_left hspan, max_eq_right hspan]
    exact ⟨mul_nonneg hshareLow hspan, mul_le_of_le_one_left hspan hshareHigh⟩
  · rw [min_eq_right hspan, max_eq_left hspan]
    exact ⟨le_mul_of_le_one_left hspan hshareHigh, mul_nonpos_of_nonneg_of_nonpos hshareLow hspan⟩

theorem abs_offset_lt (haccepts : scaling.Accepts raw) :
    |scaling.offset raw| < 2 * 10 ^ 38 := by
  obtain ⟨hlow, hhigh⟩ := offset_bounds haccepts
  have hmin := scaling.engineeringMin.units_bounds
  have hmax := scaling.engineeringMax.units_bounds
  have hspanLow : (-(2 * 10 ^ 38) : ℚ) <
      scaling.engineeringMax.units - scaling.engineeringMin.units := by
    have h : (-(2 * 10 ^ 38) : ℤ) <
      scaling.engineeringMax.units - scaling.engineeringMin.units := by omega
    exact_mod_cast h
  have hspanHigh : (scaling.engineeringMax.units - scaling.engineeringMin.units : ℚ) <
      2 * 10 ^ 38 := by
    have h : scaling.engineeringMax.units - scaling.engineeringMin.units < 2 * 10 ^ 38 := by omega
    exact_mod_cast h
  rw [abs_lt]
  constructor
  · exact lt_of_lt_of_le (lt_min (by norm_num) hspanLow) hlow
  · exact lt_of_le_of_lt hhigh (max_lt (by norm_num) hspanHigh)

theorem scaledInContext_eq :
    scaledInContext raw.value scaling.rawMin.value scaling.rawMax.value
        scaling.engineeringMin.value scaling.engineeringMax.value =
      inContext (scaling.engineeringMin.value +
        inContext (scaling.offset raw * analogScalingOutputQuantum)) := by
  have hproduct : inContext ((raw.value - scaling.rawMin.value) *
      (scaling.engineeringMax.value - scaling.engineeringMin.value)) =
        (raw.value - scaling.rawMin.value) *
          (scaling.engineeringMax.value - scaling.engineeringMin.value) := by
    refine roundSignificant_exact ((raw.units - scaling.rawMin.units) *
      (scaling.engineeringMax.units - scaling.engineeringMin.units)) (-36) ?_ ?_
    · unfold StoredNumber.value analogScalingOutputQuantum analogScalingStorageScale
      push_cast
      have hpow : (10 : ℚ) ^ (-36 : ℤ) = 10 ^ (-18 : ℤ) * 10 ^ (-18 : ℤ) := by
        norm_num
      rw [hpow]
      ring
    · have hraw := raw.units_bounds
      have hrawMin := scaling.rawMin.units_bounds
      have hmin := scaling.engineeringMin.units_bounds
      have hmax := scaling.engineeringMax.units_bounds
      have hfirst : |raw.units - scaling.rawMin.units| ≤ 2 * 10 ^ 38 := by
        rw [abs_le]
        constructor <;> omega
      have hsecond : |scaling.engineeringMax.units - scaling.engineeringMin.units| ≤
          2 * 10 ^ 38 := by
        rw [abs_le]
        constructor <;> omega
      rw [abs_mul]
      calc
        |raw.units - scaling.rawMin.units| *
              |scaling.engineeringMax.units - scaling.engineeringMin.units| ≤
            (2 * 10 ^ 38) * (2 * 10 ^ 38) :=
          mul_le_mul hfirst hsecond (abs_nonneg _) (by norm_num)
        _ < 10 ^ analogScalingIntermediatePrecision := by
          unfold analogScalingIntermediatePrecision analogScalingStoragePrecision
          norm_num
  have hquotient : (raw.value - scaling.rawMin.value) *
      (scaling.engineeringMax.value - scaling.engineeringMin.value) /
        (scaling.rawMax.value - scaling.rawMin.value) =
      scaling.offset raw * analogScalingOutputQuantum := by
    have hmap : scaling.linearMap raw.value = _ := linearMap_eq
    unfold linearMap at hmap
    rw [add_mul] at hmap
    exact add_left_cancel hmap
  unfold scaledInContext
  rw [StoredNumber.inContext_sub, StoredNumber.inContext_sub,
    StoredNumber.inContext_sub, hproduct, hquotient]

theorem scaledInContext_near (haccepts : scaling.Accepts raw) :
    |scaledInContext raw.value scaling.rawMin.value scaling.rawMax.value
          scaling.engineeringMin.value scaling.engineeringMax.value /
        analogScalingOutputQuantum -
      (scaling.engineeringMin.units + scaling.offset raw)| < 10 ^ (-40 : ℤ) := by
  have hquantum := quantum_pos
  have hquantumEq : analogScalingOutputQuantum = 10 ^ (-18 : ℤ) := rfl
  have hminAbs : |scaling.engineeringMin.value| < 10 ^ (20 : ℤ) := by
    have hunits : |(scaling.engineeringMin.units : ℚ)| < 10 ^ 38 := by
      exact_mod_cast scaling.engineeringMin.inRange
    unfold StoredNumber.value
    rw [abs_mul, abs_of_pos hquantum, hquantumEq]
    calc
      |(scaling.engineeringMin.units : ℚ)| * 10 ^ (-18 : ℤ) < 10 ^ 38 * 10 ^ (-18 : ℤ) :=
        mul_lt_mul_of_pos_right hunits (by positivity)
      _ = 10 ^ (20 : ℤ) := by norm_num
  have hshareAbs : |scaling.offset raw * analogScalingOutputQuantum| < 2 * 10 ^ (20 : ℤ) := by
    rw [abs_mul, abs_of_pos hquantum, hquantumEq]
    calc
      |scaling.offset raw| * 10 ^ (-18 : ℤ) < 2 * 10 ^ 38 * 10 ^ (-18 : ℤ) :=
        mul_lt_mul_of_pos_right (abs_offset_lt haccepts) (by positivity)
      _ = 2 * 10 ^ (20 : ℤ) := by norm_num
  have hshareWide : |scaling.offset raw * analogScalingOutputQuantum| <
      10 ^ (21 : ℤ) := hshareAbs.trans (by norm_num)
  have hshare : |inContext (scaling.offset raw * analogScalingOutputQuantum) -
      scaling.offset raw * analogScalingOutputQuantum| ≤ 10 ^ (-59 : ℤ) / 2 :=
    inContext_error hshareWide
  have hsumAbs : |scaling.engineeringMin.value +
      inContext (scaling.offset raw * analogScalingOutputQuantum)| < 10 ^ (21 : ℤ) := by
    rw [abs_lt] at hminAbs hshareAbs ⊢
    rw [abs_le] at hshare
    norm_num at hminAbs hshareAbs hshare ⊢
    constructor <;> linarith
  have hsum : |inContext (scaling.engineeringMin.value +
        inContext (scaling.offset raw * analogScalingOutputQuantum)) -
      (scaling.engineeringMin.value +
        inContext (scaling.offset raw * analogScalingOutputQuantum))| ≤
        10 ^ (-59 : ℤ) / 2 := inContext_error hsumAbs
  have htotal : |inContext (scaling.engineeringMin.value +
        inContext (scaling.offset raw * analogScalingOutputQuantum)) -
      (scaling.engineeringMin.value +
        scaling.offset raw * analogScalingOutputQuantum)| ≤ 10 ^ (-59 : ℤ) := by
    have hsplit (sum lower rounded exact : ℚ) : sum - (lower + exact) =
        (sum - (lower + rounded)) + (rounded - exact) := by ring
    rw [hsplit _ _ (inContext (scaling.offset raw * analogScalingOutputQuantum))]
    exact (abs_add_le _ _).trans ((add_le_add hsum hshare).trans_eq (add_halves _))
  rw [scaledInContext_eq]
  have hunits (scaled : ℚ) : scaled / analogScalingOutputQuantum -
      (scaling.engineeringMin.units + scaling.offset raw) =
        (scaled - (scaling.engineeringMin.value +
          scaling.offset raw * analogScalingOutputQuantum)) /
          analogScalingOutputQuantum := by
    unfold StoredNumber.value
    field_simp
  rw [hunits, abs_div, abs_of_pos hquantum, div_lt_iff₀ hquantum]
  refine htotal.trans_lt ?_
  rw [hquantumEq]
  norm_num

theorem midpoint_distance {n : ℤ}
    (hne : scaling.engineeringMin.units + scaling.offset raw ≠ n + 1 / 2) :
    10 ^ (-40 : ℤ) ≤
      |scaling.engineeringMin.units + scaling.offset raw - (n + 1 / 2)| := by
  have hwidth : 0 < scaling.rawMax.units - scaling.rawMin.units := width_pos
  have hmin := scaling.rawMin.units_bounds
  have hmax := scaling.rawMax.units_bounds
  obtain ⟨numerator, hnumerator⟩ : ∃ numerator : ℤ,
      scaling.engineeringMin.units + scaling.offset raw - (n + 1 / 2) =
        numerator / (2 * ((scaling.rawMax.units - scaling.rawMin.units : ℤ) : ℚ)) := by
    refine ⟨(2 * scaling.engineeringMin.units - 2 * n - 1) *
      (scaling.rawMax.units - scaling.rawMin.units) +
      2 * ((raw.units - scaling.rawMin.units) *
        (scaling.engineeringMax.units - scaling.engineeringMin.units)), ?_⟩
    have hne : ((scaling.rawMax.units - scaling.rawMin.units : ℤ) : ℚ) ≠ 0 := by
      exact_mod_cast hwidth.ne'
    unfold offset
    push_cast at hne ⊢
    field_simp
    ring
  have hnonzero : numerator ≠ 0 := by
    rintro rfl
    apply hne
    rw [Int.cast_zero, zero_div] at hnumerator
    linarith
  have hone : (1 : ℚ) ≤ |(numerator : ℚ)| := by
    exact_mod_cast Int.one_le_abs hnonzero
  have hwide : ((scaling.rawMax.units - scaling.rawMin.units : ℤ) : ℚ) ≤ 2 * 10 ^ 38 := by
    have h : scaling.rawMax.units - scaling.rawMin.units ≤ 2 * 10 ^ 38 := by omega
    exact_mod_cast h
  have hpos : (0 : ℚ) < 2 * ((scaling.rawMax.units - scaling.rawMin.units : ℤ) : ℚ) := by
    exact_mod_cast mul_pos two_pos hwidth
  rw [hnumerator, abs_div, abs_of_pos hpos, le_div_iff₀ hpos]
  calc
    (10 : ℚ) ^ (-40 : ℤ) * (2 * ((scaling.rawMax.units - scaling.rawMin.units : ℤ) : ℚ)) ≤
        10 ^ (-40 : ℤ) * (2 * (2 * 10 ^ 38)) := by gcongr
    _ ≤ 1 := by norm_num
    _ ≤ |(numerator : ℚ)| := hone

theorem scaledInContext_midpoint (haccepts : scaling.Accepts raw) {n : ℤ}
    (heq : scaling.engineeringMin.units + scaling.offset raw = n + 1 / 2) :
    scaledInContext raw.value scaling.rawMin.value scaling.rawMax.value
        scaling.engineeringMin.value scaling.engineeringMax.value =
      (n + 1 / 2) * analogScalingOutputQuantum := by
  have hmin := scaling.engineeringMin.units_bounds
  have hoffset : scaling.offset raw = (n - scaling.engineeringMin.units : ℤ) + 1 / 2 := by
    push_cast
    linarith
  have hbounds := abs_lt.mp (abs_offset_lt haccepts)
  rw [hoffset] at hbounds
  have hlow : -(2 * 10 ^ 38) - 1 < n - scaling.engineeringMin.units := by
    have h : (-(2 * 10 ^ 38) - 1 : ℚ) < (n - scaling.engineeringMin.units : ℤ) := by
      linarith [hbounds.1]
    exact_mod_cast h
  have hhigh : n - scaling.engineeringMin.units < 2 * 10 ^ 38 := by
    have h : ((n - scaling.engineeringMin.units : ℤ) : ℚ) < 2 * 10 ^ 38 := by
      linarith [hbounds.2]
    exact_mod_cast h
  have hshare : inContext (scaling.offset raw * analogScalingOutputQuantum) =
      scaling.offset raw * analogScalingOutputQuantum := by
    refine roundSignificant_exact (10 * (n - scaling.engineeringMin.units) + 5) (-19) ?_ ?_
    · rw [hoffset]
      unfold analogScalingOutputQuantum analogScalingStorageScale
      push_cast
      norm_num
      ring
    · unfold analogScalingIntermediatePrecision analogScalingStoragePrecision
      rw [abs_lt]
      constructor <;> omega
  have hsum : scaling.engineeringMin.value + scaling.offset raw * analogScalingOutputQuantum =
        (n + 1 / 2) * analogScalingOutputQuantum := by
    rw [StoredNumber.value, ← add_mul, heq]
  rw [scaledInContext_eq, hshare, hsum]
  refine roundSignificant_exact (10 * n + 5) (-19) ?_ ?_
  · unfold analogScalingOutputQuantum analogScalingStorageScale
    push_cast
    norm_num
    ring
  · unfold analogScalingIntermediatePrecision analogScalingStoragePrecision
    rw [abs_lt]
    constructor <;> omega

theorem scaledInContext_rounds (haccepts : scaling.Accepts raw) :
    roundHalfEven (scaledInContext raw.value scaling.rawMin.value
        scaling.rawMax.value scaling.engineeringMin.value
        scaling.engineeringMax.value / analogScalingOutputQuantum) =
      roundHalfEven (scaling.engineeringMin.units + scaling.offset raw) := by
  by_cases hmidpoint : ∃ n : ℤ, scaling.engineeringMin.units + scaling.offset raw = n + 1 / 2
  · obtain ⟨n, heq⟩ := hmidpoint
    rw [scaledInContext_midpoint haccepts heq, mul_div_cancel_right₀ _ quantum_pos.ne', heq]
  · push Not at hmidpoint
    exact roundHalfEven_congr (scaledInContext_near haccepts) fun n =>
      midpoint_distance (hmidpoint n)

theorem rounded_bounds (haccepts : scaling.Accepts raw) :
    min scaling.engineeringMin.units scaling.engineeringMax.units ≤
        roundHalfEven (scaling.engineeringMin.units + scaling.offset raw) ∧
      roundHalfEven (scaling.engineeringMin.units + scaling.offset raw) ≤
        max scaling.engineeringMin.units scaling.engineeringMax.units := by
  obtain ⟨hlow, hhigh⟩ := offset_bounds haccepts
  constructor
  · rw [← roundHalfEven_intCast (min _ _)]
    apply roundHalfEven_mono
    push_cast
    rcases le_total (scaling.engineeringMin.units : ℚ) scaling.engineeringMax.units with
      horder | horder
    · rw [min_eq_left (sub_nonneg.mpr horder)] at hlow
      rw [min_eq_left horder]
      linarith
    · rw [min_eq_right (sub_nonpos.mpr horder)] at hlow
      rw [min_eq_right horder]
      linarith
  · rw [← roundHalfEven_intCast (max _ _)]
    apply roundHalfEven_mono
    push_cast
    rcases le_total (scaling.engineeringMin.units : ℚ) scaling.engineeringMax.units with
      horder | horder
    · rw [max_eq_right (sub_nonneg.mpr horder)] at hhigh
      rw [max_eq_right horder]
      linarith
    · rw [max_eq_left (sub_nonpos.mpr horder)] at hhigh
      rw [max_eq_left horder]
      linarith

theorem scale_eq (haccepts : scaling.Accepts raw) :
    scaling.scale raw = .ok (roundHalfEven (scaling.engineeringMin.units +
      scaling.offset raw) * analogScalingOutputQuantum) := by
  have hmin := scaling.engineeringMin.units_bounds
  have hmax := scaling.engineeringMax.units_bounds
  have hquantize : quantizeOutput (scaledInContext raw.value scaling.rawMin.value
      scaling.rawMax.value scaling.engineeringMin.value scaling.engineeringMax.value) =
        some (roundHalfEven (scaling.engineeringMin.units + scaling.offset raw) *
          analogScalingOutputQuantum) := by
    unfold quantizeOutput
    rw [scaledInContext_rounds haccepts]
    obtain ⟨hlow, hhigh⟩ := rounded_bounds haccepts
    refine if_pos ?_
    unfold analogScalingIntermediatePrecision analogScalingStoragePrecision
    rw [abs_lt]
    constructor <;> omega
  unfold scale scaleLinearTwoPoint
  simp only [canonicalDecimal, refuseScaling, not_le.mpr scaling.ordered,
    not_lt.mpr haccepts.1, not_lt.mpr haccepts.2, if_false, ok_bind, hquantize]
  rfl

theorem offset_mono (hspan : scaling.engineeringMin.units ≤ scaling.engineeringMax.units)
    {first second : StoredNumber} (hle : first.value ≤ second.value) :
    scaling.offset first ≤ scaling.offset second := by
  have hwidth : (0 : ℚ) < (scaling.rawMax.units - scaling.rawMin.units : ℤ) := by
    exact_mod_cast width_pos
  unfold offset
  apply div_le_div_of_nonneg_right _ hwidth.le
  have hunits := StoredNumber.value_le_iff.mp hle
  exact_mod_cast mul_le_mul_of_nonneg_right (sub_le_sub_right hunits _) (sub_nonneg.mpr hspan)

theorem offset_anti (hspan : scaling.engineeringMax.units ≤ scaling.engineeringMin.units)
    {first second : StoredNumber} (hle : first.value ≤ second.value) :
    scaling.offset second ≤ scaling.offset first := by
  have hwidth : (0 : ℚ) < (scaling.rawMax.units - scaling.rawMin.units : ℤ) := by
    exact_mod_cast width_pos
  unfold offset
  apply div_le_div_of_nonneg_right _ hwidth.le
  have hunits := StoredNumber.value_le_iff.mp hle
  exact_mod_cast mul_le_mul_of_nonpos_right (sub_le_sub_right hunits _) (sub_nonpos.mpr hspan)

theorem offset_rawMin : scaling.offset scaling.rawMin = 0 := by
  simp [offset]

theorem offset_rawMax :
    scaling.offset scaling.rawMax =
      scaling.engineeringMax.units - scaling.engineeringMin.units := by
  have hne : ((scaling.rawMax.units - scaling.rawMin.units : ℤ) : ℚ) ≠ 0 := by
    exact_mod_cast width_pos.ne'
  unfold offset
  rw [Int.cast_mul, mul_div_cancel_left₀ _ hne, Int.cast_sub]

/-- An accepted sample is mapped to the linear map of it, rounded once; so the end
points are mapped to the end points, and the result is monotone and stays between
them. -/
theorem scale_correctlyRounded (scaling : AnalogScaling) :
    (∀ raw, scaling.Accepts raw →
      scaling.scale raw = .ok (roundToScale (scaling.linearMap raw.value))) ∧
    scaling.scale scaling.rawMin = .ok scaling.engineeringMin.value ∧
    scaling.scale scaling.rawMax = .ok scaling.engineeringMax.value ∧
    (∀ first second lower upper, scaling.Accepts first → scaling.Accepts second →
      first.value ≤ second.value → scaling.scale first = .ok lower →
      scaling.scale second = .ok upper →
      (scaling.engineeringMin.value ≤ scaling.engineeringMax.value → lower ≤ upper) ∧
      (scaling.engineeringMax.value ≤ scaling.engineeringMin.value → upper ≤ lower)) ∧
    ∀ raw value, scaling.Accepts raw → scaling.scale raw = .ok value →
      min scaling.engineeringMin.value scaling.engineeringMax.value ≤ value ∧
        value ≤ max scaling.engineeringMin.value scaling.engineeringMax.value := by
  have hquantum := quantum_pos
  have hord := scaling.ordered.le
  have hinteger (n : ℤ) : roundHalfEven (n : ℚ) = n := roundHalfEven_intCast n
  refine ⟨?_, ?_, ?_, ?_, ?_⟩
  · intro raw haccepts
    rw [scale_eq haccepts, linearMap_eq, roundToScale,
      mul_div_cancel_right₀ _ hquantum.ne']
  · rw [scale_eq ⟨le_refl _, hord⟩, offset_rawMin, add_zero, hinteger,
      StoredNumber.value]
  · rw [scale_eq ⟨hord, le_refl _⟩, offset_rawMax, add_sub_cancel, hinteger,
      StoredNumber.value]
  · intro first second lower upper hfirst hsecond hle hlower hupper
    rw [scale_eq hfirst, Except.ok.injEq] at hlower
    rw [scale_eq hsecond, Except.ok.injEq] at hupper
    subst hlower hupper
    rw [mul_le_mul_iff_left₀ hquantum, mul_le_mul_iff_left₀ hquantum, Int.cast_le,
      Int.cast_le, StoredNumber.value_le_iff, StoredNumber.value_le_iff]
    constructor
    · intro hspan
      exact roundHalfEven_mono (add_le_add_right (offset_mono hspan hle) _)
    · intro hspan
      exact roundHalfEven_mono (add_le_add_right (offset_anti hspan hle) _)
  · intro raw value haccepts hvalue
    rw [scale_eq haccepts, Except.ok.injEq] at hvalue
    obtain ⟨hlow, hhigh⟩ := rounded_bounds haccepts
    subst hvalue
    unfold StoredNumber.value
    rw [← min_mul_of_nonneg _ _ hquantum.le, ← max_mul_of_nonneg _ _ hquantum.le,
      mul_le_mul_iff_left₀ hquantum, mul_le_mul_iff_left₀ hquantum]
    exact ⟨by exact_mod_cast hlow, by exact_mod_cast hhigh⟩

def currentLoop : AnalogScaling where
  rawMin := ⟨4 * 10 ^ 18, by decide⟩
  rawMax := ⟨7 * 10 ^ 18, by decide⟩
  engineeringMin := ⟨0, by decide⟩
  engineeringMax := ⟨10 ^ 18, by decide⟩
  ordered := by decide +kernel

theorem scale_correctlyRounded_third :
    currentLoop.scale ⟨5 * 10 ^ 18, by decide⟩ = .ok (roundToScale (1 / 3)) := by
  have hmap : currentLoop.linearMap (StoredNumber.value ⟨5 * 10 ^ 18, by decide⟩) =
      1 / 3 := by decide +kernel
  rw [← hmap]
  exact (scale_correctlyRounded currentLoop).1 _
    ⟨by decide +kernel, by decide +kernel⟩

end AnalogScaling

end Nexolab
