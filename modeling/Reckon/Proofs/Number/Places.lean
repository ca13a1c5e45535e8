import Reckon.Proofs.Number.Shortest

/-
Rounding to places after the point. A double is rounded twice, to a whole number of units of the
last place kept and from there to the nearest double. Neither step goes far: the first by half a
unit at most, and the second no farther, for the double itself is on the grid. So the result is
within one unit of the double (`roundPlaces_spec`).

Rounding again changes nothing (`roundPlaces_roundPlaces`): the result is as near to the same whole
number of units as the double was, and where it is halfway between two of them so was the double,
which went to the even one.
-/
namespace Reckon.Number

variable {n : ℤ} {x : Dyadic}

/-- The units of the `n`th place that a number is rounded to. -/
def units (n : ℤ) (x : Dyadic) : ℕ :=
  roundDiv (shiftTen (fractionOf x).1 (fractionOf x).2 n).1
    (shiftTen (fractionOf x).1 (fractionOf x).2 n).2

theorem isRounded_units (n : ℤ) (x : Dyadic) : IsRounded (|x.toRat| * 10 ^ n) (units n x) := by
  have h := isRounded_roundDiv (shiftTen (fractionOf x).1 (fractionOf x).2 n).1
    (Nat.pos_of_ne_zero (shiftTen_ne_zero (fractionOf x).1 (fractionOf_ne_zero x) n))
  rwa [shiftTen_eq, fractionOf_eq] at h

/-- So many units are half a unit away at most. -/
theorem abs_units_sub_le (n : ℤ) (x : Dyadic) :
    |units n x * 10 ^ (-n) - (|x.toRat|)| ≤ 10 ^ (-n) / 2 := by
  have hround := (isRounded_units n x).error_le
  rw [Int.cast_natCast, abs_sub_comm] at hround
  calc |units n x * 10 ^ (-n) - (|x.toRat|)|
      = |units n x - (|x.toRat|) * 10 ^ n| * 10 ^ (-n) := abs_mul_zpow_sub _ _ _
    _ ≤ 1 / 2 * 10 ^ (-n) := mul_le_mul_of_nonneg_right hround (by positivity)
    _ = 10 ^ (-n) / 2 := by ring

/-- The double nearest to so many units. -/
def rounded (n : ℤ) (x : Dyadic) : ℚ :=
  nearestPoint (shiftTen (units n x) 1 (-n)).1 (shiftTen (units n x) 1 (-n)).2

theorem rounded_nonneg (n : ℤ) (x : Dyadic) : 0 ≤ rounded n x := nearestPoint_nonneg _ _

theorem onGrid_rounded (n : ℤ) (x : Dyadic) : OnGrid (rounded n x) :=
  onGrid_nearestPoint (shiftTen_ne_zero _ one_ne_zero _)

theorem abs_rounded_sub_le (n : ℤ) (x : Dyadic) {y : ℚ} (hy : OnGrid y) :
    |rounded n x - units n x * 10 ^ (-n)| ≤ |y - units n x * 10 ^ (-n)| := by
  have h := abs_nearestPoint_sub_le (shiftTen_ne_zero (units n x) one_ne_zero (-n))
    (shiftTen (units n x) 1 (-n)).1 hy
  rwa [shiftTen_eq, Nat.cast_one, div_one] at h

section Double

variable (hx : IsDouble x)
include hx

/-- A double is at least as near to its units as what they are rounded to. -/
theorem abs_rounded_sub_units_le (n : ℤ) :
    |rounded n x - units n x * 10 ^ (-n)| ≤ |units n x * 10 ^ (-n) - (|x.toRat|)| := by
  rw [abs_sub_comm _ |x.toRat|]
  exact abs_rounded_sub_le n x (onGrid_abs.2 hx.1)

/-- The two roundings go one unit at most. -/
theorem abs_rounded_sub_abs_le (n : ℤ) : |rounded n x - (|x.toRat|)| ≤ 10 ^ (-n) := by
  have htriangle := abs_sub_le (rounded n x) (units n x * 10 ^ (-n)) |x.toRat|
  have h₁ := abs_rounded_sub_units_le hx n
  have h₂ := abs_units_sub_le n x
  linarith

/-- A double large enough to leave the range is a whole number, and stays as it is. -/
theorem rounded_lt (hn : 0 ≤ n) : rounded n x < 2 ^ 1024 := by
  by_cases heq : |x.toRat| = rounded n x
  · exact heq ▸ hx.2
  have hunit : (10 : ℚ) ^ (-n) ≤ 1 := zpow_le_one_of_nonpos₀ (by norm_num) (by omega)
  have herror := abs_rounded_sub_abs_le hx n
  have hgap := (onGrid_abs.2 hx.1).gap (onGrid_rounded n x) heq
  rw [abs_abs, abs_sub_comm] at hgap
  have hsmall : |x.toRat| < 2 ^ 53 + 1 := by
    refine hgap.trans_le (mul_le_of_le_one_right (by norm_num) (herror.trans hunit))
  have hlarge : (2 : ℚ) ^ 53 + 2 ≤ 2 ^ 1024 :=
    le_trans (by norm_num) (pow_le_pow_right₀ one_le_two (by decide : 54 ≤ 1024))
  refine lt_of_lt_of_le ?_ hlarge
  linarith [le_abs_self (rounded n x - (|x.toRat|))]

theorem units_eq_of_rounded {y : Dyadic} (hy : |y.toRat| = rounded n x) :
    units n y = units n x := by
  have hpow : (0 : ℚ) < 10 ^ n := by positivity
  have hscale (q : ℚ) : |q * 10 ^ n - units n x| = |units n x * 10 ^ (-n) - q| * 10 ^ n := by
    rw [abs_mul_zpow_sub, mul_assoc, ← zpow_add₀ (by norm_num), neg_add_cancel, zpow_zero, mul_one,
      abs_sub_comm]
  have hle : |(|y.toRat|) * 10 ^ n - units n x| ≤ |(|x.toRat|) * 10 ^ n - units n x| := by
    rw [hscale, hscale, hy, abs_sub_comm _ (rounded n x)]
    exact mul_le_mul_of_nonneg_right (abs_rounded_sub_units_le hx n) hpow.le
  have hround := isRounded_units n x
  have hround' : IsRounded (|y.toRat| * 10 ^ n) (units n x) := by
    rw [IsRounded, Int.cast_natCast] at hround ⊢
    obtain hlt | ⟨hhalf, heven⟩ := hround
    · exact .inl (hle.trans_lt hlt)
    · rw [hhalf] at hle
      exact hle.lt_or_eq.imp_right fun h => ⟨h, heven⟩
  exact_mod_cast (isRounded_units n y).unique hround'

end Double

/-! ## Rounding doubles -/

variable {d : Double}

theorem roundPlaces_eq (hv : d.value? = some x) (hn : 0 ≤ n) (hn' : n ≤ 323) :
    roundPlaces n d = .ofRatio d.signBit (shiftTen (units n x) 1 (-n)).1
      (shiftTen (units n x) 1 (-n)).2 := by
  have h₁ : ¬ 323 < n := by omega
  have h₂ : ¬ n < -308 := by omega
  simp only [roundPlaces, hv, if_neg h₁, if_neg h₂]
  rfl

/-- A number is its distance from zero with the sign of the double. -/
theorem signed_signBit (hv : d.value? = some x) : signed d.signBit |x.toRat| = x.toRat := by
  cases d with
  | finite y =>
    obtain rfl := Option.some.inj hv
    exact signed_isNegative y
  | negZero =>
    obtain rfl := Option.some.inj hv
    rw [toRat_zero, abs_zero, signed_zero]
  | infinite b => cases hv
  | nan => cases hv

/-- A double is rounded to a double, one unit of the last place away at most. -/
theorem roundPlaces_spec (hv : d.value? = some x) (hx : IsDouble x) (hn : 0 ≤ n) (hn' : n ≤ 323) :
    ∃ y, (roundPlaces n d).value? = some y ∧ IsDouble y ∧ |y.toRat| = rounded n x ∧
      |y.toRat - x.toRat| ≤ 10 ^ (-n) := by
  rw [roundPlaces_eq hv hn hn']
  obtain ⟨y, hy, hyx⟩ := Double.value?_ofRatio d.signBit (rounded_lt hx hn)
  refine ⟨y, hy, Double.isDouble_ofRatio _ (shiftTen_ne_zero _ one_ne_zero _) hy, ?_, ?_⟩
  · rw [hyx, abs_signed]
    exact abs_of_nonneg (rounded_nonneg n x)
  · rw [hyx, ← signed_signBit hv, signed_sub, abs_signed]
    exact abs_rounded_sub_abs_le hx n

/-- Rounding again changes nothing. -/
theorem roundPlaces_roundPlaces (hv : d.value? = some x) (hx : IsDouble x) (hn : 0 ≤ n)
    (hn' : n ≤ 323) : roundPlaces n (roundPlaces n d) = roundPlaces n d := by
  obtain ⟨y, hy, -, habs, -⟩ := roundPlaces_spec hv hx hn hn'
  have hsign : (roundPlaces n d).signBit = d.signBit := by
    rw [roundPlaces_eq hv hn hn', Double.signBit_ofRatio]
  rw [roundPlaces_eq hy hn hn', hsign, units_eq_of_rounded hx habs, ← roundPlaces_eq hv hn hn']

end Reckon.Number
