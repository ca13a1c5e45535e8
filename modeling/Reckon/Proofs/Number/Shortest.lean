import Mathlib.Algebra.Order.Archimedean.Basic
import Mathlib.Tactic.NormNum.Pow
import Reckon.Number.Display
import Reckon.Proofs.Number.Nearest

/-
Decimal numbers and doubles. A decimal number is read as the double nearest to it, also where its
length alone decides (`Decimal.toDouble_eq`). The other way, decimals of one digit, of two and so on
are tried until one reads back. The search ends: with seventeen digits, one of the two neighbours of
a double is so much nearer to it than the other doubles are that it reads back
(`neighbour?_seventeen`), and so the decimal found reads back as well (`toDouble_shortest`).
-/
namespace Reckon.Number

/-! ## Decimal numbers -/

theorem lt_ten_zpow_digitCount (n : ℕ) : (n : ℚ) < 10 ^ (digitCount n : ℤ) := by
  rw [zpow_natCast]
  exact_mod_cast (Nat.length_toDigits_le_iff (by decide) Nat.length_toDigits_pos).1 le_rfl

theorem ten_zpow_digitCount_le {n : ℕ} (h : n ≠ 0) : (10 : ℚ) ^ ((digitCount n : ℤ) - 1) ≤ n := by
  obtain ⟨k, hk⟩ : ∃ k, digitCount n = k + 1 :=
    Nat.exists_eq_succ_of_ne_zero Nat.length_toDigits_pos.ne'
  rw [hk, Nat.cast_add_one, add_sub_cancel_right, zpow_natCast]
  obtain rfl | hpos := Nat.eq_zero_or_pos k
  · exact_mod_cast Nat.one_le_iff_ne_zero.2 h
  · have hlong : ¬ digitCount n ≤ k := by omega
    rw [digitCount, decimalDigits, Nat.length_toDigits_le_iff (by decide) hpos, not_lt] at hlong
    exact_mod_cast hlong

namespace Decimal

/-- What a decimal number stands for, its sign apart. -/
def size (d : Decimal) : ℚ := d.digits * 10 ^ d.exponent

theorem size_nonneg (d : Decimal) : 0 ≤ d.size := by
  unfold size
  positivity

theorem ratio_ne_zero (d : Decimal) : d.ratio.2 ≠ 0 := by
  unfold ratio
  split
  · exact one_ne_zero
  · exact (Nat.pow_pos (by decide)).ne'

theorem ratio_eq_size (d : Decimal) : (d.ratio.1 : ℚ) / d.ratio.2 = d.size := by
  unfold ratio size
  split
  · next h =>
    have hpow : (10 : ℚ) ^ d.exponent = 10 ^ d.exponent.toNat := by
      rw [← zpow_natCast, Int.toNat_of_nonneg h]
    rw [hpow, Nat.pow_eq]
    push_cast
    rw [div_one]
  · next h =>
    have hpow : (10 : ℚ) ^ d.exponent = (10 ^ (-d.exponent).toNat)⁻¹ := by
      rw [← zpow_natCast, ← zpow_neg, Int.toNat_of_nonneg (by omega), neg_neg]
    rw [hpow, Nat.pow_eq]
    push_cast
    rw [div_eq_mul_inv]

theorem size_lt (d : Decimal) : d.size < 10 ^ (d.exponent + digitCount d.digits) := by
  rw [size, add_comm, zpow_add₀ (by norm_num)]
  exact mul_lt_mul_of_pos_right (lt_ten_zpow_digitCount d.digits) (by positivity)

theorem le_size {d : Decimal} (h : d.digits ≠ 0) :
    (10 : ℚ) ^ (d.exponent + digitCount d.digits - 1) ≤ d.size := by
  rw [size, add_comm, add_sub_right_comm, zpow_add₀ (by norm_num)]
  exact mul_le_mul_of_nonneg_right (ten_zpow_digitCount_le h) (by positivity)

/-- The point of the grid of doubles that a decimal number is read as, its sign apart. -/
def nearest (d : Decimal) : ℚ := nearestPoint d.ratio.1 d.ratio.2

theorem onGrid_nearest (d : Decimal) : OnGrid d.nearest := onGrid_nearestPoint d.ratio_ne_zero

theorem nearest_nonneg (d : Decimal) : 0 ≤ d.nearest := nearestPoint_nonneg _ _

theorem abs_nearest_sub_le (d : Decimal) {y : ℚ} (hy : OnGrid y) :
    |d.nearest - d.size| ≤ |y - d.size| := by
  rw [← d.ratio_eq_size]
  exact abs_nearestPoint_sub_le d.ratio_ne_zero _ hy

theorem nearest_eq_size {d : Decimal} (h : OnGrid d.size) : d.nearest = d.size := by
  rw [← d.ratio_eq_size] at h ⊢
  exact nearestPoint_eq_self d.ratio_ne_zero h

theorem nearest_eq_zero {d : Decimal} (h : d.exponent + digitCount d.digits < -400) :
    d.nearest = 0 := by
  have hsize : d.size < 10 ^ (-401 : ℤ) :=
    d.size_lt.trans_le (zpow_le_zpow_right₀ (by norm_num) (by omega))
  have hnear := d.abs_nearest_sub_le onGrid_zero
  rw [zero_sub, abs_neg, abs_of_nonneg d.size_nonneg, abs_le] at hnear
  refine d.onGrid_nearest.eq_zero_of_lt ?_
  have hsmall : 2 * (10 : ℚ) ^ (-401 : ℤ) < 2 ^ (-1074 : ℤ) := by
    have hnat : 2 * 2 ^ 1074 < 10 ^ 401 := by decide +kernel
    have hrat := Nat.cast_lt (α := ℚ).2 hnat
    rw [zpow_neg, zpow_neg, ← div_eq_mul_inv, div_lt_iff₀ (by positivity), inv_mul_eq_div,
      lt_div_iff₀ (by positivity)]
    exact_mod_cast hrat
  rw [abs_of_nonneg d.nearest_nonneg]
  linarith

/-- What is too large for its length is out of the range of doubles. -/
theorem le_nearest {d : Decimal} (hd : d.digits ≠ 0) (h : 400 < d.exponent + digitCount d.digits) :
    2 ^ 1024 ≤ d.nearest := by
  have hsize : (10 : ℚ) ^ (400 : ℤ) ≤ d.size :=
    (zpow_le_zpow_right₀ (by norm_num) (by omega)).trans (le_size hd)
  refine le_nearestPoint d.ratio_ne_zero (y := 2 ^ 1024) ?_ ?_
  · exact_mod_cast onGrid_two_zpow (e := 1024) (by decide)
  · rw [d.ratio_eq_size]
    have hnat : 2 ^ 1024 ≤ 10 ^ 400 := by decide +kernel
    have hrat := Nat.cast_le (α := ℚ).2 hnat
    exact le_trans (by exact_mod_cast hrat) hsize

/-- A decimal number is rounded as the fraction that it is, also where its length decides. -/
theorem toDouble_eq (d : Decimal) :
    d.toDouble = Double.ofRatio d.negative d.ratio.1 d.ratio.2 := by
  have hcases := Double.ofRatio_cases d.negative d.ratio.1 d.ratio.2
  simp only [toDouble]
  split
  · next hd =>
    have hzero : d.ratio.1 = 0 := by
      unfold ratio
      split <;> simp [hd]
    rw [hzero]
    rfl
  next hd =>
  split
  · next htop =>
    have hle : 2 ^ 1024 ≤ nearestPoint d.ratio.1 d.ratio.2 := le_nearest hd htop
    obtain ⟨hzero, _⟩ | ⟨_, heq⟩ | ⟨_, _, hlt, _⟩ := hcases
    · rw [hzero] at hle
      exact absurd hle (by norm_num)
    · exact heq.symm
    · exact absurd hle (not_le.2 hlt)
  split
  · next htop =>
    have hzero : nearestPoint d.ratio.1 d.ratio.2 = 0 := nearest_eq_zero htop
    obtain ⟨_, heq⟩ | ⟨hle, _⟩ | ⟨_, hpos, _⟩ := hcases
    · exact heq.symm
    · rw [hzero] at hle
      exact absurd hle (by norm_num)
    · exact absurd hzero hpos.ne'
  · rfl

/-- A decimal number within the range is read as the double nearest to it, with its sign. -/
theorem value?_toDouble {d : Decimal} (h : d.nearest < 2 ^ 1024) :
    ∃ x, d.toDouble.value? = some x ∧ x.toRat = signed d.negative d.nearest := by
  rw [toDouble_eq]
  exact Double.value?_ofRatio d.negative h

theorem toRat_of_value?_toDouble {d : Decimal} {x : Dyadic} (h : d.toDouble.value? = some x) :
    x.toRat = signed d.negative d.nearest ∧ d.nearest < 2 ^ 1024 := by
  rw [toDouble_eq] at h
  exact Double.toRat_of_value?_ofRatio d.negative h

theorem nearest_congr {d d' : Decimal} (h : d.size = d'.size) : d.nearest = d'.nearest := by
  refine nearestPoint_congr d.ratio_ne_zero d'.ratio_ne_zero ?_
  rw [ratio_eq_size, ratio_eq_size, h]

/-- What a decimal number stands for. -/
def value (d : Decimal) : ℚ := signed d.negative d.size

/-- No double is nearer to a decimal number than the one it is read as. -/
theorem abs_value_sub_le {d : Decimal} {x y : Dyadic} (h : d.toDouble.value? = some x)
    (hy : IsDouble y) : |x.toRat - d.value| ≤ |y.toRat - d.value| := by
  have hback : signed d.negative (signed d.negative y.toRat) = y.toRat := by
    unfold signed
    split <;> simp
  have hgrid : OnGrid (signed d.negative y.toRat) := by
    rw [← onGrid_abs, abs_signed, onGrid_abs]
    exact hy.1
  rw [value, (toRat_of_value?_toDouble h).1, ← hback, signed_sub, signed_sub, abs_signed, abs_signed]
  exact d.abs_nearest_sub_le hgrid

end Decimal

/-! ## The magnitude in powers of ten -/

theorem shiftTen_ne_zero (num : ℕ) {den : ℕ} (hden : den ≠ 0) (s : ℤ) :
    (shiftTen num den s).2 ≠ 0 := by
  unfold shiftTen
  split
  · exact hden
  · exact Nat.mul_ne_zero hden (Nat.pow_pos (by decide)).ne'

theorem shiftTen_eq (num den : ℕ) (s : ℤ) :
    ((shiftTen num den s).1 : ℚ) / (shiftTen num den s).2 = num / den * 10 ^ s := by
  unfold shiftTen
  split
  · next h =>
    have hpow : (10 : ℚ) ^ s = 10 ^ s.toNat := by rw [← zpow_natCast, Int.toNat_of_nonneg h]
    rw [hpow, Nat.pow_eq]
    push_cast
    rw [mul_div_right_comm]
  · next h =>
    have hpow : (10 : ℚ) ^ s = (10 ^ (-s).toNat)⁻¹ := by
      rw [← zpow_natCast, ← zpow_neg, Int.toNat_of_nonneg (by omega), neg_neg]
    rw [hpow, Nat.pow_eq]
    push_cast
    rw [← div_div, div_eq_mul_inv]

/-- A distance in units of the last place. -/
theorem abs_mul_zpow_sub (m q : ℚ) (n : ℤ) :
    |m * 10 ^ (-n) - q| = |m - q * 10 ^ n| * 10 ^ (-n) := by
  have hpow : (0 : ℚ) < 10 ^ (-n) := by positivity
  rw [← abs_of_pos hpow, ← abs_mul, abs_of_pos hpow, sub_mul, mul_assoc q,
    ← zpow_add₀ (by norm_num), add_neg_cancel, zpow_zero, mul_one]

section Magnitude

variable {num den : ℕ} (hden : den ≠ 0)
include hden

theorem shiftTen_le_iff (num : ℕ) (s : ℤ) :
    (shiftTen num den s).2 ≤ (shiftTen num den s).1 ↔ (10 : ℚ) ^ (-s) ≤ num / den := by
  have hpos : (0 : ℚ) < (shiftTen num den s).2 := by
    exact_mod_cast Nat.pos_of_ne_zero (shiftTen_ne_zero num hden s)
  rw [← Nat.cast_le (α := ℚ), ← one_le_div₀ hpos, shiftTen_eq, zpow_neg,
    inv_le_iff_one_le_mul₀ (by positivity)]

/-- A search that starts near the magnitude ends there. -/
theorem decimalMagnitudeFrom_eq {K : ℤ} (hlow : (10 : ℚ) ^ (K - 1) ≤ num / den)
    (hhigh : (num : ℚ) / den < 10 ^ K) {fuel : ℕ} {k : ℤ} (h : (k - K).natAbs < fuel) :
    decimalMagnitudeFrom fuel k num den = K := by
  have hten : (1 : ℚ) < 10 := by norm_num
  induction fuel generalizing k with
  | zero => omega
  | succ fuel ih =>
    have habove := shiftTen_le_iff hden num (-k)
    have hbelow := shiftTen_le_iff hden num (1 - k)
    rw [neg_neg] at habove
    rw [neg_sub] at hbelow
    simp only [decimalMagnitudeFrom]
    split
    · next hk =>
      have := (zpow_lt_zpow_iff_right₀ hten).1 ((habove.1 hk).trans_lt hhigh)
      exact ih (by omega)
    next hk =>
    rw [habove, not_le] at hk
    have := (zpow_lt_zpow_iff_right₀ hten).1 (hlow.trans_lt hk)
    split
    · next hk' =>
      rw [← not_le, hbelow, not_le] at hk'
      have := (zpow_lt_zpow_iff_right₀ hten).1 (hlow.trans_lt hk')
      exact ih (by omega)
    · next hk' =>
      rw [not_lt, hbelow] at hk'
      have := (zpow_lt_zpow_iff_right₀ hten).1 (hk'.trans_lt hhigh)
      omega

end Magnitude

/-- `1233 / 4096` is near to the logarithm of two, so near that a power of two with an exponent of
moderate size lies between two powers of ten not far apart. -/
theorem two_zpow_between {M : ℤ} (h : |M| ≤ 4096) :
    (10 : ℚ) ^ (M * 1233 / 4096 - 1) ≤ 2 ^ M ∧ (2 : ℚ) ^ M ≤ 10 ^ (M * 1233 / 4096 + 2) := by
  have hten : (1 : ℚ) ≤ 10 := by norm_num
  have hlow : ((10 ^ 1233 : ℕ) : ℚ) ≤ (2 ^ 4096 : ℕ) := Nat.cast_le.2 (by decide +kernel)
  have hhigh : ((2 ^ 4096 : ℕ) : ℚ) ≤ (10 ^ 1234 : ℕ) := Nat.cast_le.2 (by decide +kernel)
  have hpow (a b : ℕ) : ((b ^ a : ℕ) : ℚ) ^ M = b ^ (M * a) := by
    rw [Nat.cast_pow, ← zpow_natCast, ← zpow_mul, mul_comm]
  have hanti {a b : ℚ} (ha : 0 < a) (hab : a ≤ b) (hM : M ≤ 0) : b ^ M ≤ a ^ M := by
    have := zpow_le_zpow_left₀ (neg_nonneg.2 hM) ha.le hab
    rwa [zpow_neg, zpow_neg, inv_le_inv₀ (zpow_pos ha M) (zpow_pos (ha.trans_le hab) M)] at this
  rw [abs_le] at h
  have hmiddle : (10 : ℚ) ^ (M * 1233 - 4096) ≤ 2 ^ (M * 4096) ∧
      (2 : ℚ) ^ (M * 4096) ≤ 10 ^ (M * 1233 + 4096) := by
    obtain hM | hM := le_total 0 M
    · have h₁ := zpow_le_zpow_left₀ hM (by positivity) hlow
      have h₂ := zpow_le_zpow_left₀ hM (by positivity) hhigh
      rw [hpow, hpow] at h₁ h₂
      exact ⟨(zpow_le_zpow_right₀ hten (by push_cast; omega)).trans h₁,
        h₂.trans (zpow_le_zpow_right₀ hten (by push_cast; omega))⟩
    · have h₁ := hanti (by positivity) hlow hM
      have h₂ := hanti (by positivity) hhigh hM
      rw [hpow, hpow] at h₁ h₂
      exact ⟨(zpow_le_zpow_right₀ hten (by push_cast; omega)).trans h₂,
        h₁.trans (zpow_le_zpow_right₀ hten (by push_cast; omega))⟩
  have hroot (a b : ℚ) (ha : 0 ≤ a) (hb : 0 ≤ b) (hab : a ^ 4096 ≤ b ^ 4096) : a ≤ b :=
    (pow_le_pow_iff_left₀ ha hb (by decide)).1 hab
  constructor
  · refine hroot _ _ (by positivity) (by positivity) ?_
    rw [← zpow_natCast, ← zpow_natCast, ← zpow_mul, ← zpow_mul]
    exact (zpow_le_zpow_right₀ hten (by push_cast; omega)).trans hmiddle.1
  · refine hroot _ _ (by positivity) (by positivity) ?_
    rw [← zpow_natCast, ← zpow_natCast, ← zpow_mul, ← zpow_mul]
    exact hmiddle.2.trans (zpow_le_zpow_right₀ hten (by push_cast; omega))

theorem decimalMagnitude_spec {num den : ℕ} (hnum : num ≠ 0) (hden : den ≠ 0)
    (h : |ratioMagnitude num den| ≤ 4096) :
    (10 : ℚ) ^ (decimalMagnitude num den - 1) ≤ num / den ∧
      (num : ℚ) / den < 10 ^ decimalMagnitude num den := by
  have hten : (1 : ℚ) < 10 := by norm_num
  have hq : (0 : ℚ) < num / den := by positivity
  obtain ⟨k, hlow, hhigh⟩ := exists_mem_Ico_zpow hq hten
  obtain ⟨hlow₂, hhigh₂⟩ := ratioMagnitude_spec hnum hden
  obtain ⟨hlow₁₀, hhigh₁₀⟩ := two_zpow_between h
  have htwo : (2 : ℚ) ^ ratioMagnitude num den = 2 ^ (ratioMagnitude num den - 1) * 2 := by
    rw [← zpow_add_one₀ two_ne_zero, sub_add_cancel]
  have hten' : (10 : ℚ) ^ (k + 2) = 10 ^ (k + 1) * 10 := by
    rw [← zpow_add_one₀ (by norm_num)]
    congr 1
    ring
  have habove := (zpow_lt_zpow_iff_right₀ hten).1 (hlow.trans_lt (hhigh₂.trans_le hhigh₁₀))
  have hbelow : (10 : ℚ) ^ (ratioMagnitude num den * 1233 / 4096 - 1) < 10 ^ (k + 2) := by
    rw [hten']
    linarith
  have hbelow' := (zpow_lt_zpow_iff_right₀ hten).1 hbelow
  have hK : decimalMagnitude num den = k + 1 :=
    decimalMagnitudeFrom_eq hden (by simpa using hlow) hhigh (by omega)
  rw [hK, add_sub_cancel_right]
  exact ⟨hlow, hhigh⟩

/-! ## The decimal that reads back -/

theorem fractionOf_ne_zero (x : Dyadic) : (fractionOf x).2 ≠ 0 := by
  simp only [fractionOf]
  split
  · exact one_ne_zero
  · rw [Nat.shiftLeft_eq]
    positivity

theorem fractionOf_eq (x : Dyadic) :
    ((fractionOf x).1 : ℚ) / (fractionOf x).2 = |x.toRat| := by
  rw [abs_toRat_eq_parts]
  simp only [fractionOf]
  split
  · next hk =>
    rw [shiftLeft_eq_mul_zpow, Int.toNat_of_nonneg hk, Nat.cast_one, div_one]
  · next hk =>
    rw [shiftLeft_eq_mul_zpow, Int.toNat_of_nonneg (by omega), Nat.cast_one, one_mul, zpow_neg,
      div_inv_eq_mul]

/-- A decimal that is much nearer to a double than other doubles are reads back as it. -/
theorem toDouble_of_near {x : Dyadic} (hx : IsDouble x) (hpos : 0 < x.toRat) {d : Decimal}
    (hd : d.negative = false) (h : 2 * |d.size - x.toRat| ≤ x.toRat / 10 ^ 16) :
    d.toDouble = .finite x := by
  have hnear := d.abs_nearest_sub_le hx.1
  have heq : x.toRat = d.nearest := by
    by_contra hne
    have hgap := hx.1.gap d.onGrid_nearest hne
    have htriangle := abs_sub_le x.toRat d.size d.nearest
    rw [abs_sub_comm d.size d.nearest] at htriangle
    rw [abs_sub_comm d.size] at h
    rw [abs_of_pos hpos] at hgap
    have hpart : (2 ^ 53 + 1) * (x.toRat / 10 ^ 16) < x.toRat := by
      rw [mul_div_assoc', div_lt_iff₀ (by positivity), mul_comm]
      exact mul_lt_mul_of_pos_left (by norm_num) hpos
    linarith
  obtain ⟨y, hy, hyx⟩ := d.value?_toDouble (heq ▸ (le_abs_self _).trans_lt hx.2)
  rw [hd, ← heq] at hyx
  obtain rfl : y = x := Dyadic.toRat_inj.1 hyx
  refine Double.eq_finite_of_value? hy ?_
  rintro rfl
  exact hpos.ne' toRat_zero

theorem neighbour?_spec {x : Dyadic} {num den : ℕ} {k : ℤ} {n : ℕ} {d : Decimal}
    (h : neighbour? x num den k n = some d) : d.toDouble = .finite x := by
  simp only [neighbour?] at h
  split at h
  · next hlow hhigh =>
    split at h <;> cases h
    · exact beq_iff_eq.1 hlow
    · exact beq_iff_eq.1 hhigh
  · next hlow _ =>
    cases h
    exact beq_iff_eq.1 hlow
  · next _ hhigh =>
    cases h
    exact beq_iff_eq.1 hhigh
  · cases h

/-- With so many digits as are needed, one of the two neighbours reads back. -/
theorem neighbour?_isSome {x : Dyadic} {num den : ℕ} {k : ℤ} {n : ℕ}
    (h : ∃ m, (m = (shiftTen num den (n - k)).1 / (shiftTen num den (n - k)).2 ∨
      m = (shiftTen num den (n - k)).1 / (shiftTen num den (n - k)).2 + 1) ∧
      (Decimal.mk false m (k - n)).toDouble = .finite x) :
    (neighbour? x num den k n).isSome = true := by
  simp only [neighbour?]
  split
  · split <;> rfl
  · rfl
  · rfl
  · next hlow hhigh =>
    obtain ⟨_, rfl | rfl, hm⟩ := h
    · exact absurd hm (by simpa using hlow)
    · exact absurd hm (by simpa using hhigh)

/-- One of the two neighbours of a fraction is at most half a step away. -/
theorem exists_neighbour {a b : ℕ} (hb : b ≠ 0) :
    ∃ m : ℕ, (m = a / b ∨ m = a / b + 1) ∧ |(m : ℚ) - a / b| ≤ 1 / 2 := by
  refine ⟨roundDiv a b, ?_, ?_⟩
  · simp only [roundDiv]
    split
    · exact .inl rfl
    split
    · exact .inr rfl
    split
    · exact .inl rfl
    · exact .inr rfl
  · rw [abs_sub_comm]
    simpa using (isRounded_roundDiv a (Nat.pos_of_ne_zero hb)).error_le

section Search

variable {x : Dyadic} (hx : IsDouble x) (hpos : 0 < x.toRat)
include hx hpos

theorem neighbour?_seventeen {k : ℤ} (hk : (10 : ℚ) ^ (k - 1) ≤ x.toRat) :
    (neighbour? x (fractionOf x).1 (fractionOf x).2 k 17).isSome = true := by
  obtain ⟨m, hm, hnear⟩ := exists_neighbour (a := (shiftTen (fractionOf x).1 (fractionOf x).2
    ((17 : ℕ) - k)).1) (shiftTen_ne_zero (fractionOf x).1 (fractionOf_ne_zero x) ((17 : ℕ) - k))
  refine neighbour?_isSome ⟨m, hm, toDouble_of_near hx hpos rfl ?_⟩
  rw [shiftTen_eq, fractionOf_eq, abs_of_pos hpos] at hnear
  have hstep : (10 : ℚ) ^ (-(((17 : ℕ) : ℤ) - k)) = 10 ^ (k - 1) / 10 ^ 16 := by
    rw [← zpow_natCast _ 16, ← zpow_sub₀ (by norm_num)]
    congr 1
    push_cast
    ring
  have hexp : k - ((17 : ℕ) : ℤ) = -(((17 : ℕ) : ℤ) - k) := (neg_sub _ _).symm
  simp only [Decimal.size, hexp]
  calc 2 * |m * 10 ^ (-(((17 : ℕ) : ℤ) - k)) - x.toRat|
      = 2 * |m - x.toRat * 10 ^ (((17 : ℕ) : ℤ) - k)| * 10 ^ (-(((17 : ℕ) : ℤ) - k)) := by
        rw [abs_mul_zpow_sub, mul_assoc]
    _ ≤ 1 * 10 ^ (-(((17 : ℕ) : ℤ) - k)) :=
        mul_le_mul_of_nonneg_right ((le_div_iff₀' two_pos).1 hnear) (by positivity)
    _ = 10 ^ (k - 1) / 10 ^ 16 := by rw [one_mul, hstep]
    _ ≤ x.toRat / 10 ^ 16 := div_le_div_of_nonneg_right hk (by positivity)

theorem ten_zpow_decimalMagnitude_le :
    (10 : ℚ) ^ (decimalMagnitude (fractionOf x).1 (fractionOf x).2 - 1) ≤ x.toRat := by
  have hq := fractionOf_eq x
  rw [abs_of_pos hpos] at hq
  have hden := fractionOf_ne_zero x
  have hnum : (fractionOf x).1 ≠ 0 := by
    intro h
    rw [h, Nat.cast_zero, zero_div] at hq
    exact hpos.ne hq
  obtain ⟨hlow, hhigh⟩ := ratioMagnitude_spec hnum hden
  rw [hq] at hlow hhigh
  have hleast : (2 : ℚ) ^ (-1074 : ℤ) ≤ x.toRat := by
    by_contra h
    exact hpos.ne' (hx.1.eq_zero_of_lt (by rwa [abs_of_pos hpos, ← not_le]))
  have htop : x.toRat < 2 ^ (1024 : ℤ) := by
    exact_mod_cast (le_abs_self _).trans_lt hx.2
  have h₁ := (zpow_lt_zpow_iff_right₀ one_lt_two).1 (hlow.trans_lt htop)
  have h₂ := (zpow_lt_zpow_iff_right₀ one_lt_two).1 (hleast.trans_lt hhigh)
  have := (decimalMagnitude_spec hnum hden (abs_le.2 ⟨by omega, by omega⟩)).1
  rwa [hq] at this

omit hx hpos in
/-- The search ends at the first number of digits with which a decimal reads back. -/
theorem toDouble_shortestFrom {num den : ℕ} {k : ℤ} {fuel n N : ℕ} (hn : n ≤ N)
    (hN : N < n + fuel) (h : (neighbour? x num den k N).isSome = true) :
    (shortestFrom x num den k fuel n).toDouble = .finite x := by
  induction fuel generalizing n with
  | zero => omega
  | succ fuel ih =>
    rw [shortestFrom]
    cases hd : neighbour? x num den k n with
    | some d => exact neighbour?_spec hd
    | none =>
      have hne : n ≠ N := by
        rintro rfl
        rw [hd] at h
        cases h
      exact ih (by omega) (by omega)

/-- The decimal found for a double above zero reads back. -/
theorem toDouble_shortest : (shortest x).toDouble = .finite x :=
  toDouble_shortestFrom (by decide) (by decide)
    (neighbour?_seventeen hx hpos (ten_zpow_decimalMagnitude_le hx hpos))

end Search

end Reckon.Number
