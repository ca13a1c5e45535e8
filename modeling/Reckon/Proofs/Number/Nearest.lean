import Mathlib.Algebra.Order.Field.Basic
import Mathlib.Tactic.FieldSimp
import Mathlib.Tactic.Linarith
import Mathlib.Tactic.Ring
import Reckon.Proofs.Number.Range

/-
The nearest double. Doubles lie on a grid, the numbers of 53 binary digits with no digit below
`2 ^ -1074` (`OnGrid`). A fraction is rounded to a whole multiple of the last place that a double of
its magnitude has, so the result is on the grid and no point of the grid is nearer: one that is a
multiple of the same place loses against the whole number chosen, and one with lower digits is too
small to be nearer than the least double of this magnitude (`abs_nearestPoint_sub_le`). A fraction
on the grid is kept, and the result depends on the fraction only, not on how it is written
(`nearestPoint_congr`).

Two points of the grid are not near each other, compared with their size (`OnGrid.gap`). Whatever is
rounded, in division or elsewhere, comes to a double, a zero or an infinity (`Double.ofRatio_cases`,
`Double.isDouble_ofRatio`).
-/
namespace Reckon.Number

/-! ## Whole numbers -/

/-- `n` is the whole number nearest to `q`, the even one of two. -/
def IsRounded (q : ℚ) (n : ℤ) : Prop := |q - n| < 1 / 2 ∨ |q - n| = 1 / 2 ∧ Even n

namespace IsRounded

variable {q : ℚ} {n : ℤ}

theorem error_le (h : IsRounded q n) : |q - n| ≤ 1 / 2 := h.elim le_of_lt fun h => h.1.le

/-- No whole number is nearer. -/
theorem error_le_abs_sub (h : IsRounded q n) (j : ℤ) : |q - n| ≤ |q - j| := by
  obtain rfl | hne := eq_or_ne n j
  · exact le_rfl
  · have hone : (1 : ℚ) ≤ |(n : ℚ) - j| := by
      rw [← Int.cast_sub, ← Int.cast_abs]
      exact_mod_cast Int.one_le_abs (sub_ne_zero.2 hne)
    have htriangle := abs_sub_le (n : ℚ) q j
    rw [abs_sub_comm (n : ℚ) q] at htriangle
    have := h.error_le
    linarith

theorem unique {m : ℤ} (hn : IsRounded q n) (hm : IsRounded q m) : n = m := by
  have heq : |q - n| = |q - m| :=
    le_antisymm (hn.error_le_abs_sub m) (hm.error_le_abs_sub n)
  by_contra hne
  have hone : (1 : ℚ) ≤ |(n : ℚ) - m| := by
    rw [← Int.cast_sub, ← Int.cast_abs]
    exact_mod_cast Int.one_le_abs (sub_ne_zero.2 hne)
  have htriangle := abs_sub_le (n : ℚ) q m
  rw [abs_sub_comm (n : ℚ) q] at htriangle
  -- both are half a step away, so they are neighbours, and not both even
  obtain hlt | ⟨hhalf, hn⟩ := hn
  · linarith
  obtain hlt | ⟨hhalf', hm⟩ := hm
  · linarith
  have hle : |(n : ℚ) - m| ≤ 1 := by linarith
  have hle' : |n - m| ≤ 1 := by
    rw [← Int.cast_sub, ← Int.cast_abs] at hle
    exact_mod_cast hle
  obtain ⟨a, rfl⟩ := hn
  obtain ⟨b, rfl⟩ := hm
  rw [abs_le] at hle'
  omega

end IsRounded

theorem isRounded_roundDiv (num : ℕ) {den : ℕ} (h : 0 < den) :
    IsRounded (num / den) (roundDiv num den : ℕ) := by
  have hden : (0 : ℚ) < den := Nat.cast_pos.2 h
  have hq : (num : ℚ) / den = (num / den : ℕ) + (num % den : ℕ) / den := by
    rw [eq_comm, ← sub_eq_zero]
    field_simp
    have hdiv : ((num / den : ℕ) : ℚ) * den + (num % den : ℕ) = num := by
      exact_mod_cast Nat.div_add_mod' num den
    linarith
  have hlow : |(num : ℚ) / den - ((num / den : ℕ) : ℤ)| = (num % den : ℕ) / den := by
    rw [hq, Int.cast_natCast, add_sub_cancel_left, abs_of_nonneg (by positivity)]
  have hlt : ((num % den : ℕ) : ℚ) / den < 1 := by
    rw [div_lt_one hden]
    exact_mod_cast Nat.mod_lt _ h
  have hhigh : |(num : ℚ) / den - ((num / den + 1 : ℕ) : ℤ)| = 1 - (num % den : ℕ) / den := by
    rw [hq, Int.cast_natCast, Nat.cast_add_one, abs_sub_comm,
      show ∀ a b : ℚ, a + 1 - (a + b) = 1 - b by intros; ring, abs_of_pos (by linarith)]
  have hbelow : 2 * (num % den) < den ↔ ((num % den : ℕ) : ℚ) / den < 1 / 2 := by
    rw [div_lt_div_iff₀ hden two_pos, one_mul, mul_comm]
    norm_cast
  have habove : den < 2 * (num % den) ↔ (1 : ℚ) / 2 < (num % den : ℕ) / den := by
    rw [div_lt_div_iff₀ two_pos hden, one_mul, mul_comm _ (2 : ℚ)]
    norm_cast
  unfold roundDiv
  simp only [hbelow, habove]
  split
  · next hr => exact .inl (by rwa [hlow])
  next hr =>
  split
  · next hr' => exact .inl (by rw [hhigh]; linarith)
  next hr' =>
  have hhalf : ((num % den : ℕ) : ℚ) / den = 1 / 2 := by linarith
  split
  · next heven => exact .inr ⟨by rw [hlow, hhalf], (Nat.even_iff.2 heven).natCast⟩
  · next hodd =>
    refine .inr ⟨by rw [hhigh, hhalf]; norm_num, ?_⟩
    exact_mod_cast Nat.even_add_one.2 fun heven => hodd (Nat.even_iff.1 heven)

/-! ## The grid of doubles -/

/-- The number has 53 binary digits and none below `2 ^ -1074`. -/
def OnGrid (q : ℚ) : Prop := ∃ m e : ℤ, q = m * 2 ^ e ∧ |m| < 2 ^ 53 ∧ -1074 ≤ e

theorem onGrid_zero : OnGrid 0 := ⟨0, 0, by simp, by simp, by decide⟩

theorem onGrid_two_zpow {e : ℤ} (he : -1074 ≤ e) : OnGrid (2 ^ e) :=
  ⟨1, e, by simp, by simp, he⟩

theorem OnGrid.neg {q : ℚ} (h : OnGrid q) : OnGrid (-q) := by
  obtain ⟨m, e, rfl, hm, he⟩ := h
  exact ⟨-m, e, by simp, by simpa using hm, he⟩

theorem onGrid_neg {q : ℚ} : OnGrid (-q) ↔ OnGrid q :=
  ⟨fun h => by simpa using h.neg, OnGrid.neg⟩

theorem onGrid_abs {q : ℚ} : OnGrid |q| ↔ OnGrid q := by
  obtain h | h := abs_choice q <;> rw [h]
  exact onGrid_neg

/-- The least number of one more digit is a power of two. -/
theorem onGrid_mul_two_zpow {m : ℕ} {e : ℤ} (hm : m ≤ 2 ^ 53) (he : -1074 ≤ e) :
    OnGrid (m * 2 ^ e) := by
  obtain hlt | rfl := hm.lt_or_eq
  · exact ⟨m, e, by simp, by rw [Nat.abs_cast]; exact_mod_cast hlt, he⟩
  · rw [Nat.cast_pow, Nat.cast_ofNat, ← zpow_natCast, ← zpow_add₀ two_ne_zero]
    exact onGrid_two_zpow (by omega)

/-- A number on the grid is a multiple of every place up to its last. -/
theorem exists_multiple {m : ℤ} {e e' : ℤ} (h : e ≤ e') :
    ∃ j : ℤ, (m : ℚ) * 2 ^ e' = j * 2 ^ e := by
  obtain ⟨n, rfl⟩ := Int.le.dest h
  refine ⟨m * 2 ^ n, ?_⟩
  rw [zpow_add₀ two_ne_zero, zpow_natCast]
  push_cast
  ring

/-- Two numbers on the grid differ by a part of their size that is not too small. -/
theorem OnGrid.gap {x y : ℚ} (hx : OnGrid x) (hy : OnGrid y) (hne : x ≠ y) :
    |x| < (2 ^ 53 + 1) * |x - y| := by
  obtain ⟨m, e, hxe, hm, -⟩ := hx
  obtain ⟨m', e', hye, hm', -⟩ := hy
  -- the difference is a multiple of the lower of the two last places
  have hstep (a : ℤ) (ha : a ≤ e) (ha' : a ≤ e') : (2 : ℚ) ^ a ≤ |x - y| := by
    obtain ⟨j, hj⟩ := exists_multiple (m := m) ha
    obtain ⟨j', hj'⟩ := exists_multiple (m := m') ha'
    rw [hxe, hye, hj, hj', ← sub_mul, abs_mul, abs_of_pos (by positivity : (0 : ℚ) < 2 ^ a)]
    refine le_mul_of_one_le_left (by positivity) ?_
    rw [← Int.cast_sub, ← Int.cast_abs]
    have hne' : j - j' ≠ 0 := fun h => hne (by rw [hxe, hye, hj, hj', sub_eq_zero.1 h])
    exact_mod_cast Int.one_le_abs hne'
  have hsize {n a : ℤ} (hn : |n| < 2 ^ 53) : |(n : ℚ) * 2 ^ a| < 2 ^ 53 * 2 ^ a := by
    rw [abs_mul, abs_of_pos (by positivity : (0 : ℚ) < 2 ^ a), ← Int.cast_abs]
    exact mul_lt_mul_of_pos_right (by exact_mod_cast hn) (by positivity)
  obtain hle | hle := le_total e e'
  · have := hstep e le_rfl hle
    have := hsize (a := e) hm
    rw [← hxe] at this
    linarith [abs_nonneg (x - y)]
  · have := hstep e' hle le_rfl
    have := hsize (a := e') hm'
    rw [← hye] at this
    have := abs_sub_abs_le_abs_sub x y
    linarith

/-- A number on the grid below its last place is zero. -/
theorem OnGrid.eq_zero_of_lt {q : ℚ} (h : OnGrid q) (hlt : |q| < 2 ^ (-1074 : ℤ)) : q = 0 := by
  obtain ⟨m, e, rfl, -, he⟩ := h
  obtain ⟨j, hj⟩ := exists_multiple (m := m) he
  rw [hj, abs_mul, abs_of_pos (by positivity : (0 : ℚ) < 2 ^ (-1074 : ℤ)),
    mul_lt_iff_lt_one_left (by positivity), ← Int.cast_abs] at hlt
  have hj0 : j = 0 := Int.abs_lt_one_iff.1 (by exact_mod_cast hlt)
  rw [hj, hj0, Int.cast_zero, zero_mul]

/-! ## The magnitude of a fraction -/

theorem two_pow_bitLength_le {n : ℕ} (h : n ≠ 0) : (2 : ℚ) ^ ((bitLength n : ℤ) - 1) ≤ n := by
  have hlog : ((n.log2 + 1 : ℕ) : ℤ) - 1 = n.log2 := by omega
  rw [bitLength, if_neg h, hlog, zpow_natCast]
  exact_mod_cast Nat.log2_self_le h

theorem natCast_lt_two_zpow_bitLength (n : ℕ) : (n : ℚ) < 2 ^ (bitLength n : ℤ) := by
  rw [zpow_natCast]
  exact_mod_cast lt_two_pow_bitLength n

theorem shiftLeft_eq_mul_zpow (n s : ℕ) : ((n <<< s : ℕ) : ℚ) = n * 2 ^ (s : ℤ) := by
  rw [Nat.shiftLeft_eq, zpow_natCast]
  push_cast
  rfl

section Ratio

variable {num den : ℕ} (hnum : num ≠ 0) (hden : den ≠ 0)
include hden

theorem isBelow_iff (k : ℤ) :
    (if 0 ≤ k then decide (num < den <<< k.toNat) else decide (num <<< (-k).toNat < den)) = true ↔
      (num : ℚ) / den < 2 ^ k := by
  have hpos : (0 : ℚ) < den := by exact_mod_cast Nat.pos_of_ne_zero hden
  rw [div_lt_iff₀ hpos]
  split
  · next hk =>
    rw [decide_eq_true_eq, ← Nat.cast_lt (α := ℚ), shiftLeft_eq_mul_zpow, Int.toNat_of_nonneg hk,
      mul_comm (den : ℚ)]
  · next hk =>
    rw [decide_eq_true_eq, ← Nat.cast_lt (α := ℚ), shiftLeft_eq_mul_zpow,
      Int.toNat_of_nonneg (by omega), zpow_neg, ← div_eq_mul_inv, div_lt_iff₀ (by positivity),
      mul_comm (den : ℚ)]

include hnum

/-- The magnitude bounds the fraction from both sides. -/
theorem ratioMagnitude_spec :
    (2 : ℚ) ^ (ratioMagnitude num den - 1) ≤ num / den ∧
      (num : ℚ) / den < 2 ^ ratioMagnitude num den := by
  have hpos : (0 : ℚ) < den := by exact_mod_cast Nat.pos_of_ne_zero hden
  have hlow : (2 : ℚ) ^ ((bitLength num : ℤ) - bitLength den - 1) ≤ num / den := by
    rw [le_div_iff₀ hpos]
    calc (2 : ℚ) ^ ((bitLength num : ℤ) - bitLength den - 1) * den
        ≤ 2 ^ ((bitLength num : ℤ) - bitLength den - 1) * 2 ^ (bitLength den : ℤ) :=
          mul_le_mul_of_nonneg_left (natCast_lt_two_zpow_bitLength den).le (by positivity)
      _ = 2 ^ ((bitLength num : ℤ) - 1) := by
          rw [← zpow_add₀ two_ne_zero]
          congr 1
          ring
      _ ≤ num := two_pow_bitLength_le hnum
  have hhigh : (num : ℚ) / den < 2 ^ ((bitLength num : ℤ) - bitLength den + 1) := by
    rw [div_lt_iff₀ hpos]
    calc (num : ℚ) < 2 ^ (bitLength num : ℤ) := natCast_lt_two_zpow_bitLength num
      _ = 2 ^ ((bitLength num : ℤ) - bitLength den + 1) * 2 ^ ((bitLength den : ℤ) - 1) := by
          rw [← zpow_add₀ two_ne_zero]
          congr 1
          ring
      _ ≤ _ := mul_le_mul_of_nonneg_left (two_pow_bitLength_le hden) (by positivity)
  unfold ratioMagnitude
  by_cases h : (num : ℚ) / den < 2 ^ ((bitLength num : ℤ) - bitLength den)
  · rw [if_pos ((isBelow_iff hden _).2 h)]
    exact ⟨hlow, h⟩
  · rw [if_neg (mt (isBelow_iff hden _).1 h), add_sub_cancel_right]
    exact ⟨not_lt.1 h, hhigh⟩

/-- Only one power of two bounds a number so closely. -/
theorem ratioMagnitude_congr {num' den' : ℕ} (hnum' : num' ≠ 0) (hden' : den' ≠ 0)
    (h : (num : ℚ) / den = num' / den') : ratioMagnitude num den = ratioMagnitude num' den' := by
  obtain ⟨hlow, hhigh⟩ := ratioMagnitude_spec hnum hden
  obtain ⟨hlow', hhigh'⟩ := ratioMagnitude_spec hnum' hden'
  rw [← h] at hlow' hhigh'
  have h₁ := (zpow_lt_zpow_iff_right₀ one_lt_two).1 (hlow.trans_lt hhigh')
  have h₂ := (zpow_lt_zpow_iff_right₀ one_lt_two).1 (hlow'.trans_lt hhigh)
  omega

end Ratio

/-! ## The nearest point -/

theorem isRounded_nearestMultiple (e : ℤ) (num : ℕ) {den : ℕ} (hden : den ≠ 0) :
    IsRounded (num / den / 2 ^ e) (nearestMultiple e num den : ℕ) := by
  unfold nearestMultiple
  split
  · next he =>
    have hshift : 0 < den <<< e.toNat := by
      rw [Nat.shiftLeft_eq]
      positivity
    have := isRounded_roundDiv num hshift
    rwa [shiftLeft_eq_mul_zpow, Int.toNat_of_nonneg he, ← div_div] at this
  · next he =>
    have := isRounded_roundDiv (num <<< (-e).toNat) (Nat.pos_of_ne_zero hden)
    rwa [shiftLeft_eq_mul_zpow, Int.toNat_of_nonneg (by omega), zpow_neg, mul_div_right_comm,
      ← div_eq_mul_inv] at this

/-- The point of the grid that a fraction is rounded to. -/
def nearestPoint (num den : ℕ) : ℚ :=
  nearestMultiple (lastPlace (ratioMagnitude num den)) num den *
    2 ^ lastPlace (ratioMagnitude num den)

theorem nearestPoint_nonneg (num den : ℕ) : 0 ≤ nearestPoint num den := by
  unfold nearestPoint
  positivity

theorem nearestPoint_zero (den : ℕ) : nearestPoint 0 den = 0 := by
  simp [nearestPoint, nearestMultiple, roundDiv]

section Point

variable {num den : ℕ} (hden : den ≠ 0)
include hden

theorem onGrid_nearestPoint : OnGrid (nearestPoint num den) := by
  obtain rfl | hnum := eq_or_ne num 0
  · rw [nearestPoint_zero]
    exact onGrid_zero
  refine onGrid_mul_two_zpow ?_ (le_max_right _ _)
  set e := lastPlace (ratioMagnitude num den)
  have hround := (isRounded_nearestMultiple e num hden).error_le
  have hlt : (num : ℚ) / den / 2 ^ e < 2 ^ 53 := by
    rw [div_lt_iff₀ (by positivity), ← zpow_natCast, ← zpow_add₀ two_ne_zero]
    refine (ratioMagnitude_spec hnum hden).2.trans_le (zpow_le_zpow_right₀ one_le_two ?_)
    have : ratioMagnitude num den - 53 ≤ e := le_max_left _ _
    norm_cast
    omega
  rw [abs_le] at hround
  have hle : ((nearestMultiple e num den : ℕ) : ℚ) < 2 ^ 53 + 1 := by
    have := hround.1
    rw [Int.cast_natCast] at this
    linarith
  exact Nat.lt_succ_iff.1 (by exact_mod_cast hle)

theorem abs_nearestPoint_sub_le (num : ℕ) {y : ℚ} (hy : OnGrid y) :
    |nearestPoint num den - num / den| ≤ |y - num / den| := by
  obtain rfl | hnum := eq_or_ne num 0
  · simp [nearestPoint_zero]
  obtain ⟨hlow, -⟩ := ratioMagnitude_spec hnum hden
  unfold nearestPoint
  set k := ratioMagnitude num den with hk
  set e := lastPlace k with he
  have hscale (c : ℚ) : |c * 2 ^ e - num / den| = |num / den / 2 ^ e - c| * 2 ^ e := by
    rw [abs_sub_comm, ← abs_of_pos (by positivity : (0 : ℚ) < 2 ^ e), ← abs_mul,
      abs_of_pos (by positivity : (0 : ℚ) < 2 ^ e)]
    congr 1
    field_simp
  have hmultiple (j : ℤ) : |(nearestMultiple e num den : ℕ) * 2 ^ e - (num : ℚ) / den| ≤
      |j * 2 ^ e - (num : ℚ) / den| := by
    rw [hscale, hscale]
    refine mul_le_mul_of_nonneg_right ?_ (by positivity)
    simpa using (isRounded_nearestMultiple e num hden).error_le_abs_sub j
  obtain ⟨m, e', rfl, hm, hlast⟩ := hy
  obtain hle | hlt := le_or_gt e e'
  · obtain ⟨j, hj⟩ := exists_multiple (m := m) hle
    rw [hj]
    exact hmultiple j
  · -- with a lower last place, the point is below the least double of the magnitude
    have hek : e = k - 53 := by
      rw [he, lastPlace, max_eq_left_iff]
      rw [he, lastPlace, lt_max_iff] at hlt
      omega
    have hsmall : (m : ℚ) * 2 ^ e' ≤ 2 ^ (k - 1) := by
      have hm' : (m : ℚ) ≤ 2 ^ (53 : ℤ) := by
        exact_mod_cast ((le_abs_self m).trans_lt hm).le
      calc (m : ℚ) * 2 ^ e' ≤ 2 ^ (53 : ℤ) * 2 ^ e' :=
            mul_le_mul_of_nonneg_right hm' (by positivity)
        _ = 2 ^ (53 + e') := (zpow_add₀ two_ne_zero _ _).symm
        _ ≤ 2 ^ (k - 1) := zpow_le_zpow_right₀ one_le_two (by omega)
    have hleast : ((2 ^ 52 : ℤ) : ℚ) * 2 ^ e = 2 ^ (k - 1) := by
      rw [hek, Int.cast_pow, Int.cast_ofNat, ← zpow_natCast, ← zpow_add₀ two_ne_zero]
      congr 1
      push_cast
      ring
    refine (hmultiple (2 ^ 52)).trans ?_
    rw [hleast, abs_of_nonpos (by linarith), abs_of_nonpos (by linarith)]
    linarith

theorem nearestPoint_congr {num' den' : ℕ} (hden' : den' ≠ 0) (h : (num : ℚ) / den = num' / den') :
    nearestPoint num den = nearestPoint num' den' := by
  obtain rfl | hnum := eq_or_ne num 0
  · rw [Nat.cast_zero, zero_div, eq_comm, div_eq_zero_iff, Nat.cast_eq_zero, Nat.cast_eq_zero] at h
    rw [h.resolve_right hden', nearestPoint_zero, nearestPoint_zero]
  have hnum' : num' ≠ 0 := by
    rintro rfl
    rw [Nat.cast_zero, zero_div, div_eq_zero_iff, Nat.cast_eq_zero, Nat.cast_eq_zero] at h
    exact h.elim hnum hden
  have hmultiple (e : ℤ) : nearestMultiple e num den = nearestMultiple e num' den' := by
    have hround := isRounded_nearestMultiple e num hden
    rw [h] at hround
    exact_mod_cast hround.unique (isRounded_nearestMultiple e num' hden')
  rw [nearestPoint, ratioMagnitude_congr hnum hden hnum' hden' h, hmultiple, nearestPoint]

theorem nearestPoint_eq_self (h : OnGrid (num / den)) : nearestPoint num den = num / den := by
  have := abs_nearestPoint_sub_le hden num h
  rwa [sub_self, abs_zero, abs_nonpos_iff, sub_eq_zero] at this

theorem nearestPoint_le {y : ℚ} (hy : OnGrid y) (h : (num : ℚ) / den ≤ y) :
    nearestPoint num den ≤ y := by
  have := abs_nearestPoint_sub_le hden num hy
  rw [abs_of_nonneg (sub_nonneg.2 h)] at this
  linarith [le_abs_self (nearestPoint num den - num / den)]

theorem le_nearestPoint {y : ℚ} (hy : OnGrid y) (h : y ≤ (num : ℚ) / den) :
    y ≤ nearestPoint num den := by
  have := abs_nearestPoint_sub_le hden num hy
  rw [abs_of_nonpos (sub_nonpos.2 h)] at this
  linarith [neg_abs_le (nearestPoint num den - num / den)]

end Point

/-! ## Binary fractions -/

theorem toRat_zero : Dyadic.zero.toRat = 0 := Dyadic.toRat_zero

theorem toRat_scaled (m e : ℤ) : (scaled m e).toRat = m * 2 ^ e := by
  rw [scaled, Dyadic.toRat_ofIntWithPrec_eq_mul_two_pow, neg_neg]

theorem toRat_eq_parts (x : Dyadic) : x.toRat = (parts x).1 * 2 ^ (parts x).2 := by
  cases x with
  | zero => simp [parts]
  | ofOdd n k h => exact Dyadic.toRat_ofOdd_eq_mul_two_pow

theorem abs_toRat_eq_parts (x : Dyadic) : |x.toRat| = (parts x).1.natAbs * 2 ^ (parts x).2 := by
  rw [toRat_eq_parts, abs_mul, abs_of_pos (by positivity : (0 : ℚ) < 2 ^ (parts x).2),
    ← Int.cast_abs, Int.abs_eq_natAbs, Int.cast_natCast]

theorem two_zpow_magnitude_le {x : Dyadic} (h : x ≠ .zero) :
    (2 : ℚ) ^ (magnitude x - 1) ≤ |x.toRat| := by
  cases x with
  | zero => exact absurd rfl h
  | ofOdd n k hn =>
    have hne : n.natAbs ≠ 0 := by omega
    rw [Dyadic.toRat_ofOdd_eq_mul_two_pow, abs_mul, abs_of_pos (by positivity : (0 : ℚ) < 2 ^ (-k)),
      magnitude, sub_right_comm, sub_eq_add_neg _ k, zpow_add₀ two_ne_zero]
    refine mul_le_mul_of_nonneg_right ?_ (by positivity)
    rw [← Int.cast_abs, Int.abs_eq_natAbs, Int.cast_natCast]
    exact two_pow_bitLength_le hne

theorem lt_magnitude_iff {x : Dyadic} {k : ℤ} (hk : 0 ≤ k) :
    k < magnitude x ↔ (2 : ℚ) ^ k ≤ |x.toRat| := by
  constructor
  · intro h
    have hne : x ≠ .zero := by
      rintro rfl
      exact absurd h (not_lt.2 hk)
    exact (zpow_le_zpow_right₀ one_le_two (by omega)).trans (two_zpow_magnitude_le hne)
  · exact fun h => (zpow_lt_zpow_iff_right₀ one_lt_two).1 (h.trans_lt (abs_toRat_lt x))

theorem isNegative_iff {x : Dyadic} : isNegative x = true ↔ x.toRat < 0 := by
  cases x with
  | zero => simp [isNegative, signum]
  | ofOdd n k h =>
    have hpos : (0 : ℚ) < 2 ^ (-k) := by positivity
    rw [Dyadic.toRat_ofOdd_eq_mul_two_pow, mul_neg_iff]
    simp only [isNegative, signum, Int.cast_lt_zero, hpos, hpos.not_gt, and_true,
      and_false, false_or]
    split <;> simp [*]

/-- The number is a double. -/
def IsDouble (x : Dyadic) : Prop := OnGrid x.toRat ∧ |x.toRat| < 2 ^ 1024

theorem isDouble_zero : IsDouble .zero := by
  rw [IsDouble, toRat_zero]
  exact ⟨onGrid_zero, by simp⟩

/-! ## Rounding a fraction to a double -/

def signed (negative : Bool) (q : ℚ) : ℚ := if negative then -q else q

@[simp] theorem signed_zero (negative : Bool) : signed negative 0 = 0 := by
  cases negative <;> simp [signed]

@[simp] theorem abs_signed (negative : Bool) (q : ℚ) : |signed negative q| = |q| := by
  cases negative <;> simp [signed]

theorem signed_sub (negative : Bool) (p q : ℚ) :
    signed negative p - signed negative q = signed negative (p - q) := by
  cases negative
  · rfl
  · simp only [signed, if_true]
    ring

theorem signed_isNegative (x : Dyadic) : signed (isNegative x) |x.toRat| = x.toRat := by
  unfold signed
  split
  · next h => rw [abs_of_neg (isNegative_iff.1 h), neg_neg]
  · next h => exact abs_of_nonneg (not_lt.1 fun hlt => h (isNegative_iff.2 hlt))

namespace Double

@[simp] theorem value?_zero (negative : Bool) : (zero negative).value? = some .zero := by
  cases negative <;> rfl

@[simp] theorem signBit_zero (negative : Bool) : (zero negative).signBit = negative := by
  cases negative <;> rfl

theorem eq_finite_of_value? {d : Double} {x : Dyadic} (h : d.value? = some x) (hx : x ≠ .zero) :
    d = .finite x := by
  cases d with
  | finite y => rw [Option.some.inj h]
  | negZero => exact absurd (Option.some.inj h).symm hx
  | infinite n => cases h
  | nan => cases h

section OfRatio

variable (negative : Bool) {num den : ℕ}

/-- Rounding a fraction has three outcomes, by the point of the grid that it is rounded to. -/
theorem ofRatio_cases (num den : ℕ) :
    (nearestPoint num den = 0 ∧ ofRatio negative num den = zero negative) ∨
    (2 ^ 1024 ≤ nearestPoint num den ∧ ofRatio negative num den = .infinite negative) ∨
    ∃ x : Dyadic, 0 < nearestPoint num den ∧ nearestPoint num den < 2 ^ 1024 ∧
      ofRatio negative num den = .finite x ∧ x.toRat = signed negative (nearestPoint num den) := by
  simp only [ofRatio]
  split
  · next hnum =>
    rw [hnum]
    exact .inl ⟨nearestPoint_zero den, rfl⟩
  have hpoint : nearestPoint num den = nearestMultiple (lastPlace (ratioMagnitude num den)) num den *
    2 ^ lastPlace (ratioMagnitude num den) := rfl
  set e := lastPlace (ratioMagnitude num den)
  set m := nearestMultiple e num den
  split
  · next hm => exact .inl ⟨by rw [hpoint, hm, Nat.cast_zero, zero_mul], rfl⟩
  next hm =>
  have hpos : 0 < nearestPoint num den := by
    rw [hpoint]
    positivity
  have hx : (scaled (if negative = true then -(m : ℤ) else m) e).toRat =
      signed negative (nearestPoint num den) := by
    rw [toRat_scaled, hpoint]
    cases negative <;> simp [signed]
  generalize scaled (if negative = true then -(m : ℤ) else m) e = x at hx ⊢
  have hlarge := lt_magnitude_iff (x := x) (k := 1024) (by decide)
  rw [hx, abs_signed, abs_of_pos hpos] at hlarge
  split
  · next h => exact .inr (.inl ⟨by exact_mod_cast hlarge.1 h, rfl⟩)
  · next h =>
    rw [hlarge, not_le] at h
    exact .inr (.inr ⟨_, hpos, by exact_mod_cast h, rfl, hx⟩)

/-- A fraction that is not rounded out of the range has a number, the nearest on the grid. -/
theorem value?_ofRatio (h : nearestPoint num den < 2 ^ 1024) :
    ∃ x, (ofRatio negative num den).value? = some x ∧
      x.toRat = signed negative (nearestPoint num den) := by
  obtain ⟨hzero, heq⟩ | ⟨hlarge, _⟩ | ⟨x, _, _, heq, hx⟩ := ofRatio_cases negative num den
  · refine ⟨.zero, by rw [heq, value?_zero], ?_⟩
    rw [hzero, signed_zero, toRat_zero]
  · exact absurd h (not_lt.2 hlarge)
  · exact ⟨x, by rw [heq]; rfl, hx⟩

theorem toRat_of_value?_ofRatio {x : Dyadic} (h : (ofRatio negative num den).value? = some x) :
    x.toRat = signed negative (nearestPoint num den) ∧ nearestPoint num den < 2 ^ 1024 := by
  obtain ⟨hzero, heq⟩ | ⟨_, heq⟩ | ⟨y, _, hlt, heq, hy⟩ := ofRatio_cases negative num den
  · rw [heq, value?_zero, Option.some.injEq] at h
    rw [← h, hzero, signed_zero]
    exact ⟨toRat_zero, by positivity⟩
  · rw [heq] at h
    cases h
  · rw [heq] at h
    cases h
    exact ⟨hy, hlt⟩

theorem signBit_ofRatio : (ofRatio negative num den).signBit = negative := by
  obtain ⟨_, heq⟩ | ⟨_, heq⟩ | ⟨x, hpos, _, heq, hx⟩ := ofRatio_cases negative num den
  · rw [heq, signBit_zero]
  · rw [heq]
    rfl
  · rw [heq, signBit, Bool.eq_iff_iff, isNegative_iff, hx]
    cases negative
    · simpa [signed] using hpos.le
    · simpa [signed] using hpos

variable (hden : den ≠ 0)
include hden

theorem isDouble_ofRatio {x : Dyadic} (h : (ofRatio negative num den).value? = some x) :
    IsDouble x := by
  obtain ⟨hx, hlt⟩ := toRat_of_value?_ofRatio negative h
  have habs : |x.toRat| = nearestPoint num den := by
    rw [hx, abs_signed, abs_of_nonneg (nearestPoint_nonneg num den)]
  exact ⟨onGrid_abs.1 (habs ▸ onGrid_nearestPoint hden), habs ▸ hlt⟩

end OfRatio

/-! ## What arithmetic comes to -/

theorem isDouble_of_value?_zero {negative : Bool} {x : Dyadic}
    (h : (zero negative).value? = some x) : IsDouble x := by
  rw [value?_zero] at h
  cases h
  exact isDouble_zero

theorem isDouble_ofDyadic {x y : Dyadic} (h : (ofDyadic x).value? = some y) : IsDouble y := by
  simp only [ofDyadic] at h
  split at h
  · cases h
  split at h
  · exact isDouble_of_value?_zero h
  split at h
  · exact isDouble_ofRatio _ one_ne_zero h
  · refine isDouble_ofRatio _ ?_ h
    rw [Nat.shiftLeft_eq]
    positivity

theorem ofQuotient_eq (negative : Bool) (x : Dyadic) {y : Dyadic} (hy : y.toRat ≠ 0) :
    ∃ num den : ℕ, ofQuotient negative x y = ofRatio negative num den ∧ den ≠ 0 ∧
      (num : ℚ) / den = |x.toRat| / |y.toRat| := by
  have hm : (parts y).1.natAbs ≠ 0 := by
    intro h
    rw [← abs_ne_zero, abs_toRat_eq_parts, h, Nat.cast_zero, zero_mul] at hy
    exact hy rfl
  have hscale (a b : ℚ) (e f : ℤ) : a * 2 ^ e / (b * 2 ^ f) = a / b * 2 ^ (e - f) := by
    rw [zpow_sub₀ two_ne_zero, mul_div_mul_comm]
  simp only [ofQuotient, abs_toRat_eq_parts, hscale]
  split
  · next h =>
    refine ⟨_, _, rfl, hm, ?_⟩
    rw [shiftLeft_eq_mul_zpow, Int.toNat_of_nonneg h, mul_div_right_comm]
  · next h =>
    refine ⟨_, _, rfl, ?_, ?_⟩
    · rw [Nat.shiftLeft_eq]
      positivity
    · rw [shiftLeft_eq_mul_zpow, Int.toNat_of_nonneg (by omega), zpow_neg, ← div_div, div_inv_eq_mul]

theorem exists_value?_ofQuotient (negative : Bool) {x y : Dyadic} (hx : IsDouble x)
    (hy : 1 ≤ |y.toRat|) : ∃ z, (ofQuotient negative x y).value? = some z ∧ IsDouble z := by
  have hne : y.toRat ≠ 0 := abs_pos.1 (one_pos.trans_le hy)
  obtain ⟨num, den, heq, hden, hq⟩ := ofQuotient_eq negative x hne
  have hle : (num : ℚ) / den ≤ |x.toRat| := by
    rw [hq]
    exact div_le_self (abs_nonneg _) hy
  have hlt := (nearestPoint_le hden (onGrid_abs.2 hx.1) hle).trans_lt hx.2
  obtain ⟨z, hz, -⟩ := value?_ofRatio negative hlt
  rw [heq]
  exact ⟨z, hz, isDouble_ofRatio negative hden hz⟩

end Double

end Reckon.Number
