import Reckon.Number.Decimal
import Mathlib.Algebra.Order.Field.Power
import Mathlib.Data.Rat.Lemmas
import Mathlib.Tactic.NormNum

/-
The range of doubles. `magnitude` bounds a binary fraction by a power of two, and every
number that is rounded to a double has at most the magnitude 1024, so it lies strictly
between `-2 ^ 1024` and `2 ^ 1024`. A double is `Bounded` when its number, if it is one,
has such a magnitude; whatever is rounded to a double is.
-/
namespace Reckon.Number

/-! ## Magnitude -/

theorem lt_two_pow_bitLength (n : Nat) : n < 2 ^ bitLength n := by
  unfold bitLength
  split
  · omega
  · exact Nat.lt_log2_self

theorem abs_toRat_lt (x : Dyadic) : |x.toRat| < 2 ^ magnitude x := by
  cases x with
  | zero => simp [magnitude]
  | ofOdd n k h =>
    rw [Dyadic.toRat_ofOdd_eq_mul_two_pow, abs_mul, abs_of_pos (by positivity : (0 : ℚ) < 2 ^ (-k)),
      magnitude, sub_eq_add_neg, zpow_add₀ (by norm_num)]
    refine mul_lt_mul_of_pos_right ?_ (by positivity)
    rw [← Int.cast_abs, Int.abs_eq_natAbs, zpow_natCast]
    exact_mod_cast lt_two_pow_bitLength n.natAbs

@[simp] theorem magnitude_neg (x : Dyadic) : magnitude (-x) = magnitude x := by
  cases x with
  | zero => rfl
  | ofOdd n k h => simp [Dyadic.neg_ofOdd, magnitude]

@[simp] theorem magnitude_absolute (x : Dyadic) : magnitude (absolute x) = magnitude x := by
  cases x with
  | zero => rfl
  | ofOdd n k h =>
    simp only [absolute]
    split
    · simp [magnitude]
    · rfl

/-! ## Doubles -/

namespace Double

/-- The number that the double is has a magnitude that doubles have. -/
def Bounded (d : Double) : Prop := ∀ x, d.value? = some x → magnitude x ≤ 1024

theorem bounded_zero (negative : Bool) : (zero negative).Bounded := by
  intro x hx
  cases negative <;> cases hx <;> decide

theorem bounded_infinite (negative : Bool) : (infinite negative).Bounded := by
  intro x hx
  cases hx

/-- A number that is let pass only if its magnitude allows. -/
theorem bounded_cut (negative : Bool) (x : Dyadic) :
    (if 1024 < magnitude x then infinite negative else finite x).Bounded := by
  split
  · exact bounded_infinite negative
  · next h =>
    intro y hy
    cases hy
    omega

theorem bounded_ofRatio (negative : Bool) (num den : Nat) : (ofRatio negative num den).Bounded := by
  simp only [ofRatio]
  split
  · exact bounded_zero negative
  by_cases hm : nearestMultiple (lastPlace (ratioMagnitude num den)) num den = 0
  · rw [if_pos hm]
    exact bounded_zero negative
  · rw [if_neg hm]
    exact bounded_cut negative _

theorem bounded_ofDyadic (x : Dyadic) : (ofDyadic x).Bounded := by
  simp only [ofDyadic]
  split
  · exact bounded_infinite _
  split
  · exact bounded_zero _
  split
  · exact bounded_ofRatio _ _ _
  · exact bounded_ofRatio _ _ _

theorem bounded_ofInt (i : Int) : (ofInt i).Bounded := bounded_ofRatio _ _ _

theorem bounded_ofQuotient (negative : Bool) (x y : Dyadic) :
    (ofQuotient negative x y).Bounded := by
  simp only [ofQuotient]
  split
  · exact bounded_ofRatio _ _ _
  · exact bounded_ofRatio _ _ _

end Double

theorem Decimal.bounded_toDouble (d : Decimal) : d.toDouble.Bounded := by
  simp only [toDouble]
  split
  · exact Double.bounded_zero _
  split
  · exact Double.bounded_infinite _
  split
  · exact Double.bounded_zero _
  · exact Double.bounded_ofRatio _ _ _

theorem bounded_readDouble {s : List Char} {d : Double} (h : readDouble s = some d) :
    d.Bounded := by
  simp only [readDouble] at h
  split at h
  · cases h
    exact Decimal.bounded_toDouble _
  · simp only [readNamed] at h
    split at h
    · cases h
      exact Double.bounded_infinite _
    split at h
    · cases h
      intro x hx
      cases hx
    · cases h

end Reckon.Number
