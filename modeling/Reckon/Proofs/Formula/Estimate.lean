import Reckon.Formula.Magnitude
import Reckon.Proofs.Number.Range

/-
What is known of a value lies in the range of doubles: every estimate is `Bounded`. All of
them are rounded to a double at their end, apart from a few that only take a value over,
with another sign or with none.
-/
namespace Reckon.Formula
open Number

namespace Estimate

/-- A value that is known has a magnitude that doubles have. -/
def Bounded (e : Estimate) : Prop := ∀ x, e = .known x → magnitude x ≤ 1024

theorem bounded_known {x : Dyadic} (h : magnitude x ≤ 1024) : (known x).Bounded := by
  intro y hy
  cases hy
  exact h

@[simp] theorem bounded_unknown : unknown.Bounded := fun _ h => nomatch h

@[simp] theorem bounded_tooLarge : tooLarge.Bounded := fun _ h => nomatch h

theorem bounded_ofDouble {d : Double} (h : d.Bounded) : (ofDouble d).Bounded := by
  simp only [ofDouble]
  split
  · next y hy => exact bounded_known (h y hy)
  · exact bounded_tooLarge

@[simp] theorem bounded_ofDyadic (x : Dyadic) : (ofDyadic x).Bounded :=
  bounded_ofDouble (Double.bounded_ofDyadic x)

@[simp] theorem bounded_andThen {a : Estimate} {f : Dyadic → Estimate} (h : ∀ x, (f x).Bounded) :
    (a.andThen f).Bounded := by
  cases a with
  | known x => exact h x
  | unknown => exact bounded_unknown
  | tooLarge => exact bounded_tooLarge

@[simp] theorem bounded_onlyIf (c : Bool) (x : Dyadic) : (onlyIf c x).Bounded := by
  simp only [onlyIf]
  split
  · exact bounded_ofDyadic x
  · exact bounded_unknown

@[simp] theorem bounded_zero : (known 0).Bounded := bounded_known (by decide)

@[simp] theorem bounded_one : (known one).Bounded := bounded_known (by decide)

@[simp] theorem bounded_quotient (x y : Dyadic) : (quotient x y).Bounded := by
  simp only [quotient]
  split
  · exact bounded_unknown
  · exact bounded_ofDouble (Double.bounded_ofQuotient _ _ _)

@[simp] theorem bounded_power (strict : Bool) (x y : Dyadic) : (power strict x y).Bounded := by
  unfold power
  split
  · exact bounded_one
  split
  · split <;> simp
  split
  · split
    · exact bounded_unknown
    · split <;> simp
  · exact bounded_ofDyadic _

theorem bounded_binary (op : BinaryOp) (x y : Dyadic) : (binary op x y).Bounded := by
  cases op with
  | mod =>
    simp only [binary, remainder]
    split <;> simp
  | _ => simp [binary]

theorem bounded_unary (op : UnaryOp) {x : Dyadic} (h : magnitude x ≤ 1024) :
    (unary op x).Bounded := by
  cases op with
  | neg => exact bounded_known (by rwa [magnitude_neg])
  | pos => exact bounded_known h
  | foreign n => exact bounded_unknown

@[simp] theorem bounded_gamma (x : Dyadic) : (gamma x).Bounded := by
  unfold gamma
  split
  · exact bounded_unknown
  split
  · exact bounded_tooLarge
  split <;> simp

@[simp] theorem bounded_exponential (x : Dyadic) : (exponential x).Bounded := bounded_ofDyadic _

@[simp] theorem bounded_combinations (n k : Dyadic) : (combinations n k).Bounded := by
  unfold combinations
  repeat refine bounded_andThen fun _ => ?_
  exact bounded_exponential _

@[simp] theorem bounded_permutations (n k : Dyadic) : (permutations n k).Bounded := by
  unfold permutations
  repeat refine bounded_andThen fun _ => ?_
  exact bounded_exponential _

@[simp] theorem bounded_cubeRoot (x : Dyadic) : (cubeRoot x).Bounded := by
  unfold cubeRoot
  split <;> simp

@[simp] theorem bounded_logarithm (xs : List Dyadic) : (logarithm xs).Bounded := by
  unfold logarithm
  split
  · exact bounded_onlyIf _ _
  · split <;> simp
  · exact bounded_unknown

theorem bounded_call (f : Function) {xs : List Dyadic} (h : ∀ x ∈ xs, magnitude x ≤ 1024) :
    (call f xs).Bounded := by
  unfold call
  split
  -- the absolute value is the one that is not rounded
  · next x => exact bounded_known (by simpa using h x (by simp))
  all_goals simp

theorem magnitude_constant (c : Constant) : magnitude (constant c) ≤ 1024 := by
  cases c <;> decide +kernel

theorem bounded_literal {v : Literal} (h : ∀ d, v = .fraction d → d.Bounded) :
    (literal v).Bounded := by
  cases v with
  | whole n => exact bounded_ofDouble (Double.bounded_ofInt n)
  | fraction d =>
    simp only [literal]
    split
    · exact bounded_unknown
    · exact bounded_ofDouble (h d rfl)
  | text s =>
    simp only [literal]
    split
    · exact bounded_unknown
    · exact bounded_unknown
    · next d hd => exact bounded_ofDouble (bounded_readDouble hd)
  | word s =>
    simp only [literal]
    split
    · exact bounded_one
    · split <;> simp

end Estimate

end Reckon.Formula
