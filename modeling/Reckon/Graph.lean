import Reckon.Evaluator

/-
Sampling a formula with the variable `x` over a range. The formula is parsed once
and evaluated at evenly spaced points; a point without a value leaves a gap.
-/
namespace Reckon
open Number Formula

namespace Number

instance : NatCast Double := ⟨fun n => .ofInt n⟩

end Number

namespace Graph

def variableName : String := "x"

/-- Graphs may use all functions. -/
def mode : Mode := .scientific

/-- The range and the number of points where none are given. -/
def defaultRange : Double × Double := (.ofInt (-10), .ofInt 10)
def defaultSamples : Int := 400

/-- Width and height of the picture of a graph. -/
def pictureSize : Nat × Nat := (540, 360)

/-- Points from `lo` to `hi` at equal distances, `n` of them. -/
def points {τ : Type} [Add τ] [Sub τ] [Mul τ] [Div τ] [NatCast τ] (lo hi : τ) (n : Nat) : List τ :=
  let step := (hi - lo) / ((n - 1 : Nat) : τ)
  (List.range n).map fun i : Nat => lo + Nat.cast i * step

/-- The value at a point, a gap where it is a fault of the calculation. -/
def valueAt (room : Nat) (v : Value) (x : Double) : Except Failure (Option Double) :=
  match Evaluator.valueOf room (.parsed v) [(variableName, .number x)] with
  | .ok y => .ok (some y)
  | .error (.fault _) => .ok none
  | .error e => .error e

/-- Points and values of a graph. -/
structure Sampled where
  xs : List Double
  ys : List (Option Double)

def parse (room : Nat) (formula : List Char) : Except Failure Value :=
  match ready formula mode with
  | .error f => .error (.fault f)
  | .ok r => Evaluator.parse room mode [variableName] r

/-- The formula sampled from `lo` to `hi` at `n` points. The range and the number of
points are looked at before the formula. -/
def sample (room : Nat) (formula : List Char) (lo hi : Double) (n : Int) :
    Except Failure Sampled := do
  if hi ≤ lo then throw (.refused "x_max must be greater than x_min".toList)
  if n < 2 then throw (.refused "At least two samples are needed".toList)
  let v ← parse (room - 1) formula
  let xs := points lo hi n.toNat
  let ys ← xs.mapM (valueAt (room - 1) v)
  if ys.all Option.isNone then throw (.fault (.undefinedEverywhere formula))
  pure ⟨xs, ys⟩

/-- The range that is asked for, or the usual one if an end is missing. -/
def rangeOf (lo hi : Option Double) : Double × Double :=
  match lo, hi with
  | some a, some b => (a, b)
  | _, _ => defaultRange

end Graph

end Reckon
