import Reckon.Term.Basic
import Reckon.Number.Gamma

/-
The number that a term without variables stands for, to many digits. Real and
imaginary parts that vanish exactly come out as exact zeros, so whether a value is
real can be read off.
-/
namespace Reckon

namespace Number

/-- `z` to the power of a whole number; zero has no negative powers. -/
def powWhole? (p : Nat) (z : Cartesian) (k : Int) : Option Cartesian :=
  if z.isZero then
    if k < 0 then none else some (if k = 0 then .real one else .real .zero)
  else if z.isReal then some (.real (powIntTo p z.re k))
  else some (z.powIntTo p k)

/-- `z ^ w`: zero has only powers with a positive exponent. -/
def power? (p : Nat) (z w : Cartesian) : Option Cartesian :=
  if w.isZero then some (.real one)
  else if z.isZero then
    if w.isReal && isPositive w.re then some (.real .zero) else none
  else some (z.powTo p w)

/-- The cube root that is real for real numbers. -/
def cubeRootOf (p : Nat) (z : Cartesian) : Cartesian :=
  let third := ratTo (p + 10) (1 / 3)
  if z.isReal then
    if isZero z.re then z
    else
      let r := powTo p (absolute z.re) third
      .real (if isNegative z.re then -r else r)
  else z.powTo p (.real third)

/-- `Γ(z)`, nothing at a pole. -/
def gamma? (p : Nat) (z : Cartesian) : Option Cartesian :=
  if isPole z then none else some (gammaTo p z)

/-- The remainder of real numbers, with the sign of the divisor. -/
def remainder? (p : Nat) (x y : Cartesian) : Option Cartesian :=
  if x.isReal && y.isReal && !isZero y.re then
    let k := floorInt (divTo p x.re y.re)
    some (.real (subTo p x.re (ofInt k * y.re)))
  else none

end Number

namespace Term
open Number

/-- Digits that values are worked out with before they are rounded to a double. -/
def workingDigits : Nat := 420

/-- Digits that the value of a function is worked out with beyond those that it keeps. -/
def extraDigits : Nat := 4

/-- The value of a function at a point; nothing where it has none. -/
def Head.value? (p : Nat) : Head → List Cartesian → Option Cartesian
  | .abs, [z] => some (.real (z.absTo p))
  | .sin, [z] => some (z.sinTo p)
  | .cos, [z] => some (z.cosTo p)
  | .tan, [z] => some (z.tanTo p)
  | .asin, [z] => some (z.asinTo p)
  | .acos, [z] => some (z.acosTo p)
  | .atan, [z] => if z.isReal then some (z.atanTo p)
      else if Number.isZero z.re && absolute z.im == Number.one then none else some (z.atanTo p)
  | .sinh, [z] => some (z.sinhTo p)
  | .cosh, [z] => some (z.coshTo p)
  | .tanh, [z] => some (z.tanhTo p)
  | .asinh, [z] => some (z.asinhTo p)
  | .acosh, [z] => some (z.acoshTo p)
  | .atanh, [z] => if z.isReal && absolute z.re == Number.one then none else some (z.atanhTo p)
  | .log, [z] => if z.isZero then none else some (z.logTo p)
  | .factorial, [z] => gamma? p (.addTo p z (.real Number.one))
  | .gamma, [z] => gamma? p z
  | .binomial, [n, k] => do
    let unit : Cartesian := .real Number.one
    let a ← gamma? p (.addTo p n unit)
    let b ← gamma? p (.addTo p k unit)
    let c ← gamma? p (.addTo p (.subTo p n k) unit)
    pure (.divTo p a (.mulTo p b c))
  | .modulo, [x, y] => remainder? p x y
  | .cubeRoot, [z] => some (cubeRootOf p z)
  | _, _ => none

mutual

/-- The number that a term stands for, if it stands for one. -/
def approximate (p : Nat) : Term → Option Cartesian
  | .numeral n => some (.real (n.toDyadic p))
  | .pi => some (.real (piTo p))
  | .e => some (.real (expTo p Number.one))
  | .i => some .unit
  | .sum ts => (approximateAll p ts).map fun zs => zs.foldl (Cartesian.addTo p) (.real .zero)
  | .product ts => (approximateAll p ts).map fun zs => zs.foldl (Cartesian.mulTo p) (.real Number.one)
  | .power b x => do
    let w ← approximate p x
    let z ← approximate p b
    match b, x with
    | .e, _ => pure (w.expTo p)
    | _, .numeral (.exact q) =>
      if q.den = 1 then powWhole? p z q.num
      else if q = 1 / 2 then pure (z.sqrtTo p)
      else power? p z w
    | _, _ => power? p z w
  | .apply f ts => do f.value? p (← approximateAll p ts)
  | _ => none

/-- The numbers that terms stand for, if all of them do. -/
def approximateAll (p : Nat) : List Term → Option (List Cartesian)
  | [] => some []
  | t :: ts => do
    let z ← approximate p t
    let zs ← approximateAll p ts
    pure (z :: zs)

end

/-- The number that a term stands for, to the working number of digits. -/
def point? (t : Term) : Option Cartesian := approximate workingDigits t

/-- The real number that a term stands for, if it stands for one. -/
def realPoint? (t : Term) : Option Dyadic :=
  match point? t with
  | some z => if z.isReal then some z.re else none
  | none => none

/-- The term stands for a negative number. -/
def isNegativeReal (t : Term) : Bool := (realPoint? t).any isNegative

/-- The term stands for a positive number. -/
def isPositiveReal (t : Term) : Bool := (realPoint? t).any isPositive

end Term

end Reckon
