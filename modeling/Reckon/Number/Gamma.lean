import Reckon.Number.Cartesian

/-
The gamma function by Stirling's series. The argument is moved to the right until
the series is precise enough; on the left half plane the reflection formula is used.
-/
namespace Reckon.Number

/-! ## Bernoulli numbers -/

/-- One sweep over the tangent numbers under construction: entry `j` becomes
`(j - k) * previous + (j - k + 2) * entry`. -/
def tangentSweep (d previous : Nat) : List Nat → List Nat
  | [] => []
  | t :: r =>
    let t := d * previous + (d + 2) * t
    t :: tangentSweep (d + 1) t r

/-- The tangent numbers `1, 2, 16, 272, …`, the first `n`, from the factorials. -/
def tangentsFrom : Nat → List Nat → List Nat
  | 0, ts => ts
  | _, [] => []
  | fuel + 1, t :: r => t :: tangentsFrom fuel (tangentSweep 0 0 r)

/-- `1!, 1!, 2!, …` as the start of the sweeps. -/
def factorials (n : Nat) : Nat → Nat → List Nat
  | _, 0 => []
  | f, left + 1 => f :: factorials (n + 1) (f * (n + 1)) left

def tangents (n : Nat) : List Nat := tangentsFrom n (factorials 0 1 n)

/-- The coefficients `B_2k / (2k (2k - 1))` of Stirling's series. -/
def stirlingCoefficients (p n : Nat) : List Dyadic :=
  (tangents n).zipIdx.map fun (t, i) =>
    let k := i + 1
    let s : Int := if i % 2 = 0 then 1 else -1
    quotientTo p (s * (t : Nat)) (Nat.pow 4 k * (Nat.pow 4 k - 1) * (2 * k - 1)) 0

/-! ## Stirling's series -/

/-- `c₁ y + c₂ y s + c₃ y s² + …` for `y = 1 / z` and `s = y²`. -/
def stirlingTail (p : Nat) (s : Cartesian) : Cartesian → List Dyadic → Cartesian
  | _, [] => .real .zero
  | y, c :: cs => .addTo p (.scaleTo p c y) (stirlingTail p s (.mulTo p y s) cs)

/-- `log Γ(z)` for a number far to the right. -/
def stirling (p : Nat) (z : Cartesian) : Cartesian :=
  let y := Cartesian.divTo p (.real one) z
  let tail := stirlingTail p (.mulTo p y y) y (stirlingCoefficients p (p * 3 / 20 + 5))
  let half := scaled 1 (-1)
  let main := Cartesian.subTo p
    (.mulTo p (.subTo p z (.real half)) (.logTo p z)) z
  let constant := shift (logTo p (shift (piTo p) 1)) (-1)
  .addTo p (.addTo p main (.real constant)) tail

/-- `z (z + 1) … (z + n - 1)` and `z + n`, where `n` is the first shift that reaches `bound`. -/
def riseTo (p : Nat) (bound : Dyadic) : Nat → Cartesian → Cartesian → Cartesian × Cartesian
  | 0, z, acc => (acc, z)
  | fuel + 1, z, acc =>
    if below z.re bound then
      riseTo p bound fuel ⟨addTo (2 * p) z.re one, z.im⟩ (.mulTo p acc z)
    else (acc, z)

/-- Digits worked with so that the exponential of the logarithm keeps `p` of them. -/
def gammaDigits (p : Nat) (z : Cartesian) : Nat :=
  p + 24 + 2 * (max (magnitude z.re) (magnitude z.im)).toNat

/-- `Γ(z)` for a number with a real part of at least one half. -/
def gammaRight (p : Nat) (z : Cartesian) : Cartesian :=
  let q := gammaDigits p z
  let bound := ofInt (q / 5 + 10)
  let (product, z) := riseTo q bound (q / 5 + 12) z (.real one)
  .divTo p (.expTo q (stirling q z)) product

/-- `sin (π x)`, exactly zero at whole numbers. -/
def sinPiTo (p : Nat) (z : Cartesian) : Cartesian :=
  if z.isReal && isWhole z.re then .real .zero
  else
    let q := p + 16 + (max (magnitude z.re) 0).toNat + bitLength (parts z.re).1.natAbs
    .sinTo p (.scaleTo q (piTo (q + 8)) z)

/-- The number is zero or a negative whole number, where gamma has a pole. -/
def isPole (z : Cartesian) : Bool := z.isReal && isWhole z.re && !isPositive z.re

def factorial (n : Nat) : Nat := (List.range n).foldl (fun f k => f * (k + 1)) 1

/-- `Γ(z)` away from its poles. Small whole numbers are exact before rounding. -/
def gammaTo (p : Nat) (z : Cartesian) : Cartesian :=
  if z.isReal && isWhole z.re && isPositive z.re && below z.re (ofInt 1000) then
    .real (roundTo p (ofInt (factorial ((truncInt z.re).toNat - 1))))
  else if below z.re (scaled 1 (-1)) then
    let q := gammaDigits p z
    let reflected := Cartesian.mulTo q (sinPiTo q z)
      (gammaRight q ⟨subTo (2 * q + bitLength (parts z.re).1.natAbs) one z.re, -z.im⟩)
    .divTo p (.real (piTo q)) reflected
  else gammaRight p z

/-- `log |Γ(x)|` away from the poles. -/
def logGammaTo (p : Nat) (x : Dyadic) : Dyadic :=
  let right (q : Nat) (x : Dyadic) : Dyadic :=
    let (product, z) := riseTo q (ofInt (q / 5 + 10)) (q / 5 + 12) (.real x) (.real one)
    subTo q (stirling q z).re (logTo q (absolute product.re))
  let q := p + 40
  if below x (scaled 1 (-1)) then
    let s := absolute (sinPiTo q (.real x)).re
    subTo p (logTo q (divTo q (piTo q) s)) (right q (subTo (2 * q) one x))
  else roundTo p (right q x)

end Reckon.Number
