import Reckon.Number.Elementary

/-
Points of the complex plane by their two coordinates. A coordinate that is exactly
zero stays so as long as the operation keeps it zero; whether a number is real is
read off its second coordinate.
-/
namespace Reckon.Number

/-- The number `re + im * i`. -/
structure Cartesian where
  re : Dyadic
  im : Dyadic
  deriving DecidableEq

namespace Cartesian

def real (x : Dyadic) : Cartesian := ⟨x, .zero⟩

def unit : Cartesian := ⟨.zero, one⟩

/-- The number has no imaginary part. -/
def isReal (z : Cartesian) : Bool := isZero z.im

def isZero (z : Cartesian) : Bool := Number.isZero z.re && Number.isZero z.im

/-! ## Arithmetic -/

def neg (z : Cartesian) : Cartesian := ⟨-z.re, -z.im⟩
def conj (z : Cartesian) : Cartesian := ⟨z.re, -z.im⟩

/-- Multiplication by `i`. -/
def turn (z : Cartesian) : Cartesian := ⟨-z.im, z.re⟩

/-- Multiplication by `-i`. -/
def turnBack (z : Cartesian) : Cartesian := ⟨z.im, -z.re⟩

def roundTo (p : Nat) (z : Cartesian) : Cartesian := ⟨Number.roundTo p z.re, Number.roundTo p z.im⟩
def addTo (p : Nat) (z w : Cartesian) : Cartesian :=
  ⟨Number.addTo p z.re w.re, Number.addTo p z.im w.im⟩
def subTo (p : Nat) (z w : Cartesian) : Cartesian := addTo p z w.neg

def mulTo (p : Nat) (z w : Cartesian) : Cartesian :=
  ⟨Number.subTo p (z.re * w.re) (z.im * w.im), Number.addTo p (z.re * w.im) (z.im * w.re)⟩

/-- Multiplication by a real number. -/
def scaleTo (p : Nat) (x : Dyadic) (z : Cartesian) : Cartesian :=
  ⟨Number.mulTo p x z.re, Number.mulTo p x z.im⟩

/-- The square of the distance from zero. -/
def normTo (p : Nat) (z : Cartesian) : Dyadic := Number.addTo p (z.re * z.re) (z.im * z.im)

/-- Quotient, zero for a zero divisor. -/
def divTo (p : Nat) (z w : Cartesian) : Cartesian :=
  if isReal w then ⟨Number.divTo p z.re w.re, Number.divTo p z.im w.re⟩
  else if Number.isZero w.re then ⟨Number.divTo p z.im w.im, Number.divTo p (-z.re) w.im⟩
  else
    let q := p + 12
    let t := mulTo q z w.conj
    let n := normTo q w
    ⟨Number.divTo p t.re n, Number.divTo p t.im n⟩

def absTo (p : Nat) (z : Cartesian) : Dyadic :=
  if isReal z then Number.roundTo p (absolute z.re)
  else if Number.isZero z.re then Number.roundTo p (absolute z.im)
  else sqrtTo p (normTo (p + 8) z)

/-- The angle, above `-π` and up to `π`. -/
def argTo (p : Nat) (z : Cartesian) : Dyadic :=
  if isReal z then (if isNegative z.re then piTo p else .zero)
  else if Number.isZero z.re then shift (if isNegative z.im then -(piTo p) else piTo p) (-1)
  else
    let a := atanTo (p + 8) (Number.divTo (p + 8) z.im z.re)
    if isPositive z.re then Number.roundTo p a
    else if isNegative z.im then Number.subTo p a (piTo (p + 8))
    else Number.addTo p a (piTo (p + 8))

/-- Square root with an angle up to a quarter turn. -/
def sqrtTo (p : Nat) (z : Cartesian) : Cartesian :=
  if isReal z then
    if isNegative z.re then ⟨.zero, Number.sqrtTo p (-z.re)⟩ else real (Number.sqrtTo p z.re)
  else
    let q := p + 16
    -- the larger of the two coordinates is found first, so nothing cancels
    let r := absTo q z
    let t := Number.sqrtTo q (shift (Number.addTo q r (absolute z.re)) (-1))
    let s := Number.divTo q (shift z.im (-1)) t
    if isNegative z.re then
      roundTo p (if isNegative z.im then ⟨-s, -t⟩ else ⟨s, t⟩)
    else roundTo p ⟨t, s⟩

/-! ## Exponential and logarithm -/

def expTo (p : Nat) (z : Cartesian) : Cartesian :=
  if isReal z then real (Number.expTo p z.re)
  else
    let r := Number.expTo (p + 8) z.re
    ⟨Number.mulTo p r (cosTo (p + 8) z.im), Number.mulTo p r (sinTo (p + 8) z.im)⟩

def logTo (p : Nat) (z : Cartesian) : Cartesian :=
  if isReal z && isPositive z.re then real (Number.logTo p z.re)
  else
    let n := normTo (8 * p + 64) z
    ⟨shift (Number.logTo p n) (-1), argTo p z⟩

/-- `z ^ n` by repeated squaring. -/
def powLoop (p : Nat) : Nat → Nat → Cartesian → Cartesian → Cartesian
  | 0, _, _, acc => acc
  | fuel + 1, n, z, acc =>
    if n = 0 then acc
    else powLoop p fuel (n / 2) (mulTo p z z) (if n % 2 = 1 then mulTo p acc z else acc)

/-- `z ^ n` for an integer exponent. -/
def powIntTo (p : Nat) (z : Cartesian) (n : Int) : Cartesian :=
  let q := p + 16 + 2 * bitLength n.natAbs
  let r := powLoop q (bitLength n.natAbs + 1) n.natAbs z (real one)
  if n < 0 then divTo p (real one) r else roundTo p r

/-- `z ^ w`, the principal value. -/
def powTo (p : Nat) (z w : Cartesian) : Cartesian :=
  if isReal w && isReal z && isPositive z.re then real (Number.powTo p z.re w.re)
  else if isReal w && isWhole w.re && magnitude w.re < 32 then powIntTo p z (truncInt w.re)
  else if isReal w && isHalfOdd w.re && magnitude w.re < 32 then
    powIntTo p (sqrtTo (p + 10) z) (parts w.re).1
  else
    let guess := mulTo 32 w (logTo 32 z)
    let q := p + 16 + (max (magnitude guess.re) (magnitude guess.im)).toNat
    expTo p (mulTo q w (logTo q z))

/-! ## Trigonometric and hyperbolic functions -/

def sinTo (p : Nat) (z : Cartesian) : Cartesian :=
  if isReal z then real (Number.sinTo p z.re)
  else
    let q := p + 8
    ⟨Number.mulTo p (Number.sinTo q z.re) (Number.coshTo q z.im),
      Number.mulTo p (Number.cosTo q z.re) (Number.sinhTo q z.im)⟩

def cosTo (p : Nat) (z : Cartesian) : Cartesian :=
  if isReal z then real (Number.cosTo p z.re)
  else
    let q := p + 8
    ⟨Number.mulTo p (Number.cosTo q z.re) (Number.coshTo q z.im),
      -(Number.mulTo p (Number.sinTo q z.re) (Number.sinhTo q z.im))⟩

def tanTo (p : Nat) (z : Cartesian) : Cartesian :=
  if isReal z then real (Number.tanTo p z.re)
  else divTo p (sinTo (p + 12) z) (cosTo (p + 12) z)

def sinhTo (p : Nat) (z : Cartesian) : Cartesian := (sinTo p z.turn).turnBack
def coshTo (p : Nat) (z : Cartesian) : Cartesian := cosTo p z.turn
def tanhTo (p : Nat) (z : Cartesian) : Cartesian := (tanTo p z.turn).turnBack

/-- `asinh z = log (z + sqrt (z ^ 2 + 1))`. -/
def asinhTo (p : Nat) (z : Cartesian) : Cartesian :=
  if isReal z then real (Number.asinhTo p z.re)
  else if Number.isZero z.re && !below one (absolute z.im) then
    ⟨.zero, Number.asinTo p z.im⟩
  else
    let q := 2 * p + 40
    let w := sqrtTo q (addTo (2 * q) (mulTo (2 * q) z z) (real one))
    -- the sum that does not cancel; the other branch is its mirror image
    if isNegative z.re then (logTo p (addTo q z.neg w)).neg else logTo p (addTo q z w)

/-- `asin z = -i asinh (i z)`. -/
def asinTo (p : Nat) (z : Cartesian) : Cartesian :=
  if isReal z then
    if !below one (absolute z.re) then real (Number.asinTo p z.re)
    else
      let half := shift (piTo p) (-1)
      let h := Number.acoshTo p (absolute z.re)
      if isNegative z.re then ⟨-half, h⟩ else ⟨half, -h⟩
  else (asinhTo p z.turn).turnBack

/-- `acos z = π/2 - asin z`. -/
def acosTo (p : Nat) (z : Cartesian) : Cartesian :=
  if isReal z then
    if !below one (absolute z.re) then real (Number.acosTo p z.re)
    else if isNegative z.re then ⟨piTo p, -(Number.acoshTo p (-z.re))⟩
    else ⟨.zero, Number.acoshTo p z.re⟩
  else subTo p (real (shift (piTo (p + 8)) (-1))) (asinTo (p + 8) z)

/-- `acosh z`: `i acos z` or `-i acos z`, the one in the right half plane. -/
def acoshTo (p : Nat) (z : Cartesian) : Cartesian :=
  if isReal z && !below z.re one then real (Number.acoshTo p z.re)
  else if isReal z && !below z.re (-one) then ⟨.zero, Number.acosTo p z.re⟩
  else if isReal z then ⟨Number.acoshTo p (-z.re), piTo p⟩
  else
    let a := acosTo p z
    if isNegative a.im || (Number.isZero a.im && !isNegative a.re) then a.turn else a.turnBack

/-- `atanh z = (log (1 + z) - log (1 - z)) / 2`. -/
def atanhTo (p : Nat) (z : Cartesian) : Cartesian :=
  if isReal z then
    if below (absolute z.re) one then real (Number.atanhTo p z.re)
    else
      let half := shift (piTo p) (-1)
      let x := absolute z.re
      let q := fine p z.re
      let r := shift (Number.logTo p
        (Number.divTo (p + 12) (Number.addTo q x one) (Number.subTo q x one))) (-1)
      if isNegative z.re then ⟨-r, half⟩ else ⟨r, -half⟩
  else if Number.isZero z.re then ⟨.zero, Number.atanTo p z.im⟩
  else
    let q := 2 * p + 40
    let d := subTo p (logTo (p + 8) (addTo q (real one) z)) (logTo (p + 8) (subTo q (real one) z))
    ⟨shift d.re (-1), shift d.im (-1)⟩

/-- `atan z = -i atanh (i z)`. -/
def atanTo (p : Nat) (z : Cartesian) : Cartesian :=
  if isReal z then real (Number.atanTo p z.re) else (atanhTo p z.turn).turnBack

end Cartesian

end Reckon.Number
