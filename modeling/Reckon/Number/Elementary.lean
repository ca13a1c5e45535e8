import Reckon.Number.Series

/-
Elementary functions of a binary fraction. `fTo p x` is `f x` to `p` significant
binary digits: it is worked out with guard digits, as many more as the function
cancels near its zeros, and then rounded.
-/
namespace Reckon.Number

def one : Dyadic := ofInt 1

def shift (x : Dyadic) (e : Int) : Dyadic := scaled (parts x).1 ((parts x).2 + e)

/-- A fixed point number rounded to `p` digits. -/
def ofFixed (p w : Nat) (i : Int) : Dyadic := roundTo p (scaled i (-(w : Int)))

/-- `x` moved a little towards `x + s`, for a small `s` that only tells the side. -/
def nudgeTo (p : Nat) (x s : Dyadic) : Dyadic := addTo p x s

def piTo (p : Nat) : Dyadic := ofFixed p (p + 8) (fixedPi (p + 8))

/-! ## Exponential and logarithm -/

/-- Magnitudes beyond this many digits are not followed any further. -/
def reach : Int := 1000000

def expTo (p : Nat) (x : Dyadic) : Dyadic :=
  let k := magnitude x
  if isZero x then one
  else if k < -(p + 4 : Int) then nudgeTo p one x
  else if reach < k then scaled 1 (if isNegative x then -(Int.pow 2 70) else Int.pow 2 70)
  else
    let w := p + 16 + k.toNat
    let l := fixedLogTwo w
    let t := toFixed w x
    let n := t.fdiv l
    roundTo p (scaled (fixedExp w (t - n * l)) (n - w))

/-- `log x` for `x` above zero. -/
def logTo (p : Nat) (x : Dyadic) : Dyadic :=
  if signum x ≤ 0 || x == one then .zero
  else
    let (m, e) := parts x
    let s := e + bitLength m.natAbs
    -- the fraction lies between three quarters and one and a half
    let half := scaled m (-(bitLength m.natAbs : Int))
    let (f, s) := if below half (scaled 3 (-2)) then (shift half 1, s - 1) else (half, s)
    let lost := if s = 0 then (-magnitude (f - one)).toNat else 0
    let w := p + 16 + lost
    ofFixed p w (s * fixedLogTwo w + fixedLog w (toFixed w f))

/-! ## Trigonometric functions -/

/-- Cosine and sine in fixed point, with the number of places. -/
def cosSin (p : Nat) (x : Dyadic) : Nat × Int × Int :=
  let k := magnitude x
  let w := p + 24 + k.natAbs + bitLength (parts x).1.natAbs
  let quarter := fixedPi w / 2
  let t := toFixed w x
  let q := (2 * t + quarter).fdiv (2 * quarter)
  let (c, s) := fixedCosSin w (t - q * quarter)
  match (q % 4).toNat with
  | 0 => (w, c, s)
  | 1 => (w, -s, c)
  | 2 => (w, -c, -s)
  | _ => (w, s, -c)

def sinTo (p : Nat) (x : Dyadic) : Dyadic :=
  if isZero x then .zero
  else if magnitude x < -(p + 4 : Int) then nudgeTo p x (-(x * x * x))
  else if reach < magnitude x then .zero
  else let (w, _, s) := cosSin p x; ofFixed p w s

def cosTo (p : Nat) (x : Dyadic) : Dyadic :=
  if isZero x then one
  else if magnitude x < -(p + 4 : Int) then nudgeTo p one (-(x * x))
  else if reach < magnitude x then one
  else let (w, c, _) := cosSin p x; ofFixed p w c

def tanTo (p : Nat) (x : Dyadic) : Dyadic := divTo p (sinTo (p + 8) x) (cosTo (p + 8) x)

def atanTo (p : Nat) (x : Dyadic) : Dyadic :=
  let k := magnitude x
  if isZero x then .zero
  else if k < -(p + 4 : Int) then nudgeTo p x (-(x * x * x))
  else if k ≤ 0 then
    let w := p + 16 + (-k).toNat
    ofFixed p w (fixedAtan w (toFixed w x))
  else
    let w := p + 16
    let r := toFixed w (divTo (p + 16) one (absolute x))
    let a := ofFixed p w (fixedPi w / 2 - fixedAtan w r)
    if isNegative x then -a else a

/-- Precision at which `1 - x` is taken, so that nothing is lost near one. -/
def fine (p : Nat) (x : Dyadic) : Nat := 2 * p + bitLength (parts x).1.natAbs + 32

/-- `asin x` for `x` between minus one and one. -/
def asinTo (p : Nat) (x : Dyadic) : Dyadic :=
  if isZero x then .zero
  else if absolute x == one then shift (if isNegative x then -(piTo p) else piTo p) (-1)
  else
    let q := p + 12
    let below := mulTo q (subTo (fine p x) one x) (addTo (fine p x) one x)
    atanTo p (divTo q x (sqrtTo q below))

/-- `acos x` for `x` between minus one and one. -/
def acosTo (p : Nat) (x : Dyadic) : Dyadic :=
  if x == one then .zero
  else if x == -one then piTo p
  else
    let q := p + 12
    let ratio := divTo q (subTo (fine p x) one x) (addTo (fine p x) one x)
    shift (atanTo p (sqrtTo q ratio)) 1

/-! ## Hyperbolic functions -/

/-- Digits lost near zero by a function that starts like `x`. -/
def lostNearZero (x : Dyadic) : Nat := (-magnitude x).toNat

def sinhTo (p : Nat) (x : Dyadic) : Dyadic :=
  if isZero x then .zero
  else if magnitude x < -(p + 4 : Int) then nudgeTo p x (x * x * x)
  else
    let q := p + 12 + 2 * lostNearZero x
    shift (subTo p (expTo q x) (expTo q (-x))) (-1)

def coshTo (p : Nat) (x : Dyadic) : Dyadic :=
  shift (addTo p (expTo (p + 8) x) (expTo (p + 8) (-x))) (-1)

def tanhTo (p : Nat) (x : Dyadic) : Dyadic := divTo p (sinhTo (p + 8) x) (coshTo (p + 8) x)

/-- `asinh x`. -/
def asinhTo (p : Nat) (x : Dyadic) : Dyadic :=
  if isZero x then .zero
  else if magnitude x < -(p + 4 : Int) then nudgeTo p x (-(x * x * x))
  else
    let q := p + 12 + lostNearZero x
    let a := absolute x
    let r := logTo p (addTo q a (sqrtTo q (addTo (2 * q) one (mulTo (2 * q) a a))))
    if isNegative x then -r else r

/-- `acosh x` for `x` from one upwards. -/
def acoshTo (p : Nat) (x : Dyadic) : Dyadic :=
  let q := p + 12 + (-magnitude (subTo (fine p x) x one)).toNat
  let below := mulTo q (subTo (fine p x) x one) (addTo (fine p x) x one)
  logTo p (addTo q x (sqrtTo q below))

/-- `atanh x` for `x` between minus one and one, both excluded. -/
def atanhTo (p : Nat) (x : Dyadic) : Dyadic :=
  if isZero x then .zero
  else if magnitude x < -(p + 4 : Int) then nudgeTo p x (x * x * x)
  else
    let q := p + 12 + lostNearZero x
    shift (logTo p (divTo q (addTo (fine q x) one x) (subTo (fine q x) one x))) (-1)

/-! ## Powers -/

/-- The exponent is half of an odd number. -/
def isHalfOdd : Dyadic → Bool
  | .zero => false
  | .ofOdd _ k _ => k == 1

/-- `x ^ y` for `x` above zero: whole exponents by multiplication, halves through
the root, all others as `exp (y log x)`. -/
def powTo (p : Nat) (x y : Dyadic) : Dyadic :=
  if isWhole y then powIntTo p x (truncInt y)
  else if isHalfOdd y then
    let n := (parts y).1
    if n = 1 then sqrtTo p x
    else if n = -1 then divTo p one (sqrtTo (p + 10) x)
    else powIntTo p (sqrtTo (p + 10) x) n
  else expTo p (y * logTo (p + 10) x)

end Reckon.Number
