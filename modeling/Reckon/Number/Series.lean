import Reckon.Number.Rounding

/-
Power series in fixed point: an integer `t` stands for `t / 2 ^ w`. Each series is
added up until its terms vanish; the guard digits of the callers absorb the last
few units lost.
-/
namespace Reckon.Number

/-- Product of two fixed point numbers. -/
def fixedMul (w : Nat) (a b : Int) : Int := (a * b) >>> w

/-- Quotient of two fixed point numbers, the divisor not zero. -/
def fixedDiv (w : Nat) (a b : Int) : Int := (a <<< w).fdiv b

/-- Root of a fixed point number. -/
def fixedSqrt (w : Nat) (a : Int) : Int := ((a.toNat <<< w).sqrt : Int)

/-! ## Constants -/

/-- `term / k ± term / (sq * (k + 2)) + …` -/
def inverseSeries (alternate : Bool) (sq : Nat) : Nat → Nat → Nat → Int → Int
  | 0, _, _, sum => sum
  | fuel + 1, term, k, sum =>
    if term = 0 then sum
    else
      let t : Int := (term / k : Nat)
      let sum := if alternate && k % 4 = 3 then sum - t else sum + t
      inverseSeries alternate sq fuel (term / sq) (k + 2) sum

/-- `atan (1 / n)` in fixed point. -/
def atanInverse (w n : Nat) : Int := inverseSeries true (n * n) (w + 2) ((1 <<< w) / n) 1 0

/-- `atanh (1 / n)` in fixed point. -/
def atanhInverse (w n : Nat) : Int := inverseSeries false (n * n) (w + 2) ((1 <<< w) / n) 1 0

/-- Half the circumference of the unit circle: `16 atan (1/5) - 4 atan (1/239)`. -/
def fixedPi (w : Nat) : Int :=
  (16 * atanInverse (w + 16) 5 - 4 * atanInverse (w + 16) 239) >>> (16 : Nat)

/-- The natural logarithm of two:
`18 atanh (1/26) - 2 atanh (1/4801) + 8 atanh (1/8749)`. -/
def fixedLogTwo (w : Nat) : Int :=
  (18 * atanhInverse (w + 16) 26 - 2 * atanhInverse (w + 16) 4801
    + 8 * atanhInverse (w + 16) 8749) >>> (16 : Nat)

/-! ## Exponential, sine and cosine -/

/-- `term + term * t / k + term * t ^ 2 / (k * (k + 1)) + …` -/
def expTail (w : Nat) (t : Int) : Nat → Int → Nat → Int → Int
  | 0, _, _, sum => sum
  | fuel + 1, term, k, sum =>
    if term = 0 then sum
    else expTail w t fuel (fixedMul w term t / (k : Int)) (k + 1) (sum + term)

/-- `x ^ (2 ^ n)` in fixed point. -/
def squareTimes (w : Nat) : Nat → Int → Int
  | 0, x => x
  | n + 1, x => squareTimes w n (fixedMul w x x)

/-- `exp t` for `0 ≤ t ≤ 1`: the argument is halved a few times, the value squared
as often. -/
def fixedExp (w : Nat) (t : Int) : Int :=
  let halvings := w.sqrt / 2
  let v := w + halvings + 8
  let small := (t <<< (v - w)) >>> halvings
  squareTimes v halvings (expTail v small (v + 2) (1 <<< v) 1 0) >>> (v - w)

/-- `term - term * sq / (k * (k + 1)) + …` -/
def alternatingTail (w : Nat) (sq : Int) : Nat → Int → Nat → Int → Int
  | 0, _, _, sum => sum
  | fuel + 1, term, k, sum =>
    if term = 0 then sum
    else
      -- the quotient is cut towards zero, so the terms do reach it
      let next := (fixedMul w term sq).tdiv ((k * (k + 1) : Nat) : Int)
      let next := if next = -1 then 0 else next
      alternatingTail w sq fuel (-next) (k + 2) (sum + term)

/-- Cosine and sine of `t`, for `|t| ≤ 1`. -/
def fixedCosSin (w : Nat) (t : Int) : Int × Int :=
  let sq := fixedMul w t t
  (alternatingTail w sq (w + 2) (1 <<< w) 1 0, alternatingTail w sq (w + 2) t 2 0)

/-! ## Logarithm and arc tangent -/

/-- `term / k ± term * sq / (k + 2) + …` for odd `k`. -/
def oddSeries (alternate : Bool) (w : Nat) (sq : Int) : Nat → Int → Nat → Int → Int
  | 0, _, _, sum => sum
  | fuel + 1, term, k, sum =>
    if term.natAbs ≤ 1 then sum
    else
      let t := term.tdiv (k : Int)
      let sum := if alternate && k % 4 = 3 then sum - t else sum + t
      oddSeries alternate w sq fuel (fixedMul w term sq) (k + 2) sum

/-- `log x` for `x` between one half and two: `2 atanh ((x - 1) / (x + 1))`. -/
def fixedLog (w : Nat) (x : Int) : Int :=
  let one : Int := 1 <<< w
  let z := fixedDiv w (x - one) (x + one)
  2 * oddSeries false w (fixedMul w z z) (w + 2) z 1 0

/-- `tan (a / 2)` from `tan a`. -/
def halfAngle (w : Nat) (t : Int) : Int :=
  let one : Int := 1 <<< w
  fixedDiv w t (one + fixedSqrt w (one + fixedMul w t t))

/-- `atan t` for `|t| ≤ 1`: the angle is halved three times. -/
def fixedAtan (w : Nat) (t : Int) : Int :=
  let v := w + 8
  let s := halfAngle v (halfAngle v (halfAngle v (t <<< (8 : Nat))))
  (8 * oddSeries true v (fixedMul v s s) (v + 2) s 1 0) >>> (8 : Nat)

end Reckon.Number
