/-
Rounding to a number of binary digits. Numbers are exact binary fractions
(`Dyadic`); each operation here gives the exact result rounded to `p` significant
binary digits, a half going to the even neighbour. The exponent is unbounded.
-/
namespace Reckon.Number

/-! ## Integers -/

/-- The number of binary digits, none for zero. -/
def bitLength (n : Nat) : Nat := if n = 0 then 0 else n.log2 + 1

/-- The integer nearest to `num / den`, a half going to the even neighbour. -/
def roundDiv (num den : Nat) : Nat :=
  let q := num / den
  let r := num % den
  if 2 * r < den then q
  else if den < 2 * r then q + 1
  else if q % 2 = 0 then q else q + 1

/-- The integer nearest to `n / 2 ^ s`, a half going to the even neighbour. -/
def roundShift (n s : Nat) : Nat :=
  let q := n >>> s
  let r := n - q <<< s
  let half := 1 <<< s
  if 2 * r < half then q
  else if half < 2 * r then q + 1
  else if q % 2 = 0 then q else q + 1

/-- `n` with the sign of `i`. -/
def withSign (i : Int) (n : Nat) : Int := if i < 0 then -(n : Int) else n

/-! ## Size and order -/

def scaled (m e : Int) : Dyadic := .ofIntWithPrec m (-e)

def ofInt (i : Int) : Dyadic := .ofIntWithPrec i 0

/-- Odd part and exponent: `x = m * 2 ^ e`; zero has neither. -/
def parts : Dyadic → Int × Int
  | .zero => (0, 0)
  | .ofOdd n k _ => (n, -k)

/-- The least `e` with `|x| < 2 ^ e`; zero for zero. -/
def magnitude : Dyadic → Int
  | .zero => 0
  | .ofOdd n k _ => (bitLength n.natAbs : Int) - k

/-- The sign: minus one, zero or one. -/
def signum : Dyadic → Int
  | .zero => 0
  | .ofOdd n _ _ => if n < 0 then -1 else 1

/-- The number is below zero. -/
def isNegative (x : Dyadic) : Bool := signum x < 0

/-- The number is above zero. -/
def isPositive (x : Dyadic) : Bool := 0 < signum x

def isZero : Dyadic → Bool
  | .zero => true
  | .ofOdd .. => false

def absolute : Dyadic → Dyadic
  | .zero => .zero
  | .ofOdd n k h => if n < 0 then .ofOdd (-n) k (by omega) else .ofOdd n k h

/-- Order of two numbers. Different signs or magnitudes decide at once, so
numbers of very different exponents are never aligned. -/
def order (x y : Dyadic) : Ordering :=
  if signum x ≠ signum y then compare (signum x) (signum y)
  else if signum x = 0 then .eq
  else if magnitude x ≠ magnitude y then
    (if 0 < signum x then compare (magnitude x) (magnitude y)
      else compare (magnitude y) (magnitude x))
  else if x < y then .lt else if y < x then .gt else .eq

/-- `x` is below `y`. -/
def below (x y : Dyadic) : Bool := order x y == .lt

/-! ## Rounded operations -/

/-- `x` rounded to `p` binary digits. -/
def roundTo (p : Nat) : Dyadic → Dyadic
  | .zero => .zero
  | .ofOdd n k h =>
    let b := bitLength n.natAbs
    if b ≤ p then .ofOdd n k h
    else scaled (withSign n (roundShift n.natAbs (b - p))) ((b - p : Nat) - k)

/-- `x + y`. An operand far below the last digit of the result only tells on
which side of the other the sum lies. -/
def addTo (p : Nat) (x y : Dyadic) : Dyadic :=
  match x, y with
  | .zero, y => roundTo p y
  | x, .zero => roundTo p x
  | .ofOdd n k hn, .ofOdd m l hm =>
    let big : Dyadic := .ofOdd n k hn
    let small : Dyadic := .ofOdd m l hm
    let gap := magnitude big - magnitude small
    let nudge (a : Dyadic) (s : Int) : Dyadic :=
      let (i, e) := parts a
      let room := p + 4 + bitLength i.natAbs
      roundTo p (scaled (i <<< room + s) (e - room))
    -- the exponent of the last digit of one may lie far above the other
    if (p : Int) + 4 + bitLength n.natAbs < gap then nudge big (signum small)
    else if (p : Int) + 4 + bitLength m.natAbs < -gap then nudge small (signum big)
    else roundTo p (big + small)

def subTo (p : Nat) (x y : Dyadic) : Dyadic := addTo p x (-y)

def mulTo (p : Nat) (x y : Dyadic) : Dyadic := roundTo p (x * y)

/-- `num / den * 2 ^ e` for a positive denominator. -/
def quotientTo (p : Nat) (num : Int) (den : Nat) (e : Int) : Dyadic :=
  let up := p + 3 + bitLength den - bitLength num.natAbs
  let n := num.natAbs <<< up
  let q := n / den
  let sticky := if n % den = 0 then 0 else 1
  roundTo p (scaled (withSign num (2 * q + sticky)) (e - up - 1))

/-- `x / y`, zero for a zero divisor. -/
def divTo (p : Nat) (x y : Dyadic) : Dyadic :=
  let (n, e) := parts x
  let (m, f) := parts y
  if m = 0 then .zero
  else quotientTo p (if m < 0 then -n else n) m.natAbs (e - f)

def ratTo (p : Nat) (q : Rat) : Dyadic := quotientTo p q.num q.den 0

/-- The root of `x`, zero for a negative number. -/
def sqrtTo (p : Nat) (x : Dyadic) : Dyadic :=
  if signum x ≤ 0 then .zero
  else
    let (n, e) := parts x
    let up := 2 * p + 6 - bitLength n.natAbs
    -- the exponent below the root has to be even
    let up := if (e - up) % 2 = 0 then up else up + 1
    let m := n.natAbs <<< up
    let r := m.sqrt
    let sticky := if r * r = m then 0 else 1
    roundTo p (scaled (2 * r + sticky : Nat) ((e - up) / 2 - 1))

/-- Truncation of a product to `w` digits. -/
def truncateTo (w : Nat) (m : Nat) (e : Int) : Nat × Int :=
  let b := bitLength m
  if b ≤ w then (m, e) else (m >>> (b - w), e + (b - w : Nat))

/-- `acc * base ^ n` by repeated squaring on mantissas cut to `w` digits. -/
def powerLoop (w : Nat) : Nat → Nat → Nat × Int → Nat × Int → Nat × Int
  | 0, _, _, acc => acc
  | fuel + 1, n, base, acc =>
    if n = 0 then acc
    else
      let acc := if n % 2 = 1 then truncateTo w (acc.1 * base.1) (acc.2 + base.2) else acc
      if n = 1 then acc
      else powerLoop w fuel (n / 2) (truncateTo w (base.1 * base.1) (2 * base.2)) acc

/-- `x ^ n` for a natural exponent. Short powers are exact before rounding; long
ones are multiplied up with a few more digits than asked for. -/
def powNatTo (p : Nat) (x : Dyadic) (n : Nat) : Dyadic :=
  if n = 0 then ofInt 1
  else if n = 1 then roundTo p x
  else
    let (m, e) := parts x
    let a := m.natAbs
    let s : Int := if m < 0 && n % 2 = 1 then -1 else 1
    if a ≤ 1 then scaled (s * a) (e * n)
    else if n = 2 || bitLength a * n < 1000 then roundTo p (scaled (s * (Nat.pow a n : Nat)) (e * n))
    else
      let r := powerLoop (p + 4 * bitLength n + 4) (bitLength n) n (a, e) (1, 0)
      roundTo p (scaled (s * r.1) r.2)

/-- `x ^ n` for an integer exponent and `x` not zero. -/
def powIntTo (p : Nat) (x : Dyadic) (n : Int) : Dyadic :=
  if 0 ≤ n then powNatTo p x n.toNat
  else if n = -1 then divTo p (ofInt 1) x
  else divTo p (ofInt 1) (powNatTo (p + 5) x n.natAbs)

/-! ## Whole numbers -/

/-- The greatest integer not above `x`; meant for numbers of moderate size. -/
def floorInt (x : Dyadic) : Int :=
  let (m, e) := parts x
  if 0 ≤ e then m <<< e.toNat else m >>> (-e).toNat

/-- `x` without its fraction. -/
def truncInt (x : Dyadic) : Int :=
  if isNegative x then -floorInt (-x) else floorInt x

def isWhole : Dyadic → Bool
  | .zero => true
  | .ofOdd _ k _ => k ≤ 0

/-- `x` as a whole number times `2 ^ -w`, rounded down. -/
def toFixed (w : Nat) (x : Dyadic) : Int :=
  let (m, e) := parts x
  let s := e + w
  if 0 ≤ s then m <<< s.toNat else m >>> (-s).toNat

def toRational (x : Dyadic) : Rat := x.toRat

/-! ## First facts -/

theorem isZero_iff {x : Dyadic} : isZero x = true ↔ x = .zero := by
  cases x <;> simp [isZero]

end Reckon.Number
