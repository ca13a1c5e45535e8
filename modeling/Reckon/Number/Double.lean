import Reckon.Number.Rounding

/-
Double precision: the numbers that have at most 53 binary digits and no digit
below `2 ^ -1074`, with two zeros, two infinities and one value that is no number.
Every operation is the exact one followed by rounding to the nearest of them, a
half going to the even neighbour.
-/
namespace Reckon.Number

/-! ## Rounding a fraction -/

/-- The least `k` with `num / den < 2 ^ k`, for a positive fraction. -/
def ratioMagnitude (num den : Nat) : Int :=
  let k : Int := (bitLength num : Int) - bitLength den
  let isBelow : Bool :=
    if 0 ≤ k then decide (num < den <<< k.toNat) else decide (num <<< (-k).toNat < den)
  if isBelow then k else k + 1

/-- The exponent of the last binary digit of a double of magnitude `k`. -/
def lastPlace (k : Int) : Int := max (k - 53) (-1074)

/-- The whole number `m` for which `m * 2 ^ e` is nearest to `num / den`. -/
def nearestMultiple (e : Int) (num den : Nat) : Nat :=
  if 0 ≤ e then roundDiv num (den <<< e.toNat) else roundDiv (num <<< (-e).toNat) den

/-! ## The type -/

/-- A double precision number. -/
inductive Double where
  /-- An ordinary number; zero stands for the positive zero. -/
  | finite (x : Dyadic)
  /-- The negative zero. -/
  | negZero
  /-- An infinity. -/
  | infinite (negative : Bool)
  /-- No number. -/
  | nan
  deriving DecidableEq

namespace Double

def zero (negative : Bool) : Double := if negative then .negZero else .finite .zero

/-- The double nearest to `num / den`, with a sign. -/
def ofRatio (negative : Bool) (num den : Nat) : Double :=
  if num = 0 then zero negative
  else
    let e := lastPlace (ratioMagnitude num den)
    let m := nearestMultiple e num den
    if m = 0 then zero negative
    else
      let x := scaled (if negative then -(m : Int) else m) e
      if 1024 < magnitude x then .infinite negative else .finite x

def ofDyadic (x : Dyadic) : Double :=
  let negative := isNegative x
  if 1024 < magnitude x then .infinite negative
  else if magnitude x < -1075 then zero negative
  else
    let (m, e) := parts x
    if 0 ≤ e then ofRatio negative (m.natAbs <<< e.toNat) 1
    else ofRatio negative m.natAbs (1 <<< (-e).toNat)

/-- The double nearest to a whole number. -/
def ofInt (i : Int) : Double := ofRatio (i < 0) i.natAbs 1

instance (n : Nat) : OfNat Double n := ⟨ofInt n⟩

instance : Inhabited Double := ⟨.finite .zero⟩

def value? : Double → Option Dyadic
  | .finite x => some x
  | .negZero => some .zero
  | _ => none

def isFinite (d : Double) : Bool := d.value?.isSome

/-- The sign bit; the value that is no number has none. -/
def signBit : Double → Bool
  | .finite x => isNegative x
  | .negZero => true
  | .infinite n => n
  | .nan => false

/-! ## Arithmetic -/

/-- The value with the other sign. -/
def neg : Double → Double
  | .finite x => if isZero x then .negZero else .finite (-x)
  | .negZero => .finite .zero
  | .infinite n => .infinite !n
  | .nan => .nan

/-- Sum. Opposite infinities have none; a zero sum is positive unless both are
negative zeros. -/
def add : Double → Double → Double
  | .nan, _ => .nan
  | _, .nan => .nan
  | .infinite m, .infinite n => if m = n then .infinite m else .nan
  | .infinite m, _ => .infinite m
  | _, .infinite n => .infinite n
  | .negZero, y => y
  | x, .negZero => x
  | .finite x, .finite y => ofDyadic (x + y)

def sub (x y : Double) : Double := x.add y.neg

def mul (x y : Double) : Double :=
  let negative := x.signBit != y.signBit
  match x, y with
  | .nan, _ => .nan
  | _, .nan => .nan
  | .infinite _, y => if y.value?.any isZero then .nan else .infinite negative
  | x, .infinite _ => if x.value?.any isZero then .nan else .infinite negative
  | x, y =>
    match x.value?, y.value? with
    | some a, some b => if isZero a || isZero b then zero negative else ofDyadic (a * b)
    | _, _ => .nan

/-- The double nearest to a quotient of numbers, the divisor not zero. -/
def ofQuotient (negative : Bool) (x y : Dyadic) : Double :=
  let (n, e) := parts x
  let (m, f) := parts y
  let s := e - f
  if 0 ≤ s then ofRatio negative (n.natAbs <<< s.toNat) m.natAbs
  else ofRatio negative n.natAbs (m.natAbs <<< (-s).toNat)

def div (x y : Double) : Double :=
  let negative := x.signBit != y.signBit
  match x, y with
  | .nan, _ => .nan
  | _, .nan => .nan
  | .infinite _, .infinite _ => .nan
  | .infinite _, _ => .infinite negative
  | _, .infinite _ => zero negative
  | x, y =>
    match x.value?, y.value? with
    | some a, some b =>
      if isZero b then (if isZero a then .nan else .infinite negative)
      else ofQuotient negative a b
    | _, _ => .nan

instance : Neg Double := ⟨neg⟩
instance : Add Double := ⟨add⟩
instance : Sub Double := ⟨sub⟩
instance : Mul Double := ⟨mul⟩
instance : Div Double := ⟨div⟩

/-! ## Order -/

/-- `x` is below `y`; the value that is no number is below nothing. -/
def less : Double → Double → Bool
  | .nan, _ => false
  | _, .nan => false
  | .infinite m, .infinite n => m && !n
  | .infinite m, _ => m
  | _, .infinite n => !n
  | x, y =>
    match x.value?, y.value? with
    | some a, some b => below a b
    | _, _ => false

/-- The two are equal as numbers: both zeros are equal. -/
def same : Double → Double → Bool
  | .nan, _ => false
  | _, .nan => false
  | .infinite m, .infinite n => m == n
  | x, y =>
    match x.value?, y.value? with
    | some a, some b => a == b
    | _, _ => false

instance : LT Double := ⟨fun x y => less x y = true⟩
instance : LE Double := ⟨fun x y => (less x y || same x y) = true⟩
instance (x y : Double) : Decidable (x < y) := inferInstanceAs (Decidable (less x y = true))
instance (x y : Double) : Decidable (x ≤ y) :=
  inferInstanceAs (Decidable ((less x y || same x y) = true))

/-! ## Whole numbers -/

def isWhole (d : Double) : Bool := d.value?.any Number.isWhole

/-- The value without its fraction, if it is a number. -/
def truncate? (d : Double) : Option Int := d.value?.map truncInt

end Double

/-! ## Numbers rounded as doubles -/

/-- `x` rounded to double precision; nothing if it is too large. -/
def toDouble? (x : Dyadic) : Option Dyadic := (Double.ofDyadic x).value?

end Reckon.Number
