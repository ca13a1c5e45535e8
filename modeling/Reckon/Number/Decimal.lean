import Reckon.Number.Double
import Reckon.Text.Blank
import Reckon.Text.Letter

/-
Decimal notation: reading a decimal number into the nearest double, and the
decimal digits that stand for a double, the fewest that read back.
-/
namespace Reckon.Number
open Reckon.Text

/-! ## Digits -/

/-- The number that a list of digits stands for, after the digits of `n`. -/
def digitsAfter (n : Nat) : List Char → Nat
  | [] => n
  | c :: r => digitsAfter (10 * n + (digitValue? c).getD 0) r

/-- The number that a list of digits stands for. -/
def digitsValue (s : List Char) : Nat := digitsAfter 0 s

def decimalDigits (n : Nat) : List Char := (Nat.toDigits 10 n)

/-- The decimal digits of an integer, a minus first. -/
def intDigits (i : Int) : List Char :=
  if i < 0 then '-' :: decimalDigits i.natAbs else decimalDigits i.natAbs

def digitCount (n : Nat) : Nat := (decimalDigits n).length

/-! ## Decimal numbers -/

/-- A decimal number `± digits * 10 ^ exponent`. -/
structure Decimal where
  negative : Bool
  digits : Nat
  exponent : Int
  deriving DecidableEq

namespace Decimal

/-- Numerator and denominator. -/
def ratio (d : Decimal) : Nat × Nat :=
  if 0 ≤ d.exponent then (d.digits * Nat.pow 10 d.exponent.toNat, 1)
  else (d.digits, Nat.pow 10 (-d.exponent).toNat)

/-- The nearest double. Numbers far outside the range of doubles are recognised
by their length, before any power of ten is formed. -/
def toDouble (d : Decimal) : Double :=
  let top : Int := d.exponent + digitCount d.digits
  if d.digits = 0 then Double.zero d.negative
  else if 400 < top then .infinite d.negative
  else if top < -400 then Double.zero d.negative
  else Double.ofRatio d.negative d.ratio.1 d.ratio.2

end Decimal

/-! ## Reading -/

/-- A sign at the front, if there is one, and the rest. -/
def takeSign : List Char → Bool × List Char
  | '-' :: r => (true, r)
  | '+' :: r => (false, r)
  | r => (false, r)

/-- Digits, single underscores between two of them left out; the rest follows. -/
def takeDigits : List Char → List Char × List Char
  | [] => ([], [])
  | [c] => if isDigit c then ([c], []) else ([], [c])
  | c :: d :: r =>
    if isDigit c then
      if d = '_' then
        match r with
        | e :: _ =>
          if isDigit e then let (ds, rest) := takeDigits r; (c :: ds, rest) else ([c], d :: r)
        | [] => ([c], d :: r)
      else let (ds, rest) := takeDigits (d :: r); (c :: ds, rest)
    else ([], c :: d :: r)

/-- An exponent part `e±digits` and nothing after it; nothing at all counts as
exponent zero. -/
def readExponent : List Char → Option Int
  | [] => some 0
  | c :: r =>
    if c = 'e' || c = 'E' then
      let (negative, r) := takeSign r
      match takeDigits r with
      | (d :: ds, []) =>
        let n : Int := digitsValue (d :: ds)
        some (if negative then -n else n)
      | _ => none
    else none

/-- An unsigned decimal number: digits with at most one point and an exponent. -/
def readMagnitude (negative : Bool) (s : List Char) : Option Decimal :=
  let (whole, r) := takeDigits s
  let (fraction, r) := match r with
    | '.' :: r => takeDigits r
    | r => ([], r)
  if whole.isEmpty && fraction.isEmpty then none
  else
    (readExponent r).map fun e =>
      ⟨negative, digitsValue (whole ++ fraction), e - fraction.length⟩

/-- Names of the values that are not numbers, in small letters. -/
def readNamed (negative : Bool) (s : List Char) : Option Double :=
  let word := String.ofList (s.map Char.toLower)
  if word = "inf" || word = "infinity" then some (.infinite negative)
  else if word = "nan" then some .nan
  else none

/-- A number written by hand: white space around it, a sign, a decimal number or
the name of an infinity or of the value that is no number. -/
def readDouble (s : List Char) : Option Double :=
  let (negative, r) := takeSign (trim s)
  match readMagnitude negative r with
  | some d => some d.toDouble
  | none => readNamed negative r

/-- A whole number written by hand: white space around it, a sign, digits. -/
def readInt (s : List Char) : Option Int :=
  let (negative, r) := takeSign (trim s)
  match takeDigits r with
  | (d :: ds, []) =>
    let n : Int := digitsValue (d :: ds)
    some (if negative then -n else n)
  | _ => none

/-! ## The fewest digits that read back -/

def shiftTen (num den : Nat) (s : Int) : Nat × Nat :=
  if 0 ≤ s then (num * Nat.pow 10 s.toNat, den) else (num, den * Nat.pow 10 (-s).toNat)

/-- The least `k` with `num / den < 10 ^ k`, found from a guess near it. -/
def decimalMagnitudeFrom : Nat → Int → Nat → Nat → Int
  | 0, k, _, _ => k
  | fuel + 1, k, num, den =>
    let (n, d) := shiftTen num den (-k)
    if d ≤ n then decimalMagnitudeFrom fuel (k + 1) num den
    else
      let (n, d) := shiftTen num den (1 - k)
      if n < d then decimalMagnitudeFrom fuel (k - 1) num den else k

/-- The least `k` with `num / den < 10 ^ k`, for a positive fraction. -/
def decimalMagnitude (num den : Nat) : Int :=
  decimalMagnitudeFrom 8 (ratioMagnitude num den * 1233 / 4096) num den

/-- A number of `n` digits in front of `10 ^ (k - n)` that reads back as the
double `x = num / den`: of the two neighbours of `x` with so many digits the
nearer one that does. -/
def neighbour? (x : Dyadic) (num den : Nat) (k : Int) (n : Nat) : Option Decimal :=
  let (a, b) := shiftTen num den (n - k)
  let low := a / b
  let readsBack (m : Nat) : Bool := (Decimal.mk false m (k - n)).toDouble == .finite x
  let twice := 2 * (a - low * b)
  match readsBack low, readsBack (low + 1) with
  | true, true =>
    if twice < b || (twice = b && low % 2 = 0) then some ⟨false, low, k - n⟩
    else some ⟨false, low + 1, k - n⟩
  | true, false => some ⟨false, low, k - n⟩
  | false, true => some ⟨false, low + 1, k - n⟩
  | false, false => none

/-- The decimal of fewest digits, at least `n`, that reads back. -/
def shortestFrom (x : Dyadic) (num den : Nat) (k : Int) : Nat → Nat → Decimal
  | 0, n => ⟨false, (roundDiv (shiftTen num den (n - k)).1 (shiftTen num den (n - k)).2), k - n⟩
  | fuel + 1, n => (neighbour? x num den k n).getD (shortestFrom x num den k fuel (n + 1))

/-- The fraction of a positive number. -/
def fractionOf (x : Dyadic) : Nat × Nat :=
  let (m, e) := parts x
  if 0 ≤ e then (m.natAbs <<< e.toNat, 1) else (m.natAbs, 1 <<< (-e).toNat)

/-- The decimal of fewest digits that reads back as a double above zero. -/
def shortest (x : Dyadic) : Decimal :=
  let (num, den) := fractionOf x
  shortestFrom x num den (decimalMagnitude num den) 17 1

/-! ## Rounding to decimal places -/

/-- `x` rounded to `n` places after the point (before it, if negative), a half
going to the even neighbour, and then to the nearest double. -/
def roundPlaces (n : Int) (d : Double) : Double :=
  match d.value? with
  | none => d
  | some x =>
    if 323 < n then d
    else if n < -308 then Double.zero d.signBit
    else
      let (num, den) := fractionOf x
      let (a, b) := shiftTen num den n
      let (p, q) := shiftTen (roundDiv a b) 1 (-n)
      Double.ofRatio d.signBit p q

end Reckon.Number
