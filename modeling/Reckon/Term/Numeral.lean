import Reckon.Number.Elementary

/-
Numerals: exact fractions, and binary fractions that were rounded to a number of
digits. What is computed with a rounded numeral is rounded to as many digits as
its most precise operand; a sum or product that vanishes is the exact zero.
-/
namespace Reckon.Term
open Number

/-- A numeral. -/
inductive Numeral where
  | exact (q : Rat)
  | rounded (p : Nat) (x : Dyadic)
  deriving DecidableEq

namespace Numeral

/-- A rounded result; zero is exact. -/
def settle (p : Nat) (x : Dyadic) : Numeral := if isZero x then .exact 0 else .rounded p x

/-- The numeral as a binary fraction of `p` digits; rounded numerals as they are. -/
def toDyadic (p : Nat) : Numeral → Dyadic
  | .exact q => ratTo p q
  | .rounded _ x => x

/-- Digits that an operation on two numerals keeps; nothing if both are exact. -/
def digits? : Numeral → Numeral → Option Nat
  | .exact _, .exact _ => none
  | .exact _, .rounded p _ => some p
  | .rounded p _, .exact _ => some p
  | .rounded p _, .rounded q _ => some (max p q)

def isZero : Numeral → Bool
  | .exact q => q == 0
  | .rounded _ x => Number.isZero x

def isExact : Numeral → Bool
  | .exact _ => true
  | .rounded .. => false

def isOne : Numeral → Bool
  | .exact q => q == 1
  | .rounded .. => false

def isNegative : Numeral → Bool
  | .exact q => q < 0
  | .rounded _ x => Number.isNegative x

def isPositive (n : Numeral) : Bool := !n.isZero && !n.isNegative

/-- An exact whole number. -/
def int? : Numeral → Option Int
  | .exact q => if q.den = 1 then some q.num else none
  | .rounded .. => none

/-- A whole number, exact or rounded. -/
def whole? : Numeral → Option Int
  | .exact q => if q.den = 1 then some q.num else none
  | .rounded _ x => if isWhole x && magnitude x < 4096 then some (truncInt x) else none

def neg : Numeral → Numeral
  | .exact q => .exact (-q)
  | .rounded p x => .rounded p (-x)

def abs (n : Numeral) : Numeral := if n.isNegative then n.neg else n

def add (m n : Numeral) : Numeral :=
  match m, n with
  | .exact a, .exact b => .exact (a + b)
  | m, n =>
    let p := (digits? m n).getD 0
    settle p (addTo p (m.toDyadic p) (n.toDyadic p))

def sub (m n : Numeral) : Numeral := m.add n.neg

def mul (m n : Numeral) : Numeral :=
  match m, n with
  | .exact a, .exact b => .exact (a * b)
  | m, n =>
    let p := (digits? m n).getD 0
    settle p (mulTo p (m.toDyadic p) (n.toDyadic p))

/-- Quotient by a numeral that is not zero. -/
def div (m n : Numeral) : Numeral :=
  match m, n with
  | .exact a, .exact b => .exact (a / b)
  | m, n =>
    let p := (digits? m n).getD 0
    settle p (divTo p (m.toDyadic p) (n.toDyadic p))

/-- `n ^ k` for a whole exponent; the base is not zero if the exponent is negative. -/
def powInt (n : Numeral) (k : Int) : Numeral :=
  match n with
  | .exact q => .exact (if 0 ≤ k then q ^ k.toNat else (q⁻¹) ^ (-k).toNat)
  | .rounded p x =>
    if Number.isZero x then (if k = 0 then .rounded p one else n)
    else settle p (powIntTo p x k)

/-- Order of numerals by value; exact ones are compared with rounded ones as fractions. -/
def isBelow (m n : Numeral) : Bool := (m.sub n).isNegative

/-- Remainder of exact fractions, with the sign of the divisor. -/
def modRat (a b : Rat) : Rat := a - b * (a / b).floor

/-- Remainder of binary fractions, with the sign of the divisor. -/
def modDyadic (x y : Dyadic) : Dyadic :=
  let (m, e) := parts x
  let (n, f) := parts y
  if signum x = signum y && magnitude x < magnitude y then x
  else
    let base := min e f
    scaled ((m <<< (e - base).toNat).fmod (n <<< (f - base).toNat)) base

/-- The remainder, with the sign of the divisor; nothing if the divisor is zero. A
quotient of rounded numerals that rounds to a whole number leaves a rounded zero. -/
def mod? (m n : Numeral) : Option Numeral :=
  if n.isZero then none
  else
    match m, n with
    | .exact a, .exact b => some (.exact (modRat a b))
    | .exact a, .rounded p y => some (settle p (ratTo p (modRat a (toRational y))))
    | .rounded p x, .exact b =>
      if b.den ≠ 1 then some (settle p (ratTo p (modRat (toRational x) b)))
      else some (settle p (roundTo p (modDyadic x (ofInt b.num))))
    | .rounded p x, .rounded q y =>
      let d := max p q
      if isWhole (divTo d x y) then some (.rounded d .zero)
      else some (settle d (roundTo d (modDyadic x y)))

end Numeral

end Reckon.Term
