import Reckon.Term.Numeral

/-
Terms: the values of formulas before they become plain numbers. Numerals are
computed at once; the circle constant, the base of the natural logarithm, the
imaginary unit and variables stay symbols, so that what cancels exactly does so.
-/
namespace Reckon

namespace Term

/-- The functions that a term may hold unevaluated. -/
inductive Head where
  | abs
  | sin | cos | tan | asin | acos | atan
  | sinh | cosh | tanh | asinh | acosh | atanh
  | log
  | factorial | gamma | binomial
  | modulo
  | cubeRoot
  deriving DecidableEq

/-- The place of a function in the order of terms. -/
def Head.rank : Head → Nat
  | .abs => 0
  | .sin => 1 | .cos => 2 | .tan => 3 | .asin => 4 | .acos => 5 | .atan => 6
  | .sinh => 7 | .cosh => 8 | .tanh => 9 | .asinh => 10 | .acosh => 11 | .atanh => 12
  | .log => 13
  | .factorial => 14 | .gamma => 15 | .binomial => 16
  | .modulo => 17
  | .cubeRoot => 18

end Term

open Term in
/-- A term. -/
inductive Term where
  | numeral (n : Numeral)
  /-- An infinity of the real line. -/
  | infinite (negative : Bool)
  /-- The infinity of the complex plane. -/
  | pole
  /-- A value that cannot be told. -/
  | nan
  /-- A value that is only known to lie between two others. -/
  | bounds (low high : Term)
  /-- A list in the place of a number. -/
  | tuple (items : List Term)
  | pi
  | e
  | i
  | variable (name : String)
  | sum (ts : List Term)
  | product (ts : List Term)
  | power (base exponent : Term)
  | apply (f : Head) (args : List Term)

namespace Term

instance : Inhabited Term := ⟨.nan⟩

def int (i : Int) : Term := .numeral (.exact i)

def rat (q : Rat) : Term := .numeral (.exact q)

/-- Exact zero, one and minus one. -/
def zero : Term := int 0
def one : Term := int 1
def minusOne : Term := int (-1)

def half : Term := rat (1 / 2)

/-! ## Order -/

/-- The place of a kind of term in the order of terms. -/
def kindRank : Term → Nat
  | .numeral (.exact _) => 0
  | .numeral (.rounded ..) => 1
  | .infinite _ => 2
  | .pole => 3
  | .nan => 4
  | .bounds .. => 5
  | .pi => 6
  | .e => 7
  | .i => 8
  | .variable _ => 9
  | .apply .. => 10
  | .power .. => 11
  | .product _ => 12
  | .sum _ => 13
  | .tuple _ => 14

/-- Order of binary fractions by their parts; equal only if they are the same. -/
def dyadicOrder (x y : Dyadic) : Ordering :=
  (compare (Number.parts x).1 (Number.parts y).1).then
    (compare (Number.parts x).2 (Number.parts y).2)

/-- Order of numerals; equal only if they are the same. -/
def numeralOrder : Numeral → Numeral → Ordering
  | .exact a, .exact b => (compare a.num b.num).then (compare a.den b.den)
  | .rounded p x, .rounded q y => (dyadicOrder x y).then (compare p q)
  | .exact _, .rounded .. => .lt
  | .rounded .., .exact _ => .gt

mutual

/-- A total order of terms: equal only if they are the same. -/
def order : Term → Term → Ordering
  | .numeral m, .numeral n => numeralOrder m n
  | .infinite a, .infinite b => compare a b
  | .variable a, .variable b => compare a b
  | .bounds a b, .bounds c d => (order a c).then (order b d)
  | .tuple as, .tuple bs => orderList as bs
  | .sum as, .sum bs => orderList as bs
  | .product as, .product bs => orderList as bs
  | .power a x, .power b y => (order a b).then (order x y)
  | .apply f as, .apply g bs => (compare f.rank g.rank).then (orderList as bs)
  | a, b => compare a.kindRank b.kindRank

def orderList : List Term → List Term → Ordering
  | [], [] => .eq
  | [], _ :: _ => .lt
  | _ :: _, [] => .gt
  | a :: as, b :: bs => (order a b).then (orderList as bs)

end

def same (a b : Term) : Bool := order a b == .eq

instance : BEq Term := ⟨same⟩

/-- A term put into its place in a sorted list. -/
def insertSorted (t : Term) : List Term → List Term
  | [] => [t]
  | u :: r => if order t u == .gt then u :: insertSorted t r else t :: u :: r

def sortTerms (ts : List Term) : List Term := ts.foldr insertSorted []

/-! ## What a term holds -/

mutual

/-- Some part of the term satisfies `p`. -/
def anyPart (p : Term → Bool) : Term → Bool
  | .sum ts => anyPartOf p ts
  | .product ts => anyPartOf p ts
  | .power b x => anyPart p b || anyPart p x
  | .apply _ ts => anyPartOf p ts
  | .bounds a b => p (.bounds a b) || anyPart p a || anyPart p b
  | .tuple ts => p (.tuple ts) || anyPartOf p ts
  | t => p t

/-- Some part of one of the terms satisfies `p`. -/
def anyPartOf (p : Term → Bool) : List Term → Bool
  | [] => false
  | t :: ts => anyPart p t || anyPartOf p ts

end

def hasVariable (t : Term) : Bool := anyPart (fun | .variable _ => true | _ => false) t

/-- The term is only known by bounds. -/
def isBounds : Term → Bool
  | .bounds .. => true
  | _ => false

/-- The term holds what is no number: a value that is only known by bounds, or a list. -/
def hasNoNumber (t : Term) : Bool := anyPart (fun t => t.isBounds || t matches .tuple _) t

def numeral? : Term → Option Numeral
  | .numeral n => some n
  | _ => none

def isOne : Term → Bool
  | .numeral n => n.isOne
  | _ => false

def isZero : Term → Bool
  | .numeral n => n.isZero
  | _ => false

def summands : Term → List Term
  | .sum ts => ts
  | t => [t]

def factors : Term → List Term
  | .product ts => ts
  | t => [t]

/-- A term as a numeral times the rest. -/
def splitNumeral : Term → Numeral × Term
  | .numeral n => (n, one)
  | .product (.numeral n :: [t]) => (n, t)
  | .product (.numeral n :: ts) => (n, .product ts)
  | t => (.exact 1, t)

/-- A numeral times a term that is no numeral and starts with none. -/
def attach (n : Numeral) (t : Term) : Term :=
  if n.isOne then t
  else
    match t with
    | .product ts => .product (.numeral n :: ts)
    | t => .product [.numeral n, t]

/-- A term as base and exponent. -/
def splitPower : Term → Term × Term
  | .power b x => (b, x)
  | t => (t, one)

end Term

end Reckon
