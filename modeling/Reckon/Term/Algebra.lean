import Reckon.Term.Approximation

/-
Sums, products and powers of terms. Like summands and like factors are gathered;
a numeral in front of a sum is multiplied in; powers of numerals are computed.
Every step keeps the value; where no step applies the term stays as it is.
-/
namespace Reckon.Term
open Number

/-! ## Numbers and infinities -/

/-- Sum of numerals and infinities. -/
def addNumbers : Term → Term → Term
  | .nan, _ => .nan
  | _, .nan => .nan
  | .pole, .pole => .nan
  | .pole, .infinite _ => .nan
  | .infinite _, .pole => .nan
  | .pole, _ => .pole
  | _, .pole => .pole
  | .infinite a, .infinite b => if a = b then .infinite a else .nan
  | .infinite a, _ => .infinite a
  | _, .infinite b => .infinite b
  | .numeral m, .numeral n => .numeral (m.add n)
  | _, _ => .nan

/-- Product of numerals and infinities. -/
def mulNumbers : Term → Term → Term
  | .nan, _ => .nan
  | _, .nan => .nan
  | .pole, t => if t.isZero then .nan else .pole
  | t, .pole => if t.isZero then .nan else .pole
  | .infinite a, .infinite b => .infinite (a != b)
  | .infinite a, .numeral n => if n.isZero then .nan else .infinite (a != n.isNegative)
  | .numeral n, .infinite a => if n.isZero then .nan else .infinite (a != n.isNegative)
  | .numeral m, .numeral n => .numeral (m.mul n)
  | _, _ => .nan

/-! ## Bounds -/

/-- The lower bound of a term; one that is not known by bounds is its own. -/
def low : Term → Term
  | .bounds a _ => a
  | t => t

/-- The upper bound of a term. -/
def high : Term → Term
  | .bounds _ b => b
  | t => t

/-- The first of two bounds lies above the second one. -/
def areReversed : Term → Term → Bool
  | .infinite s, _ => !s
  | _, .infinite s => s
  | a, b =>
    match realPoint? a, realPoint? b with
    | some x, some y => below y x
    | _, _ => false

/-- The value between two bounds in either order; zero between zeros. -/
def between (a b : Term) : Term :=
  if a.isZero && b.isZero then zero
  else if areReversed a b then .bounds b a
  else .bounds a b

/-- A function that is kept on a value known by bounds. -/
def callBetween (f : Head) (a b : Term) : Term := .bounds (.apply f [a]) (.apply f [b])

/-! ## Sums -/

/-- A sum under construction: the number and the other summands with their numerals. -/
structure Gathered where
  number : Term
  parts : List (Term × Numeral)

/-- A summand `n * t` put to its like. -/
def addPart (t : Term) (n : Numeral) : List (Term × Numeral) → List (Term × Numeral)
  | [] => [(t, n)]
  | (u, m) :: r => if same t u then (u, m.add n) :: r else (u, m) :: addPart t n r

/-- One more summand. -/
def Gathered.add (g : Gathered) : Term → Gathered
  | .numeral n => { g with number := addNumbers g.number (.numeral n) }
  | .infinite s => { g with number := addNumbers g.number (.infinite s) }
  | .pole => { g with number := addNumbers g.number .pole }
  | .nan => { g with number := .nan }
  | t => { g with parts := addPart (splitNumeral t).2 (splitNumeral t).1 g.parts }

/-- The summands that an infinite number leaves standing. -/
def keepBeside (number t : Term) : Bool :=
  match number with
  | .infinite _ => (realPoint? t).isNone
  | .pole => (point? t).isNone
  | _ => true

/-- A sum of sorted summands behind its number. -/
def assembleSum (number : Term) (parts : List Term) : Term :=
  match number.isZero, parts with
  | true, [] => number
  | true, [t] => t
  | true, ts => .sum ts
  | false, [] => number
  | false, ts => .sum (number :: ts)

/-- The sum of terms that are not only known by bounds. -/
def plainSum (ts : List Term) : Term :=
  let g := (ts.flatMap summands).foldl Gathered.add ⟨zero, []⟩
  match g.number with
  | .nan => .nan
  | number =>
    let parts := g.parts.filterMap fun (t, n) =>
      if n.isZero then none else some (attach n t)
    assembleSum number (sortTerms (parts.filter (keepBeside number)))

def sumOf (ts : List Term) : Term :=
  match ts with
  | [t] => t
  | ts =>
    let all := ts.flatMap summands
    if all.any isBounds then .bounds (plainSum (all.map low)) (plainSum (all.map high))
    else plainSum all

/-- A number plus a complex point. -/
def ofPoint (p : Nat) (z : Cartesian) : Term :=
  let re := Term.numeral (.settle p (roundTo p z.re))
  if Number.isZero z.im then re
  else sumOf [re, attach (.rounded p (roundTo p z.im)) .i]

/-! ## Products -/

/-- A product under construction: the number, how often `i` occurs, and the other
factors as bases with their exponents, an exponent being a numeral times a term. -/
structure Collected where
  number : Term
  turns : Nat
  parts : List (Term × Term × Numeral)

/-- A factor `b ^ (n * t)` put to its like. -/
def mulPart (b t : Term) (n : Numeral) :
    List (Term × Term × Numeral) → List (Term × Term × Numeral)
  | [] => [(b, t, n)]
  | (c, u, m) :: r => if same b c && same t u then (c, u, m.add n) :: r else (c, u, m) :: mulPart b t n r

/-- One more factor. -/
def Collected.mul (c : Collected) : Term → Collected
  | .numeral n => { c with number := mulNumbers c.number (.numeral n) }
  | .infinite s => { c with number := mulNumbers c.number (.infinite s) }
  | .pole => { c with number := mulNumbers c.number .pole }
  | .nan => { c with number := .nan }
  | .i => { c with turns := c.turns + 1 }
  | t =>
    let (b, x) := splitPower t
    { c with parts := mulPart b (splitNumeral x).2 (splitNumeral x).1 c.parts }

def exponentOf (n : Numeral) (t : Term) : Term := if t.isOne then .numeral n else attach n t

/-- A numeral times a term, the numeral multiplied into the one in front. -/
def scaleTerm (n : Numeral) (t : Term) : Term :=
  let (m, u) := splitNumeral t
  if u.isOne then .numeral (n.mul m) else attach (n.mul m) u

/-- The factors that an infinite number leaves standing, and whether the others
turn its sign. -/
def keepFactors (number : Term) (parts : List Term) : Term × List Term :=
  match number with
  | .infinite s =>
    let negatives := parts.filter isNegativeReal
    (.infinite (s != (negatives.length % 2 == 1)),
      parts.filter fun t => !isNegativeReal t && !isPositiveReal t)
  | .pole => (.pole, parts.filter fun t => (point? t).isNone)
  | n => (n, parts)

/-- A product of sorted factors behind its number. A numeral is multiplied into a
single sum. -/
def assembleProduct (number : Term) (parts : List Term) : Term :=
  match number, parts with
  | number, [] => number
  | .numeral n, [.sum ts] => if n.isOne then .sum ts else sumOf (ts.map (scaleTerm n))
  | number, [t] => if number.isOne then t else .product [number, t]
  | number, ts => if number.isOne then .product ts else .product (number :: ts)

/-! ## Powers of numerals -/

/-- The whole root of a natural number, if it has one. -/
def wholeRoot? (n k : Nat) : Option Nat :=
  let guess := (truncInt (powTo 64 (ofInt n) (ratTo 64 (1 / (k : Rat))))).toNat
  [guess - 1, guess, guess + 1].find? fun r => Nat.pow r k == n

/-- The exact root of a fraction, if it has one. -/
def exactRoot? (q : Rat) (k : Nat) : Option Rat := do
  let a ← wholeRoot? q.num.natAbs k
  let b ← wholeRoot? q.den k
  pure ((a : Rat) / (b : Rat))

/-- `q ^ r` for a fraction `r` that is no whole number: exact roots are taken, the
root of a negative number is imaginary. -/
def powerOfFraction (q r : Rat) : Term :=
  let root (q : Rat) : Term :=
    match exactRoot? q r.den with
    | some s => .numeral ((Numeral.exact s).powInt r.num)
    | none => .power (rat q) (rat r)
  if 0 ≤ q then root q
  else if r = 1 / 2 then
    match root (-q) with
    | .numeral n => if n.isOne then .i else .product [.numeral n, .i]
    | t => .product [.i, t]
  else .power (rat q) (rat r)

/-- A rounded numeral to the power of a number, rounded alike. -/
def powerOfRounded (p : Nat) (x y : Dyadic) : Term :=
  if isNegative x && !isWhole y then ofPoint p (Cartesian.powTo p (.real x) (.real y))
  else .numeral (.settle p (powTo p x y))

/-- A numeral that is not zero to the power of a numeral. -/
def powerOfNumerals : Numeral → Numeral → Term
  | .exact q, .exact r =>
    if r.den = 1 then .numeral ((Numeral.exact q).powInt r.num) else powerOfFraction q r
  | .rounded p x, .exact r =>
    if r.den = 1 then .numeral ((Numeral.rounded p x).powInt r.num)
    else powerOfRounded p x (ratTo p r)
  | .exact q, .rounded p y => powerOfRounded p (ratTo p q) y
  | .rounded p x, .rounded r y => powerOfRounded (max p r) x y

/-- Zero to a power: nothing becomes of it only if the sign of the exponent is known. -/
def powerOfZero (z : Numeral) (x : Term) : Term :=
  match x with
  | .numeral n =>
    if n.isZero then (match z with | .exact _ => one | .rounded p _ => .numeral (.rounded p Number.one))
    else if n.isNegative then .pole
    else .numeral z
  | x =>
    match point? x with
    | none => .power (.numeral z) x
    | some w =>
      if w.isReal then
        if isNegative w.re then .pole else if isPositive w.re then .numeral z else one
      else match z with
        | .exact _ => .nan
        | .rounded .. => .power (.numeral z) x

def powerOfInfinite (b x : Term) : Term :=
  match realPoint? x with
  | none => if hasVariable x then .power b x else .nan
  | some y =>
    if isNegative y then zero
    else if Number.isZero y then .nan
    else match b with
      | .infinite true => if isWhole y && (truncInt y) % 2 == 0 then .infinite false
          else if isWhole y then .infinite true else .pole
      | b => b

def powerToInfinite (negative : Bool) (b : Term) : Term :=
  match realPoint? b with
  | none => .nan
  | some x =>
    let big := below Number.one (absolute x)
    let small := below (absolute x) Number.one
    if (big && negative) || (small && !negative) then zero
    else if big || small then (if isNegative x then .pole else .infinite false)
    else .nan

def powerOfUnit (k : Int) : Term :=
  match (k % 4).toNat with
  | 0 => one
  | 1 => .i
  | 2 => minusOne
  | _ => .product [minusOne, .i]

/-! ## Products and powers in general -/

/-- The summand of greatest numeral decides the scale of a sum: `(c * s) ^ x` becomes
`c ^ x * s ^ x` where the numerals of `s` are at most one. -/
def greatestNumeral (ts : List Term) : Numeral :=
  ts.foldl (fun big t =>
    let n := (splitNumeral t).1.abs
    if n.isBelow big then big else n) (.exact (-1))

/-- A numeral divided by the greatest one; exactly one if they agree. -/
def divideBy (big n : Numeral) : Numeral :=
  if (n.sub big).isZero then .exact 1
  else if (n.add big).isZero then .exact (-1)
  else n.div big

/-- Some numeral of the sum is rounded. -/
def hasRounded (ts : List Term) : Bool :=
  ts.any fun t => match (splitNumeral t).1 with | .rounded .. => true | .exact _ => false

/-- The logarithm of `b` found as a divisor in a product: the other factors. -/
def withoutLog? (b : Term) (ts : List Term) : Option (List Term) :=
  let isLog : Term → Bool
    | .power (.apply .log [t]) (.numeral (.exact q)) => q == -1 &&
        (match t.numeral?, b.numeral? with
        | some m, some n => (m.sub n).isZero
        | _, _ => same t b)
    | _ => false
  if ts.any isLog then some (ts.filter fun t => !isLog t) else none

/-- The logarithm in a product of numbers and one logarithm: its argument and the
other factors. -/
def singleLog? : List Term → Option (Term × List Term)
  | [] => none
  | .apply .log [t] :: r => if r.all fun u => (realPoint? u).isSome then some (t, r) else none
  | u :: r =>
    if (realPoint? u).isSome then (singleLog? r).map fun (t, us) => (t, u :: us) else none

/-- `x` as a multiple of `i * π` by an exact numeral, if it is one. -/
def turnsOf? : Term → Option Rat
  | .product [.numeral (.exact q), .pi, .i] => some q
  | .product [.pi, .i] => some 1
  | _ => none

/-- `exp (q i π)` for quarter turns. -/
def expOfTurns? (q : Rat) : Option Term :=
  if (2 * q).den = 1 then some (powerOfUnit (2 * q).num) else none

mutual

def productWith : Nat → List Term → Term
  | 0, ts => .product ts
  | fuel + 1, ts =>
    match ts with
    | [t] => t
    | ts =>
      let all := ts.flatMap factors
      if all.any isBounds then
        let a := productWith fuel (one :: all.map low)
        let b := productWith fuel (one :: all.map high)
        if (all.filter isBounds).length = 1 then between a b else .bounds a b
      else
        let c := all.foldl Collected.mul ⟨one, 0, []⟩
        let c : Collected :=
          if c.turns % 4 < 2 then c else { c with number := mulNumbers c.number minusOne }
        match c.number with
        | .nan => .nan
        | number =>
          let powers := (powersWith fuel c.parts) ++ (if c.turns % 2 = 1 then [.i] else [])
          if powers.any fun | .product _ | .nan | .pole | .infinite _ => true | _ => false then
            productWith fuel (number :: powers)
          else
            let number := powers.foldl
              (fun n t => match t with | .numeral m => mulNumbers n (.numeral m) | _ => n) number
            let parts := powers.filter fun | .numeral _ => false | _ => true
            let (number, parts) := keepFactors number parts
            if number.isZero then number
            else assembleProduct number (sortTerms parts)

/-- The powers of a product, those with exponent zero left out. -/
def powersWith : Nat → List (Term × Term × Numeral) → List Term
  | _, [] => []
  | 0, parts => parts.map fun (b, t, n) => .power b (exponentOf n t)
  | fuel + 1, (b, t, n) :: r =>
    if n.isZero then powersWith fuel r
    else powerWith fuel b (exponentOf n t) :: powersWith fuel r

def powerWith : Nat → Term → Term → Term
  | 0, b, x => .power b x
  | fuel + 1, b, x =>
    match b, x with
    | .bounds l h, x => if x.isZero then one else .bounds (.power l x) (.power h x)
    | b, .bounds l h => .bounds (.power b l) (.power b h)
    | _, .pole => .nan
    | .nan, x => if x.isZero && (match x with | .numeral (.exact _) => true | _ => false) then one else .nan
    | _, .nan => .nan
    | b, .infinite s => match b with
      | .e => if s then zero else .infinite false
      | b => powerToInfinite s b
    | b, .numeral (.exact q) =>
      if q = 0 then one
      else if q = 1 then b
      else powerOfBase fuel b (.numeral (.exact q))
    | b, x =>
      match b with
      | .e => expWith fuel x
      | b =>
        match x with
        | .product ts =>
          match withoutLog? b ts with
          | some rest => expWith fuel (productWith fuel (one :: rest))
          | none => powerOfBase fuel b x
        | .power (.apply .log [_]) _ =>
          match withoutLog? b [x] with
          | some _ => .e
          | none => powerOfBase fuel b x
        | x => powerOfBase fuel b x

/-- `b ^ x` by the kind of the base. -/
def powerOfBase : Nat → Term → Term → Term
  | 0, b, x => .power b x
  | fuel + 1, b, x =>
    match b, x with
    | .e, x => expWith fuel x
    | .pole, x => powerOfInfinite .pole x
    | .infinite s, x => powerOfInfinite (.infinite s) x
    | .i, .numeral (.exact q) => if q.den = 1 then powerOfUnit q.num else .power .i x
    | .numeral n, x =>
      if n.isZero then powerOfZero n x
      else if n.isOne then one
      else match x with
        | .numeral m => powerOfNumerals n m
        | x => .power (.numeral n) x
    | .power c y, .numeral m =>
      let joins : Bool :=
        m.int?.isSome ||
          (match y with
          | .numeral n => (n.abs.isBelow (.exact 1)) || isPositiveReal c
          | y => (realPoint? y).isSome && isPositiveReal c)
      if joins then powerWith fuel c (productWith fuel [y, .numeral m]) else .power b x
    | .product ts, .numeral m =>
      if m.int?.isSome then productWith fuel (ts.map fun t => powerWith fuel t (.numeral m))
      else
        match ts with
        | .numeral n :: rest =>
          let inner := assembleProduct one rest
          if n.isPositive then
            productWith fuel [powerWith fuel (.numeral n) x, powerWith fuel inner x]
          else if (n.add (.exact 1)).isZero then .power b x
          else
            productWith fuel [powerWith fuel (.numeral n.neg) x,
              .power (scaleTerm (.exact (-1)) inner) x]
        | ts =>
          let (positive, others) := ts.partition isPositiveReal
          if positive.isEmpty then .power b x
          else
            let rest := if others.isEmpty then [] else [powerWith fuel (assembleProduct one others) x]
            productWith fuel (positive.map (fun t => powerWith fuel t x) ++ rest)
    | .sum ts, .numeral m =>
      let big := greatestNumeral ts
      if hasRounded ts && !(m.abs.sub (.exact 1)).isZero && !(big.sub (.exact 1)).isZero
          && !(m.isExact && (point? b).isSome) then
        let scaled := ts.map fun t =>
          let (n, u) := splitNumeral t
          if u.isOne then .numeral (divideBy big n) else attach (divideBy big n) u
        productWith fuel [powerOfBase fuel (.numeral big) x, .power (sumOf scaled) x]
      else .power b x
    | b, x => .power b x

def expWith : Nat → Term → Term
  | 0, x => .power .e x
  | fuel + 1, x =>
    match x with
    | .numeral (.exact q) => if q = 0 then one else if q = 1 then .e else .power .e x
    | .numeral (.rounded p y) =>
      if Number.isZero y then one else .numeral (.settle p (roundTo p (expTo (p + extraDigits) y)))
    | .infinite s => if s then zero else .infinite false
    | .pole => .nan
    | .nan => .nan
    | .bounds l h => .bounds (.power .e l) (.power .e h)
    | .apply .log [t] => t
    | .product ts =>
      match (turnsOf? x).bind expOfTurns? with
      | some t => t
      | none =>
        match singleLog? ts with
        | some (t, rest) => powerWith fuel t (productWith fuel rest)
        | none => .power .e x
    | .sum ts => expOfSum fuel ts
    | x => .power .e x

/-- `exp (t₁ + t₂ + …)`: the summands whose exponential is no exponential again
become factors. -/
def expOfSum : Nat → List Term → Term
  | 0, ts => .power .e (.sum ts)
  | fuel + 1, ts =>
    let parts := ts.map fun t => (t, if t.isOne then .power .e t else expWith fuel t)
    let stays := parts.filterMap fun (t, v) => match v with
      | .power .e _ => some t
      | .e => some t
      | _ => none
    let out := parts.filterMap fun (_, v) => match v with
      | .power .e _ => none
      | .e => none
      | v => some v
    if out.isEmpty then .power .e (.sum ts)
    else
      match stays with
      | [] => productWith fuel out
      | stays => productWith fuel (out ++ [.power .e (sumOf stays)])

end

/-- Depth to which powers are taken apart. -/
def depth : Nat := 24

def productOf (ts : List Term) : Term := productWith depth ts

def powerOf (b x : Term) : Term := powerWith depth b x

def expOf (x : Term) : Term := expWith depth x

def negate (t : Term) : Term := productOf [minusOne, t]

/-- Sum, difference, product and quotient of two terms; numerals are computed
directly. -/
def add (a b : Term) : Term :=
  match a, b with
  | .numeral m, .numeral n => .numeral (m.add n)
  | a, b => sumOf [a, b]

def subtract (a b : Term) : Term :=
  match a, b with
  | .numeral m, .numeral n => .numeral (m.sub n)
  | a, b => sumOf [a, negate b]

def multiply (a b : Term) : Term :=
  match a, b with
  | .numeral m, .numeral n => .numeral (m.mul n)
  | a, b => productOf [a, b]

def divide (a b : Term) : Term :=
  match a, b with
  | .numeral m, .numeral n =>
    if n.isZero then (if m.isZero then .nan else .pole) else .numeral (m.div n)
  | .numeral _, .infinite _ => zero
  | a, b => productOf [a, powerOf b minusOne]

end Reckon.Term
