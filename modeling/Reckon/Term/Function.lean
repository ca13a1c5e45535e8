import Reckon.Term.Algebra

/-
Functions of terms. A function of a rounded numeral is worked out; special values
at zero, at multiples of `π` and at the infinities are exact; a function and its
inverse cancel. In all other cases the term keeps the call.
-/
namespace Reckon.Term
open Number

/-! ## The shape of an argument -/

/-- The square root of a term. -/
def sqrtOf (t : Term) : Term := powerOf t half

/-- The other factors of a term that has the factor `i` once. -/
def overUnit? : Term → Option Term
  | .i => some one
  | .product ts =>
    if (ts.filter (same .i)).length = 1 then
      some (assembleProduct one (ts.filter fun t => !same .i t))
    else none
  | _ => none

/-- The fraction of a binary fraction above zero is a power of two or nothing. -/
def hasPlainFraction (x : Dyadic) : Bool :=
  let f := absolute x - ofInt (floorInt (absolute x))
  Number.isZero f || (parts f).1 == 1

/-- The numeral `c` of a multiple `c * π`. -/
def piNumeral? : Term → Option Numeral
  | .pi => some (.exact 1)
  | .product [.numeral n, .pi] => some n
  | _ => none

/-- The exact multiple of `π` that a term is, reduced to less than two. A rounded
numeral counts as exact if its fraction is plain. -/
def piMultiple? (t : Term) : Option Rat :=
  match piNumeral? t with
  | some (.exact q) => some (Numeral.modRat q 2)
  | some (.rounded _ x) =>
    if hasPlainFraction x then some (Numeral.modRat (toRational x) 2) else none
  | none => none

/-- Real and imaginary part of a sum of two numerals, one with the factor `i`, with
the digits to keep; one of them has to be rounded. -/
def complexParts? : Term → Option (Nat × Numeral × Numeral)
  | .sum [.numeral a, .product [.numeral b, .i]] => (Numeral.digits? a b).map fun p => (p, a, b)
  | .sum [.numeral (.rounded p x), .i] => some (p, .rounded p x, .exact 1)
  | _ => none

/-- The term, if it is a rounded number: its digits and its place in the plane. -/
def roundedPoint? : Term → Option (Nat × Cartesian)
  | .numeral (.rounded p x) => some (p, .real x)
  | t => (complexParts? t).map fun (p, a, b) => (p, ⟨a.toDyadic (p + 8), b.toDyadic (p + 8)⟩)

/-- The call of a function of one argument: worked out for a rounded number, kept
otherwise. -/
def callNumber (f : Head) (t : Term) : Term :=
  match roundedPoint? t with
  | some (p, z) =>
    match f.value? (p + extraDigits) [z] with
    | some w => ofPoint p w
    | none => .nan
  | none => .apply f [t]

/-- The numeral in front of the term is negative. -/
def startsNegative (t : Term) : Bool := (splitNumeral t).1.isNegative

/-! ## Sine, cosine and tangent -/

/-- Half the root of a whole number. -/
def halfRoot (n : Int) : Term := .product [half, .power (int n) half]

/-- `sin (q π)` for `q` from zero to below two, where it has a simple form. -/
def sinAt? (q : Rat) : Option Term :=
  if 1 ≤ q then (first (q - 1)).map negate else first q
where
  /-- The values of the first half turn. -/
  first (q : Rat) : Option Term :=
    if q = 0 then some zero
    else if q = 1 / 6 || q = 5 / 6 then some half
    else if q = 1 / 4 || q = 3 / 4 then some (halfRoot 2)
    else if q = 1 / 3 || q = 2 / 3 then some (halfRoot 3)
    else if q = 1 / 2 then some one
    else none

def sinOf (t : Term) : Term :=
  match t with
  | .infinite _ => .bounds minusOne one
  | .bounds a b => callBetween .sin a b
  | .pole | .nan => .nan
  | .numeral n => if n.isZero then zero else callNumber .sin t
  | .apply .asin [u] => u
  | .apply .acos [u] => sqrtOf (subtract one (powerOf u (int 2)))
  | .apply .atan [u] => divide u (sqrtOf (add one (powerOf u (int 2))))
  | t =>
    match overUnit? t with
    | some u => productOf [.i, callNumber .sinh u]
    | none =>
      match (piMultiple? t).bind sinAt? with
      | some v => v
      | none => if startsNegative t then negate (.apply .sin [negate t]) else callNumber .sin t

def cosOf (t : Term) : Term :=
  match t with
  | .infinite _ => .bounds minusOne one
  | .bounds a b => callBetween .cos a b
  | .pole | .nan => .nan
  | .numeral n => if n.isZero then one else callNumber .cos t
  | .apply .acos [u] => u
  | .apply .asin [u] => sqrtOf (subtract one (powerOf u (int 2)))
  | .apply .atan [u] => divide one (sqrtOf (add one (powerOf u (int 2))))
  | t =>
    match overUnit? t with
    | some u => callNumber .cosh u
    | none =>
      match (piMultiple? t).bind fun q => sinAt? (Numeral.modRat (q + 1 / 2) 2) with
      | some v => v
      | none => if startsNegative t then .apply .cos [negate t] else callNumber .cos t

def tanOf (t : Term) : Term :=
  match t with
  | .infinite _ => .bounds (.infinite true) (.infinite false)
  | .bounds a b => callBetween .tan a b
  | .pole | .nan => .nan
  | .numeral n => if n.isZero then zero else callNumber .tan t
  | .apply .atan [u] => u
  | .apply .asin [u] => divide u (sqrtOf (subtract one (powerOf u (int 2))))
  | .apply .acos [u] => divide (sqrtOf (subtract one (powerOf u (int 2)))) u
  | t =>
    match overUnit? t with
    | some u => productOf [.i, callNumber .tanh u]
    | none =>
      match piMultiple? t with
      | some q =>
        match sinAt? q, sinAt? (Numeral.modRat (q + 1 / 2) 2) with
        | some s, some c => if c.isZero then .pole else divide s c
        | _, _ => .apply .tan [t]
      | none => if startsNegative t then negate (.apply .tan [negate t]) else callNumber .tan t

/-! ## Inverse trigonometric functions -/

def quarter : Term := .product [half, .pi]

def asinOf (t : Term) : Term :=
  match t with
  | .infinite s => .product [.infinite (!s), .i]
  | .pole => .pole
  | .nan => .nan
  | .bounds a b => callBetween .asin a b
  | .numeral n =>
    if n.isZero then zero
    else if n.isOne then quarter
    else if n.neg.isOne then negate quarter
    else callNumber .asin t
  | t => if startsNegative t then negate (callNumber .asin (negate t)) else callNumber .asin t

def acosOf (t : Term) : Term :=
  match t with
  | .infinite s => .product [.infinite s, .i]
  | .pole => .pole
  | .nan => .nan
  | .bounds a b => callBetween .acos a b
  | .numeral n =>
    if n.isZero then quarter
    else if n.isOne then zero
    else if n.neg.isOne then .pi
    else callNumber .acos t
  | t => callNumber .acos t

def atanOf (t : Term) : Term :=
  match t with
  | .infinite s => if s then negate quarter else quarter
  | .pole => .bounds (negate quarter) quarter
  | .bounds a b => callBetween .atan a b
  | .nan => .nan
  | .numeral n => if n.isZero then zero else callNumber .atan t
  | t =>
    match overUnit? t with
    | some u =>
      match u with
      | .numeral n =>
        if n.abs.isOne then productOf [.i, .infinite n.isNegative]
        else productOf [.i, callNumber .atanh u]
      | u => productOf [.i, callNumber .atanh u]
    | none => if startsNegative t then negate (callNumber .atan (negate t)) else callNumber .atan t

/-! ## Hyperbolic functions -/

def sinhOf (t : Term) : Term :=
  match t with
  | .infinite s => .infinite s
  | .pole | .nan => .nan
  | .bounds a b => callBetween .sinh a b
  | .numeral n => if n.isZero then zero else callNumber .sinh t
  | .apply .asinh [u] => u
  | .apply .acosh [u] => productOf [sqrtOf (subtract u one), sqrtOf (add u one)]
  | .apply .atanh [u] => divide u (sqrtOf (subtract one (powerOf u (int 2))))
  | t =>
    match overUnit? t with
    | some u => productOf [.i, sinOf u]
    | none => if startsNegative t then negate (callNumber .sinh (negate t)) else callNumber .sinh t

def coshOf (t : Term) : Term :=
  match t with
  | .infinite _ => .infinite false
  | .pole | .nan => .nan
  | .bounds a b => callBetween .cosh a b
  | .numeral n => if n.isZero then one else callNumber .cosh t
  | .apply .asinh [u] => sqrtOf (add one (powerOf u (int 2)))
  | .apply .acosh [u] => u
  | .apply .atanh [u] => divide one (sqrtOf (subtract one (powerOf u (int 2))))
  | t =>
    match overUnit? t with
    | some u => cosOf u
    | none => if startsNegative t then callNumber .cosh (negate t) else callNumber .cosh t

def tanhOf (t : Term) : Term :=
  match t with
  | .infinite s => if s then minusOne else one
  | .pole | .nan => .nan
  | .bounds a b => callBetween .tanh a b
  | .numeral n => if n.isZero then zero else callNumber .tanh t
  | .apply .asinh [u] => divide u (sqrtOf (add one (powerOf u (int 2))))
  | .apply .acosh [u] => divide (productOf [sqrtOf (subtract u one), sqrtOf (add u one)]) u
  | .apply .atanh [u] => u
  | t =>
    match overUnit? t with
    | some u => productOf [.i, tanOf u]
    | none => if startsNegative t then negate (callNumber .tanh (negate t)) else callNumber .tanh t

def asinhOf (t : Term) : Term :=
  match t with
  | .infinite s => .infinite s
  | .pole => .pole
  | .nan => .nan
  | .bounds a b => callBetween .asinh a b
  | .numeral n => if n.isZero then zero else callNumber .asinh t
  | t =>
    match overUnit? t with
    | some u => productOf [.i, asinOf u]
    | none => if startsNegative t then negate (callNumber .asinh (negate t)) else callNumber .asinh t

def acoshOf (t : Term) : Term :=
  match t with
  | .infinite _ => .infinite false
  | .pole => .pole
  | .nan => .nan
  | .bounds a b => callBetween .acosh a b
  | .numeral n =>
    if n.isZero then .product [half, .pi, .i]
    else if n.isOne then zero
    else if n.neg.isOne then .product [.pi, .i]
    else callNumber .acosh t
  | t => callNumber .acosh t

def atanhOf (t : Term) : Term :=
  match t with
  | .infinite s => if s then .product [half, .pi, .i] else negate (.product [half, .pi, .i])
  | .pole => .bounds (productOf [.i, negate quarter]) (productOf [.i, quarter])
  | .bounds a b => callBetween .atanh a b
  | .nan => .nan
  | .numeral n =>
    if n.isZero then zero
    else if (n.abs.sub (.exact 1)).isZero then .infinite n.isNegative
    else callNumber .atanh t
  | t =>
    match overUnit? t with
    | some u => productOf [.i, atanOf u]
    | none => if startsNegative t then negate (callNumber .atanh (negate t)) else callNumber .atanh t

/-! ## Logarithm and absolute value -/

/-- `log t`, the natural logarithm. -/
def logOf (t : Term) : Term :=
  let turned : Term := .product [.pi, .i]
  match t with
  | .infinite _ => .infinite false
  | .pole => .pole
  | .nan => .nan
  | .bounds a b => callBetween .log a b
  | .e => one
  | .i => .product [half, .pi, .i]
  | .numeral n =>
    if n.isZero then .pole
    else if n.isOne then zero
    else if n.isNegative then
      sumOf [turned, if n.neg.isOne then zero else callNumber .log (.numeral n.neg)]
    else callNumber .log t
  | .power .e u => if (realPoint? u).isSome then u else .apply .log [t]
  | .product [.numeral (.exact q), .i] =>
    let angle : Term := .product [rat (if q < 0 then -1 / 2 else 1 / 2), .pi, .i]
    let size := if q < 0 then -q else q
    sumOf [angle, if size = 1 then zero else .apply .log [rat size]]
  | t =>
    if isNegativeReal t then sumOf [turned, callNumber .log (negate t)] else callNumber .log t

/-- A remainder keeps the sign of its divisor: the sign, if the divisor has one. -/
def remainderSign? : Term → Option Bool
  | .apply .modulo [_, q] => (realPoint? q).map isNegative
  | _ => none

/-- `|t|` of a term that is no product. -/
def absOfOne (t : Term) : Term :=
  match t with
  | .numeral n => .numeral n.abs
  | .infinite _ | .pole => .infinite false
  | .nan => .nan
  | .bounds a b => callBetween .abs a b
  | .i => one
  | .apply .abs [u] => .apply .abs [u]
  | t =>
    match realPoint? t with
    | some x => if isNegative x then negate t else t
    | none =>
      match remainderSign? t with
      | some s => if s then negate t else t
      | none =>
        match complexParts? t with
        | some (_, a, b) => sqrtOf (.numeral ((a.mul a).add (b.mul b)))
        | none => .apply .abs [t]

def absOf (t : Term) : Term :=
  match t with
  | .product ts =>
    match realPoint? t with
    | some x => if isNegative x then negate t else t
    | none =>
      let parts := ts.map fun u => (u, absOfOne u)
      let known := parts.filterMap fun (_, v) => match v with
        | .apply .abs _ => none
        | v => some v
      let unknown := parts.filterMap fun (_, v) => match v with
        | .apply .abs [u] => some u
        | _ => none
      if unknown.isEmpty then productOf (one :: known)
      else productOf (.apply .abs [assembleProduct one unknown] :: known)
  | t => absOfOne t

/-! ## Counting -/

/-- `t!`; nothing at a pole that is met by a rounded numeral. -/
def factorialOf (t : Term) : Option Term :=
  match t with
  | .numeral n =>
    if n.isZero then some one
    else
      match n.int? with
      | some k => some (if k < 0 then .pole else int (Number.factorial k.toNat))
      | none =>
        match roundedPoint? t with
        | some (p, z) =>
          (Head.value? (p + extraDigits) .factorial [z]).map (ofPoint p)
        | none => some (.apply .factorial [t])
  | .infinite false => some (.infinite false)
  | .bounds a b => some (callBetween .factorial a b)
  | t =>
    match roundedPoint? t with
    | some (p, z) => (Head.value? (p + extraDigits) .factorial [z]).map (ofPoint p)
    | none => some (.apply .factorial [t])

def gammaOf (t : Term) : Option Term :=
  match t with
  | .numeral n =>
    match n.whole? with
    | some k => if k ≤ 0 then some .pole else factorialOf (.numeral (n.sub (.exact 1)))
    | none => some (callNumber .gamma t)
  | .infinite false => some (.infinite false)
  | .nan => some .nan
  | .bounds a b => some (callBetween .gamma a b)
  | t => some (callNumber .gamma t)

/-- The product `(n - k + 1) … n / k!` for a whole `k`. -/
def fallingOver : Nat → Numeral → Numeral → Nat → Numeral
  | 0, _, acc, _ => acc
  | left + 1, d, acc, j =>
    let d := d.add (.exact 1)
    fallingOver left d ((acc.mul d).div (.exact (j : Rat))) (j + 1)

/-- The number of choices of `k` out of `n`. -/
def choose (n k : Nat) : Nat :=
  (List.range k).foldl (fun acc j => acc * (n - j) / (j + 1)) 1

/-- `Γ(n + 1) / (Γ(k + 1) Γ(n - k + 1))` -/
def gammaRatio (n k : Term) : Option Term := do
  let a ← gammaOf (add n one)
  let b ← gammaOf (add k one)
  let c ← gammaOf (add (subtract n k) one)
  pure (divide a (multiply b c))

/-- The number of combinations of `k` out of `n`. -/
def binomialOf (n k : Term) : Option Term :=
  let d := subtract n k
  let nWhole := n.numeral?.bind Numeral.int?
  let nSign : Option Dyadic := realPoint? n
  let nonneg := nSign.any fun x => !isNegative x
  let noWhole := match n with
    | .numeral (.rounded _ x) => !Number.isZero x
    | .numeral (.exact q) => q.den ≠ 1
    | _ => false
  let loose := nonneg || noWhole
  if k.isZero || (loose && d.isZero) then some one
  else if (subtract k one).isZero || (loose && (subtract d one).isZero) then some n
  else
    match k.numeral?.bind Numeral.int? with
    | some j =>
      if j < 0 || (nonneg && nWhole.isSome && isNegativeReal d) then some zero
      else
        match nWhole with
        | some m =>
          if 0 ≤ m then some (int (choose m.toNat j.toNat))
          else
            let start := (Numeral.exact m).sub (.exact (j - 1))
            some (.numeral (fallingOver (j.toNat - 1) start start 2))
        | none =>
          match n with
          | .numeral m =>
            let start := m.sub (.exact (j - 1))
            some (.numeral (fallingOver (j.toNat - 1) start start 2))
          | n => if hasVariable n then some (.apply .binomial [n, k]) else gammaRatio n k
    | none =>
      if nWhole.any (· < 0) then some .pole
      else if hasVariable k then some (.apply .binomial [n, k])
      else match k with
        | .bounds a b => some (.bounds (.apply .binomial [n, a]) (.apply .binomial [n, b]))
        | k => gammaRatio n k

/-- The number of ordered choices of `k` out of `n`. -/
def permutationsOf (n k : Term) : Option Term := do
  let a ← factorialOf n
  let b ← factorialOf (subtract n k)
  pure (divide a b)

/-! ## Remainder and cube root -/

/-- The remainder `p mod q`, with the sign of the divisor; nothing for divisor zero. -/
def moduloOf (p q : Term) : Option Term :=
  let isInfinite : Term → Bool
    | .infinite _ | .pole => true
    | _ => false
  match p, q with
  | .numeral m, .numeral n => (m.mod? n).map .numeral
  | p, q =>
    if q.isZero then none
    else match p, q with
    | .bounds a b, q => some (.bounds (.apply .modulo [a, q]) (.apply .modulo [b, q]))
    | p, .bounds a b => some (.bounds (.apply .modulo [p, a]) (.apply .modulo [p, b]))
    | .nan, _ => some .nan
    | _, .nan => some .nan
    | p, q =>
      if isInfinite p || isInfinite q then some .nan
      else if p.isZero || same p q || same p (negate q) then some zero
      else
        match realPoint? p, realPoint? q with
        | some x, some y =>
          let k := floorInt (divTo workingDigits x y)
          some (sumOf [p, scaleTerm (.exact (-k)) q])
        | _, _ => some (.apply .modulo [p, q])

/-- The cube root: real for a real number, the principal one for other numbers. -/
def cubeRootTerm (t : Term) : Term :=
  let third : Term := rat (1 / 3)
  if hasVariable t then .apply .cubeRoot [t]
  else
    match t with
    | .infinite s => .infinite s
    | .bounds a b => callBetween .cubeRoot a b
    | t =>
      match realPoint? t with
      | some x =>
        if Number.isZero x then zero
        else if isNegative x then negate (powerOf (negate t) third)
        else powerOf t third
      | none =>
        match remainderSign? t with
        | some s =>
          -- a remainder that has no value keeps its sign all the same
          if s then negate (powerOf (negate t) third) else powerOf t third
        | none => powerOf t third

/-- The value of a function at terms; nothing if it cannot be formed. -/
def Head.eval? : Head → List Term → Option Term
  | .abs, [t] => some (absOf t)
  | .sin, [t] => some (sinOf t)
  | .cos, [t] => some (cosOf t)
  | .tan, [t] => some (tanOf t)
  | .asin, [t] => some (asinOf t)
  | .acos, [t] => some (acosOf t)
  | .atan, [t] => some (atanOf t)
  | .sinh, [t] => some (sinhOf t)
  | .cosh, [t] => some (coshOf t)
  | .tanh, [t] => some (tanhOf t)
  | .asinh, [t] => some (asinhOf t)
  | .acosh, [t] => some (acoshOf t)
  | .atanh, [t] => some (atanhOf t)
  | .log, [t] => some (logOf t)
  | .factorial, [t] => factorialOf t
  | .gamma, [t] => gammaOf t
  | .binomial, [n, k] => binomialOf n k
  | .modulo, [p, q] => moduloOf p q
  | .cubeRoot, [t] => some (cubeRootTerm t)
  | _, _ => none

/-! ## Putting values for variables -/

mutual

/-- The term with a value put for a variable, everything worked out anew; nothing if
that cannot be formed. -/
def substitute (name : String) (value : Term) : Term → Option Term
  | .variable n => some (if n = name then value else .variable n)
  | .sum ts => (substituteAll name value ts).map sumOf
  | .product ts => (substituteAll name value ts).map productOf
  | .power b x => do
    let b ← substitute name value b
    let x ← substitute name value x
    pure (powerOf b x)
  | .apply f ts => do f.eval? (← substituteAll name value ts)
  | .bounds a b => do
    let a ← substitute name value a
    let b ← substitute name value b
    pure (between a b)
  | .tuple ts => (substituteAll name value ts).map .tuple
  | t => some t

def substituteAll (name : String) (value : Term) : List Term → Option (List Term)
  | [] => some []
  | t :: ts => do
    let t ← substitute name value t
    let ts ← substituteAll name value ts
    pure (t :: ts)

end

end Reckon.Term
