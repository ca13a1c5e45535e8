import Reckon.Fault
import Reckon.Formula.Function
import Reckon.Formula.Tree
import Reckon.Number.Gamma
import Reckon.Number.Decimal

/-
The check in front of the evaluator. It walks a tree, refuses every construct that
is no arithmetic, and follows the values it knows in double precision: a value too
large for a double is refused before anything exact is computed. The walk goes down by
calls inside one another, of which the stack takes only so many; where it is full the
check breaks down.
-/
namespace Reckon.Formula
open Number

/-- What is known of a value. -/
inductive Estimate where
  /-- The value, a finite double. -/
  | known (x : Dyadic)
  /-- There is no real value, or it is not known. -/
  | unknown
  /-- The value is too large for a double. -/
  | tooLarge
  deriving DecidableEq

namespace Estimate

/-- A value rounded to a double. -/
def ofDyadic (x : Dyadic) : Estimate :=
  match toDouble? x with
  | some y => .known y
  | none => .tooLarge

/-- A value that was worked out as a double. -/
def ofDouble (d : Double) : Estimate :=
  match d.value? with
  | some y => .known y
  | none => .tooLarge

/-- Digits that the values of functions are worked out with. -/
def digits : Nat := 80

/-! ## Operators -/

/-- Quotient; unknown for divisor zero. -/
def quotient (x y : Dyadic) : Estimate :=
  if isZero y then .unknown
  else ofDouble (Double.ofQuotient (isNegative x != isNegative y) x y)

/-- The remainder of doubles, with the sign of the divisor. -/
def remainder (x y : Dyadic) : Estimate :=
  if isZero y then .unknown
  else
    let (m, e) := parts x
    let (n, f) := parts y
    let base := min e f
    ofDyadic (scaled ((m <<< (e - base).toNat).fmod (n <<< (f - base).toNat)) base)

/-- `|x| ^ y` with the sign that a whole exponent leaves. -/
def signedPower (x y : Dyadic) : Dyadic :=
  let r := powTo digits (absolute x) y
  if isNegative x && !isZero y && (parts y).2 == 0 then -r else r

/-- A power; `strict` tells whether a negative number to a broken exponent is
refused at once or first worked out in the complex plane. -/
def power (strict : Bool) (x y : Dyadic) : Estimate :=
  if isZero y then .known one
  else if isZero x then (if isNegative y then .unknown else .known .zero)
  else if isNegative x && !isWhole y then
    if strict then .unknown
    else match ofDyadic (powTo digits (absolute x) y) with
      | .tooLarge => .tooLarge
      | _ => .unknown
  else ofDyadic (signedPower x y)

/-- An operator between two values. -/
def binary : BinaryOp → Dyadic → Dyadic → Estimate
  | .add, x, y => ofDyadic (x + y)
  | .sub, x, y => ofDyadic (x - y)
  | .mul, x, y => ofDyadic (x * y)
  | .div, x, y => quotient x y
  | .mod, x, y => remainder x y
  | .pow, x, y => power false x y
  | .floorDiv, _, _ => .unknown
  | .foreign _, _, _ => .unknown

/-- An operator in front of a value. -/
def unary : UnaryOp → Dyadic → Estimate
  | .neg, x => .known (-x)
  | .pos, x => .known x
  | .foreign _, _ => .unknown

/-! ## Functions -/

/-- The value if the condition holds, unknown otherwise. -/
def onlyIf (c : Bool) (x : Dyadic) : Estimate := if c then ofDyadic x else .unknown

/-- The gamma function of a double. -/
def gamma (x : Dyadic) : Estimate :=
  if isWhole x && !isPositive x then .unknown
  else if below (ofInt 200) x then .tooLarge
  else if below x (ofInt (-200)) then .known .zero
  else ofDyadic (gammaTo digits (.real x)).re

/-- The logarithm of the absolute value of the gamma function. -/
def logGamma (x : Dyadic) : Estimate :=
  if isWhole x && !isPositive x then .unknown
  else if below (scaled 1 1015) x then .tooLarge
  else ofDyadic (logGammaTo digits x)

/-- The next step with a known value. -/
def andThen (a : Estimate) (f : Dyadic → Estimate) : Estimate :=
  match a with
  | .known x => f x
  | a => a

def exponential (x : Dyadic) : Estimate := ofDyadic (expTo digits x)

/-- `exp (log Γ(n + 1) - log Γ(k + 1) - log Γ(n - k + 1))` -/
def combinations (n k : Dyadic) : Estimate :=
  (ofDyadic (n + one)).andThen fun n₁ => (logGamma n₁).andThen fun a =>
  (ofDyadic (k + one)).andThen fun k₁ => (logGamma k₁).andThen fun b =>
  (ofDyadic (n - k)).andThen fun d => (ofDyadic (d + one)).andThen fun d₁ =>
  (logGamma d₁).andThen fun c =>
  (ofDyadic (a - b)).andThen fun e => (ofDyadic (e - c)).andThen exponential

/-- `exp (log Γ(n + 1) - log Γ(n - k + 1))` -/
def permutations (n k : Dyadic) : Estimate :=
  (ofDyadic (n + one)).andThen fun n₁ => (logGamma n₁).andThen fun a =>
  (ofDyadic (n - k)).andThen fun d => (ofDyadic (d + one)).andThen fun d₁ =>
  (logGamma d₁).andThen fun c => (ofDyadic (a - c)).andThen exponential

def cubeRoot (x : Dyadic) : Estimate :=
  if isZero x then .known .zero
  else
    let r := powTo digits (absolute x) (roundTo 53 (ratTo 80 (1 / 3)))
    ofDyadic (if isNegative x then -r else r)

/-- The natural logarithm, or the one to a given base. -/
def logarithm : List Dyadic → Estimate
  | [x] => onlyIf (isPositive x) (logTo digits x)
  | [x, b] =>
    if isPositive x && isPositive b then quotient (logTo 53 x) (logTo 53 b) else .unknown
  | _ => .unknown

def call : Function → List Dyadic → Estimate
  | .abs, [x] => .known (absolute x)
  | .sin, [x] => ofDyadic (sinTo digits x)
  | .cos, [x] => ofDyadic (cosTo digits x)
  | .tan, [x] => ofDyadic (tanTo digits x)
  | .asin, [x] => onlyIf (!below one (absolute x)) (asinTo digits x)
  | .acos, [x] => onlyIf (!below one (absolute x)) (acosTo digits x)
  | .atan, [x] => ofDyadic (atanTo digits x)
  | .sinh, [x] => ofDyadic (sinhTo digits x)
  | .cosh, [x] => ofDyadic (coshTo digits x)
  | .tanh, [x] => ofDyadic (tanhTo digits x)
  | .asinh, [x] => ofDyadic (asinhTo digits x)
  | .acosh, [x] => onlyIf (!below x one) (acoshTo digits x)
  | .atanh, [x] => onlyIf (below (absolute x) one) (atanhTo digits x)
  | .log, [x] | .log10, [x] =>
    onlyIf (isPositive x) (divTo digits (logTo digits x) (logTo digits (ofInt 10)))
  | .ln, xs => logarithm xs
  | .exp, [x] => exponential x
  | .sqrt, [x] => onlyIf (!isNegative x) (sqrtTo digits x)
  | .cbrt, [x] => cubeRoot x
  | .pow, [x, y] => power true x y
  | .factorial, [x] => (ofDyadic (x + one)).andThen gamma
  | .combinations, [n, k] | .nCr, [n, k] => combinations n k
  | .permutations, [n, k] | .nPr, [n, k] => permutations n k
  | _, _ => .unknown

def constant : Constant → Dyadic
  | .pi => piTo 53
  | .e | .capitalE => expTo 53 one

/-- The value of a literal; words have none. -/
def literal : Literal → Estimate
  | .whole n => ofDouble (.ofInt n)
  | .fraction d => match d with
    | .nan => .unknown
    | d => ofDouble d
  | .text s => match readDouble s with
    | none => .unknown
    | some .nan => .unknown
    | some d => ofDouble d
  | .word s => if s = "True" then .known one else if s = "False" then .known .zero else .unknown

/-- The outcome of the check: a value that is too large is a fault. -/
def outcome : Estimate → Except Failure (Option Dyadic)
  | .known x => .ok (some x)
  | .unknown => .ok none
  | .tooLarge => .error (.fault .tooLarge)

end Estimate

def BinaryOp.isArithmetic : BinaryOp → Bool
  | .floorDiv | .foreign _ => false
  | _ => true

def UnaryOp.isArithmetic : UnaryOp → Bool
  | .foreign _ => false
  | _ => true

def allKnown : List (Option Dyadic) → Option (List Dyadic)
  | [] => some []
  | none :: _ => none
  | some x :: r => (allKnown r).map (x :: ·)

/-- What takes so many calls inside one another, for which there may be no room. -/
def within {α : Type} (calls room : Nat) (x : Except Failure α) : Except Failure α :=
  if room < calls then .error (.breakdown .tooDeep) else x

mutual

/-- The check of a tree with so much room for calls: its value, if it is known. A tree takes
the call that looks at it, a wrapper two more to read its literal, and a function two more
before those for its arguments. -/
def checkMagnitude (enabled : Function → Bool) : Nat → Tree → Except Failure (Option Dyadic)
  | 0, _ => .error (.breakdown .tooDeep)
  | room + 1, .binary op l r =>
    if op.isArithmetic then do
      let x ← checkMagnitude enabled room l
      let y ← checkMagnitude enabled room r
      match x, y with
      | some x, some y => (Estimate.binary op x y).outcome
      | _, _ => pure none
    else .error (.fault (.unsupported "BinOp"))
  | room + 1, .unary op t =>
    if op.isArithmetic then do
      match ← checkMagnitude enabled room t with
      | some x => (Estimate.unary op x).outcome
      | none => pure none
    else .error (.fault (.unsupported "UnaryOp"))
  | room + 1, .call (.name f) args [] =>
    within 1 room <|
      if isWrapper f then
        match args with
        | [.literal v] =>
          if f = variableWrapper then pure none else within 2 room (Estimate.literal v).outcome
        | _ => .error (.fault (.malformedLiteral f))
      else
        match Function.ofName? f with
        | none => .error (.fault (.unknownFunction f))
        | some g => within 2 room do
          let values ← checkMagnitudes enabled (room - 2) args
          if enabled g then
            match allKnown values with
            | some xs => (Estimate.call g xs).outcome
            | none => pure none
          else pure none
  | _ + 1, .name s =>
    match Constant.ofName? s with
    | some c => pure (some (Estimate.constant c))
    | none =>
      if (Function.ofName? s).isSome then pure none else .error (.fault (.unsupported "Name"))
  | room + 1, .literal (.whole n) => within 1 room (Estimate.literal (.whole n)).outcome
  | room + 1, .literal (.fraction d) => within 1 room (Estimate.literal (.fraction d)).outcome
  | room + 1, .tuple ts => do
    let _ ← checkMagnitudes enabled room ts
    pure none
  | _ + 1, t => .error (.fault (.unsupported t.construct))

/-- The check of trees, from the left. -/
def checkMagnitudes (enabled : Function → Bool) (room : Nat) :
    List Tree → Except Failure (List (Option Dyadic))
  | [] => pure []
  | t :: ts => do
    let x ← checkMagnitude enabled room t
    let xs ← checkMagnitudes enabled room ts
    pure (x :: xs)

end

end Reckon.Formula
