import Reckon.Formula.Screen
import Reckon.Formula.Tree
import Reckon.Number.Decimal
import Reckon.Term.Outcome

/-
The value of an expression tree.
-/
namespace Reckon.Formula
open Number

/-- The value of a formula. -/
inductive Value where
  | term (t : Term)
  /-- Several values with commas between them. -/
  | list (items : List Value)
  /-- A function that is not called. -/
  | function (f : Function)

namespace Value

/-! ## Literals -/

def binaryDigits (n : Nat) : Nat := roundDiv ((n + 1) * 33219280948873626) (Nat.pow 10 16)

/-- Decimal digits that every number has at least. -/
def leastDigits : Nat := 15

/-- A decimal number rounded to as many digits as it is written with. Without a
point, the digits of the whole number count. -/
def ofDecimal (d : Decimal) (written : Nat) : Term.Numeral :=
  let p := binaryDigits (max leastDigits written)
  .rounded p (quotientTo p d.ratio.1 d.ratio.2 0)

/-- Digits that the text of a number counts for. -/
def writtenDigits (t : List Char) (d : Decimal) : Nat :=
  let own := digitCount d.digits
  if t.contains '.' || d.exponent < 0 then own
  else own + d.exponent.toNat

def numeralOfText (t : List Char) : Option Term.Numeral :=
  (readMagnitude false t).map fun d => ofDecimal d (writtenDigits t d)

def ofDouble : Double → Term
  | .finite x => .numeral (.rounded 53 x)
  | .negZero => .numeral (.rounded 53 .zero)
  | .infinite s => .infinite s
  | .nan => .nan

/-- The value of a literal, if it has one. -/
def ofLiteral? : Literal → Option Term
  | .whole n => some (.numeral (ofDecimal ⟨false, n, 0⟩ (digitCount n)))
  | .fraction d => some (ofDouble d)
  | .text t => (numeralOfText t).map .numeral
  | .word _ => none

/-! ## Operators -/

/-- A list so many times behind itself; nothing unless the number is whole, exact, and small
enough to count with. -/
def repeated (items : List Value) : Value → Option Value
  | .term (.numeral n) =>
    match n.int? with
    | some i =>
      if -0x8000000000000000 ≤ i && i < 0x8000000000000000 then
        some (.list (List.replicate i.toNat items).flatten)
      else none
    | none => none
  | _ => none

/-- An operator between terms; nothing if there is no such value. -/
def binaryTerms : BinaryOp → Term → Term → Option Term
  | .add, a, b => some (Term.add a b)
  | .sub, a, b => some (Term.subtract a b)
  | .mul, a, b => some (Term.multiply a b)
  | .div, a, b => some (Term.divide a b)
  | .mod, a, b => Term.moduloOf a b
  | .pow, a, b => some (Term.powerOf a b)
  | _, _, _ => none

/-- An operator between values. Lists can only be joined, or repeated a whole number
of times. -/
def binary (op : BinaryOp) (a b : Value) : Option Value :=
  match a, b with
  | .term a, .term b => (binaryTerms op a b).map .term
  | .list xs, .list ys => if op = .add then some (.list (xs ++ ys)) else none
  | .list xs, n => if op = .mul then repeated xs n else none
  | n, .list xs => if op = .mul then repeated xs n else none
  | _, _ => none

/-- An operator in front of a value. -/
def unary (op : UnaryOp) (a : Value) : Option Value :=
  match op, a with
  | .neg, .term t => some (.term (Term.negate t))
  | .pos, .term t => some (.term t)
  | _, _ => none

/-! ## Functions -/

/-- The logarithm to a base. -/
def logarithmTo (base t : Term) : Term :=
  if (Term.subtract base Term.one).isZero then
    if (Term.subtract t Term.one).isZero then .nan else .pole
  else
    match base with
    | .e => Term.logOf t
    | base => Term.divide (Term.logOf t) (Term.logOf base)

/-- A function of terms; nothing if it cannot be formed. -/
def callTerms : Function → List Term → Option Term
  | .abs, [t] => some (Term.absOf t)
  | .sin, [t] => some (Term.sinOf t)
  | .cos, [t] => some (Term.cosOf t)
  | .tan, [t] => some (Term.tanOf t)
  | .asin, [t] => some (Term.asinOf t)
  | .acos, [t] => some (Term.acosOf t)
  | .atan, [t] => some (Term.atanOf t)
  | .sinh, [t] => some (Term.sinhOf t)
  | .cosh, [t] => some (Term.coshOf t)
  | .tanh, [t] => some (Term.tanhOf t)
  | .asinh, [t] => some (Term.asinhOf t)
  | .acosh, [t] => some (Term.acoshOf t)
  | .atanh, [t] => some (Term.atanhOf t)
  | .log, [t] | .log10, [t] => some (logarithmTo (Term.int 10) t)
  | .ln, [t] => some (Term.logOf t)
  | .ln, [t, b] => some (logarithmTo b t)
  | .exp, [t] => some (Term.expOf t)
  | .sqrt, [t] | .sqrt, [t, _] => some (Term.sqrtOf t)
  | .cbrt, [t] => some (Term.cubeRootTerm t)
  | .pow, [a, b] | .pow, [a, b, _] => some (Term.powerOf a b)
  | .factorial, [t] => Term.factorialOf t
  | .combinations, [n, k] | .nCr, [n, k] => Term.binomialOf n k
  | .permutations, [n, k] | .nPr, [n, k] => Term.permutationsOf n k
  | _, _ => none

/-- The function is a mathematical object of its own, not a rule for calling another. -/
def isPlain : Function → Bool
  | .log | .log10 | .sqrt | .cbrt | .permutations | .nPr => false
  | _ => true

mutual

/-- A value in the place of a number, if it can stand there. -/
def asTerm? : Value → Option Term
  | .term t => some t
  | .list items => (asTerms? items).map .tuple
  | .function f => if isPlain f then some (.tuple []) else none

def asTerms? : List Value → Option (List Term)
  | [] => some []
  | v :: r => do
    let t ← asTerm? v
    let ts ← asTerms? r
    pure (t :: ts)

end

/-- A function of values that are not all terms. A few functions are kept on a list, and count
as nothing for a function. -/
def callOdd (f : Function) (args : List Value) : Option Term :=
  match f, args with
  | .exp, [.list items] => (asTerms? items).map fun ts => .power .e (.tuple ts)
  | .factorial, [.list items] => (asTerms? items).map fun ts => .apply .factorial [.tuple ts]
  | .acosh, [.list items] => (asTerms? items).map fun ts => .apply .acosh [.tuple ts]
  | .exp, [.function g] => if isPlain g then some Term.one else none
  | .asinh, [.function g] => if isPlain g then some Term.zero else none
  | .acosh, [.function g] =>
    if isPlain g then some (.product [Term.half, .pi, .i]) else none
  | .factorial, [.function g] => if isPlain g then some (.apply .factorial []) else none
  | _, _ => none

def terms? : List Value → Option (List Term)
  | [] => some []
  | .term t :: r => (terms? r).map (t :: ·)
  | _ :: _ => none

def call (f : Function) (args : List Value) : Option Value :=
  match terms? args with
  | some ts => (callTerms f ts).map .term
  | none => (callOdd f args).map .term

def ofConstant : Constant → Term
  | .pi => .pi
  | .e | .capitalE => .e

/-! ## Spelling -/

mutual

/-- What the spelling of a value comes upon first; each list inside another takes a call. -/
def obstacle? : Nat → Value → Option Json.Obstacle
  | 0, _ => some .tooDeep
  | _ + 1, .term t => if t.isSpellable then none else some .tooLong
  | room + 1, .list items => itemObstacle? room items
  | _ + 1, .function _ => none

def itemObstacle? (room : Nat) : List Value → Option Json.Obstacle
  | [] => none
  | v :: r => (obstacle? room v).or (itemObstacle? room r)

end

/-- A value or the fault that there is none. -/
def orRejected : Option Value → Except Fault Value
  | some v => .ok v
  | none => .error .rejected

end Value

mutual

/-- The value of a tree in a mode. A function that the mode does not have can be
named but not called. -/
def evaluateTree (mode : Mode) : Tree → Except Fault Value
  | .binary op l r => do
    let a ← evaluateTree mode l
    let b ← evaluateTree mode r
    Value.orRejected (Value.binary op a b)
  | .unary op t => do
    let a ← evaluateTree mode t
    Value.orRejected (Value.unary op a)
  | .call (.name f) args [] =>
    if isWrapper f then
      match args with
      | [.literal (.text t)] =>
        if f = variableWrapper then .ok (.term (.variable (String.ofList t)))
        else Value.orRejected ((Value.ofLiteral? (.text t)).map .term)
      | [.literal v] => Value.orRejected ((Value.ofLiteral? v).map .term)
      | _ => .error .rejected
    else
      match Function.ofName? f with
      | none => .error .rejected
      | some g => do
        let values ← evaluateTrees mode args
        if enabled mode g then Value.orRejected (Value.call g values)
        else .error (.forbidden f mode)
  | .name s =>
    match Constant.ofName? s with
    | some c => .ok (.term (Value.ofConstant c))
    | none => match Function.ofName? s with
      | some g => .ok (.function g)
      | none => .error .rejected
  | .literal v => Value.orRejected ((Value.ofLiteral? v).map .term)
  | .tuple ts => do
    let items ← evaluateTrees mode ts
    pure (.list items)
  | _ => .error .rejected

/-- The values of trees, from the left. -/
def evaluateTrees (mode : Mode) : List Tree → Except Fault (List Value)
  | [] => pure []
  | t :: ts => do
    let v ← evaluateTree mode t
    let vs ← evaluateTrees mode ts
    pure (v :: vs)

end

end Reckon.Formula
