import Reckon.Fault
import Reckon.Term.Function

/-
The double that a term comes to, or the reason why it comes to none.
-/
namespace Reckon.Term
open Number

mutual

/-- The term is known to be real and not negative, although it may have no value. -/
def isKnownNonnegative : Term → Bool
  | .apply .modulo [_, q] => isPositiveReal q
  | .apply .abs _ => true
  | .apply .factorial [t] => isKnownNonnegative t
  | .sum ts => areKnownNonnegative ts
  | .product ts => areKnownNonnegative ts
  | .power b x => isKnownNonnegative b && isKnownNonnegative x
  | t => (realPoint? t).any fun x => !isNegative x

/-- All terms are known to be real and not negative. -/
def areKnownNonnegative : List Term → Bool
  | [] => true
  | t :: ts => isKnownNonnegative t && areKnownNonnegative ts

end

mutual

/-- The term is known to be real, although it may have no value. A remainder by a
number that has a sign is real whatever it is taken of. -/
def isKnownReal : Term → Bool
  | .apply .modulo [_, q] => (realPoint? q).any fun x => !Number.isZero x
  | .apply .abs _ => true
  | .apply .factorial [t] => isKnownNonnegative t
  | .apply .sin [t] => isKnownReal t
  | .apply .cos [t] => isKnownReal t
  | .apply .sinh [t] => isKnownReal t
  | .apply .cosh [t] => isKnownReal t
  | .apply .tanh [t] => isKnownReal t
  | .sum ts => areKnownReal ts
  | .product ts => areKnownReal ts
  | .power .e x => isKnownReal x
  | .power b x => isKnownNonnegative b && isKnownNonnegative x
  | t => (realPoint? t).isSome

def areKnownReal : List Term → Bool
  | [] => true
  | t :: ts => isKnownReal t && areKnownReal ts

end

mutual

/-- A function is called in the term on something that is no number. -/
def hasEmptyCall : Term → Bool
  | .sum ts => anyEmptyCall ts
  | .product ts => anyEmptyCall ts
  | .power b x => hasEmptyCall b || hasEmptyCall x
  | .apply _ [] => true
  | .apply _ ts => anyEmptyCall ts
  | _ => false

def anyEmptyCall : List Term → Bool
  | [] => false
  | t :: ts => hasEmptyCall t || anyEmptyCall ts

end

/-! ## Spelling -/

/-- A numeral without too many digits to be spelled: a rounded one shows but a few of its own. -/
def Numeral.isShort : Numeral → Bool
  | .exact q => Json.isShort q.num.natAbs && Json.isShort q.den
  | .rounded .. => true

/-- The term holds no numeral of too many digits. -/
def isSpellable (t : Term) : Bool :=
  !anyPart (fun | .numeral n => !n.isShort | _ => false) t

mutual

/-- The same once the term is rounded as far as it goes: the numerals of sums, products and
powers are, but for whole exponents; a function without a value is left as it is. -/
def isSpellableRounded (t : Term) : Bool :=
  (point? t).isSome ||
    match t with
    | .sum ts => areSpellableRounded ts
    | .product ts => areSpellableRounded ts
    | .power .e x => isSpellable x
    | .power b x =>
      isSpellableRounded b &&
        match x.numeral? with
        | some n => n.int?.isNone || n.isShort
        | none => isSpellableRounded x
    | .apply _ ts => ts.all isSpellable
    | _ => true

/-- The same for several terms. -/
def areSpellableRounded : List Term → Bool
  | [] => true
  | t :: ts => isSpellableRounded t && areSpellableRounded ts

end

/-- The failure that a fault comes to whose message spells the term. -/
def failure (f : Fault) (spellable : Bool) : Failure :=
  f.spelling (if spellable then none else some .tooLong)

/-! ## The number -/

/-- The finite double that a term comes to. -/
def toDouble (t : Term) : Except Failure Double :=
  if hasVariable t then .error (failure .undefinedName t.isSpellable)
  else if hasNoNumber t then .error (failure .noNumber t.isSpellable)
  else if hasEmptyCall t then .error (failure .undefined t.isSpellable)
  else
    match point? t with
    | some z =>
      if z.isReal then
        let d := Double.ofDyadic z.re
        if d.isFinite then .ok d else .error (.fault .notFinite)
      else .error (.fault .notReal)
    | none =>
      if isKnownReal t then .error (.breakdown .wrongKind)
      else .error (failure .notReal t.isSpellableRounded)

end Reckon.Term
