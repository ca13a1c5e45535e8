import Reckon.Number.Decimal

/-
The written form of numbers: the shortest text of a double and the text of a
calculator's result line.
-/
namespace Reckon.Number

/-- How the decimal digits of a number are laid out. -/
structure Layout where
  /-- Positional notation starts at this decimal magnitude. -/
  least : Int
  /-- Positional notation ends at this decimal magnitude. -/
  greatest : Int
  /-- Least number of digits of an exponent. -/
  exponentDigits : Nat
  /-- What follows a digit that stands alone before an exponent. -/
  afterSoleDigit : List Char

/-- Positional from `0.0001` up to below `10 ^ 16`; exponents have two digits or more. -/
def Layout.plain : Layout := ⟨-3, 16, 2, []⟩

/-- Zeros at the end of a list of digits left out. -/
def dropTrailingZeros (ds : List Char) : List Char :=
  (ds.reverse.dropWhile (· == '0')).reverse

def zeros (n : Nat) : List Char := List.replicate n '0'

def Layout.exponentText (l : Layout) (e : Int) : List Char :=
  let ds := decimalDigits e.natAbs
  'e' :: (if e < 0 then '-' else '+') :: (zeros (l.exponentDigits - ds.length) ++ ds)

/-- The digits `ds` with the point after the first `k` of them. -/
def Layout.text (l : Layout) (ds : List Char) (k : Int) : List Char :=
  if k < l.least || l.greatest < k then
    match ds with
    | [] => []
    | [d] => d :: l.afterSoleDigit ++ l.exponentText (k - 1)
    | d :: r => d :: '.' :: r ++ l.exponentText (k - 1)
  else if k ≤ 0 then '0' :: '.' :: (zeros (-k).toNat ++ ds)
  else
    let whole := ds.take k.toNat
    let fraction := ds.drop k.toNat
    whole ++ zeros (k.toNat - whole.length) ++ '.' :: (if fraction.isEmpty then ['0'] else fraction)

/-- The text of a decimal number above zero. -/
def Decimal.text (l : Layout) (d : Decimal) : List Char :=
  let ds := decimalDigits d.digits
  l.text (dropTrailingZeros ds) (d.exponent + ds.length)

/-- The shortest text that reads back as the same double. -/
def Double.text : Double → List Char
  | .nan => ['n', 'a', 'n']
  | .infinite negative => (if negative then ['-'] else []) ++ ['i', 'n', 'f']
  | .negZero => ['-', '0', '.', '0']
  | .finite x =>
    if isZero x then ['0', '.', '0']
    else (if isNegative x then ['-'] else []) ++ (shortest (absolute x)).text .plain

/-- Places after the point kept in a displayed result. -/
def resultPlaces : Int := 10

/-- The text of the result line: rounded to `places` places after the point, whole
numbers below `10 ^ 16` without a point, everything else in its shortest form. -/
def resultTextTo (places : Int) (d : Double) : List Char :=
  let r := roundPlaces places d
  match r.value? with
  | none => r.text
  | some x =>
    if isZero x then ['0']
    else if isWhole x && below (absolute x) (ofInt (Int.pow 10 16)) then intDigits (truncInt x)
    else r.text

def resultText (d : Double) : List Char := resultTextTo resultPlaces d

end Reckon.Number
