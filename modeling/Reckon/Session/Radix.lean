import Reckon.Fault
import Reckon.Formula.Repair
import Reckon.Number.Decimal

/-
Whole numbers in base two, eight and sixteen: their digits, the expression that
names a converted number, and when a text can be converted.
-/
namespace Reckon
open Number Text

/-- A base in which a whole number can be shown. -/
inductive Radix where
  | binary
  | octal
  | hexadecimal
  deriving DecidableEq

namespace Radix

def all : List Radix := [.binary, .octal, .hexadecimal]

def base : Radix → Nat
  | .binary => 2
  | .octal => 8
  | .hexadecimal => 16

/-- The short name, which is also the key. -/
def key : Radix → String
  | .binary => "bin"
  | .octal => "oct"
  | .hexadecimal => "hex"

/-- The word in front of a converted number. -/
def caption (r : Radix) : List Char := "dec_to_".toList ++ r.key.toList

/-- The digits of a number, letters being capitals. -/
def digits (r : Radix) (n : Nat) : List Char := (Nat.toDigits r.base n).map Char.toUpper

/-- A whole number, a minus first. -/
def write (r : Radix) (i : Int) : List Char :=
  if i < 0 then '-' :: r.digits i.natAbs else r.digits i.natAbs

/-- The expression that stands beside a converted number. -/
def expression (r : Radix) (i : Int) : List Char := r.caption ++ '(' :: (intDigits i ++ [')'])

end Radix

namespace Conversion

/-- Digits of any script, at least one, behind an optional minus. -/
def isWhole : List Char → Bool
  | '-' :: r => !r.isEmpty && r.all isDigit
  | s => !s.isEmpty && s.all isDigit

/-- The digits without the minus. -/
def unsigned : List Char → List Char
  | '-' :: r => r
  | s => s

/-- The number that a whole text stands for. -/
def value (s : List Char) : Int :=
  let n : Int := digitsValue (unsigned s)
  if s.head? = some '-' then -n else n

/-- The expression stands beside a number converted to base `r`. -/
def isExpressionOf (r : Radix) (s : List Char) : Bool :=
  let opening := r.caption ++ ['(']
  let inner := s.drop opening.length
  opening.isPrefixOf s && inner.getLast? = some ')' && isWhole inner.dropLast

/-- The expression stands beside a converted number. -/
def isConverted (s : List Char) : Bool := Radix.all.any fun r => isExpressionOf r s

/-- The text that is converted: what is shown, if anything, else the expression. -/
def source (shown expression : List Char) : List Char :=
  trim (Formula.normalize (if shown.isEmpty then expression else shown))

/-- Most digits that a number to be converted may have. -/
def greatestDigitCount : Nat := 4300

/-- Why a number has too many digits. -/
def tooLong (count : Nat) : List Char :=
  "Exceeds the limit (".toList ++ decimalDigits greatestDigitCount
    ++ " digits) for integer string conversion: value has ".toList ++ decimalDigits count
    ++ " digits; use sys.set_int_max_str_digits() to increase the limit".toList

/-- The number to convert, if the text on screen is a whole number that has not been
converted already. -/
def number (shown expression : List Char) : Except Failure Int :=
  let s := source shown expression
  if !shown.isEmpty && isConverted expression then .error (.fault .alreadyConverted)
  else if !isWhole s then .error (.fault (.notWhole s))
  else if greatestDigitCount < (unsigned s).length then .error (.refused (tooLong (unsigned s).length))
  else .ok (value s)

end Conversion

end Reckon
