import Reckon.History.Basic
import Reckon.Number.Display

/-
Values of any kind given to the history. Texts are stored as they are, numbers by
their digits; limits and row numbers may also be given as texts.
-/
namespace Reckon.History
open Number Text

/-- Why the history cannot do what is asked. -/
inductive Refusal where
  /-- A column that must have a value has none. -/
  | missing (column : String)
  /-- A limit that is no whole number. -/
  | mismatch
  /-- A value that cannot be stored, at its place among the values given. -/
  | unstorable (place : Nat) (kind : String)
  /-- A whole number of more than 64 bits. -/
  | tooBig
  deriving DecidableEq

def Refusal.message : Refusal → String
  | .missing column => "NOT NULL constraint failed: calculations." ++ column
  | .mismatch => "datatype mismatch"
  | .unstorable place kind => "Error binding parameter " ++ String.ofList (decimalDigits place)
      ++ ": type '" ++ kind ++ "' is not supported"
  | .tooBig => "Python int too large to convert to SQLite INTEGER"

/-! ## Texts of numbers -/

/-- Numbers are written with fifteen digits, positional below `10 ^ 15` and from `0.0001`. -/
def layout : Layout := ⟨-3, 15, 2, ['.', '0']⟩

/-- Digits kept of a number. -/
def significantDigits : Nat := 15

/-- A number above zero cut to the digits that are kept, a half going up. -/
def significant (x : Dyadic) : Decimal :=
  let (num, den) := fractionOf x
  let k := decimalMagnitude num den
  let (a, b) := shiftTen num den (significantDigits - k)
  ⟨false, (2 * a + b) / (2 * b), k - significantDigits⟩

/-- The text of a number; a value that is no number has none. -/
def numberText : Double → Option (List Char)
  | .nan => none
  | .infinite negative => some ((if negative then ['-'] else []) ++ "Inf".toList)
  | .negZero => some "0.0".toList
  | .finite x =>
    some (if isZero x then "0.0".toList
      else (if isNegative x then ['-'] else []) ++ (significant (absolute x)).text layout)

/-! ## Values -/

/-- Whole numbers that can be stored. -/
def fits (i : Int) : Bool := -(Int.pow 2 63) ≤ i && i < Int.pow 2 63

/-- A value can be stored; if not, its place among the values given is told. -/
def checkStorable (place : Nat) : Json → Except Refusal Unit
  | .int i => if fits i then .ok () else .error .tooBig
  | .array _ => .error (.unstorable place "list")
  | .object _ => .error (.unstorable place "dict")
  | _ => .ok ()

/-- The text that is stored for a value; null has none. -/
def cellText : Json → Option (List Char)
  | .string s => some s.toList
  | .int i => some (intDigits i)
  | .number d => numberText d
  | .bool b => some [if b then '1' else '0']
  | _ => none

/-- The text of a column that must have one. -/
def required (column : String) (v : Json) : Except Refusal (List Char) :=
  match cellText v with
  | some t => .ok t
  | none => .error (.missing column)

/-- White space around a number given as a text. -/
def isMargin (c : Char) : Bool := c == ' ' || ('\t' ≤ c && c ≤ '\x0d')

/-- A character of a number given as a text. -/
def isNumeral (c : Char) : Bool := isAsciiDigit c || "+-.eE".toList.contains c

/-- A text without white space around it. -/
def withoutMargin (s : List Char) : List Char :=
  ((s.dropWhile isMargin).reverse.dropWhile isMargin).reverse

def numberOfText (s : List Char) : Option Double :=
  let t := withoutMargin s
  if t.all isNumeral then readDouble t else none

/-- The whole number that a text of digits stands for. -/
def wholeOfText (s : List Char) : Option Int :=
  let t := withoutMargin s
  if t.all isNumeral then (readInt t).filter fits else none

/-- The number that a value stands for. -/
def numberOf : Json → Option Double
  | .string s => numberOfText s.toList
  | .number d => some d
  | .bool b => some (if b then 1 else 0)
  | _ => none

/-- The whole number that a double is, if it can be stored. -/
def wholeOf (d : Double) : Option Int :=
  if d.isWhole then d.truncate?.filter fits else none

/-- The number of rows that a value asks for. -/
def limitOf (v : Json) : Except Refusal Int :=
  let whole := match v with
    | .int i => some i
    | .string s => (wholeOfText s.toList).or ((numberOfText s.toList).bind wholeOf)
    | v => (numberOf v).bind wholeOf
  match whole with
  | some i => .ok i
  | none => .error .mismatch

/-- The row number that a value stands for, as far as it matters for rows up to `last`;
after a value that is no number there is nothing. -/
def boundOf (last : Nat) (v : Json) : Option Int :=
  match v with
  | .null => none
  | .int i => some i
  | v =>
    match numberOf v with
    | some (.infinite true) => some (-1)
    | some .negZero => some 0
    | some (.finite x) => some (floorInt x)
    | _ => some last

/-! ## Requests -/

/-- A calculation is added, all parts of it given as values. -/
def addValues (h : History) (user expression result : Json) (time : List Char) (mode : Json) :
    Except Refusal (History × Nat) := do
  checkStorable 1 user
  checkStorable 2 expression
  checkStorable 3 result
  checkStorable 5 mode
  let user ← required "user_id" user
  let expression ← required "expression" expression
  let result ← required "result" result
  pure (h.add user expression result time (cellText mode))

/-- A page of a user's rows, all that is asked for given as values. -/
def pageValues (h : History) (user limit after : Json) : Except Refusal (List Row) := do
  checkStorable 1 user
  checkStorable 2 after
  checkStorable (if after matches .null then 2 else 3) limit
  let limit ← limitOf limit
  pure (match cellText user with
    | some u => h.page u limit (boundOf h.lastId after)
    | none => [])

/-- A user's rows are removed, the user given as a value. -/
def clearValues (h : History) (user : Json) : Except Refusal (History × Nat) := do
  checkStorable 1 user
  pure (match cellText user with
    | some u => h.clear u
    | none => (h, 0))

end Reckon.History
