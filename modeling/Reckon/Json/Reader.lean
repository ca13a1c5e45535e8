import Reckon.Json.Value
import Reckon.Number.Decimal

/-
Reading JSON text. Beyond the grammar the names of the infinities and of the value
that is no number are read; control characters inside strings are refused.
-/
namespace Reckon.Json
open Number

/-- White space between the parts of a JSON text. -/
def isSpace (c : Char) : Bool := c == ' ' || c == '\t' || c == '\n' || c == '\r'

/-- The text without the white space before it. -/
def skipSpace (s : List Char) : List Char := s.dropWhile isSpace

/-! ## Strings -/

/-- The value of a hexadecimal digit. -/
def hexValue? (c : Char) : Option Nat :=
  if '0' ≤ c && c ≤ '9' then some (c.toNat - 48)
  else if 'a' ≤ c && c ≤ 'f' then some (c.toNat - 87)
  else if 'A' ≤ c && c ≤ 'F' then some (c.toNat - 55)
  else none

/-- The number of four hexadecimal digits. -/
def hexFour? (a b c d : Char) : Option Nat := do
  let a ← hexValue? a
  let b ← hexValue? b
  let c ← hexValue? c
  let d ← hexValue? d
  pure (((a * 16 + b) * 16 + c) * 16 + d)

/-- The character behind a backslash. -/
def escaped? : Char → Option Char
  | '"' => some '"'
  | '\\' => some '\\'
  | '/' => some '/'
  | 'b' => some '\x08'
  | 'f' => some '\x0c'
  | 'n' => some '\n'
  | 'r' => some '\r'
  | 't' => some '\t'
  | _ => none

/-- The code units of a string up to its closing quote, and what follows it. -/
def readUnits : List Char → Option (List Nat × List Char)
  | [] => none
  | '"' :: r => some ([], r)
  | '\\' :: 'u' :: a :: b :: c :: d :: r => do
    let n ← hexFour? a b c d
    let (us, rest) ← readUnits r
    pure (n :: us, rest)
  | '\\' :: c :: r => do
    let e ← escaped? c
    let (us, rest) ← readUnits r
    pure (e.toNat :: us, rest)
  | c :: r =>
    if c.toNat < 32 then none
    else do
      let (us, rest) ← readUnits r
      pure (c.toNat :: us, rest)

/-- The first half of a pair that stands for one character. -/
def isHighHalf (n : Nat) : Bool := 0xd800 ≤ n && n < 0xdc00

/-- The second half of such a pair. -/
def isLowHalf (n : Nat) : Bool := 0xdc00 ≤ n && n < 0xe000

/-- Pairs of halves joined; a half that stands alone becomes the replacement character. -/
def joinHalves : List Nat → List Char
  | [] => []
  | [n] => [if isHighHalf n || isLowHalf n then '\ufffd' else Char.ofNat n]
  | n :: m :: r =>
    if isHighHalf n && isLowHalf m then
      Char.ofNat (0x10000 + (n - 0xd800) * 1024 + (m - 0xdc00)) :: joinHalves r
    else (if isHighHalf n || isLowHalf n then '\ufffd' else Char.ofNat n) :: joinHalves (m :: r)

/-- A string behind its opening quote, and what follows it. -/
def readString (s : List Char) : Option (String × List Char) :=
  (readUnits s).map fun (us, r) => (String.ofList (joinHalves us), r)

/-! ## Numbers -/

/-- Most digits that a whole number may have. -/
def greatestDigitCount : Nat := 4300

/-- ASCII digits and what follows them. -/
def spanDigits (s : List Char) : List Char × List Char :=
  s.span Text.isAsciiDigit

def spanFraction : List Char → List Char × List Char
  | '.' :: r =>
    match spanDigits r with
    | ([], _) => ([], '.' :: r)
    | (ds, rest) => (ds, rest)
  | r => ([], r)

def spanExponent (s : List Char) : Option Int × List Char :=
  match s with
  | c :: r =>
    if c = 'e' || c = 'E' then
      let (negative, r) := takeSign r
      match spanDigits r with
      | ([], _) => (none, s)
      | (ds, rest) =>
        let n : Int := digitsValue ds
        (some (if negative then -n else n), rest)
    else (none, s)
  | [] => (none, s)

/-- A number without its sign, and what follows it. -/
def readUnsigned (negative : Bool) (s : List Char) : Option (Json × List Char) :=
  let (whole, r) := spanDigits s
  -- a zero at the front stands alone
  let (whole, r) := match whole with
    | '0' :: d :: ds => (['0'], d :: ds ++ r)
    | ds => (ds, r)
  if whole.isEmpty then none
  else
    let (fraction, r) := spanFraction r
    let (exponent, r) := spanExponent r
    if fraction.isEmpty && exponent.isNone then
      if greatestDigitCount < whole.length then none
      else
        let n : Int := digitsValue whole
        some (.int (if negative then -n else n), r)
    else
      let d : Decimal :=
        ⟨negative, digitsValue (whole ++ fraction), exponent.getD 0 - fraction.length⟩
      some (.number d.toDouble, r)

/-! ## Values -/

/-- What follows a word at the front of a text. -/
def dropWord (word : String) (s : List Char) : Option (List Char) :=
  if word.toList.isPrefixOf s then some (s.drop word.toList.length) else none

/-- A value that is a word, and what follows it. -/
def readWord (s : List Char) : Option (Json × List Char) :=
  match dropWord "null" s, dropWord "true" s, dropWord "false" s, dropWord "NaN" s,
      dropWord "Infinity" s, dropWord "-Infinity" s with
  | some r, _, _, _, _, _ => some (.null, r)
  | _, some r, _, _, _, _ => some (.bool true, r)
  | _, _, some r, _, _, _ => some (.bool false, r)
  | _, _, _, some r, _, _ => some (.number .nan, r)
  | _, _, _, _, some r, _ => some (.number (.infinite false), r)
  | _, _, _, _, _, some r => some (.number (.infinite true), r)
  | _, _, _, _, _, _ => none

mutual

/-- A value at the front of a text, and what follows it. -/
def readValue : Nat → List Char → Option (Json × List Char)
  | 0, _ => none
  | fuel + 1, s =>
    match s with
    | '"' :: r => (readString r).map fun (t, r) => (.string t, r)
    | '[' :: r =>
      match skipSpace r with
      | ']' :: r => some (.array [], r)
      | r => (readItems fuel r).map fun (items, r) => (.array items, r)
    | '{' :: r =>
      match skipSpace r with
      | '}' :: r => some (.object [], r)
      | r => (readMembers fuel [] r).map fun (ms, r) => (.object ms, r)
    | '-' :: r => (readWord s).or (readUnsigned true r)
    | s => (readWord s).or (readUnsigned false s)

/-- The items of an array up to its closing bracket. -/
def readItems : Nat → List Char → Option (List Json × List Char)
  | 0, _ => none
  | fuel + 1, s => do
    let (v, r) ← readValue fuel (skipSpace s)
    match skipSpace r with
    | ']' :: r => pure ([v], r)
    | ',' :: r =>
      let (vs, r) ← readItems fuel (skipSpace r)
      pure (v :: vs, r)
    | _ => none

/-- The members of an object up to its closing brace, behind those already read. -/
def readMembers : Nat → Members → List Char → Option (Members × List Char)
  | 0, _, _ => none
  | fuel + 1, done, s =>
    match s with
    | '"' :: r => do
      let (name, r) ← readString r
      match skipSpace r with
      | ':' :: r =>
        let (v, r) ← readValue fuel (skipSpace r)
        let done := put name v done
        match skipSpace r with
        | '}' :: r => pure (done, r)
        | ',' :: r => readMembers fuel done (skipSpace r)
        | _ => none
      | _ => none
    | _ => none

end

/-- The value that a whole text stands for. -/
def read (s : List Char) : Option Json :=
  match readValue (2 * s.length + 2) (skipSpace s) with
  | some (v, r) => if (skipSpace r).isEmpty then some v else none
  | none => none

end Reckon.Json
