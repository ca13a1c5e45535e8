import Reckon.Json.Value
import Reckon.Number.Display

/-
Printing JSON text on one line, in ASCII: all other characters are escaped by
their UTF-16 units.
-/
namespace Reckon.Json
open Number

def hexDigit (n : Nat) : Char := if n < 10 then Char.ofNat (48 + n) else Char.ofNat (87 + n)

/-- The lowest `k` hexadecimal digits of a number. -/
def hexDigits : Nat → Nat → List Char
  | 0, _ => []
  | k + 1, n => hexDigits k (n / 16) ++ [hexDigit (n % 16)]

def escapeUnit (n : Nat) : List Char := '\\' :: 'u' :: hexDigits 4 n

/-- A character inside a string. -/
def printChar (c : Char) : List Char :=
  match c with
  | '"' => ['\\', '"']
  | '\\' => ['\\', '\\']
  | '\n' => ['\\', 'n']
  | '\r' => ['\\', 'r']
  | '\t' => ['\\', 't']
  | '\x08' => ['\\', 'b']
  | '\x0c' => ['\\', 'f']
  | c =>
    if c.toNat < 32 || 127 ≤ c.toNat && c.toNat < 0x10000 then escapeUnit c.toNat
    else if c.toNat < 127 then [c]
    else
      let n := c.toNat - 0x10000
      escapeUnit (0xd800 + n / 1024) ++ escapeUnit (0xdc00 + n % 1024)

def printString (s : String) : List Char := '"' :: s.toList.flatMap printChar ++ ['"']

def printDouble : Double → List Char
  | .nan => "NaN".toList
  | .infinite negative => (if negative then "-Infinity" else "Infinity").toList
  | d => d.text

mutual

def print : Json → List Char
  | .null => "null".toList
  | .bool b => (if b then "true" else "false").toList
  | .int i => intDigits i
  | .number d => printDouble d
  | .string s => printString s
  | .array items => '[' :: (printItems items ++ [']'])
  | .object members => '{' :: (printMembers members ++ ['}'])

def printItems : List Json → List Char
  | [] => []
  | [v] => print v
  | v :: r => print v ++ ", ".toList ++ printItems r

def printMembers : List (String × Json) → List Char
  | [] => []
  | [(n, v)] => printString n ++ ": ".toList ++ print v
  | (n, v) :: r => printString n ++ ": ".toList ++ print v ++ ", ".toList ++ printMembers r

end

end Reckon.Json
