import Reckon.Json.Reader
import Reckon.Number.Display
import Reckon.Text.Quoted

/-
The spelling of a value inside a message: texts in quotes, `None`, `True` and
`False` for the constants, brackets around lists and braces around members. Whole
numbers of too many digits are not spelled.
-/
namespace Reckon.Json
open Number Text

mutual

def spell : Json → List Char
  | .null => "None".toList
  | .bool b => (if b then "True" else "False").toList
  | .int i => intDigits i
  | .number d => d.text
  | .string s => quoted s.toList
  | .array items => '[' :: (spellItems items ++ [']'])
  | .object members => '{' :: (spellMembers members ++ ['}'])

def spellItems : List Json → List Char
  | [] => []
  | [v] => spell v
  | v :: r => spell v ++ ", ".toList ++ spellItems r

def spellMembers : List (String × Json) → List Char
  | [] => []
  | [(n, v)] => quoted n.toList ++ ": ".toList ++ spell v
  | (n, v) :: r => quoted n.toList ++ ": ".toList ++ spell v ++ ", ".toList ++ spellMembers r

end

/-- The text of a value: a string is its own text, all else is spelled. -/
def asText : Json → List Char
  | .string s => s.toList
  | v => spell v

/-! ## What cannot be spelled -/

/-- What keeps a value from being spelled. -/
inductive Obstacle where
  /-- A whole number of too many digits. -/
  | tooLong
  /-- More values inside one another than the stack has room for. -/
  | tooDeep
  deriving DecidableEq

/-- A number with few enough digits to be spelled. -/
def isShort (n : Nat) : Bool := n < Nat.pow 10 greatestDigitCount

mutual

/-- What the spelling of a value comes upon first; each value inside another takes a call. -/
def obstacle? : Nat → Json → Option Obstacle
  | 0, _ => some .tooDeep
  | _ + 1, .int i => if isShort i.natAbs then none else some .tooLong
  | room + 1, .array items => itemObstacle? room items
  | room + 1, .object members => memberObstacle? room members
  | _ + 1, _ => none

def itemObstacle? (room : Nat) : List Json → Option Obstacle
  | [] => none
  | v :: r => (obstacle? room v).or (itemObstacle? room r)

/-- The same for members, each with its name in front. -/
def memberObstacle? (room : Nat) : List (String × Json) → Option Obstacle
  | [] => none
  | (n, v) :: r =>
    (obstacle? room (.string n)).or ((obstacle? room v).or (memberObstacle? room r))

end

/-- Why a value is not spelled. -/
def unspellable : List Char :=
  "Exceeds the limit (".toList ++ decimalDigits greatestDigitCount
    ++ (" digits) for integer string conversion; use sys.set_int_max_str_digits() to increase "
      ++ "the limit").toList

end Reckon.Json
