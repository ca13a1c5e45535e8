import Reckon.Number.Double

/-
JSON values. Whole numbers and numbers with a fraction are kept apart, and the
members of an object keep their order; each name occurs once.
-/
namespace Reckon
open Number

/-- A JSON value. -/
inductive Json where
  | null
  | bool (b : Bool)
  | int (i : Int)
  | number (d : Double)
  | string (s : String)
  | array (items : List Json)
  | object (members : List (String × Json))

instance : Inhabited Json := ⟨.null⟩

abbrev Json.Members := List (String × Json)

namespace Json

/-- `members` with `name` bound to `value`: a name that is there keeps its place. -/
def put (name : String) (value : Json) : Members → Members
  | [] => [(name, value)]
  | (n, v) :: r => if n = name then (n, value) :: r else (n, v) :: put name value r

def find? (name : String) (members : Members) : Option Json :=
  (members.find? fun m => m.1 == name).map Prod.snd

/-- A member of a value, if it is an object that has it. -/
def member? (name : String) : Json → Option Json
  | .object ms => find? name ms
  | _ => none

def text (s : List Char) : Json := .string (String.ofList s)

/-- A value, or null where there is none. -/
def ofOption : Option Json → Json
  | some v => v
  | none => .null

/-- The value counts as true: it is not null, false, zero or empty. -/
def isTruthy : Json → Bool
  | .null => false
  | .bool b => b
  | .int i => i != 0
  | .number d => !(d.value?.any isZero)
  | .string s => s != ""
  | .array items => !items.isEmpty
  | .object members => !members.isEmpty

/-- The value as a number, true and false counting as one and zero. -/
def toDouble? : Json → Option Double
  | .int i => some (.ofInt i)
  | .number d => some d
  | .bool b => some (if b then 1 else 0)
  | _ => none

theorem find?_put_same (name : String) (value : Json) (ms : Members) :
    find? name (put name value ms) = some value := by
  induction ms with
  | nil => simp [put, find?]
  | cons m r ih =>
    obtain ⟨n, v⟩ := m
    by_cases h : n = name
    · simp [put, find?, h]
    · have := ih
      simp only [find?] at this
      simp [put, find?, h, this]

end Json

end Reckon
