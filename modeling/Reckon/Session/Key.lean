import Reckon.Session.Radix

/-
The keys of the keypad and of the keyboard, and what each of them does.
-/
namespace Reckon

/-- What is put around an expression. -/
structure Wrapping where
  before : String
  after : String
  deriving DecidableEq

/-- The expression with something put around it. -/
def Wrapping.around (w : Wrapping) (s : List Char) : List Char :=
  w.before.toList ++ s ++ w.after.toList

/-- A key, by what it does. -/
inductive Key where
  | equals
  | clear
  | backspace
  | percent
  | convert (r : Radix)
  | wrap (w : Wrapping)
  | type (token : List Char)
  deriving DecidableEq

namespace Key

/-- Keys that put something around the whole expression. -/
def wrappings : List (String × Wrapping) := [
  ("x²", ⟨"(", ")^2"⟩),
  ("x³", ⟨"(", ")^3"⟩),
  ("1/x", ⟨"1/(", ")"⟩),
  ("√", ⟨"sqrt(", ")"⟩),
  ("sqrt", ⟨"sqrt(", ")"⟩),
  ("∛", ⟨"cbrt(", ")"⟩),
  ("cbrt", ⟨"cbrt(", ")"⟩),
  ("n!", ⟨"factorial(", ")"⟩),
  ("|x|", ⟨"abs(", ")"⟩),
  ("10^x", ⟨"10^(", ")"⟩)]

/-- Keys that type a word of their own. -/
def words : List (String × String) := [
  ("sin", "sin("), ("cos", "cos("), ("tan", "tan("),
  ("asin", "asin("), ("acos", "acos("), ("atan", "atan("),
  ("log", "log("), ("ln", "ln("), ("exp", "exp("),
  ("nCr", "combinations("), ("combinations", "combinations("),
  ("nPr", "permutations("), ("permutations", "permutations("),
  ("Mod", " mod "), ("pi", "pi"), ("π", "pi"), ("e", "e"), (",", ",")]

/-- Characters that type themselves. -/
def plainCharacters : List Char := "0123456789.+-−×÷*/^()".toList

/-- A text of characters that type themselves. -/
def isPlain (s : List Char) : Bool := !s.isEmpty && s.all plainCharacters.contains

def ofText? (name : List Char) : Option Key :=
  let n := String.ofList name
  if n = "=" then some .equals
  else if n = "C" then some .clear
  else if n = "⌫" then some .backspace
  else if n = "%" then some .percent
  else
    ((Radix.all.find? fun r => r.key = n).map Key.convert).or
      (((wrappings.lookup n).map Key.wrap).or
        (((words.lookup n).map fun w => Key.type w.toList).or
          (if isPlain name then some (.type name) else none)))

/-- The key with a name; there may be none. -/
def read (name : List Char) : Except Failure Key :=
  match ofText? name with
  | some k => .ok k
  | none => .error (.refused ("Unknown key: ".toList ++ Text.quoted name))

/-- The names under which keys of a keyboard act as keys of the keypad. -/
def keyboard : List (String × String) := [
  ("Enter", "="), ("\x0d", "="), ("\n", "="), ("=", "="), ("Backspace", "⌫"),
  ("Escape", "C"), ("Delete", "C"), ("*", "×"), ("/", "÷")]

def ofKeyboard (name : List Char) : List Char :=
  match keyboard.lookup (String.ofList name) with
  | some n => n.toList
  | none => name

end Key

end Reckon
