/-
The functions of the calculator and the names they are called by.
-/
namespace Reckon.Formula

/-- A function that can be called in a formula. Several names may stand for one
and the same function. -/
inductive Function where
  | abs
  | sin | cos | tan | asin | acos | atan
  | sinh | cosh | tanh | asinh | acosh | atanh
  | log | log10 | ln | exp | sqrt | cbrt | pow
  | factorial | combinations | nCr | permutations | nPr
  deriving DecidableEq

namespace Function

def name : Function → String
  | .abs => "abs"
  | .sin => "sin" | .cos => "cos" | .tan => "tan"
  | .asin => "asin" | .acos => "acos" | .atan => "atan"
  | .sinh => "sinh" | .cosh => "cosh" | .tanh => "tanh"
  | .asinh => "asinh" | .acosh => "acosh" | .atanh => "atanh"
  | .log => "log" | .log10 => "log10" | .ln => "ln" | .exp => "exp"
  | .sqrt => "sqrt" | .cbrt => "cbrt" | .pow => "pow"
  | .factorial => "factorial" | .combinations => "combinations" | .nCr => "nCr"
  | .permutations => "permutations" | .nPr => "nPr"

def all : List Function :=
  [.abs, .sin, .cos, .tan, .asin, .acos, .atan, .sinh, .cosh, .tanh, .asinh, .acosh, .atanh,
    .log, .log10, .ln, .exp, .sqrt, .cbrt, .pow, .factorial, .combinations, .nCr,
    .permutations, .nPr]

def ofName? (s : String) : Option Function := all.find? fun f => f.name == s

theorem ofName?_name (f : Function) : ofName? f.name = some f := by cases f <;> decide

/-- Basic functions need no Scientific mode. -/
def isBasic : Function → Bool
  | .abs => true
  | _ => false

end Function

inductive Constant where
  | pi
  /-- The base of the natural logarithm, written `e`. -/
  | e
  /-- The same, written `E`. -/
  | capitalE
  deriving DecidableEq

namespace Constant

def name : Constant → String
  | .pi => "pi"
  | .e => "e"
  | .capitalE => "E"

def ofName? (s : String) : Option Constant := [pi, e, capitalE].find? fun c => c.name == s

theorem ofName?_name (c : Constant) : ofName? c.name = some c := by cases c <;> decide

end Constant

/-- Words that only Scientific mode lets pass and that are no functions. -/
def advancedWords : List String :=
  ["mod", "parse", "simplify", "derivative", "eval", "import", "createUnit"]

/-- Names that only Scientific mode lets pass. -/
def isAdvanced (s : String) : Bool :=
  advancedWords.contains s || (Function.ofName? s).any fun f => !f.isBasic

end Reckon.Formula
