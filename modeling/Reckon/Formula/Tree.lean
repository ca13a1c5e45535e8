import Reckon.Number.Double

/-
Expression trees. They hold more than arithmetic, so that what is to be kept out of
the evaluator can be said: attributes, starred and named arguments, and any other
construct. A number literal is a call of `Integer` or `Float` on its one constant,
a variable a call of `Symbol` on its name.
-/
namespace Reckon.Formula
open Number

/-- An operator between two operands. -/
inductive BinaryOp where
  | add | sub | mul | div | mod | pow
  /-- Division that drops the fraction. -/
  | floorDiv
  /-- An operator that is no arithmetic. -/
  | foreign (name : String)
  deriving DecidableEq

/-- An operator in front of its operand. -/
inductive UnaryOp where
  | neg | pos
  /-- An operator that is no arithmetic. -/
  | foreign (name : String)
  deriving DecidableEq

inductive Literal where
  | whole (n : Nat)
  | fraction (d : Double)
  | text (s : List Char)
  /-- A constant that is a word. -/
  | word (s : String)
  deriving DecidableEq

inductive Tree where
  | literal (v : Literal)
  | name (s : String)
  | binary (op : BinaryOp) (left right : Tree)
  | unary (op : UnaryOp) (operand : Tree)
  /-- A call; an argument of a name or of a list of names is a keyword. -/
  | call (f : Tree) (args : List Tree) (keywords : List (Option String × Tree))
  | tuple (items : List Tree)
  | starred (value : Tree)
  | attribute (value : Tree) (name : String)
  /-- Any other construct. -/
  | other (construct : String) (parts : List Tree)

namespace Tree

instance : Inhabited Tree := ⟨.tuple []⟩

def construct : Tree → String
  | .literal _ => "Constant"
  | .name _ => "Name"
  | .binary .. => "BinOp"
  | .unary .. => "UnaryOp"
  | .call .. => "Call"
  | .tuple _ => "Tuple"
  | .starred _ => "Starred"
  | .attribute .. => "Attribute"
  | .other c _ => c

mutual

/-- How many constructs stand inside one another at most. -/
def height : Tree → Nat
  | .literal _ | .name _ => 1
  | .binary _ l r => max l.height r.height + 1
  | .unary _ t | .starred t | .attribute t _ => t.height + 1
  | .call f args keywords => max f.height (max (heights args) (keywordHeights keywords)) + 1
  | .tuple ts | .other _ ts => heights ts + 1

/-- The same for the highest of several trees. -/
def heights : List Tree → Nat
  | [] => 0
  | t :: ts => max t.height (heights ts)

/-- The same for keywords, each of which is a construct of its own. -/
def keywordHeights : List (Option String × Tree) → Nat
  | [] => 0
  | k :: ks => max (keywordHeight k) (keywordHeights ks)

def keywordHeight : Option String × Tree → Nat
  | (_, t) => t.height + 1

end

/-- A call without keywords of something named. -/
def callOf (f : String) (args : List Tree) : Tree := .call (.name f) args []

end Tree

/-- The names that wrap number literals. -/
def literalWrappers : List String := ["Integer", "Float", "Rational"]

/-- The name that wraps variables. -/
def variableWrapper : String := "Symbol"

/-- A name that wraps a literal or a variable. -/
def isWrapper (s : String) : Bool := literalWrappers.contains s || s == variableWrapper

end Reckon.Formula
