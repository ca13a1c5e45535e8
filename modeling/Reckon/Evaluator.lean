import Reckon.Formula.Evaluation
import Reckon.Formula.Magnitude
import Reckon.Formula.Parser
import Reckon.Number.Display

/-
Evaluating a formula in a mode: the text is screened, parsed and checked, its value
worked out, and the result written for the display. Each function is given the room that
the stack has for calls once it runs itself, and hands on less. The room decides how high
a tree may be built, how deep the check may walk it and how deep a list may be spelled;
what is computed with terms, and a term that is spelled, is taken to fit in.
-/
namespace Reckon
open Number Formula Text

abbrev Bindings := List (String × Json)

/-- What is to be turned into a number: the value of a formula, or a plain value. -/
inductive Operand where
  | parsed (v : Value)
  | plain (v : Json)

namespace Evaluator

/-! ## From a text to a value -/

/-- Room for calls on a stack of usual size on which little stands. -/
def usualRoom : Nat := 960

/-- The tree of a text that is let through. It is built only up to three times the height that
there is room for. -/
def treeOf (room : Nat) (unknowns : List String) (s : List Char) : Except Fault Tree := do
  if isAllBlank s then throw .emptyFormula
  let text := prepare s
  screen unknowns text
  match Formula.parse text with
  | none => throw .rejected
  | some tree =>
    if 3 * (room - 1) ≤ tree.height then throw .rejected
    pure tree

/-- A formula without substituting anything: its variables stay symbols. -/
def parse (room : Nat) (mode : Mode) (unknowns : List String) (s : List Char) :
    Except Failure Value := do
  let tree ← (treeOf room unknowns s).mapError .fault
  let _ ← checkMagnitude (enabled mode) (room - 1) tree
  (evaluateTree mode tree).mapError .fault

/-! ## Values for variables -/

/-- The term of a value that is put for a variable. Only numbers have one: a text is refused,
although a formula could be read from it, and so is all else. -/
def bindingTerm? : Json → Option Term
  | .int i => some (Term.int i)
  | .number d => some (Value.ofDouble d)
  | _ => none

/-- Infinite values are put first, the others in the order of the names. -/
def orderBindings (bs : List (String × Term)) : List (String × Term) :=
  let sorted := bs.mergeSort fun a b => !(b.1 < a.1 : Bool)
  let isInfinite (b : String × Term) : Bool := match b.2 with
    | .infinite _ | .nan => true
    | _ => false
  sorted.filter isInfinite ++ sorted.filter fun b => !isInfinite b

/-- The terms of values, if all have one. -/
def bindingTerms? : Bindings → Option (List (String × Term))
  | [] => some []
  | (n, v) :: r => do
    let t ← bindingTerm? v
    let ts ← bindingTerms? r
    pure ((n, t) :: ts)

/-- The term with values put for its variables, one after the other. -/
def bind (t : Term) (bs : Bindings) : Option Term := do
  let ts ← bindingTerms? bs
  (orderBindings ts).foldlM (fun t b => Term.substitute b.1 b.2 t) t

/-! ## From a value to a number -/

/-- The number that a plain value is: truth values and all that is no number are faults. -/
def numberOfPlain (room : Nat) (v : Json) : Except Failure Double :=
  match v with
  | .int i =>
    let d := Double.ofInt i
    if d.isFinite then .ok d else .error (Fault.notFinite.spelling (v.obstacle? room))
  | .number d => if d.isFinite then .ok d else .error (.fault .notFinite)
  | v => .error (Fault.noNumber.spelling (v.obstacle? room))

/-- The number that a value is, with values put for its variables. -/
def valueOf (room : Nat) (operand : Operand) (bs : Bindings) : Except Failure Double :=
  match operand with
  | .plain v => numberOfPlain (room - 2) v
  | .parsed (.term t) =>
    match bind t bs with
    | none => .error (.fault .rejected)
    | some t => t.toDouble
  | .parsed v => .error (Fault.noNumber.spelling (v.obstacle? (room - 2)))

/-- The number that a formula comes to. -/
def evaluate (room : Nat) (mode : Mode) (s : List Char) (bs : Bindings) :
    Except Failure Double := do
  let v ← parse (room - 1) mode (bs.map Prod.fst) s
  valueOf (room - 1) (.parsed v) bs

/-! ## The whole way -/

/-- A typed formula made ready and evaluated, as it is displayed. -/
def display (room : Nat) (mode : Mode) (s : List Char) : Except Failure (List Char) :=
  match ready s mode with
  | .error f => .error (.fault f)
  | .ok r => (evaluate (room - 1) mode r []).map resultText

/-- The same for a mode given by name; the name is read before anything else. -/
def displayNamed (room : Nat) (mode : Json) (s : List Char) : Except Failure (List Char) := do
  display room (← Mode.read mode) s

/-- A formula made ready for a mode given by name; the name is read after the repair. -/
def readyNamed (mode : Json) (s : List Char) : Except Failure (List Char) :=
  match repair (normalize s) with
  | .error f => .error (.fault f)
  | .ok _ => do
    let m ← Mode.read mode
    match ready s m with
    | .error f => .error (.fault f)
    | .ok r => .ok r

end Evaluator

end Reckon
