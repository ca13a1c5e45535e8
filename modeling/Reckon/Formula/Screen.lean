import Reckon.Formula.Repair

/-
The gates in front of the evaluator: which names a mode lets pass, the spelling
that the evaluator reads, and the screen that keeps everything else out.
-/
namespace Reckon.Formula
open Text

/-! ## The gate of a mode -/

/-- The first name, in the given order, that the mode does not let pass. -/
def forbidden? (mode : Mode) (names : List String) : Option String :=
  match mode with
  | .scientific => none
  | .standard => names.find? isAdvanced

/-- Names are let pass, or the first forbidden one is reported. -/
def authorize (names : List String) (mode : Mode) : Except Fault Unit :=
  match forbidden? mode names with
  | some name => .error (.forbidden name mode)
  | none => .ok ()

/-- Names in the order of their characters. -/
def sortNames (names : List String) : List String := names.mergeSort fun a b => !(b < a : Bool)

/-- Names that come in no order are looked at in the order of their characters. -/
def authorizeSet (names : List String) (mode : Mode) : Except Fault Unit :=
  authorize (sortNames names) mode

/-- The function may be evaluated in this mode. -/
def enabled (mode : Mode) (f : Function) : Bool :=
  match mode with
  | .scientific => true
  | .standard => f.isBasic

/-- The names of the functions that may be evaluated in this mode, sorted. -/
def functionNames (mode : Mode) : List String :=
  sortNames ((Function.all.filter (enabled mode)).map Function.name)

/-- A formula made ready for the evaluator: normalized, repaired and let pass. -/
def ready (s : List Char) (mode : Mode) : Except Fault (List Char) := do
  let r ← repair (normalize s)
  authorize (names r) mode
  pure r

/-! ## Spelling -/

/-- Leading zeros left out: a zero in front of a digit goes if the character before
it is neither a digit nor a point. `start` tells that it is neither. -/
def dropLeadingZeros (start : Bool) : List Char → List Char
  | [] => []
  | c :: r =>
    if start && c == '0' && r.head?.any isDigit then dropLeadingZeros true r
    else c :: dropLeadingZeros (!(isDigit c || c == '.')) r

/-- The word `mod` replaced by its operator, wherever it stands alone. `inWord`
tells that the character before is part of a word. -/
def replaceMod (inWord : Bool) : List Char → List Char
  | [] => []
  | 'm' :: 'o' :: 'd' :: r =>
    if !inWord && !r.head?.any isWord then '%' :: replaceMod false r
    else 'm' :: 'o' :: 'd' :: replaceMod true r
  | c :: r => c :: replaceMod (isWord c) r

/-- The spelling that the evaluator reads. -/
def prepare (s : List Char) : List Char := replaceMod false (dropLeadingZeros true s)

/-! ## The screen -/

def isSign (c : Char) : Bool :=
  c == '+' || c == '-' || c == '*' || c == '/' || c == '^' || c == '%' || c == '(' || c == ')'
    || c == ','

/-- A character that a formula may hold. -/
def isFormulaChar (c : Char) : Bool :=
  isAsciiDigit c || isAsciiLetter c || c == '.' || isSign c || isBlank c

/-- The text without its number literals: what is found one by one from the left. -/
def dropNumbers : List Char → List Char
  | [] => []
  | c :: r =>
    match _h : spanNumber (c :: r) with
    | ([], _) => c :: dropNumbers r
    | (_ :: _, rest) => dropNumbers rest
termination_by s => s.length
decreasing_by
  · simp
  · have ha := congrArg List.length (spanNumber_append (c :: r))
    rw [_h] at ha
    simp only [List.length_append, List.length_cons] at ha ⊢
    omega

/-- A name that stands for something: a function, a constant or a variable. -/
def isKnown (unknowns : List String) (name : String) : Bool :=
  (Function.ofName? name).isSome || (Constant.ofName? name).isSome || unknowns.contains name

/-- Only text that is a formula is let through: no foreign characters, no point
outside a number, no unknown names. -/
def screen (unknowns : List String) (s : List Char) : Except Fault Unit :=
  if !s.all isFormulaChar then .error .foreignCharacter
  else if (dropNumbers s).contains '.' then .error .misplacedPoint
  else
    match (names s).find? fun n => !isKnown unknowns n with
    | some n => .error (.unknownName n)
    | none => .ok ()

end Reckon.Formula
