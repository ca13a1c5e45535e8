import Reckon.Formula.Lexeme
import Reckon.Number.Decimal

/-
Parsing a formula. From loose to tight: commas, sums, products and remainders,
signs, powers, calls. Powers associate to the right and bind tighter than a sign
on their left; all else associates to the left. Nothing is multiplied that has no
operator in between.
-/
namespace Reckon.Formula
open Number

def constantWords : List String := ["True", "False", "None"]

/-- Words that cannot name anything. -/
def reservedWords : List String :=
  ["and", "as", "assert", "async", "await", "break", "class", "continue", "def", "del", "elif",
    "else", "except", "finally", "for", "from", "global", "if", "import", "in", "is", "lambda",
    "nonlocal", "not", "or", "pass", "raise", "return", "try", "while", "with", "yield"]

/-- Most digits that a whole number may have. -/
def greatestLiteral : Nat := 4300

def numberTree (t : List Char) : Option Tree :=
  if t.any fun c => c == '.' || c == 'e' || c == 'E' then
    some (.callOf "Float" [.literal (.text t)])
  else if greatestLiteral < t.length then none
  else some (.callOf "Integer" [.literal (.whole (digitsValue t))])

/-- The tree of a name, given whether a call follows. -/
def nameTree (s : String) (called : Bool) : Option Tree :=
  if constantWords.contains s then some (.literal (.word s))
  else if reservedWords.contains s then none
  else if (Function.ofName? s).isSome || (Constant.ofName? s).isSome || isWrapper s then
    some (.name s)
  else
    some (.callOf (if called then "Function" else variableWrapper) [.literal (.text s.toList)])

/-- What stands between the parentheses of a call. -/
structure Arguments where
  args : List Tree
  keywords : List (Option String × Tree)

/-- One more argument; none may follow a list of names but another one. -/
def Arguments.cons (t : Tree) (a : Arguments) : Arguments := { a with args := t :: a.args }

mutual

def parseSum : Nat → List Lexeme → Option (Tree × List Lexeme)
  | 0, _ => none
  | fuel + 1, s => do
    let (t, r) ← parseProduct fuel s
    parseSumRest fuel t r

/-- The summands behind the first. -/
def parseSumRest : Nat → Tree → List Lexeme → Option (Tree × List Lexeme)
  | 0, _, _ => none
  | fuel + 1, t, s =>
    match s with
    | .plus :: r => do
      let (u, r) ← parseProduct fuel r
      parseSumRest fuel (.binary .add t u) r
    | .minus :: r => do
      let (u, r) ← parseProduct fuel r
      parseSumRest fuel (.binary .sub t u) r
    | r => some (t, r)

def parseProduct : Nat → List Lexeme → Option (Tree × List Lexeme)
  | 0, _ => none
  | fuel + 1, s => do
    let (t, r) ← parseSigned fuel s
    parseProductRest fuel t r

/-- The factors behind the first. -/
def parseProductRest : Nat → Tree → List Lexeme → Option (Tree × List Lexeme)
  | 0, _, _ => none
  | fuel + 1, t, s =>
    match s with
    | .times :: r => do
      let (u, r) ← parseSigned fuel r
      parseProductRest fuel (.binary .mul t u) r
    | .over :: r => do
      let (u, r) ← parseSigned fuel r
      parseProductRest fuel (.binary .div t u) r
    | .floorOver :: r => do
      let (u, r) ← parseSigned fuel r
      parseProductRest fuel (.binary .floorDiv t u) r
    | .percent :: r => do
      let (u, r) ← parseSigned fuel r
      parseProductRest fuel (.binary .mod t u) r
    | r => some (t, r)

/-- A power with signs in front. -/
def parseSigned : Nat → List Lexeme → Option (Tree × List Lexeme)
  | 0, _ => none
  | fuel + 1, s =>
    match s with
    | .plus :: r => do
      let (t, r) ← parseSigned fuel r
      pure (.unary .pos t, r)
    | .minus :: r => do
      let (t, r) ← parseSigned fuel r
      pure (.unary .neg t, r)
    | r => do
      let (t, r) ← parseAtom fuel r
      let (t, r) ← parseCalls fuel t r
      match r with
      | .power :: r =>
        let (u, r) ← parseSigned fuel r
        pure (.binary .pow t u, r)
      | r => pure (t, r)

/-- A number, a name or something in parentheses. -/
def parseAtom : Nat → List Lexeme → Option (Tree × List Lexeme)
  | 0, _ => none
  | fuel + 1, s =>
    match s with
    | .number t :: r => (numberTree t).map fun t => (t, r)
    | .name n :: r => (nameTree n (r.head? == some .opening)).map fun t => (t, r)
    | .opening :: .closing :: r => some (.tuple [], r)
    | .opening :: r => do
      let (t, r) ← parseItem fuel r
      match r with
      | .closing :: r => match t with
        | .starred _ => none
        | t => pure (t, r)
      | .comma :: r =>
        let (ts, r) ← parseItems fuel r
        match r with
        | .closing :: r => pure (.tuple (t :: ts), r)
        | _ => none
      | _ => none
    | _ => none

/-- An item of a list: a sum, or a starred one. -/
def parseItem : Nat → List Lexeme → Option (Tree × List Lexeme)
  | 0, _ => none
  | fuel + 1, s =>
    match s with
    | .times :: r => do
      let (t, r) ← parseSum fuel r
      pure (.starred t, r)
    | r => parseSum fuel r

/-- The items behind a comma, up to a closing parenthesis. -/
def parseItems : Nat → List Lexeme → Option (List Tree × List Lexeme)
  | 0, _ => none
  | fuel + 1, s =>
    match s with
    | .closing :: r => some ([], .closing :: r)
    | r => do
      let (t, r) ← parseItem fuel r
      match r with
      | .comma :: r =>
        let (ts, r) ← parseItems fuel r
        pure (t :: ts, r)
      | r => pure ([t], r)

def parseCalls : Nat → Tree → List Lexeme → Option (Tree × List Lexeme)
  | 0, _, _ => none
  | fuel + 1, t, s =>
    match s with
    | .opening :: r => do
      let (a, r) ← parseArguments fuel r
      match r with
      | .closing :: r => parseCalls fuel (.call t a.args a.keywords) r
      | _ => none
    | r => some (t, r)

/-- The arguments of a call, up to its closing parenthesis. -/
def parseArguments : Nat → List Lexeme → Option (Arguments × List Lexeme)
  | 0, _ => none
  | fuel + 1, s =>
    match s with
    | .closing :: r => some (⟨[], []⟩, .closing :: r)
    | .power :: r => do
      let (t, r) ← parseSum fuel r
      match r with
      | .comma :: r =>
        let (a, r) ← parseArguments fuel r
        if a.args.isEmpty then pure (⟨[], (none, t) :: a.keywords⟩, r) else none
      | r => pure (⟨[], [(none, t)]⟩, r)
    | r => do
      let (t, r) ← parseItem fuel r
      match r with
      | .comma :: r =>
        let (a, r) ← parseArguments fuel r
        pure (a.cons t, r)
      | r => pure (⟨[t], []⟩, r)

end

/-- The sums behind a comma, up to the end. -/
def parseTuple : Nat → List Lexeme → Option (List Tree)
  | 0, _ => none
  | _, [] => some []
  | fuel + 1, s => do
    let (t, r) ← parseSum fuel s
    match r with
    | [] => pure [t]
    | .comma :: r =>
      let ts ← parseTuple fuel r
      pure (t :: ts)
    | _ => none

/-- A whole formula: a sum, or sums with commas between them. -/
def parseAll (s : List Lexeme) : Option Tree := do
  let fuel := 8 * s.length + 16
  let (t, r) ← parseSum fuel s
  match r with
  | [] => pure t
  | .comma :: r =>
    let ts ← parseTuple fuel r
    pure (.tuple (t :: ts))
  | _ => none

def parse (s : List Char) : Option Tree := (lexemes s).bind parseAll

end Reckon.Formula
