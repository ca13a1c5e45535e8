import Reckon.Mode.Basic

/-
What can go wrong in a calculation, by cause. A fault belongs to a kind; the kind
has the title and decides whether the user is told the cause.
-/
namespace Reckon
open Text

/-- Why a calculation has no result. -/
inductive Fault where
  /-- The formula ends with an opened call. -/
  | incompleteCall (name : String)
  /-- The name may not be used in this mode. -/
  | forbidden (name : String) (mode : Mode)
  /-- A value does not fit in a double. -/
  | tooLarge
  /-- The value is infinite. -/
  | notFinite
  /-- The value has no finite limit. -/
  | undefined
  /-- The value is not a real number. -/
  | notReal
  /-- The value is no number at all. -/
  | noNumber
  /-- There is nothing to calculate. -/
  | emptyFormula
  /-- A character that no formula has. -/
  | foreignCharacter
  /-- A point outside a number. -/
  | misplacedPoint
  /-- A name that stands for nothing. -/
  | unknownName (name : String)
  /-- A construct that is no arithmetic. -/
  | unsupported (construct : String)
  /-- A number or variable is not made of one literal. -/
  | malformedLiteral (name : String)
  /-- A call of something that is no function. -/
  | unknownFunction (name : String)
  /-- The formula cannot be read, or its value cannot be formed. -/
  | rejected
  /-- A variable without a value. -/
  | undefinedName
  /-- No point of the range has a value. -/
  | undefinedEverywhere (formula : List Char)
  /-- Only whole numbers can be written in another base. -/
  | notWhole (source : List Char)
  /-- A number in another base cannot be converted once more. -/
  | alreadyConverted
  /-- The model did not name a mode. -/
  | unclassified (reason : List Char)
  /-- There is no step by step solution. -/
  | unsolved (reason : List Char)
  deriving DecidableEq

namespace Fault

inductive Kind where
  | incompleteFunction
  | forbiddenFunction
  | invalidResult
  | evaluator
  | conversion
  | classifier
  | solver
  deriving DecidableEq

/-- The name under which a kind is reported. -/
def Kind.name : Kind → String
  | .incompleteFunction => "IncompleteFunctionError"
  | .forbiddenFunction => "ForbiddenFunctionError"
  | .invalidResult => "InvalidResultError"
  | .evaluator => "EvaluatorFailure"
  | .conversion => "ConversionError"
  | .classifier => "ClassifierFailure"
  | .solver => "SolverFailure"

/-- The title of a message about a fault of this kind. -/
def Kind.title : Kind → String
  | .forbiddenFunction => "Not Available"
  | .invalidResult => "Invalid Result"
  | .conversion => "Conversion Failed"
  | .solver => "Teacher Mode Unavailable"
  | _ => "Invalid Expression"

/-- The user is told the cause. -/
def Kind.isExplained : Kind → Bool
  | .incompleteFunction | .forbiddenFunction | .conversion | .solver => true
  | _ => false

def kind : Fault → Kind
  | .incompleteCall _ => .incompleteFunction
  | .forbidden .. => .forbiddenFunction
  | .tooLarge | .notFinite | .undefined | .notReal | .noNumber => .invalidResult
  | .emptyFormula | .foreignCharacter | .misplacedPoint | .unknownName _ | .unsupported _
  | .malformedLiteral _ | .unknownFunction _ | .rejected | .undefinedName
  | .undefinedEverywhere _ => .evaluator
  | .notWhole _ | .alreadyConverted => .conversion
  | .unclassified _ => .classifier
  | .unsolved _ => .solver

/-- The cause in words. A formula that was rejected has no words of ours. -/
def message? : Fault → Option (List Char)
  | .incompleteCall name => some ("Incomplete function call: ".toList ++ name.toList ++ ['('])
  | .forbidden name mode => some ("Function ".toList ++ name.toList ++ " is not available in ".toList
      ++ mode.name.toList ++ " mode".toList)
  | .tooLarge => some "Result is too large to represent".toList
  | .notFinite => some "Result is not finite: ".toList
  | .undefined => some "Result is undefined: ".toList
  | .notReal => some "Result is not a real number: ".toList
  | .noNumber => some "Invalid evaluation result: ".toList
  | .emptyFormula => some "Empty expression".toList
  | .foreignCharacter => some "Expression contains characters a calculator does not use".toList
  | .misplacedPoint => some "Misplaced decimal point".toList
  | .unknownName name => some ("Unknown name: ".toList ++ name.toList)
  | .unsupported construct => some ("Unsupported syntax: ".toList ++ construct.toList)
  | .malformedLiteral name => some ("Malformed literal: ".toList ++ name.toList)
  | .unknownFunction name => some ("Unknown function: ".toList ++ name.toList)
  | .rejected => none
  | .undefinedName => some "Undefined name in: ".toList
  | .undefinedEverywhere formula => some (formula ++ " is undefined on the whole range".toList)
  | .notWhole source => some ("Only whole numbers can be converted, got ".toList
      ++ (if source.isEmpty then "nothing".toList else source))
  | .alreadyConverted => some "A converted value cannot be converted again".toList
  | .unclassified reason => some reason
  | .unsolved reason => some reason

/-- The title of a message about the fault. -/
def title (f : Fault) : String := f.kind.title

/-- What the user is told when the cause is kept back. -/
def plainMessage : String := "Please check your calculation."

def userMessage (f : Fault) : List Char :=
  if f.kind.isExplained then f.message?.getD [] else plainMessage.toList

end Fault

/-- Ways in which a request fails that are no faults of a calculation. -/
inductive Breakdown where
  /-- A value of a kind that the operation is not made for. -/
  | wrongKind
  /-- A value without the member that is asked for. -/
  | noMember
  /-- A number out of reach. -/
  | outOfReach
  /-- More calls inside one another than the stack takes. -/
  | tooDeep
  deriving DecidableEq

/-- Why an operation did not succeed. -/
inductive Failure where
  /-- A fault of the calculation. -/
  | fault (f : Fault)
  /-- An argument that is refused, with the reason. -/
  | refused (reason : List Char)
  /-- The operation cannot go on. -/
  | breakdown (b : Breakdown)
  deriving DecidableEq

/-- The failure of spelling a value that something keeps from being spelled. -/
def Json.Obstacle.failure : Json.Obstacle → Failure
  | .tooLong => .refused Json.unspellable
  | .tooDeep => .breakdown .tooDeep

/-- The failure that a fault comes to whose message spells a value. -/
def Fault.spelling (f : Fault) : Option Json.Obstacle → Failure
  | none => .fault f
  | some o => o.failure

/-- The name of a mode is read or refused. -/
def Mode.read (v : Json) : Except Failure Mode :=
  match ofJson? v with
  | some m => .ok m
  | none => .error (.refused ("Unknown calculator mode: ".toList ++ v.spell))

end Reckon
