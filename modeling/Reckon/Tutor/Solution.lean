import Reckon.Json.Spelling
import Reckon.Tutor.Reply

/-
A solution: the steps that lead from a formula to its answer, and how it is read from
a reply.
-/
namespace Reckon.Tutor

/-- A step: what is done, why, and what it leads to. -/
structure SolutionStep where
  step : List Char
  explanation : List Char
  result : List Char
  deriving DecidableEq

/-- The steps and the final answer. -/
structure Solution where
  steps : List SolutionStep
  finalAnswer : List Char
  deriving DecidableEq

namespace SolutionStep

def toJson (s : SolutionStep) : Json :=
  .object [("step", .text s.step), ("explanation", .text s.explanation), ("result", .text s.result)]

/-- A part of a step in words; a part that is missing is empty. -/
def part (name : String) (members : Json.Members) : List Char :=
  match Json.find? name members with
  | some v => v.asText
  | none => []

/-- The step that a value stands for: an object that says what is done. -/
def ofJson (v : Json) : Except Fault SolutionStep :=
  match v with
  | .object ms =>
    if (Json.find? "step" ms).isSome then
      .ok ⟨part "step" ms, part "explanation" ms, part "result" ms⟩
    else .error (.unsolved ("Malformed solution step: ".toList ++ v.spell))
  | v => .error (.unsolved ("Malformed solution step: ".toList ++ v.spell))

end SolutionStep

namespace Solution

def toJson (s : Solution) : Json :=
  .object [("steps", .array (s.steps.map SolutionStep.toJson)), ("finalAnswer", .text s.finalAnswer)]

def absent : Fault := .unsolved "Failed to get a solution from the AI model.".toList

def lastResult (steps : List SolutionStep) : List Char :=
  match steps.getLast? with
  | some s => s.result
  | none => []

/-- The final answer that is given, under either of its names, or else the result of the
last step. -/
def answerOf (members : Json.Members) (steps : List SolutionStep) : List Char :=
  match (Json.find? "finalAnswer" members).or (Json.find? "final_answer" members) with
  | none | some .null => lastResult steps
  | some v => v.asText

/-- The solution that an object stands for. -/
def ofMembers (members : Json.Members) : Except Fault Solution :=
  match Json.find? "steps" members with
  | some (.array items) => do
    let steps ← items.mapM SolutionStep.ofJson
    pure ⟨steps, answerOf members steps⟩
  | _ => .error absent

def ofReply (reply : List Char) : Except Fault Solution :=
  match Reply.object? reply with
  | some ms => ofMembers ms
  | none => .error absent

end Solution

end Reckon.Tutor
