import Reckon.Tutor.Channel
import Reckon.Tutor.Prompt
import Reckon.Tutor.Solution

/-
Step by step solutions of expressions and equations, as the language model gives them.
-/
namespace Reckon.Tutor.Solver
open Text

variable {σ : Type}

/-- The model is asked for steps. -/
def run (ch : Channel σ) (s : σ) (question : List Char) : σ × Except Failure Solution :=
  if !ch.model.isAvailable then (s, .error (.fault (.unsolved unconfigured)))
  else
    match ch.chat s question with
    | (s, .error e) => (s, .error (.fault (.unsolved e.message)))
    | (s, .ok content) =>
      match Reply.textOf content with
      | .error e => (s, .error e)
      | .ok reply =>
        match Solution.ofReply reply with
        | .ok solution => (s, .ok solution)
        | .error f => (s, .error (.fault f))

/-- The steps in which an expression is worked out. -/
def solve (ch : Channel σ) (s : σ) (expression : List Char) : σ × Except Failure Solution :=
  run ch s (Prompt.expression expression)

/-- The steps in which an equation is solved; it has exactly one equals sign. -/
def solveEquation (ch : Channel σ) (s : σ) (equation : List Char) : σ × Except Failure Solution :=
  if equation.count '=' ≠ 1 then
    (s, .error (.fault (.unsolved "Equation must contain exactly one '=' sign".toList)))
  else run ch s (Prompt.equation equation)

/-- The same for an equation that was typed: white space around it does not count, and
nothing typed is told. -/
def teachEquation (ch : Channel σ) (s : σ) (typed : Json) : σ × Except Failure Solution :=
  match Reply.textOf typed with
  | .error e => (s, .error e)
  | .ok text =>
    let equation := trim text
    if equation.isEmpty then
      (s, .error (.fault (.unsolved "Please enter an equation to solve.".toList)))
    else solveEquation ch s equation

end Reckon.Tutor.Solver
