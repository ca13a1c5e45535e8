import Reckon.Text.Range

/-
What the language model is asked.
-/
namespace Reckon.Tutor.Prompt

/-- The question for the mode that an expression needs. -/
def mode (expression : List Char) : List Char :=
  "Decide whether a calculator needs Standard or Scientific mode for this expression.\n\nExpression: ".toList
    ++ expression ++
  ("\n\nAnswer Standard for basic arithmetic and Scientific when it uses " ++
    "trigonometry, logarithms, exponents, roots or factorials. " ++
    "Reply with JSON only: \x7b\"mode\": \"Standard\"\x7d or \x7b\"mode\": \"Scientific\"\x7d.").toList

/-- The form in which steps are to be given, with an example of the final answer. -/
def steps (answer : String) : String :=
  "Reply with JSON only: \x7b\"steps\": [\x7b\"step\": \"...\", \"explanation\": \"...\", " ++
    "\"result\": \"...\"\x7d], \"finalAnswer\": \"" ++ answer ++ "\"\x7d"

/-- The question for the steps in which an expression is worked out. -/
def expression (s : List Char) : List Char :=
  ("You are a patient math tutor. Solve the expression below one operation " ++
    "at a time, following the order of operations.\n\nExpression: ").toList ++ s ++
  ("\n\nFor every step give the operation performed, why it comes next, and the " ++
    "whole expression after that operation. The last step's result is the " ++
    "final answer.\n" ++ steps "...").toList

/-- The question for the steps in which an equation is solved. -/
def equation (s : List Char) : List Char :=
  ("You are an algebra tutor. Solve the equation below for its variable, one " ++
    "manipulation at a time.\n\nEquation: ").toList ++ s ++
  ("\n\nFor every step give the manipulation (e.g. subtract 5 from both sides), " ++
    "why it helps, and the equation after it. Quadratics may be factored or " ++
    "solved with the quadratic formula.\n" ++ steps "x = ...").toList

end Reckon.Tutor.Prompt
