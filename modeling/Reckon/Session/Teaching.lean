import Reckon.Session.Basic
import Reckon.Tutor.Solution

/-
Explaining the expression of a session step by step, beside its result.
-/
namespace Reckon.Session
open Tutor

variable {τ σ : Type}

/-- The note about steps that are missing. -/
def noSteps (f : Fault) : Note := ⟨"warning", f.title,
  "Could not build a step-by-step solution; showing the result only.".toList⟩

/-- The expression is solved step by step and evaluated as well. Where the solver fails
the user is told, and only the result is shown. An empty expression is left alone. The
solver has a state `σ` of its own. -/
def explain (solve : σ → List Char → σ × Except Failure Solution) (helper : σ) (s : Session τ) :
    σ × Step τ (Option Solution) :=
  if s.expression.isEmpty then (helper, ⟨s, .ok none, none⟩)
  else
    let (helper, outcome) := solve helper s.expression
    let finish (s : Session τ) (solution : Option Solution) : Step τ (Option Solution) :=
      let done := s.evaluate
      ⟨done.session, done.answer.map fun _ => solution, done.entry⟩
    match outcome with
    | .ok solution => (helper, finish s (some solution))
    | .error (.fault f) => (helper, finish (s.note (noSteps f)) none)
    | .error e => (helper, ⟨s, .error e, none⟩)

end Reckon.Session
