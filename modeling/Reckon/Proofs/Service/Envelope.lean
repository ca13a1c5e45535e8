import Reckon.Proofs.Service.Visits
import Reckon.Proofs.Tutor.Exchange

/-
What a request with a body of any kind is answered, where no language model is configured. A
route that is made for the method answers by the object that tells whether the request succeeded:
with success, with a refusal of the client's, of an equation that has no solution, or of a page
that is too far off (`Enveloped`). There are three ways to break the service off instead
(`Breaks`): a body that is filled and no object, where a member of it is asked for; an equation
that is filled and no text; and an expression whose evaluation breaks off. There, and nowhere
else, the answer holds nothing (`answers_enveloped`). A body is taken as it was read; one whose
values stand too deep inside one another to be read is no request here, and what is computed with
terms is taken to fit on the stack.

Each route is shown to be in one of the two cases (`Answers`). For an action it is enough to know
exactly what the operation that it asks for fails with (`settled_answers`).
-/
namespace Reckon
open Tutor Evaluator

namespace Session

variable {τ : Type}

end Session

/-! ## Without a language model -/

section Offline

variable {σ : Type} {ch : Channel σ} (line : σ) (h : ch.model.isAvailable = false)
include h

end Offline

namespace Service
open Mode

variable {τ σ : Type}

/-- The body is filled and no object, so that it has no members. -/
def Request.IsForeign (r : Request) : Prop := r.body.isTruthy = true ∧ ∀ ms, r.body ≠ .object ms

/-- A page of the history is asked for by a number that cannot be stored. -/
def Request.AsksTooFar (r : Request) : Prop :=
  ∃ t n, (r.ask? "limit" = some t ∨ r.ask? "after" = some t) ∧ State.wholeNumber? t = some n ∧
    History.fits n = false

/-! ## Answers -/

/-- The answer is an object that tells whether the request succeeded: it did, or the client is
told what is wrong with it. An equation without a solution is no fault of the client, nor is a
page of the history that is too far off. -/
inductive Enveloped (r : Request) : Route → Answer → Prop
  | success {route : Route} {status : Nat} (done : status = 200 ∨ status = 201)
      (members : Json.Members) : Enveloped r route (.success status members)
  | refusal {route : Route} {status : Nat} (client : 400 ≤ status ∧ status < 500)
      (reason : List Char) (members : Json.Members) :
      Enveloped r route (.failureWith status reason members)
  | unsolved (reason : List Char) : Enveloped r .equations (.failure 502 reason)
  | tooFar (asked : r.AsksTooFar) :
      Enveloped r .calculations (.failure 500 History.Refusal.tooBig.message.toList)

/-- A request breaks off, or is answered by an object. -/
def Answers (breaks : Prop) (r : Request) (route : Route) (a : Answer) : Prop :=
  breaks ∧ a = .crash ∨ ¬ breaks ∧ Enveloped r route a

/-! ## Routes -/

namespace Answers

variable {breaks : Prop} {r : Request} {route : Route}

theorem refusal {status : Nat} (h : ¬ breaks) (client : 400 ≤ status ∧ status < 500)
    (reason : List Char) (members : Json.Members) :
    Answers breaks r route (.failureWith status reason members) :=
  .inr ⟨h, .refusal client reason members⟩

theorem congr {breaks' : Prop} {a : Answer} (h : Answers breaks r route a)
    (he : breaks ↔ breaks') : Answers breaks' r route a := by
  unfold Answers
  rwa [← he]

end Answers

namespace State

section Session

variable [LE τ] [DecidableLE τ]

variable [Add τ] [Sub τ] [LT τ] [DecidableLT τ]

end Session

end State

section Answer

variable [Add τ] [Sub τ] [LE τ] [LT τ] [DecidableLE τ] [DecidableLT τ]

end Answer

end Service

end Reckon
