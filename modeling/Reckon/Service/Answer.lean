import Reckon.Graph
import Reckon.History.Basic
import Reckon.Service.Request
import Reckon.Session.Basic

/-
Answers of the service: a status, and mostly an object that tells whether the request
succeeded.
-/
namespace Reckon.Service

/-- What an answer holds. -/
inductive Content where
  | nothing
  | json (v : Json)
  | picture (s : Graph.Sampled)

/-- An answer. -/
structure Answer where
  status : Nat
  content : Content

namespace Answer

def bare (status : Nat) : Answer := ⟨status, .nothing⟩

/-- Something went wrong inside. -/
def crash : Answer := bare 500

/-- The request succeeded; `members` tell more. -/
def success (status : Nat) (members : Json.Members) : Answer :=
  ⟨status, .json (.object (("success", .bool true) :: members))⟩

/-- The request succeeded with a value. -/
def data (status : Nat) (v : Json) : Answer := success status [("data", v)]

/-- The request failed; `members` tell more. -/
def failureWith (status : Nat) (reason : List Char) (members : Json.Members) : Answer :=
  ⟨status, .json (.object (("success", .bool false) :: ("error", .text reason) :: members))⟩

def failure (status : Nat) (reason : List Char) : Answer := failureWith status reason []

def unknownSession : Answer := failure 404 "Unknown session".toList

/-- A refused argument is told; a failure of another kind breaks the request off. -/
def ofFailure : Failure → Answer
  | .refused reason => failure 400 reason
  | _ => crash

end Answer

/-- An action on a session tells that a name it was given is refused; where it is given none, it
is made for no failure. -/
def Action.answerTo : Action → Failure → Answer
  | .keys, e | .mode, e => .ofFailure e
  | _, _ => .crash

/-! ## Objects in answers -/

def noteJson (n : Note) : Json :=
  .object [("kind", .string n.kind), ("title", .string n.title), ("description", .text n.text)]

/-- What is seen of a session, as members of an object. -/
def viewMembers (v : Session.View) : Json.Members :=
  [("expression", .text v.expression), ("result", .text v.result), ("mode", .string v.mode.name),
    ("state", .string v.phase.name), ("mode_locked", .bool v.isLocked),
    ("error", Json.ofOption (v.fault.map fun k => .string k.name))]

/-- A row of the history as an object. -/
def rowJson (r : Row) : Json :=
  .object [("id", .int r.id), ("expression", .text r.expression), ("result", .text r.result),
    ("timestamp", .text r.time)]

end Reckon.Service
