import Reckon.Session.Basic

/-
Who keeps the finished calculations of a session. The historian is told of a calculation when
its result stands, in the name of a user; the session does not hear of what goes wrong there.
-/
namespace Reckon

variable {τ η α : Type}

/-- A historian, with a state `η` of its own. It is given a user and a calculation, and may
fail. -/
structure Historian (η : Type) where
  add : η → Json → Calculation → η × Except Failure Unit

/-- A calculation is kept, if there is a historian and a user to keep it for. A failure of the
historian ends here. -/
def Historian.record (historian : Option (Historian η)) (user : Json) (kept : η)
    (c : Calculation) : η × Except Failure Unit :=
  match historian with
  | none => (kept, .ok ())
  | some h =>
    if user.isTruthy then
      match h.add kept user c with
      | (kept, .ok ()) => (kept, .ok ())
      | (kept, .error _) => (kept, .ok ())
    else (kept, .ok ())

/-- What a step finished is recorded before the step is answered. -/
def Step.handOver (historian : Option (Historian η)) (user : Json) (kept : η) (st : Step τ α) :
    η × Step τ α :=
  match st.entry with
  | none => (kept, st)
  | some c =>
    match Historian.record historian user kept c with
    | (kept, .ok ()) => (kept, st)
    | (kept, .error e) => (kept, { st with answer := .error e })

end Reckon
