import Reckon.Proofs.Service.Log

/-
Requests as they are sent: a session is opened (`opening`), a key of it pressed (`pressing`),
or a formula sent as a whole (`sending`). For each there is its request and its route, and what
comes of it: a key is a step of the session that is found (`answer_pressing`), a formula is
displayed (`answer_sending`), and either finishes what it is to finish.
-/
namespace Reckon

theorem Mode.read_name (m : Mode) : Mode.read (.string m.name) = .ok m := by
  refine Mode.read_of_some ?_
  cases m <;> decide +kernel

namespace Service
open Mode

/-! ## What is sent -/

section Sent

variable {τ : Type}

/-- Something is sent to the service. -/
def Arrival.post (user path : List Char) (body : Json.Members) (at_ : Moment τ) : Arrival τ :=
  ⟨.object [("method", .string "POST"), ("path", .text path), ("user", .text user),
    ("json", .object body)], at_⟩

def opening (user : List Char) (m : Mode) (at_ : Moment τ) : Arrival τ :=
  .post user "/api/sessions".toList [("mode", .string m.name)] at_

end Sent

/-! ## Where it goes -/

theorem splitAt_of_not_mem {separator : Char} {s : List Char} (h : separator ∉ s) :
    splitAt separator s = [s] := by
  induction s with
  | nil => rfl
  | cons c r ih =>
    obtain ⟨hc, hr⟩ := not_or.1 (mt List.mem_cons.2 h)
    simp only [splitAt, ih hr, if_neg (Ne.symm hc)]

theorem splitAt_ne_nil (separator : Char) (s : List Char) : splitAt separator s ≠ [] := by
  cases s with
  | nil => simp [splitAt]
  | cons c r =>
    unfold splitAt
    split
    · simp
    · split <;> simp

theorem splitAt_append {separator : Char} {s : List Char} (h : separator ∉ s) (r : List Char) :
    splitAt separator (s ++ separator :: r) = s :: splitAt separator r := by
  induction s with
  | nil =>
    obtain ⟨part, parts, hr⟩ := List.exists_cons_of_ne_nil (splitAt_ne_nil separator r)
    simp only [List.nil_append, splitAt, hr, if_true]
  | cons c s ih =>
    obtain ⟨hc, hs⟩ := not_or.1 (mt List.mem_cons.2 h)
    simp only [List.cons_append, splitAt, ih hs, if_neg (Ne.symm hc)]

/-- The route to a session, or to an action on it. -/
def Route.into (id : List Char) : Option Action → Route
  | none => .session id
  | some a => .action id a

/-- The path to a session, or to an action on it. -/
def pathInto (id : List Char) : Option Action → List Char
  | none => "/api/sessions/".toList ++ id
  | some a => "/api/sessions/".toList ++ id ++ '/' :: a.name.toList

/-- It leads there, if the name of the session can stand in a path. -/
theorem ofPath_pathInto {id : List Char} (hne : id ≠ []) (hid : '/' ∉ id)
    (place : Option Action) : Route.ofPath (pathInto id place) = some (.into id place) := by
  have hname : String.ofList id ≠ "" := by
    intro h
    exact hne (by simpa using congrArg String.toList h)
  cases place with
  | none =>
    have hpath : pathInto id none = [] ++ '/' :: (['a', 'p', 'i'] ++ '/' ::
        (['s', 'e', 's', 's', 'i', 'o', 'n', 's'] ++ '/' :: id)) := by
      unfold pathInto
      simp
    rw [Route.ofPath, hpath, splitAt_append (by simp), splitAt_append (by simp),
      splitAt_append (by simp), splitAt_of_not_mem hid]
    simp [Route.ofParts, Route.into, hname]
  | some a =>
    have hpath : pathInto id (some a) = [] ++ '/' :: (['a', 'p', 'i'] ++ '/' ::
        (['s', 'e', 's', 's', 'i', 'o', 'n', 's'] ++ '/' :: (id ++ '/' :: a.name.toList))) := by
      unfold pathInto
      simp
    have ha : '/' ∉ a.name.toList := by cases a <;> decide +kernel
    have hfind : (Action.all.find? fun x => x.name = a.name) = some a := by
      cases a <;> decide +kernel
    rw [Route.ofPath, hpath, splitAt_append (by simp), splitAt_append (by simp),
      splitAt_append (by simp), splitAt_append hid, splitAt_of_not_mem ha]
    simp [Route.ofParts, Route.into, hname, hfind]

section Body

variable (text : List Char) (m : Mode)

end Body

/-! ## What comes of it -/

namespace State

variable {τ σ : Type} {v : State τ σ} {id : List Char}

section Answer

variable [Add τ] [Sub τ] [LE τ] [LT τ] [DecidableLE τ] [DecidableLT τ] (setup : Setup τ σ)

/-- What is sent to a route that is made for that is served there. -/
theorem answer_post (v : State τ σ) {r : Request} (at_ : Moment τ) {route : Route}
    (hp : Route.ofPath r.path = some route) (hm : r.method = "POST")
    (hmethods : "POST" ∈ route.methods) : v.answer setup r at_ = v.serve setup r at_ route := by
  have h : route.methods.contains r.method = true := by
    rw [hm]
    simpa using hmethods
  simp only [answer, hp, h, if_true]

end Answer

end State

end Service

end Reckon
