import Reckon.Session.Teaching
import Mathlib.Data.List.Basic

/-
Runs of a session. An `Operation` is one thing that can be done to a session, by the
user, by a classifier or by whoever looks at it; an `Event` is an operation at a time.
A classifier and a solver are given by their answers at the moment they are asked, so
a run covers helpers with any memory of their own. `run` carries a session through a
list of events, `InOrder` says that the clock never goes back.
-/
namespace Reckon
open Tutor

/-- The step with its answer read in another way. -/
def Step.map {τ α β : Type} (f : α → β) (st : Step τ α) : Step τ β :=
  ⟨st.session, st.answer.map f, st.entry⟩

@[simp] theorem Step.map_session {τ α β : Type} (f : α → β) (st : Step τ α) :
    (st.map f).session = st.session := rfl

@[simp] theorem Step.map_entry {τ α β : Type} (f : α → β) (st : Step τ α) :
    (st.map f).entry = st.entry := rfl

namespace Session

variable {τ : Type}

/-- A session that was just opened. -/
def fresh (policy : Mode.Policy τ) (m : Mode) (room : Nat := Evaluator.usualRoom) : Session τ :=
  { controller := { mode := m, policy := policy }, room := room }

/-- What can be done to a session. Keys and modes are given by their names; a session
may have no classifier. -/
inductive Operation where
  | press (name : List Char)
  | keyboard (name : List Char)
  | listen (transcript : List Char)
  | replace (text : List Char)
  | type (token : List Char)
  | switch (mode : Json)
  | request
  | receive (requestedFor : List Char) (verdict : Json)
  | tick (classify : Option (List Char → Except Failure Mode))
  | explain (solve : List Char → Except Failure Solution)
  | view
  | drain

/-- What an operation answers. -/
inductive Reply where
  | text (s : List Char)
  | flag (b : Bool)
  | due (text : Option (List Char))
  | solution (s : Option Solution)
  | view (v : View)
  | notes (ns : List Note)

/-- The key that an operation presses, if it presses one. -/
def Operation.key? : Operation → Option Key
  | .press name => Key.ofText? name
  | .keyboard name => Key.ofText? (Key.ofKeyboard name)
  | _ => none

/-- The mode that the user picks by an operation. -/
def Operation.picked? : Operation → Option Mode
  | .switch m => Mode.ofJson? m
  | _ => none

/-- An operation and its time. -/
structure Event (τ : Type) where
  time : τ
  operation : Operation

/-- The events come in the order of their times. -/
def InOrder [LE τ] (es : List (Event τ)) : Prop := es.Pairwise fun a b => a.time ≤ b.time

theorem InOrder.init [LE τ] {es fs : List (Event τ)} (h : InOrder (es ++ fs)) : InOrder es :=
  (List.pairwise_append.1 h).1

theorem InOrder.le_last [LE τ] {es : List (Event τ)} {e x : Event τ} (h : InOrder (es ++ [e]))
    (hx : x ∈ es) : x.time ≤ e.time :=
  (List.pairwise_append.1 h).2.2 x hx e (List.mem_singleton_self e)

/-! ## Keys by name -/

section Key

variable [LE τ] [DecidableLE τ]

theorem pressNamed_of_key {s : Session τ} {name : List Char} {k : Key} {now : τ}
    (h : Key.ofText? name = some k) : s.pressNamed name now = s.press k now := by
  simp only [pressNamed, Key.read, h]

theorem pressNamed_of_unknown {s : Session τ} {name : List Char} {now : τ}
    (h : Key.ofText? name = none) :
    (s.pressNamed name now).session = s ∧ (s.pressNamed name now).entry = none := by
  simp only [pressNamed, Key.read, h, and_self]

end Key

/-! ## Runs -/

variable [Add τ] [Sub τ] [LE τ] [LT τ] [DecidableLE τ] [DecidableLT τ]

def perform (s : Session τ) (now : τ) : Operation → Step τ Reply
  | .press name => (s.pressNamed name now).map .text
  | .keyboard name => (s.pressKeyboard name now).map .text
  | .listen transcript => (s.listen transcript now).map .text
  | .replace text => (s.replace text now).edited.map .text
  | .type token => (s.type token now).edited.map .text
  | .switch m => (s.switchNamed m now).map .flag
  | .request => let (s, text) := s.request now; ⟨s, .ok (.due text), none⟩
  | .receive requestedFor verdict => (s.receiveNamed requestedFor verdict now).map .flag
  | .tick none => ⟨s, .ok (.flag false), none⟩
  | .tick (some classify) =>
    (Session.tick (fun _ text => ((), classify text)) () s now).2.map .flag
  | .explain solve => (Session.explain (fun _ text => ((), solve text)) () s).2.map .solution
  | .view => let (s, v) := s.view now; ⟨s, .ok (.view v), none⟩
  | .drain => let (s, ns) := s.drain; ⟨s, .ok (.notes ns), none⟩

def after (s : Session τ) (e : Event τ) : Session τ := (s.perform e.time e.operation).session

def run (s : Session τ) (es : List (Event τ)) : Session τ := es.foldl after s

@[simp] theorem run_append (s : Session τ) (es fs : List (Event τ)) :
    s.run (es ++ fs) = (s.run es).run fs := List.foldl_append

@[simp] theorem run_singleton (s : Session τ) (e : Event τ) : s.run [e] = s.after e := rfl

theorem run_concat (s : Session τ) (es : List (Event τ)) (e : Event τ) :
    s.run (es ++ [e]) = (s.run es).after e := by
  rw [run_append, run_singleton]

/-- What each event keeps, a run keeps. -/
theorem run_induction {P : Session τ → Prop} {s : Session τ} (start : P s)
    (step : ∀ (s : Session τ) (e : Event τ), P s → P (s.after e)) (es : List (Event τ)) :
    P (s.run es) := by
  induction es generalizing s with
  | nil => exact start
  | cons e es ih => exact ih (step s e start)

theorem perform_of_key {o : Operation} {k : Key} (h : o.key? = some k) (s : Session τ) (now : τ) :
    s.perform now o = (s.press k now).map .text := by
  cases o with
  | press name => simp only [perform, pressNamed_of_key h]
  | keyboard name => simp only [perform, pressKeyboard, pressNamed_of_key h]
  | _ => simp [Operation.key?] at h

/-- A key given by its name acts as the key, or is unknown and does nothing. -/
theorem perform_press (s : Session τ) (name : List Char) (now : τ) :
    (∃ k, Key.ofText? name = some k ∧ s.perform now (.press name) = (s.press k now).map .text) ∨
    (s.perform now (.press name)).session = s ∧ (s.perform now (.press name)).entry = none := by
  cases h : Key.ofText? name with
  | none => exact .inr (pressNamed_of_unknown h)
  | some k => exact .inl ⟨k, rfl, perform_of_key (o := .press name) h s now⟩

end Session

end Reckon
