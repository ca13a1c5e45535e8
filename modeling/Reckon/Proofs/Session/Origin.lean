import Mathlib.Data.List.Induction
import Reckon.Proofs.Mode.Lock
import Reckon.Proofs.Session.Conversion

/-
Where a shown result comes from. In every session that was opened fresh, a result other
than none and the error belongs to the expression beside it: some event of the run worked
out that very expression in the mode of that moment, or the expression names a whole
number and the result is this number in its base. `Shown` says what a single step may do
to the result; `result_origin` follows from it over a run.
-/
namespace Reckon.Session
open Mode Controller

variable {τ : Type}

/-- What a step leaves in the place of the result. -/
inductive Shown {α : Type} (s : Session τ) (st : Step τ α) : Prop
  | blank : st.session.result = [] → Shown s st
  | error : st.session.result = errorDisplay → Shown s st
  | kept : st.session.expression = s.expression → st.session.result = s.result → Shown s st
  | computed : Evaluator.display (s.room - 2) s.mode st.session.expression = .ok st.session.result →
      st.entry = some ⟨st.session.expression, st.session.result, s.mode⟩ → Shown s st
  | converted (r : Radix) (i : Int) : st.session.expression = r.expression i →
      st.session.result = r.write i → Shown s st

/-! ## Steps -/

theorem Shown.map {α β : Type} {s : Session τ} {st : Step τ α} (h : Shown s st) (f : α → β) :
    Shown s (st.map f) := by
  cases h with
  | blank h => exact .blank h
  | error h => exact .error h
  | kept hx hr => exact .kept hx hr
  | computed hd he => exact .computed hd he
  | converted r i hx hr => exact .converted r i hx hr

theorem shown_evaluate (s : Session τ) : Shown s s.evaluate := by
  obtain ⟨_, h⟩ | ⟨text, _, hd, h⟩ | ⟨f, _, _, h⟩ | ⟨e, _, _, _, h⟩ := s.evaluate_cases
  · rw [h]; exact .kept rfl rfl
  · rw [h]; exact .computed hd rfl
  · rw [h]; exact .error rfl
  · rw [h]; exact .kept rfl rfl

/-- Evaluating a session that shows no result and has the mode and the room of `s` counts as a
step of `s`. -/
theorem shown_evaluate_of_blank {s s' : Session τ} (hm : s'.mode = s.mode)
    (hroom : s'.room = s.room) (hr : s'.result = []) : Shown s s'.evaluate := by
  cases shown_evaluate s' with
  | blank h => exact .blank h
  | error h => exact .error h
  | kept _ h => exact .blank (h.trans hr)
  | computed hd he =>
    rw [hm] at hd he
    rw [hroom] at hd
    exact .computed hd he
  | converted r i hx h => exact .converted r i hx h

theorem shown_percent (s : Session τ) (now : τ) : Shown s (s.percent now) := by
  obtain ⟨_, h⟩ | ⟨v, _, _, h⟩ | ⟨f, _, _, h⟩ | ⟨e, _, _, _, h⟩ := s.percent_cases now
  · rw [h]; exact .kept rfl rfl
  · rw [h]; exact .blank rfl
  · rw [h]; exact .error rfl
  · rw [h]; exact .kept rfl rfl

theorem shown_convert (s : Session τ) (r : Radix) : Shown s (s.convert r) := by
  obtain ⟨i, _, h⟩ | ⟨f, _, h⟩ | ⟨e, _, _, h⟩ := s.convert_cases r
  · rw [h]; exact .converted r i rfl rfl
  · rw [h]; exact .error rfl
  · rw [h]; exact .kept rfl rfl

theorem shown_explain (s : Session τ) (solve : List Char → Except Failure Tutor.Solution) :
    Shown s (Session.explain (fun (_ : Unit) text => ((), solve text)) () s).2 := by
  obtain ⟨_, h⟩ | ⟨ns, f, h⟩ := s.explain_cases solve
  · rw [h]; exact .kept rfl rfl
  · rw [h]
    apply Shown.map
    cases shown_evaluate { s with notes := ns } with
    | blank h => exact .blank h
    | error h => exact .error h
    | kept hx hr => exact .kept hx hr
    | computed hd he => exact .computed hd he
    | converted r i hx hr => exact .converted r i hx hr

theorem shown_switchNamed [Add τ] (s : Session τ) (v : Json) (now : τ) :
    Shown s (s.switchNamed v now) := by
  cases h : Mode.ofJson? v with
  | none =>
    have hs := switchNamed_of_unknown h s now
    exact .kept (by rw [hs]) (by rw [hs])
  | some m =>
    rw [switchNamed_of_known h]
    simp only [switchTo]
    split
    · exact .blank rfl
    · exact .kept rfl rfl

section Order

variable [LE τ] [DecidableLE τ]

theorem replace_result (s : Session τ) (text : List Char) (now : τ) :
    (s.replace text now).result = [] := by
  by_cases hx : text = []
  · subst hx; rfl
  · rw [replace_of_ne hx]; rfl

theorem shown_press (s : Session τ) (k : Key) (now : τ) : Shown s (s.press k now) := by
  cases k with
  | equals => exact shown_evaluate s
  | clear => exact .blank rfl
  | backspace => exact .blank (replace_result s _ now)
  | percent => exact shown_percent s now
  | convert r => exact shown_convert s r
  | wrap w => exact .blank rfl
  | type token => exact .blank rfl

theorem shown_listen (s : Session τ) (transcript : List Char) (now : τ) :
    Shown s (s.listen transcript now) := by
  obtain ⟨s', hs, h⟩ := s.listen_cases transcript now
  obtain rfl | ⟨text, _, rfl⟩ := hs
  · obtain h | h := h
    · rw [h]; exact shown_evaluate s'
    · rw [h]; exact .kept rfl rfl
  · obtain h | h := h
    · rw [h]; exact shown_evaluate_of_blank (changed_mode s.controller text now) rfl rfl
    · rw [h]; exact .blank rfl

variable [Add τ] [Sub τ] [LT τ] [DecidableLT τ]

theorem shown_named (s : Session τ) (name : List Char) (now : τ) :
    Shown s (s.perform now (.press name)) := by
  obtain ⟨k, _, h⟩ | ⟨h, _⟩ := s.perform_press name now
  · rw [h]; exact (shown_press s k now).map _
  · exact .kept (by rw [h]) (by rw [h])

theorem perform_shown (s : Session τ) (now : τ) (o : Operation) : Shown s (s.perform now o) := by
  cases o with
  | press name => exact shown_named s name now
  | keyboard name => exact shown_named s (Key.ofKeyboard name) now
  | listen transcript => exact (shown_listen s transcript now).map _
  | replace text => exact .blank (replace_result s text now)
  | type token => exact .blank rfl
  | switch v => exact (shown_switchNamed s v now).map _
  | request => exact .kept rfl rfl
  | receive text v => exact .kept rfl rfl
  | tick classify =>
    cases classify with
    | none => exact .kept rfl rfl
    | some classify =>
      apply Shown.map
      obtain ⟨_, h⟩ | ⟨text, m, _, _, h⟩ := s.tick_cases classify now
      · rw [h]; exact .kept rfl rfl
      · rw [h]; exact .kept rfl rfl
  | explain solve => exact (shown_explain s solve).map _
  | view => exact .kept rfl rfl
  | drain => exact .kept rfl rfl

/-! ## Runs -/

/-- The event works out an expression in the mode in force and leaves it with its result. -/
structure Computes (s : Session τ) (e : Event τ) (expression result : List Char) : Prop where
  expression_eq : (s.after e).expression = expression
  result_eq : (s.after e).result = result
  display : Evaluator.display (s.room - 2) s.mode expression = .ok result
  entry : (s.perform e.time e.operation).entry = some ⟨expression, result, s.mode⟩

/-- The expression names a whole number, and the result is this number in its base. -/
def IsConversion (expression result : List Char) : Prop :=
  ∃ (r : Radix) (i : Int), expression = r.expression i ∧ result = r.write i

theorem result_origin (policy : Policy τ) (m : Mode) (room : Nat) (es : List (Event τ)) :
    ((fresh policy m room).run es).result = [] ∨
    ((fresh policy m room).run es).result = errorDisplay ∨
    (∃ before e rest, es = before ++ e :: rest ∧
      Computes ((fresh policy m room).run before) e ((fresh policy m room).run es).expression
        ((fresh policy m room).run es).result) ∨
    IsConversion ((fresh policy m room).run es).expression ((fresh policy m room).run es).result := by
  induction es using List.reverseRecOn with
  | nil => exact .inl rfl
  | append_singleton es e ih =>
    rw [run_append, run_singleton]
    cases ((fresh policy m room).run es).perform_shown e.time e.operation with
    | blank h => exact .inl h
    | error h => exact .inr (.inl h)
    | kept hx hr =>
      -- nothing new is shown, so the old origin still holds
      change ((fresh policy m room).run es |>.after e).expression = _ at hx
      change ((fresh policy m room).run es |>.after e).result = _ at hr
      rw [hx, hr]
      obtain h | h | ⟨before, e', rest, rfl, hc⟩ | h := ih
      · exact .inl h
      · exact .inr (.inl h)
      · exact .inr (.inr (.inl ⟨before, e', rest ++ [e], by simp, hc⟩))
      · exact .inr (.inr (.inr h))
    | computed hd he => exact .inr (.inr (.inl ⟨es, e, [], rfl, rfl, rfl, hd, he⟩))
    | converted r i hx hr => exact .inr (.inr (.inr ⟨r, i, hx, hr⟩))

/-- Asked to convert beside a converted number, a session keeps the expression and shows
the error. -/
theorem perform_convert_again {s : Session τ} {r : Radix} {i : Int}
    (h : s.expression = r.expression i) {o : Operation} {r' : Radix}
    (ho : o.key? = some (.convert r')) (now : τ) :
    (s.perform now o).session.expression = s.expression ∧
    (s.perform now o).session.result = errorDisplay ∧
    (s.perform now o).session.fault.map Fault.kind = some .conversion ∧
    (s.perform now o).entry = none := by
  obtain ⟨f, hk, hc⟩ := convert_expression h r'
  have hp : s.perform now o = (s.convert r').map .text := perform_of_key ho s now
  rw [hp, hc]
  exact ⟨rfl, rfl, congrArg some hk, rfl⟩

/-- In every run of a fresh session a result that is shown belongs to the expression beside
it, and no number that was converted is converted again. -/
theorem shown_result_belongs (policy : Policy τ) (m : Mode) (room : Nat) (es : List (Event τ)) :
    (((fresh policy m room).run es).result ≠ [] → ((fresh policy m room).run es).result ≠ errorDisplay →
      (∃ before e rest, es = before ++ e :: rest ∧
        Computes ((fresh policy m room).run before) e ((fresh policy m room).run es).expression
          ((fresh policy m room).run es).result) ∨
      IsConversion ((fresh policy m room).run es).expression ((fresh policy m room).run es).result) ∧
    (∀ (r : Radix) (i : Int), ((fresh policy m room).run es).expression = r.expression i →
      ∀ (now : τ) (o : Operation) (r' : Radix), o.key? = some (.convert r') →
        (((fresh policy m room).run es).perform now o).session.expression = r.expression i ∧
        (((fresh policy m room).run es).perform now o).session.result = errorDisplay ∧
        (((fresh policy m room).run es).perform now o).session.fault.map Fault.kind =
          some .conversion ∧
        (((fresh policy m room).run es).perform now o).entry = none) := by
  refine ⟨?_, ?_⟩
  · intro hne herr
    obtain h | h | h | h := result_origin policy m room es
    · exact absurd h hne
    · exact absurd h herr
    · exact .inl h
    · exact .inr h
  · intro r i hx now o r' ho
    obtain ⟨h₁, h₂⟩ := perform_convert_again hx ho now
    exact ⟨h₁.trans hx, h₂⟩

end Order

/-- Ten is typed and asked for in base two. -/
def tenInBinary : List (Event ℤ) := [⟨0, .type "10".toList⟩, ⟨1, .press "bin".toList⟩]

/-- The result is the converted ten, and asking for base sixteen beside it fails. -/
theorem tenInBinary_shown :
    ((fresh ⟨2, 1, false⟩ .standard).run tenInBinary).result = "1010".toList ∧
    ((∃ before e rest, tenInBinary = before ++ e :: rest ∧
        Computes ((fresh ⟨2, 1, false⟩ .standard).run before) e
          ((fresh ⟨2, 1, false⟩ .standard).run tenInBinary).expression
          ((fresh ⟨2, 1, false⟩ .standard).run tenInBinary).result) ∨
      IsConversion ((fresh ⟨2, 1, false⟩ .standard).run tenInBinary).expression
        ((fresh ⟨2, 1, false⟩ .standard).run tenInBinary).result) ∧
    (((fresh ⟨2, 1, false⟩ .standard).run tenInBinary).perform 2
      (.press "hex".toList)).session.result = errorDisplay := by
  obtain ⟨origin, again⟩ := shown_result_belongs (⟨2, 1, false⟩ : Policy ℤ) .standard
    Evaluator.usualRoom tenInBinary
  refine ⟨by decide, origin (by decide) (by decide), ?_⟩
  exact (again .binary 10 (by decide) 2 (.press "hex".toList) .hexadecimal (by decide)).2.1

end Reckon.Session
