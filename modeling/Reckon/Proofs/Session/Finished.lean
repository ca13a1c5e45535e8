import Reckon.Proofs.Session.Steps

/-
What the steps of a session finish. A calculation is finished where an expression has a
result in the mode of the session (`Calculation.IsOf`), and where the whole number on screen
is converted (`Converts`); nothing else finishes one. For each way of calculating there is
one lemma that tells its entry: the keys, what is said, and an explanation.
-/
namespace Reckon
open Number Tutor

/-- The calculation of an expression in a mode: there is an expression, and the result is
what is displayed for it. -/
def Calculation.IsOf (c : Calculation) (room : Nat) (mode : Mode) (expression : List Char) : Prop :=
  expression ≠ [] ∧ Evaluator.display room mode expression = .ok c.result ∧
    c.expression = expression ∧ c.mode = mode

theorem Calculation.isOf_of_display {c : Calculation} {room : Nat} {mode : Mode}
    {expression text : List Char} (hx : expression ≠ [])
    (hd : Evaluator.display room mode expression = .ok text) :
    c.IsOf room mode expression ↔ c = ⟨expression, text, mode⟩ := by
  refine ⟨?_, ?_⟩
  · rintro ⟨_, hr, rfl, rfl⟩
    rw [hd] at hr
    rw [Except.ok.inj hr]
  · rintro rfl
    exact ⟨hx, hd, rfl, rfl⟩

namespace Session

variable {τ : Type}

/-- The whole number on screen is converted: the expression names it with its base, and the
result is the number in that base. -/
def Converts (s : Session τ) (r : Radix) (c : Calculation) : Prop :=
  ∃ i, Conversion.number s.convertible s.expression = .ok i ∧
    c = ⟨r.expression i, r.write i, s.mode⟩

/-- A key finishes a calculation. -/
def KeyFinishes (s : Session τ) : Key → Calculation → Prop
  | .equals, c => c.IsOf (s.room - 2) s.mode s.expression
  | .convert r, c => s.Converts r c
  | _, _ => False

/-! ## Calculating -/

theorem evaluate_entry (s : Session τ) (c : Calculation) :
    s.evaluate.entry = some c ↔ c.IsOf (s.room - 2) s.mode s.expression := by
  obtain ⟨hx, h⟩ | ⟨text, hx, hd, h⟩ | ⟨f, hx, hd, h⟩ | ⟨e, hx, hd, _, h⟩ := s.evaluate_cases
  · simp [h, Calculation.IsOf, hx]
  · rw [h, Option.some.injEq, eq_comm, Calculation.isOf_of_display hx hd]
  · simp [h, Calculation.IsOf, hd]
  · simp [h, Calculation.IsOf, hd]

theorem percent_entry (s : Session τ) (now : τ) : (s.percent now).entry = none := by
  obtain ⟨_, h⟩ | ⟨_, _, _, h⟩ | ⟨_, _, _, h⟩ | ⟨_, _, _, _, h⟩ := s.percent_cases now <;> rw [h]

theorem convert_entry (s : Session τ) (r : Radix) (c : Calculation) :
    (s.convert r).entry = some c ↔ s.Converts r c := by
  obtain ⟨i, hi, h⟩ | ⟨f, hi, h⟩ | ⟨e, hi, _, h⟩ := s.convert_cases r
  · simp [h, Converts, hi, eq_comm]
  · simp [h, Converts, hi]
  · simp [h, Converts, hi]

theorem press_entry [LE τ] [DecidableLE τ] (s : Session τ) (k : Key) (now : τ) (c : Calculation) :
    (s.press k now).entry = some c ↔ s.KeyFinishes k c := by
  cases k with
  | equals => exact s.evaluate_entry c
  | convert r => exact s.convert_entry r c
  | percent => simp [press, percent_entry, KeyFinishes]
  | clear => simp [press, edited, KeyFinishes]
  | backspace => simp [press, edited, KeyFinishes]
  | wrap w => simp [press, edited, KeyFinishes]
  | type token => simp [press, edited, KeyFinishes]

theorem pressNamed_entry [LE τ] [DecidableLE τ] (s : Session τ) (name : List Char) (now : τ)
    (c : Calculation) :
    (s.pressNamed name now).entry = some c ↔
      ∃ k, Key.ofText? name = some k ∧ s.KeyFinishes k c := by
  cases h : Key.ofText? name with
  | none => simp [(pressNamed_of_unknown h).2]
  | some k => simp [pressNamed_of_key h, press_entry]

/-! ## Saying and explaining -/

/-- What is said finishes a calculation if it ends with a closing word. -/
theorem listen_entry [LE τ] [DecidableLE τ] (s : Session τ) (transcript : List Char) (now : τ)
    (c : Calculation) :
    (s.listen transcript now).entry = some c ↔
      (Voice.hear transcript).2 = true ∧ c.IsOf (s.room - 2) s.mode (s.said transcript) := by
  obtain ⟨s', hx, hm, hr, _, _, h⟩ := s.listen_split transcript now
  rw [h]
  split
  · next hasked => rw [evaluate_entry, hm, hr, hx]; simp [hasked]
  · next hasked => simp [edited, hasked]

/-- An explanation finishes a calculation unless it breaks off with the solver. -/
theorem explain_entry {σ : Type} (solve : σ → List Char → σ × Except Failure Solution)
    (helper : σ) (s : Session τ) (c : Calculation) :
    (s.explain solve helper).2.entry = some c ↔
      (∀ e, (solve helper s.expression).2 = .error e → ∃ f, e = .fault f) ∧
        c.IsOf (s.room - 2) s.mode s.expression := by
  obtain ⟨hx, h⟩ | ⟨solution, _, ho, h⟩ | ⟨f, _, ho, h⟩ | ⟨e, _, ho, hf, h⟩ :=
    s.explain_split solve helper
  · simp [h, Calculation.IsOf, hx]
  · simp [h, evaluate_entry, ho]
  · rw [h, Step.map_entry, evaluate_entry]
    simp [ho, note, mode]
  · rw [h, ho]
    simp [hf]

/-! ## Steps that finish nothing -/

theorem switchNamed_entry [Add τ] (s : Session τ) (m : Json) (now : τ) :
    (s.switchNamed m now).entry = none := by
  unfold switchNamed
  split <;> rfl

theorem tick_entry [Sub τ] [LT τ] [DecidableLT τ] [LE τ] [DecidableLE τ] {σ : Type}
    (classify : σ → List Char → σ × Except Failure Mode) (helper : σ) (s : Session τ) (now : τ) :
    (Session.tick classify helper s now).2.entry = none := by
  unfold tick
  split
  · rfl
  · split <;> rfl

end Session

end Reckon
