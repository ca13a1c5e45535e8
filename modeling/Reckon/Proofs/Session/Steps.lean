import Reckon.Proofs.Mode.Lock
import Reckon.Proofs.Session.Run

/-
What the steps of a session can do. A calculation ends in one of three ways
(`settle_cases`): it is done, its fault is shown, or it breaks down and leaves the
session as it was. The lemmas for `evaluate`, `percent` and `convert` say which session,
answer and entry each of these leaves, so nothing that follows has to open them again.
-/
namespace Reckon
open Number Tutor

theorem Mode.read_of_some {v : Json} {m : Mode} (h : Mode.ofJson? v = some m) :
    Mode.read v = .ok m := by
  simp only [Mode.read, h]

theorem Mode.read_of_none {v : Json} (h : Mode.ofJson? v = none) :
    ∃ e, Mode.read v = .error e := by
  simp only [Mode.read, h]
  exact ⟨_, rfl⟩

namespace Session

variable {τ : Type}

/-! ## Calculations -/

theorem settle_cases {α : Type} (s : Session τ) (outcome : Except Failure α)
    (shown : Session τ → List Char) (done : α → Step τ (List Char)) :
    (∃ a, outcome = .ok a ∧ s.settle outcome shown done = done a) ∨
    (∃ f, outcome = .error (.fault f) ∧
      s.settle outcome shown done = ⟨s.failed f, .ok (shown (s.failed f)), none⟩) ∨
    (∃ e, outcome = .error e ∧ (∀ f, e ≠ .fault f) ∧
      s.settle outcome shown done = ⟨s, .error e, none⟩) := by
  match outcome with
  | .ok a => exact .inl ⟨a, rfl, rfl⟩
  | .error (.fault f) => exact .inr (.inl ⟨f, rfl, rfl⟩)
  | .error (.refused r) => exact .inr (.inr ⟨.refused r, rfl, by simp, rfl⟩)
  | .error (.breakdown b) => exact .inr (.inr ⟨.breakdown b, rfl, by simp, rfl⟩)

theorem evaluate_cases (s : Session τ) :
    (s.expression = [] ∧ s.evaluate = ⟨s, .ok s.result, none⟩) ∨
    (∃ text, s.expression ≠ [] ∧ Evaluator.display (s.room - 2) s.mode s.expression = .ok text ∧
      s.evaluate = ⟨{ s with result := text, fault := none }, .ok text,
        some ⟨s.expression, text, s.mode⟩⟩) ∨
    (∃ f, s.expression ≠ [] ∧ Evaluator.display (s.room - 2) s.mode s.expression = .error (.fault f) ∧
      s.evaluate = ⟨s.failed f, .ok errorDisplay, none⟩) ∨
    (∃ e, s.expression ≠ [] ∧ Evaluator.display (s.room - 2) s.mode s.expression = .error e ∧
      (∀ f, e ≠ .fault f) ∧ s.evaluate = ⟨s, .error e, none⟩) := by
  by_cases hx : s.expression = []
  · exact .inl ⟨hx, by simp only [evaluate, hx, List.isEmpty_nil, if_true]⟩
  · have he : s.expression.isEmpty = false := by simpa using hx
    simp only [evaluate, he, Bool.false_eq_true, if_false]
    obtain ⟨text, h, hs⟩ | ⟨f, h, hs⟩ | ⟨e, h, hf, hs⟩ :=
      s.settle_cases (Evaluator.display (s.room - 2) s.mode s.expression) Session.result fun text =>
        ⟨{ s with result := text, fault := none }, .ok text, some ⟨s.expression, text, s.mode⟩⟩
    · exact .inr (.inl ⟨text, hx, h, hs⟩)
    · exact .inr (.inr (.inl ⟨f, hx, h, hs⟩))
    · exact .inr (.inr (.inr ⟨e, hx, h, hf, hs⟩))

theorem percent_cases (s : Session τ) (now : τ) :
    (s.expression = [] ∧ s.percent now = ⟨s, .ok [], none⟩) ∨
    (∃ v, s.expression ≠ [] ∧ value (s.room - 2) s.mode s.expression = .ok v ∧
      s.percent now = ⟨{ s.edit (resultText (v / 100)) now with fault := none },
        .ok (resultText (v / 100)), none⟩) ∨
    (∃ f, s.expression ≠ [] ∧ value (s.room - 2) s.mode s.expression = .error (.fault f) ∧
      s.percent now = ⟨s.failed f, .ok s.expression, none⟩) ∨
    (∃ e, s.expression ≠ [] ∧ value (s.room - 2) s.mode s.expression = .error e ∧
      (∀ f, e ≠ .fault f) ∧ s.percent now = ⟨s, .error e, none⟩) := by
  by_cases hx : s.expression = []
  · exact .inl ⟨hx, by simp only [percent, hx, List.isEmpty_nil, if_true]⟩
  · have he : s.expression.isEmpty = false := by simpa using hx
    simp only [percent, he, Bool.false_eq_true, if_false]
    obtain ⟨v, h, hs⟩ | ⟨f, h, hs⟩ | ⟨e, h, hf, hs⟩ :=
      s.settle_cases (value (s.room - 2) s.mode s.expression) Session.expression fun v =>
        ⟨{ s.edit (resultText (v / 100)) now with fault := none },
          .ok (resultText (v / 100)), none⟩
    · exact .inr (.inl ⟨v, hx, h, hs⟩)
    · exact .inr (.inr (.inl ⟨f, hx, h, hs⟩))
    · exact .inr (.inr (.inr ⟨e, hx, h, hf, hs⟩))

theorem convert_cases (s : Session τ) (r : Radix) :
    (∃ i, Conversion.number s.convertible s.expression = .ok i ∧
      s.convert r = ⟨{ s with expression := r.expression i, result := r.write i, fault := none },
        .ok (r.write i), some ⟨r.expression i, r.write i, s.mode⟩⟩) ∨
    (∃ f, Conversion.number s.convertible s.expression = .error (.fault f) ∧
      s.convert r = ⟨s.failed f, .ok errorDisplay, none⟩) ∨
    (∃ e, Conversion.number s.convertible s.expression = .error e ∧
      (∀ f, e ≠ .fault f) ∧ s.convert r = ⟨s, .error e, none⟩) :=
  s.settle_cases (Conversion.number s.convertible s.expression) Session.result fun i =>
    ⟨{ s with expression := r.expression i, result := r.write i, fault := none },
      .ok (r.write i), some ⟨r.expression i, r.write i, s.mode⟩⟩

/-- An explanation leaves an empty session alone; otherwise it evaluates, behind a note where
the solver failed, or breaks off with the solver. -/
theorem explain_split {σ : Type} (solve : σ → List Char → σ × Except Failure Solution) (helper : σ)
    (s : Session τ) :
    (s.expression = [] ∧ (s.explain solve helper).2 = ⟨s, .ok none, none⟩) ∨
    (∃ solution, s.expression ≠ [] ∧ (solve helper s.expression).2 = .ok solution ∧
      (s.explain solve helper).2 = s.evaluate.map fun _ => some solution) ∨
    (∃ f, s.expression ≠ [] ∧ (solve helper s.expression).2 = .error (.fault f) ∧
      (s.explain solve helper).2 = (s.note (noSteps f)).evaluate.map fun _ => none) ∨
    (∃ e, s.expression ≠ [] ∧ (solve helper s.expression).2 = .error e ∧ (∀ f, e ≠ .fault f) ∧
      (s.explain solve helper).2 = ⟨s, .error e, none⟩) := by
  by_cases hx : s.expression = []
  · exact .inl ⟨hx, by simp only [explain, hx, List.isEmpty_nil, if_true]⟩
  · have he : s.expression.isEmpty = false := by simpa using hx
    simp only [explain, he, Bool.false_eq_true, if_false]
    match solve helper s.expression with
    | (_, .ok solution) => exact .inr (.inl ⟨solution, hx, rfl, rfl⟩)
    | (_, .error (.fault f)) => exact .inr (.inr (.inl ⟨f, hx, rfl, rfl⟩))
    | (_, .error (.refused r)) => exact .inr (.inr (.inr ⟨.refused r, hx, rfl, by simp, rfl⟩))
    | (_, .error (.breakdown b)) => exact .inr (.inr (.inr ⟨.breakdown b, hx, rfl, by simp, rfl⟩))

theorem explain_cases (s : Session τ) (solve : List Char → Except Failure Solution) :
    (∃ answer, (Session.explain (fun (_ : Unit) text => ((), solve text)) () s).2 =
      ⟨s, answer, none⟩) ∨
    (∃ ns f, (Session.explain (fun (_ : Unit) text => ((), solve text)) () s).2 =
      ({ s with notes := ns }.evaluate).map f) := by
  obtain ⟨_, h⟩ | ⟨solution, _, _, h⟩ | ⟨f, _, _, h⟩ | ⟨e, _, _, _, h⟩ :=
    s.explain_split (fun (_ : Unit) text => ((), solve text)) ()
  · exact .inl ⟨_, h⟩
  · exact .inr ⟨s.notes, _, h⟩
  · exact .inr ⟨s.notes ++ [noSteps f], _, h⟩
  · exact .inl ⟨_, h⟩

/-! ## Replacing the expression -/

theorem edit_mode (s : Session τ) (text : List Char) (now : τ) : (s.edit text now).mode = s.mode :=
  s.controller.changed_mode text now

section Lock

variable [LE τ] [DecidableLE τ]

theorem replace_of_ne {text : List Char} (h : text ≠ []) (s : Session τ) (now : τ) :
    s.replace text now = s.edit text now := by
  have he : text.isEmpty = false := by simpa using h
  simp only [replace, he, Bool.false_eq_true, if_false]

/-- The expression on screen after something was said. -/
def said (s : Session τ) (transcript : List Char) : List Char :=
  if (Voice.hear transcript).1 = [] then s.expression else (Voice.hear transcript).1

/-- What was heard replaces the expression if there is any, and is evaluated if that was
asked for. -/
theorem listen_split (s : Session τ) (transcript : List Char) (now : τ) :
    ∃ s' : Session τ, s'.expression = s.said transcript ∧ s'.mode = s.mode ∧ s'.room = s.room ∧
      s'.notes = s.notes ∧ (s' = s ∨ ∃ text, text ≠ [] ∧ s' = s.edit text now) ∧
      s.listen transcript now = if (Voice.hear transcript).2 then s'.evaluate else s'.edited := by
  simp only [listen, said]
  obtain ⟨text, asked⟩ := Voice.hear transcript
  by_cases hx : text = []
  · subst hx
    exact ⟨s, rfl, rfl, rfl, rfl, .inl rfl, rfl⟩
  · have he : text.isEmpty = false := by simpa using hx
    refine ⟨s.edit text now, ?_, s.edit_mode text now, rfl, rfl, .inr ⟨text, hx, rfl⟩, ?_⟩
    · simp only [hx, if_false, edit]
    · simp only [he, Bool.false_eq_true, if_false, replace_of_ne hx]

theorem listen_cases (s : Session τ) (transcript : List Char) (now : τ) :
    ∃ s' : Session τ, (s' = s ∨ ∃ text, text ≠ [] ∧ s' = s.edit text now) ∧
      (s.listen transcript now = s'.evaluate ∨ s.listen transcript now = s'.edited) := by
  obtain ⟨s', _, _, _, _, hs, h⟩ := s.listen_split transcript now
  refine ⟨s', hs, ?_⟩
  rw [h]
  split
  · exact .inl rfl
  · exact .inr rfl

/-- A tick asks for a due expression, and delivers the verdict on it if there is one. -/
theorem tick_cases [Sub τ] [LT τ] [DecidableLT τ] (s : Session τ)
    (classify : List Char → Except Failure Mode) (now : τ) :
    (∃ answer, (Session.tick (fun (_ : Unit) text => ((), classify text)) () s now).2 =
      ⟨(s.request now).1, answer, none⟩) ∨
    (∃ text m, (s.request now).2 = some text ∧ classify text = .ok m ∧
      (Session.tick (fun (_ : Unit) text => ((), classify text)) () s now).2 =
        ⟨((s.request now).1.receive text m now).1,
          .ok ((s.request now).1.receive text m now).2, none⟩) := by
  unfold tick
  split
  · next s' h => exact .inl ⟨.ok false, by rw [h]⟩
  · next s' text h =>
    simp only
    cases hc : classify text with
    | error e => exact .inl ⟨.error e, by rw [h]⟩
    | ok m => exact .inr ⟨text, m, by rw [h], hc, by rw [h]⟩

end Lock

/-! ## Modes by name -/

theorem switchNamed_of_known [Add τ] {v : Json} {m : Mode} (h : Mode.ofJson? v = some m)
    (s : Session τ) (now : τ) :
    s.switchNamed v now = ⟨(s.switchTo m now).1, .ok (s.switchTo m now).2, none⟩ := by
  simp only [switchNamed, Mode.read_of_some h]

theorem switchNamed_of_unknown [Add τ] {v : Json} (h : Mode.ofJson? v = none)
    (s : Session τ) (now : τ) : (s.switchNamed v now).session = s := by
  obtain ⟨e, he⟩ := Mode.read_of_none h
  simp only [switchNamed, he]

end Session

end Reckon
