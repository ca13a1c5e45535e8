import Mathlib.Algebra.Order.Ring.Int
import Reckon.Proofs.Mode.Asking
import Reckon.Proofs.Session.Collaborators

/-
Looking at a session. To look at it takes away a lock that has run out, and nothing else
(`looked`). An operation does to a session that was just looked at what it does to the session
itself, but perhaps for such a lock (`perform_looked`): most operations never read the lock, a
switch sets a new one whatever there was, and verdicts and clearing find out about it by
themselves. So it is not noticed how often, and when, somebody looks at a session or asks its
controller whether it is locked (`questions_unnoticed`).
-/
namespace Reckon

variable {τ α : Type}

def Session.looked [LE τ] [DecidableLE τ] (now : τ) (s : Session τ) : Session τ := (s.view now).1

/-- A step whose session was looked at. -/
def Step.looked [LE τ] [DecidableLE τ] (now : τ) (st : Step τ α) : Step τ α :=
  { st with session := st.session.looked now }

variable [LinearOrder τ] (now : τ)

theorem Session.looked_looked (s : Session τ) {later : τ} (h : now ≤ later) :
    (s.looked now).looked later = s.looked later := by
  simp only [looked, view, Mode.Controller.expire_expire _ h]

theorem Step.looked_looked (st : Step τ α) : (st.looked now).looked now = st.looked now := by
  simp only [looked, Session.looked_looked now _ (le_refl now)]

namespace Session
open Mode Tutor

variable (s : Session τ)

theorem looked_mode : (s.looked now).mode = s.mode := s.controller.expire_mode now

/-! ## Operations that do not read the lock -/

theorem edit_looked (text : List Char) :
    (s.looked now).edit text now = (s.edit text now).looked now := by
  simp only [edit, looked, view, Controller.changed_expire]

theorem settle_looked {outcome : Except Failure α} {shown : Session τ → List Char}
    {done done' : α → Step τ (List Char)} (hshown : ∀ s, shown (looked now s) = shown s)
    (hdone : ∀ a, done' a = (done a).looked now) :
    (s.looked now).settle outcome shown done' = (s.settle outcome shown done).looked now := by
  have hfailed (f : Fault) : (s.looked now).failed f = (s.failed f).looked now := rfl
  unfold settle
  split
  · exact hdone _
  · rw [hfailed, hshown]
    rfl
  · rfl

theorem evaluate_looked : (s.looked now).evaluate = s.evaluate.looked now := by
  have hx : (s.looked now).expression = s.expression := rfl
  unfold evaluate
  rw [hx, looked_mode]
  split
  · rfl
  · exact settle_looked now s (fun _ => rfl) fun _ => rfl

theorem percent_looked : (s.looked now).percent now = (s.percent now).looked now := by
  have hx : (s.looked now).expression = s.expression := rfl
  unfold percent
  rw [hx, looked_mode]
  split
  · rfl
  · refine settle_looked now s (fun _ => rfl) fun v => ?_
    simp only [edit_looked]
    rfl

theorem convert_looked (r : Radix) : (s.looked now).convert r = (s.convert r).looked now := by
  have hx : (s.looked now).expression = s.expression := rfl
  have hc : (s.looked now).convertible = s.convertible := rfl
  unfold convert
  rw [hx, hc, looked_mode]
  exact settle_looked now s (fun _ => rfl) fun _ => rfl

theorem explain_looked {σ : Type} (solve : σ → List Char → σ × Except Failure Solution)
    (helper : σ) :
    ((s.looked now).explain solve helper).2 = ((s.explain solve helper).2).looked now := by
  have hx : (s.looked now).expression = s.expression := rfl
  have hnote (f : Fault) : (s.looked now).note (noSteps f) = (s.note (noSteps f)).looked now := rfl
  unfold explain
  rw [hx]
  split
  · rfl
  · match solve helper s.expression with
    | (_, .ok _) => simp only [evaluate_looked, Step.looked]
    | (_, .error (.fault f)) => simp only [hnote, evaluate_looked, Step.looked]
    | (_, .error (.refused _)) | (_, .error (.breakdown _)) => rfl

theorem listen_looked (transcript : List Char) :
    (s.looked now).listen transcript now = (s.listen transcript now).looked now := by
  unfold listen
  obtain ⟨text, asked⟩ := Voice.hear transcript
  have hs : (if text.isEmpty then s.looked now else (s.looked now).replace text now) =
      (if text.isEmpty then s else s.replace text now).looked now := by
    split
    · rfl
    · next hx =>
      have hne : text ≠ [] := by simpa using hx
      rw [replace_of_ne hne, replace_of_ne hne, edit_looked]
  dsimp only
  rw [hs]
  cases asked with
  | true => exact evaluate_looked now _
  | false => rfl

theorem request_looked [Sub τ] :
    (s.looked now).request now = ((s.request now).1.looked now, (s.request now).2) := by
  simp only [request, looked, view, Controller.due_expire]

/-! ## Operations that find out about the lock -/

theorem replace_looked (text : List Char) :
    ((s.looked now).replace text now).looked now = (s.replace text now).looked now := by
  unfold replace
  split
  · simp only [looked, view, (s.controller.cleared_expire now).1]
  · rw [edit_looked, looked_looked _ _ le_rfl]

theorem edited_looked {a b : Session τ} (h : a.looked now = b.looked now) :
    a.edited.looked now = b.edited.looked now := by
  have hx : a.expression = b.expression := (congrArg Session.expression h :)
  simp only [edited, Step.looked, h, hx]

theorem press_looked (k : Key) :
    ((s.looked now).press k now).looked now = (s.press k now).looked now := by
  cases k with
  | equals => rw [press, evaluate_looked, Step.looked_looked, press]
  | percent => rw [press, percent_looked, Step.looked_looked, press]
  | convert r => rw [press, convert_looked, Step.looked_looked, press]
  | clear =>
    have h := s.replace_looked now []
    exact edited_looked now (congrArg (fun s : Session τ => { s with fault := none }) h)
  | backspace => exact edited_looked now (s.replace_looked now s.expression.dropLast)
  | wrap w => exact edited_looked now (by rw [wrap, edit_looked, looked_looked _ _ le_rfl]; rfl)
  | type token => exact edited_looked now (by rw [type, edit_looked, looked_looked _ _ le_rfl]; rfl)

theorem pressNamed_looked (name : List Char) :
    ((s.looked now).pressNamed name now).looked now = (s.pressNamed name now).looked now := by
  unfold pressNamed
  split
  · exact s.press_looked now _
  · simp only [Step.looked, looked_looked _ _ (le_refl now)]

theorem switchNamed_looked [Add τ] (m : Json) :
    ((s.looked now).switchNamed m now).looked now = (s.switchNamed m now).looked now := by
  have hmode : (s.controller.expire now).mode = s.mode := s.looked_mode now
  have hpolicy : (s.controller.expire now).policy = s.controller.policy :=
    (s.controller.expire_lockKept now).1
  unfold switchNamed
  split
  · simp only [switchTo, looked, view, Controller.switchTo, hmode, hpolicy,
      Controller.expire_timer]
    rfl
  · simp only [Step.looked, looked_looked _ _ (le_refl now)]

theorem receive_looked (requestedFor : List Char) (verdict : Mode) :
    (((s.looked now).receive requestedFor verdict now).1.looked now,
        ((s.looked now).receive requestedFor verdict now).2) =
      ((s.receive requestedFor verdict now).1.looked now,
        (s.receive requestedFor verdict now).2) := by
  obtain ⟨hleft, hanswer⟩ :=
    s.controller.deliver_expire now requestedFor verdict s.expression
  simp only [receive, looked, view, hleft, hanswer]

theorem receiveNamed_looked (requestedFor : List Char) (verdict : Json) :
    ((s.looked now).receiveNamed requestedFor verdict now).looked now =
      (s.receiveNamed requestedFor verdict now).looked now := by
  obtain ⟨hleft, hanswer⟩ :=
    s.controller.deliverNamed_expire now requestedFor verdict s.expression
  simp only [receiveNamed, Step.looked, looked, view, hleft, hanswer]

theorem tick_looked [Sub τ] {σ : Type} (classify : σ → List Char → σ × Except Failure Mode)
    (helper : σ) :
    ((Session.tick classify helper (s.looked now) now).2).looked now =
      ((Session.tick classify helper s now).2).looked now := by
  unfold tick
  rw [request_looked]
  cases s.request now with
  | mk s' text =>
    cases text with
    | none => exact Step.looked_looked now ⟨s', .ok false, none⟩
    | some text =>
      dsimp only
      cases classify helper text with
      | mk _ outcome =>
        cases outcome with
        | error e => exact Step.looked_looked now ⟨s', .error e, none⟩
        | ok m =>
          have h := s'.receive_looked now text m
          exact congrArg (fun p : Session τ × Bool => (⟨p.1, .ok p.2, none⟩ : Step τ Bool)) h

theorem view_looked {later : τ} (h : now ≤ later) : (s.looked now).view later = s.view later := by
  have hl : (s.looked now).controller.isLocked later = s.controller.isLocked later :=
    s.controller.isLocked_expire h
  refine Prod.ext (s.looked_looked now h) ?_
  simp only [view, hl, looked_mode]
  rfl

variable [Add τ] [Sub τ]

theorem perform_looked (o : Operation) :
    ((s.looked now).perform now o).looked now = (s.perform now o).looked now := by
  have mapped {α : Type} {a b : Step τ α} (h : a.looked now = b.looked now) (f : α → Reply) :
      (a.map f).looked now = (b.map f).looked now := congrArg (Step.map f) h
  cases o with
  | press name => exact mapped (s.pressNamed_looked now name) _
  | keyboard name => exact mapped (s.pressNamed_looked now _) _
  | listen transcript =>
    refine mapped ?_ _
    rw [listen_looked, Step.looked_looked]
  | replace text => exact mapped (edited_looked now (s.replace_looked now text)) _
  | type token =>
    refine mapped (edited_looked now ?_) _
    rw [type, edit_looked, looked_looked _ _ le_rfl]
    rfl
  | switch m => exact mapped (s.switchNamed_looked now m) _
  | request =>
    simp only [perform, request_looked]
    exact Step.looked_looked now ⟨(s.request now).1, .ok (Reply.due (s.request now).2), none⟩
  | receive requestedFor verdict => exact mapped (s.receiveNamed_looked now requestedFor verdict) _
  | tick classify =>
    cases classify with
    | none => exact Step.looked_looked now ⟨s, .ok (Reply.flag false), none⟩
    | some classify => exact mapped (s.tick_looked now _ _) _
  | explain solve =>
    refine mapped ?_ _
    rw [explain_looked, Step.looked_looked]
  | view =>
    simp only [perform, view_looked _ _ (le_refl now)]
  | drain => exact Step.looked_looked now ⟨{ s with notes := [] }, .ok (Reply.notes s.notes), none⟩

/-! ## Runs -/

/-- Sessions that are looked at. What they finish counts among what they answer. -/
def asked : Asked τ (Session τ) (Event τ) (Except Failure Reply × Option Calculation) where
  time := Event.time
  step s e :=
    let step := s.perform e.time e.operation
    (step.session, step.answer, step.entry)
  ask := looked

theorem asked_unnoticed : (asked : Asked τ _ _ _).Unnoticed where
  again s _ _ h := s.looked_looked _ h
  left s e := congrArg Step.session (s.perform_looked e.time e.operation)
  answered s e :=
    congrArg (fun st => (st.answer, st.entry)) (s.perform_looked e.time e.operation)

/-- It is not noticed how often a controller is asked whether it is locked, or how often somebody
looks at a session. As long as times do not go back, the other operations have the same answers
with the questions and without them, and finish the same; and at any time from then on the same is
seen: of a controller its mode, whether it is locked, and what is due; of a session all there is to
see, what is left when somebody has looked, and what is due. -/
theorem questions_unnoticed :
    (∀ (c : Controller τ) (ts : List (Asked.Turn τ (Controller.Event τ))),
      Controller.asked.InOrder ts →
      Controller.asked.answers c ts = Controller.asked.answers c (Asked.operations ts) ∧
      ∀ now, (∀ t ∈ ts, Controller.asked.timeOf t ≤ now) →
        let questioned := Controller.asked.run c ts
        let quiet := Controller.asked.run c (Asked.operations ts)
        questioned.mode = quiet.mode ∧ questioned.isLocked now = quiet.isLocked now ∧
          (questioned.due now).2 = (quiet.due now).2) ∧
    ∀ (s : Session τ) (ts : List (Asked.Turn τ (Event τ))), asked.InOrder ts →
      asked.answers s ts = asked.answers s (Asked.operations ts) ∧
      ∀ now, (∀ t ∈ ts, asked.timeOf t ≤ now) →
        let questioned := asked.run s ts
        let quiet := asked.run s (Asked.operations ts)
        questioned.view now = quiet.view now ∧ (questioned.request now).2 = (quiet.request now).2 := by
  refine ⟨?_, ?_⟩
  · intro c ts hts
    obtain ⟨hanswers, hrun⟩ := Controller.asked_unnoticed.answers_operations hts fun _ _ => rfl
    refine ⟨hanswers, ?_⟩
    intro now hnow questioned quiet
    have h : questioned.expire now = quiet.expire now := hrun now hnow rfl
    refine ⟨?_, ?_, ?_⟩
    · rw [← questioned.expire_mode now, h, Controller.expire_mode]
    · rw [← questioned.isLocked_expire le_rfl, h, Controller.isLocked_expire _ le_rfl]
    · have hdue := questioned.due_expire now
      rw [h, quiet.due_expire now] at hdue
      exact (congrArg Prod.snd hdue).symm
  · intro s ts hts
    obtain ⟨hanswers, hrun⟩ := asked_unnoticed.answers_operations hts fun _ _ => rfl
    refine ⟨hanswers, ?_⟩
    intro now hnow questioned quiet
    have h : questioned.looked now = quiet.looked now := hrun now hnow rfl
    refine ⟨?_, ?_⟩
    · rw [← questioned.view_looked now le_rfl, h, view_looked _ _ le_rfl]
    · have hdue := questioned.request_looked now
      rw [h, quiet.request_looked now] at hdue
      exact (congrArg Prod.snd hdue).symm

/-- The user switches the mode and types; a verdict comes when the lock has run out. Somebody looks
at the session while the lock holds, when it runs out, and behind that. -/
def lookedAt : List (Asked.Turn ℤ (Event ℤ)) := [
  .inl ⟨0, .switch (.string "Scientific")⟩, .inr 1, .inl ⟨1, .press "7".toList⟩, .inr 2, .inr 3,
  .inl ⟨3, .receive "7".toList (.string "Standard")⟩]

/-- The same moves of a controller alone. -/
def questionedMoves : List (Asked.Turn ℤ (Controller.Event ℤ)) := [
  .inl ⟨0, .switch (.string "Scientific")⟩, .inr 1, .inl ⟨1, .changed "7".toList⟩, .inr 2, .inr 3,
  .inl ⟨3, .deliver "7".toList (.string "Standard") "7".toList⟩]

/-- A lock that was taken away is not missed: the verdict is taken over either way. -/
theorem lookedAt_unnoticed :
    Controller.asked.InOrder questionedMoves ∧ asked.InOrder lookedAt ∧
    (Controller.asked.run (Controller.opened ⟨2, 1, false⟩ .standard) questionedMoves).mode =
      .standard ∧
    (Controller.asked.run (Controller.opened ⟨2, 1, false⟩ .standard)
      (Asked.operations questionedMoves)).mode = .standard ∧
    asked.answers (fresh ⟨2, 1, false⟩ .standard) lookedAt =
      asked.answers (fresh ⟨2, 1, false⟩ .standard) (Asked.operations lookedAt) ∧
    (asked.run (fresh ⟨2, 1, false⟩ .standard) lookedAt).view 4 =
      (asked.run (fresh ⟨2, 1, false⟩ .standard) (Asked.operations lookedAt)).view 4 := by
  have hmoves : Controller.asked.InOrder questionedMoves := by
    unfold Asked.InOrder
    decide
  have hlooked : asked.InOrder lookedAt := by
    unfold Asked.InOrder
    decide
  have hmode : (Controller.asked.run (Controller.opened ⟨2, 1, false⟩ .standard)
      questionedMoves).mode = .standard := by
    decide +kernel
  obtain ⟨controllers, sessions⟩ := questions_unnoticed (τ := ℤ)
  obtain ⟨_, hcontroller⟩ := controllers (Controller.opened ⟨2, 1, false⟩ .standard) _ hmoves
  obtain ⟨hanswers, hseen⟩ := sessions (fresh ⟨2, 1, false⟩ .standard) _ hlooked
  refine ⟨hmoves, hlooked, hmode, ?_, hanswers, ?_⟩
  · rw [← (hcontroller 4 (by decide)).1, hmode]
  · exact (hseen 4 (by decide)).1

end Session

end Reckon
