import Mathlib.Algebra.Order.Monoid.Unbundled.Basic
import Mathlib.Algebra.Order.Ring.Int
import Mathlib.Data.List.Induction
import Reckon.Proofs.Mode.Lock
import Reckon.Proofs.Session.Steps

/-
Who may change the mode of a session. A switch by the user holds until its deadline, the
time of the switch and the cooldown. A change that is no switch happens at a time past
the deadlines of all switches before it, and is either a verdict on the very expression
on screen or the way back to standard mode when the expression is cleared.

The controller keeps one deadline and forgets it when somebody asks after it has passed,
so the deadlines of past switches cannot be read off a session. What a run keeps instead
(`deadlines_passed`) is that a session which is not locked at a time past the run has
all these deadlines behind it.
-/
namespace Reckon.Session
open Mode Controller

variable {τ : Type}

/-! ## Changes that are no switch -/

section Change

variable [Sub τ] [LE τ] [LT τ] [DecidableLE τ] [DecidableLT τ]

/-- The operation delivers a verdict on a text: one that comes from outside, or one that
is asked for because the text is due. -/
def Operation.Delivers (o : Operation) (s : Session τ) (now : τ) (text : List Char) (m : Mode) :
    Prop :=
  (∃ v, o = .receive text v ∧ Mode.ofJson? v = some m) ∨
  (∃ classify, o = .tick (some classify) ∧ (s.request now).2 = some text ∧ classify text = .ok m)

/-- The operation clears the expression: the key for it, the key that takes away the only
character left, or an empty text put in place of the expression. -/
def Operation.Clears (o : Operation) (s : Session τ) : Prop :=
  o.key? = some .clear ∨ (o.key? = some .backspace ∧ s.expression.length ≤ 1) ∨ o = .replace []

/-- The mode changes although the user does not switch it. -/
inductive AutoChange (s : Session τ) (now : τ) (o : Operation) : Mode → Prop
  | verdict {m : Mode} : o.Delivers s now s.expression m → s.expression ≠ [] → AutoChange s now o m
  | revert : o.Clears s → s.mode = .scientific → s.controller.policy.revertOnClear = true →
      AutoChange s now o .standard

end Change

/-! ## The controller after an operation -/

theorem evaluate_controller (s : Session τ) : s.evaluate.session.controller = s.controller := by
  obtain ⟨_, h⟩ | ⟨_, _, _, h⟩ | ⟨_, _, _, h⟩ | ⟨_, _, _, _, h⟩ := s.evaluate_cases <;>
    simp only [h, failed, note]

theorem convert_controller (s : Session τ) (r : Radix) :
    (s.convert r).session.controller = s.controller := by
  obtain ⟨_, _, h⟩ | ⟨_, _, h⟩ | ⟨_, _, _, h⟩ := s.convert_cases r <;>
    simp only [h, failed, note]

section Order

variable [LE τ] [DecidableLE τ]

/-- The mode is as it was, and so is the lock unless it had run out. -/
def Calm (now : τ) (c c' : Controller τ) : Prop := LockKept now c c' ∧ c'.mode = c.mode

theorem calm_refl (now : τ) (c : Controller τ) : Calm now c c := ⟨.refl c, rfl⟩

theorem calm_edit (s : Session τ) (text : List Char) (now : τ) :
    Calm now s.controller (s.edit text now).controller :=
  ⟨changed_lockKept s.controller text now, changed_mode s.controller text now⟩

theorem calm_expire (s : Session τ) (now : τ) : Calm now s.controller (s.controller.expire now) :=
  ⟨expire_lockKept s.controller now, expire_mode s.controller now⟩

theorem calm_request [Sub τ] [LT τ] [DecidableLT τ] (s : Session τ) (now : τ) :
    Calm now s.controller (s.request now).1.controller :=
  ⟨due_lockKept s.controller now, due_mode s.controller now⟩

theorem calm_evaluate (s : Session τ) (now : τ) :
    Calm now s.controller s.evaluate.session.controller := by
  rw [evaluate_controller]
  exact calm_refl now s.controller

theorem calm_percent (s : Session τ) (now : τ) :
    Calm now s.controller (s.percent now).session.controller := by
  obtain ⟨_, h⟩ | ⟨v, _, _, h⟩ | ⟨_, _, _, h⟩ | ⟨_, _, _, _, h⟩ := s.percent_cases now
  · rw [h]; exact calm_refl now s.controller
  · rw [h]; exact calm_edit s _ now
  · rw [h]; exact calm_refl now s.controller
  · rw [h]; exact calm_refl now s.controller

theorem calm_listen (s : Session τ) (transcript : List Char) (now : τ) :
    Calm now s.controller (s.listen transcript now).session.controller := by
  obtain ⟨s', hs, h⟩ := s.listen_cases transcript now
  have hc : Calm now s.controller s'.controller := by
    obtain rfl | ⟨text, _, rfl⟩ := hs
    · exact calm_refl now s'.controller
    · exact calm_edit s text now
  obtain h | h := h
  · rw [h, evaluate_controller]; exact hc
  · rw [h]; exact hc

theorem calm_explain (s : Session τ) (solve : List Char → Except Failure Tutor.Solution) (now : τ) :
    Calm now s.controller
      (Session.explain (fun (_ : Unit) text => ((), solve text)) () s).2.session.controller := by
  obtain ⟨_, h⟩ | ⟨ns, f, h⟩ := s.explain_cases solve
  · rw [h]; exact calm_refl now s.controller
  · rw [h, Step.map_session, evaluate_controller]; exact calm_refl now s.controller

variable [Sub τ] [LT τ] [DecidableLT τ]

/-- What an operation that is no switch does to the controller: the lock stays unless it has
run out, and the mode changes only where there is none, in one of the two ways. -/
def Gentle (s : Session τ) (now : τ) (o : Operation) (c' : Controller τ) : Prop :=
  LockKept now s.controller c' ∧
    (c'.mode = s.mode ∨ s.controller.isLocked now = false ∧ AutoChange s now o c'.mode)

theorem Calm.gentle {s : Session τ} {now : τ} {c' : Controller τ} (h : Calm now s.controller c')
    (o : Operation) : Gentle s now o c' :=
  ⟨h.1, .inl h.2⟩

/-- An operation that clears the expression, as far as the controller is concerned. -/
theorem gentle_cleared (s : Session τ) (now : τ) {o : Operation} (h : o.Clears s) :
    Gentle s now o (s.controller.cleared now).1 := by
  refine ⟨cleared_lockKept s.controller now, ?_⟩
  rw [cleared_mode]
  split
  · next hc =>
    cases hm : s.mode with
    | standard => exact .inl rfl
    | scientific => exact .inr ⟨hc.2, .revert h hm hc.1⟩
  · exact .inl rfl

/-- An operation that delivers a verdict, as far as the controller is concerned. -/
theorem gentle_delivered {s : Session τ} {now : τ} {o : Operation} {text : List Char} {m : Mode}
    (h : o.Delivers s now text m) {c : Controller τ} (hc : Calm now s.controller c) :
    Gentle s now o (c.deliver text m s.expression now).1 := by
  refine ⟨hc.1.trans (deliver_lockKept c text s.expression m now), ?_⟩
  rw [deliver_mode, hc.1.isLocked]
  split
  · next hd =>
    obtain ⟨rfl, hne, hl⟩ := hd
    exact .inr ⟨hl, .verdict h hne⟩
  · exact .inl hc.2

theorem gentle_press (s : Session τ) (now : τ) {o : Operation} {k : Key} (h : o.key? = some k) :
    Gentle s now o (s.press k now).session.controller := by
  cases k with
  | equals => exact (calm_evaluate s now).gentle o
  | clear => exact gentle_cleared s now (.inl h)
  | backspace =>
    change Gentle s now o (s.replace s.expression.dropLast now).controller
    -- with its last character gone the expression is cleared
    by_cases hx : s.expression.dropLast = []
    · rw [hx]
      have hl := congrArg List.length hx
      rw [List.length_dropLast, List.length_nil] at hl
      exact gentle_cleared s now (.inr (.inl ⟨h, by omega⟩))
    · rw [replace_of_ne hx]
      exact (calm_edit s _ now).gentle o
  | percent => exact (calm_percent s now).gentle o
  | convert r =>
    have hc : (s.press (.convert r) now).session.controller = s.controller := convert_controller s r
    rw [hc]
    exact (calm_refl now s.controller).gentle o
  | wrap w => exact (calm_edit s _ now).gentle o
  | type token => exact (calm_edit s _ now).gentle o

/-! ## The controller after any operation -/

variable [Add τ]

theorem gentle_named (s : Session τ) (now : τ) (name : List Char) {o : Operation}
    (h : o.key? = Key.ofText? name) :
    Gentle s now o (s.perform now (.press name)).session.controller := by
  obtain ⟨k, hk, hp⟩ | ⟨hs, _⟩ := s.perform_press name now
  · rw [hp, Step.map_session]
    exact gentle_press s now (h.trans hk)
  · rw [hs]
    exact (calm_refl now s.controller).gentle o

/-- An operation that is no switch does nothing else to the controller. -/
theorem perform_gentle (s : Session τ) (now : τ) {o : Operation} (h : o.picked? = none) :
    Gentle s now o (s.perform now o).session.controller := by
  cases o with
  | press name => exact gentle_named s now name rfl
  | keyboard name => exact gentle_named s now (Key.ofKeyboard name) rfl
  | listen transcript => exact (calm_listen s transcript now).gentle _
  | replace text =>
    by_cases hx : text = []
    · subst hx
      exact gentle_cleared s now (.inr (.inr rfl))
    · change Gentle s now _ (s.replace text now).controller
      rw [replace_of_ne hx]
      exact (calm_edit s text now).gentle _
  | type token => exact (calm_edit s _ now).gentle _
  | switch m =>
    have hs : (s.switchNamed m now).session = s := switchNamed_of_unknown h s now
    change Gentle s now _ (s.switchNamed m now).session.controller
    rw [hs]
    exact (calm_refl now s.controller).gentle _
  | request => exact (calm_request s now).gentle _
  | receive text v =>
    change Gentle s now _ (s.controller.deliverNamed text v s.expression now).1
    cases hm : Mode.ofJson? v with
    | some m =>
      rw [deliverNamed_ok (Mode.read_of_some hm)]
      exact gentle_delivered (.inl ⟨v, rfl, hm⟩) (calm_refl now s.controller)
    | none =>
      obtain ⟨e, he⟩ := Mode.read_of_none hm
      obtain h | h := deliverNamed_error he s.controller text s.expression now
      · rw [h]; exact (calm_refl now s.controller).gentle _
      · rw [h]; exact (calm_expire s now).gentle _
  | tick classify =>
    cases classify with
    | none => exact (calm_refl now s.controller).gentle _
    | some classify =>
      change Gentle s now _
        (Session.tick (fun (_ : Unit) text => ((), classify text)) () s now).2.session.controller
      obtain ⟨_, h⟩ | ⟨text, m, hr, hc, h⟩ := s.tick_cases classify now
      · rw [h]; exact (calm_request s now).gentle _
      · rw [h]
        exact gentle_delivered (.inr ⟨classify, rfl, hr, hc⟩) (calm_request s now)
  | explain solve => exact (calm_explain s solve now).gentle _
  | view => exact (calm_expire s now).gentle _
  | drain => exact (calm_refl now s.controller).gentle _

/-- A switch by the user sets the mode and a new deadline. -/
theorem perform_switch (s : Session τ) (now : τ) {o : Operation} {m : Mode}
    (h : o.picked? = some m) :
    (s.perform now o).session.controller = (s.controller.switchTo m now).1 := by
  cases o with
  | switch v =>
    change (s.switchNamed v now).session.controller = _
    rw [switchNamed_of_known h]
    simp only [switchTo]
    split <;> rfl
  | _ => simp [Operation.picked?] at h

theorem perform_policy (s : Session τ) (now : τ) (o : Operation) :
    (s.perform now o).session.controller.policy = s.controller.policy := by
  cases h : o.picked? with
  | none => exact (s.perform_gentle now h).1.1
  | some m => rw [s.perform_switch now h, switchTo_policy]

theorem run_policy (s : Session τ) (es : List (Event τ)) :
    (s.run es).controller.policy = s.controller.policy :=
  run_induction (P := fun s' => s'.controller.policy = s.controller.policy) rfl
    (fun s' e h => (s'.perform_policy e.time e.operation).trans h) es

end Order

/-! ## Runs -/

section Run

variable [LinearOrder τ] [Add τ] [Sub τ] [AddRightMono τ]

def Event.IsSwitch (e : Event τ) : Prop := e.operation.picked? ≠ none

/-- Where a session is not locked at a time past its run, the deadlines of all switches of
the run have passed. -/
theorem deadlines_passed (s : Session τ) (es : List (Event τ)) (h : InOrder es) :
    ∀ now, (∀ x ∈ es, x.time ≤ now) → (s.run es).controller.isLocked now = false →
      ∀ x ∈ es, x.IsSwitch → x.time + s.controller.policy.cooldown ≤ now := by
  induction es using List.reverseRecOn with
  | nil => intro now _ _ x hx; simp at hx
  | append_singleton es e ih =>
    intro now hnow hl x hx hs
    have he : e.time ≤ now := hnow e (by simp)
    have hes : ∀ y ∈ es, y.time ≤ now := fun y hy => hnow y (by simp [hy])
    rw [run_append, run_singleton] at hl
    cases hp : e.operation.picked? with
    | none =>
      -- the lock is the old one, or it had run out when the event happened
      have hx' : x ∈ es := by
        rcases List.mem_append.1 hx with hx | hx
        · exact hx
        · rw [List.mem_singleton.1 hx] at hs
          exact absurd hp hs
      obtain ⟨⟨_, hk | ⟨hf, _⟩⟩, _⟩ := (s.run es).perform_gentle e.time hp
      · exact ih h.init now hes ((isLocked_congr hk now).symm.trans hl) x hx' hs
      · exact (ih h.init e.time (fun y hy => h.le_last hy) hf x hx' hs).trans he
    | some m =>
      -- the new deadline is the latest of all
      have hlock : ((s.run es).after e).controller.lockedUntil =
          some (e.time + s.controller.policy.cooldown) := by
        change ((s.run es).perform e.time e.operation).session.controller.lockedUntil = _
        rw [perform_switch _ _ hp, switchTo_lockedUntil, run_policy]
      have hdead := (isLocked_some hlock now).1 hl
      rcases List.mem_append.1 hx with hx | hx
      · exact (add_le_add_left (h.le_last hx) _).trans hdead
      · rw [List.mem_singleton.1 hx]
        exact hdead

/-- Until its deadline a switch holds, as long as no other one follows. -/
theorem switch_holds (s : Session τ) {before mid : List (Event τ)} {e : Event τ} {m : Mode}
    (h : InOrder (before ++ e :: mid)) (hm : e.operation.picked? = some m)
    (hmid : ∀ x ∈ mid, ¬ x.IsSwitch ∧ x.time < e.time + s.controller.policy.cooldown) :
    (s.run (before ++ e :: mid)).mode = m := by
  induction mid using List.reverseRecOn with
  | nil =>
    rw [run_append, run_singleton]
    change ((s.run before).perform e.time e.operation).session.controller.mode = m
    rw [perform_switch _ _ hm, switchTo_mode]
  | append_singleton mid x ih =>
    rw [← List.cons_append, ← List.append_assoc] at h ⊢
    have hsame := ih h.init fun y hy => hmid y (by simp [hy])
    obtain ⟨hx, hlt⟩ := hmid x (by simp)
    rw [run_append, run_singleton]
    obtain ⟨_, hkept | ⟨hl, _⟩⟩ :=
      (s.run (before ++ e :: mid)).perform_gentle x.time (not_not.1 hx)
    · exact hkept.trans hsame
    · have hpassed := s.deadlines_passed _ h.init x.time (fun y hy => h.le_last hy) hl e (by simp)
        (by simp [Event.IsSwitch, hm])
      exact absurd hpassed (not_le.2 hlt)

/-- A change of mode that is no switch finds all deadlines passed, and is a verdict on the
expression on screen or the way back when it is cleared. -/
theorem auto_change (s : Session τ) {before : List (Event τ)} {e : Event τ}
    (h : InOrder (before ++ [e])) (he : ¬ e.IsSwitch)
    (hne : ((s.run before).after e).mode ≠ (s.run before).mode) :
    (∀ x ∈ before, x.IsSwitch → x.time + s.controller.policy.cooldown ≤ e.time) ∧
      AutoChange (s.run before) e.time e.operation ((s.run before).after e).mode := by
  obtain ⟨_, hkept | ⟨hl, hc⟩⟩ := (s.run before).perform_gentle e.time (not_not.1 he)
  · exact absurd hkept hne
  · exact ⟨s.deadlines_passed before h.init e.time (fun y hy => h.le_last hy) hl, hc⟩

/-- In every run of a session the modes that the user picks hold until their deadlines, and
all other changes of mode come after the deadlines of the switches before them. -/
theorem mode_follows_switches (s : Session τ) (es : List (Event τ)) (h : InOrder es) :
    (∀ before e mid rest m, es = before ++ e :: mid ++ rest → e.operation.picked? = some m →
      (∀ x ∈ mid, ¬ x.IsSwitch ∧ x.time < e.time + s.controller.policy.cooldown) →
      (s.run (before ++ e :: mid)).mode = m) ∧
    (∀ before e rest, es = before ++ [e] ++ rest → ¬ e.IsSwitch →
      ((s.run before).after e).mode ≠ (s.run before).mode →
      (∀ x ∈ before, x.IsSwitch → x.time + s.controller.policy.cooldown ≤ e.time) ∧
        AutoChange (s.run before) e.time e.operation ((s.run before).after e).mode) := by
  refine ⟨?_, ?_⟩
  · intro before e mid rest m hes hm hmid
    subst hes
    exact s.switch_holds h.init hm hmid
  · intro before e rest hes he hne
    subst hes
    exact s.auto_change h.init he hne

end Run

/-- Two verdicts on an expression typed under a lock: the first comes too early. -/
def earlyAndLate : List (Event ℤ) :=
  [⟨0, .switch (.string "Scientific")⟩, ⟨1, .type ['2']⟩,
    ⟨1, .receive ['2'] (.string "Standard")⟩, ⟨2, .receive ['2'] (.string "Standard")⟩]

/-- The first verdict changes nothing; the second one comes at the deadline and does. -/
theorem earlyAndLate_modes :
    InOrder earlyAndLate ∧
    ((fresh ⟨2, 1, false⟩ .standard).run (earlyAndLate.take 3)).mode = .scientific ∧
    (∀ x ∈ earlyAndLate.take 3, x.IsSwitch → x.time + 2 ≤ 2) ∧
    AutoChange ((fresh ⟨2, 1, false⟩ .standard).run (earlyAndLate.take 3)) 2
      (.receive ['2'] (.string "Standard")) .standard := by
  have h : InOrder earlyAndLate := by simp [InOrder, earlyAndLate]
  obtain ⟨holds, changes⟩ := mode_follows_switches (fresh ⟨2, 1, false⟩ .standard) earlyAndLate h
  refine ⟨h, ?_, ?_⟩
  · refine holds [] ⟨0, .switch (.string "Scientific")⟩
      [⟨1, .type ['2']⟩, ⟨1, .receive ['2'] (.string "Standard")⟩]
      [⟨2, .receive ['2'] (.string "Standard")⟩] .scientific rfl (by decide) ?_
    simp [Event.IsSwitch, Operation.picked?, fresh]
  · exact changes (earlyAndLate.take 3) ⟨2, .receive ['2'] (.string "Standard")⟩ [] rfl
      (by simp [Event.IsSwitch, Operation.picked?]) (by decide)

end Reckon.Session
