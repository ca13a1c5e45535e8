import Reckon.Proofs.Mode.Debounce
import Reckon.Proofs.Session.Conversion
import Reckon.Proofs.Session.Finished
import Mathlib.Data.List.Induction

/-
Which text waits to be classified. Whatever edits, clears or replaces the expression tells the
controller, so that the text that waits is the one on screen; a conversion is the exception. It
writes a new expression and leaves the waiting text alone. There is one lemma that says what a
step can do to both of them (`perform_moved`). Along a run it follows that a text which waits is
on screen, or was so until a conversion left it behind (`waiting_on_screen`).
-/
namespace Reckon.Session
open Mode Controller

variable {τ : Type}

def waiting? (s : Session τ) : Option (List Char) := s.controller.timer.text

/-- What waits is on screen. -/
def Abreast (s : Session τ) : Prop := ∀ text, s.waiting? = some text → text = s.expression

theorem abreast_of_none {s : Session τ} (h : s.waiting? = none) : s.Abreast := by
  intro text ht
  rw [h] at ht
  cases ht

/-- What a step does to the expression and the waiting text: both stay, although the text may
be handed out or given up; or what waits then is on screen; or the number on screen was
converted, and the waiting text stays. -/
inductive Moved (s : Session τ) (o : Operation) (s' : Session τ) : Prop
  | kept : s'.expression = s.expression → (s'.waiting? = s.waiting? ∨ s'.waiting? = none) →
      Moved s o s'
  | renewed : s'.Abreast → Moved s o s'
  | converted {r : Radix} {c : Calculation} : o.key? = some (.convert r) → s.Converts r c →
      s'.expression = c.expression → s'.waiting? = s.waiting? → Moved s o s'

/-! ## Steps -/

theorem Moved.refl (s : Session τ) (o : Operation) : Moved s o s := .kept rfl (.inl rfl)

theorem edit_abreast (s : Session τ) (text : List Char) (now : τ) : (s.edit text now).Abreast := by
  have ht : (s.edit text now).waiting? = if text = [] then none else some text := by
    simp only [waiting?, edit, changed_timer]
    split <;> rfl
  intro text' h
  rw [ht] at h
  split at h
  · cases h
  · exact (Option.some.inj h).symm

theorem evaluate_kept (s : Session τ) :
    s.evaluate.session.expression = s.expression ∧ s.evaluate.session.waiting? = s.waiting? := by
  obtain ⟨_, h⟩ | ⟨_, _, _, h⟩ | ⟨_, _, _, h⟩ | ⟨_, _, _, _, h⟩ := s.evaluate_cases <;>
    rw [h] <;> exact ⟨rfl, rfl⟩

theorem evaluate_moved (s : Session τ) (o : Operation) : Moved s o s.evaluate.session :=
  .kept s.evaluate_kept.1 (.inl s.evaluate_kept.2)

theorem percent_moved (s : Session τ) (o : Operation) (now : τ) :
    Moved s o (s.percent now).session := by
  obtain ⟨_, h⟩ | ⟨v, _, _, h⟩ | ⟨f, _, _, h⟩ | ⟨e, _, _, _, h⟩ := s.percent_cases now
  · rw [h]; exact .refl s o
  · rw [h]; exact .renewed (s.edit_abreast _ now)
  · rw [h]; exact .kept rfl (.inl rfl)
  · rw [h]; exact .refl s o

theorem convert_moved {s : Session τ} {o : Operation} {r : Radix} (h : o.key? = some (.convert r)) :
    Moved s o (s.convert r).session := by
  obtain ⟨i, hi, hs⟩ | ⟨f, _, hs⟩ | ⟨e, _, _, hs⟩ := s.convert_cases r
  · rw [hs]; exact .converted h ⟨i, hi, rfl⟩ rfl rfl
  · rw [hs]; exact .kept rfl (.inl rfl)
  · rw [hs]; exact .refl s o

theorem switchNamed_moved [Add τ] (s : Session τ) (o : Operation) (v : Json) (now : τ) :
    Moved s o (s.switchNamed v now).session := by
  cases h : Mode.ofJson? v with
  | none =>
    rw [switchNamed_of_unknown h]
    exact .refl s o
  | some m =>
    rw [switchNamed_of_known h]
    refine .renewed (abreast_of_none ?_)
    simp only [switchTo]
    split <;> rfl

theorem explain_moved (s : Session τ) (o : Operation)
    (solve : List Char → Except Failure Tutor.Solution) :
    Moved s o (Session.explain (fun (_ : Unit) text => ((), solve text)) () s).2.session := by
  obtain ⟨_, h⟩ | ⟨ns, f, h⟩ := s.explain_cases solve
  · rw [h]; exact .refl s o
  · have hk := { s with notes := ns }.evaluate_kept
    rw [h]
    exact .kept hk.1 (.inl hk.2)

/-- A text that is asked for is the one that waits, and it does not wait any more. -/
theorem request_cases [Sub τ] [LT τ] [DecidableLT τ] (s : Session τ) (now : τ) :
    (s.request now).2 = none ∧ (s.request now).1.waiting? = s.waiting? ∨
      (∃ text, (s.request now).2 = some text ∧ s.waiting? = some text) ∧
        (s.request now).1.waiting? = none := by
  obtain ⟨hnone, ht⟩ | ⟨hsome, ht⟩ := s.controller.due_timer now
  · exact .inl ⟨hnone, congrArg Timer.text ht⟩
  · exact .inr ⟨hsome, congrArg Timer.text ht⟩

theorem request_moved [Sub τ] [LT τ] [DecidableLT τ] (s : Session τ) (o : Operation) (now : τ) :
    Moved s o (s.request now).1 := by
  obtain ⟨_, h⟩ | ⟨_, h⟩ := s.request_cases now
  · exact .kept rfl (.inl h)
  · exact .kept rfl (.inr h)

section Order

variable [LE τ] [DecidableLE τ]

theorem replace_abreast (s : Session τ) (text : List Char) (now : τ) :
    (s.replace text now).Abreast := by
  by_cases hx : text = []
  · subst hx
    exact abreast_of_none (congrArg Timer.text (s.controller.cleared_timer now))
  · rw [replace_of_ne hx]
    exact s.edit_abreast text now

theorem listen_moved (s : Session τ) (o : Operation) (transcript : List Char) (now : τ) :
    Moved s o (s.listen transcript now).session := by
  obtain ⟨s', hs, h⟩ := s.listen_cases transcript now
  have hend : (s.listen transcript now).session.expression = s'.expression ∧
      (s.listen transcript now).session.waiting? = s'.waiting? := by
    obtain h | h := h
    · rw [h]; exact s'.evaluate_kept
    · rw [h]; exact ⟨rfl, rfl⟩
  obtain rfl | ⟨text, _, rfl⟩ := hs
  · exact .kept hend.1 (.inl hend.2)
  · refine .renewed fun text' ht => ?_
    rw [hend.2] at ht
    rw [hend.1]
    exact s.edit_abreast text now text' ht

theorem press_moved (s : Session τ) {o : Operation} {k : Key} (h : o.key? = some k) (now : τ) :
    Moved s o (s.press k now).session := by
  cases k with
  | equals => exact s.evaluate_moved o
  | clear => exact .renewed (s.replace_abreast [] now)
  | backspace => exact .renewed (s.replace_abreast _ now)
  | percent => exact s.percent_moved o now
  | convert r => exact convert_moved h
  | wrap w => exact .renewed (s.edit_abreast _ now)
  | type token => exact .renewed (s.edit_abreast _ now)

variable [Add τ] [Sub τ] [LT τ] [DecidableLT τ]

theorem named_moved (s : Session τ) (name : List Char) (now : τ) {o : Operation}
    (h : o.key? = Key.ofText? name) : Moved s o (s.perform now (.press name)).session := by
  obtain ⟨k, hk, hp⟩ | ⟨hs, _⟩ := s.perform_press name now
  · rw [hp, Step.map_session]
    exact s.press_moved (h.trans hk) now
  · rw [hs]
    exact .refl s o

theorem perform_moved (s : Session τ) (now : τ) (o : Operation) :
    Moved s o (s.perform now o).session := by
  cases o with
  | press name => exact s.named_moved name now rfl
  | keyboard name => exact s.named_moved (Key.ofKeyboard name) now rfl
  | listen transcript => exact s.listen_moved _ transcript now
  | replace text => exact .renewed (s.replace_abreast text now)
  | type token => exact .renewed (s.edit_abreast _ now)
  | switch v => exact s.switchNamed_moved _ v now
  | request => exact s.request_moved _ now
  | receive text v =>
    exact .kept rfl (.inl (congrArg Timer.text (s.controller.deliverNamed_timer text v _ now)))
  | tick classify =>
    cases classify with
    | none => exact .refl s _
    | some classify =>
      change Moved s _
        (Session.tick (fun (_ : Unit) text => ((), classify text)) () s now).2.session
      obtain ⟨_, h⟩ | ⟨text, m, _, _, h⟩ := s.tick_cases classify now
      · rw [h]; exact s.request_moved _ now
      · -- The verdict does not touch the timer.
        have ht : ((s.request now).1.receive text m now).1.waiting? = (s.request now).1.waiting? :=
          congrArg Timer.text (deliver_timer _ text m _ now)
        rw [h]
        obtain ⟨_, hr⟩ | ⟨_, hr⟩ := s.request_cases now
        · exact .kept rfl (.inl (ht.trans hr))
        · exact .kept rfl (.inr (ht.trans hr))
  | explain solve => exact s.explain_moved _ solve
  | view => exact .kept rfl (.inl (congrArg Timer.text (s.controller.expire_timer now)))
  | drain => exact .kept rfl (.inl rfl)

/-! ## Runs -/

/-- A conversion has left a text behind: it waited and was on screen when the number there was
converted, and what the conversion wrote is on screen still. -/
def LeftBehind (s : Session τ) (es : List (Event τ)) (text : List Char) : Prop :=
  ∃ before e rest r c, es = before ++ e :: rest ∧ e.operation.key? = some (.convert r) ∧
    (s.run before).Converts r c ∧ (s.run before).waiting? = some text ∧
    text = (s.run before).expression ∧ (s.run es).expression = c.expression

theorem waiting_origin (policy : Policy τ) (m : Mode) (room : Nat) (es : List (Event τ))
    {text : List Char} (h : ((fresh policy m room).run es).waiting? = some text) :
    text = ((fresh policy m room).run es).expression ∨ LeftBehind (fresh policy m room) es text := by
  induction es using List.reverseRecOn with
  | nil => cases h
  | append_singleton es e ih =>
    have hrun := (fresh policy m room).run_concat es e
    rw [hrun] at h ⊢
    cases ((fresh policy m room).run es).perform_moved e.time e.operation with
    | kept hx hw =>
      obtain hw | hw := hw
      · obtain rfl | ⟨before, e', rest, r, c, rfl, hk, hc, hwb, htb, hxb⟩ := ih (hw.symm.trans h)
        · exact .inl hx.symm
        · refine .inr ⟨before, e', rest ++ [e], r, c, by simp, hk, hc, hwb, htb, ?_⟩
          rw [hrun]
          exact hx.trans hxb
      · rw [show (((fresh policy m room).run es).after e).waiting? = none from hw] at h
        cases h
    | renewed ha => exact .inl (ha text h)
    | @converted r c hk hc hx hw =>
      obtain rfl | ⟨before, e', rest, r', c', _, _, ⟨i, _, rfl⟩, _, _, hxb⟩ := ih (hw.symm.trans h)
      · refine .inr ⟨es, e, [], r, c, rfl, hk, hc, hw.symm.trans h, rfl, ?_⟩
        rw [hrun]
        exact hx
      · -- What a conversion wrote is not converted again.
        obtain ⟨j, hj, _⟩ := hc
        obtain ⟨f, hf, _⟩ := Conversion.number_expression
          ((fresh policy m room).run es).convertible r' i
        rw [hxb, hf] at hj
        cases hj

/-- In every run of a fresh session the text that is due is the one that waits, and a text that
waits is on screen, unless a conversion has left it behind; for every conversion writes an
expression of its own and leaves what waits as it was. -/
theorem waiting_on_screen (policy : Policy τ) (m : Mode) (room : Nat) :
    (∀ (es : List (Event τ)) (now : τ) (text : List Char),
      (((fresh policy m room).run es).request now).2 = some text →
        ((fresh policy m room).run es).waiting? = some text) ∧
    (∀ (es : List (Event τ)) (text : List Char),
      ((fresh policy m room).run es).waiting? = some text →
        text = ((fresh policy m room).run es).expression ∨
          LeftBehind (fresh policy m room) es text) ∧
    ∀ (s : Session τ) (now : τ) (o : Operation) (r : Radix) (c : Calculation),
      o.key? = some (.convert r) → s.Converts r c →
        (s.perform now o).session.waiting? = s.waiting? ∧
          (s.perform now o).session.expression = c.expression := by
  refine ⟨?_, ?_, ?_⟩
  · intro es now text h
    obtain ⟨hnone, _⟩ | ⟨⟨text', hsome, hw⟩, _⟩ := ((fresh policy m room).run es).request_cases now
    · rw [hnone] at h
      cases h
    · rw [hsome] at h
      exact h ▸ hw
  · intro es text h
    exact waiting_origin policy m room es h
  · rintro s now o r c hk ⟨i, hi, rfl⟩
    obtain ⟨j, hj, hs⟩ | ⟨f, hf, _⟩ | ⟨e, he, _, _⟩ := s.convert_cases r
    · obtain rfl : i = j := Except.ok.inj (hi.symm.trans hj)
      rw [perform_of_key hk, press, hs]
      exact ⟨rfl, rfl⟩
    · rw [hi] at hf
      cases hf
    · rw [hi] at he
      cases he

end Order

/-- Five is typed and asked for in base two. -/
def fiveInBinary : List (Event ℤ) := [⟨0, .type "5".toList⟩, ⟨1, .press "bin".toList⟩]

/-- The five waits, and it is the conversion that has left it behind. -/
theorem fiveInBinary_leftBehind :
    (((fresh ⟨2, 1, false⟩ .standard).run fiveInBinary).request 2).2 = some "5".toList ∧
    LeftBehind (fresh ⟨2, 1, false⟩ .standard) fiveInBinary "5".toList := by
  obtain ⟨due, waits, _⟩ := waiting_on_screen (⟨2, 1, false⟩ : Policy ℤ) .standard
    Evaluator.usualRoom
  have h : (((fresh ⟨2, 1, false⟩ .standard).run fiveInBinary).request 2).2 = some "5".toList := by
    decide
  refine ⟨h, ?_⟩
  exact (waits fiveInBinary _ (due fiveInBinary 2 _ h)).resolve_left (by decide)

/-- A tick asks about the five, which is not on screen any more. -/
theorem fiveInBinary_strays :
    ¬ ((fresh ⟨2, 1, false⟩ .standard).run fiveInBinary).Abreast ∧
    (((fresh ⟨2, 1, false⟩ .standard).run fiveInBinary).request 2).2 = some "5".toList ∧
    ((fresh ⟨2, 1, false⟩ .standard).run fiveInBinary).expression = "dec_to_bin(5)".toList := by
  refine ⟨?_, by decide, by decide⟩
  intro h
  exact absurd (h "5".toList (by decide)) (by decide)

end Reckon.Session
