import Reckon.Proofs.Mode.Debounce

/-
Asking a controller. Whoever asks whether a controller is locked may take away a lock that has
run out, so asking writes. It is not noticed: a controller without a lock that has run out
answers what the controller answers, and after the same event neither can be told from the other
once such a lock is taken away (`after_expire`).

The argument from one event to a run does not depend on what is asked, so it is put once for
anything that is operated on at times and asked between them (`Asked`): if a question may be put
before any operation without being noticed (`Asked.Unnoticed`), then a run with questions gives
the answers of the run without them (`Asked.Unnoticed.answers_operations`).
-/
namespace Reckon

variable {τ S E A : Type}

/-- What is operated on, by events that have a time and an answer, and what a question at a time
does to it. -/
structure Asked (τ S E A : Type) where
  time : E → τ
  step : S → E → S × A
  ask : τ → S → S

namespace Asked

/-- A turn of a run is an event, or nothing but a question at a time. -/
abbrev Turn (τ E : Type) := E ⊕ τ

def operations (ts : List (Turn τ E)) : List (Turn τ E) := ts.filter Sum.isLeft

def timeOf (d : Asked τ S E A) : Turn τ E → τ := Sum.elim d.time id

def run (d : Asked τ S E A) (s : S) : List (Turn τ E) → S
  | [] => s
  | .inl e :: ts => d.run (d.step s e).1 ts
  | .inr now :: ts => d.run (d.ask now s) ts

/-- The answers to the events among turns. -/
def answers (d : Asked τ S E A) (s : S) : List (Turn τ E) → List A
  | [] => []
  | .inl e :: ts => (d.step s e).2 :: d.answers (d.step s e).1 ts
  | .inr now :: ts => d.answers (d.ask now s) ts

/-- The turns come in the order of their times. -/
def InOrder [LE τ] (d : Asked τ S E A) (ts : List (Turn τ E)) : Prop :=
  ts.Pairwise fun t t' => d.timeOf t ≤ d.timeOf t'

/-- A question is not noticed: an event that comes right behind it is answered in the same way
and leaves the same, as far as a further question can tell; and of two questions the later one
tells what it tells alone. -/
structure Unnoticed [LE τ] (d : Asked τ S E A) : Prop where
  again : ∀ s {now later : τ}, now ≤ later → d.ask later (d.ask now s) = d.ask later s
  left : ∀ s e, d.ask (d.time e) (d.step (d.ask (d.time e) s) e).1 = d.ask (d.time e) (d.step s e).1
  answered : ∀ s e, (d.step (d.ask (d.time e) s) e).2 = (d.step s e).2

namespace Unnoticed

variable {d : Asked τ S E A} [Preorder τ] (h : d.Unnoticed)

include h

/-- What cannot be told apart at a time cannot be told apart later. -/
theorem later {s s' : S} {now later : τ} (hs : d.ask now s = d.ask now s') (hle : now ≤ later) :
    d.ask later s = d.ask later s' := by
  rw [← h.again s hle, hs, h.again s' hle]

/-- The same event on what cannot be told apart. -/
theorem step {s s' : S} {e : E} (hs : d.ask (d.time e) s = d.ask (d.time e) s') :
    d.ask (d.time e) (d.step s e).1 = d.ask (d.time e) (d.step s' e).1 ∧
      (d.step s e).2 = (d.step s' e).2 := by
  refine ⟨?_, ?_⟩
  · rw [← h.left s e, hs, h.left s' e]
  · rw [← h.answered s e, hs, h.answered s' e]

/-- Questions change no answer, and nothing that is seen at a time behind them. -/
theorem answers_operations {s s' : S} {ts : List (Turn τ E)} (hts : d.InOrder ts)
    (hs : ∀ t ∈ ts, d.ask (d.timeOf t) s = d.ask (d.timeOf t) s') :
    d.answers s ts = d.answers s' (operations ts) ∧
    ∀ now, (∀ t ∈ ts, d.timeOf t ≤ now) → d.ask now s = d.ask now s' →
      d.ask now (d.run s ts) = d.ask now (d.run s' (operations ts)) := by
  induction ts generalizing s s' with
  | nil => exact ⟨rfl, fun _ _ hnow => hnow⟩
  | cons t ts ih =>
    obtain ⟨hle, hrest⟩ := List.pairwise_cons.1 hts
    have hfirst := hs t List.mem_cons_self
    -- What holds at the time of the first turn holds at the times of the others.
    have onward {s s' : S} (hnext : d.ask (d.timeOf t) s = d.ask (d.timeOf t) s') :=
      ih hrest fun t' ht' => h.later hnext (hle t' ht')
    cases t with
    | inl e =>
      obtain ⟨hleft, hanswer⟩ := h.step hfirst
      obtain ⟨hanswers, hrun⟩ := onward hleft
      refine ⟨?_, ?_⟩
      · show _ :: d.answers _ ts = _ :: d.answers _ (operations ts)
        rw [hanswer, hanswers]
      · intro now hnow _
        exact hrun now (fun t' ht' => hnow t' (List.mem_cons_of_mem _ ht'))
          (h.later hleft (hnow _ List.mem_cons_self))
    | inr asked =>
      have hasked : d.ask asked (d.ask asked s) = d.ask asked s' :=
        (h.again s (le_refl asked)).trans hfirst
      obtain ⟨hanswers, hrun⟩ := onward hasked
      refine ⟨hanswers, ?_⟩
      intro now hnow hsame
      have hbefore : asked ≤ now := hnow _ List.mem_cons_self
      exact hrun now (fun t' ht' => hnow t' (List.mem_cons_of_mem _ ht'))
        ((h.again s hbefore).trans hsame)

end Unnoticed

end Asked

/-! ## Controllers -/

namespace Mode.Controller

/-- What a controller answers. -/
inductive Reply where
  | nothing
  | flag (b : Bool)
  | due (text : Option (List Char))
  deriving DecidableEq

variable [LinearOrder τ] {now later : τ}

theorem expire_of_unlocked {c : Controller τ} (h : c.isLocked now = false) :
    c.expire now = { c with lockedUntil := none } := by
  rw [expire, h]
  rfl

theorem expire_eq (c : Controller τ) (now : τ) : c.expire now = c ∨
    c.isLocked now = false ∧ c.expire now = { c with lockedUntil := none } := by
  cases h : c.isLocked now with
  | true =>
    rw [expire, h]
    exact .inl rfl
  | false => exact .inr ⟨rfl, expire_of_unlocked h⟩

theorem isLocked_expire (c : Controller τ) (h : now ≤ later) :
    (c.expire now).isLocked later = c.isLocked later := by
  obtain he | ⟨hl, he⟩ := c.expire_eq now
  · rw [he]
  · rw [he, isLocked_none rfl]
    cases hu : c.lockedUntil with
    | none => rw [isLocked_none hu]
    | some t =>
      have ht : t ≤ now := (isLocked_some hu now).1 hl
      rw [(isLocked_some hu later).2 (ht.trans h)]

/-- A lock that has run out is taken away only once. -/
theorem expire_expire (c : Controller τ) (h : now ≤ later) :
    (c.expire now).expire later = c.expire later := by
  have hl := c.isLocked_expire h
  obtain he | ⟨_, he⟩ := c.expire_eq now
  · rw [he]
  · rw [he] at hl ⊢
    rw [expire_of_unlocked (hl.symm.trans (isLocked_none rfl later)),
      expire_of_unlocked (isLocked_none rfl later)]

theorem expire_withTimer (c : Controller τ) (w : Timer τ) (now : τ) :
    ({ c with timer := w } : Controller τ).expire now = { c.expire now with timer := w } := by
  have hl : ({ c with timer := w } : Controller τ).isLocked now = c.isLocked now := rfl
  unfold expire
  rw [hl]
  split <;> rfl

variable (c : Controller τ) (now : τ)

theorem changed_expire (text : List Char) :
    (c.expire now).changed text now = (c.changed text now).expire now := by
  unfold changed
  split
  · exact (c.expire_withTimer .idle now).symm
  · exact (c.expire_withTimer (.start text now) now).symm

theorem due_expire [Sub τ] :
    (c.expire now).due now = ((c.due now).1.expire now, (c.due now).2) := by
  have hpolicy : (c.expire now).policy = c.policy := (c.expire_lockKept now).1
  unfold due
  rw [c.expire_timer now]
  split
  · rfl
  · next text since _ =>
    by_cases hlt : now - since < c.policy.debounce
    · rw [if_pos hlt, if_pos (hpolicy ▸ hlt)]
    · rw [if_neg hlt, if_neg (hpolicy ▸ hlt)]
      exact Prod.ext (c.expire_withTimer .idle now).symm rfl

theorem cleared_expire :
    ((c.expire now).cleared now).1.expire now = (c.cleared now).1.expire now ∧
      ((c.expire now).cleared now).2 = (c.cleared now).2 := by
  obtain h | ⟨hl, h⟩ := c.expire_eq now
  · rw [h]
    exact ⟨rfl, rfl⟩
  · have hidle : ({ c with timer := .idle } : Controller τ).isLocked now = false := hl
    have hnone : ({ c with lockedUntil := none, timer := .idle } : Controller τ).isLocked now =
        false := rfl
    rw [h]
    simp only [cleared, hidle, hnone, Bool.or_false, expire_of_unlocked hidle,
      expire_of_unlocked hnone]
    split
    · exact ⟨(expire_of_unlocked hidle).symm, rfl⟩
    · exact ⟨rfl, rfl⟩

theorem deliver_expire (requestedFor : List Char) (verdict : Mode) (current : List Char) :
    ((c.expire now).deliver requestedFor verdict current now).1.expire now =
        (c.deliver requestedFor verdict current now).1.expire now ∧
      ((c.expire now).deliver requestedFor verdict current now).2 =
        (c.deliver requestedFor verdict current now).2 := by
  simp only [deliver, isLocked_expire c (le_refl now), expire_expire c (le_refl now), expire_mode]
  split
  · exact ⟨c.expire_expire le_rfl, rfl⟩
  · split
    · exact ⟨c.expire_expire le_rfl, rfl⟩
    · exact ⟨rfl, rfl⟩

theorem deliverNamed_expire (requestedFor : List Char) (verdict : Json) (current : List Char) :
    ((c.expire now).deliverNamed requestedFor verdict current now).1.expire now =
        (c.deliverNamed requestedFor verdict current now).1.expire now ∧
      ((c.expire now).deliverNamed requestedFor verdict current now).2 =
        (c.deliverNamed requestedFor verdict current now).2 := by
  simp only [deliverNamed, isLocked_expire c (le_refl now), expire_expire c (le_refl now)]
  split
  · next m _ =>
    obtain ⟨hleft, hanswer⟩ := c.deliver_expire now requestedFor m current
    exact ⟨hleft, congrArg Except.ok hanswer⟩
  · split
    · exact ⟨c.expire_expire le_rfl, rfl⟩
    · exact ⟨rfl, rfl⟩

variable [Add τ] [Sub τ]

def reply (c : Controller τ) (e : Event τ) : Except Failure Reply :=
  match e.call with
  | .changed _ => .ok .nothing
  | .cleared => .ok (.flag (c.cleared e.time).2)
  | .switch v => (Mode.read v).map fun m => .flag (c.switchTo m e.time).2
  | .deliver requestedFor verdict current =>
    (c.deliverNamed requestedFor verdict current e.time).2.map .flag
  | .isLocked => .ok (.flag (c.isLocked e.time))
  | .due => .ok (.due (c.due e.time).2)

theorem after_expire (e : Event τ) :
    ((c.expire e.time).after e).expire e.time = (c.after e).expire e.time ∧
      (c.expire e.time).reply e = c.reply e := by
  obtain ⟨now, call⟩ := e
  cases call with
  | changed text =>
    refine ⟨?_, rfl⟩
    simp only [after, changed_expire, expire_expire _ (le_refl now)]
  | cleared =>
    obtain ⟨hleft, hanswer⟩ := c.cleared_expire now
    exact ⟨hleft, congrArg (fun b => Except.ok (Reply.flag b)) hanswer⟩
  | switch v =>
    have hswitch (m : Mode) : (c.expire now).switchTo m now = c.switchTo m now := by
      simp only [switchTo, expire_mode, expire_timer, (c.expire_lockKept now).1]
    refine ⟨?_, ?_⟩
    · simp only [after]
      split
      · rw [hswitch]
      · exact c.expire_expire le_rfl
    · simp only [reply, hswitch]
  | deliver requestedFor verdict current =>
    obtain ⟨hleft, hanswer⟩ := c.deliverNamed_expire now requestedFor verdict current
    exact ⟨hleft, congrArg (Except.map Reply.flag) hanswer⟩
  | isLocked =>
    refine ⟨?_, ?_⟩
    · simp only [after, expire_expire _ (le_refl now)]
    · simp only [reply, isLocked_expire _ (le_refl now)]
  | due =>
    refine ⟨?_, ?_⟩
    · simp only [after, due_expire, expire_expire _ (le_refl now)]
    · simp only [reply, due_expire]

/-- Controllers, asked whether they are locked. -/
def asked : Asked τ (Controller τ) (Event τ) (Except Failure Reply) where
  time := Event.time
  step c e := (c.after e, c.reply e)
  ask now c := c.expire now

theorem asked_unnoticed : (asked : Asked τ _ _ _).Unnoticed where
  again c _ _ h := c.expire_expire h
  left c e := (c.after_expire e).1
  answered c e := (c.after_expire e).2

end Mode.Controller

end Reckon
