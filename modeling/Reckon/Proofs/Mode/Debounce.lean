import Mathlib.Order.Lattice
import Reckon.Proofs.Mode.Lock

/-
When a text is due. A controller keeps the waiting text and the time of its last change in two
places, and its moves reset them in different ways: a switch by the user takes away the text
alone, while clearing the text and handing it out take away both. Seen from outside only the
latest of these moves counts. `log` keeps the moves that matter to the waiting text, and every
move keeps the timer to the log (`Keeps`, `after_keeps`): a text waits since a time exactly where
the latest entry is its change at that time. So what is due can be read off the log
(`due_iff_latest`).
-/
namespace Reckon.Mode

variable {τ : Type}

theorem Timer.waiting?_eq_some_iff {w : Timer τ} {text : List Char} {t : τ} :
    w.waiting? = some (text, t) ↔ w.text = some text ∧ w.since = some t := by
  unfold waiting?
  split
  · next h => simp [h]
  · next text' h =>
    have hs : w.since.isSome := w.timed (by simp [h])
    simp [h, hs, Option.eq_some_iff_get_eq]

theorem Timer.waiting?_eq_none_iff {w : Timer τ} : w.waiting? = none ↔ w.text = none := by
  unfold waiting?
  split
  · next h => simp [h]
  · next h => simp [h]

theorem Timer.waiting?_idle : (Timer.idle : Timer τ).waiting? = none := rfl

namespace Controller

/-! ## The timer after a move -/

theorem switchTo_waiting [Add τ] (c : Controller τ) (m : Mode) (now : τ) :
    (c.switchTo m now).1.timer.waiting? = none := rfl

theorem changed_timer (c : Controller τ) (text : List Char) (now : τ) :
    (c.changed text now).timer = if text = [] then .idle else .start text now := by
  cases text <;> rfl

theorem due_timer [Sub τ] [LT τ] [DecidableLT τ] (c : Controller τ) (now : τ) :
    (c.due now).2 = none ∧ (c.due now).1.timer = c.timer ∨
      (∃ text, (c.due now).2 = some text ∧ c.timer.text = some text) ∧
        (c.due now).1.timer = .idle := by
  unfold due
  split
  · exact .inl ⟨rfl, rfl⟩
  · next text since h =>
    split
    · exact .inl ⟨rfl, rfl⟩
    · exact .inr ⟨⟨text, rfl, (Timer.waiting?_eq_some_iff.1 h).1⟩, rfl⟩

/-- A text is due if it waits and its time lies far enough back. -/
theorem due_eq_some_iff [Sub τ] [LinearOrder τ] {c : Controller τ} {now : τ} {text : List Char} :
    (c.due now).2 = some text ↔
      ∃ t, c.timer.waiting? = some (text, t) ∧ c.policy.debounce ≤ now - t := by
  unfold due
  split
  · next h => simp [h]
  · next text' since h =>
    rw [h]
    by_cases hlt : now - since < c.policy.debounce
    · rw [if_pos hlt]
      refine ⟨nofun, ?_⟩
      rintro ⟨t, ht, hle⟩
      obtain ⟨rfl, rfl⟩ : text' = text ∧ since = t := by simpa using ht
      exact absurd hle (not_le.2 hlt)
    · rw [if_neg hlt]
      refine ⟨?_, ?_⟩
      · intro ht
        obtain rfl : text' = text := by simpa using ht
        exact ⟨since, rfl, not_lt.1 hlt⟩
      · rintro ⟨t, ht, _⟩
        obtain ⟨rfl, _⟩ : text' = text ∧ since = t := by simpa using ht
        rfl

section Order

variable [LE τ] [DecidableLE τ]

theorem expire_timer (c : Controller τ) (now : τ) : (c.expire now).timer = c.timer := by
  unfold expire
  split <;> rfl

theorem cleared_timer (c : Controller τ) (now : τ) : (c.cleared now).1.timer = .idle := by
  simp only [cleared]
  split
  · rfl
  · exact expire_timer { c with timer := .idle } now

theorem deliver_timer (c : Controller τ) (requestedFor : List Char) (m : Mode)
    (current : List Char) (now : τ) :
    (c.deliver requestedFor m current now).1.timer = c.timer := by
  unfold deliver
  split
  · rfl
  · split
    · rfl
    · exact c.expire_timer now

theorem deliverNamed_timer (c : Controller τ) (requestedFor : List Char) (verdict : Json)
    (current : List Char) (now : τ) :
    (c.deliverNamed requestedFor verdict current now).1.timer = c.timer := by
  cases h : Mode.read verdict with
  | ok m =>
    rw [deliverNamed_ok h]
    exact c.deliver_timer requestedFor m current now
  | error e =>
    obtain h | h := deliverNamed_error h c requestedFor current now
    · rw [h]
    · rw [h, expire_timer]

end Order

/-! ## The log -/

/-- What matters to the waiting text: its changes, and what takes it away. -/
inductive Entry (τ : Type) where
  | changed (text : List Char) (time : τ)
  | cleared
  | switched
  | handedOut

/-- The timer says what the log says: a text waits since a time exactly where the latest entry
is its change at that time, and it is not empty. -/
def Keeps (c : Controller τ) (entries : List (Entry τ)) : Prop :=
  ∀ text t, c.timer.waiting? = some (text, t) ↔
    entries.getLast? = some (.changed text t) ∧ text ≠ []

theorem Keeps.of_timer {c c' : Controller τ} {entries : List (Entry τ)} (h : c.Keeps entries)
    (ht : c'.timer = c.timer) : c'.Keeps entries := by
  intro text t
  rw [ht]
  exact h text t

/-- Nothing waits behind an entry that is no change. -/
theorem keeps_of_none {c : Controller τ} {entries : List (Entry τ)} {entry : Entry τ}
    (h : c.timer.waiting? = none) (he : ∀ text t, entry ≠ .changed text t) :
    c.Keeps (entries ++ [entry]) := by
  intro text t
  rw [h, List.getLast?_concat]
  simp [he text t]

theorem keeps_changed (c : Controller τ) (entries : List (Entry τ)) (text : List Char) (now : τ) :
    (c.changed text now).Keeps (entries ++ [.changed text now]) := by
  intro text' t
  rw [changed_timer, List.getLast?_concat]
  by_cases hx : text = []
  · subst hx
    rw [if_pos rfl]
    refine ⟨nofun, ?_⟩
    rintro ⟨hc, hne⟩
    cases hc
    exact absurd rfl hne
  · rw [if_neg hx, Timer.waiting?_eq_some_iff]
    simp only [Timer.start, Option.some.injEq, Entry.changed.injEq]
    refine ⟨?_, And.left⟩
    rintro ⟨rfl, rfl⟩
    exact ⟨⟨rfl, rfl⟩, hx⟩

/-! ## Runs -/

/-- A controller that was just made. -/
def opened (policy : Policy τ) (m : Mode) : Controller τ := { mode := m, policy := policy }

/-- What can be asked of a controller. Modes are given by their names. -/
inductive Call where
  | changed (text : List Char)
  | cleared
  | switch (mode : Json)
  | deliver (requestedFor : List Char) (verdict : Json) (current : List Char)
  | isLocked
  | due

/-- A call and its time. -/
structure Event (τ : Type) where
  time : τ
  call : Call

variable [Add τ] [Sub τ] [LinearOrder τ]

/-- The controller after an event. Asking whether it is locked removes a lock that has run
out; a switch to an unknown mode is refused. -/
def after (c : Controller τ) (e : Event τ) : Controller τ :=
  match e.call with
  | .changed text => c.changed text e.time
  | .cleared => (c.cleared e.time).1
  | .switch v =>
    match Mode.ofJson? v with
    | some m => (c.switchTo m e.time).1
    | none => c
  | .deliver requestedFor verdict current =>
    (c.deliverNamed requestedFor verdict current e.time).1
  | .isLocked => c.expire e.time
  | .due => (c.due e.time).1

def run (c : Controller τ) (es : List (Event τ)) : Controller τ := es.foldl after c

/-- What is logged of an event: a call for a due text only if it hands one out, and a switch
only if there is such a mode. -/
def entry? (c : Controller τ) (e : Event τ) : Option (Entry τ) :=
  match e.call with
  | .changed text => some (.changed text e.time)
  | .cleared => some .cleared
  | .switch v => (Mode.ofJson? v).map fun _ => .switched
  | .due => (c.due e.time).2.map fun _ => .handedOut
  | .deliver .. | .isLocked => none

/-- What is logged of events, in their order. -/
def log (c : Controller τ) : List (Event τ) → List (Entry τ)
  | [] => []
  | e :: es => (c.entry? e).toList ++ (c.after e).log es

theorem after_keeps {c : Controller τ} {entries : List (Entry τ)} (h : c.Keeps entries)
    (e : Event τ) : (c.after e).Keeps (entries ++ (c.entry? e).toList) := by
  obtain ⟨now, call⟩ := e
  -- What is not logged leaves the timer as it was.
  have silent {c' : Controller τ} (ht : c'.timer = c.timer) : c'.Keeps (entries ++ []) := by
    rw [List.append_nil]
    exact h.of_timer ht
  cases call with
  | changed text => exact keeps_changed c entries text now
  | cleared =>
    have ht : (c.cleared now).1.timer.waiting? = none := by
      rw [cleared_timer, Timer.waiting?_idle]
    exact keeps_of_none ht nofun
  | switch v =>
    simp only [after, entry?]
    cases Mode.ofJson? v with
    | some m => exact keeps_of_none (c.switchTo_waiting m now) nofun
    | none => exact silent rfl
  | deliver requestedFor verdict current =>
    exact silent (c.deliverNamed_timer requestedFor verdict current now)
  | isLocked => exact silent (c.expire_timer now)
  | due =>
    simp only [after, entry?]
    obtain ⟨hnone, ht⟩ | ⟨⟨text, hsome, _⟩, ht⟩ := c.due_timer now
    · rw [hnone]
      exact silent ht
    · rw [hsome]
      exact keeps_of_none (by rw [ht, Timer.waiting?_idle]) nofun

theorem run_keeps {c : Controller τ} {entries : List (Entry τ)} (h : c.Keeps entries)
    (es : List (Event τ)) : (c.run es).Keeps (entries ++ c.log es) := by
  induction es generalizing c entries with
  | nil =>
    rw [log, List.append_nil]
    exact h
  | cons e es ih =>
    rw [log, ← List.append_assoc]
    exact ih (after_keeps h e)

theorem after_policy (c : Controller τ) (e : Event τ) : (c.after e).policy = c.policy := by
  unfold after
  split
  · exact (c.changed_lockKept _ e.time).1
  · exact (c.cleared_lockKept e.time).1
  · split <;> rfl
  · next requestedFor verdict current _ =>
    cases h : Mode.read verdict with
    | ok m =>
      rw [deliverNamed_ok h]
      exact (c.deliver_lockKept requestedFor current m e.time).1
    | error f =>
      obtain h | h := deliverNamed_error h c requestedFor current e.time
      · rw [h]
      · rw [h]
        exact (c.expire_lockKept e.time).1
  · exact (c.expire_lockKept e.time).1
  · exact (c.due_lockKept e.time).1

theorem run_policy (c : Controller τ) (es : List (Event τ)) : (c.run es).policy = c.policy := by
  induction es generalizing c with
  | nil => rfl
  | cons e es ih => exact (ih (c.after e)).trans (c.after_policy e)

/-- Whatever was asked of a controller and at what times: a text is due exactly where the latest
entry of the log is a change to it, it is not empty, and input has been quiet since for as long
as it must. A text that waits has the time of that change beside it. -/
theorem due_iff_latest (policy : Policy τ) (m : Mode) (es : List (Event τ)) :
    (∀ now text, (((opened policy m).run es).due now).2 = some text ↔
      ∃ t, ((opened policy m).log es).getLast? = some (.changed text t) ∧ text ≠ [] ∧
        policy.debounce ≤ now - t) ∧
    ∀ text, ((opened policy m).run es).timer.text = some text →
      ∃ t, ((opened policy m).run es).timer.since = some t ∧
        ((opened policy m).log es).getLast? = some (.changed text t) := by
  have start : (opened policy m).Keeps [] := by
    intro text t
    exact ⟨nofun, nofun⟩
  have keeps : ((opened policy m).run es).Keeps ((opened policy m).log es) := run_keeps start es
  have hpolicy : ((opened policy m).run es).policy = policy := run_policy _ es
  refine ⟨?_, ?_⟩
  · intro now text
    rw [due_eq_some_iff, hpolicy]
    simp only [keeps text, and_assoc]
  · intro text htext
    cases hw : ((opened policy m).run es).timer.waiting? with
    | none =>
      rw [Timer.waiting?_eq_none_iff.1 hw] at htext
      cases htext
    | some p =>
      obtain ⟨text', t⟩ := p
      obtain ⟨htext', hsince⟩ := Timer.waiting?_eq_some_iff.1 hw
      obtain rfl : text' = text := Option.some.inj (htext'.symm.trans htext)
      exact ⟨t, hsince, ((keeps text' t).1 hw).1⟩

/-- A text is changed and the mode switched: the time of the change is left over. -/
def switchedAway : List (Event ℤ) :=
  [⟨0, .changed "5".toList⟩, ⟨1, .switch (.string "Scientific")⟩]

example : ((opened ⟨2, 1, false⟩ .standard).run switchedAway).timer.since = some 0 ∧
    (((opened ⟨2, 1, false⟩ .standard).run switchedAway).due 9).2 = none := by
  decide

end Controller

end Reckon.Mode
