import Reckon.Mode.Controller

/-
The lock of a mode controller. Only a switch by the user sets it. Every other move
leaves it as it is, or removes it once it has run out (`LockKept`), and leaves the mode
as it is unless the controller was not locked.
-/
namespace Reckon.Mode.Controller

variable {τ : Type}

/-! ## Moves that never look at the lock -/

theorem changed_mode (c : Controller τ) (text : List Char) (now : τ) :
    (c.changed text now).mode = c.mode := by
  unfold changed
  split <;> rfl

theorem due_mode [Sub τ] [LT τ] [DecidableLT τ] (c : Controller τ) (now : τ) :
    (c.due now).1.mode = c.mode := by
  unfold due
  split
  · rfl
  · split <;> rfl

theorem switchTo_mode [Add τ] (c : Controller τ) (m : Mode) (now : τ) :
    (c.switchTo m now).1.mode = m := rfl

theorem switchTo_policy [Add τ] (c : Controller τ) (m : Mode) (now : τ) :
    (c.switchTo m now).1.policy = c.policy := rfl

theorem switchTo_lockedUntil [Add τ] (c : Controller τ) (m : Mode) (now : τ) :
    (c.switchTo m now).1.lockedUntil = some (now + c.policy.cooldown) := rfl

/-! ## The lock -/

variable [LE τ] [DecidableLE τ]

/-- The lock and the policy after a move that is no switch: the lock is as it was, or it
had run out and is gone. -/
def LockKept (now : τ) (c c' : Controller τ) : Prop :=
  c'.policy = c.policy ∧
    (c'.lockedUntil = c.lockedUntil ∨ c.isLocked now = false ∧ c'.lockedUntil = none)

namespace LockKept

variable {now : τ} {a b c : Controller τ}

theorem refl (c : Controller τ) : LockKept now c c := ⟨rfl, .inl rfl⟩

theorem of_eq (hp : b.policy = a.policy) (hl : b.lockedUntil = a.lockedUntil) :
    LockKept now a b := ⟨hp, .inl hl⟩

end LockKept

theorem isLocked_congr {c c' : Controller τ} (h : c'.lockedUntil = c.lockedUntil) (now : τ) :
    c'.isLocked now = c.isLocked now := by
  simp only [isLocked, h]

theorem isLocked_none {c : Controller τ} (h : c.lockedUntil = none) (now : τ) :
    c.isLocked now = false := by
  simp only [isLocked, h]

theorem isLocked_some {c : Controller τ} {t : τ} (h : c.lockedUntil = some t) (now : τ) :
    c.isLocked now = false ↔ t ≤ now := by
  simp [isLocked, h]

theorem LockKept.isLocked {now : τ} {c c' : Controller τ} (h : LockKept now c c') :
    c'.isLocked now = c.isLocked now := by
  obtain ⟨_, hl | ⟨hf, hl⟩⟩ := h
  · exact isLocked_congr hl now
  · rw [isLocked_none hl, hf]

theorem LockKept.trans {now : τ} {a b c : Controller τ} (hab : LockKept now a b)
    (hbc : LockKept now b c) : LockKept now a c := by
  obtain ⟨hp, hl⟩ := hab
  obtain ⟨hp', hl'⟩ := hbc
  refine ⟨hp'.trans hp, ?_⟩
  rcases hl with hl | ⟨hf, hl⟩
  · rw [isLocked_congr hl, hl] at hl'
    exact hl'
  · rcases hl' with hl' | ⟨_, hl'⟩
    · exact .inr ⟨hf, hl'.trans hl⟩
    · exact .inr ⟨hf, hl'⟩

/-! ## Moves that are no switch -/

theorem expire_lockKept (c : Controller τ) (now : τ) : LockKept now c (c.expire now) := by
  unfold expire
  cases h : c.isLocked now with
  | true => exact .refl c
  | false => exact ⟨rfl, .inr ⟨h, rfl⟩⟩

@[simp] theorem expire_mode (c : Controller τ) (now : τ) : (c.expire now).mode = c.mode := by
  unfold expire
  split <;> rfl

theorem changed_lockKept (c : Controller τ) (text : List Char) (now : τ) :
    LockKept now c (c.changed text now) := by
  unfold changed
  split <;> exact .of_eq rfl rfl

theorem due_lockKept [Sub τ] [LT τ] [DecidableLT τ] (c : Controller τ) (now : τ) :
    LockKept now c (c.due now).1 := by
  unfold due
  split
  · exact .refl c
  · split
    · exact .refl c
    · exact .of_eq rfl rfl

theorem cleared_lockKept (c : Controller τ) (now : τ) : LockKept now c (c.cleared now).1 := by
  have h : LockKept now c { c with timer := .idle } := .of_eq rfl rfl
  simp only [cleared]
  split
  · exact h
  · exact h.trans ((expire_lockKept _ now).trans (.of_eq rfl rfl))

/-- Clearing the text changes the mode only back to standard, where the policy says so and
the controller is not locked. -/
theorem cleared_mode (c : Controller τ) (now : τ) :
    (c.cleared now).1.mode =
      if c.policy.revertOnClear = true ∧ c.isLocked now = false then .standard else c.mode := by
  unfold cleared
  have hl : ({ c with timer := .idle } : Controller τ).isLocked now = c.isLocked now := rfl
  cases hr : c.policy.revertOnClear <;> cases h : c.isLocked now <;> simp [hr, hl, h]

theorem deliver_lockKept (c : Controller τ) (requestedFor current : List Char) (v : Mode)
    (now : τ) :
    LockKept now c (c.deliver requestedFor v current now).1 := by
  unfold deliver
  split
  · exact .refl c
  · split
    · exact .refl c
    · exact (expire_lockKept c now).trans (.of_eq rfl rfl)

/-- A verdict is taken over if its text is the current one, not empty, and the controller
is not locked. -/
theorem deliver_mode (c : Controller τ) (requestedFor current : List Char) (v : Mode) (now : τ) :
    (c.deliver requestedFor v current now).1.mode =
      if requestedFor = current ∧ current ≠ [] ∧ c.isLocked now = false then v else c.mode := by
  unfold deliver
  by_cases hr : requestedFor = current
  · cases hc : current.isEmpty <;> cases h : c.isLocked now <;> simp_all
  · simp [hr]

theorem deliverNamed_ok {verdict : Json} {m : Mode} (h : Mode.read verdict = .ok m)
    (c : Controller τ) (requestedFor current : List Char) (now : τ) :
    (c.deliverNamed requestedFor verdict current now).1 =
      (c.deliver requestedFor m current now).1 := by
  simp only [deliverNamed, h]

/-- A verdict that names no mode can only remove a lock that has run out. -/
theorem deliverNamed_error {verdict : Json} {e : Failure} (h : Mode.read verdict = .error e)
    (c : Controller τ) (requestedFor current : List Char) (now : τ) :
    (c.deliverNamed requestedFor verdict current now).1 = c ∨
      (c.deliverNamed requestedFor verdict current now).1 = c.expire now := by
  simp only [deliverNamed, h]
  split
  · exact .inl rfl
  · exact .inr rfl

end Reckon.Mode.Controller
