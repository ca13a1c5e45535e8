import Reckon.Fault

/-
The mode in force and when it may change. A switch by the user locks automatic
switching for a while. A changed text waits until input has been quiet long enough;
then it is due to be classified, and the verdict applies if the text is still there
and switching is not locked. Times are values of any ordered type `τ`.
-/
namespace Reckon.Mode

/-- How long a lock lasts, how long input must be quiet, and whether clearing the text
leads back to standard mode. -/
structure Policy (τ : Type) where
  cooldown : τ
  debounce : τ
  revertOnClear : Bool

/-- The text that waits to be classified, if one does, and the time of the last change. A text
never waits without its time; the time alone may be left over from a text that was given up. -/
structure Timer (τ : Type) where
  text : Option (List Char) := none
  since : Option τ := none
  timed : text.isSome → since.isSome := by exact id

def Timer.idle {τ : Type} : Timer τ := {}

/-- The mode in force, the end of the lock if there is one, and the waiting text. -/
structure Controller (τ : Type) where
  mode : Mode
  policy : Policy τ
  lockedUntil : Option τ := none
  timer : Timer τ := .idle

namespace Timer

variable {τ : Type}

def start (text : List Char) (now : τ) : Timer τ := { text := some text, since := some now }

/-- No text waits any more; the time stays. -/
def giveUp (w : Timer τ) : Timer τ := { w with text := none, timed := by simp }

/-- The text that waits, and since when. -/
def waiting? (w : Timer τ) : Option (List Char × τ) :=
  match h : w.text with
  | none => none
  | some text => some (text, w.since.get (w.timed (by simp [h])))

end Timer

namespace Controller

variable {τ : Type}

section Lock

variable [LE τ] [DecidableLE τ]

/-- Automatic switching is locked at a time. -/
def isLocked (c : Controller τ) (now : τ) : Bool :=
  match c.lockedUntil with
  | none => false
  | some t => !decide (t ≤ now)

/-- The controller without a lock that has run out. -/
def expire (c : Controller τ) (now : τ) : Controller τ :=
  if c.isLocked now then c else { c with lockedUntil := none }

/-- A verdict for the text `requestedFor` applies if that text is the current one, not
empty, and switching is not locked. The flag tells whether the mode changed; a lock that
has run out is removed. -/
def deliver (c : Controller τ) (requestedFor : List Char) (verdict : Mode) (current : List Char)
    (now : τ) : Controller τ × Bool :=
  if requestedFor ≠ current || current.isEmpty then (c, false)
  else if c.isLocked now then (c, false)
  else ({ c.expire now with mode := verdict }, verdict ≠ c.mode)

/-- The text was cleared: nothing waits any more, and where the policy says so the mode
goes back to standard unless switching is locked. The flag tells whether it did. -/
def cleared (c : Controller τ) (now : τ) : Controller τ × Bool :=
  let c := { c with timer := .idle }
  if !c.policy.revertOnClear || c.isLocked now then (c, false)
  else ({ c.expire now with mode := .standard }, c.mode = .scientific)

end Lock

/-- The user switches the mode. The flag tells whether it changed. -/
def switchTo [Add τ] (c : Controller τ) (mode : Mode) (now : τ) : Controller τ × Bool :=
  ({ c with mode := mode, lockedUntil := some (now + c.policy.cooldown), timer := c.timer.giveUp },
    mode ≠ c.mode)

/-- The text changed; it waits from now on, unless it is empty. -/
def changed (c : Controller τ) (text : List Char) (now : τ) : Controller τ :=
  if text.isEmpty then { c with timer := .idle }
  else { c with timer := .start text now }

/-- The text that is due to be classified, if input has been quiet long enough; it does
not wait any more then. -/
def due [Sub τ] [LT τ] [DecidableLT τ] (c : Controller τ) (now : τ) :
    Controller τ × Option (List Char) :=
  match c.timer.waiting? with
  | none => (c, none)
  | some (text, since) =>
    if now - since < c.policy.debounce then (c, none)
    else ({ c with timer := .idle }, some text)

end Controller

/-! ## Verdicts given by name -/

variable {τ : Type} [LE τ] [DecidableLE τ]

/-- A verdict that is the name of a mode. The name is read only when the verdict would
apply. -/
def Controller.deliverNamed (c : Controller τ) (requestedFor : List Char) (verdict : Json)
    (current : List Char) (now : τ) : Controller τ × Except Failure Bool :=
  match Mode.read verdict with
  | .ok m =>
    let (c, changed) := c.deliver requestedFor m current now
    (c, .ok changed)
  | .error e =>
    if requestedFor ≠ current || current.isEmpty || c.isLocked now then (c, .ok false)
    else (c.expire now, .error e)

end Reckon.Mode
